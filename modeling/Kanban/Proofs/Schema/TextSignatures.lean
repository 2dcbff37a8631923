/-
Signatures that are texts.  Any value can be declared as a signature, but only of a text can
something be made.  A list of signatures is gone through in order, and the first of them that
is no text is what goes wrong, if one does.
-/
import Kanban.Schema.Document

namespace Kanban

/-- A value that cannot stand as a signature. -/
def Value.isWrong (value : Value) : Bool :=
  value.text?.isNone

/-- The signatures among declared values, without the blanks around them. -/
def signatureTexts (signatures : List Value) : List String :=
  signatures.filterMap fun signature => signature.text?.map stripped

/-- A step that makes something of a text and is at a loss with any other value. -/
structure AsksText {A : Type} (step : Value → Except NotText A) (make : String → A) : Prop where
  text : ∀ text, step (.text text) = .ok (make text)
  wrong : ∀ value : Value, value.isWrong = true → step value = .error ⟨value⟩

variable {A : Type} {step : Value → Except NotText A} {make : String → A}
  {signatures : List Value}

theorem signatureTexts_eq_map (signatures : List Value) :
    signatureTexts signatures = (signatures.filterMap Value.text?).map stripped :=
  List.map_filterMap.symm

theorem find?_isWrong_eq_none_iff : signatures.find? Value.isWrong = none ↔
    ∀ signature ∈ signatures, signature.text?.isSome = true := by
  simp [Value.isWrong, Option.isSome_iff_ne_none]

/-- All signatures are made something of, or the first wrong one is told. -/
theorem AsksText.mapM_eq (hstep : AsksText step make) (signatures : List Value) :
    signatures.mapM step = (signatures.find? Value.isWrong).elim
      (.ok ((signatures.filterMap Value.text?).map make)) (fun value => .error ⟨value⟩) := by
  induction signatures with
  | nil => rfl
  | cons signature rest ih =>
      rw [List.mapM_cons, List.find?_cons, ih]
      cases hwrong : signature.isWrong with
      | true =>
          rw [hstep.wrong signature hwrong]
          rfl
      | false =>
          cases signature with
          | text text =>
              rw [hstep.text]
              cases rest.find? Value.isWrong <;> rfl
          | _ => cases hwrong

theorem asksText_signatureText : AsksText signatureText stripped where
  text := fun _ => rfl
  wrong := by
    intro value hwrong
    cases value with
    | text text => cases hwrong
    | _ => rfl

end Kanban
