/-
Generated ids.  The counter of the store numbers them, and they are ids like those that
operations name themselves.  A generated id is new among the generated ones; it is in use
where an operation named it before the counter came to it.
-/
import Kanban.Proofs.Move.Seniority

namespace Kanban

/-- A new item without an id, or with an empty one, gets a generated id. -/
def Draft.Unnamed (draft : Draft) : Prop :=
  draft.id = none ∨ draft.id = some ""

/-- An operation stores an item under an id that it names itself. -/
def Deed.Names (store : Store) (key : Kind × String) : Deed → Prop
  | .change (.create kind container draft) =>
      kind = key.1 ∧ draft.id = some key.2 ∧ (store.create kind container draft).2.isOk = true
  | .change (.upsert kind item) => (kind, item.id) = key
  | _ => False

def Deed.Deletes (key : Kind × String) : Deed → Prop
  | .change (.delete kind id) => (kind, id) = key
  | _ => False

instance (store : Store) (key : Kind × String) : (deed : Deed) → Decidable (deed.Names store key)
  | .change (.create ..) => inferInstanceAs (Decidable (_ ∧ _ ∧ _))
  | .change (.upsert ..) => inferInstanceAs (Decidable (_ = _))
  | .change (.delete ..) | .change (.write ..) | .move .. => inferInstanceAs (Decidable False)

instance (key : Kind × String) : (deed : Deed) → Decidable (deed.Deletes key)
  | .change (.delete ..) => inferInstanceAs (Decidable (_ = _))
  | .change (.create ..) | .change (.upsert ..) | .change (.write ..) | .move .. =>
      inferInstanceAs (Decidable False)

/-- In a run from a store an id is named by an operation and deleted by none after it. -/
def Named (key : Kind × String) : Store → List Deed → Prop
  | _, [] => False
  | store, deed :: rest =>
      (deed.Names store key ∧ ∀ later ∈ rest, ¬ later.Deletes key) ∨
        Named key (store.carryOut deed) rest

instance instDecidableNamed (key : Kind × String) :
    (store : Store) → (deeds : List Deed) → Decidable (Named key store deeds)
  | _, [] => inferInstanceAs (Decidable False)
  | store, deed :: rest =>
      have := instDecidableNamed key (store.carryOut deed) rest
      inferInstanceAs (Decidable (_ ∨ _))

namespace Store

variable {kind : Kind} {draft : Draft} {number later : Nat}

/-- The key of the id that is generated for a number. -/
def generated (kind : Kind) (number : Nat) : Kind × String :=
  (kind, idFor kind number none)

theorem idFor_none_injective (kind : Kind) :
    Function.Injective fun number => idFor kind number none := by
  intro number other heq
  have hdigits : number.repr.toList = other.repr.toList :=
    congrArg String.toList ((String.append_right_inj (kind.name ++ "-")).mp heq)
  rw [Nat.toList_repr, Nat.toList_repr] at hdigits
  rw [← Nat.ofDigitChars_ten_toDigits (n := number), hdigits, Nat.ofDigitChars_ten_toDigits]

theorem idFor_none_ne_empty (kind : Kind) (number : Nat) : idFor kind number none ≠ "" := by
  cases kind <;> simp [idFor, Kind.name]

theorem idFor_of_unnamed (hunnamed : draft.Unnamed) :
    idFor kind number draft.id = idFor kind number none := by
  rcases hunnamed with hid | hid
  · rw [hid]
  · rw [hid]
    rfl

/-- The generated id of a later number is an item's only if it is named. -/
theorem idFor_eq_later_iff {given : Option String} (hlt : number < later) :
    idFor kind number given = idFor kind later none ↔ given = some (idFor kind later none) := by
  have hne : idFor kind number none ≠ idFor kind later none := by
    intro heq
    exact absurd (idFor_none_injective kind heq) (Nat.ne_of_lt hlt)
  cases given with
  | none => exact iff_of_false hne (Option.some_ne_none _).symm
  | some id =>
      by_cases hempty : id = ""
      · subst hempty
        refine iff_of_false hne fun heq => ?_
        exact idFor_none_ne_empty kind later (Option.some.inj heq).symm
      · simp only [idFor, if_neg hempty, Option.some.injEq]

/-- A creation without an id that succeeds stores the new item in the place of the one under
the generated id, and one that fails stores nothing. -/
theorem create_of_unnamed (store : Store) (kind : Kind) (container : String)
    (hunnamed : draft.Unnamed) :
    let id := idFor kind (store.counter + 1) none
    let after := (store.create kind container draft).1
    (∀ item, (store.create kind container draft).2 = .ok item →
      item.id = id ∧ ∀ other key, after.get? other key =
        if (other, key) = (kind, id) then some item else store.get? other key) ∧
    ∀ cause, (store.create kind container draft).2 = .error cause → after.get? = store.get? := by
  intro id after
  have hid : idFor kind (store.counter + 1) draft.id = id := idFor_of_unnamed hunnamed
  cases hposition : store.positionFor kind container draft.position with
  | error cause =>
      refine ⟨?_, fun _ _ => get?_create_of_error hposition⟩
      intro item hitem
      rw [create_of_error hposition] at hitem
      cases hitem
  | ok position =>
      constructor
      · intro item hitem
        rw [create_of_ok hposition] at hitem
        obtain rfl := Except.ok.inj hitem
        refine ⟨hid, fun other key => ?_⟩
        rw [get?_create_of_ok hposition, drafted, hid]
      · intro cause hcause
        rw [create_of_ok hposition] at hcause
        cases hcause

theorem number?_upsert (store : Store) (kind : Kind) (item : Item) :
    ∃ seq, (store.upsert kind item).1.number? =
      Function.update store.number? (kind, item.id) (some seq) := by
  cases hget : store.get? kind item.id with
  | none =>
      obtain ⟨numbered, stored, hshelf, hid, -, -, hupsert⟩ := upsert_of_none hget
      rw [hupsert, number?_put hshelf, hid]
      exact ⟨stored.seq, rfl⟩
  | some previous =>
      rw [upsert_of_some hget, number?_put rfl]
      exact ⟨item.seq, rfl⟩

theorem counter_create (store : Store) (kind : Kind) (container : String) (draft : Draft) :
    (store.create kind container draft).1.counter = store.counter + 1 := by
  cases hposition : store.positionFor kind container draft.position with
  | error cause => rw [create_of_error hposition, takeNumber]
  | ok position => rw [create_of_ok hposition, counter_withShelf, takeNumber]

theorem counter_le_upsert (store : Store) (kind : Kind) (item : Item) :
    store.counter ≤ (store.upsert kind item).1.counter := by
  unfold upsert
  split
  · exact Nat.le_of_eq (counter_withShelf ..).symm
  · simp only [counter_withShelf]
    split
    · exact Nat.le_succ _
    · exact Nat.le_refl _

theorem counter_delete (store : Store) (kind : Kind) (id : String) :
    (store.delete kind id).1.counter = store.counter := by
  unfold delete
  split
  · rfl
  · exact counter_withShelf ..

/-- No operation turns the counter back. -/
theorem counter_le_carryOut (store : Store) (deed : Deed) :
    store.counter ≤ (store.carryOut deed).counter := by
  cases deed with
  | move policy kind request => exact Nat.le_of_eq (store.number?_move policy kind request).2.symm
  | change change =>
      cases change with
      | create kind container draft =>
          exact Nat.le_of_succ_le (Nat.le_of_eq (store.counter_create kind container draft).symm)
      | upsert kind item => exact store.counter_le_upsert kind item
      | delete kind id => exact Nat.le_of_eq (store.counter_delete kind id).symm
      | write kind batch => exact Nat.le_of_eq (store.number?_write kind batch).2.symm

theorem counter_le_foldl (store : Store) (deeds : List Deed) :
    store.counter ≤ (deeds.foldl carryOut store).counter := by
  induction deeds generalizing store with
  | nil => exact Nat.le_refl _
  | cons deed rest ih => exact Nat.le_trans (store.counter_le_carryOut deed) (ih _)

end Store

theorem update_some_ne_none_iff {A B : Type} [DecidableEq A] {f : A → Option B} {a b : A}
    {v : B} : Function.update f a (some v) b ≠ none ↔ a = b ∨ f b ≠ none := by
  by_cases hab : a = b
  · subst hab
    simp
  · rw [Function.update_of_ne (Ne.symm hab)]
    simp [hab]

/-- What every operation does to the generated id of a number that the counter has not
reached: the id is in use if the operation names it, or if it was in use and is not deleted. -/
theorem Store.inUse_carryOut_iff {store : Store} {deed : Deed} {kind : Kind} {number : Nat}
    (hlater : (store.carryOut deed).counter < number) :
    (store.carryOut deed).number? (generated kind number) ≠ none ↔
      deed.Names store (generated kind number) ∨
        (store.number? (generated kind number) ≠ none ∧
          ¬ deed.Deletes (generated kind number)) := by
  cases deed with
  | move policy other request =>
      rw [carryOut, (store.number?_move policy other request).1]
      simp [Deed.Names, Deed.Deletes]
  | change change =>
      cases change with
      | write other batch =>
          rw [carryOut, (store.number?_write other batch).1]
          simp [Deed.Names, Deed.Deletes]
      | delete other id =>
          simp only [carryOut, apply, Deed.Names, Deed.Deletes, false_or]
          unfold delete
          split
          · rename_i hget
            have hnone : store.number? (other, id) = none := by simp [number?, hget]
            refine ⟨fun hstored => ⟨hstored, ?_⟩, And.left⟩
            intro hkey
            exact hstored (hkey ▸ hnone)
          · rw [number?_erase, Function.update_apply]
            by_cases hkey : generated kind number = (other, id)
            · simp [hkey]
            · simp [hkey, Ne.symm hkey]
      | upsert other item =>
          obtain ⟨seq, hnumber⟩ := store.number?_upsert other item
          simp only [carryOut, apply, hnumber, update_some_ne_none_iff, Deed.Names,
            Deed.Deletes, not_false_eq_true, and_true]
      | create other container draft =>
          simp only [carryOut, apply, counter_create] at hlater
          simp only [carryOut, apply, Deed.Names, Deed.Deletes, not_false_eq_true, and_true]
          cases hposition : store.positionFor other container draft.position with
          | error cause =>
              rw [create_of_error hposition, number?_takeNumber]
              simp [Except.isOk, Except.toBool]
          | ok position =>
              rw [create_of_ok hposition, number?_put (funext shelf_takeNumber),
                update_some_ne_none_iff, generated, Prod.mk.injEq]
              simp only [Except.isOk, Except.toBool, and_true]
              -- The id that the creation itself generates has an earlier number.
              refine or_congr (and_congr_right ?_) Iff.rfl
              rintro rfl
              exact idFor_eq_later_iff hlater

/-- What a run does to the generated id of a number that the counter has not reached. -/
theorem Store.inUse_foldl_iff {store : Store} {deeds : List Deed} {kind : Kind} {number : Nat}
    (hlater : (deeds.foldl carryOut store).counter < number) :
    (deeds.foldl carryOut store).number? (generated kind number) ≠ none ↔
      Named (generated kind number) store deeds ∨
        (store.number? (generated kind number) ≠ none ∧
          ∀ deed ∈ deeds, ¬ deed.Deletes (generated kind number)) := by
  induction deeds generalizing store with
  | nil => simp [Named]
  | cons deed rest ih =>
      have hstep : (store.carryOut deed).counter < number :=
        Nat.lt_of_le_of_lt (counter_le_foldl _ rest) hlater
      rw [List.foldl_cons, ih hlater, inUse_carryOut_iff hstep, Named, List.forall_mem_cons]
      tauto

/-- After any run from an empty store, a creation without an id puts the new item under the
generated one and leaves what is stored under every other id.  The generated id is in use
exactly if the run named it ahead of the counter and has not deleted it since, and then what
was stored under it is lost.  After any other run the id is new and nothing is lost.  Where no
position can be found for the item, nothing changes. -/
theorem generated_id_run (deeds : List Deed) (kind : Kind) (container : String) {draft : Draft}
    (hunnamed : draft.Unnamed) :
    let store := deeds.foldl Store.carryOut Store.empty
    let id := Store.idFor kind (store.counter + 1) none
    let after := (store.create kind container draft).1
    (∀ item, (store.create kind container draft).2 = .ok item →
      item.id = id ∧ after.get? kind id = some item ∧
        ∀ other key, (other, key) ≠ (kind, id) → after.get? other key = store.get? other key) ∧
    (∀ cause, (store.create kind container draft).2 = .error cause → after.get? = store.get?) ∧
    (store.get? kind id ≠ none ↔ Named (kind, id) Store.empty deeds) ∧
    (¬ Named (kind, id) Store.empty deeds → ∀ other key stored,
      store.get? other key = some stored → after.get? other key = some stored) := by
  intro store id after
  obtain ⟨hcreated, hfailed⟩ := store.create_of_unnamed kind container hunnamed
  have hinUse : store.get? kind id ≠ none ↔ Named (kind, id) Store.empty deeds := by
    have hempty : Store.empty.number? (kind, id) = none := by cases kind <;> rfl
    have hrun : store.number? (kind, id) ≠ none ↔ Named (kind, id) Store.empty deeds ∨
        (Store.empty.number? (kind, id) ≠ none ∧ ∀ deed ∈ deeds, ¬ deed.Deletes (kind, id)) :=
      Store.inUse_foldl_iff (Nat.lt_succ_self store.counter)
    rw [Store.number?, ne_eq, Option.map_eq_none_iff] at hrun
    exact hrun.trans (or_iff_left fun hstored => hstored.1 hempty)
  refine ⟨?_, hfailed, hinUse, ?_⟩
  · intro item hitem
    obtain ⟨hitemId, hget⟩ := hcreated item hitem
    refine ⟨hitemId, ?_, fun other key hne => ?_⟩
    · rw [hget, if_pos rfl]
    · rw [hget, if_neg hne]
  · intro hnew other key stored hstored
    cases hresult : (store.create kind container draft).2 with
    | error cause => rw [hfailed cause hresult, hstored]
    | ok item =>
        have hne : (other, key) ≠ (kind, id) := by
          intro heq
          obtain ⟨rfl, rfl⟩ := Prod.mk.inj heq
          refine hnew (hinUse.mp ?_)
          rw [hstored]
          exact Option.some_ne_none stored
        rw [(hcreated item hresult).2, if_neg hne, hstored]

/-- A card is named like the one that is created after it. -/
def ahead : List Deed :=
  [.change (.create .card "a" ⟨[], some (.ofInt 1), some "card-2"⟩)]

/-- The card that was named ahead of the counter is lost. -/
theorem generated_id_run_ahead :
    let store := ahead.foldl Store.carryOut Store.empty
    let draft : Draft := ⟨[], some (.ofInt 1), none⟩
    draft.Unnamed ∧
      Store.idFor .card (store.counter + 1) none = "card-2" ∧
      Named (.card, "card-2") Store.empty ahead ∧
      store.get? .card "card-2" = some ⟨"card-2", "a", .ofInt 1, 1, []⟩ ∧
      (store.create .card "b" draft).1.get? .card "card-2" =
        some ⟨"card-2", "b", .ofInt 1, 2, []⟩ := by
  intro store draft
  have hunnamed : draft.Unnamed := .inl rfl
  obtain ⟨hcreated, -, hinUse, -⟩ := generated_id_run ahead .card "b" hunnamed
  have hstored : store.get? .card "card-2" = some ⟨"card-2", "a", .ofInt 1, 1, []⟩ := by
    decide +kernel
  refine ⟨hunnamed, by decide +kernel, ?_, hstored, ?_⟩
  · exact hinUse.mp (by decide +kernel)
  · exact (hcreated ⟨"card-2", "b", .ofInt 1, 2, []⟩ (by decide +kernel)).2.1

end Kanban
