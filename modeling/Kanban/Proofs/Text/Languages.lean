/-
Languages of scanned texts.  A scanner that takes every character of a kind splits a
text the one way it can be split, if what follows does not begin with that kind.
-/
import Mathlib.Computability.Language
import Mathlib.Data.List.TakeWhile

namespace Kanban

namespace Scan

variable {kind other : Char → Bool} {c : Char} {cs : List Char} {language : Language Char}

/-- Characters of a kind, any number of them. -/
def run (kind : Char → Bool) : Language Char :=
  {cs | ∀ c ∈ cs, kind c = true}

/-- One character of a kind. -/
def single (kind : Char → Bool) : Language Char :=
  {cs | ∃ c, kind c = true ∧ cs = [c]}

/-- One given character. -/
def char (c : Char) : Language Char :=
  single fun d => decide (d = c)

/-- Finitely many texts. -/
def oneOf (texts : List String) : Language Char :=
  {cs | ∃ text ∈ texts, cs = text.toList}

/-- No text of a language begins with a character of a kind. -/
def Avoids (kind : Char → Bool) (language : Language Char) : Prop :=
  ∀ cs ∈ language, ∀ c ∈ cs.head?, kind c = false

theorem nil_mem_run (kind : Char → Bool) : [] ∈ run kind := by
  intro c hc
  cases hc

theorem run_mul_run (kind : Char → Bool) : run kind * run kind = run kind := by
  ext cs
  constructor
  · intro hcs
    obtain ⟨front, hfront, back, hback, rfl⟩ := Language.mem_mul.mp hcs
    intro c hc
    exact (List.mem_append.mp hc).elim (hfront c) (hback c)
  · intro hcs
    exact Language.mem_mul.mpr ⟨[], nil_mem_run kind, cs, hcs, rfl⟩

section

variable {front back : List Char} (hfront : front ∈ run kind)
  (hback : ∀ c ∈ back.head?, kind c = false)

include hfront hback

theorem takeWhile_append : (front ++ back).takeWhile kind = front := by
  rw [List.takeWhile_append_of_pos hfront]
  cases back with
  | nil => simp
  | cons c back => simp [hback c rfl]

theorem dropWhile_append : (front ++ back).dropWhile kind = back := by
  rw [List.dropWhile_append_of_pos hfront]
  cases back with
  | nil => rfl
  | cons c back => simp [hback c rfl]

end

/-- What follows a run begins where the kind ends. -/
theorem mem_run_mul (hlanguage : Avoids kind language) :
    cs ∈ run kind * language ↔ cs.dropWhile kind ∈ language := by
  constructor
  · intro hcs
    obtain ⟨front, hfront, back, hback, rfl⟩ := Language.mem_mul.mp hcs
    rwa [dropWhile_append hfront (hlanguage back hback)]
  · intro hcs
    exact Language.mem_mul.mpr ⟨cs.takeWhile kind, fun c hc => List.mem_takeWhile_imp hc,
      cs.dropWhile kind, hcs, List.takeWhile_append_dropWhile⟩

theorem mem_single_mul :
    cs ∈ single kind * language ↔ ∃ c rest, kind c = true ∧ rest ∈ language ∧ cs = c :: rest := by
  constructor
  · intro hcs
    obtain ⟨front, ⟨c, hc, rfl⟩, rest, hrest, rfl⟩ := Language.mem_mul.mp hcs
    exact ⟨c, rest, hc, hrest, rfl⟩
  · rintro ⟨c, rest, hc, hrest, rfl⟩
    exact Language.mem_mul.mpr ⟨[c], ⟨c, hc, rfl⟩, rest, hrest, rfl⟩

theorem mem_char_mul : cs ∈ char c * language ↔ ∃ rest ∈ language, cs = c :: rest := by
  unfold char
  rw [mem_single_mul]
  simp

theorem oneOf_append (texts others : List String) :
    oneOf (texts ++ others) = oneOf texts + oneOf others := by
  ext cs
  rw [Language.mem_add]
  constructor
  · rintro ⟨text, htext, rfl⟩
    exact (List.mem_append.mp htext).imp (fun hmem => ⟨text, hmem, rfl⟩)
      fun hmem => ⟨text, hmem, rfl⟩
  · rintro (⟨text, htext, rfl⟩ | ⟨text, htext, rfl⟩)
    · exact ⟨text, List.mem_append_left others htext, rfl⟩
    · exact ⟨text, List.mem_append_right texts htext, rfl⟩

theorem avoids_single_mul (hapart : ∀ c, other c = true → kind c = false) :
    Avoids kind (single other * language) := by
  intro cs hcs first hfirst
  obtain ⟨c, rest, hc, -, rfl⟩ := mem_single_mul.mp hcs
  obtain rfl := Option.some.inj hfirst
  exact hapart _ hc

theorem avoids_char_mul (hc : kind c = false) : Avoids kind (char c * language) :=
  avoids_single_mul fun d hd => by rwa [of_decide_eq_true hd]

theorem avoids_run_mul (hapart : ∀ c, other c = true → kind c = false)
    (hlanguage : Avoids kind language) : Avoids kind (run other * language) := by
  intro cs hcs first hfirst
  obtain ⟨front, hfront, back, hback, rfl⟩ := Language.mem_mul.mp hcs
  cases front with
  | nil => exact hlanguage back hback first hfirst
  | cons c front =>
      obtain rfl := Option.some.inj hfirst
      exact hapart _ (hfront _ List.mem_cons_self)

theorem Avoids.add {language others : Language Char} (hlanguage : Avoids kind language)
    (hothers : Avoids kind others) : Avoids kind (language + others) := by
  intro cs hcs
  exact hcs.elim (hlanguage cs) (hothers cs)

end Scan

end Kanban
