/-
Splitting characters at a separator.
-/

namespace Kanban

/-- The parts between separators; there is one more of them than there are
separators. -/
def splitChars (separator : Char) : List Char → List (List Char)
  | [] => [[]]
  | c :: rest =>
      if c = separator then [] :: splitChars separator rest
      else
        match splitChars separator rest with
        | [] => [[c]]
        | part :: others => (c :: part) :: others

theorem splitChars_ne_nil (separator : Char) (cs : List Char) :
    splitChars separator cs ≠ [] := by
  cases cs with
  | nil => simp [splitChars]
  | cons c rest =>
      by_cases hc : c = separator
      · simp [splitChars, hc]
      · simp only [splitChars, hc, ↓reduceIte]
        split <;> simp

theorem splitChars_of_not_mem {separator : Char} {cs : List Char}
    (hnot : separator ∉ cs) : splitChars separator cs = [cs] := by
  induction cs with
  | nil => rfl
  | cons c rest ih =>
      rw [List.mem_cons, not_or] at hnot
      have hc : ¬ c = separator := fun h => hnot.1 h.symm
      simp [splitChars, hc, ih hnot.2]

/-- A text as the parts between separators. -/
def splitText (separator : Char) (text : String) : List String :=
  (splitChars separator text.toList).map String.ofList

end Kanban
