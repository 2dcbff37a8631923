/-
Blocks of lines.  Lines are joined by a break and blocks by two, so a text of blocks
is a text of lines in which an empty one stands between blocks.  Where no line holds
a break and none is empty, the text tells its blocks.
-/
import Mathlib.Data.List.Basic
import Kanban.Text.Split

namespace Kanban

variable {A : Type} {mark : A}

theorem mem_intercalate {separator x : A} {parts : List (List A)}
    (hx : x ∈ [separator].intercalate parts) : x = separator ∨ ∃ part ∈ parts, x ∈ part := by
  induction parts with
  | nil => simp at hx
  | cons part rest ih =>
      cases rest with
      | nil => exact Or.inr ⟨part, List.mem_cons_self, by simpa using hx⟩
      | cons next rest =>
          rw [List.intercalate_cons_cons, List.mem_append, List.mem_append,
            List.mem_singleton] at hx
          rcases hx with (hpart | hsep) | hrest
          · exact Or.inr ⟨part, List.mem_cons_self, hpart⟩
          · exact Or.inl hsep
          · exact (ih hrest).imp_right fun ⟨found, hfound, hmem⟩ =>
              ⟨found, List.mem_cons_of_mem part hfound, hmem⟩

theorem intercalate_append {separator : List A} {front back : List (List A)} (hfront : front ≠ [])
    (hback : back ≠ []) : separator.intercalate (front ++ back) =
      separator.intercalate front ++ separator ++ separator.intercalate back := by
  induction front with
  | nil => exact absurd rfl hfront
  | cons part rest ih =>
      cases rest with
      | nil =>
          rw [List.singleton_append, List.intercalate_cons_of_ne_nil hback,
            List.intercalate_singleton]
      | cons next rest =>
          rw [List.cons_append, List.cons_append, List.intercalate_cons_cons, ← List.cons_append,
            ih (List.cons_ne_nil next rest), List.intercalate_cons_cons]
          simp only [List.append_assoc]

theorem intercalate_ne_nil {separator : List A} {parts : List (List A)} (hparts : parts ≠ [])
    (hfilled : ∀ part ∈ parts, part ≠ []) : separator.intercalate parts ≠ [] := by
  obtain ⟨part, rest, rfl⟩ := List.exists_cons_of_ne_nil hparts
  have hpart := hfilled part List.mem_cons_self
  cases rest with
  | nil => rwa [List.intercalate_singleton]
  | cons next rest => simp [List.intercalate_cons_cons, hpart]

/-- Two breaks between blocks are an empty line between their lines. -/
theorem intercalate_blocks {blocks : List (List (List A))} (hfilled : ∀ block ∈ blocks, block ≠ []) :
    [mark, mark].intercalate (blocks.map fun block => [mark].intercalate block) =
      [mark].intercalate ([[]].intercalate blocks) := by
  induction blocks with
  | nil => simp
  | cons block rest ih =>
      obtain ⟨hblock, hrest⟩ := List.forall_mem_cons.mp hfilled
      cases rest with
      | nil => simp
      | cons next rest =>
          have hlines : [[]].intercalate (next :: rest) ≠ [] :=
            intercalate_ne_nil (List.cons_ne_nil next rest) hrest
          rw [List.map_cons, List.intercalate_cons_of_ne_nil (by simp), ih hrest,
            List.intercalate_cons_cons, List.append_assoc block,
            intercalate_append hblock (by simp), List.singleton_append,
            List.intercalate_cons_of_ne_nil hlines]
          simp

/-- Blocks of lines that hold no break, with lines in every block and none of them
empty. -/
structure Separable (mark : A) (blocks : List (List (List A))) : Prop where
  filled : ∀ block ∈ blocks, block ≠ []
  lines : ∀ block ∈ blocks, ∀ line ∈ block, line ≠ [] ∧ mark ∉ line

/-- A text of separable blocks tells its blocks. -/
theorem Separable.inj [DecidableEq A] {blocks others : List (List (List A))}
    (hblocks : Separable mark blocks) (hothers : Separable mark others) (hsome : blocks ≠ [])
    (hsome' : others ≠ [])
    (htext : [mark, mark].intercalate (blocks.map fun block => [mark].intercalate block) =
      [mark, mark].intercalate (others.map fun block => [mark].intercalate block)) :
    blocks = others := by
  have hlines {blocks : List (List (List A))} (hblocks : Separable mark blocks) :
      ∀ line ∈ [[]].intercalate blocks, mark ∉ line := by
    intro line hline
    rcases mem_intercalate hline with rfl | ⟨block, hblock, hmem⟩
    · exact List.not_mem_nil
    · exact (hblocks.lines block hblock line hmem).2
  have hblank {blocks : List (List (List A))} (hblocks : Separable mark blocks) :
      ∀ block ∈ blocks, [] ∉ block :=
    fun block hblock hmem => (hblocks.lines block hblock [] hmem).1 rfl
  rw [intercalate_blocks hblocks.filled, intercalate_blocks hothers.filled] at htext
  -- The breaks tell the lines apart, and then the empty lines the blocks.
  have hjoined : [[]].intercalate blocks = [[]].intercalate others := by
    rw [← List.splitOn_intercalate mark (hlines hblocks) (intercalate_ne_nil hsome hblocks.filled),
      htext, List.splitOn_intercalate mark (hlines hothers)
        (intercalate_ne_nil hsome' hothers.filled)]
  rw [← List.splitOn_intercalate [] (hblank hblocks) hsome, hjoined,
    List.splitOn_intercalate [] (hblank hothers) hsome']

/-- A text splits at a break into what its two sides split into. -/
theorem splitChars_append_cons (mark : Char) (front back : List Char) :
    splitChars mark (front ++ mark :: back) = splitChars mark front ++ splitChars mark back := by
  induction front with
  | nil => simp [splitChars]
  | cons c rest ih =>
      by_cases hc : c = mark
      · simp [splitChars, hc, ih]
      · obtain ⟨part, others, hparts⟩ := List.exists_cons_of_ne_nil (splitChars_ne_nil mark rest)
        simp [splitChars, hc, ih, hparts]

/-- How often a line stands in a text. -/
def lineCount (line text : String) : Nat :=
  (splitText '\n' text).count line

/-- How often a line stands in several texts together. -/
def lineCounts (line : String) (texts : List String) : Nat :=
  (texts.flatMap (splitText '\n')).count line

section

variable {line : String} {texts : List String}

theorem lineCounts_cons (line text : String) (texts : List String) :
    lineCounts line (text :: texts) = lineCount line text + lineCounts line texts := by
  rw [lineCounts, List.flatMap_cons, List.count_append]
  rfl

theorem lineCounts_append (line : String) (texts others : List String) :
    lineCounts line (texts ++ others) = lineCounts line texts + lineCounts line others := by
  rw [lineCounts, List.flatMap_append, List.count_append]
  rfl

theorem lineCounts_eq_zero (hnone : ∀ text ∈ texts, lineCount line text = 0) :
    lineCounts line texts = 0 := by
  induction texts with
  | nil => rfl
  | cons text rest ih =>
      obtain ⟨htext, hrest⟩ := List.forall_mem_cons.mp hnone
      rw [lineCounts_cons, htext, ih hrest]

theorem lineCount_append_break (line front back : String) :
    lineCount line (front ++ "\n" ++ back) = lineCount line front + lineCount line back := by
  have htext : (front ++ "\n" ++ back).toList = front.toList ++ '\n' :: back.toList := by simp
  unfold lineCount splitText
  rw [htext, splitChars_append_cons, List.map_append, List.count_append]

/-- A text without breaks is one line. -/
theorem lineCount_of_not_mem {text : String} (htext : '\n' ∉ text.toList) :
    lineCount line text = if text = line then 1 else 0 := by
  rw [lineCount, splitText, splitChars_of_not_mem htext, List.map_singleton, String.ofList_toList,
    List.count_singleton]
  simp

theorem lineCount_empty (hline : line ≠ "") : lineCount line "" = 0 := by
  rw [lineCount_of_not_mem (by decide), if_neg hline.symm]

/-- An empty line adds nothing to the count of others. -/
theorem lineCount_append_blank (hline : line ≠ "") (front back : String) :
    lineCount line (front ++ "\n\n" ++ back) = lineCount line front + lineCount line back := by
  have hbreaks : front ++ "\n\n" ++ back = front ++ "\n" ++ "" ++ "\n" ++ back := by
    simp [String.append_assoc]
  rw [hbreaks, lineCount_append_break, lineCount_append_break, lineCount_empty hline,
    Nat.add_zero]

/-- A line that is not empty stands in joined texts as often as in all of them, if it does
so in two. -/
theorem lineCount_intercalate {separator : String} (hline : line ≠ "")
    (hjoin : ∀ front back,
      lineCount line (front ++ separator ++ back) = lineCount line front + lineCount line back)
    (texts : List String) :
    lineCount line (separator.intercalate texts) = lineCounts line texts := by
  induction texts with
  | nil => exact lineCount_empty hline
  | cons text rest ih =>
      cases rest with
      | nil => rw [String.intercalate_singleton, lineCounts_cons]; rfl
      | cons next rest => rw [String.intercalate_cons_cons, hjoin, ih, lineCounts_cons line text]

/-- In a text of blocks a line that is not empty stands as often as in their lines. -/
theorem lineCount_blocks (hline : line ≠ "") (blocks : List (List String)) :
    lineCount line ("\n\n".intercalate (blocks.map fun block => "\n".intercalate block)) =
      lineCounts line blocks.flatten := by
  rw [lineCount_intercalate hline (lineCount_append_blank hline)]
  induction blocks with
  | nil => rfl
  | cons block rest ih =>
      rw [List.map_cons, lineCounts_cons, List.flatten_cons, lineCounts_append, ih,
        lineCount_intercalate hline (lineCount_append_break line)]

end

end Kanban
