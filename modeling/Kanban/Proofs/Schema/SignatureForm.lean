/-
The form of signatures.  A scanner goes through a signature once, from left to right,
and accepts what the form `name(arguments): Type` allows.  But each bracket and mark of
a type is optional on its own, so brackets that do not pair and repeated marks pass too.
-/
import Mathlib.Data.List.DropRight
import Kanban.Proofs.Text.Languages
import Kanban.Schema.Signature

namespace Kanban

namespace Signature

open Scan

/-- Blanks, any number of them. -/
def blanks : Language Char :=
  run isBlank

/-- A letter or an underscore, and then letters, digits and underscores. -/
def name : Language Char :=
  single isNameStart * run isNameRest

/-- A text in parentheses that holds none. -/
def arguments : Language Char :=
  char '(' * (run isArgument * char ')')

/-- A name with an end, one of some if a bracket opens before the name and one of others
if none does. -/
def typeText (plain bracketed : List String) : Language Char :=
  name * oneOf plain + char '[' * (name * oneOf bracketed)

/-- How a type ends that no bracket opens. -/
def plainEnds : List String :=
  ["", "!"]

/-- How a type ends whose bracket is closed. -/
def closedEnds : List String :=
  ["]", "!]", "]!", "!]!"]

/-- A mark that is repeated. -/
def repeatedMark : List String :=
  ["!!"]

/-- The types `N`, `N!`, `[N]`, `[N!]`, `[N]!` and `[N!]!` for a name `N`. -/
def properType : Language Char :=
  typeText plainEnds closedEnds

/-- Types with a bracket that is only closed, a bracket that is only opened, or a repeated
mark. -/
def slippedType : Language Char :=
  typeText (closedEnds ++ repeatedMark) (plainEnds ++ repeatedMark)

/-- The form `name(arguments): Type`, with arguments or without, and with blanks around every
part. -/
def form (type : Language Char) : Language Char :=
  blanks * name * blanks * (1 + arguments) * blanks * char ':' * blanks * type * blanks

variable {cs rest tail : List Char} {language : Language Char}

theorem isBlank_of_isNameRest {c : Char} (hc : isNameRest c = true) : isBlank c = false := by
  simp only [isNameRest, isNameStart, Digits.isDecimal, Bool.or_eq_true, decide_eq_true_eq] at hc
  have hplace : (48 ≤ c.toNat ∧ c.toNat ≤ 57) ∨ (65 ≤ c.toNat ∧ c.toNat ≤ 90) ∨ c.toNat = 95 ∨
      (97 ≤ c.toNat ∧ c.toNat ≤ 122) := by
    rcases hc with ((rfl | hc) | hc) | hc
    · exact Or.inr (Or.inr (Or.inl rfl))
    · exact Or.inr (Or.inl hc)
    · exact Or.inr (Or.inr (Or.inr hc))
    · exact Or.inl hc
  simp only [isBlank, blankRanges, List.any_cons, List.any_nil, Bool.or_false, Bool.or_eq_false_iff,
    decide_eq_false_iff_not]
  omega

theorem isNameRest_of_isBlank {c : Char} (hc : isBlank c = true) : isNameRest c = false := by
  by_contra hname
  rw [isBlank_of_isNameRest (by simpa using hname)] at hc
  cases hc

theorem mem_blanks_mul (hlanguage : Avoids isBlank language) :
    cs ∈ blanks * language ↔ dropBlank cs ∈ language :=
  mem_run_mul hlanguage

theorem avoids_blanks_mul (hlanguage : Avoids isNameRest language) :
    Avoids isNameRest (blanks * language) :=
  avoids_run_mul (fun _ => isNameRest_of_isBlank) hlanguage

theorem avoids_name_mul : Avoids isBlank (name * language) := by
  unfold name
  rw [mul_assoc]
  exact avoids_single_mul fun c hc => isBlank_of_isNameRest (by simp [isNameRest, hc])

/-- The name scanner takes the one name that a text can begin with. -/
theorem mem_name_mul (hlanguage : Avoids isNameRest language) :
    cs ∈ name * language ↔ ∃ rest, afterName? cs = some rest ∧ rest ∈ language := by
  unfold name
  rw [mul_assoc, mem_single_mul]
  constructor
  · rintro ⟨first, back, hfirst, hback, rfl⟩
    exact ⟨back.dropWhile isNameRest, if_pos hfirst, (mem_run_mul hlanguage).mp hback⟩
  · rintro ⟨rest, hscan, hrest⟩
    cases cs with
    | nil => cases hscan
    | cons first back =>
        rw [afterName?, Option.ite_none_right_eq_some] at hscan
        obtain ⟨hfirst, hscan⟩ := hscan
        obtain rfl := Option.some.inj hscan
        exact ⟨first, back, hfirst, (mem_run_mul hlanguage).mpr hrest, rfl⟩

/-- The argument scanner takes the text in parentheses, if one opens. -/
theorem mem_arguments_mul :
    cs ∈ arguments * language ↔
      cs.head? = some '(' ∧ ∃ rest, afterArguments? cs = some rest ∧ rest ∈ language := by
  have hclose : Avoids isArgument (char ')' * language) := avoids_char_mul (by decide)
  unfold arguments
  rw [mul_assoc, mul_assoc, mem_char_mul]
  constructor
  · rintro ⟨back, hback, rfl⟩
    obtain ⟨rest, hrest, htail⟩ := mem_char_mul.mp ((mem_run_mul hclose).mp hback)
    refine ⟨rfl, rest, ?_, hrest⟩
    simp only [afterArguments?, htail]
  · rintro ⟨hopen, rest, hscan, hrest⟩
    obtain ⟨back, rfl⟩ := List.head?_eq_some_iff.mp hopen
    refine ⟨back, (mem_run_mul hclose).mpr ?_, rfl⟩
    rw [afterArguments?] at hscan
    split at hscan
    · rename_i tail htail
      obtain rfl := Option.some.inj hscan
      exact mem_char_mul.mpr ⟨tail, hrest, htail⟩
    · cases hscan

theorem afterArguments?_of_not_open (hopen : cs.head? ≠ some '(') :
    afterArguments? cs = some cs := by
  unfold afterArguments?
  split
  · exact absurd rfl hopen
  · rfl

theorem avoids_arguments_mul {kind : Char → Bool} (hopen : kind '(' = false) :
    Avoids kind (arguments * language) := by
  unfold arguments
  rw [mul_assoc]
  exact avoids_char_mul hopen

/-- Arguments may be missing; then the blanks on either side of them are one run. -/
theorem mem_optional_arguments :
    cs ∈ blanks * ((1 + arguments) * (blanks * (char ':' * language))) ↔
      ∃ rest, afterArguments? (dropBlank cs) = some rest ∧
        dropBlank rest ∈ char ':' * language := by
  have hcolon : Avoids isBlank (char ':' * language) := avoids_char_mul (by decide)
  have harguments : Avoids isBlank (arguments * (blanks * (char ':' * language))) :=
    avoids_arguments_mul (by decide)
  have hsplit : blanks * ((1 + arguments) * (blanks * (char ':' * language))) =
      blanks * (char ':' * language) +
        blanks * (arguments * (blanks * (char ':' * language))) := by
    rw [add_mul, one_mul, mul_add, ← mul_assoc blanks blanks, blanks, run_mul_run]
  rw [hsplit, Language.mem_add, mem_blanks_mul hcolon, mem_blanks_mul harguments,
    mem_arguments_mul]
  constructor
  · rintro (hmissing | ⟨-, rest, hscan, hrest⟩)
    · have hopen : (dropBlank cs).head? ≠ some '(' := by
        obtain ⟨rest, -, hhead⟩ := mem_char_mul.mp hmissing
        simp [hhead]
      refine ⟨_, afterArguments?_of_not_open hopen, ?_⟩
      rwa [dropBlank, dropBlank, List.dropWhile_idempotent]
    · exact ⟨rest, hscan, (mem_blanks_mul hcolon).mp hrest⟩
  · rintro ⟨rest, hscan, hrest⟩
    by_cases hopen : (dropBlank cs).head? = some '('
    · exact Or.inr ⟨hopen, rest, hscan, (mem_blanks_mul hcolon).mpr hrest⟩
    · rw [afterArguments?_of_not_open hopen, Option.some.injEq] at hscan
      rw [← hscan, dropBlank, dropBlank, List.dropWhile_idempotent] at hrest
      exact Or.inl hrest

/-- The colon scanner takes the colon and the blanks behind it. -/
theorem mem_colon_mul (hlanguage : Avoids isBlank language) :
    dropBlank cs ∈ char ':' * (blanks * language) ↔
      ∃ rest, afterColon? cs = some rest ∧ rest ∈ language := by
  rw [mem_char_mul]
  constructor
  · rintro ⟨back, hback, hcolon⟩
    refine ⟨dropBlank back, ?_, (mem_blanks_mul hlanguage).mp hback⟩
    simp only [afterColon?, hcolon]
  · rintro ⟨rest, hscan, hrest⟩
    unfold afterColon? at hscan
    split at hscan
    · rename_i back hcolon
      obtain rfl := Option.some.inj hscan
      exact ⟨back, (mem_blanks_mul hlanguage).mpr hrest, hcolon⟩
    · cases hscan

/-- What follows the colon of a signature and the blanks behind it. -/
def afterFront? (cs : List Char) : Option (List Char) := do
  let rest ← afterName? (dropBlank cs)
  let rest ← afterArguments? (dropBlank rest)
  afterColon? rest

/-- The scanner finds the one place where the type of a signature can begin. -/
theorem mem_form_iff {type : Language Char} (htype : Avoids isBlank (type * blanks)) :
    cs ∈ form type ↔ ∃ rest, afterFront? cs = some rest ∧ rest ∈ type * blanks := by
  have hcolon : Avoids isNameRest (blanks * (char ':' * (blanks * (type * blanks)))) :=
    avoids_blanks_mul (avoids_char_mul (by decide))
  have hafter : Avoids isNameRest
      (blanks * ((1 + arguments) * (blanks * (char ':' * (blanks * (type * blanks)))))) := by
    apply avoids_blanks_mul
    rw [add_mul, one_mul]
    exact hcolon.add (avoids_arguments_mul (by decide))
  unfold form
  simp only [mul_assoc]
  rw [mem_blanks_mul avoids_name_mul, mem_name_mul hafter]
  simp only [mem_optional_arguments, mem_colon_mul htype, afterFront?, Option.bind_eq_bind,
    Option.bind_eq_some_iff]
  constructor
  · rintro ⟨back, hname, args, harguments, rest, hrest, htail⟩
    exact ⟨rest, ⟨back, hname, args, harguments, hrest⟩, htail⟩
  · rintro ⟨rest, ⟨back, hname, args, harguments, hrest⟩, htail⟩
    exact ⟨back, hname, args, harguments, rest, hrest, htail⟩

theorem accepts_iff : accepts cs = true ↔ ∃ rest tail, afterFront? cs = some rest ∧
    afterName? (dropOne '[' rest) = some tail ∧ endsType tail = true := by
  unfold accepts afterFront?
  cases hname : afterName? (dropBlank cs) with
  | none => simp
  | some back =>
      cases hfront : (afterArguments? (dropBlank back)).bind afterColon? with
      | none => simp [hfront]
      | some rest => cases htype : afterName? (dropOne '[' rest) <;> simp [hfront, htype]

/-- Marks and closing brackets, and nothing else. -/
def AreEnds (texts : List String) : Prop :=
  ∀ text ∈ texts, ∀ c ∈ text.toList, c = '!' ∨ c = ']'

variable {texts others plain bracketed : List String}

theorem AreEnds.append (htexts : AreEnds texts) (hothers : AreEnds others) :
    AreEnds (texts ++ others) := by
  intro text htext
  exact (List.mem_append.mp htext).elim (htexts text) (hothers text)

theorem areEnds_plainEnds : AreEnds plainEnds := by
  simp [AreEnds, plainEnds]

theorem areEnds_closedEnds : AreEnds closedEnds := by
  simp [AreEnds, closedEnds]

theorem areEnds_repeatedMark : AreEnds repeatedMark := by
  simp [AreEnds, repeatedMark]

theorem AreEnds.avoids (hends : AreEnds texts) : Avoids isNameRest (oneOf texts * blanks) := by
  intro cs hcs c hc
  obtain ⟨front, ⟨text, htext, rfl⟩, trail, htrail, rfl⟩ := Language.mem_mul.mp hcs
  cases hfront : text.toList with
  | nil =>
      rw [hfront] at hc
      exact isNameRest_of_isBlank (htrail c (List.mem_of_head? hc))
  | cons d front =>
      rw [hfront] at hc
      obtain rfl := Option.some.inj hc
      obtain rfl | rfl := hends text htext d (by simp [hfront])
      · decide
      · decide

theorem dropOne_cons (c d : Char) (rest : List Char) :
    dropOne c (d :: rest) = if d = c then rest else d :: rest :=
  rfl

theorem dropOne_of_ne {c : Char} (hhead : cs.head? ≠ some c) : dropOne c cs = cs := by
  cases cs with
  | nil => rfl
  | cons d rest => exact if_neg fun hsame => hhead (congrArg some hsame)

/-- The type scanner takes a bracket if one opens, and then the name. -/
theorem mem_typeText_mul (hplain : AreEnds plain) (hbracketed : AreEnds bracketed) :
    rest ∈ typeText plain bracketed * blanks ↔
      ∃ tail, afterName? (dropOne '[' rest) = some tail ∧
        tail ∈ oneOf (if rest.head? = some '[' then bracketed else plain) * blanks := by
  unfold typeText
  rw [add_mul, mul_assoc, mul_assoc, mul_assoc, Language.mem_add, mem_name_mul hplain.avoids,
    mem_char_mul]
  by_cases hopen : rest.head? = some '['
  · obtain ⟨back, rfl⟩ := List.head?_eq_some_iff.mp hopen
    have hnone : afterName? ('[' :: back) = none := rfl
    have hdrop : dropOne '[' ('[' :: back) = back := by simp [dropOne_cons]
    rw [if_pos hopen, hdrop, hnone, ← mem_name_mul hbracketed.avoids]
    simp
  · rw [if_neg hopen, dropOne_of_ne hopen, or_iff_left]
    rintro ⟨back, -, rfl⟩
    exact hopen rfl

theorem avoids_typeText_mul : Avoids isBlank (typeText plain bracketed * language) := by
  unfold typeText
  rw [add_mul, mul_assoc, mul_assoc]
  exact avoids_name_mul.add (avoids_char_mul (by decide))

theorem eq_or_eq_cons_of_dropOne {c : Char} (hdrop : dropOne c cs = rest) :
    cs = rest ∨ cs = c :: rest := by
  cases cs with
  | nil => exact Or.inl hdrop
  | cons d back =>
      rw [dropOne_cons] at hdrop
      split at hdrop
      · rename_i hsame
        exact Or.inr (by rw [hsame, hdrop])
      · exact Or.inl hdrop

/-- Every way in which a type may end. -/
def allEnds : List String :=
  plainEnds ++ closedEnds ++ repeatedMark

/-- The end scanner takes a mark, a bracket and a mark, each or none of them. -/
theorem endsType_iff : endsType tail = true ↔ tail ∈ oneOf allEnds * blanks := by
  unfold endsType
  rw [List.isEmpty_iff, dropBlank, List.dropWhile_eq_nil_iff]
  constructor
  · intro htrail
    generalize hfirst : dropOne '!' tail = afterMark at htrail
    generalize hsecond : dropOne ']' afterMark = afterBracket at htrail
    generalize hthird : dropOne '!' afterBracket = trail at htrail
    have hmarks : ∃ text ∈ allEnds, tail = text.toList ++ trail := by
      rcases eq_or_eq_cons_of_dropOne hfirst with rfl | rfl <;>
      rcases eq_or_eq_cons_of_dropOne hsecond with rfl | rfl <;>
      rcases eq_or_eq_cons_of_dropOne hthird with rfl | rfl <;>
      simp [allEnds, plainEnds, closedEnds, repeatedMark]
    obtain ⟨text, htext, rfl⟩ := hmarks
    exact Language.append_mem_mul ⟨text, htext, rfl⟩ htrail
  · intro htail
    obtain ⟨front, ⟨text, htext, rfl⟩, trail, htrail, rfl⟩ := Language.mem_mul.mp htail
    have hkeeps (c : Char) (hc : isBlank c = false) : dropOne c trail = trail := by
      apply dropOne_of_ne
      intro hhead
      rw [htrail c (List.mem_of_head? hhead)] at hc
      cases hc
    have hmark := hkeeps '!' (by decide)
    have hbracket := hkeeps ']' (by decide)
    simp only [allEnds, plainEnds, closedEnds, repeatedMark, List.mem_append, List.mem_cons,
      List.not_mem_nil, or_false] at htext
    change ∀ c ∈ trail, isBlank c = true at htrail
    rcases htext with ((rfl | rfl) | rfl | rfl | rfl | rfl) | rfl <;>
      simpa [dropOne_cons, hmark, hbracket] using htrail

/-- The end of a type reaches as far as there is no blank. -/
theorem AreEnds.takeWhile_eq (hends : AreEnds texts) {text : String} (htext : text ∈ texts)
    {trail : List Char} (htrail : trail ∈ blanks) :
    (text.toList ++ trail).takeWhile (fun c => !isBlank c) = text.toList := by
  apply takeWhile_append
  · intro c hc
    obtain rfl | rfl := hends text htext c hc
    · decide
    · decide
  · intro c hc
    simp [htrail c (List.mem_of_head? hc)]

/-- A text ends in one way only. -/
theorem not_mem_ends (hends : AreEnds texts) (hothers : AreEnds others)
    (hdisjoint : ∀ text ∈ texts, text ∉ others) (htail : tail ∈ oneOf texts * blanks) :
    tail ∉ oneOf others * blanks := by
  intro hother
  obtain ⟨front, ⟨text, htext, rfl⟩, trail, htrail, rfl⟩ := Language.mem_mul.mp htail
  obtain ⟨back, ⟨other, hmem, rfl⟩, rest, hrest, heq⟩ := Language.mem_mul.mp hother
  have hsame := hothers.takeWhile_eq hmem hrest
  rw [heq, hends.takeWhile_eq htext htrail, String.toList_inj] at hsame
  exact hdisjoint text htext (hsame ▸ hmem)

/-- The ends that the type of a signature may have, after the scanner has been through it. -/
theorem mem_form_typeText (hplain : AreEnds plain) (hbracketed : AreEnds bracketed) :
    cs ∈ form (typeText plain bracketed) ↔ ∃ rest tail, afterFront? cs = some rest ∧
      afterName? (dropOne '[' rest) = some tail ∧
        tail ∈ oneOf (if rest.head? = some '[' then bracketed else plain) * blanks := by
  rw [mem_form_iff avoids_typeText_mul]
  simp only [mem_typeText_mul hplain hbracketed, exists_and_left]

/-- Whether a bracket opens or not, an end is that of a proper type or of a slipped one. -/
theorem oneOf_allEnds (opens : Prop) [Decidable opens] :
    oneOf (if opens then closedEnds else plainEnds) +
      oneOf (if opens then plainEnds ++ repeatedMark else closedEnds ++ repeatedMark) =
        oneOf allEnds := by
  rw [allEnds, List.append_assoc]
  split
  · rw [oneOf_append, oneOf_append, oneOf_append, add_left_comm]
  · rw [oneOf_append plainEnds]

/-- The ends of the type of a proper signature. -/
theorem mem_form_properType :
    cs ∈ form properType ↔ ∃ rest tail, afterFront? cs = some rest ∧
      afterName? (dropOne '[' rest) = some tail ∧
        tail ∈ oneOf (if rest.head? = some '[' then closedEnds else plainEnds) * blanks :=
  mem_form_typeText areEnds_plainEnds areEnds_closedEnds

/-- The ends of the type of a slipped signature. -/
theorem mem_form_slippedType :
    cs ∈ form slippedType ↔ ∃ rest tail, afterFront? cs = some rest ∧
      afterName? (dropOne '[' rest) = some tail ∧
        tail ∈ oneOf (if rest.head? = some '[' then plainEnds ++ repeatedMark
          else closedEnds ++ repeatedMark) * blanks :=
  mem_form_typeText (areEnds_closedEnds.append areEnds_repeatedMark)
    (areEnds_plainEnds.append areEnds_repeatedMark)

theorem accepts_iff_mem_form :
    accepts cs = true ↔ cs ∈ form properType ∨ cs ∈ form slippedType := by
  rw [accepts_iff, mem_form_properType, mem_form_slippedType]
  simp only [endsType_iff, ← exists_or, ← and_or_left, ← Language.mem_add, ← add_mul,
    oneOf_allEnds]

/-- No signature has both a proper type and a slipped one. -/
theorem not_mem_form_slippedType (hproper : cs ∈ form properType) : cs ∉ form slippedType := by
  rw [mem_form_properType] at hproper
  rw [mem_form_slippedType]
  obtain ⟨rest, tail, hfront, hname, hends⟩ := hproper
  rintro ⟨rest', tail', hfront', hname', hslipped⟩
  obtain rfl := Option.some.inj (hfront.symm.trans hfront')
  obtain rfl := Option.some.inj (hname.symm.trans hname')
  by_cases hopen : rest.head? = some '['
  · rw [if_pos hopen] at hends hslipped
    exact not_mem_ends areEnds_closedEnds (areEnds_plainEnds.append areEnds_repeatedMark)
      (by decide +kernel) hends hslipped
  · rw [if_neg hopen] at hends hslipped
    exact not_mem_ends areEnds_plainEnds (areEnds_closedEnds.append areEnds_repeatedMark)
      (by decide +kernel) hends hslipped

/-- The check finds no problem with a text exactly if it has the form of a signature, where
the type may also be a slipped one; no text has that form with a proper type and with a
slipped one.  Of any other text it says that it is malformed. -/
theorem signature_form (text : String) :
    (problem? text = none ↔ text.toList ∈ form properType ∨ text.toList ∈ form slippedType) ∧
    (text.toList ∈ form properType → text.toList ∉ form slippedType) ∧
    (problem? text ≠ none →
      problem? text = some ("malformed operation signature '" ++ text ++ "'")) := by
  have hproblem : problem? text = none ↔ accepts text.toList = true := by
    unfold problem?
    split <;> simp_all
  refine ⟨hproblem.trans accepts_iff_mem_form, not_mem_form_slippedType, ?_⟩
  intro hmalformed
  exact if_neg (mt hproblem.mpr hmalformed)

example : problem? "boards(limit: Int): [Board!]!" = none ∧ problem? "boards: [Board" = none ∧
    problem? "me: User!!" = none ∧
    problem? "boards" = some "malformed operation signature 'boards'" := by
  decide +kernel

end Signature

end Kanban
