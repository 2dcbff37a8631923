/-
Omissions foretold.  Compiling goes down the elements of an array until a shape is
missing; lint goes down the same way, and on into the attributes of objects.  A
field is left out for the reason that lint gives at its path or at elements below
it, and what lint says of attributes is never taken for such a reason.
-/
import Mathlib.Data.List.Basic
import Kanban.Proofs.Schema.Resolution
import Kanban.Schema.Lint

namespace Kanban

/-- The mark of elements of elements: one pair of brackets for every level. -/
def elementMarks : Nat → String
  | 0 => ""
  | depth + 1 => "[]" ++ elementMarks depth

/-- The warning that a shape is missing some levels of elements below a path. -/
def OmitReason.message (reason : OmitReason) (path : String) (depth : Nat) : String :=
  path ++ elementMarks depth ++ ": " ++ reason.warning

/-- Whether a message warns of an omission at a path or at elements below it. -/
def WarnsOf (path message : String) : Prop :=
  ∃ depth reason, message = OmitReason.message reason path depth

variable {path message text : String} {messages quiet : List String}
  {omission : Option OmitReason}

theorem OmitReason.message_succ (reason : OmitReason) (path : String) (depth : Nat) :
    reason.message path (depth + 1) = reason.message (path ++ "[]") depth := by
  simp [OmitReason.message, elementMarks, String.append_assoc]

theorem OmitReason.message_inj {reason other : OmitReason} {depth level : Nat}
    (heq : reason.message path depth = other.message path level) : reason = other := by
  induction depth generalizing path level with
  | zero =>
      cases level with
      | zero =>
          cases reason <;> cases other <;> simp_all [message, warning, OmitReason.text]
      | succ level =>
          have hchars := congrArg String.toList heq
          simp [message, elementMarks] at hchars
  | succ depth ih =>
      cases level with
      | zero =>
          have hchars := congrArg String.toList heq
          simp [message, elementMarks] at hchars
      | succ level =>
          rw [message_succ, message_succ] at heq
          exact ih heq

/-- Right after a path only a warning warns of an omission. -/
theorem warnsOf_colon_iff :
    WarnsOf path (path ++ ": " ++ text) ↔ ∃ reason, text = OmitReason.warning reason := by
  constructor
  · rintro ⟨depth, reason, heq⟩
    cases depth with
    | zero => exact ⟨reason, by simpa [OmitReason.message, elementMarks] using heq⟩
    | succ depth =>
        have hchars := congrArg String.toList heq
        simp [OmitReason.message, elementMarks] at hchars
  · rintro ⟨reason, rfl⟩
    exact ⟨0, reason, by simp [OmitReason.message, elementMarks]⟩

/-- What is said of elements warns of an omission below the path as it does at them. -/
theorem WarnsOf.of_element {tail : String} (hwarns : WarnsOf path (path ++ "[]" ++ tail)) :
    WarnsOf (path ++ "[]") (path ++ "[]" ++ tail) := by
  obtain ⟨depth, reason, heq⟩ := hwarns
  cases depth with
  | zero =>
      have hchars := congrArg String.toList heq
      simp [OmitReason.message, elementMarks] at hchars
  | succ depth => exact ⟨depth, reason, heq.trans (reason.message_succ path depth)⟩

/-- What is said of an attribute does not warn of an omission of its object. -/
theorem not_warnsOf_attribute (path tail : String) : ¬ WarnsOf path (path ++ "." ++ tail) := by
  rintro ⟨depth, reason, heq⟩
  have hchars := congrArg String.toList heq
  cases depth <;> simp [OmitReason.message, elementMarks] at hchars

/-- A message at a path that is no warning of an omission. -/
def Remark (path message : String) : Prop :=
  ∃ text, message = path ++ ": " ++ text ∧ ∀ reason, text ≠ OmitReason.warning reason

theorem Remark.not_warnsOf (hremark : Remark path message) : ¬ WarnsOf path message := by
  obtain ⟨text, rfl, hnot⟩ := hremark
  rw [warnsOf_colon_iff]
  exact fun ⟨reason, heq⟩ => hnot reason heq

theorem remark_unnamed (path : String) : Remark path (path ++ ": field name is empty") := by
  refine ⟨"field name is empty", by rw [String.append_assoc]; rfl, fun reason => ?_⟩
  cases reason <;> decide

theorem remark_unknownKind (path kind : String) :
    Remark path (Field.unknownKindProblem path kind) := by
  refine ⟨"unknown kind '" ++ kind ++
    "' passes through verbatim; set graphqlType to make this explicit", ?_, fun reason heq => ?_⟩
  · have hsplit : ": unknown kind '" = ": " ++ "unknown kind '" := rfl
    rw [Field.unknownKindProblem, hsplit]
    simp only [String.append_assoc]
  · have hchars := congrArg String.toList heq
    cases reason <;> simp [OmitReason.warning, OmitReason.text] at hchars

/-- Messages with one warning of an omission among them, or none. -/
inductive Reports (path : String) : List String → Option OmitReason → Prop where
  | silent {messages : List String} (hsilent : ∀ message ∈ messages, ¬ WarnsOf path message) :
      Reports path messages none
  | warned {before after : List String} (depth : Nat) (reason : OmitReason)
      (hbefore : ∀ message ∈ before, ¬ WarnsOf path message)
      (hafter : ∀ message ∈ after, ¬ WarnsOf path message) :
      Reports path (before ++ reason.message path depth :: after) (some reason)

namespace Reports

theorem after_quiet (hquiet : ∀ message ∈ quiet, ¬ WarnsOf path message)
    (hreports : Reports path messages omission) :
    Reports path (quiet ++ messages) omission := by
  cases hreports with
  | silent hsilent =>
      refine .silent fun message hmessage => ?_
      rcases List.mem_append.mp hmessage with hmessage | hmessage
      · exact hquiet message hmessage
      · exact hsilent message hmessage
  | warned depth reason hbefore hafter =>
      rw [← List.append_assoc]
      refine .warned depth reason (fun message hmessage => ?_) hafter
      rcases List.mem_append.mp hmessage with hmessage | hmessage
      · exact hquiet message hmessage
      · exact hbefore message hmessage

/-- Reports on the elements of an array are reports on the array. -/
theorem of_element (hstart : ∀ message ∈ messages, ∃ tail, message = path ++ "[]" ++ tail)
    (hreports : Reports (path ++ "[]") messages omission) : Reports path messages omission := by
  have hlift (message : String) (hmessage : message ∈ messages)
      (hnot : ¬ WarnsOf (path ++ "[]") message) : ¬ WarnsOf path message := by
    obtain ⟨tail, rfl⟩ := hstart message hmessage
    exact fun hwarns => hnot hwarns.of_element
  cases hreports with
  | silent hsilent =>
      exact .silent fun message hmessage => hlift message hmessage (hsilent message hmessage)
  | warned depth reason hbefore hafter =>
      rw [← reason.message_succ] at hlift ⊢
      refine .warned (depth + 1) reason (fun message hmessage => ?_) fun message hmessage => ?_
      · exact hlift message (List.mem_append_left _ hmessage) (hbefore message hmessage)
      · exact hlift message (List.mem_append_right _ (List.mem_cons_of_mem _ hmessage))
          (hafter message hmessage)

theorem warned_iff (hreports : Reports path messages omission) (reason : OmitReason) :
    omission = some reason ↔ ∃ depth, reason.message path depth ∈ messages := by
  cases hreports with
  | silent hsilent =>
      constructor
      · intro hnone
        cases hnone
      · rintro ⟨depth, hmem⟩
        exact absurd ⟨depth, reason, rfl⟩ (hsilent _ hmem)
  | warned depth found hbefore hafter =>
      constructor
      · intro hsome
        obtain rfl := Option.some.inj hsome
        exact ⟨depth, List.mem_append_right _ List.mem_cons_self⟩
      · rintro ⟨level, hmem⟩
        rcases List.mem_append.mp hmem with hmem | hmem
        · exact absurd ⟨level, reason, rfl⟩ (hbefore _ hmem)
        · rcases List.mem_cons.mp hmem with heq | hmem
          · rw [OmitReason.message_inj heq]
          · exact absurd ⟨level, reason, rfl⟩ (hafter _ hmem)

/-- Of any two messages at most one warns of an omission. -/
theorem pairwise (hreports : Reports path messages omission) :
    messages.Pairwise fun a b => ¬ (WarnsOf path a ∧ WarnsOf path b) := by
  cases hreports with
  | silent hsilent =>
      exact List.pairwise_of_forall_mem_list fun a ha b _ hboth => hsilent a ha hboth.1
  | warned depth reason hbefore hafter =>
      refine List.pairwise_append.mpr ⟨?_, List.pairwise_cons.mpr ⟨?_, ?_⟩, ?_⟩
      · exact List.pairwise_of_forall_mem_list fun a ha b _ hboth => hbefore a ha hboth.1
      · exact fun b hb hboth => hafter b hb hboth.2
      · exact List.pairwise_of_forall_mem_list fun a ha b _ hboth => hafter a ha hboth.1
      · exact fun a ha b _ hboth => hbefore a ha hboth.1

end Reports

theorem reports_warning (path : String) (reason : OmitReason) :
    Reports path [path ++ ": " ++ reason.warning] (some reason) := by
  have hwarned : Reports path ([] ++ reason.message path 0 :: []) (some reason) :=
    .warned 0 reason (List.forall_mem_nil _) (List.forall_mem_nil _)
  simpa [OmitReason.message, elementMarks] using hwarned

namespace Field

/-- Why compiling leaves a field out, if it does. -/
def omission? (field : Field) : Option OmitReason :=
  match field.resolveType with
  | some _ => none
  | none => some ((field.culprit?).getD field).omitReason

theorem compile_eq_omitted_iff {field : Field} {reason : OmitReason} :
    field.compile = .omitted ⟨field.name, reason⟩ ↔ field.omission? = some reason := by
  unfold compile omission?
  cases field.resolveType <;> simp

/-- Why the elements of an array leave it out. -/
def omissionOfItems : Option Field → Option OmitReason
  | none => some .arrayWithoutItems
  | some item => item.omission?

/-- A field is left out for what its elements lack where the way down ends. -/
theorem EndsAt.omission?_eq {field bottom : Field} {depth : Nat}
    (hends : field.EndsAt depth bottom) :
    field.omission? = if bottom.isUnresolved then some bottom.omitReason else none := by
  unfold omission?
  rw [hends.resolveType_eq, hends.culprit?_eq]
  cases bottom.isUnresolved <;> rfl

/-- Why the attributes of an object leave it out. -/
def omissionOfProperties : Option (List Field) → Option OmitReason
  | none => some .objectWithoutProperties
  | some _ => none

section

variable {facts : FieldFacts} {items : Option Field} {properties : Option (List Field)}

theorem omission?_of_array (htype : facts.typeName? = none) (harray : facts.isArray = true) :
    omission? ⟨facts, items, properties⟩ = omissionOfItems items := by
  cases items with
  | none =>
      simp [omission?, resolveType, resolveItems, omissionOfItems, htype, harray, culprit?,
        isUnresolved, omitReason]
  | some item =>
      obtain ⟨depth, bottom, hends⟩ := exists_endsAt item
      have hdown : EndsAt ⟨facts, some item, properties⟩ (depth + 1) bottom :=
        .down (element?_eq_some_iff.mpr ⟨harray, htype, rfl⟩) hends
      rw [omissionOfItems, hends.omission?_eq, hdown.omission?_eq]

theorem omission?_of_object (htype : facts.typeName? = none) (harray : facts.isArray = false)
    (hobject : facts.isObject = true) :
    omission? ⟨facts, items, properties⟩ = omissionOfProperties properties := by
  cases properties <;>
    simp [omission?, resolveType, culprit?, isUnresolved, omitReason, omissionOfProperties, htype,
      harray, hobject]

/-- What lint says of a field: nothing of an omission, and then, where no type name
settles the field, what it says of the elements of an array or the attributes of an
object. -/
theorem lint_cases (path : String) (facts : FieldFacts) (items : Option Field)
    (properties : Option (List Field)) : ∃ quiet, (∀ message ∈ quiet, Remark path message) ∧
      ((lint path ⟨facts, items, properties⟩ = quiet ∧
          omission? ⟨facts, items, properties⟩ = none) ∨
        (lint path ⟨facts, items, properties⟩ = quiet ++ lintItems path items ∧
          omission? ⟨facts, items, properties⟩ = omissionOfItems items) ∨
        lint path ⟨facts, items, properties⟩ = quiet ++ lintProperties path properties ∧
          omission? ⟨facts, items, properties⟩ = omissionOfProperties properties) := by
  have hunnamed : ∀ message ∈
      (if facts.name.toValue.truthy then [] else [path ++ ": field name is empty"]),
      Remark path message := by
    split
    · simp
    · intro message hmessage
      obtain rfl := List.mem_singleton.mp hmessage
      exact remark_unnamed path
  cases htype : facts.typeName? with
  | some name =>
      exact ⟨_, hunnamed, Or.inl ⟨by simp [lint, htype], by simp [omission?, resolveType, htype]⟩⟩
  | none =>
      cases harray : facts.isArray with
      | true =>
          have hkind : facts.kind = FieldKind.array.token := by
            simpa [FieldFacts.isArray] using harray
          refine ⟨_, hunnamed, Or.inr (Or.inl ⟨?_, omission?_of_array htype harray⟩)⟩
          simp [lint, htype, harray, FieldFacts.isObject, hkind, FieldKind.isKnown,
            FieldKind.ofToken?_token]
          simp [FieldKind.token]
      | false =>
          cases hobject : facts.isObject with
          | true =>
              have hkind : facts.kind = FieldKind.object.token := by
                simpa [FieldFacts.isObject] using hobject
              refine ⟨_, hunnamed, Or.inr (Or.inr ⟨?_, omission?_of_object htype harray hobject⟩)⟩
              simp [lint, htype, harray, hobject, hkind, FieldKind.isKnown,
                FieldKind.ofToken?_token]
          | false =>
              refine ⟨_ ++ if FieldKind.isKnown facts.kind then []
                else [unknownKindProblem path facts.kind], ?_,
                Or.inl ⟨by simp [lint, htype, harray, hobject]; rfl,
                  by simp [omission?, resolveType, htype, harray, hobject]⟩⟩
              intro message hmessage
              rcases List.mem_append.mp hmessage with hmessage | hmessage
              · exact hunnamed message hmessage
              · split at hmessage
                · simp at hmessage
                · obtain rfl := List.mem_singleton.mp hmessage
                  exact remark_unknownKind path facts.kind

end

mutual

/-- Whatever lint says of a field begins with its path. -/
theorem lint_start : ∀ (path : String) (field : Field), ∀ message ∈ field.lint path,
    ∃ tail, message = path ++ tail
  | path, ⟨facts, items, properties⟩, message, hmessage => by
      obtain ⟨quiet, hquiet, hcases⟩ := lint_cases path facts items properties
      have hstart (hmem : message ∈ quiet) : ∃ tail, message = path ++ tail := by
        obtain ⟨text, rfl, -⟩ := hquiet message hmem
        exact ⟨_, String.append_assoc⟩
      rcases hcases with ⟨hlint, -⟩ | ⟨hlint, -⟩ | ⟨hlint, -⟩
      · exact hstart (hlint ▸ hmessage)
      · rcases List.mem_append.mp (hlint ▸ hmessage) with hmem | hmem
        · exact hstart hmem
        · exact lintItems_start path items message hmem
      · rcases List.mem_append.mp (hlint ▸ hmessage) with hmem | hmem
        · exact hstart hmem
        · exact lintProperties_start path properties message hmem

theorem lintItems_start : ∀ (path : String) (items : Option Field),
    ∀ message ∈ lintItems path items, ∃ tail, message = path ++ tail
  | path, none, message, hmessage => by
      obtain rfl := List.mem_singleton.mp hmessage
      exact ⟨_, String.append_assoc⟩
  | path, some item, message, hmessage => by
      obtain ⟨tail, rfl⟩ := lint_start (path ++ "[]") item message hmessage
      exact ⟨_, String.append_assoc⟩

theorem lintProperties_start : ∀ (path : String) (properties : Option (List Field)),
    ∀ message ∈ lintProperties path properties, ∃ tail, message = path ++ tail
  | path, none, message, hmessage => by
      obtain rfl := List.mem_singleton.mp hmessage
      exact ⟨_, String.append_assoc⟩
  | path, some fields, message, hmessage => by
      obtain ⟨tail, rfl⟩ := lintAll_start path fields message hmessage
      exact ⟨_, String.append_assoc⟩

theorem lintAll_start : ∀ (path : String) (fields : List Field),
    ∀ message ∈ lintAll path fields, ∃ tail, message = path ++ "." ++ tail
  | path, field :: rest, message, hmessage => by
      rcases List.mem_append.mp hmessage with hmessage | hmessage
      · obtain ⟨tail, rfl⟩ := lint_start _ field message hmessage
        exact ⟨_, String.append_assoc⟩
      · exact lintAll_start path rest message hmessage

end

theorem reports_lintProperties (path : String) (properties : Option (List Field)) :
    Reports path (lintProperties path properties) (omissionOfProperties properties) := by
  cases properties with
  | none => exact reports_warning path .objectWithoutProperties
  | some fields =>
      refine .silent fun message hmessage => ?_
      obtain ⟨tail, rfl⟩ := lintAll_start path fields message hmessage
      exact not_warnsOf_attribute path tail

mutual

/-- Lint warns of the omission of a field, and of no other, once. -/
theorem reports_lint : ∀ (path : String) (field : Field),
    Reports path (field.lint path) field.omission?
  | path, ⟨facts, items, properties⟩ => by
      obtain ⟨quiet, hquiet, hcases⟩ := lint_cases path facts items properties
      have hsilent : ∀ message ∈ quiet, ¬ WarnsOf path message :=
        fun message hmessage => (hquiet message hmessage).not_warnsOf
      rcases hcases with ⟨hlint, homission⟩ | ⟨hlint, homission⟩ | ⟨hlint, homission⟩
      · rw [hlint, homission]
        exact .silent hsilent
      · rw [hlint, homission]
        exact (reports_lintItems path items).after_quiet hsilent
      · rw [hlint, homission]
        exact (reports_lintProperties path properties).after_quiet hsilent

theorem reports_lintItems : ∀ (path : String) (items : Option Field),
    Reports path (lintItems path items) (omissionOfItems items)
  | path, none => reports_warning path .arrayWithoutItems
  | path, some item =>
      (reports_lint (path ++ "[]") item).of_element (lint_start (path ++ "[]") item)

end

theorem lintAll_eq_flatMap (path : String) (fields : List Field) :
    lintAll path fields =
      fields.flatMap fun field => field.lint (path ++ "." ++ field.name.shown) := by
  induction fields with
  | nil => rfl
  | cons field rest ih => rw [lintAll, ih, List.flatMap_cons]

end Field

theorem FieldMap.lint_eq_flatMap (map : FieldMap) (path : String) :
    map.lint path = map.fields.flatMap fun field => field.lint (path ++ "." ++ field.name.shown) :=
  Field.lintAll_eq_flatMap path map.fields

theorem FieldMap.omitted_eq_nil_iff {map : FieldMap} {name : String} :
    (map.compile name).omitted = [] ↔ ∀ field ∈ map.fields, field.omission? = none := by
  have hfield (field : Field) : field.compile.omitted? = none ↔ field.omission? = none := by
    unfold Field.compile Field.omission?
    cases field.resolveType <;> simp [FieldOutcome.omitted?]
  simp [FieldMap.compile, List.filterMap_eq_nil_iff, hfield]

/-- Where lint has nothing to say, no field is left out. -/
theorem FieldMap.omission?_of_clean {map : FieldMap} {path : String}
    (hclean : map.lint path = []) : ∀ field ∈ map.fields, field.omission? = none := by
  intro field hfield
  rw [FieldMap.lint_eq_flatMap, List.flatMap_eq_nil_iff] at hclean
  have hreports := Field.reports_lint (path ++ "." ++ field.name.shown) field
  rw [hclean field hfield] at hreports
  by_contra hsome
  obtain ⟨reason, hreason⟩ := Option.ne_none_iff_exists'.mp hsome
  obtain ⟨depth, hmem⟩ := (hreports.warned_iff reason).mp hreason
  exact absurd hmem List.not_mem_nil

/-- Compiling leaves a field out for a reason exactly when lint warns of it for that
reason, at the path of the field or some levels of elements below; lint warns so at
most once.  A field map that lint finds nothing in is compiled without omissions. -/
theorem FieldMap.omits_iff_warned (map : FieldMap) (entity : String) :
    (∀ field ∈ map.fields,
      let path := entity ++ "." ++ field.name.shown
      (∀ reason : OmitReason, field.compile = .omitted ⟨field.name, reason⟩ ↔
        ∃ depth, reason.message path depth ∈ field.lint path) ∧
      (field.lint path).Pairwise fun a b => ¬ (WarnsOf path a ∧ WarnsOf path b)) ∧
    (map.lint entity = [] → (map.compile entity).omitted = []) := by
  refine ⟨fun field _ => ?_, fun hclean =>
    FieldMap.omitted_eq_nil_iff.mpr (FieldMap.omission?_of_clean hclean)⟩
  have hreports := Field.reports_lint (entity ++ "." ++ field.name.shown) field
  exact ⟨fun reason => Field.compile_eq_omitted_iff.trans (hreports.warned_iff reason),
    hreports.pairwise⟩

/-- An array that does not say of what, and rows of such arrays. -/
def openRow : Field :=
  ⟨.plain "rows" "array", none, none⟩

def openRows : Field :=
  ⟨.plain "rows" "array", some openRow, none⟩

/-- An object with an open array as an attribute. -/
def openTable : Field :=
  ⟨.plain "table" "object", none, some [openRow]⟩

/-- Rows of open arrays are left out, and lint says so of their elements.  An object
with an open array is not, although lint complains of the array; with the array named
outright lint has nothing to say. -/
theorem FieldMap.omits_iff_warned_rows :
    let map : FieldMap := ⟨[openRows, openTable], by decide⟩
    let named : FieldMap := ⟨[⟨.plain "table" "object", none,
      some [{ openRow with override := some "Row" }]⟩], by decide⟩
    map.lint "T" = ["T.rows[]: array field has no items descriptor and will be omitted",
        "T.table.rows: array field has no items descriptor and will be omitted"] ∧
      openRows ∈ map.fields ∧
      openRows.compile = .omitted ⟨"rows", .arrayWithoutItems⟩ ∧
      openTable ∈ map.fields ∧
      (∀ (reason : OmitReason) depth, reason.message "T.table" depth ∉ openTable.lint "T.table") ∧
      named.lint "T" = [] ∧ (named.compile "T").omitted = [] := by
  intro map named
  have hlint : openRows.lint "T.rows" =
      ["T.rows[]: array field has no items descriptor and will be omitted"] := by
    decide +kernel
  have hrows : openRows ∈ map.fields := List.mem_cons_self
  have htable : openTable ∈ map.fields := List.mem_cons_of_mem _ List.mem_cons_self
  have hclean : named.lint "T" = [] := by decide +kernel
  obtain ⟨hwarned, -⟩ := (FieldMap.omits_iff_warned map "T").1 openRows hrows
  obtain ⟨hsilent, -⟩ := (FieldMap.omits_iff_warned map "T").1 openTable htable
  refine ⟨by decide +kernel, hrows, (hwarned .arrayWithoutItems).mpr ⟨1, ?_⟩, htable, ?_,
    hclean, (FieldMap.omits_iff_warned named "T").2 hclean⟩
  · change _ ∈ openRows.lint "T.rows"
    rw [hlint]
    exact List.mem_singleton.mpr (by decide +kernel)
  · intro reason depth hmem
    have homitted := (hsilent reason).mpr ⟨depth, hmem⟩
    cases reason <;> exact absurd homitted (by decide +kernel)

end Kanban
