/-
What versions tell.  No operation lowers a version, and one that changes a
container counts it up, with one exception: a creation under an id that is in use
takes the item out of its container unseen.  Elsewhere a version stands for the
members of its container, in every run.
-/
import Mathlib.Data.List.Basic
import Kanban.Proofs.Run
import Kanban.Proofs.Store.Shelf

namespace Kanban

/-- A batch names every container that it touches: where the items stand that it
repositions, and where it moves some. -/
def Batch.Covers (batch : Batch) (shelf : Shelf) : Prop :=
  (∀ item ∈ shelf.items, item.id ∈ batch.positions.keys ∨ item.id ∈ batch.containers.keys →
    item.container ∈ batch.expected.keys) ∧
  ∀ entry ∈ batch.containers, entry.2 ∈ batch.expected.keys

instance (batch : Batch) (shelf : Shelf) : Decidable (batch.Covers shelf) :=
  inferInstanceAs (Decidable (_ ∧ _))

/-- A write names every container that it touches. -/
def Change.Named (store : Store) : Change → Prop
  | .write kind batch => batch.Covers (store.shelf kind)
  | _ => True

/-- A creation takes an id that is not in use. -/
def Change.Fresh (store : Store) : Change → Prop
  | .create kind _ draft => store.get? kind (Store.idFor kind (store.counter + 1) draft.id) = none
  | _ => True

/-- A creation stores its item elsewhere under the id of one that stands in a
container. -/
def Change.TakesFrom (store : Store) (kind : Kind) (container : String) : Change → Prop
  | .create created target draft =>
      created = kind ∧ target ≠ container ∧
        (∃ position, store.positionFor created target draft.position = .ok position) ∧
        ∃ item, store.get? created (Store.idFor created (store.counter + 1) draft.id) = some item ∧
          item.container = container
  | _ => False

theorem Change.Fresh.not_takesFrom {store : Store} {change : Change}
    (hfresh : change.Fresh store) (kind : Kind) (container : String) :
    ¬ change.TakesFrom store kind container := by
  cases change with
  | create created target draft =>
      rintro ⟨-, -, -, item, hitem, -⟩
      rw [Change.Fresh, hitem] at hfresh
      cases hfresh
  | upsert | delete | write => exact id

/-- The kind of item that an operation is about. -/
def Change.kind : Change → Kind
  | .create kind _ _ => kind
  | .upsert kind _ => kind
  | .delete kind _ => kind
  | .write kind _ => kind

namespace Store

variable {store : Store} {kind : Kind} {container : String}

/-- The item that a creation stores. -/
def drafted (store : Store) (kind : Kind) (container : String) (draft : Draft)
    (position : Binary64) : Item :=
  ⟨idFor kind (store.counter + 1) draft.id, container, position, (store.counter + 1 : Nat),
    draft.payload⟩

theorem create_of_ok {draft : Draft} {position : Binary64}
    (hposition : store.positionFor kind container draft.position = .ok position) :
    store.create kind container draft =
      (store.takeNumber.withShelf kind
        (((store.shelf kind).put (store.drafted kind container draft position)).bump
          [container]), .ok (store.drafted kind container draft position)) := by
  have hnumbered :
      store.takeNumber.positionFor kind container draft.position = .ok position := by
    rw [← hposition]
    cases kind <;> rfl
  rw [create]
  simp only [hnumbered, shelf_takeNumber]
  rfl

theorem create_of_error {draft : Draft} {cause : Binary64.NotFinite}
    (hposition : store.positionFor kind container draft.position = .error cause) :
    store.create kind container draft = (store.takeNumber, .error cause) := by
  have hnumbered :
      store.takeNumber.positionFor kind container draft.position = .error cause := by
    rw [← hposition]
    cases kind <;> rfl
  rw [create]
  simp only [hnumbered]

/-- A creation stores the new item in the place of the one under its id, and leaves what is
stored under all others. -/
theorem get?_create_of_ok {draft : Draft} {position : Binary64}
    (hposition : store.positionFor kind container draft.position = .ok position) (other : Kind)
    (id : String) :
    (store.create kind container draft).1.get? other id =
      if (other, id) = (kind, (store.drafted kind container draft position).id) then
        some (store.drafted kind container draft position)
      else store.get? other id := by
  rw [create_of_ok hposition, get?]
  by_cases hkind : other = kind
  · subst hkind
    rw [shelf_withShelf_self, Shelf.get?_bump, Shelf.get?_put]
    simp only [Prod.mk.injEq, true_and, get?]
  · rw [shelf_withShelf_of_ne _ hkind, shelf_takeNumber,
      if_neg fun heq => hkind (congrArg Prod.fst heq), get?]

theorem get?_create_of_error {draft : Draft} {cause : Binary64.NotFinite}
    (hposition : store.positionFor kind container draft.position = .error cause) :
    (store.create kind container draft).1.get? = store.get? := by
  funext other id
  rw [create_of_error hposition, get?, shelf_takeNumber, get?]

theorem upsert_of_some {item previous : Item}
    (hprevious : store.get? kind item.id = some previous) :
    store.upsert kind item =
      (store.withShelf kind (((store.shelf kind).put item).bump
        [item.container, previous.container]), item) := by
  simp only [upsert, hprevious]

/-- A new item is stored as it is, or with the next number if it has none. -/
theorem upsert_of_none {item : Item} (hnew : store.get? kind item.id = none) :
    ∃ (numbered : Store) (stored : Item), numbered.shelf = store.shelf ∧ stored.id = item.id ∧
      stored.container = item.container ∧ stored.position = item.position ∧
      store.upsert kind item =
        (numbered.withShelf kind (((store.shelf kind).put stored).bump [item.container]),
          stored) := by
  by_cases hseq : item.seq = 0
  · refine ⟨store.takeNumber, { item with seq := store.takeNumber.counter }, ?_, rfl, rfl, rfl, ?_⟩
    · funext other
      exact shelf_takeNumber other
    · simp only [upsert, hnew, hseq, ↓reduceIte, shelf_takeNumber]
  · exact ⟨store, item, rfl, rfl, rfl, rfl, by simp only [upsert, hnew, hseq, ↓reduceIte]⟩

/-- A write that applies found the expected versions and all the items. -/
theorem writePositions_eq_ok_iff {batch : Batch} {written : Store} :
    store.writePositions kind batch = .ok written ↔
      store.stale? kind batch.expected = none ∧
      store.missing? kind (batch.positions.keys ++ batch.containers.keys) = none ∧
      written = store.withShelf kind
        (((store.shelf kind).reposition batch.positions batch.containers).bump
          batch.expected.keys) := by
  unfold writePositions
  cases store.stale? kind batch.expected <;>
    cases store.missing? kind (batch.positions.keys ++ batch.containers.keys) <;>
      simp [eq_comm]

theorem stale?_eq_none_iff {expected : Mapping Int} :
    store.stale? kind expected = none ↔
      ∀ entry ∈ expected, entry.2 = (store.version kind entry.1 : Int) := by
  simp only [stale?, List.findSome?_eq_none_iff]
  refine forall₂_congr fun entry _ => ?_
  by_cases heq : entry.2 = (store.version kind entry.1 : Int) <;> simp [heq]

/-- The first version that differs comes after versions that agree. -/
theorem stale?_eq_some_iff {expected : Mapping Int} {cause : Conflict} :
    store.stale? kind expected = some cause ↔
      ∃ front container version rest, expected = front ++ (container, version) :: rest ∧
        (∀ entry ∈ front, entry.2 = (store.version kind entry.1 : Int)) ∧
        version ≠ (store.version kind container : Int) ∧
        cause = .stale container version (store.version kind container) := by
  unfold stale?
  rw [List.findSome?_eq_some_iff]
  constructor
  · rintro ⟨front, ⟨container, version⟩, rest, hsplit, hfound, hfront⟩
    dsimp only at hfound
    split at hfound
    · cases hfound
    · rename_i hne
      exact ⟨front, container, version, rest, hsplit,
        stale?_eq_none_iff.mp (List.findSome?_eq_none_iff.mpr hfront), hne,
        (Option.some.inj hfound).symm⟩
  · rintro ⟨front, container, version, rest, hsplit, hfront, hne, rfl⟩
    exact ⟨front, (container, version), rest, hsplit, if_neg hne,
      List.findSome?_eq_none_iff.mp (stale?_eq_none_iff.mpr hfront)⟩

theorem missing?_eq_none_iff {ids : List String} :
    store.missing? kind ids = none ↔ ∀ id ∈ ids, ∃ item, store.get? kind id = some item := by
  simp [missing?, Option.ne_none_iff_exists', ← ne_eq]

/-- The first id that is not stored comes after ids that are. -/
theorem missing?_eq_some_iff {ids : List String} {id : String} :
    store.missing? kind ids = some id ↔
      ∃ front rest, ids = front ++ id :: rest ∧
        (∀ other ∈ front, ∃ item, store.get? kind other = some item) ∧
        store.get? kind id = none := by
  simp only [missing?, List.find?_eq_some_iff_append, Option.isNone_iff_eq_none,
    ← Option.ne_none_iff_exists', Bool.not_eq_true', Option.isNone_eq_false_iff,
    Option.isSome_iff_ne_none]
  constructor
  · rintro ⟨hnone, front, rest, hsplit, hfront⟩
    exact ⟨front, rest, hsplit, hfront, hnone⟩
  · rintro ⟨front, rest, hsplit, hfront, hnone⟩
    exact ⟨hnone, front, rest, hsplit, hfront⟩

theorem writePositions_eq_conflict_iff {batch : Batch} {cause : Conflict} :
    store.writePositions kind batch = .error (.conflict cause) ↔
      store.stale? kind batch.expected = some cause := by
  unfold writePositions
  cases store.stale? kind batch.expected <;>
    cases store.missing? kind (batch.positions.keys ++ batch.containers.keys) <;> simp

theorem writePositions_eq_missing_iff {batch : Batch} {id : String} :
    store.writePositions kind batch = .error (.missing id) ↔
      store.stale? kind batch.expected = none ∧
        store.missing? kind (batch.positions.keys ++ batch.containers.keys) = some id := by
  unfold writePositions
  cases store.stale? kind batch.expected <;>
    cases store.missing? kind (batch.positions.keys ++ batch.containers.keys) <;> simp

/-- A write is turned down for a container that is not as expected. -/
theorem writePositions_eq_conflict {batch : Batch} {cause : Conflict}
    (hwrite : store.writePositions kind batch = .error (.conflict cause)) :
    ∃ container expected, (container, expected) ∈ batch.expected ∧
      expected ≠ (store.version kind container : Int) ∧
      cause = .stale container expected (store.version kind container) := by
  obtain ⟨front, container, expected, rest, hsplit, -, hne, hcause⟩ :=
    stale?_eq_some_iff.mp (writePositions_eq_conflict_iff.mp hwrite)
  refine ⟨container, expected, ?_, hne, hcause⟩
  rw [hsplit]
  exact List.mem_append_right front List.mem_cons_self

/-- A write that finds the expected versions names an item that is not stored. -/
theorem writePositions_eq_missing {batch : Batch} {id : String}
    (hwrite : store.writePositions kind batch = .error (.missing id)) :
    store.stale? kind batch.expected = none ∧
      (id ∈ batch.positions.keys ∨ id ∈ batch.containers.keys) ∧ store.get? kind id = none := by
  obtain ⟨hcurrent, hmissing⟩ := writePositions_eq_missing_iff.mp hwrite
  obtain ⟨front, rest, hsplit, -, hnone⟩ := missing?_eq_some_iff.mp hmissing
  refine ⟨hcurrent, List.mem_append.mp ?_, hnone⟩
  rw [hsplit]
  exact List.mem_append_right front List.mem_cons_self

theorem shelf_apply_of_ne {change : Change} (hne : kind ≠ change.kind) :
    (store.apply change).shelf kind = store.shelf kind := by
  cases change with
  | create created target draft =>
      replace hne : kind ≠ created := hne
      change (store.create created target draft).1.shelf kind = _
      cases hposition : store.positionFor created target draft.position with
      | error cause => rw [create_of_error hposition, shelf_takeNumber]
      | ok position =>
          rw [create_of_ok hposition, shelf_withShelf_of_ne _ hne, shelf_takeNumber]
  | upsert stored item =>
      replace hne : kind ≠ stored := hne
      change (store.upsert stored item).1.shelf kind = _
      cases hprevious : store.get? stored item.id with
      | some previous => rw [upsert_of_some hprevious, shelf_withShelf_of_ne _ hne]
      | none =>
          obtain ⟨numbered, kept, hshelf, -, -, -, heq⟩ := upsert_of_none hprevious
          rw [heq, shelf_withShelf_of_ne _ hne, hshelf]
  | delete deleted id =>
      change (store.delete deleted id).1.shelf kind = _
      unfold delete
      cases store.get? deleted id with
      | none => rfl
      | some item => exact shelf_withShelf_of_ne _ hne _
  | write writer batch =>
      cases hwrite : store.writePositions writer batch with
      | error cause => simp only [apply, hwrite]
      | ok written =>
          obtain ⟨-, -, rfl⟩ := writePositions_eq_ok_iff.mp hwrite
          simp only [apply, hwrite]
          exact shelf_withShelf_of_ne _ hne _

/-- What an operation makes of the shelf of its kind: it leaves it, stores or
erases an item, or repositions some.  The containers it counts up are told with
it. -/
theorem shelf_apply (change : Change) :
    (store.apply change).shelf change.kind = store.shelf change.kind ∨
    (∃ item containers, (store.apply change).shelf change.kind =
        ((store.shelf change.kind).put item).bump containers ∧
      item.container ∈ containers ∧
      ∀ previous, store.get? change.kind item.id = some previous →
        previous.container ∉ containers →
          change.TakesFrom store change.kind previous.container) ∨
    (∃ item, store.get? change.kind item.id = some item ∧
      (store.apply change).shelf change.kind =
        ((store.shelf change.kind).erase item.id).bump [item.container]) ∨
    (∃ batch, change = .write change.kind batch ∧
      (store.apply change).shelf change.kind =
        ((store.shelf change.kind).reposition batch.positions batch.containers).bump
          batch.expected.keys) := by
  cases change with
  | create kind target draft =>
      change (store.create kind target draft).1.shelf kind = _ ∨ _
      cases hposition : store.positionFor kind target draft.position with
      | error cause =>
          left
          rw [create_of_error hposition]
          exact shelf_takeNumber kind
      | ok position =>
          right; left
          refine ⟨store.drafted kind target draft position, [target], ?_, ?_, ?_⟩
          · change (store.create kind target draft).1.shelf kind = _
            rw [create_of_ok hposition, shelf_withShelf_self]
            rfl
          · exact List.mem_singleton_self target
          · intro previous hprevious hleft
            refine ⟨rfl, ?_, ⟨position, hposition⟩, previous, hprevious, rfl⟩
            rintro rfl
            exact hleft (List.mem_singleton_self _)
  | upsert kind item =>
      right; left
      cases hprevious : store.get? kind item.id with
      | some previous =>
          refine ⟨item, [item.container, previous.container], ?_, List.mem_cons_self, ?_⟩
          · change (store.upsert kind item).1.shelf kind = _
            rw [upsert_of_some hprevious, shelf_withShelf_self]
            rfl
          · intro other hother
            rw [Change.kind, hprevious] at hother
            obtain rfl := Option.some.inj hother
            exact absurd (List.mem_cons_of_mem _ List.mem_cons_self)
      | none =>
          obtain ⟨numbered, stored, -, hid, hcontainer, -, heq⟩ := upsert_of_none hprevious
          refine ⟨stored, [item.container], ?_, by simp [hcontainer], ?_⟩
          · change (store.upsert kind item).1.shelf kind = _
            rw [heq, shelf_withShelf_self]
            rfl
          · intro other hother
            rw [Change.kind, hid, hprevious] at hother
            cases hother
  | delete kind id =>
      cases hitem : store.get? kind id with
      | none =>
          left
          simp [apply, delete, Change.kind, hitem]
      | some item =>
          right; right; left
          obtain ⟨-, rfl⟩ := Shelf.get?_eq_some_iff.mp hitem
          refine ⟨item, hitem, ?_⟩
          simp [apply, delete, Change.kind, hitem]
  | write kind batch =>
      cases hwrite : store.writePositions kind batch with
      | error cause =>
          left
          simp [apply, Change.kind, hwrite]
      | ok written =>
          right; right; right
          obtain ⟨-, -, rfl⟩ := writePositions_eq_ok_iff.mp hwrite
          refine ⟨batch, rfl, ?_⟩
          simp [apply, Change.kind, hwrite]

theorem version_le_apply (store : Store) (kind : Kind) (container : String) (change : Change) :
    store.version kind container ≤ (store.apply change).version kind container := by
  have hbump (shelf : Shelf) (containers : List String) :
      shelf.versions container ≤ (shelf.bump containers).versions container := by
    rw [Shelf.versions_bump]
    split <;> omega
  unfold version
  by_cases hkind : kind = change.kind
  · subst hkind
    rcases store.shelf_apply change with
      hshelf | ⟨item, containers, hshelf, -⟩ | ⟨item, -, hshelf⟩ | ⟨batch, -, hshelf⟩
    · exact Nat.le_of_eq (by rw [hshelf])
    · rw [hshelf]
      exact hbump _ _
    · rw [hshelf]
      exact hbump _ _
    · rw [hshelf]
      exact hbump _ _
  · exact Nat.le_of_eq (by rw [shelf_apply_of_ne hkind])

theorem version_le_applyAll (store : Store) (kind : Kind) (container : String)
    (changes : List Change) :
    store.version kind container ≤ (store.applyAll changes).version kind container := by
  induction changes generalizing store with
  | nil => exact Nat.le_refl _
  | cons change rest ih => exact Nat.le_trans (version_le_apply store kind container change) (ih _)

/-- An operation that leaves a version leaves the members of the container, unless
it takes one away unseen. -/
theorem members_apply {change : Change} (hnamed : change.Named store)
    (hkept : ¬ change.TakesFrom store kind container)
    (hversion : (store.apply change).version kind container = store.version kind container) :
    (store.apply change).members kind container = store.members kind container := by
  have hbump (shelf : Shelf) {containers : List String}
      (heq : (shelf.bump containers).versions container = shelf.versions container) :
      container ∉ containers := by
    intro hmem
    rw [Shelf.versions_bump, if_pos hmem] at heq
    omega
  unfold version at hversion
  unfold members
  by_cases hkind : kind = change.kind
  · subst hkind
    rcases store.shelf_apply change with
      hshelf | ⟨item, containers, hshelf, hitem, htaken⟩ | ⟨item, hget, hshelf⟩ |
      ⟨batch, hbatch, hshelf⟩
    · rw [hshelf]
    · rw [hshelf] at hversion ⊢
      have hfree := hbump ((store.shelf change.kind).put item) hversion
      refine Shelf.members_put_of_ne (fun heq => hfree (heq ▸ hitem)) ?_
      rintro previous hprevious rfl
      exact hkept (htaken previous hprevious hfree)
    · rw [hshelf] at hversion ⊢
      have hfree := hbump ((store.shelf change.kind).erase item.id) hversion
      exact Shelf.members_erase_of_ne hget fun heq => hfree (by simp [heq])
    · rw [hshelf] at hversion ⊢
      have hfree := hbump ((store.shelf change.kind).reposition _ _) hversion
      rw [hbatch] at hnamed
      apply Shelf.members_reposition_of_not_mem
      · rintro item hitem hnames rfl
        exact hfree (hnamed.1 item hitem hnames)
      · rintro entry hentry rfl
        exact hfree (hnamed.2 entry hentry)
  · rw [shelf_apply_of_ne hkind]

/-- What a creation takes away goes unseen: the version stays and the item is
gone. -/
theorem apply_of_takesFrom {change : Change} (htakes : change.TakesFrom store kind container) :
    (store.apply change).version kind container = store.version kind container ∧
      (store.apply change).view kind container ≠ store.view kind container := by
  cases change with
  | upsert | delete | write => exact htakes.elim
  | create created target draft =>
      obtain ⟨rfl, hne, ⟨position, hposition⟩, old, hold, hstood⟩ := htakes
      obtain ⟨hstored, hid⟩ := Shelf.get?_eq_some_iff.mp hold
      have hshelf : (store.apply (.create created target draft)).shelf created =
          ((store.shelf created).put (store.drafted created target draft position)).bump
            [target] := by
        change (store.create created target draft).1.shelf created = _
        rw [create_of_ok hposition, shelf_withShelf_self]
      constructor
      · rw [version, hshelf, Shelf.versions_bump, if_neg (by simpa using hne.symm)]
        rfl
      · intro hview
        have hseen : old.snapshot ∈ store.view created container :=
          List.mem_map_of_mem (Shelf.mem_contents.mpr ⟨hstored, hstood⟩)
        rw [← hview, view, List.mem_map] at hseen
        obtain ⟨kept, hkept, heq⟩ := hseen
        rw [contents, hshelf] at hkept
        have hkeptId : kept.id = old.id := congrArg Sibling.id heq
        obtain ⟨hmem, hhere⟩ := Shelf.mem_contents.mp hkept
        rcases Shelf.mem_put.mp hmem with rfl | ⟨-, hother⟩
        · exact hne hhere
        · exact hother (hkeptId.trans hid)

/-- In a run that takes nothing from a container unseen, an unchanged version
stands for unchanged members. -/
theorem members_applyAll {changes : List Change}
    (halong : Along Store.apply
      (fun state change => change.Named state ∧ ¬ change.TakesFrom state kind container)
      store changes)
    (hversion : (store.applyAll changes).version kind container =
      store.version kind container) :
    (store.applyAll changes).members kind container = store.members kind container := by
  induction changes generalizing store with
  | nil => rfl
  | cons change rest ih =>
      obtain ⟨⟨hnamed, hkept⟩, halong⟩ := halong
      change ((store.apply change).applyAll rest).version kind container = _ at hversion
      change ((store.apply change).applyAll rest).members kind container = _
      -- Versions only grow, so the one in between is the same too.
      have hfirst := version_le_apply store kind container change
      have hrest := version_le_applyAll (store.apply change) kind container rest
      rw [ih halong (by omega), members_apply hnamed hkept (by omega)]

end Store

/-- No operation lowers a version.  One that names what it touches changes the view
of a container without counting it up exactly when it is a creation that stores
its item elsewhere under the id of a member.  In a run without such creations
two views at one version are equal. -/
theorem version_law (store : Store) (kind : Kind) (container : String) :
    (∀ change, store.version kind container ≤ (store.apply change).version kind container) ∧
    (∀ change : Change, change.Named store →
      ((store.apply change).view kind container ≠ store.view kind container ∧
          ¬ store.version kind container < (store.apply change).version kind container ↔
        change.TakesFrom store kind container)) ∧
    (∀ changes, Along Store.apply
        (fun state change => change.Named state ∧ ¬ change.TakesFrom state kind container)
        store changes →
      (store.applyAll changes).version kind container = store.version kind container →
      (store.applyAll changes).view kind container = store.view kind container) := by
  refine ⟨fun change => store.version_le_apply kind container change, ?_, ?_⟩
  · intro change hnamed
    constructor
    · rintro ⟨hview, hversion⟩
      by_contra hkept
      have hle := store.version_le_apply kind container change
      exact hview (Store.view_eq_of_members_eq (Store.members_apply hnamed hkept (by omega)))
    · intro htakes
      obtain ⟨hversion, hview⟩ := Store.apply_of_takesFrom htakes
      exact ⟨hview, by omega⟩
  · intro changes halong hversion
    exact Store.view_eq_of_members_eq (Store.members_applyAll halong hversion)

/-- One card, on the list "a". -/
def oneCard : Store :=
  Store.empty.applyAll [.create .card "a" ⟨[], some (.zero false), some "X"⟩]

theorem version_law_oneCard :
    let taking : Change := .create .card "b" ⟨[], some (.zero false), some "X"⟩
    let elsewhere : Change := .upsert .card ⟨"Y", "b", .zero false, 0, []⟩
    (taking.Named oneCard ∧ taking.TakesFrom oneCard .card "a" ∧
      (oneCard.apply taking).view .card "a" ≠ oneCard.view .card "a" ∧
      ¬ oneCard.version .card "a" < (oneCard.apply taking).version .card "a") ∧
    Along Store.apply
      (fun state change => change.Named state ∧ ¬ change.TakesFrom state .card "a") oneCard
      [elsewhere] ∧
    (oneCard.applyAll [elsewhere]).version .card "a" = oneCard.version .card "a" ∧
    (oneCard.applyAll [elsewhere]).view .card "a" = oneCard.view .card "a" := by
  intro taking elsewhere
  have htakes : taking.TakesFrom oneCard .card "a" :=
    ⟨rfl, by decide, ⟨.zero false, rfl⟩, ⟨"X", "a", .zero false, 1, []⟩, by decide, rfl⟩
  have halong : Along Store.apply
      (fun state change => change.Named state ∧ ¬ change.TakesFrom state .card "a") oneCard
      [elsewhere] :=
    ⟨⟨trivial, id⟩, trivial⟩
  exact ⟨⟨trivial, htakes, ((version_law oneCard .card "a").2.1 taking trivial).mpr htakes⟩,
    halong, rfl, (version_law oneCard .card "a").2.2 [elsewhere] halong rfl⟩

end Kanban
