/-
Writes of positions as one swap.  A batch is turned down for the first version that
differs, or else for the first item that is not stored, and then nothing changes; any
other batch is written, all of it and nothing besides.  It makes no difference that the
entries of a batch are written one after the other.
-/
import Kanban.Proofs.Store.Versions

namespace Kanban

theorem Mapping.get?_append {A : Type} (key : String) (front back : Mapping A) :
    Mapping.get? key (front ++ back) = (Mapping.get? key front).or (Mapping.get? key back) := by
  induction front with
  | nil => rfl
  | cons entry rest ih =>
      rw [List.cons_append, Mapping.get?, Mapping.get?, ih]
      split <;> rfl

/-- What two mappings without a common key give in turn, both give together. -/
theorem Mapping.getD_append {A : Type} {front back : Mapping A} {key : String}
    (hapart : key ∈ front.keys → key ∉ back.keys) (value : A) :
    (Mapping.get? key back).getD ((Mapping.get? key front).getD value) =
      (Mapping.get? key (front ++ back)).getD value := by
  rw [Mapping.get?_append]
  cases hfront : Mapping.get? key front with
  | none => rfl
  | some found =>
      have hmem : key ∈ front.keys := by
        by_contra habsent
        rw [Mapping.get?_eq_none_iff.mpr habsent] at hfront
        cases hfront
      rw [Mapping.get?_eq_none_iff.mpr (hapart hmem)]
      rfl

namespace Shelf

variable {shelf : Shelf}

theorem reposition_append {positions others : Mapping Binary64}
    {containers targets : Mapping String}
    (hpositions : ∀ id ∈ positions.keys, id ∉ others.keys)
    (hcontainers : ∀ id ∈ containers.keys, id ∉ targets.keys) :
    (shelf.reposition positions containers).reposition others targets =
      shelf.reposition (positions ++ others) (containers ++ targets) := by
  refine Shelf.ext ?_ rfl
  change (shelf.items.map _).map _ = shelf.items.map _
  rw [List.map_map]
  apply List.map_congr_left
  intro item _
  simp only [Function.comp_apply, Item.reposition,
    Mapping.getD_append (hpositions item.id), Mapping.getD_append (hcontainers item.id)]

theorem reposition_nil : shelf.reposition [] [] = shelf :=
  Shelf.ext (List.map_id _) rfl

theorem bump_nil : shelf.bump [] = shelf := by
  refine Shelf.ext rfl ?_
  funext container
  rw [versions_bump, if_neg List.not_mem_nil]

theorem bump_cons {container : String} {rest : List String} (hnew : container ∉ rest) :
    (shelf.bump [container]).bump rest = shelf.bump (container :: rest) := by
  refine Shelf.ext rfl ?_
  funext other
  simp only [versions_bump, List.mem_cons, List.not_mem_nil, or_false]
  by_cases hsame : other = container
  · subst hsame
    simp [hnew]
  · simp [hsame]

/-- Writing entries one after the other writes all of them, if their keys are distinct and
an entry may be written ahead of others. -/
theorem foldl_entries {E : Type} (key : E → String) (write : List E → Shelf → Shelf)
    (hnil : ∀ shelf, write [] shelf = shelf)
    (hcons : ∀ entry rest shelf, key entry ∉ rest.map key →
      write rest (write [entry] shelf) = write (entry :: rest) shelf)
    {entries : List E} (hdistinct : (entries.map key).Nodup) (shelf : Shelf) :
    entries.foldl (fun current entry => write [entry] current) shelf = write entries shelf := by
  induction entries generalizing shelf with
  | nil => exact (hnil shelf).symm
  | cons entry rest ih =>
      obtain ⟨hnew, hrest⟩ := List.nodup_cons.mp hdistinct
      rw [List.foldl_cons, ih hrest, hcons entry rest shelf hnew]

/-- A batch written entry by entry: one position after the other, then one container after
the other, and a count for every container that is expected. -/
def writeInTurn (shelf : Shelf) (batch : Batch) : Shelf :=
  let placed := batch.positions.foldl (fun current entry => current.reposition [entry] []) shelf
  let moved := batch.containers.foldl (fun current entry => current.reposition [] [entry]) placed
  batch.expected.keys.foldl (fun current container => current.bump [container]) moved

end Shelf

namespace Batch

/-- No key of the batch stands twice. -/
structure Distinct (batch : Batch) : Prop where
  expected : batch.expected.keys.Nodup
  positions : batch.positions.keys.Nodup
  containers : batch.containers.keys.Nodup

/-- All versions are as the batch expects them. -/
def Current (batch : Batch) (store : Store) (kind : Kind) : Prop :=
  ∀ entry ∈ batch.expected, entry.2 = (store.version kind entry.1 : Int)

instance (batch : Batch) (store : Store) (kind : Kind) : Decidable (batch.Current store kind) :=
  inferInstanceAs (Decidable (∀ entry ∈ batch.expected, _))

/-- The ids that the batch names, those with new positions first. -/
def ids (batch : Batch) : List String :=
  batch.positions.keys ++ batch.containers.keys

/-- All items are stored that the batch names. -/
def Stored (batch : Batch) (store : Store) (kind : Kind) : Prop :=
  ∀ id ∈ batch.ids, ∃ item, store.get? kind id = some item

/-- The conflict names the first container whose version differs, with both versions. -/
def FirstStale (batch : Batch) (store : Store) (kind : Kind) (cause : Conflict) : Prop :=
  ∃ front container version rest, batch.expected = front ++ (container, version) :: rest ∧
    (∀ entry ∈ front, entry.2 = (store.version kind entry.1 : Int)) ∧
    version ≠ (store.version kind container : Int) ∧
    cause = .stale container version (store.version kind container)

/-- The id is the first of the batch that is not stored. -/
def FirstMissing (batch : Batch) (store : Store) (kind : Kind) (id : String) : Prop :=
  ∃ front rest, batch.ids = front ++ id :: rest ∧
    (∀ other ∈ front, ∃ item, store.get? kind other = some item) ∧ store.get? kind id = none

/-- The store after a write that applied: named items have their new positions and
containers, expected containers have counted it, and the answer tells their versions; the
rest is as before.  The batch may have been written entry by entry. -/
structure Swapped (batch : Batch) (kind : Kind) (before after : Store) : Prop where
  items : ∀ id, after.get? kind id = (before.get? kind id).map fun item =>
    { item with
      position := (Mapping.get? id batch.positions).getD item.position
      container := (Mapping.get? id batch.containers).getD item.container }
  versions : ∀ container, after.version kind container =
    before.version kind container + if container ∈ batch.expected.keys then 1 else 0
  elsewhere : ∀ other, other ≠ kind → after.shelf other = before.shelf other
  counter : after.counter = before.counter
  answer : (after.versionsOf kind batch).map (fun entry => (entry.1, (entry.2 : Int))) =
    batch.expected.map fun entry => (entry.1, entry.2 + 1)
  inTurn : batch.Distinct → after.shelf kind = (before.shelf kind).writeInTurn batch

end Batch

theorem Shelf.writeInTurn_eq {batch : Batch} (hdistinct : batch.Distinct) (shelf : Shelf) :
    shelf.writeInTurn batch =
      (shelf.reposition batch.positions batch.containers).bump batch.expected.keys := by
  have hplaced := foldl_entries Prod.fst (fun entries current => current.reposition entries [])
    (fun _ => reposition_nil)
    (fun _ _ _ hnew => reposition_append (by simpa [Mapping.keys] using hnew)
      (by simp [Mapping.keys]))
    hdistinct.positions shelf
  have hmoved := foldl_entries Prod.fst (fun entries current => current.reposition [] entries)
    (fun _ => reposition_nil)
    (fun _ _ _ hnew => reposition_append (by simp [Mapping.keys])
      (by simpa [Mapping.keys] using hnew))
    hdistinct.containers (shelf.reposition batch.positions [])
  have hcounted := foldl_entries id (fun containers current => current.bump containers)
    (fun _ => bump_nil) (fun _ _ _ hnew => bump_cons (by simpa using hnew))
    (by simpa using hdistinct.expected) (shelf.reposition batch.positions batch.containers)
  have htogether : (shelf.reposition batch.positions []).reposition [] batch.containers =
      shelf.reposition batch.positions batch.containers := by
    rw [reposition_append (by simp [Mapping.keys]) (by simp [Mapping.keys]), List.append_nil,
      List.nil_append]
  rw [writeInTurn, hplaced, hmoved, htogether]
  exact hcounted

namespace Store

variable {store : Store} {kind : Kind} {batch : Batch}

theorem swapped_of_current (hcurrent : batch.Current store kind) :
    batch.Swapped kind store (store.withShelf kind
      (((store.shelf kind).reposition batch.positions batch.containers).bump
        batch.expected.keys)) := by
  have hversions (container : String) :
      (store.withShelf kind (((store.shelf kind).reposition batch.positions
        batch.containers).bump batch.expected.keys)).version kind container =
      store.version kind container + if container ∈ batch.expected.keys then 1 else 0 := by
    rw [version, shelf_withShelf_self, Shelf.versions_bump]
    split <;> rfl
  constructor
  · intro id
    rw [get?, shelf_withShelf_self, Shelf.get?_bump, Shelf.get?_reposition]
    refine Option.map_congr fun item hitem => ?_
    rw [Item.reposition, (Shelf.get?_eq_some_iff.mp hitem).2]
  · exact hversions
  · exact fun other hother => shelf_withShelf_of_ne store hother _
  · exact counter_withShelf store kind _
  · rw [versionsOf, List.map_map]
    apply List.map_congr_left
    intro entry hentry
    have hkey : entry.1 ∈ batch.expected.keys := List.mem_map_of_mem hentry
    simp only [Function.comp_apply, hversions, if_pos hkey, hcurrent entry hentry]
    rfl
  · intro hdistinct
    rw [shelf_withShelf_self, Shelf.writeInTurn_eq hdistinct]

end Store

/-- A write of positions is all or nothing.  It is turned down for a conflict exactly if some
version differs, and the conflict names the first that does; it is turned down for a missing
item exactly if all versions agree and an item is not stored, and then for the first such id.
Whatever turns it down leaves the store as it is.  With the versions as expected and all
items stored it applies. -/
theorem write_all_or_nothing (store : Store) (kind : Kind) (batch : Batch) :
    ((∃ cause, store.writePositions kind batch = .error (.conflict cause)) ↔
        ¬ batch.Current store kind) ∧
    (∀ cause, store.writePositions kind batch = .error (.conflict cause) ↔
        batch.FirstStale store kind cause) ∧
    ((∃ id, store.writePositions kind batch = .error (.missing id)) ↔
        batch.Current store kind ∧ ¬ batch.Stored store kind) ∧
    (∀ id, store.writePositions kind batch = .error (.missing id) ↔
        batch.Current store kind ∧ batch.FirstMissing store kind id) ∧
    (∀ cause, store.writePositions kind batch = .error cause →
        store.apply (.write kind batch) = store) ∧
    (batch.Current store kind → batch.Stored store kind →
      ∃ written, store.writePositions kind batch = .ok written ∧
        store.apply (.write kind batch) = written ∧ batch.Swapped kind store written) := by
  have hconflict : (∃ cause, store.writePositions kind batch = .error (.conflict cause)) ↔
      ¬ batch.Current store kind := by
    simp only [Store.writePositions_eq_conflict_iff, ← Option.ne_none_iff_exists']
    exact not_congr Store.stale?_eq_none_iff
  have hmissing : (∃ id, store.writePositions kind batch = .error (.missing id)) ↔
      batch.Current store kind ∧ ¬ batch.Stored store kind := by
    simp only [Store.writePositions_eq_missing_iff, exists_and_left, ← Option.ne_none_iff_exists']
    exact and_congr Store.stale?_eq_none_iff (not_congr Store.missing?_eq_none_iff)
  refine ⟨hconflict, fun cause => ?_, hmissing, fun id => ?_, fun cause hcause => ?_,
    fun hcurrent hstored => ?_⟩
  · exact Store.writePositions_eq_conflict_iff.trans Store.stale?_eq_some_iff
  · rw [Store.writePositions_eq_missing_iff]
    exact and_congr Store.stale?_eq_none_iff Store.missing?_eq_some_iff
  · rw [Store.apply, hcause]
  · have hwrite := Store.writePositions_eq_ok_iff.mpr
      ⟨Store.stale?_eq_none_iff.mpr hcurrent, Store.missing?_eq_none_iff.mpr hstored, rfl⟩
    refine ⟨_, hwrite, ?_, Store.swapped_of_current hcurrent⟩
    rw [Store.apply, hwrite]

/-- A card on each of two lists. -/
def cardEach : Store :=
  Store.empty.applyAll
    [.create .card "a" ⟨[], some (.zero false), some "X"⟩,
      .create .card "b" ⟨[], some (.zero true), some "Y"⟩]

/-- A batch that brings one card to the other applies; one that expects an old version of the
second list conflicts there, whatever it names; and one that names unknown cards is turned
down for the first of them, with an unseen list at version 0. -/
theorem write_all_or_nothing_cardEach :
    let joining : Batch := ⟨[("b", 1), ("a", 1)], [("X", .infinite false)], [("X", "b")]⟩
    let late : Batch := ⟨[("a", 1), ("b", 0), ("c", 7)], [("Z", .zero false)], []⟩
    let unknown : Batch := ⟨[("c", 0)], [("X", .zero true), ("Z", .zero true)], [("W", "c")]⟩
    ((joining.Current cardEach .card ∧ joining.Stored cardEach .card) ∧
      ∃ written, cardEach.writePositions .card joining = .ok written ∧
        joining.Swapped .card cardEach written ∧
        (written.contents .card "b").map Item.id = ["Y", "X"]) ∧
    (cardEach.writePositions .card late = .error (.conflict (.stale "b" 0 1)) ∧
      cardEach.apply (.write .card late) = cardEach) ∧
    cardEach.writePositions .card unknown = .error (.missing "Z") ∧
      cardEach.apply (.write .card unknown) = cardEach := by
  intro joining late unknown
  have hcurrent : joining.Current cardEach .card := by decide +kernel
  have hstored : joining.Stored cardEach .card :=
    Store.missing?_eq_none_iff.mp (by decide +kernel)
  obtain ⟨-, -, -, -, -, happlies⟩ := write_all_or_nothing cardEach .card joining
  obtain ⟨written, hwrite, -, hswapped⟩ := happlies hcurrent hstored
  have hlate := (write_all_or_nothing cardEach .card late).2.1 (.stale "b" 0 1)
  have hunknown := (write_all_or_nothing cardEach .card unknown).2.2.2.1 "Z"
  have hkept (batch : Batch) := (write_all_or_nothing cardEach .card batch).2.2.2.2.1
  have hconflict := hlate.mpr
    ⟨[("a", 1)], "b", 0, [("c", 7)], rfl, by decide +kernel, by decide +kernel, by decide +kernel⟩
  have hfirst : ∀ other ∈ ["X"], ∃ item, cardEach.get? .card other = some item := by
    intro other hother
    obtain rfl := List.mem_singleton.mp hother
    exact ⟨⟨"X", "a", .zero false, 1, []⟩, by decide +kernel⟩
  have hmissing := hunknown.mpr ⟨by decide +kernel, ["X"], ["W"], rfl, hfirst, by decide +kernel⟩
  refine ⟨⟨⟨hcurrent, hstored⟩, written, hwrite, hswapped, ?_⟩, ⟨hconflict, hkept late _ hconflict⟩,
    hmissing, hkept unknown _ hmissing⟩
  have hcontents : (cardEach.writePositions .card joining).map
      (fun after => (after.contents .card "b").map Item.id) = .ok ["Y", "X"] := by
    decide +kernel
  rw [hwrite] at hcontents
  exact Except.ok.inj hcontents

end Kanban
