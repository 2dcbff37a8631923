/-
The board as plain lists.  What users of a board see are lists of ids: a creation
appends to one, a deletion erases from one, and a move takes an id out of its list
and inserts it at the index asked for.  Positions, creation numbers, midpoints and
renumberings are not part of this picture, and every run follows it.
-/
import Mathlib.Data.List.InsertIdx
import Kanban.Proofs.Move.Arrangement
import Kanban.Proofs.Run
import Kanban.Proofs.Store.Regular

namespace Kanban

/-- One operation of a user: a creation at the end of a container, a deletion, or
a move that nothing interferes with. -/
inductive Operation where
  | create (kind : Kind) (container : String) (payload : Entries) (id : Option String)
  | delete (kind : Kind) (id : String)
  | move (kind : Kind) (request : MoveRequest)

def Store.perform (policy : MovePolicy) (store : Store) : Operation → Store
  | .create kind container payload id => (store.create kind container ⟨payload, none, id⟩).1
  | .delete kind id => (store.delete kind id).1
  | .move kind request => (store.move policy kind request).1

/-- Whether an operation does what it is asked for. -/
def Store.accepts (policy : MovePolicy) (store : Store) : Operation → Bool
  | .create kind container payload id => (store.create kind container ⟨payload, none, id⟩).2.isOk
  | .delete kind id => (store.delete kind id).2
  | .move kind request => (store.move policy kind request).2.isOk

/-- A creation takes an id that is not in use, and the target of a move has fewer
than 2^53 items. -/
def Operation.Admissible (store : Store) : Operation → Prop
  | .create kind _ _ id => store.get? kind (Store.idFor kind (store.counter + 1) id) = none
  | .delete _ _ => True
  | .move kind request => (store.contents kind request.target).length < Nat.pow 2 53

instance (store : Store) : (op : Operation) → Decidable (op.Admissible store)
  | .create .. => inferInstanceAs (Decidable (_ = _))
  | .delete .. => inferInstanceAs (Decidable True)
  | .move .. => inferInstanceAs (Decidable (_ < _))

/-- Containers as plain lists of ids, with the container of every id and the number
of things created so far. -/
@[ext]
structure Lineup where
  counter : Nat
  home : Kind → String → Option String
  ids : Kind → String → List String

namespace Lineup

def settle (lineup : Lineup) (kind : Kind) (id : String) (container : Option String) : Lineup :=
  { lineup with
    home := fun other key =>
      if other = kind ∧ key = id then container else lineup.home other key }

def relist (lineup : Lineup) (kind : Kind) (container : String) (ids : List String) : Lineup :=
  { lineup with
    ids := fun other key =>
      if other = kind ∧ key = container then ids else lineup.ids other key }

def append (lineup : Lineup) (kind : Kind) (container id : String) : Lineup :=
  ({ lineup with counter := lineup.counter + 1 }.settle kind id (some container)).relist kind
    container (lineup.ids kind container ++ [id])

def erase (lineup : Lineup) (kind : Kind) (container id : String) : Lineup :=
  (lineup.settle kind id none).relist kind container ((lineup.ids kind container).erase id)

/-- Take an id out of its list and insert it into the target at an index, forced
into the places that there are. -/
def transfer (lineup : Lineup) (kind : Kind) (source target id : String) (index : Int) :
    Lineup :=
  let rest := (lineup.ids kind target).erase id
  let place := (max 0 (min index rest.length)).toNat
  ((lineup.settle kind id (some target)).relist kind source
    ((lineup.ids kind source).erase id)).relist kind target (rest.insertIdx place id)

/-- The container from which a move takes its item.  A list has to stand on the
target board already. -/
def reachable (lineup : Lineup) (kind : Kind) (request : MoveRequest) : Option String :=
  (lineup.home kind request.id).filter fun source =>
    decide (kind = .list → source = request.target)

/-- A move succeeds if it names an index and its item is within reach.  Within one
container an index that is the one it comes from leaves the list as it is. -/
def perform (lineup : Lineup) : Operation → Lineup
  | .create kind container _ id =>
      lineup.append kind container (Store.idFor kind (lineup.counter + 1) id)
  | .delete kind id =>
      match lineup.home kind id with
      | none => lineup
      | some container => lineup.erase kind container id
  | .move kind request =>
      match request.toIndex, lineup.reachable kind request with
      | some toIndex, some source =>
          if source = request.target ∧ request.fromIndex = some toIndex then lineup
          else lineup.transfer kind source request.target request.id toIndex
      | _, _ => lineup

def accepts (lineup : Lineup) : Operation → Bool
  | .create .. => true
  | .delete kind id => (lineup.home kind id).isSome
  | .move kind request => request.toIndex.isSome && (lineup.reachable kind request).isSome

end Lineup

/-- What a store looks like to its users. -/
def Store.lineup (store : Store) : Lineup where
  counter := store.counter
  home kind id := (store.get? kind id).map Item.container
  ids kind container := (store.contents kind container).map Item.id

variable {store : Store} {kind : Kind} {container : String}

/-- A store with one shelf exchanged, seen as lists of ids. -/
theorem lineup_withShelf {shelf : Shelf} {lineup : Lineup}
    (hcounter : lineup.counter = store.counter)
    (hothers : ∀ other, other ≠ kind →
      lineup.home other = store.lineup.home other ∧ lineup.ids other = store.lineup.ids other)
    (hhome : ∀ id, lineup.home kind id = (shelf.get? id).map Item.container)
    (hids : ∀ container, lineup.ids kind container = (shelf.contents container).map Item.id) :
    (store.withShelf kind shelf).lineup = lineup := by
  apply Lineup.ext
  · exact (store.counter_withShelf kind shelf).trans hcounter.symm
  · funext other id
    change (((store.withShelf kind shelf).shelf other).get? id).map Item.container = _
    by_cases hkind : other = kind
    · subst hkind
      rw [Store.shelf_withShelf_self, hhome]
    · rw [Store.shelf_withShelf_of_ne _ hkind, (hothers other hkind).1]
      rfl
  · funext other container
    change (((store.withShelf kind shelf).shelf other).contents container).map Item.id = _
    by_cases hkind : other = kind
    · subst hkind
      rw [Store.shelf_withShelf_self, hids]
    · rw [Store.shelf_withShelf_of_ne _ hkind, (hothers other hkind).2]
      rfl

theorem erase_ids (shelf : Shelf) (container id : String) :
    ((shelf.contents container).map Item.id).erase id =
      (shelf.others container id).map Item.id := by
  rw [(shelf.ids_contents_nodup container).erase_eq_filter, Shelf.others, List.filter_map]
  refine congrArg (List.map Item.id) (List.filter_congr ?_)
  intro item _
  by_cases hid : item.id = id <;> simp [hid]

/-- Creation appends. -/
theorem lineup_create (hregular : store.Regular) {payload : Entries} {id : Option String}
    (hnew : store.get? kind (Store.idFor kind (store.counter + 1) id) = none) :
    (store.create kind container ⟨payload, none, id⟩).1.lineup =
        store.lineup.append kind container (Store.idFor kind (store.counter + 1) id) ∧
      (store.create kind container ⟨payload, none, id⟩).1.Regular ∧
      (store.create kind container ⟨payload, none, id⟩).2.isOk = true := by
  obtain ⟨item, hcreate, hid, hcontainer, hfinite, hseq, hcontents⟩ :=
    hregular.exists_created container (show Draft.position ⟨payload, none, id⟩ = none from rfl)
      hnew
  replace hid : item.id = Store.idFor kind (store.counter + 1) id := hid
  rw [← hid] at hnew ⊢
  rw [hcreate]
  refine ⟨?_, ?_, rfl⟩
  · apply lineup_withShelf
    · rfl
    · intro other hkind
      simp [Lineup.append, Lineup.settle, Lineup.relist, hkind, Store.lineup, Store.get?,
        Store.contents]
    · intro key
      rw [Shelf.get?_bump, Shelf.get?_put]
      by_cases hkey : key = item.id
      · simp [Lineup.append, Lineup.settle, Lineup.relist, hkey, hcontainer]
      · simp [Lineup.append, Lineup.settle, Lineup.relist, hkey, Store.lineup, Store.get?]
    · intro key
      change _ = (((store.shelf kind).put item).contents key).map Item.id
      by_cases hkey : key = container
      · subst hkey
        rw [hcontents]
        simp [Lineup.append, Lineup.settle, Lineup.relist, Store.lineup, Store.contents]
      · rw [Shelf.contents_eq, Shelf.members_put_of_ne]
        · simp [Lineup.append, Lineup.settle, Lineup.relist, hkey, Store.lineup, Store.contents,
            Shelf.contents_eq]
        · rw [hcontainer]
          exact Ne.symm hkey
        · intro previous hprevious
          rw [Store.get?, hprevious] at hnew
          cases hnew
  · have hgrown := hregular.takeNumber
    refine hgrown.withShelf ?_ ?_
    · intro other hother
      rcases Shelf.mem_put.mp hother with rfl | ⟨hother, -⟩
      · exact hfinite
      · exact hregular.finite kind other hother
    · intro other hother
      rcases Shelf.mem_put.mp hother with rfl | ⟨hother, -⟩
      · exact Int.le_of_eq hseq
      · refine hgrown.numbered kind other ?_
        rw [Store.shelf_takeNumber]
        exact hother

/-- Deletion erases. -/
theorem lineup_delete (hregular : store.Regular) {item : Item} {id : String}
    (hstored : store.get? kind id = some item) :
    (store.delete kind id).1.lineup = store.lineup.erase kind item.container id ∧
      (store.delete kind id).1.Regular ∧ (store.delete kind id).2 = true := by
  unfold Store.delete
  rw [hstored]
  refine ⟨?_, ?_, rfl⟩
  · apply lineup_withShelf
    · rfl
    · intro other hkind
      simp [Lineup.erase, Lineup.settle, Lineup.relist, hkind]
    · intro key
      rw [Shelf.get?_bump, Shelf.get?_erase]
      by_cases hkey : key = id
      · simp [Lineup.erase, Lineup.settle, Lineup.relist, hkey]
      · simp [Lineup.erase, Lineup.settle, Lineup.relist, hkey, Store.lineup, Store.get?]
    · intro key
      change _ = (((store.shelf kind).erase id).contents key).map Item.id
      by_cases hkey : key = item.container
      · subst hkey
        rw [Shelf.contents_eq_filter Shelf.members_erase fun other hother =>
          hregular.ne_nan hother]
        change _ = ((store.shelf kind).others item.container id).map Item.id
        rw [← erase_ids]
        simp [Lineup.erase, Lineup.settle, Lineup.relist, Store.lineup, Store.contents]
      · rw [Shelf.contents_eq, Shelf.members_erase_of_ne hstored (Ne.symm hkey)]
        simp [Lineup.erase, Lineup.settle, Lineup.relist, hkey, Store.lineup, Store.contents,
          Shelf.contents_eq]
  · refine hregular.withShelf ?_ ?_
    · intro other hother
      exact hregular.finite kind other (Shelf.mem_erase.mp hother).1
    · intro other hother
      exact hregular.numbered kind other (Shelf.mem_erase.mp hother).1

section

variable {policy : MovePolicy} {request : MoveRequest} {item : Item} {move : PlannedMove}
  {toIndex : Int}

/-- What a planned write leaves in a container other than the target. -/
theorem contents_left (hregular : store.Regular) (hitem : item ∈ (store.shelf kind).items)
    (hplan : store.plan policy kind request item = .planned move)
    (hne : request.target ≠ container) :
    ((store.shelf kind).reposition move.batch.positions move.batch.containers).contents container =
      (store.shelf kind).others container item.id := by
  have hkept : ∀ other ∈ (store.shelf kind).items, other.id ≠ item.id →
      other.container = container →
      other.reposition move.batch.positions move.batch.containers = other := by
    rintro other hother hid rfl
    exact (reposition_planned hitem hplan hother).2 hid hne.symm
  have hmembers := Shelf.members_reposition_of_left
    (fun other hother => (reposition_planned hitem hplan hother).1) hkept hne
  exact Shelf.contents_eq_filter hmembers fun other hother => hregular.ne_nan hother

/-- The ids of a container other than the target after a planned write. -/
theorem ids_left (hregular : store.Regular) (hitem : item ∈ (store.shelf kind).items)
    (hplan : store.plan policy kind request item = .planned move)
    (hne : request.target ≠ container) :
    (((store.shelf kind).reposition move.batch.positions move.batch.containers).contents
        container).map Item.id =
      (store.lineup.ids kind container).erase item.id := by
  rw [contents_left hregular hitem hplan hne]
  exact (erase_ids (store.shelf kind) container item.id).symm

/-- The ids of the target after a planned write. -/
theorem ids_arrived (hitem : item ∈ (store.shelf kind).items)
    (hplan : store.plan policy kind request item = .planned move)
    (hordered : (store.arrangement kind request.target item toIndex).Pairwise fun a b =>
      (a.reposition move.batch.positions move.batch.containers).position.lt
        (b.reposition move.batch.positions move.batch.containers).position = true)
    (hfinite : ∀ other ∈ store.arrangement kind request.target item toIndex,
      (other.reposition move.batch.positions move.batch.containers).position.IsFinite) :
    (((store.shelf kind).reposition move.batch.positions move.batch.containers).contents
        request.target).map Item.id =
      (((store.lineup.ids kind request.target).erase item.id).insertIdx
        (max 0 (min toIndex ((store.lineup.ids kind request.target).erase item.id).length)).toNat
        item.id) := by
  have harranged := Shelf.contents_reposition hitem
    (store.slot_le kind request.target item.id toIndex)
    (fun other hother => (reposition_planned hitem hplan hother).1)
    (fun other hother => (hfinite other hother).ne_nan) hordered
  have hids : (store.lineup.ids kind request.target).erase item.id =
      ((store.shelf kind).others request.target item.id).map Item.id :=
    erase_ids (store.shelf kind) request.target item.id
  rw [harranged, ids_map_of_id_eq (Item.id_reposition _ _), List.map_insertIdx, hids,
    List.length_map]
  rfl

/-- A planned write takes the id out of its list and puts it in its place. -/
theorem lineup_written (hregular : store.Regular) (hitem : item ∈ (store.shelf kind).items)
    (hid : item.id = request.id) (hplan : store.plan policy kind request item = .planned move)
    (hordered : (store.arrangement kind request.target item toIndex).Pairwise fun a b =>
      (a.reposition move.batch.positions move.batch.containers).position.lt
        (b.reposition move.batch.positions move.batch.containers).position = true)
    (hfinite : ∀ other ∈ store.arrangement kind request.target item toIndex,
      (other.reposition move.batch.positions move.batch.containers).position.IsFinite) :
    (store.withShelf kind (((store.shelf kind).reposition move.batch.positions
        move.batch.containers).bump move.batch.expected.keys)).lineup =
      store.lineup.transfer kind item.container request.target request.id toIndex := by
  rw [← hid]
  apply lineup_withShelf
  · rfl
  · intro other hkind
    simp [Lineup.transfer, Lineup.settle, Lineup.relist, hkind]
  · intro key
    rw [Shelf.get?_bump, Shelf.get?_reposition]
    cases hget : (store.shelf kind).get? key with
    | none =>
        have hne : key ≠ item.id := fun hkey =>
          Shelf.get?_eq_none_iff.mp hget item hitem hkey.symm
        simp [Lineup.transfer, Lineup.settle, Lineup.relist, hne, Store.lineup, Store.get?, hget]
    | some found =>
        obtain ⟨hfound, rfl⟩ := Shelf.get?_eq_some_iff.mp hget
        simp only [Option.map_some, (reposition_planned hitem hplan hfound).1]
        by_cases hkey : found.id = item.id
        · simp [Lineup.transfer, Lineup.settle, Lineup.relist, hkey]
        · simp [Lineup.transfer, Lineup.settle, Lineup.relist, hkey, Store.lineup, Store.get?,
            hget]
  · intro key
    change _ = (((store.shelf kind).reposition move.batch.positions
      move.batch.containers).contents key).map Item.id
    by_cases htarget : key = request.target
    · subst htarget
      rw [ids_arrived hitem hplan hordered hfinite]
      simp [Lineup.transfer, Lineup.settle, Lineup.relist]
    · rw [ids_left hregular hitem hplan (Ne.symm htarget)]
      by_cases hsource : key = item.container
      · subst hsource
        simp [Lineup.transfer, Lineup.settle, Lineup.relist, htarget]
      · rw [List.erase_of_not_mem]
        · simp [Lineup.transfer, Lineup.settle, Lineup.relist, htarget, hsource]
        · intro hmem
          obtain ⟨other, hother, hkey⟩ := List.mem_map.mp hmem
          obtain ⟨hstored, hhere⟩ := Shelf.mem_contents.mp hother
          rw [Shelf.eq_of_id_eq hstored hitem hkey] at hhere
          exact hsource hhere.symm

theorem Store.Regular.written (hregular : store.Regular)
    (hitem : item ∈ (store.shelf kind).items)
    (hplan : store.plan policy kind request item = .planned move)
    (hfinite : ∀ other ∈ store.arrangement kind request.target item toIndex,
      (other.reposition move.batch.positions move.batch.containers).position.IsFinite) :
    (store.withShelf kind (((store.shelf kind).reposition move.batch.positions
      move.batch.containers).bump move.batch.expected.keys)).Regular := by
  refine hregular.withShelf ?_ ?_
  · intro after hafter
    obtain ⟨other, hother, rfl⟩ := List.mem_map.mp hafter
    by_cases hid : other.id = item.id
    · rw [Shelf.eq_of_id_eq hother hitem hid]
      exact hfinite item (mem_arrangement.mpr (Or.inl rfl))
    · by_cases htarget : other.container = request.target
      · exact hfinite other
          (mem_arrangement.mpr (Or.inr (Shelf.mem_others.mpr ⟨⟨hother, htarget⟩, hid⟩)))
      · rw [(reposition_planned hitem hplan hother).2 hid htarget]
        exact hregular.finite kind other hother
  · intro after hafter
    obtain ⟨other, hother, rfl⟩ := List.mem_map.mp hafter
    exact hregular.numbered kind other hother

/-- What is within reach of a move is what it can load. -/
theorem reachable_of_ok (hload : store.load kind request = .ok item) :
    store.lineup.reachable kind request = some item.container := by
  obtain ⟨hget, hboard⟩ := load_eq_ok_iff.mp hload
  simp only [Lineup.reachable, Store.lineup, hget, Option.map_some, Option.filter_some,
    decide_eq_true hboard, ↓reduceIte]

theorem reachable_of_error {cause : MoveError} (hload : store.load kind request = .error cause) :
    store.lineup.reachable kind request = none := by
  change ((store.get? kind request.id).map Item.container).filter _ = none
  cases hget : store.get? kind request.id with
  | none => rfl
  | some found =>
      have hboard : ¬ (kind = .list → found.container = request.target) := by
        intro hboard
        rw [load_eq_ok_iff.mpr ⟨hget, hboard⟩] at hload
        cases hload
      simp only [Option.map_some, Option.filter_some, decide_eq_false hboard, Bool.false_eq_true,
        ↓reduceIte]

/-- Moving takes an id to its place. -/
theorem lineup_move (hthreshold : (Binary64.zero false).lt policy.threshold = true)
    (hretries : 0 ≤ policy.maxRetries) (hregular : store.Regular)
    (hlength : (store.contents kind request.target).length < Nat.pow 2 53) :
    (store.move policy kind request).1.lineup = store.lineup.perform (.move kind request) ∧
      (store.move policy kind request).1.Regular ∧
      (store.move policy kind request).2.isOk = store.lineup.accepts (.move kind request) := by
  cases hindex : request.toIndex with
  | none =>
      have hmove : store.move policy kind request = (store, .error (.noTarget request.id)) := by
        simp only [Store.move, moveItem, hindex]
        rfl
      rw [hmove]
      simp only [Lineup.perform, Lineup.accepts, hindex]
      exact ⟨trivial, hregular, rfl⟩
  | some toIndex =>
      have hgiven : request.toIndex ≠ none := by simp [hindex]
      cases hload : store.load kind request with
      | error cause =>
          rw [Store.move_of_load_error hretries hgiven hload]
          simp only [Lineup.perform, Lineup.accepts, hindex, reachable_of_error hload]
          exact ⟨trivial, hregular, rfl⟩
      | ok item =>
          obtain ⟨hget, -⟩ := load_eq_ok_iff.mp hload
          obtain ⟨hitem, hid⟩ := Shelf.get?_eq_some_iff.mp hget
          simp only [Lineup.perform, Lineup.accepts, hindex, reachable_of_ok hload]
          by_cases hstays : item.container = request.target ∧ request.fromIndex = some toIndex
          · have hplan := Store.plan_of_staying policy hitem hid hindex hstays.1 hstays.2
            rw [(Store.move_of_ended hretries hgiven hload hplan).1 item rfl, if_pos hstays]
            exact ⟨rfl, hregular, rfl⟩
          · obtain ⟨move, hplan, hordered, hfinite⟩ := Store.plan_of_moving (hregular.finite kind)
              hlength hthreshold hid hindex hstays
            rw [Store.move_of_planned hretries hgiven hload hplan, if_neg hstays]
            exact ⟨lineup_written hregular hitem hid hplan hordered hfinite,
              hregular.written hitem hplan hfinite, rfl⟩

/-- One operation. -/
theorem lineup_perform (hthreshold : (Binary64.zero false).lt policy.threshold = true)
    (hretries : 0 ≤ policy.maxRetries) (hregular : store.Regular) {op : Operation}
    (hop : op.Admissible store) :
    (store.perform policy op).lineup = store.lineup.perform op ∧
      (store.perform policy op).Regular ∧
      store.accepts policy op = store.lineup.accepts op := by
  cases op with
  | create kind container payload id => exact lineup_create hregular hop
  | delete kind id =>
      cases hget : store.get? kind id with
      | none =>
          simp only [Store.perform, Store.accepts, Store.delete, Lineup.perform, Lineup.accepts,
            Store.lineup, hget, Option.map_none]
          exact ⟨trivial, hregular, rfl⟩
      | some item =>
          obtain ⟨hlineup, hkept, haccepted⟩ := lineup_delete hregular hget
          refine ⟨?_, hkept, ?_⟩
          · simp only [Store.perform, hlineup, Lineup.perform]
            simp only [Store.lineup, hget, Option.map_some]
          · simp only [Store.accepts, haccepted, Lineup.accepts, Store.lineup, hget,
              Option.map_some, Option.isSome_some]
  | move kind request => exact lineup_move hthreshold hretries hregular hop

end

/-- Along every run of creations at the end under unused ids, deletions and moves
that nothing interferes with, a store whose positions are finite and whose numbers
were given out by the counter looks like plain lists of ids under the same
operations, and exactly those succeed that succeed on the lists. -/
theorem lineup_run {policy : MovePolicy}
    (hthreshold : (Binary64.zero false).lt policy.threshold = true)
    (hretries : 0 ≤ policy.maxRetries) (hregular : store.Regular) {ops : List Operation}
    (hops : Along (Store.perform policy) (fun s op => op.Admissible s) store ops) :
    (ops.foldl (Store.perform policy) store).lineup = ops.foldl Lineup.perform store.lineup ∧
      Along (Store.perform policy) (fun s op => s.accepts policy op = s.lineup.accepts op)
        store ops := by
  have hstep (state : Store) (op : Operation) (hstate : state.Regular)
      (hop : op.Admissible state) := lineup_perform hthreshold hretries hstate hop
  constructor
  · exact hops.simulates (fun s op hs hop => (hstep s op hs hop).2.1)
      (fun s op hs hop => (hstep s op hs hop).1) hregular
  · exact hops.of_invariant (fun s op hs hop => (hstep s op hs hop).2.1)
      (fun s op hs hop => (hstep s op hs hop).2.2) hregular

/-- Three cards at one position. -/
def tiedCards : Store :=
  Store.empty.applyAll (["X", "Y", "Z"].map fun id =>
    .create .card "a" ⟨[], some (.zero false), some id⟩)

/-- A card goes between two others at its own position, and then one leaves. -/
def untying : List Operation :=
  [.move .card ⟨"Z", none, some 1, "a"⟩, .create .card "a" [] (some "W"),
    .move .card ⟨"X", some 7, some 9, "b"⟩, .delete .card "Y"]

theorem lineup_run_tiedCards :
    (Binary64.zero false).lt MovePolicy.default.threshold = true ∧
      0 ≤ MovePolicy.default.maxRetries ∧ tiedCards.Regular ∧
      Along (Store.perform .default) (fun s op => op.Admissible s) tiedCards untying ∧
      (untying.foldl (Store.perform .default) tiedCards).lineup.ids .card "a" = ["Z", "W"] ∧
      (untying.foldl (Store.perform .default) tiedCards).lineup.ids .card "b" = ["X"] := by
  have hthreshold : (Binary64.zero false).lt MovePolicy.default.threshold = true := by
    decide +kernel
  have hretries : 0 ≤ MovePolicy.default.maxRetries := by decide
  have hregular : tiedCards.Regular := by
    constructor
    · intro kind
      cases kind <;> decide
    · intro kind
      cases kind <;> decide
  have halong : Along (Store.perform .default) (fun s op => op.Admissible s) tiedCards
      untying := by
    decide +kernel
  have hlineup := (lineup_run hthreshold hretries hregular halong).1
  refine ⟨hthreshold, hretries, hregular, halong, ?_, ?_⟩
  · rw [hlineup]
    decide
  · rw [hlineup]
    decide

end Kanban
