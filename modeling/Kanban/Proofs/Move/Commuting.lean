/-
Moves that commute.  An undisturbed move reads and writes the containers that its
item stands in and goes to, and the rest of the store means nothing to it.  So two
moves that share no container of one kind lead to the same store in either order.
-/
import Mathlib.Data.List.Lattice
import Kanban.Proofs.Move.Undisturbed

namespace Kanban

variable {policy : MovePolicy} {kind other : Kind} {request later : MoveRequest}
  {store : Store} {batch first second : Batch} {containers : List String}

/-- The store after a batch, whatever versions the batch expects. -/
def Store.rewrite (store : Store) (kind : Kind) (batch : Batch) : Store :=
  store.withShelf kind
    (((store.shelf kind).reposition batch.positions batch.containers).bump batch.expected.keys)

/-- The containers that a move is about: the one it goes to, and the one its item
stands in. -/
def Store.footprint (store : Store) (kind : Kind) (request : MoveRequest) : List String :=
  request.target :: ((store.get? kind request.id).map Item.container).toList

/-- Two stores that differ nowhere in the given containers. -/
def Store.Agrees (store copy : Store) (kind : Kind) (containers : List String) : Prop :=
  ∀ container ∈ containers, copy.members kind container = store.members kind container ∧
    copy.version kind container = store.version kind container

/-- A batch that touches and counts nothing but the given containers. -/
structure Batch.Within (batch : Batch) (store : Store) (kind : Kind)
    (containers : List String) : Prop where
  covers : batch.Covers (store.shelf kind)
  counted : ∀ container ∈ batch.expected.keys, container ∈ containers

/-- Two moves of different kinds, or of one kind and with no container in common. -/
def Store.Apart (store : Store) (kind other : Kind) (request later : MoveRequest) : Prop :=
  kind ≠ other ∨ (store.footprint kind request).Disjoint (store.footprint other later)

instance (kind other : Kind) (request later : MoveRequest) :
    Decidable (store.Apart kind other request later) :=
  inferInstanceAs (Decidable (_ ∨ ∀ container ∈ store.footprint kind request,
    container ∉ store.footprint other later))

namespace Store

theorem Agrees.refl (store : Store) (kind : Kind) (containers : List String) :
    store.Agrees store kind containers :=
  fun _ _ => ⟨rfl, rfl⟩

theorem Agrees.symm {copy : Store} (hagrees : store.Agrees copy kind containers) :
    copy.Agrees store kind containers := by
  intro container hcontainer
  obtain ⟨hmembers, hversion⟩ := hagrees container hcontainer
  exact ⟨hmembers.symm, hversion.symm⟩

theorem Agrees.get? {copy : Store} {id : String} {item : Item}
    (hagrees : store.Agrees copy kind containers) (hget : store.get? kind id = some item)
    (hcontainer : item.container ∈ containers) : copy.get? kind id = some item := by
  have hmember := mem_members_iff.mp ⟨hget, rfl⟩
  rw [← (hagrees _ hcontainer).1] at hmember
  exact (mem_members_iff.mpr hmember).1

theorem target_mem_footprint (store : Store) (kind : Kind) (request : MoveRequest) :
    request.target ∈ store.footprint kind request :=
  List.mem_cons_self

theorem source_mem_footprint {item : Item} (hget : store.get? kind request.id = some item) :
    item.container ∈ store.footprint kind request := by
  unfold footprint
  rw [hget]
  exact List.mem_cons_of_mem _ List.mem_cons_self

theorem shelf_rewrite (store : Store) (kind : Kind) (batch : Batch) :
    (store.rewrite kind batch).shelf kind =
      ((store.shelf kind).reposition batch.positions batch.containers).bump
        batch.expected.keys :=
  shelf_withShelf_self _ _ _

theorem shelf_rewrite_of_ne (hne : other ≠ kind) (batch : Batch) :
    (store.rewrite kind batch).shelf other = store.shelf other :=
  shelf_withShelf_of_ne _ hne _

theorem get?_rewrite (store : Store) (kind : Kind) (batch : Batch) (id : String) :
    (store.rewrite kind batch).get? kind id =
      (store.get? kind id).map (Item.reposition batch.positions batch.containers) := by
  unfold get?
  rw [shelf_rewrite, Shelf.get?_bump, Shelf.get?_reposition]

/-- A batch that says nothing changes nothing. -/
theorem rewrite_nothing (store : Store) (kind : Kind) :
    store.rewrite kind ⟨[], [], []⟩ = store := by
  have hitems (items : List Item) : items.map (Item.reposition [] []) = items :=
    List.map_id'' (fun _ => rfl) items
  cases kind <;>
    simp [rewrite, withShelf, shelf, Shelf.reposition, Shelf.bump, hitems, Mapping.keys]

end Store

namespace Batch.Within

variable {item : Item}

/-- A batch passes over the items of other containers, whatever else changed them. -/
theorem reposition_eq {changed : Item} (hwithin : batch.Within store kind containers)
    (hitem : item ∈ (store.shelf kind).items) (hcontainer : item.container ∉ containers)
    (hid : changed.id = item.id) :
    changed.reposition batch.positions batch.containers = changed := by
  have hfree : ¬ (item.id ∈ batch.positions.keys ∨ item.id ∈ batch.containers.keys) :=
    fun hnamed => hcontainer (hwithin.counted _ (hwithin.covers.1 item hitem hnamed))
  rw [not_or, ← hid] at hfree
  exact Item.reposition_of_not_mem hfree.1 hfree.2

/-- A store and what a batch makes of it agree on all that the batch is apart from. -/
theorem agrees_rewrite {apart : List String} (hwithin : batch.Within store kind containers)
    (hapart : kind ≠ other ∨ containers.Disjoint apart) :
    store.Agrees (store.rewrite kind batch) other apart := by
  by_cases hkind : other = kind
  · subst hkind
    have hdisjoint := hapart.resolve_left (not_not.mpr rfl)
    intro container hcontainer
    have houtside : container ∉ batch.expected.keys :=
      fun hmem => hdisjoint (hwithin.counted _ hmem) hcontainer
    unfold Store.members Store.version
    rw [Store.shelf_rewrite]
    constructor
    · rw [Shelf.members_bump]
      apply Shelf.members_reposition_of_not_mem
      · rintro item hitem hnamed rfl
        exact houtside (hwithin.covers.1 item hitem hnamed)
      · rintro entry hentry rfl
        exact houtside (hwithin.covers.2 entry hentry)
    · rw [Shelf.versions_bump, if_neg houtside]
      rfl
  · intro container _
    unfold Store.members Store.version
    rw [Store.shelf_rewrite_of_ne hkind]
    exact ⟨rfl, rfl⟩

/-- What one move writes does not change what the other is about. -/
theorem footprint_rewrite (hwithin : batch.Within store kind (store.footprint kind request))
    (hapart : store.Apart kind other request later) :
    (store.rewrite kind batch).footprint other later = store.footprint other later := by
  unfold Store.footprint
  by_cases hkind : other = kind
  · subst hkind
    rw [Store.get?_rewrite]
    cases hget : store.get? other later.id with
    | none => rfl
    | some item =>
        have hitem := (Shelf.get?_eq_some_iff.mp hget).1
        have houtside : item.container ∉ store.footprint other request := fun hmem =>
          hapart.resolve_left (not_not.mpr rfl) hmem (Store.source_mem_footprint hget)
        rw [Option.map_some, hwithin.reposition_eq hitem houtside rfl]
  · unfold Store.get?
    rw [Store.shelf_rewrite_of_ne hkind]

end Batch.Within

namespace Store

/-- Batches on containers that are apart can be carried out in either order. -/
theorem rewrite_comm {apart : List String} (hfirst : first.Within store kind containers)
    (hsecond : second.Within store other apart)
    (hapart : kind ≠ other ∨ containers.Disjoint apart) :
    (store.rewrite kind first).rewrite other second =
      (store.rewrite other second).rewrite kind first := by
  by_cases hkind : other = kind
  · subst hkind
    have hdisjoint := hapart.resolve_left (not_not.mpr rfl)
    have hitem (item : Item) (hitem : item ∈ (store.shelf other).items) :
        (item.reposition first.positions first.containers).reposition second.positions
            second.containers =
          (item.reposition second.positions second.containers).reposition first.positions
            first.containers := by
      by_cases hcontainer : item.container ∈ containers
      · have houtside := fun hmem => hdisjoint hcontainer hmem
        rw [hsecond.reposition_eq hitem houtside (Item.id_reposition _ _ _),
          hsecond.reposition_eq hitem houtside rfl]
      · rw [hfirst.reposition_eq hitem hcontainer (Item.id_reposition _ _ _),
          hfirst.reposition_eq hitem hcontainer rfl]
    have hshelf : ((store.rewrite other first).rewrite other second).shelf other =
        ((store.rewrite other second).rewrite other first).shelf other := by
      simp only [shelf_rewrite]
      apply Shelf.ext
      · simp only [Shelf.bump, Shelf.reposition, List.map_map]
        exact List.map_congr_left hitem
      · funext container
        simp only [Shelf.bump, Shelf.reposition]
        split <;> split <;> rfl
    cases other
    · exact Store.ext hshelf rfl rfl
    · exact Store.ext rfl hshelf rfl
  · cases kind <;> cases other
    · exact absurd rfl hkind
    · rfl
    · rfl
    · exact absurd rfl hkind

/-- What is found and planned is the same wherever the containers that the move is
about are the same. -/
theorem plan_of_agrees (policy : MovePolicy) {copy : Store} {item : Item}
    (hload : store.load kind request = .ok item)
    (hagrees : store.Agrees copy kind (store.footprint kind request)) :
    copy.load kind request = .ok item ∧ copy.footprint kind request = store.footprint kind request ∧
      copy.plan policy kind request item = store.plan policy kind request item := by
  obtain ⟨hget, hboard⟩ := load_eq_ok_iff.mp hload
  have hcopy := hagrees.get? hget (source_mem_footprint hget)
  obtain ⟨hmembers, hversion⟩ := hagrees _ (store.target_mem_footprint kind request)
  obtain ⟨-, hsource⟩ := hagrees _ (source_mem_footprint hget)
  refine ⟨load_eq_ok_iff.mpr ⟨hcopy, hboard⟩, ?_, ?_⟩
  · unfold footprint
    rw [hcopy, hget]
  · unfold plan expectedFor
    rw [view_eq_of_members_eq hmembers, hversion, hsource]

/-- What is planned stays within the containers that the move is about. -/
theorem within_of_planned {item : Item} {move : PlannedMove}
    (hget : store.get? kind request.id = some item)
    (hplan : store.plan policy kind request item = .planned move) :
    move.batch.Within store kind (store.footprint kind request) := by
  obtain ⟨-, -, hexpected, hcontainers, -⟩ := preparation_batch hplan
  obtain ⟨hstored, hid⟩ := Shelf.get?_eq_some_iff.mp hget
  have hcounted (container : String) : container ∈ move.batch.expected.keys ↔
      container = request.target ∨ container = item.container := by
    rw [hexpected]
    exact keys_expectedFor _ _ _ _ _ _
  refine ⟨⟨?_, ?_⟩, ?_⟩
  · intro found hfound hnamed
    rw [hcounted]
    by_contra hneither
    rw [not_or] at hneither
    have hother : found.id ≠ item.id :=
      fun heq => hneither.2 (by rw [Shelf.eq_of_id_eq hfound hstored heq])
    obtain ⟨hposition, hcontainer⟩ :=
      not_named_of_preparation hplan hfound hother hneither.1
    exact hnamed.elim hposition hcontainer
  · intro entry hentry
    rw [hcontainers] at hentry
    rw [hcounted, (mem_containerChanges hentry).1]
    exact Or.inl rfl
  · intro container hcontainer
    rcases (hcounted container).mp hcontainer with rfl | rfl
    · exact store.target_mem_footprint kind request
    · exact source_mem_footprint hget

/-- A move that succeeds writes one batch to the containers it is about, if only an
empty one.  It writes the same batch and returns the same item wherever these
containers are the same. -/
theorem move_local {after : Store} {moved : Item}
    (hmove : store.move policy kind request = (after, .ok moved)) :
    ∃ batch : Batch, after = store.rewrite kind batch ∧
      ∀ copy : Store, store.Agrees copy kind (store.footprint kind request) →
        batch.Within copy kind (store.footprint kind request) ∧
          copy.move policy kind request = (copy.rewrite kind batch, .ok moved) := by
  obtain ⟨hretries, toIndex, hindex⟩ := policy_of_moved hmove
  have hgiven : request.toIndex ≠ none := by
    rw [hindex]
    exact Option.some_ne_none toIndex
  rcases store.move_cases policy kind request with
    ⟨cause, herror⟩ | ⟨item, hload, ⟨hplan, hstay⟩ | ⟨move, hplan, hwrite⟩⟩
  · rw [herror] at hmove
    cases (Prod.mk.inj hmove).2
  · rw [hstay] at hmove
    obtain ⟨rfl, hmoved⟩ := Prod.mk.inj hmove
    obtain rfl := Except.ok.inj hmoved
    refine ⟨⟨[], [], []⟩, (store.rewrite_nothing kind).symm, ?_⟩
    intro copy hagrees
    obtain ⟨hfound, -, heq⟩ := plan_of_agrees policy hload hagrees
    rw [rewrite_nothing]
    refine ⟨⟨by simp [Batch.Covers, Mapping.keys], by simp [Mapping.keys]⟩, ?_⟩
    exact (move_of_ended hretries hgiven hfound (heq.trans hplan)).1 item rfl
  · rw [hwrite] at hmove
    obtain ⟨rfl, hmoved⟩ := Prod.mk.inj hmove
    obtain rfl := Except.ok.inj hmoved
    refine ⟨move.batch, rfl, ?_⟩
    intro copy hagrees
    obtain ⟨hfound, hfootprint, heq⟩ := plan_of_agrees policy hload hagrees
    have hplanned := heq.trans hplan
    rw [← hfootprint]
    exact ⟨within_of_planned (load_eq_ok_iff.mp hfound).1 hplanned,
      move_of_planned hretries hgiven hfound hplanned⟩

end Store

/-- Two moves that share no container of one kind can be made in either order.  If one
and then the other succeed, so do they the other way round; each returns the same item,
and the stores they lead to are equal, versions included. -/
theorem moves_commute {rules : MovePolicy} {middle after : Store} {moved next : Item}
    (hapart : store.Apart kind other request later)
    (hfirst : store.move policy kind request = (middle, .ok moved))
    (hsecond : middle.move rules other later = (after, .ok next)) :
    ∃ alone, store.move rules other later = (alone, .ok next) ∧
      alone.move policy kind request = (after, .ok moved) := by
  obtain ⟨first, rfl, hagain⟩ := Store.move_local hfirst
  obtain ⟨second, rfl, hearlier⟩ := Store.move_local hsecond
  obtain ⟨hwithin, -⟩ := hagain store (.refl store kind _)
  rw [hwithin.footprint_rewrite hapart] at hearlier
  -- The later move meets nothing that the first one wrote.
  obtain ⟨hapartWithin, hlater⟩ := hearlier store (hwithin.agrees_rewrite hapart).symm
  refine ⟨store.rewrite other second, hlater, ?_⟩
  have hback : other ≠ kind ∨
      (store.footprint other later).Disjoint (store.footprint kind request) :=
    hapart.imp Ne.symm List.Disjoint.symm
  rw [(hagain _ (hapartWithin.agrees_rewrite hback)).2,
    Store.rewrite_comm hwithin hapartWithin hapart]

/-- Three cards in one list, two of them at one position, and one in each of two
others. -/
def threeLists : Store :=
  Store.empty.applyAll [.create .card "a" ⟨[], some (.zero false), some "X"⟩,
    .create .card "a" ⟨[], some (.zero true), some "Y"⟩,
    .create .card "a" ⟨[], some (.ofInt 7), some "Z"⟩,
    .create .card "b" ⟨[], some (.ofInt 5), some "V"⟩,
    .create .card "c" ⟨[], some (.ofInt 1), some "W"⟩]

/-- One move renumbers its list, the other takes a card from one list to another. -/
theorem moves_commute_threeLists :
    let request : MoveRequest := ⟨"Z", none, some 1, "a"⟩
    let later : MoveRequest := ⟨"V", none, some 0, "c"⟩
    let middle := (threeLists.move .default .card request).1
    let after := (middle.move .default .card later).1
    let alone := (threeLists.move .default .card later).1
    threeLists.Apart .card .card request later ∧
      threeLists.move .default .card request = (middle, .ok ⟨"Z", "a", .ofInt 2, 3, []⟩) ∧
      middle.move .default .card later = (after, .ok ⟨"V", "c", .zero false, 4, []⟩) ∧
      threeLists.move .default .card later = (alone, .ok ⟨"V", "c", .zero false, 4, []⟩) ∧
      alone.move .default .card request = (after, .ok ⟨"Z", "a", .ofInt 2, 3, []⟩) ∧
      after.version .card "a" = 4 ∧ after.version .card "b" = 2 ∧
      after.version .card "c" = 2 := by
  intro request later middle after alone
  have hapart : threeLists.Apart .card .card request later := by decide +kernel
  have hmoved : (threeLists.move .default .card request).2 =
      .ok ⟨"Z", "a", .ofInt 2, 3, []⟩ := by
    decide +kernel
  have hnext : (middle.move .default .card later).2 = .ok ⟨"V", "c", .zero false, 4, []⟩ := by
    decide +kernel
  have hfirst : threeLists.move .default .card request =
      (middle, .ok ⟨"Z", "a", .ofInt 2, 3, []⟩) := by
    rw [← hmoved]
  have hsecond : middle.move .default .card later =
      (after, .ok ⟨"V", "c", .zero false, 4, []⟩) := by
    rw [← hnext]
  obtain ⟨found, hlater, hagain⟩ := moves_commute hapart hfirst hsecond
  obtain rfl : alone = found := congrArg Prod.fst hlater
  refine ⟨hapart, hfirst, hsecond, hlater, hagain, ?_, ?_, ?_⟩
  · decide +kernel
  · decide +kernel
  · decide +kernel

end Kanban
