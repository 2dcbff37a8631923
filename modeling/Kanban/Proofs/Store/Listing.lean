/-
Listings and histories.  Siblings of distinct ids have one canonical order, however they are
arranged before.  So what a container lists depends on the items alone and not on how the store
came to hold them; only the version that is read with it tells histories apart.
-/
import Kanban.Proofs.Store.Contents
import Kanban.Proofs.Store.Versions

namespace Kanban

namespace Shelf

variable {one other : Shelf} {container : String}

/-- Shelves hold the same items, in whatever order, if they give the same item for every id. -/
theorem items_perm_iff : one.items.Perm other.items ↔ ∀ id, one.get? id = other.get? id := by
  constructor
  · intro hperm id
    ext item
    rw [get?_eq_some_iff, get?_eq_some_iff, hperm.mem_iff]
  · intro hsame
    have hitems (shelf : Shelf) (item : Item) :
        item ∈ shelf.items ↔ shelf.get? item.id = some item := by
      simp [get?_eq_some_iff]
    apply (List.perm_ext_iff_of_nodup one.items_nodup other.items_nodup).mpr
    intro item
    rw [hitems, hitems, hsame]

theorem contents_eq_of_items_perm (hperm : one.items.Perm other.items)
    (hnumbers : ∀ item ∈ one.members container, item.position ≠ .nan) :
    one.contents container = other.contents container := by
  have hmembers : (other.members container).Perm (one.members container) :=
    (hperm.filter _).symm
  refine (orderBy_congr hmembers hnumbers ?_).symm
  intro a ha b hb
  exact eq_of_id_eq (mem_members.mp ha).1 (mem_members.mp hb).1

end Shelf

namespace Store

/-- Two stores hold the same items: what is stored under an id in one of them is stored under
it in the other. -/
def Alike (one other : Store) : Prop :=
  ∀ kind id, one.get? kind id = other.get? kind id

/-- What a reader of a container gets: its version and its ordered view. -/
def snapshot (store : Store) (kind : Kind) (container : String) :
    Nat × List (Sibling Binary64) :=
  (store.version kind container, store.view kind container)

variable {one other : Store} {kind : Kind} {container : String}

theorem alike_iff_perm :
    one.Alike other ↔ ∀ kind, (one.shelf kind).items.Perm (other.shelf kind).items :=
  forall_congr' fun _ => Shelf.items_perm_iff.symm

theorem Alike.contents_eq (halike : one.Alike other)
    (hnumbers : ∀ item ∈ one.contents kind container, item.position ≠ .nan) :
    one.contents kind container = other.contents kind container := by
  apply Shelf.contents_eq_of_items_perm (alike_iff_perm.mp halike kind)
  intro item hitem
  exact hnumbers item (Shelf.mem_contents.mpr (Shelf.mem_members.mp hitem))

theorem Alike.view_eq (halike : one.Alike other)
    (hnumbers : ∀ item ∈ one.contents kind container, item.position ≠ .nan) :
    one.view kind container = other.view kind container :=
  congrArg (List.map Item.snapshot) (halike.contents_eq hnumbers)

end Store

/-- Siblings with distinct ids and numbers for positions have one canonical order: it increases
strictly, it is the same for every arrangement of them, and ordering them again changes nothing.
Stores with the same items list them alike, whatever their histories, in every container whose
positions are numbers; their snapshots are the same exactly if the versions are. -/
theorem canonical_order :
    (∀ siblings : List (Sibling Binary64), (siblings.map Sibling.id).Nodup →
      (∀ entry ∈ siblings, entry.position ≠ .nan) →
        (orderSiblings siblings).Perm siblings ∧
        ((orderSiblings siblings).Pairwise fun a b => a.lt b = true) ∧
        (∀ others : List (Sibling Binary64), others.Perm siblings →
          orderSiblings others = orderSiblings siblings) ∧
        orderSiblings (orderSiblings siblings) = orderSiblings siblings) ∧
    ∀ one other : Store, one.Alike other → ∀ kind container,
      (∀ item ∈ one.contents kind container, item.position ≠ .nan) →
        one.contents kind container = other.contents kind container ∧
        one.view kind container = other.view kind container ∧
        (one.snapshot kind container = other.snapshot kind container ↔
          one.version kind container = other.version kind container) := by
  constructor
  · intro siblings hids hnumbers
    refine ⟨orderBy_perm id siblings, pairwise_lt_orderBy hnumbers hids, ?_,
      orderBy_orderBy hnumbers⟩
    intro others hothers
    exact orderBy_congr hothers hnumbers fun a ha b hb => List.inj_on_of_nodup_map hids ha hb
  · intro one other halike kind container hnumbers
    have hview := halike.view_eq hnumbers
    refine ⟨halike.contents_eq hnumbers, hview, ?_⟩
    simp only [Store.snapshot, hview, Prod.mk.injEq, and_true]

/-- Four siblings in no order: one at an infinity, and three on zeros of either sign. -/
def tiedSiblings : List (Sibling Binary64) :=
  [⟨"B", .zero false, "l", 2⟩, ⟨"C", .zero true, "l", 1⟩, ⟨"D", .infinite true, "l", 9⟩,
    ⟨"A", .zero true, "l", 2⟩]

/-- Two cards that were created on one list. -/
def createdCards : Store :=
  Store.empty.applyAll
    [.create .card "a" ⟨[], some (.zero true), some "X"⟩,
      .create .card "a" ⟨[], some (.zero false), some "Y"⟩]

/-- The same two cards, stored the other way round, one of them on another list at first. -/
def gatheredCards : Store :=
  Store.empty.applyAll
    [.upsert .card ⟨"Y", "b", .ofInt 7, 2, []⟩, .upsert .card ⟨"X", "a", .zero true, 1, []⟩,
      .write .card ⟨[("a", 1), ("b", 1)], [("Y", .zero false)], [("Y", "a")]⟩]

/-- Both stores list the cards alike.  They have counted the same number of writes on the list
of the cards, and different numbers on the one that a card has left. -/
theorem canonical_order_gatheredCards :
    ((orderSiblings tiedSiblings).map Sibling.id = ["D", "C", "A", "B"] ∧
      ((orderSiblings tiedSiblings).Pairwise fun a b => a.lt b = true) ∧
      orderSiblings tiedSiblings.reverse = orderSiblings tiedSiblings ∧
      orderSiblings (orderSiblings tiedSiblings) = orderSiblings tiedSiblings) ∧
    createdCards.Alike gatheredCards ∧
    (createdCards.contents .card "a" = gatheredCards.contents .card "a" ∧
      createdCards.snapshot .card "a" = gatheredCards.snapshot .card "a") ∧
    createdCards.view .card "b" = gatheredCards.view .card "b" ∧
      createdCards.snapshot .card "b" ≠ gatheredCards.snapshot .card "b" := by
  obtain ⟨hsiblings, hstores⟩ := canonical_order
  obtain ⟨-, hincreasing, hsame, hagain⟩ :=
    hsiblings tiedSiblings (by decide +kernel) (by decide +kernel)
  have halike : createdCards.Alike gatheredCards :=
    Store.alike_iff_perm.mpr fun kind => by cases kind <;> decide +kernel
  obtain ⟨hlisted, -, hread⟩ := hstores _ _ halike .card "a" (by decide +kernel)
  obtain ⟨-, hview, hleft⟩ := hstores _ _ halike .card "b" (by decide +kernel)
  refine ⟨⟨by decide +kernel, hincreasing, hsame _ (List.reverse_perm _), hagain⟩, halike,
    ⟨hlisted, hread.mpr (by decide +kernel)⟩, hview, ?_⟩
  rw [ne_eq, hleft]
  decide +kernel

/-- A version counts writes, so snapshots of the same cards may differ: writing a card to the
place that it has leaves the store with the same cards and raises the version of its list. -/
theorem rewritten_snapshot :
    ¬ ∀ changes others : List Change,
      (Store.empty.applyAll changes).Alike (Store.empty.applyAll others) →
      (∀ kind, ∀ item ∈ ((Store.empty.applyAll changes).shelf kind).items,
        item.position ≠ .nan) →
      ∀ kind container,
        (Store.empty.applyAll changes).contents kind container =
          (Store.empty.applyAll others).contents kind container ∧
        (Store.empty.applyAll changes).snapshot kind container =
          (Store.empty.applyAll others).snapshot kind container := by
  intro hclaim
  let creating : Change := .create .card "a" ⟨[], some (.ofInt 1), some "X"⟩
  let rewriting : Change := .write .card ⟨[("a", 1)], [("X", .ofInt 1)], []⟩
  have halike : (Store.empty.applyAll [creating]).Alike
      (Store.empty.applyAll [creating, rewriting]) :=
    Store.alike_iff_perm.mpr fun kind => by cases kind <;> decide +kernel
  have hnumbers : ∀ kind, ∀ item ∈ ((Store.empty.applyAll [creating]).shelf kind).items,
      item.position ≠ .nan := by
    intro kind
    cases kind <;> decide +kernel
  have hversions : (Store.empty.applyAll [creating]).version .card "a" =
      (Store.empty.applyAll [creating, rewriting]).version .card "a" :=
    congrArg Prod.fst (hclaim _ _ halike hnumbers .card "a").2
  exact absurd hversions (by decide +kernel)

end Kanban
