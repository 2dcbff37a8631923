/-
Creation numbers.  They are counted up with every creation and kept by moves, so among
siblings at one position the older one comes first.  A run is told beside its annals:
which items are stored, in the order of their creation, and which of them lost their
number, because they were stored over again without one.
-/
import Mathlib.Data.List.Basic
import Mathlib.Logic.Function.Basic
import Kanban.Proofs.Move.Undisturbed
import Kanban.Proofs.Store.Contents

namespace Kanban

/-- One operation of a run: a store operation, or a move that nothing interferes with.  To
the store a move with interference is a write among the operations of others. -/
inductive Deed where
  | change (change : Change)
  | move (policy : MovePolicy) (kind : Kind) (request : MoveRequest)

def Store.carryOut (store : Store) : Deed → Store
  | .change change => store.apply change
  | .move policy kind request => (store.move policy kind request).1

/-- The number of an item, if it is stored. -/
def Store.number? (store : Store) (key : Kind × String) : Option Int :=
  (store.get? key.1 key.2).map Item.seq

/-- An item that is stored by its id has no number, or the one that it is stored with. -/
def Deed.Honest (store : Store) : Deed → Prop
  | .change (.upsert kind item) =>
      item.seq = 0 ∨ store.number? (kind, item.id) = some item.seq
  | _ => True

/-- An item is stored over again without a number. -/
def Deed.Blanks (store : Store) : Deed → Prop
  | .change (.upsert kind item) => item.seq = 0 ∧ store.number? (kind, item.id) ≠ none
  | _ => False

instance (store : Store) : (deed : Deed) → Decidable (deed.Honest store)
  | .change (.upsert ..) => inferInstanceAs (Decidable (_ ∨ _))
  | .change (.create ..) | .change (.delete ..) | .change (.write ..) | .move .. =>
      inferInstanceAs (Decidable True)

instance (store : Store) : (deed : Deed) → Decidable (deed.Blanks store)
  | .change (.upsert ..) => inferInstanceAs (Decidable (_ ∧ _))
  | .change (.create ..) | .change (.delete ..) | .change (.write ..) | .move .. =>
      inferInstanceAs (Decidable False)

/-- The items that are stored, in the order in which they were created, and those that
lost their number. -/
structure Annals where
  born : List (Kind × String)
  blank : List (Kind × String)

namespace Annals

def erase (annals : Annals) (key : Kind × String) : Annals :=
  ⟨annals.born.filter (· ≠ key), annals.blank.filter (· ≠ key)⟩

def append (annals : Annals) (key : Kind × String) : Annals :=
  { annals with born := annals.born ++ [key] }

def strip (annals : Annals) (key : Kind × String) : Annals :=
  { annals with blank := key :: annals.blank }

/-- What an operation adds to the annals, told from the store that it finds. -/
def next (annals : Annals) (store : Store) : Deed → Annals
  | .change (.create kind container draft) =>
      match (store.create kind container draft).2 with
      | .ok item => (annals.erase (kind, item.id)).append (kind, item.id)
      | .error _ => annals
  | .change (.upsert kind item) =>
      match store.get? kind item.id with
      | none => (annals.erase (kind, item.id)).append (kind, item.id)
      | some _ => if item.seq = 0 then annals.strip (kind, item.id) else annals
  | .change (.delete kind id) => annals.erase (kind, id)
  | .change (.write _ _) | .move _ _ _ => annals

/-- The annals of a store with these numbers and this counter: every item that has not
lost its number has one that was counted, and the older has the smaller. -/
structure Tells (annals : Annals) (number : Kind × String → Option Int) (counter : Nat) :
    Prop where
  stored : ∀ key, key ∈ annals.born ↔ number key ≠ none
  stripped : ∀ key ∈ annals.blank, number key = some 0
  counted : ∀ key seq, key ∉ annals.blank → number key = some seq → 1 ≤ seq ∧ seq ≤ counter
  ordered : annals.born.Pairwise fun older younger =>
    older ∉ annals.blank → younger ∉ annals.blank →
      ∀ low high, number older = some low → number younger = some high → low < high

variable {annals : Annals} {number : Kind × String → Option Int} {counter : Nat}
  {key : Kind × String}

namespace Tells

theorem mono {later : Nat} (htells : annals.Tells number counter) (hle : counter ≤ later) :
    annals.Tells number later := by
  refine ⟨htells.stored, htells.stripped, ?_, htells.ordered⟩
  intro key seq hkept hnumber
  have hcounted := htells.counted key seq hkept hnumber
  omega

theorem erase (htells : annals.Tells number counter) (key : Kind × String) :
    (annals.erase key).Tells (Function.update number key none) counter := by
  have hother {other : Kind × String} (hne : other ≠ key) :
      Function.update number key none other = number other ∧
        (other ∉ (annals.erase key).blank ↔ other ∉ annals.blank) :=
    ⟨Function.update_of_ne hne _ _, by simp [Annals.erase, hne]⟩
  constructor
  case stored =>
    intro other
    by_cases hne : other = key
    · simp [Annals.erase, hne]
    · rw [(hother hne).1, ← htells.stored]
      simp [Annals.erase, hne]
  case stripped =>
    intro other hblank
    simp only [Annals.erase, List.mem_filter, decide_eq_true_eq] at hblank
    rw [(hother hblank.2).1]
    exact htells.stripped other hblank.1
  case counted =>
    intro other seq hkept hnumber
    by_cases hne : other = key
    · rw [hne, Function.update_self] at hnumber
      cases hnumber
    · rw [(hother hne).2] at hkept
      rw [(hother hne).1] at hnumber
      exact htells.counted other seq hkept hnumber
  case ordered =>
    refine (htells.ordered.filter _).imp_of_mem ?_
    intro older younger holder hyounger hlt hkept hkept'
    simp only [List.mem_filter, decide_eq_true_eq] at holder hyounger
    rw [(hother holder.2).2] at hkept
    rw [(hother hyounger.2).2] at hkept'
    rw [(hother holder.2).1, (hother hyounger.2).1]
    exact hlt hkept hkept'

/-- A new item gets a number beyond all that were counted. -/
theorem append (htells : annals.Tells number counter) (hnew : number key = none) :
    (annals.append key).Tells (Function.update number key (some (counter + 1 : Nat)))
      (counter + 1) := by
  have hother {other : Kind × String} (hne : other ≠ key) :
      Function.update number key (some ((counter + 1 : Nat) : Int)) other = number other :=
    Function.update_of_ne hne _ _
  have hfresh : key ∉ annals.born := fun hmem => (htells.stored key).mp hmem hnew
  have hkeyKept : key ∉ annals.blank := by
    intro hblank
    rw [htells.stripped key hblank] at hnew
    cases hnew
  constructor
  case stored =>
    intro other
    by_cases hne : other = key
    · simp [Annals.append, hne]
    · rw [hother hne, ← htells.stored]
      simp [Annals.append, hne]
  case stripped =>
    intro other hblank
    rw [hother (ne_of_mem_of_not_mem hblank hkeyKept)]
    exact htells.stripped other hblank
  case counted =>
    intro other seq hkept hnumber
    by_cases hne : other = key
    · rw [hne, Function.update_self] at hnumber
      have hseq := Option.some.inj hnumber
      omega
    · rw [hother hne] at hnumber
      have hcounted := htells.counted other seq hkept hnumber
      omega
  case ordered =>
    refine List.pairwise_append.mpr ⟨?_, List.pairwise_singleton _ _, ?_⟩
    · refine htells.ordered.imp_of_mem ?_
      intro older younger holder hyounger hlt
      rw [hother (ne_of_mem_of_not_mem holder hfresh),
        hother (ne_of_mem_of_not_mem hyounger hfresh)]
      exact hlt
    · intro older holder younger hyounger hkept _ low high hlow hhigh
      rw [List.mem_singleton.mp hyounger, Function.update_self] at hhigh
      rw [hother (ne_of_mem_of_not_mem holder hfresh)] at hlow
      have hcounted := htells.counted older low hkept hlow
      have hseq := Option.some.inj hhigh
      omega

/-- An item loses its number. -/
theorem strip (htells : annals.Tells number counter) (hstored : number key ≠ none) :
    (annals.strip key).Tells (Function.update number key (some 0)) counter := by
  have hkept {other : Kind × String} (hother : other ∉ (annals.strip key).blank) :
      Function.update number key (some 0) other = number other ∧ other ∉ annals.blank := by
    simp only [Annals.strip, List.mem_cons, not_or] at hother
    exact ⟨Function.update_of_ne hother.1 _ _, hother.2⟩
  constructor
  case stored =>
    intro other
    by_cases hne : other = key
    · rw [hne, Function.update_self]
      exact iff_of_true ((htells.stored key).mpr hstored) (Option.some_ne_none _)
    · rw [Function.update_of_ne hne]
      exact htells.stored other
  case stripped =>
    intro other hblank
    by_cases hne : other = key
    · rw [hne, Function.update_self]
    · rw [Function.update_of_ne hne]
      exact htells.stripped other ((List.mem_cons.mp hblank).resolve_left hne)
  case counted =>
    intro other seq hother hnumber
    rw [(hkept hother).1] at hnumber
    exact htells.counted other seq (hkept hother).2 hnumber
  case ordered =>
    refine htells.ordered.imp ?_
    intro older younger hlt holder hyounger
    rw [(hkept holder).1, (hkept hyounger).1]
    exact hlt (hkept holder).2 (hkept hyounger).2

theorem mem_born {seq : Int} (htells : annals.Tells number counter)
    (hnumber : number key = some seq) : key ∈ annals.born := by
  rw [htells.stored, hnumber]
  exact Option.some_ne_none seq

theorem lt_of_idxOf_lt {low high : Int} {older younger : Kind × String}
    (htells : annals.Tells number counter) (holder : older ∉ annals.blank)
    (hyounger : younger ∉ annals.blank) (hlow : number older = some low)
    (hhigh : number younger = some high)
    (hlt : annals.born.idxOf older < annals.born.idxOf younger) : low < high := by
  have hordered := List.pairwise_iff_getElem.mp htells.ordered _ _
    (List.idxOf_lt_length_of_mem (htells.mem_born hlow))
    (List.idxOf_lt_length_of_mem (htells.mem_born hhigh)) hlt
  rw [List.getElem_idxOf, List.getElem_idxOf] at hordered
  exact hordered holder hyounger low high hlow hhigh

/-- Items that have kept their numbers have different ones. -/
theorem eq_of_number_eq {seq : Int} {one other : Kind × String}
    (htells : annals.Tells number counter) (hone : one ∉ annals.blank)
    (hother : other ∉ annals.blank) (hnumber : number one = some seq)
    (hnumber' : number other = some seq) : one = other := by
  rcases Nat.lt_trichotomy (annals.born.idxOf one) (annals.born.idxOf other) with hlt | heq | hlt
  · exact absurd (htells.lt_of_idxOf_lt hone hother hnumber hnumber' hlt) (Int.lt_irrefl seq)
  · exact (List.idxOf_inj (htells.mem_born hnumber)).mp heq
  · exact absurd (htells.lt_of_idxOf_lt hother hone hnumber' hnumber hlt) (Int.lt_irrefl seq)

/-- Of two items that have kept their numbers the one with the smaller is older. -/
theorem idxOf_lt_of_lt {low high : Int} {older younger : Kind × String}
    (htells : annals.Tells number counter) (holder : older ∉ annals.blank)
    (hyounger : younger ∉ annals.blank) (hlow : number older = some low)
    (hhigh : number younger = some high) (hlt : low < high) :
    annals.born.idxOf older < annals.born.idxOf younger := by
  by_contra hle
  rcases Nat.lt_or_eq_of_le (Nat.le_of_not_lt hle) with hafter | heq
  · have hgt := htells.lt_of_idxOf_lt hyounger holder hhigh hlow hafter
    omega
  · rw [(List.idxOf_inj (htells.mem_born hhigh)).mp heq, hlow] at hhigh
    have hseq := Option.some.inj hhigh
    omega

end Tells

end Annals

namespace Store

variable {store base : Store} {kind : Kind} {item : Item} {containers : List String}

/-- A shelf in which one id stands for another number. -/
theorem number?_withShelf {shelf : Shelf} {id : String} {number : Option Int}
    (hshelf : base.shelf = store.shelf)
    (hget : ∀ other, (shelf.get? other).map Item.seq =
      if other = id then number else ((store.shelf kind).get? other).map Item.seq) :
    (base.withShelf kind shelf).number? = Function.update store.number? (kind, id) number := by
  funext key
  obtain ⟨other, key⟩ := key
  unfold number? get?
  by_cases hkind : other = kind
  · subst hkind
    rw [shelf_withShelf_self, hget]
    by_cases hid : key = id
    · rw [hid, if_pos rfl, Function.update_self]
    · rw [if_neg hid, Function.update_of_ne fun heq => hid (congrArg Prod.snd heq)]
  · rw [shelf_withShelf_of_ne _ hkind, hshelf,
      Function.update_of_ne fun heq => hkind (congrArg Prod.fst heq)]

theorem number?_put (hshelf : base.shelf = store.shelf) :
    (base.withShelf kind (((store.shelf kind).put item).bump containers)).number? =
      Function.update store.number? (kind, item.id) (some item.seq) := by
  refine number?_withShelf hshelf fun other => ?_
  rw [Shelf.get?_bump, Shelf.get?_put]
  split <;> rfl

theorem number?_erase {id : String} :
    (store.withShelf kind (((store.shelf kind).erase id).bump containers)).number? =
      Function.update store.number? (kind, id) none := by
  refine number?_withShelf rfl fun other => ?_
  rw [Shelf.get?_bump, Shelf.get?_erase]
  split <;> rfl

/-- New positions and containers leave the numbers. -/
theorem number?_reposition {positions : Mapping Binary64} {moved : Mapping String} :
    (store.withShelf kind (((store.shelf kind).reposition positions moved).bump
      containers)).number? = store.number? := by
  funext key
  obtain ⟨other, id⟩ := key
  unfold number? get?
  by_cases hkind : other = kind
  · subst hkind
    rw [shelf_withShelf_self, Shelf.get?_bump, Shelf.get?_reposition, Option.map_map]
    rfl
  · rw [shelf_withShelf_of_ne _ hkind]

theorem number?_takeNumber (store : Store) : store.takeNumber.number? = store.number? := by
  funext key
  unfold number? get?
  rw [shelf_takeNumber]

/-- A new item without a number gets the next one. -/
theorem upsert_of_unnumbered (hnew : store.get? kind item.id = none) (hseq : item.seq = 0) :
    (store.upsert kind item).1 = store.takeNumber.withShelf kind
      (((store.shelf kind).put { item with seq := (store.counter + 1 : Nat) }).bump
        [item.container]) := by
  simp only [upsert, hnew, hseq, ↓reduceIte, shelf_takeNumber]
  rfl

end Store

namespace Annals.Tells

variable {annals : Annals} {store : Store}

/-- A key that is stored anew, whatever was stored under it. -/
theorem renew (htells : annals.Tells store.number? store.counter) (key : Kind × String) :
    ((annals.erase key).append key).Tells
      (Function.update store.number? key (some ((store.counter + 1 : Nat) : Int)))
      (store.counter + 1) := by
  have happend := (htells.erase key).append (Function.update_self key none store.number?)
  rw [Function.update_idem] at happend
  exact happend

theorem create (htells : annals.Tells store.number? store.counter) (kind : Kind)
    (container : String) (draft : Draft) :
    let deed : Deed := .change (.create kind container draft)
    (annals.next store deed).Tells (store.carryOut deed).number?
      (store.carryOut deed).counter := by
  simp only [Store.carryOut, Store.apply, Annals.next]
  cases hposition : store.positionFor kind container draft.position with
  | error cause =>
      rw [Store.create_of_error hposition, Store.number?_takeNumber]
      exact htells.mono (Nat.le_succ _)
  | ok position =>
      rw [Store.create_of_ok hposition, Store.number?_put (funext Store.shelf_takeNumber),
        Store.counter_withShelf]
      exact htells.renew (kind, (store.drafted kind container draft position).id)

theorem upsert (htells : annals.Tells store.number? store.counter) {kind : Kind} {item : Item}
    (hhonest : Deed.Honest store (.change (.upsert kind item))) :
    let deed : Deed := .change (.upsert kind item)
    (annals.next store deed).Tells (store.carryOut deed).number?
      (store.carryOut deed).counter := by
  simp only [Store.carryOut, Store.apply, Annals.next]
  cases hget : store.get? kind item.id with
  | none =>
      have hseq : item.seq = 0 := by
        refine hhonest.resolve_right ?_
        simp [Store.number?, hget]
      rw [Store.upsert_of_unnumbered hget hseq, Store.number?_put (funext Store.shelf_takeNumber),
        Store.counter_withShelf]
      exact htells.renew (kind, item.id)
  | some previous =>
      rw [Store.upsert_of_some hget, Store.number?_put rfl, Store.counter_withShelf]
      dsimp only
      split
      · rename_i hseq
        rw [hseq]
        refine htells.strip ?_
        simp [Store.number?, hget]
      · rename_i hseq
        rw [← hhonest.resolve_left hseq, Function.update_eq_self]
        exact htells

theorem delete (htells : annals.Tells store.number? store.counter) (kind : Kind) (id : String) :
    let deed : Deed := .change (.delete kind id)
    (annals.next store deed).Tells (store.carryOut deed).number?
      (store.carryOut deed).counter := by
  simp only [Store.carryOut, Store.apply, Annals.next, Store.delete]
  have herase := htells.erase (kind, id)
  cases hget : store.get? kind id with
  | none =>
      have hnone : store.number? (kind, id) = none := by simp [Store.number?, hget]
      rwa [← hnone, Function.update_eq_self] at herase
  | some item =>
      dsimp only
      rw [Store.number?_erase, Store.counter_withShelf]
      exact herase

end Annals.Tells

namespace Store

variable {store : Store}

/-- A write keeps all numbers, whether it takes effect or not. -/
theorem number?_write (store : Store) (kind : Kind) (batch : Batch) :
    (store.apply (.write kind batch)).number? = store.number? ∧
      (store.apply (.write kind batch)).counter = store.counter := by
  cases hwrite : store.writePositions kind batch with
  | error cause => simp only [apply, hwrite, and_self]
  | ok written =>
      obtain ⟨-, -, rfl⟩ := writePositions_eq_ok_iff.mp hwrite
      simp only [apply, hwrite]
      exact ⟨number?_reposition, counter_withShelf _ _ _⟩

theorem number?_move (store : Store) (policy : MovePolicy) (kind : Kind)
    (request : MoveRequest) :
    (store.move policy kind request).1.number? = store.number? ∧
      (store.move policy kind request).1.counter = store.counter := by
  rcases store.move_cases policy kind request with
    ⟨cause, hmove⟩ | ⟨item, -, ⟨-, hmove⟩ | ⟨move, -, hmove⟩⟩
  · rw [hmove]
    exact ⟨rfl, rfl⟩
  · rw [hmove]
    exact ⟨rfl, rfl⟩
  · rw [hmove]
    exact ⟨number?_reposition, counter_withShelf _ _ _⟩

end Store

/-- What every operation preserves: the annals tell the numbers of the store. -/
theorem Annals.Tells.carryOut {annals : Annals} {store : Store} {deed : Deed}
    (htells : annals.Tells store.number? store.counter) (hhonest : deed.Honest store) :
    (annals.next store deed).Tells (store.carryOut deed).number?
      (store.carryOut deed).counter := by
  cases deed with
  | move policy kind request =>
      obtain ⟨hnumber, hcounter⟩ := store.number?_move policy kind request
      simp only [Store.carryOut, hnumber, hcounter]
      exact htells
  | change change =>
      cases change with
      | create kind container draft => exact htells.create kind container draft
      | upsert kind item => exact htells.upsert hhonest
      | delete kind id => exact htells.delete kind id
      | write kind batch =>
          obtain ⟨hnumber, hcounter⟩ := store.number?_write kind batch
          simp only [Store.carryOut, hnumber, hcounter]
          exact htells

/-- A store together with its annals. -/
structure Chronicle where
  store : Store
  annals : Annals

namespace Chronicle

def empty : Chronicle :=
  ⟨.empty, [], []⟩

def next (chronicle : Chronicle) (deed : Deed) : Chronicle :=
  ⟨chronicle.store.carryOut deed, chronicle.annals.next chronicle.store deed⟩

/-- The annals tell the numbers of the store. -/
def Tells (chronicle : Chronicle) : Prop :=
  chronicle.annals.Tells chronicle.store.number? chronicle.store.counter

theorem tells_empty : empty.Tells := by
  constructor
  case stored =>
    rintro ⟨kind, id⟩
    cases kind <;> exact iff_of_false List.not_mem_nil fun hstored => hstored rfl
  case stripped => exact fun _ hblank => absurd hblank List.not_mem_nil
  case counted =>
    rintro ⟨kind, id⟩ seq - hnumber
    cases kind <;> cases hnumber
  case ordered => exact .nil

end Chronicle

/-- Among siblings at one position the older comes first, if both have kept their
numbers. -/
theorem Annals.Tells.pairwise_contents {annals : Annals} {store : Store} {kind : Kind}
    {container : String} (htells : annals.Tells store.number? store.counter)
    (hnumbers : ∀ item ∈ store.contents kind container, item.position ≠ .nan) :
    (store.contents kind container).Pairwise fun first second =>
      first.position.same second.position = true →
        (kind, first.id) ∉ annals.blank → (kind, second.id) ∉ annals.blank →
          annals.born.idxOf (kind, first.id) < annals.born.idxOf (kind, second.id) := by
  have hordered : (store.contents kind container).Pairwise fun first second =>
      first.snapshot.le second.snapshot = true :=
    Shelf.pairwise_contents fun item hitem =>
      hnumbers item (Shelf.mem_contents.mpr (Shelf.mem_members.mp hitem))
  have hnodup := List.pairwise_map.mp ((store.shelf kind).ids_contents_nodup container)
  have hnumber {item : Item} (hitem : item ∈ store.contents kind container) :
      store.number? (kind, item.id) = some item.seq := by
    have hget := Shelf.get?_eq_some_iff.mpr ⟨(Shelf.mem_contents.mp hitem).1, rfl⟩
    exact congrArg (Option.map Item.seq) hget
  refine (hordered.and hnodup).imp_of_mem ?_
  rintro first second hfirst hsecond ⟨hle, hid⟩ hsame hkept hkept'
  apply htells.idxOf_lt_of_lt hkept hkept' (hnumber hfirst) (hnumber hsecond)
  obtain ⟨low, high, hlow, hhigh⟩ := Sibling.exists_rank_of_le hle
  rw [Sibling.le_iff hlow hhigh] at hle
  change first.snapshot.position.same second.snapshot.position = true at hsame
  rw [Binary64.same_of_rank hlow hhigh, decide_eq_true_eq] at hsame
  rcases hle with hlt | ⟨-, hlt | ⟨hseq, -⟩⟩
  · omega
  · exact hlt
  · have hkey := htells.eq_of_number_eq hkept hkept' (hnumber hfirst)
      ((hnumber hsecond).trans (congrArg some hseq.symm))
    exact absurd (Prod.mk.inj hkey).2 hid

/-- Only storing an item over again without a number takes one from it. -/
theorem Annals.blank_next {annals : Annals} {store : Store} {deed : Deed}
    (hblank : annals.blank = []) (hdeed : ¬ deed.Blanks store) :
    (annals.next store deed).blank = [] := by
  cases deed with
  | move policy kind request => exact hblank
  | change change =>
      cases change with
      | create kind container draft =>
          simp only [Annals.next]
          split
          · simp [Annals.append, Annals.erase, hblank]
          · exact hblank
      | upsert kind item =>
          simp only [Annals.next]
          split
          · simp [Annals.append, Annals.erase, hblank]
          · rename_i previous hget
            have hseq : item.seq ≠ 0 := by
              intro hseq
              exact hdeed ⟨hseq, by simp [Store.number?, hget]⟩
            rw [if_neg hseq]
            exact hblank
      | delete kind id => simp [Annals.next, Annals.erase, hblank]
      | write kind batch => exact hblank

/-- In every run from an empty store, in which items are stored by their ids with no number or
their own: an item has a number from one to the counter, unless it was stored over again
without one, and then it has none.  Items that have numbers have different ones, and siblings
at one position that have them are listed in the order of their creation.  So where nothing
is stored over again without a number, all of this holds of all items. -/
theorem seniority_run {deeds : List Deed}
    (hhonest : Along Chronicle.next (fun chronicle deed => deed.Honest chronicle.store)
      Chronicle.empty deeds) :
    let last := deeds.foldl Chronicle.next Chronicle.empty
    last.store = deeds.foldl Store.carryOut Store.empty ∧
    (∀ kind id, (kind, id) ∈ last.annals.born ↔ last.store.get? kind id ≠ none) ∧
    (∀ kind id item, last.store.get? kind id = some item →
      if (kind, id) ∈ last.annals.blank then item.seq = 0
      else 1 ≤ item.seq ∧ item.seq ≤ last.store.counter) ∧
    (∀ one other seq, one ∉ last.annals.blank → other ∉ last.annals.blank →
      last.store.number? one = some seq → last.store.number? other = some seq → one = other) ∧
    (∀ kind container,
      (∀ item ∈ last.store.contents kind container, item.position ≠ .nan) →
      (last.store.contents kind container).Pairwise fun first second =>
        first.position.same second.position = true →
          (kind, first.id) ∉ last.annals.blank → (kind, second.id) ∉ last.annals.blank →
            last.annals.born.idxOf (kind, first.id) <
              last.annals.born.idxOf (kind, second.id)) ∧
    (Along Chronicle.next (fun chronicle deed => ¬ deed.Blanks chronicle.store)
      Chronicle.empty deeds → last.annals.blank = []) := by
  intro last
  have hstep (chronicle : Chronicle) (deed : Deed) (htells : chronicle.Tells)
      (hdeed : deed.Honest chronicle.store) : (chronicle.next deed).Tells :=
    htells.carryOut hdeed
  have htells : last.Tells := hhonest.preserves hstep Chronicle.tells_empty
  refine ⟨(List.foldl_hom Chronicle.store fun _ _ => rfl).symm, ?_, ?_, ?_, ?_, ?_⟩
  · intro kind id
    rw [htells.stored, Store.number?, ne_eq, Option.map_eq_none_iff]
  · intro kind id item hget
    have hnumber : last.store.number? (kind, id) = some item.seq :=
      congrArg (Option.map Item.seq) hget
    split
    · rename_i hblank
      have hzero := htells.stripped (kind, id) hblank
      rw [hnumber] at hzero
      exact Option.some.inj hzero
    · rename_i hkept
      exact htells.counted (kind, id) item.seq hkept hnumber
  · intro one other seq hone hother hnumber hnumber'
    exact htells.eq_of_number_eq hone hother hnumber hnumber'
  · intro kind container hnumbers
    exact htells.pairwise_contents hnumbers
  · intro hkept
    have hstep (chronicle : Chronicle) (deed : Deed) (hblank : chronicle.annals.blank = [])
        (hdeed : ¬ deed.Blanks chronicle.store) : (chronicle.next deed).annals.blank = [] :=
      Annals.blank_next hblank hdeed
    exact hkept.preserves hstep rfl

/-- Three cards at one position, of which the first is created once more and the last is
stored over again without a number. -/
def restored : List Deed :=
  [.change (.create .card "a" ⟨[], some (.ofInt 1), some "X"⟩),
    .change (.create .card "a" ⟨[], some (.ofInt 1), some "Y"⟩),
    .change (.create .card "a" ⟨[], some (.ofInt 1), some "Z"⟩),
    .change (.create .card "a" ⟨[], some (.ofInt 1), some "X"⟩),
    .change (.upsert .card ⟨"Z", "a", .ofInt 1, 0, []⟩)]

/-- The card without a number comes before an older one; the others are in order. -/
theorem seniority_run_restored :
    let last := restored.foldl Chronicle.next Chronicle.empty
    Along Chronicle.next (fun chronicle deed => deed.Honest chronicle.store) Chronicle.empty
        restored ∧
      last.annals.born = [(.card, "Y"), (.card, "Z"), (.card, "X")] ∧
      last.annals.blank = [(.card, "Z")] ∧
      last.store.contents .card "a" = [⟨"Z", "a", .ofInt 1, 0, []⟩, ⟨"Y", "a", .ofInt 1, 2, []⟩,
        ⟨"X", "a", .ofInt 1, 4, []⟩] ∧
      (last.store.contents .card "a").Pairwise fun first second =>
        first.position.same second.position = true →
          (.card, first.id) ∉ last.annals.blank → (.card, second.id) ∉ last.annals.blank →
            last.annals.born.idxOf (.card, first.id) <
              last.annals.born.idxOf (.card, second.id) := by
  intro last
  have hhonest : Along Chronicle.next (fun chronicle deed => deed.Honest chronicle.store)
      Chronicle.empty restored := by
    decide +kernel
  obtain ⟨-, -, -, -, hlisted, -⟩ := seniority_run hhonest
  refine ⟨hhonest, by decide +kernel, by decide +kernel, by decide +kernel, ?_⟩
  exact hlisted .card "a" (by decide +kernel)

/-- Beside a position that is no number the younger of two cards at one position can come
first. -/
example :
    ((Store.empty.applyAll [.create .card "a" ⟨[], some (.ofInt 1), some "X"⟩,
      .create .card "a" ⟨[], some .nan, some "N"⟩,
      .create .card "a" ⟨[], some (.ofInt 1), some "Y"⟩,
      .create .card "a" ⟨[], some (.ofInt 1), some "X"⟩]).contents .card "a").map
        (fun item => (item.id, item.seq)) = [("X", 4), ("N", 2), ("Y", 3)] := by
  decide +kernel

end Kanban
