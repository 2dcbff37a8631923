/-
Moves that nothing interferes with.  One attempt settles such a move, and all of
it can be told from the item, the view of the target and the present versions.
-/
import Mathlib.Data.List.Basic
import Kanban.Proofs.Move.Retry

namespace Kanban

variable {policy : MovePolicy} {env : Interference} {kind : Kind} {request : MoveRequest}
  {attempt : Nat} {store : Store} {session : Session} {item : Item} {move : PlannedMove}

/-- The part of an attempt under the locks, while nobody else acts there. -/
theorem planLocked_of_quiet (policy : MovePolicy) (attempt : Nat)
    (hsnapshot : env.QuietAt .snapshot) (hversion : env.QuietAt .sourceVersion)
    (hload : session.store.load kind request = .ok item) : ∃ notices,
    planLocked policy env kind request item.container attempt session =
      ({ session with notices := notices }, session.store.plan policy kind request item) := by
  have hlooked : session.looked env attempt request.target item.container = session := by
    unfold Session.looked
    rw [hversion.yieldAt, ite_self]
  obtain ⟨notices, heq⟩ := planLocked_eq policy env attempt hload rfl
  simp only [hsnapshot.yieldAt, hlooked] at heq
  exact ⟨notices, heq⟩

theorem prepareMove_none (policy : MovePolicy) (attempt : Nat) (session : Session)
    (hload : session.store.load kind request = .ok item) : ∃ notices,
    prepareMove policy .none kind request attempt session =
      ({ session with notices := notices }, session.store.plan policy kind request item) := by
  unfold prepareMove
  rw [(Interference.none_quietAt .load).yieldAt]
  simp only [hload]
  rw [(Interference.none_quietAt .reload).yieldAt]
  exact planLocked_of_quiet policy attempt (Interference.none_quietAt _)
    (Interference.none_quietAt _) hload

/-- The first attempt of an undisturbed move settles it unless it conflicts. -/
theorem Store.move_of_attempt {ended : Session} {ending : AttemptEnd}
    (hretries : 0 ≤ policy.maxRetries) (hindex : request.toIndex ≠ none)
    (hends : attemptMove policy .none kind request 0 (Session.start store) = (ended, ending)) :
    (∀ item, ending = .moved item → store.move policy kind request = (ended.store, .ok item)) ∧
      ∀ cause, ending = .failed cause →
        store.move policy kind request = (ended.store, .error cause) := by
  have hfirst : Begins policy .none kind request store 0 (Session.start store) :=
    .first (by omega)
  unfold Store.move
  constructor
  · rintro item rfl
    have hsettles := moveItem_of_attempt hindex hfirst hends fun _ => AttemptEnd.noConfusion
    generalize moveItem policy .none kind request store = settled at hsettles
    cases hsettles
    rfl
  · rintro cause rfl
    have hsettles := moveItem_of_attempt hindex hfirst hends fun _ => AttemptEnd.noConfusion
    generalize moveItem policy .none kind request store = settled at hsettles
    cases hsettles
    rfl

theorem Store.move_of_load_error {cause : MoveError} (hretries : 0 ≤ policy.maxRetries)
    (hindex : request.toIndex ≠ none) (hload : store.load kind request = .error cause) :
    store.move policy kind request = (store, .error cause) := by
  have hends : attemptMove policy .none kind request 0 (Session.start store) =
      (Session.start store, .failed cause) := by
    simp only [attemptMove, prepareMove, (Interference.none_quietAt .load).yieldAt]
    rw [show (Session.start store).store.load kind request = .error cause from hload]
  exact (Store.move_of_attempt hretries hindex hends).2 cause rfl

theorem Store.move_of_ended {ending : AttemptEnd} (hretries : 0 ≤ policy.maxRetries)
    (hindex : request.toIndex ≠ none) (hload : store.load kind request = .ok item)
    (hplan : store.plan policy kind request item = .ended ending) :
    (∀ moved, ending = .moved moved → store.move policy kind request = (store, .ok moved)) ∧
      ∀ cause, ending = .failed cause →
        store.move policy kind request = (store, .error cause) := by
  obtain ⟨notices, hprepare⟩ := prepareMove_none policy 0 (Session.start store) hload
  have hends : attemptMove policy .none kind request 0 (Session.start store) =
      ({ Session.start store with notices := notices }, ending) := by
    unfold attemptMove
    rw [hprepare]
    simp only [show (Session.start store).store = store from rfl, hplan]
  exact Store.move_of_attempt hretries hindex hends

/-- An undisturbed move whose write takes effect returns the item it wrote. -/
theorem Store.move_of_written {written : Store} {moved : Item} (hretries : 0 ≤ policy.maxRetries)
    (hindex : request.toIndex ≠ none) (hload : store.load kind request = .ok item)
    (hplan : store.plan policy kind request item = .planned move)
    (hwritten : store.writePositions kind move.batch = .ok written)
    (hmoved : written.get? kind move.item.id = some moved) :
    store.move policy kind request = (written, .ok moved) := by
  obtain ⟨notices, hprepare⟩ := prepareMove_none policy 0 (Session.start store) hload
  have hends : attemptMove policy .none kind request 0 (Session.start store) =
      (⟨written, 1, 1, [], notices⟩, .moved moved) := by
    unfold attemptMove
    rw [hprepare]
    simp only [show (Session.start store).store = store from rfl, hplan, commitMove,
      (Interference.none_quietAt .write).yieldAt, (Interference.none_quietAt .readBack).yieldAt,
      hwritten, hmoved]
    rfl
  exact (Store.move_of_attempt hretries hindex hends).1 moved rfl

/-- An undisturbed move that is planned is written. -/
theorem Store.move_of_planned (hretries : 0 ≤ policy.maxRetries)
    (hindex : request.toIndex ≠ none) (hload : store.load kind request = .ok item)
    (hplan : store.plan policy kind request item = .planned move) :
    store.move policy kind request =
      (store.withShelf kind (((store.shelf kind).reposition move.batch.positions
          move.batch.containers).bump move.batch.expected.keys),
        .ok (item.reposition move.batch.positions move.batch.containers)) := by
  obtain ⟨hfound, -⟩ := load_eq_ok_iff.mp hload
  obtain ⟨hitem, -, -, -, -⟩ := preparation_batch hplan
  have hstored : store.get? kind item.id = some item := by
    rw [(Shelf.get?_eq_some_iff.mp hfound).2]
    exact hfound
  refine Store.move_of_written hretries hindex hload hplan
    (Store.writePositions_plan hstored hplan) ?_
  rw [hitem]
  unfold Store.get?
  rw [Store.shelf_withShelf_self, Shelf.get?_bump, Shelf.get?_reposition]
  exact congrArg _ hstored

/-- How an undisturbed move ends: it is turned down and changes nothing, it leaves the
item where it is, or it writes what was planned. -/
theorem Store.move_cases (store : Store) (policy : MovePolicy) (kind : Kind)
    (request : MoveRequest) :
    (∃ cause, store.move policy kind request = (store, .error cause)) ∨
      ∃ item, store.load kind request = .ok item ∧
        ((store.plan policy kind request item = .ended (.moved item) ∧
            store.move policy kind request = (store, .ok item)) ∨
          ∃ move, store.plan policy kind request item = .planned move ∧
            store.move policy kind request =
              (store.withShelf kind (((store.shelf kind).reposition move.batch.positions
                  move.batch.containers).bump move.batch.expected.keys),
                .ok (item.reposition move.batch.positions move.batch.containers))) := by
  by_cases hindex : request.toIndex = none
  · left
    simp only [Store.move, moveItem, hindex]
    exact ⟨_, rfl⟩
  by_cases hretries : 0 ≤ policy.maxRetries
  · cases hload : store.load kind request with
    | error cause => exact Or.inl ⟨cause, Store.move_of_load_error hretries hindex hload⟩
    | ok item =>
        cases hplan : store.plan policy kind request item with
        | planned move =>
            exact Or.inr ⟨item, rfl, Or.inr ⟨move, hplan,
              Store.move_of_planned hretries hindex hload hplan⟩⟩
        | ended ending =>
            obtain ⟨hmoved, hfailed⟩ := Store.move_of_ended hretries hindex hload hplan
            rcases preparation_eq_ended hplan with ⟨rfl, -⟩ | ⟨_, cause, -, rfl⟩
            · exact Or.inr ⟨item, rfl, Or.inl ⟨hplan, hmoved item rfl⟩⟩
            · exact Or.inl ⟨cause, hfailed cause rfl⟩
  · left
    unfold Store.move
    rw [moveItem_of_no_attempt .none kind store hindex (by omega)]
    exact ⟨_, rfl⟩

/-- Only a policy that makes attempts moves anything, and only to an index that is
given. -/
theorem Store.policy_of_moved {after : Store} {moved : Item}
    (hmove : store.move policy kind request = (after, .ok moved)) :
    0 ≤ policy.maxRetries ∧ ∃ toIndex, request.toIndex = some toIndex := by
  have hindex : request.toIndex ≠ none := by
    intro hnone
    simp only [Store.move, moveItem, hnone] at hmove
    cases (Prod.mk.inj hmove).2
  refine ⟨?_, Option.ne_none_iff_exists'.mp hindex⟩
  by_contra hnegative
  rw [Store.move, moveItem_of_no_attempt .none kind store hindex (by omega)] at hmove
  cases (Prod.mk.inj hmove).2

/-- An undisturbed move that fails changes nothing. -/
theorem Store.move_of_error {after : Store} {cause : MoveError}
    (hmove : store.move policy kind request = (after, .error cause)) : after = store := by
  rcases store.move_cases policy kind request with
    ⟨_, herror⟩ | ⟨_, -, ⟨-, hstay⟩ | ⟨_, -, hwrite⟩⟩
  · rw [herror] at hmove
    exact (Prod.mk.inj hmove).1.symm
  · rw [hstay] at hmove
    cases hmove
  · rw [hwrite] at hmove
    cases hmove

end Kanban
