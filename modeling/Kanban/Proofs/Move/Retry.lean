/-
The attempts of a move.  Each begins in the session that the one before left, after a
conflict, and the last of them settles the move.
-/
import Mathlib.Data.List.Basic
import Kanban.Proofs.Move.Session

namespace Kanban

variable {policy : MovePolicy} {env : Interference} {kind : Kind} {request : MoveRequest}
  {store : Store} {attempt : Nat} {session ended : Session}

/-- The sessions in which the attempts of a move begin: the first with the store
as it is, each further one after an attempt that ended in a conflict. -/
inductive Begins (policy : MovePolicy) (env : Interference) (kind : Kind)
    (request : MoveRequest) (store : Store) : Nat → Session → Prop where
  | first (hretries : 0 < policy.maxRetries + 1) :
      Begins policy env kind request store 0 (Session.start store)
  | again {attempt : Nat} {session ended : Session} {cause : Conflict}
      (hbegins : Begins policy env kind request store attempt session)
      (hends : attemptMove policy env kind request attempt session = (ended, .conflict cause))
      (hretries : ((attempt + 1 : Nat) : Int) < policy.maxRetries + 1) :
      Begins policy env kind request store (attempt + 1)
        (ended.note (.conflicted request.id (attempt + 1) (policy.maxRetries + 1) cause))

/-- The session of a write that is entered, after the other writers acted. -/
def Session.entering (looked : Session) (env : Interference) (attempt : Nat) : Session :=
  { looked.yieldAt env .write attempt with writes := looked.writes + 1 }

/-- The session after a write that takes effect, up to the read-back. -/
def Session.wrote (looked : Session) (env : Interference) (attempt : Nat) (written : Store) :
    Session :=
  Session.yieldAt
    { looked.entering env attempt with
      store := written
      applied := looked.applied + 1 }
    env .readBack attempt

/-- How an attempt goes: it ends before its write; the write is refused, turned down
or names an item that is not stored; or it takes effect, and the item is looked up
once more. -/
inductive Attempted (policy : MovePolicy) (env : Interference) (kind : Kind)
    (request : MoveRequest) (attempt : Nat) (session : Session) : Session × AttemptEnd → Prop where
  | unwritten {looked : Session} {ending : AttemptEnd}
      (hprepare : prepareMove policy env kind request attempt session = (looked, .ended ending)) :
      Attempted policy env kind request attempt session (looked, ending)
  | refused {looked : Session} {move : PlannedMove}
      (hprepare : prepareMove policy env kind request attempt session = (looked, .planned move))
      (hrefuses : env.refuses looked.writes = true) :
      Attempted policy env kind request attempt session
        (looked.entering env attempt, .conflict (.refused request.target))
  | turnedDown {looked : Session} {move : PlannedMove} {cause : Conflict}
      (hprepare : prepareMove policy env kind request attempt session = (looked, .planned move))
      (haccepted : env.refuses looked.writes = false)
      (hwrite : (looked.entering env attempt).store.writePositions kind move.batch =
        .error (.conflict cause)) :
      Attempted policy env kind request attempt session
        (looked.entering env attempt, .conflict cause)
  | missing {looked : Session} {move : PlannedMove} {id : String}
      (hprepare : prepareMove policy env kind request attempt session = (looked, .planned move))
      (haccepted : env.refuses looked.writes = false)
      (hwrite : (looked.entering env attempt).store.writePositions kind move.batch =
        .error (.missing id)) :
      Attempted policy env kind request attempt session
        (looked.entering env attempt, .failed (.missing id))
  | returned {looked : Session} {move : PlannedMove} {written : Store} {moved : Item}
      (hprepare : prepareMove policy env kind request attempt session = (looked, .planned move))
      (haccepted : env.refuses looked.writes = false)
      (hwrite : (looked.entering env attempt).store.writePositions kind move.batch = .ok written)
      (hfound : (looked.wrote env attempt written).store.get? kind move.item.id = some moved) :
      Attempted policy env kind request attempt session
        (looked.wrote env attempt written, .moved moved)
  | vanished {looked : Session} {move : PlannedMove} {written : Store}
      (hprepare : prepareMove policy env kind request attempt session = (looked, .planned move))
      (haccepted : env.refuses looked.writes = false)
      (hwrite : (looked.entering env attempt).store.writePositions kind move.batch = .ok written)
      (hgone : (looked.wrote env attempt written).store.get? kind move.item.id = none) :
      Attempted policy env kind request attempt session
        (looked.wrote env attempt written, .failed (.notFound kind move.item.id))

theorem attempted (policy : MovePolicy) (env : Interference) (kind : Kind)
    (request : MoveRequest) (attempt : Nat) (session : Session) :
    Attempted policy env kind request attempt session
      (attemptMove policy env kind request attempt session) := by
  rcases hprepare : prepareMove policy env kind request attempt session with
    ⟨looked, ending | move⟩
  · simp only [attemptMove, hprepare]
    exact .unwritten hprepare
  · simp only [attemptMove, hprepare, commitMove]
    cases hrefuses : env.refuses looked.writes with
    | true => exact .refused hprepare hrefuses
    | false =>
        simp only [Bool.false_eq_true, ↓reduceIte]
        rcases hwrite : (looked.yieldAt env .write attempt).store.writePositions kind
          move.batch with (cause | id) | written
        · exact .turnedDown hprepare hrefuses hwrite
        · exact .missing hprepare hrefuses hwrite
        · simp only
          split
          · rename_i moved hfound
            exact .returned hprepare hrefuses hwrite hfound
          · rename_i hgone
            exact .vanished hprepare hrefuses hwrite hgone

theorem Session.idle_entering (looked : Session) (env : Interference) (attempt : Nat) :
    looked.Idle (looked.entering env attempt) :=
  looked.idle_yieldAt env .write attempt

theorem idle_of_prepared {preparation : Preparation} {looked : Session}
    (hprepare : prepareMove policy env kind request attempt session = (looked, preparation)) :
    session.Idle looked := by
  have hidle := idle_prepareMove policy env kind request attempt session
  rw [hprepare] at hidle
  exact hidle

/-- An attempt that ends in a conflict wrote nothing. -/
theorem idle_of_conflict {cause : Conflict}
    (hends : attemptMove policy env kind request attempt session = (ended, .conflict cause)) :
    session.Idle ended := by
  have hattempted := attempted policy env kind request attempt session
  rw [hends] at hattempted
  cases hattempted with
  | unwritten hprepare => exact idle_of_prepared hprepare
  | refused hprepare | turnedDown hprepare =>
      exact (idle_of_prepared hprepare).trans (Session.idle_entering _ env attempt)

/-- What an attempt counts: one write at most is entered, and one at most takes
effect. -/
theorem writes_attemptMove_le (policy : MovePolicy) (env : Interference) (kind : Kind)
    (request : MoveRequest) (attempt : Nat) (session : Session) :
    (attemptMove policy env kind request attempt session).1.writes ≤ session.writes + 1 ∧
      (attemptMove policy env kind request attempt session).1.applied ≤ session.applied + 1 := by
  have hprepared {preparation : Preparation} {looked : Session}
      (hprepare : prepareMove policy env kind request attempt session = (looked, preparation)) :
      looked.writes = session.writes ∧ looked.applied = session.applied := by
    have hwrites := writes_prepareMove policy env kind request attempt session
    obtain ⟨-, -, -, happlied⟩ := idle_of_prepared hprepare
    rw [hprepare] at hwrites
    exact ⟨hwrites, happlied⟩
  have hattempted := attempted policy env kind request attempt session
  generalize attemptMove policy env kind request attempt session = ended at hattempted
  cases hattempted with
  | unwritten hprepare =>
      obtain ⟨hwrites, happlied⟩ := hprepared hprepare
      dsimp only
      omega
  | refused hprepare | turnedDown hprepare | missing hprepare =>
      obtain ⟨hwrites, happlied⟩ := hprepared hprepare
      dsimp only [Session.entering, Session.yieldAt]
      omega
  | returned hprepare | vanished hprepare =>
      obtain ⟨hwrites, happlied⟩ := hprepared hprepare
      dsimp only [Session.wrote, Session.entering, Session.yieldAt]
      omega

section

variable {begun : Session}

/-- An attempt of a move is made and ends in a conflict. -/
def ConflictsAt (policy : MovePolicy) (env : Interference) (kind : Kind) (request : MoveRequest)
    (store : Store) (attempt : Nat) (cause : Conflict) : Prop :=
  ∃ begun ended, Begins policy env kind request store attempt begun ∧
    attemptMove policy env kind request attempt begun = (ended, .conflict cause)

namespace Begins

theorem idle (hbegins : Begins policy env kind request store attempt begun) :
    (Session.start store).Idle begun := by
  induction hbegins with
  | first => exact Session.Idle.refl _
  | again hbegins hends hretries ih =>
      exact (ih.trans (idle_of_conflict hends)).trans (Session.idle_notices _ _)

theorem lt (hbegins : Begins policy env kind request store attempt begun) :
    (attempt : Int) < policy.maxRetries + 1 := by
  cases hbegins with
  | first hretries => exact hretries
  | again _ _ hretries => exact hretries

/-- There is one session in which an attempt can begin. -/
theorem unique {other : Session} (hbegins : Begins policy env kind request store attempt begun)
    (hother : Begins policy env kind request store attempt other) : begun = other := by
  induction hbegins generalizing other with
  | first =>
      cases hother
      rfl
  | again hbegins hends hretries ih =>
      cases hother with
      | again hearlier hended =>
          obtain rfl := ih hearlier
          obtain ⟨rfl, hcause⟩ := Prod.mk.inj (hends.symm.trans hended)
          obtain rfl := AttemptEnd.conflict.inj hcause
          rfl

/-- The attempts before one that is made have conflicted. -/
theorem conflicted (hbegins : Begins policy env kind request store attempt begun) :
    ∀ earlier < attempt, ∃ cause, ConflictsAt policy env kind request store earlier cause := by
  induction hbegins with
  | first =>
      intro earlier hearlier
      exact absurd hearlier (Nat.not_lt_zero earlier)
  | again hbegins hends hretries ih =>
      intro earlier hearlier
      rcases Nat.lt_succ_iff_lt_or_eq.mp hearlier with hbefore | rfl
      · exact ih earlier hbefore
      · exact ⟨_, _, _, hbegins, hends⟩

/-- Each attempt enters one write at most. -/
theorem writes_le (hbegins : Begins policy env kind request store attempt begun) :
    begun.writes ≤ attempt := by
  induction hbegins with
  | first => exact Nat.le_refl 0
  | @again attempt session ended cause hbegins hends hretries ih =>
      have hwrites := (writes_attemptMove_le policy env kind request attempt session).1
      rw [hends] at hwrites
      change ended.writes ≤ attempt + 1
      dsimp only at hwrites
      omega

end Begins

theorem ConflictsAt.of_begins {cause : Conflict}
    (hconflicts : ConflictsAt policy env kind request store attempt cause)
    (hbegins : Begins policy env kind request store attempt begun) :
    ∃ ended, attemptMove policy env kind request attempt begun = (ended, .conflict cause) := by
  obtain ⟨other, ended, hother, hends⟩ := hconflicts
  obtain rfl := hbegins.unique hother
  exact ⟨ended, hends⟩

/-- How the last attempt settles a move. -/
inductive Settles (policy : MovePolicy) (request : MoveRequest) (attempt : Nat) :
    Session × AttemptEnd → Session × Except MoveError Item → Prop where
  | moved (session : Session) (item : Item) :
      Settles policy request attempt (session, .moved item) (session, .ok item)
  | failed (session : Session) (cause : MoveError) :
      Settles policy request attempt (session, .failed cause) (session, .error cause)
  | contended (session : Session) (cause : Conflict)
      (hlast : ((attempt + 1 : Nat) : Int) = policy.maxRetries + 1) :
      Settles policy request attempt (session, .conflict cause)
        (session.note (.conflicted request.id (attempt + 1) (policy.maxRetries + 1) cause),
          .error (.contended request.id request.target (policy.maxRetries + 1) (some cause)))

theorem retryMove_settled {left : Nat} {last : Option Conflict}
    (hbegins : Begins policy env kind request store attempt begun)
    (hleft : ((attempt + (left + 1) : Nat) : Int) = policy.maxRetries + 1) :
    ∃ final settling, Begins policy env kind request store final settling ∧
      Settles policy request final (attemptMove policy env kind request final settling)
        (retryMove policy env kind request (policy.maxRetries + 1) (left + 1) attempt last
          begun) := by
  induction left generalizing attempt last begun with
  | zero =>
      refine ⟨attempt, begun, hbegins, ?_⟩
      rcases hends : attemptMove policy env kind request attempt begun with
        ⟨ended, item | cause | cause⟩
      · simp only [retryMove, hends]
        exact .moved ended item
      · simp only [retryMove, hends]
        exact .contended ended cause hleft
      · simp only [retryMove, hends]
        exact .failed ended cause
  | succ left ih =>
      unfold retryMove
      rcases hends : attemptMove policy env kind request attempt begun with
        ⟨ended, item | cause | cause⟩
      · refine ⟨attempt, begun, hbegins, ?_⟩
        rw [hends]
        exact .moved ended item
      · exact ih (.again hbegins hends (by omega)) (by omega)
      · refine ⟨attempt, begun, hbegins, ?_⟩
        rw [hends]
        exact .failed ended cause

/-- A move with a target index is settled by one of its attempts, if it has any. -/
theorem moveItem_settled (env : Interference) (kind : Kind) (store : Store)
    (hindex : request.toIndex ≠ none) (hretries : 0 ≤ policy.maxRetries) :
    ∃ attempt begun, Begins policy env kind request store attempt begun ∧
      Settles policy request attempt (attemptMove policy env kind request attempt begun)
        (moveItem policy env kind request store) := by
  obtain ⟨toIndex, hindex⟩ := Option.ne_none_iff_exists'.mp hindex
  obtain ⟨left, hleft⟩ : ∃ left, (policy.maxRetries + 1).toNat = left + 1 :=
    ⟨policy.maxRetries.toNat, by omega⟩
  have hfirst : Begins policy env kind request store 0 (Session.start store) :=
    .first (by omega)
  have hcount : ((0 + (left + 1) : Nat) : Int) = policy.maxRetries + 1 := by omega
  simp only [moveItem, hindex, hleft]
  exact retryMove_settled hfirst hcount

theorem moveItem_of_no_index (policy : MovePolicy) (env : Interference) (kind : Kind)
    (store : Store) (hindex : request.toIndex = none) :
    moveItem policy env kind request store =
      (Session.start store, .error (.noTarget request.id)) := by
  simp only [moveItem, hindex]

theorem moveItem_of_no_attempt (env : Interference) (kind : Kind) (store : Store)
    (hindex : request.toIndex ≠ none) (hretries : policy.maxRetries < 0) :
    moveItem policy env kind request store =
      (Session.start store,
        .error (.contended request.id request.target (policy.maxRetries + 1) none)) := by
  obtain ⟨toIndex, hindex⟩ := Option.ne_none_iff_exists'.mp hindex
  have hnone : (policy.maxRetries + 1).toNat = 0 := Int.toNat_of_nonpos (by omega)
  simp only [moveItem, hindex, hnone]
  rfl

/-- How a move is settled: at once, or by one of its attempts. -/
theorem moveItem_cases (policy : MovePolicy) (env : Interference) (kind : Kind)
    (request : MoveRequest) (store : Store) :
    (∃ cause, moveItem policy env kind request store = (Session.start store, .error cause) ∧
      (cause = .noTarget request.id ∨
        cause = .contended request.id request.target (policy.maxRetries + 1) none)) ∨
    (request.toIndex ≠ none ∧ 0 ≤ policy.maxRetries ∧
      ∃ attempt begun, Begins policy env kind request store attempt begun ∧
        Settles policy request attempt (attemptMove policy env kind request attempt begun)
          (moveItem policy env kind request store)) := by
  by_cases hindex : request.toIndex = none
  · exact Or.inl ⟨_, moveItem_of_no_index policy env kind store hindex, Or.inl rfl⟩
  by_cases hretries : 0 ≤ policy.maxRetries
  · exact Or.inr ⟨hindex, hretries, moveItem_settled env kind store hindex hretries⟩
  · exact Or.inl ⟨_, moveItem_of_no_attempt env kind store hindex (by omega), Or.inr rfl⟩

/-- An attempt that does not conflict settles the move. -/
theorem moveItem_of_attempt {ending : AttemptEnd} (hindex : request.toIndex ≠ none)
    (hbegins : Begins policy env kind request store attempt begun)
    (hends : attemptMove policy env kind request attempt begun = (ended, ending))
    (hdecided : ∀ cause, ending ≠ .conflict cause) :
    Settles policy request attempt (ended, ending) (moveItem policy env kind request store) := by
  have hlt := hbegins.lt
  have hretries : 0 ≤ policy.maxRetries := by omega
  obtain ⟨last, other, hother, hsettles⟩ := moveItem_settled env kind store hindex hretries
  rcases Nat.lt_trichotomy last attempt with hearlier | rfl | hlater
  · -- The settling attempt would have conflicted and not been the last one.
    obtain ⟨cause, hconflicts⟩ := hbegins.conflicted last hearlier
    obtain ⟨session, hconflict⟩ := hconflicts.of_begins hother
    rw [hconflict] at hsettles
    generalize moveItem policy env kind request store = settled at hsettles
    cases hsettles with
    | contended _ _ hlast => omega
  · obtain rfl := hbegins.unique hother
    rwa [hends] at hsettles
  · obtain ⟨cause, hconflicts⟩ := hother.conflicted attempt hlater
    obtain ⟨session, hconflict⟩ := hconflicts.of_begins hbegins
    obtain ⟨-, hending⟩ := Prod.mk.inj (hends.symm.trans hconflict)
    exact absurd hending (hdecided cause)

end

end Kanban
