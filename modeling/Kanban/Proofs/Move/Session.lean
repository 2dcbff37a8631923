/-
Sessions of a move.  Up to the write that takes effect only other writers change
the store, so a session tells its store by what they did.  What an attempt works
out depends on the item, the view and the versions alone.
-/
import Mathlib.Data.List.Basic
import Kanban.Proofs.Move.Plan

namespace Kanban

theorem Store.applyAll_append (store : Store) (first second : List Change) :
    store.applyAll (first ++ second) = (store.applyAll first).applyAll second :=
  List.foldl_append

/-- From one session to another only other writers acted. -/
def Session.Idle (before after : Session) : Prop :=
  ∃ changes, after.store = before.store.applyAll changes ∧
    after.others = before.others ++ changes ∧ after.applied = before.applied

namespace Session

variable {session before after : Session} {env : Interference} {moment : Moment}
  {attempt : Nat}

theorem Idle.refl (session : Session) : session.Idle session :=
  ⟨[], rfl, (List.append_nil _).symm, rfl⟩

theorem Idle.trans {middle : Session} (hfirst : before.Idle middle)
    (hsecond : middle.Idle after) : before.Idle after := by
  obtain ⟨first, hstore, hothers, happlied⟩ := hfirst
  obtain ⟨second, hstore', hothers', happlied'⟩ := hsecond
  refine ⟨first ++ second, ?_, ?_, happlied'.trans happlied⟩
  · rw [hstore', hstore, Store.applyAll_append]
  · rw [hothers', hothers, List.append_assoc]

theorem idle_yieldAt (session : Session) (env : Interference) (moment : Moment)
    (attempt : Nat) : session.Idle (session.yieldAt env moment attempt) :=
  ⟨env.changes moment attempt session.writes, rfl, rfl, rfl⟩

theorem idle_notices (session : Session) (notices : List MoveNotice) :
    session.Idle { session with notices := notices } :=
  ⟨[], rfl, (List.append_nil _).symm, rfl⟩

/-- While only other writers act, no write takes effect and the store is what they made
of it. -/
theorem Idle.untouched {store : Store} (hidle : (Session.start store).Idle session) :
    session.applied = 0 ∧ session.store = store.applyAll session.others := by
  obtain ⟨changes, hstore, hothers, happlied⟩ := hidle
  refine ⟨happlied, ?_⟩
  rw [hothers]
  exact hstore

theorem Idle.store_eq {store : Store} (hidle : (Session.start store).Idle session) :
    session.store = store.applyAll session.others :=
  hidle.untouched.2

end Session

/-- Other writers do nothing before a step. -/
def Interference.QuietAt (env : Interference) (moment : Moment) : Prop :=
  ∀ attempt writes, env.changes moment attempt writes = []

theorem Interference.none_quietAt (moment : Moment) : Interference.none.QuietAt moment :=
  fun _ _ => rfl

theorem Interference.QuietAt.yieldAt {env : Interference} {moment : Moment}
    (hquiet : env.QuietAt moment) (session : Session) (attempt : Nat) :
    session.yieldAt env moment attempt = session := by
  simp [Session.yieldAt, hquiet attempt session.writes, Store.applyAll, Store.reportsAll]

variable {policy : MovePolicy} {env : Interference} {kind : Kind} {request : MoveRequest}
  {attempt : Nat} {session : Session} {item : Item} {view : List (Sibling Binary64)}
  {expected : Mapping Int} {move : PlannedMove}

theorem planWrite_eq : ∃ notices,
    planWrite policy kind request item view expected session =
      ({ session with notices := notices }, preparation policy request item view expected) := by
  unfold planWrite preparation
  cases planMove view (request.within item.container) (some item.snapshot) with
  | error cause => cases cause <;> exact ⟨session.notices, rfl⟩
  | ok placement =>
      by_cases hnoop : placement.noop ∧ item.container = request.target
      · simp only [hnoop, and_self, ↓reduceIte]
        exact ⟨_, rfl⟩
      · by_cases hneeds : needsRenormalization placement.ordered policy.threshold = true
        · simp only [hnoop, hneeds, ↓reduceIte]
          exact ⟨_, rfl⟩
        · simp only [hnoop, hneeds, Bool.false_eq_true, ↓reduceIte]
          exact ⟨_, rfl⟩

/-- The session in which an attempt reads its last version, from the one in which
it takes the view. -/
def Session.looked (seen : Session) (env : Interference) (attempt : Nat)
    (target source : String) : Session :=
  if source = target then seen else seen.yieldAt env .sourceVersion attempt

theorem Session.idle_looked (seen : Session) (env : Interference) (attempt : Nat)
    (target source : String) : seen.Idle (seen.looked env attempt target source) := by
  unfold Session.looked
  split
  · exact Idle.refl seen
  · exact seen.idle_yieldAt env .sourceVersion attempt

/-- The part of an attempt under the locks. -/
theorem planLocked_eq (policy : MovePolicy) (env : Interference) (attempt : Nat)
    {source : String} (hload : session.store.load kind request = .ok item)
    (hsource : item.container = source) :
    let seen := session.yieldAt env .snapshot attempt
    let looked := seen.looked env attempt request.target source
    ∃ notices, planLocked policy env kind request source attempt session =
      ({ looked with notices := notices },
        preparation policy request item (seen.store.view kind request.target)
          (looked.store.expectedFor request.target (seen.store.version kind request.target)
            kind source)) := by
  subst hsource
  simp only [planLocked, hload, ne_eq, not_true_eq_false, ↓reduceIte, Session.looked,
    Store.expectedFor]
  split
  · exact planWrite_eq
  · exact planWrite_eq

theorem planLocked_of_relocated {source : String}
    (hload : session.store.load kind request = .ok item) (hsource : item.container ≠ source) :
    planLocked policy env kind request source attempt session =
      (session, .ended (.conflict (.relocated kind item.id source item.container))) := by
  simp [planLocked, hload, hsource]

theorem planLocked_of_error {source : String} {cause : MoveError}
    (hload : session.store.load kind request = .error cause) :
    planLocked policy env kind request source attempt session =
      (session, .ended (.failed cause)) := by
  simp [planLocked, hload]

theorem idle_planLocked (policy : MovePolicy) (env : Interference) (kind : Kind)
    (request : MoveRequest) (source : String) (attempt : Nat) (session : Session) :
    session.Idle (planLocked policy env kind request source attempt session).1 := by
  cases hload : session.store.load kind request with
  | error cause =>
      rw [planLocked_of_error hload]
      exact Session.Idle.refl session
  | ok item =>
      by_cases hsource : item.container = source
      · obtain ⟨notices, heq⟩ := planLocked_eq policy env attempt hload hsource
        rw [heq]
        exact (session.idle_yieldAt env .snapshot attempt).trans
          (((session.yieldAt env .snapshot attempt).idle_looked env attempt request.target
            source).trans (Session.idle_notices _ notices))
      · rw [planLocked_of_relocated hload hsource]
        exact Session.Idle.refl session

theorem idle_prepareMove (policy : MovePolicy) (env : Interference) (kind : Kind)
    (request : MoveRequest) (attempt : Nat) (session : Session) :
    session.Idle (prepareMove policy env kind request attempt session).1 := by
  have hfirst := session.idle_yieldAt env .load attempt
  unfold prepareMove
  dsimp only
  split
  · exact hfirst
  · exact hfirst.trans ((Session.idle_yieldAt _ env .reload attempt).trans
      (idle_planLocked policy env kind request _ attempt _))

/-- No write is entered before the plan is made. -/
theorem writes_planLocked (policy : MovePolicy) (env : Interference) (kind : Kind)
    (request : MoveRequest) (source : String) (attempt : Nat) (session : Session) :
    (planLocked policy env kind request source attempt session).1.writes = session.writes := by
  cases hload : session.store.load kind request with
  | error cause => rw [planLocked_of_error hload]
  | ok item =>
      by_cases hsource : item.container = source
      · obtain ⟨notices, heq⟩ := planLocked_eq policy env attempt hload hsource
        rw [heq]
        dsimp only [Session.looked]
        split
        · rfl
        · rfl
      · rw [planLocked_of_relocated hload hsource]

theorem writes_prepareMove (policy : MovePolicy) (env : Interference) (kind : Kind)
    (request : MoveRequest) (attempt : Nat) (session : Session) :
    (prepareMove policy env kind request attempt session).1.writes = session.writes := by
  rw [prepareMove]
  split
  · rfl
  · exact writes_planLocked policy env kind request _ attempt _

end Kanban
