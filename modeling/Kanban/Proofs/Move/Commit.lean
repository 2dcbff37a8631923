/-
The write of a move that takes effect.  However other writers interfere, the view
it was planned against is the present one, and the moved item stands in the
source exactly if it stood there when the last version was read.
-/
import Mathlib.Data.List.Basic
import Kanban.Proofs.Move.Retry
import Kanban.Proofs.Ordering.Planning

namespace Kanban

/-- Operations of other writers that name what they touch and create nothing
under an id in use. -/
def Change.Orderly (store : Store) (change : Change) : Prop :=
  change.Named store ∧ change.Fresh store

theorem Store.members_applyAll_of_orderly {store : Store} {kind : Kind} {container : String}
    {changes : List Change} (horderly : Along Store.apply (fun s c => c.Orderly s) store changes)
    (hversion : (store.applyAll changes).version kind container =
      store.version kind container) :
    (store.applyAll changes).members kind container = store.members kind container := by
  refine Store.members_applyAll (horderly.imp ?_) hversion
  intro state change horderly
  exact ⟨horderly.1, horderly.2.not_takesFrom kind container⟩

variable {policy : MovePolicy} {env : Interference} {kind : Kind} {request : MoveRequest}
  {store : Store}

/-- A write of a move that takes effect: the attempt, the session in which it
began, the one in which it had read its last version, the move it planned, the
session right before the write, and the store written. -/
structure Commit (policy : MovePolicy) (env : Interference) (kind : Kind)
    (request : MoveRequest) (store : Store) where
  attempt : Nat
  start : Session
  looked : Session
  move : PlannedMove
  before : Session
  written : Store
  begins : Begins policy env kind request store attempt start
  planned : prepareMove policy env kind request attempt start = (looked, .planned move)
  arrived : looked.yieldAt env .write attempt = before
  accepted : env.refuses looked.writes = false
  applied : before.store.writePositions kind move.batch = .ok written

/-- The session after a write and the read-back of the item. -/
def Commit.final (commit : Commit policy env kind request store) : Session :=
  Session.yieldAt
    { commit.before with
      store := commit.written
      writes := commit.looked.writes + 1
      applied := commit.before.applied + 1 }
    env .readBack commit.attempt

/-- Before a write that takes effect only other writers acted. -/
theorem Commit.idle_before (commit : Commit policy env kind request store) :
    (Session.start store).Idle commit.before := by
  rw [← commit.arrived]
  exact (commit.begins.idle.trans (idle_of_prepared commit.planned)).trans
    (Session.idle_yieldAt _ _ _ _)

/-- An attempt that returns an item found it in place or wrote it. -/
theorem attemptMove_eq_moved {attempt : Nat} {start session : Session} {item : Item}
    (hbegins : Begins policy env kind request store attempt start)
    (hends : attemptMove policy env kind request attempt start = (session, .moved item)) :
    prepareMove policy env kind request attempt start = (session, .ended (.moved item)) ∨
      ∃ commit : Commit policy env kind request store,
        session = commit.final ∧
          commit.final.store.get? kind commit.move.item.id = some item := by
  have hattempted := attempted policy env kind request attempt start
  rw [hends] at hattempted
  cases hattempted with
  | unwritten hprepare => exact Or.inl hprepare
  | @returned looked move written _ hprepare haccepted hwrite hfound =>
      exact Or.inr ⟨⟨attempt, start, looked, move, _, written, hbegins, hprepare, rfl, haccepted,
        hwrite⟩, rfl, hfound⟩

/-- A move that returns an item found it in place or wrote it. -/
theorem moveItem_eq_ok {session : Session} {item : Item}
    (hmove : moveItem policy env kind request store = (session, .ok item)) :
    request.toIndex ≠ none ∧ 0 ≤ policy.maxRetries ∧
      ((∃ attempt start, Begins policy env kind request store attempt start ∧
          prepareMove policy env kind request attempt start = (session, .ended (.moved item))) ∨
        ∃ commit : Commit policy env kind request store,
          session = commit.final ∧
            commit.final.store.get? kind commit.move.item.id = some item) := by
  rcases moveItem_cases policy env kind request store with
    ⟨cause, herror, -⟩ | ⟨hindex, hretries, attempt, start, hbegins, hsettles⟩
  · rw [herror] at hmove
    cases hmove
  · refine ⟨hindex, hretries, ?_⟩
    rw [hmove] at hsettles
    generalize hends : attemptMove policy env kind request attempt start = ended at hsettles
    cases hsettles with
    | moved =>
        rcases attemptMove_eq_moved hbegins hends with hplace | hcommit
        · exact Or.inl ⟨attempt, start, hbegins, hplace⟩
        · exact Or.inr hcommit

/-- How an attempt came to its plan: it found the item twice in one container, and
took the view and then the version of that container. -/
theorem prepareMove_eq_planned {attempt : Nat} {start looked : Session} {move : PlannedMove}
    (hplanned : prepareMove policy env kind request attempt start = (looked, .planned move)) :
    ∃ seen : Session, start.Idle seen ∧
      (∃ notices, looked =
        { seen.looked env attempt request.target move.item.container with
          notices := notices }) ∧
      ((start.yieldAt env .load attempt).yieldAt env .reload attempt).store.load kind request =
        .ok move.item ∧
      (∃ found, (start.yieldAt env .load attempt).store.load kind request = .ok found ∧
        found.container = move.item.container) ∧
      move.view = seen.store.view kind request.target ∧
      seen = ((start.yieldAt env .load attempt).yieldAt env .reload attempt).yieldAt env .snapshot
        attempt ∧
      preparation policy request move.item move.view
        (looked.store.expectedFor request.target (seen.store.version kind request.target) kind
          move.item.container) = .planned move := by
  unfold prepareMove at hplanned
  dsimp only at hplanned
  split at hplanned
  · cases hplanned
  · rename_i found hfound
    generalize hreloaded : (start.yieldAt env .load attempt).yieldAt env .reload attempt = reloaded
      at hplanned ⊢
    have hidle : start.Idle reloaded := by
      rw [← hreloaded]
      exact (start.idle_yieldAt env .load attempt).trans (Session.idle_yieldAt _ _ _ _)
    cases hload : reloaded.store.load kind request with
    | error cause =>
        rw [planLocked_of_error hload] at hplanned
        cases hplanned
    | ok item =>
        by_cases hsource : item.container = found.container
        · obtain ⟨notices, heq⟩ := planLocked_eq policy env attempt hload hsource
          rw [heq, ← hsource] at hplanned
          obtain ⟨hlooked, hplan⟩ := Prod.mk.inj hplanned
          obtain ⟨placement, hmove, hmoves, rfl⟩ := preparation_eq_planned_iff.mp hplan
          refine ⟨reloaded.yieldAt env .snapshot attempt, ?_, ⟨notices, hlooked.symm⟩, rfl,
            ⟨found, hfound, hsource.symm⟩, rfl, rfl, ?_⟩
          · exact hidle.trans (reloaded.idle_yieldAt env .snapshot attempt)
          · rw [← hlooked]
            exact hplan
        · rw [planLocked_of_relocated hload hsource] at hplanned
          cases hplanned

theorem load_eq_error {cause : MoveError} (hload : store.load kind request = .error cause) :
    cause = .notFound kind request.id ∨
      ∃ source, cause = .otherBoard request.id source request.target := by
  unfold Store.load at hload
  cases hget : store.get? kind request.id with
  | none =>
      rw [hget] at hload
      exact Or.inl (Except.error.inj hload).symm
  | some item =>
      rw [hget] at hload
      dsimp only at hload
      split at hload
      · rw [(Shelf.get?_eq_some_iff.mp hget).2] at hload
        exact Or.inr ⟨item.container, (Except.error.inj hload).symm⟩
      · cases hload

/-- How an attempt ends without a plan: the item cannot be loaded, it is found in
another container the second time, or the plan ends it. -/
theorem prepareMove_eq_ended {attempt : Nat} {start looked : Session} {ending : AttemptEnd}
    (hended : prepareMove policy env kind request attempt start = (looked, .ended ending)) :
    (∃ cause, ending = .failed cause ∧ (cause = .notFound kind request.id ∨
        ∃ source, cause = .otherBoard request.id source request.target)) ∨
      (∃ source found, source ≠ found ∧
        ending = .conflict (.relocated kind request.id source found)) ∨
      ∃ seen item expected, start.Idle seen ∧ seen.Idle looked ∧ item.id = request.id ∧
        preparation policy request item (seen.store.view kind request.target) expected =
          .ended ending := by
  unfold prepareMove at hended
  dsimp only at hended
  split at hended
  · rename_i cause hload
    obtain ⟨-, hending⟩ := Prod.mk.inj hended
    obtain rfl := Preparation.ended.inj hending
    exact Or.inl ⟨cause, rfl, load_eq_error hload⟩
  · rename_i found hfound
    have hidle : start.Idle ((start.yieldAt env .load attempt).yieldAt env .reload attempt) :=
      (start.idle_yieldAt env .load attempt).trans (Session.idle_yieldAt _ _ _ _)
    generalize (start.yieldAt env .load attempt).yieldAt env .reload attempt = reloaded
      at hended hidle
    cases hload : reloaded.store.load kind request with
    | error cause =>
        rw [planLocked_of_error hload] at hended
        obtain ⟨-, hending⟩ := Prod.mk.inj hended
        obtain rfl := Preparation.ended.inj hending
        exact Or.inl ⟨cause, rfl, load_eq_error hload⟩
    | ok item =>
        have hid : item.id = request.id :=
          (Shelf.get?_eq_some_iff.mp (load_eq_ok_iff.mp hload).1).2
        by_cases hsource : item.container = found.container
        · obtain ⟨notices, heq⟩ := planLocked_eq policy env attempt hload hsource
          rw [heq] at hended
          obtain ⟨hlooked, hplan⟩ := Prod.mk.inj hended
          refine Or.inr (Or.inr ⟨reloaded.yieldAt env .snapshot attempt, item, _,
            hidle.trans (reloaded.idle_yieldAt env .snapshot attempt), ?_, hid, hplan⟩)
          rw [← hlooked]
          exact (Session.idle_looked _ env attempt _ _).trans (Session.idle_notices _ notices)
        · rw [planLocked_of_relocated hload hsource, hid] at hended
          obtain ⟨-, hending⟩ := Prod.mk.inj hended
          obtain rfl := Preparation.ended.inj hending
          exact Or.inr (Or.inl ⟨_, _, Ne.symm hsource, rfl⟩)

/-- What other writers did between two sessions, at the stores they found. -/
theorem Session.Idle.along {session after : Session} {condition : Store → Change → Prop}
    (hstart : (Session.start store).Idle session) (hidle : session.Idle after)
    (halong : Along Store.apply condition store after.others) :
    ∃ changes, after.store = session.store.applyAll changes ∧
      Along Store.apply condition session.store changes := by
  obtain ⟨first, hstore, hothers, -⟩ := hstart
  obtain ⟨second, hstore', hothers', -⟩ := hidle
  refine ⟨second, hstore', ?_⟩
  rw [hothers', hothers] at halong
  rw [hstore]
  exact ((along_append store first second).mp halong).2

/-- What current versions guarantee to a write: since the view was taken the target has
the same members, and since the last version was read the source has. -/
theorem members_eq_of_current {attempt : Nat} {start looked before : Session}
    {move : PlannedMove} (hbegan : (Session.start store).Idle start)
    (hplanned : prepareMove policy env kind request attempt start = (looked, .planned move))
    (hlookedBefore : looked.Idle before)
    (hcurrent : before.store.stale? kind move.batch.expected = none)
    (horderly : Along Store.apply (fun s c => c.Orderly s) store before.others) :
    before.store.view kind request.target = move.view ∧
      before.store.members kind move.item.container =
        looked.store.members kind move.item.container := by
  obtain ⟨seen, hseen, ⟨notices, hlooked⟩, -, -, hview, -, hplan⟩ :=
    prepareMove_eq_planned hplanned
  obtain ⟨-, -, hexpected, -, -⟩ := preparation_batch hplan
  have hseenLooked : seen.Idle looked := by
    rw [hlooked]
    exact (seen.idle_looked env _ _ _).trans (Session.idle_notices _ _)
  obtain ⟨changes, hstore, halong⟩ :=
    (hbegan.trans hseen).along (hseenLooked.trans hlookedBefore) horderly
  obtain ⟨late, hlate, halongLate⟩ :=
    ((hbegan.trans hseen).trans hseenLooked).along hlookedBefore horderly
  rw [hexpected, Store.stale?_eq_none_iff] at hcurrent
  have htarget : before.store.version kind request.target =
      seen.store.version kind request.target := by
    have hentry := hcurrent (request.target, (seen.store.version kind request.target : Int))
      (by unfold Store.expectedFor; split <;> simp)
    exact Int.natCast_inj.mp hentry.symm
  have hmembers : before.store.members kind request.target =
      seen.store.members kind request.target := by
    rw [hstore]
    exact Store.members_applyAll_of_orderly halong (by rw [← hstore, htarget])
  constructor
  · rw [hview]
    exact Store.view_eq_of_members_eq hmembers
  · by_cases hsame : move.item.container = request.target
    · have hstay : looked.store = seen.store := by
        rw [hlooked, Session.looked, if_pos hsame]
      rw [hsame, hmembers, hstay]
    · have hsource : before.store.version kind move.item.container =
          looked.store.version kind move.item.container := by
        have hentry := hcurrent (move.item.container,
            (looked.store.version kind move.item.container : Int))
          (by unfold Store.expectedFor; rw [if_neg hsame]; simp)
        exact Int.natCast_inj.mp hentry.symm
      rw [hlate]
      exact Store.members_applyAll_of_orderly halongLate (by rw [← hlate, hsource])

theorem Commit.members_eq (commit : Commit policy env kind request store)
    (horderly : Along Store.apply (fun s c => c.Orderly s) store commit.before.others) :
    commit.before.store.view kind request.target = commit.move.view ∧
      commit.before.store.members kind commit.move.item.container =
        commit.looked.store.members kind commit.move.item.container := by
  have hlookedBefore : commit.looked.Idle commit.before := by
    rw [← commit.arrived]
    exact Session.idle_yieldAt _ _ _ _
  obtain ⟨hcurrent, -, -⟩ := Store.writePositions_eq_ok_iff.mp commit.applied
  exact members_eq_of_current commit.begins.idle commit.planned hlookedBefore hcurrent horderly

/-- However other writers interfere, a write that takes effect finds the view it was
planned against, and the moved item in the source exactly if it was there when
the last version was read.  If it was, the item is in the target afterwards, and
every container whose contents the write changes has been counted up. -/
theorem commit_sound (commit : Commit policy env kind request store)
    (horderly : Along Store.apply (fun s c => c.Orderly s) store commit.before.others) :
    let source := commit.move.item.container
    commit.before.store.view kind request.target = commit.move.view ∧
    (∀ item, commit.before.store.get? kind request.id = some item ∧ item.container = source ↔
      commit.looked.store.get? kind request.id = some item ∧ item.container = source) ∧
    ((∃ item, commit.looked.store.get? kind request.id = some item ∧
        item.container = source) →
      (∃ moved, commit.written.get? kind request.id = some moved ∧
        moved.container = request.target) ∧
      ∀ other container,
        commit.written.contents other container ≠
          commit.before.store.contents other container →
        commit.written.version other container =
          commit.before.store.version other container + 1) := by
  intro source
  obtain ⟨hview, hmembers⟩ := commit.members_eq horderly
  have hstands (item : Item) :
      commit.before.store.get? kind request.id = some item ∧ item.container = source ↔
        commit.looked.store.get? kind request.id = some item ∧ item.container = source := by
    rw [Store.mem_members_iff, Store.mem_members_iff, hmembers]
  refine ⟨hview, hstands, ?_⟩
  rintro ⟨item, hitem⟩
  obtain ⟨hfound, hsource⟩ := (hstands item).mpr hitem
  obtain ⟨seen, -, -, hload, -, -, -, hplan⟩ := prepareMove_eq_planned commit.planned
  have hid : commit.move.item.id = request.id :=
    (Shelf.get?_eq_some_iff.mp (load_eq_ok_iff.mp hload).1).2
  obtain ⟨-, -, hexpected, -, -⟩ := preparation_batch hplan
  rw [← hview] at hplan
  rw [← hid] at hfound ⊢
  constructor
  · exact (written_of_preparation hplan hfound hsource commit.applied).1
  · intro other container hcontents
    obtain ⟨-, -, hwritten⟩ := Store.writePositions_eq_ok_iff.mp commit.applied
    by_cases hkind : other = kind
    · subst hkind
      have hcounted : container ∈ commit.move.batch.expected.keys := by
        rw [hexpected, keys_expectedFor]
        by_contra hneither
        rw [not_or] at hneither
        exact hcontents (Store.contents_eq_of_members_eq
          ((written_of_preparation hplan hfound hsource commit.applied).2 container hneither.1
            hneither.2))
      rw [hwritten, Store.version, Store.shelf_withShelf_self, Shelf.versions_bump,
        if_pos hcounted]
      rfl
    · refine absurd ?_ hcontents
      rw [hwritten, Store.contents, Store.shelf_withShelf_of_ne _ hkind]
      rfl

/-- Another writer stores the card on a list right before a step. -/
def storingAt (moment : Moment) (card : Item) : Interference where
  changes here _ _ := if here = moment then [.upsert .card card] else []
  refuses _ := false

/-- A card goes from one list to another while someone writes to a third. -/
def oneCardCommit :
    Commit .default (storingAt .load ⟨"Y", "c", .zero false, 0, []⟩) .card
      ⟨"X", none, some 0, "b"⟩ oneCard where
  attempt := 0
  start := Session.start oneCard
  looked := _
  move := _
  before := _
  written := _
  begins := .first (by decide)
  planned := rfl
  arrived := rfl
  accepted := rfl
  applied := rfl

theorem commit_sound_oneCard :
    Along Store.apply (fun s c => c.Orderly s) oneCard oneCardCommit.before.others ∧
    (∃ item, oneCardCommit.looked.store.get? .card "X" = some item ∧
      item.container = oneCardCommit.move.item.container) ∧
    oneCardCommit.before.store.view .card "b" = oneCardCommit.move.view ∧
    (∃ moved, oneCardCommit.written.get? .card "X" = some moved ∧ moved.container = "b") ∧
    ∀ other container,
      oneCardCommit.written.contents other container ≠
        oneCardCommit.before.store.contents other container →
      oneCardCommit.written.version other container =
        oneCardCommit.before.store.version other container + 1 := by
  have horderly :
      Along Store.apply (fun s c => c.Orderly s) oneCard oneCardCommit.before.others :=
    ⟨⟨trivial, trivial⟩, trivial⟩
  have hstands : ∃ item, oneCardCommit.looked.store.get? .card "X" = some item ∧
      item.container = oneCardCommit.move.item.container :=
    ⟨⟨"X", "a", .zero false, 1, []⟩, rfl, rfl⟩
  obtain ⟨hview, -, harrives⟩ := commit_sound oneCardCommit horderly
  exact ⟨horderly, hstands, hview, harrives hstands⟩

/-- A card is stored on another list between the second look and the view. -/
def misplacedCommit :
    Commit .default (storingAt .snapshot ⟨"X", "b", .zero false, 1, []⟩) .card
      ⟨"X", none, some 0, "a"⟩ oneCard where
  attempt := 0
  start := Session.start oneCard
  looked := _
  move := _
  before := _
  written := _
  begins := .first (by decide)
  planned := rfl
  arrived := rfl
  accepted := rfl
  applied := rfl

/-- A card stored elsewhere between the second look and the view is written where
it stands, on a list that does not count the write; one stored elsewhere after
the write is returned from there. -/
theorem misplaced_card :
    (Along Store.apply (fun s c => c.Orderly s) oneCard misplacedCommit.before.others ∧
      misplacedCommit.move.item.container = "a" ∧
      (misplacedCommit.before.store.get? .card "X").map Item.container = some "b" ∧
      (misplacedCommit.written.get? .card "X").map Item.container = some "b" ∧
      misplacedCommit.written.contents .card "b" ≠
        misplacedCommit.before.store.contents .card "b" ∧
      misplacedCommit.written.version .card "b" =
        misplacedCommit.before.store.version .card "b") ∧
    (moveItem .default (storingAt .snapshot ⟨"X", "b", .zero false, 1, []⟩) .card
      ⟨"X", none, some 0, "a"⟩ oneCard).2.map Item.container = .ok "b" ∧
    (moveItem .default (storingAt .readBack ⟨"X", "c", .zero false, 1, []⟩) .card
      ⟨"X", none, some 0, "b"⟩ oneCard).2.map Item.container = .ok "c" := by
  refine ⟨⟨⟨⟨trivial, trivial⟩, trivial⟩, rfl, rfl, rfl, ?_, ?_⟩, rfl, rfl⟩
  · decide +kernel
  · decide +kernel

end Kanban
