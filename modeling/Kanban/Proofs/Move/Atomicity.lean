/-
Moves that fail.  A move enters no more writes than it has attempts, and gives up
exactly when all of them have conflicted.  One that fails has written nothing, with
one exception: a renumbering does not name the moved item if that stands at its new
index already, so the write goes through even when the item is gone.
-/
import Mathlib.Data.List.Basic
import Kanban.Proofs.Move.Commit

namespace Kanban

variable {policy : MovePolicy} {env : Interference} {kind : Kind} {request : MoveRequest}
  {store : Store} {session : Session}

/-- What an attempt that conflicts has met: the item in another container than
before, a container that has changed, or a backend that refuses the write. -/
theorem ConflictsAt.cause {attempt : Nat} {cause : Conflict}
    (hconflicts : ConflictsAt policy env kind request store attempt cause) :
    (∃ source found, source ≠ found ∧ cause = .relocated kind request.id source found) ∨
      (∃ container expected actual, expected ≠ ((actual : Nat) : Int) ∧
        cause = .stale container expected actual) ∨
      ∃ number, env.refuses number = true ∧ cause = .refused request.target := by
  obtain ⟨begun, ended, -, hends⟩ := hconflicts
  have hattempted := attempted policy env kind request attempt begun
  rw [hends] at hattempted
  cases hattempted with
  | unwritten hprepare =>
      rcases prepareMove_eq_ended hprepare with
        ⟨_, hfailed, -⟩ | ⟨source, found, hne, hending⟩ | ⟨_, _, _, -, -, -, hplan⟩
      · cases hfailed
      · exact Or.inl ⟨source, found, hne, AttemptEnd.conflict.inj hending⟩
      · rcases preparation_eq_ended hplan with ⟨hmoved, -⟩ | ⟨_, _, -, hfailed⟩
        · cases hmoved
        · cases hfailed
  | refused _ hrefuses => exact Or.inr (Or.inr ⟨_, hrefuses, rfl⟩)
  | turnedDown _ _ hwrite =>
      obtain ⟨container, expected, -, hne, hcause⟩ := Store.writePositions_eq_conflict hwrite
      exact Or.inr (Or.inl ⟨container, expected, _, hne, hcause⟩)

/-- All attempts of a move conflict, and `last` is the conflict of the last one. -/
structure AllConflict (policy : MovePolicy) (env : Interference) (kind : Kind)
    (request : MoveRequest) (store : Store) (last : Option Conflict) : Prop where
  all : ∀ attempt : Nat, (attempt : Int) < policy.maxRetries + 1 →
    ∃ cause, ConflictsAt policy env kind request store attempt cause
  last_eq : ∀ (attempt : Nat) cause, ((attempt + 1 : Nat) : Int) = policy.maxRetries + 1 →
    ConflictsAt policy env kind request store attempt cause → last = some cause
  last_eq_none : policy.maxRetries < 0 → last = none

/-- An attempt that fails wrote nothing, or its item was gone at the read-back; it
never gives up for others. -/
theorem attemptMove_eq_failed {attempt : Nat} {begun ended : Session} {cause : MoveError}
    (hbegins : Begins policy env kind request store attempt begun)
    (hends : attemptMove policy env kind request attempt begun = (ended, .failed cause)) :
    (∀ id target attempts last, cause ≠ .contended id target attempts last) ∧
      (begun.Idle ended ∨
        ∃ commit : Commit policy env kind request store, ended = commit.final ∧
          commit.final.store.get? kind commit.move.item.id = none ∧
          cause = .notFound kind commit.move.item.id) := by
  have hattempted := attempted policy env kind request attempt begun
  rw [hends] at hattempted
  cases hattempted with
  | unwritten hprepare =>
      refine ⟨?_, Or.inl (idle_of_prepared hprepare)⟩
      rintro id target attempts last rfl
      rcases prepareMove_eq_ended hprepare with
        ⟨_, hfailed, hnone | ⟨_, hother⟩⟩ | ⟨_, _, -, hconflict⟩ | ⟨_, _, _, -, -, -, hplan⟩
      · rw [hnone] at hfailed
        cases hfailed
      · rw [hother] at hfailed
        cases hfailed
      · cases hconflict
      · rcases preparation_eq_ended hplan with ⟨hmoved, -⟩ | ⟨reason, _, hmove, hfailed⟩
        · cases hmoved
        · rw [preparation, hmove] at hplan
          cases reason <;> cases hplan
  | missing hprepare _ hwrite =>
      refine ⟨?_, Or.inl ((idle_of_prepared hprepare).trans (Session.idle_entering _ env attempt))⟩
      rintro id target attempts last hcause
      cases hcause
  | @vanished looked move written hprepare haccepted hwrite hgone =>
      refine ⟨?_, Or.inr ⟨⟨attempt, begun, looked, move, _, written, hbegins, hprepare, rfl,
        haccepted, hwrite⟩, rfl, hgone, rfl⟩⟩
      rintro id target attempts last hcause
      cases hcause

/-- The conflict of the attempt that settles a move is the last one. -/
theorem Begins.allConflict {attempt : Nat} {begun ended : Session} {cause : Conflict}
    (hbegins : Begins policy env kind request store attempt begun)
    (hends : attemptMove policy env kind request attempt begun = (ended, .conflict cause))
    (hlast : ((attempt + 1 : Nat) : Int) = policy.maxRetries + 1) :
    AllConflict policy env kind request store (some cause) := by
  constructor
  case all =>
    intro earlier hearlier
    rcases Nat.lt_or_eq_of_le (by omega : earlier ≤ attempt) with hbefore | rfl
    · exact hbegins.conflicted earlier hbefore
    · exact ⟨cause, begun, ended, hbegins, hends⟩
  case last_eq =>
    intro final other hfinal hother
    obtain rfl : final = attempt := by omega
    obtain ⟨_, hconflict⟩ := hother.of_begins hbegins
    obtain ⟨-, hcause⟩ := Prod.mk.inj (hends.symm.trans hconflict)
    exact congrArg some (AttemptEnd.conflict.inj hcause)
  case last_eq_none =>
    intro hnegative
    omega

theorem AllConflict.moveItem_eq {last : Option Conflict} (hindex : request.toIndex ≠ none)
    (hall : AllConflict policy env kind request store last) :
    (moveItem policy env kind request store).2 =
      .error (.contended request.id request.target (policy.maxRetries + 1) last) := by
  by_cases hretries : 0 ≤ policy.maxRetries
  · obtain ⟨final, begun, hbegins, hsettles⟩ := moveItem_settled env kind store hindex hretries
    obtain ⟨cause, hconflicts⟩ := hall.all final hbegins.lt
    obtain ⟨ended, hends⟩ := hconflicts.of_begins hbegins
    rw [hends] at hsettles
    generalize moveItem policy env kind request store = settled at hsettles
    cases hsettles with
    | contended _ _ hlast => rw [hall.last_eq final cause hlast hconflicts]
  · rw [moveItem_of_no_attempt env kind store hindex (by omega), hall.last_eq_none (by omega)]

/-- A move gives up exactly when every attempt has conflicted. -/
theorem moveItem_eq_contended_iff (hindex : request.toIndex ≠ none) (id target : String)
    (attempts : Int) (last : Option Conflict) :
    (moveItem policy env kind request store).2 = .error (.contended id target attempts last) ↔
      id = request.id ∧ target = request.target ∧ attempts = policy.maxRetries + 1 ∧
        AllConflict policy env kind request store last := by
  constructor
  · intro hresult
    by_cases hretries : 0 ≤ policy.maxRetries
    · obtain ⟨final, begun, hbegins, hsettles⟩ := moveItem_settled env kind store hindex hretries
      generalize hends : attemptMove policy env kind request final begun = ended at hsettles
      generalize moveItem policy env kind request store = settled at hsettles hresult
      cases hsettles with
      | moved => cases hresult
      | failed session cause =>
          obtain rfl := Except.error.inj hresult
          exact absurd rfl ((attemptMove_eq_failed hbegins hends).1 id target attempts last)
      | contended session cause hlast =>
          obtain ⟨rfl, rfl, rfl, rfl⟩ := MoveError.contended.inj (Except.error.inj hresult)
          exact ⟨rfl, rfl, rfl, hbegins.allConflict hends hlast⟩
    · rw [moveItem_of_no_attempt env kind store hindex (by omega)] at hresult
      obtain ⟨rfl, rfl, rfl, rfl⟩ := MoveError.contended.inj (Except.error.inj hresult)
      -- Without attempts there is nothing that has to conflict.
      refine ⟨rfl, rfl, rfl, ?_, ?_, fun _ => rfl⟩
      · intro attempt hattempt
        omega
      · intro attempt cause hattempt
        omega
  · rintro ⟨rfl, rfl, rfl, hall⟩
    exact hall.moveItem_eq hindex

/-- The item of a write that takes effect was not stored when it did. -/
def Commit.Vanished (commit : Commit policy env kind request store) : Prop :=
  commit.before.store.get? kind request.id = none

namespace Commit

variable {commit : Commit policy env kind request store}

theorem item_id (commit : Commit policy env kind request store) :
    commit.move.item.id = request.id := by
  obtain ⟨_, -, -, hload, -⟩ := prepareMove_eq_planned commit.planned
  exact (Shelf.get?_eq_some_iff.mp (load_eq_ok_iff.mp hload).1).2

theorem toIndex_ne_none (commit : Commit policy env kind request store) :
    request.toIndex ≠ none := by
  obtain ⟨_, -, -, -, -, -, -, hplan⟩ := prepareMove_eq_planned commit.planned
  obtain ⟨placement, hmove, -, -⟩ := preparation_eq_planned_iff.mp hplan
  obtain ⟨toIndex, hindex, -⟩ := planMove_eq_ok_iff.mp hmove
  rw [MoveRequest.toIndex_within] at hindex
  rw [hindex]
  exact Option.some_ne_none toIndex

/-- A write can only take effect without its item if it does not name it. -/
theorem Vanished.not_named (hvanished : commit.Vanished) :
    request.id ∉ commit.move.batch.positions.keys ∧
      request.id ∉ commit.move.batch.containers.keys := by
  obtain ⟨-, hstored, -⟩ := Store.writePositions_eq_ok_iff.mp commit.applied
  rw [Store.missing?_eq_none_iff] at hstored
  have hunnamed : request.id ∉
      commit.move.batch.positions.keys ++ commit.move.batch.containers.keys := by
    intro hnamed
    obtain ⟨item, hitem⟩ := hstored request.id hnamed
    rw [hvanished] at hitem
    cases hitem
  rw [List.mem_append, not_or] at hunnamed
  exact hunnamed

/-- Where nobody acts before the read-back, it fails exactly if the item was gone at
the write. -/
theorem vanished_iff (hquiet : env.QuietAt .readBack) :
    commit.Vanished ↔ commit.final.store.get? kind commit.move.item.id = none := by
  obtain ⟨-, -, hwritten⟩ := Store.writePositions_eq_ok_iff.mp commit.applied
  have hfinal : commit.final.store = commit.written := by
    rw [final, hquiet.yieldAt]
  rw [hfinal, hwritten, commit.item_id, Store.get?, Store.shelf_withShelf_self, Shelf.get?_bump,
    Shelf.get?_reposition, Option.map_eq_none_iff]
  rfl

/-- A write without its item is not taken back, and the move reports that the item
is not found. -/
theorem Vanished.moveItem_eq (hquiet : env.QuietAt .readBack) (hvanished : commit.Vanished) :
    moveItem policy env kind request store =
      (commit.final, .error (.notFound kind request.id)) := by
  have hgone := (vanished_iff hquiet).mp hvanished
  have hends : attemptMove policy env kind request commit.attempt commit.start =
      (commit.final, .failed (.notFound kind request.id)) := by
    have hwrite := commit.applied
    rw [← commit.arrived] at hwrite
    rw [final, ← commit.arrived] at hgone
    rw [final, ← commit.arrived, ← commit.item_id]
    simp only [attemptMove, commit.planned, commitMove, commit.accepted, Bool.false_eq_true,
      ↓reduceIte, hwrite, hgone]
  have hsettles := moveItem_of_attempt commit.toIndex_ne_none commit.begins hends (by simp)
  generalize moveItem policy env kind request store = settled at hsettles
  cases hsettles
  rfl

/-- A write that takes effect is counted by the target, beside what the others did. -/
theorem version_final (hquiet : env.QuietAt .readBack)
    (commit : Commit policy env kind request store) :
    commit.final.store.version kind request.target =
      (store.applyAll commit.final.others).version kind request.target + 1 := by
  obtain ⟨_, -, -, -, -, -, -, hplan⟩ := prepareMove_eq_planned commit.planned
  obtain ⟨-, -, hexpected, -, -⟩ := preparation_batch hplan
  obtain ⟨-, -, hwritten⟩ := Store.writePositions_eq_ok_iff.mp commit.applied
  obtain ⟨changes, hstore, hothers, -⟩ := commit.idle_before
  have hcounted : request.target ∈ commit.move.batch.expected.keys := by
    rw [hexpected, keys_expectedFor]
    exact Or.inl rfl
  rw [final, hquiet.yieldAt]
  change commit.written.version kind request.target =
    (store.applyAll commit.before.others).version kind request.target + 1
  rw [hothers, hwritten, Store.version, Store.shelf_withShelf_self, Shelf.versions_bump,
    if_pos hcounted, hstore]
  rfl

end Commit

/-- Whether a move returns an item or not, either the store is what other writers made of
it, or the move made one write that took effect. -/
theorem moveItem_idle_or_commit (policy : MovePolicy) (env : Interference) (kind : Kind)
    (request : MoveRequest) (store : Store) :
    (Session.start store).Idle (moveItem policy env kind request store).1 ∨
      ∃ commit : Commit policy env kind request store,
        (moveItem policy env kind request store).1 = commit.final := by
  rcases moveItem_cases policy env kind request store with
    ⟨cause, herror, -⟩ | ⟨-, -, final, begun, hbegins, hsettles⟩
  · rw [herror]
    exact Or.inl (Session.Idle.refl _)
  · generalize hends : attemptMove policy env kind request final begun = ended at hsettles
    generalize moveItem policy env kind request store = settled at hsettles
    cases hsettles with
    | moved =>
        rcases attemptMove_eq_moved hbegins hends with hplace | ⟨commit, hfinal, -⟩
        · exact Or.inl (hbegins.idle.trans (idle_of_prepared hplace))
        · exact Or.inr ⟨commit, hfinal⟩
    | failed =>
        rcases (attemptMove_eq_failed hbegins hends).2 with hidle | ⟨commit, hfinal, -, -⟩
        · exact Or.inl (hbegins.idle.trans hidle)
        · exact Or.inr ⟨commit, hfinal⟩
    | contended =>
        exact Or.inl ((hbegins.idle.trans (idle_of_conflict hends)).trans
          (Session.idle_notices _ _))

/-- A move that fails while nobody acts before its read-back has left the store to the
other writers, unless its item was gone at a write that did not name it. -/
theorem moveItem_eq_error (hquiet : env.QuietAt .readBack) {cause : MoveError}
    (hmove : moveItem policy env kind request store = (session, .error cause)) :
    (session.applied = 0 ∧ session.store = store.applyAll session.others) ∨
      ∃ commit : Commit policy env kind request store, commit.Vanished ∧
        session = commit.final ∧ cause = .notFound kind request.id := by
  rcases moveItem_cases policy env kind request store with
    ⟨cause, herror, -⟩ | ⟨-, -, final, begun, hbegins, hsettles⟩
  · rw [herror] at hmove
    obtain ⟨rfl, -⟩ := Prod.mk.inj hmove
    exact Or.inl (Session.Idle.refl _).untouched
  · rw [hmove] at hsettles
    generalize hends : attemptMove policy env kind request final begun = ended at hsettles
    cases hsettles with
    | failed =>
        rcases (attemptMove_eq_failed hbegins hends).2 with hidle | ⟨commit, rfl, hgone, rfl⟩
        · exact Or.inl (hbegins.idle.trans hidle).untouched
        · exact Or.inr ⟨commit, (Commit.vanished_iff hquiet).mpr hgone, rfl,
            by rw [commit.item_id]⟩
    | contended =>
        exact Or.inl ((hbegins.idle.trans (idle_of_conflict hends)).trans
          (Session.idle_notices _ _)).untouched

/-- Each attempt enters one write at most, and a move writes once at most. -/
theorem writes_moveItem_le (policy : MovePolicy) (env : Interference) (kind : Kind)
    (request : MoveRequest) (store : Store) :
    (moveItem policy env kind request store).1.writes ≤ (policy.maxRetries + 1).toNat ∧
      (moveItem policy env kind request store).1.applied ≤ 1 := by
  rcases moveItem_cases policy env kind request store with
    ⟨cause, herror, -⟩ | ⟨-, hretries, final, begun, hbegins, hsettles⟩
  · rw [herror]
    exact ⟨Nat.zero_le _, Nat.zero_le _⟩
  · have hlt := hbegins.lt
    have hbegun := hbegins.writes_le
    obtain ⟨-, -, -, hnone⟩ := hbegins.idle
    obtain ⟨hwrites, happlied⟩ := writes_attemptMove_le policy env kind request final begun
    have hcounts : (moveItem policy env kind request store).1.writes =
        (attemptMove policy env kind request final begun).1.writes ∧
      (moveItem policy env kind request store).1.applied =
        (attemptMove policy env kind request final begun).1.applied := by
      generalize attemptMove policy env kind request final begun = ended at hsettles
      generalize moveItem policy env kind request store = settled at hsettles
      cases hsettles <;> exact ⟨rfl, rfl⟩
    rw [hcounts.1, hcounts.2]
    have hstart : (Session.start store).applied = 0 := rfl
    omega

/-- However other writers interfere up to its write, a move enters no more writes than
it may make attempts, writes once at most, and gives up exactly when every attempt
has conflicted: with an item that changed containers, a container that changed or a
backend that refused.  If it fails, the store is what the others made of it, except after a
write that took effect though the moved item was gone: such a write does not name the
item, and the move then fails for want of it. -/
theorem move_atomic (hquiet : env.QuietAt .readBack) {result : Except MoveError Item}
    (hmove : moveItem policy env kind request store = (session, result)) :
    session.writes ≤ (policy.maxRetries + 1).toNat ∧ session.applied ≤ 1 ∧
    (request.toIndex ≠ none → ∀ id target attempts last,
      result = .error (.contended id target attempts last) ↔
        id = request.id ∧ target = request.target ∧ attempts = policy.maxRetries + 1 ∧
          AllConflict policy env kind request store last) ∧
    (∀ attempt cause, ConflictsAt policy env kind request store attempt cause →
      (∃ source found, source ≠ found ∧ cause = .relocated kind request.id source found) ∨
        (∃ container expected actual, expected ≠ ((actual : Nat) : Int) ∧
          cause = .stale container expected actual) ∨
        ∃ number, env.refuses number = true ∧ cause = .refused request.target) ∧
    (∀ cause, result = .error cause →
      (session.applied = 0 ∧ session.store = store.applyAll session.others) ∨
        ∃ commit : Commit policy env kind request store, commit.Vanished ∧
          request.id ∉ commit.move.batch.positions.keys) ∧
    ∀ commit : Commit policy env kind request store, commit.Vanished →
      session = commit.final ∧ result = .error (.notFound kind request.id) ∧
        session.store.version kind request.target =
          (store.applyAll session.others).version kind request.target + 1 := by
  obtain ⟨hwrites, happlied⟩ := writes_moveItem_le policy env kind request store
  rw [hmove] at hwrites happlied
  refine ⟨hwrites, happlied, ?_, fun _ _ hconflicts => hconflicts.cause, ?_, ?_⟩
  · intro hindex id target attempts last
    rw [← moveItem_eq_contended_iff hindex, hmove]
  · rintro cause rfl
    rcases moveItem_eq_error hquiet hmove with hothers | ⟨commit, hvanished, -, -⟩
    · exact Or.inl hothers
    · exact Or.inr ⟨commit, hvanished, hvanished.not_named.1⟩
  · intro commit hvanished
    obtain ⟨rfl, rfl⟩ := Prod.mk.inj (hmove.symm.trans (hvanished.moveItem_eq hquiet))
    exact ⟨rfl, rfl, commit.version_final hquiet⟩

/-- Two cards at one position and one behind them. -/
def crowdedCards : Store :=
  Store.empty.applyAll
    [.create .card "a" ⟨[], some (.ofInt 0), some "Y"⟩,
      .create .card "a" ⟨[], some (.ofInt 0), some "Z"⟩,
      .create .card "a" ⟨[], some (.ofInt 1), some "X"⟩]

/-- Another writer deletes the card before the view is taken. -/
def deletingX : Interference where
  changes here _ _ := if here = .snapshot then [.delete .card "X"] else []
  refuses _ := false

/-- The card would go to the front, where the renumbered list gives it the position it
has.  It is not found afterwards, but the others have been renumbered around it. -/
theorem move_atomic_deletingX :
    let request : MoveRequest := ⟨"X", none, some 0, "a"⟩
    let session := (moveItem .default deletingX .card request crowdedCards).1
    let result := (moveItem .default deletingX .card request crowdedCards).2
    deletingX.QuietAt .readBack ∧ result = .error (.notFound .card "X") ∧
      session.store.view .card "a" = [⟨"Y", .ofInt 2, "a", 1⟩, ⟨"Z", .ofInt 3, "a", 2⟩] ∧
      (crowdedCards.applyAll session.others).view .card "a" =
        [⟨"Y", .ofInt 0, "a", 1⟩, ⟨"Z", .ofInt 0, "a", 2⟩] ∧
      ∃ commit : Commit .default deletingX .card request crowdedCards,
        commit.Vanished ∧ "X" ∉ commit.move.batch.positions.keys := by
  intro request session result
  have hquiet : deletingX.QuietAt .readBack := fun _ _ => rfl
  have hresult : result = .error (.notFound .card "X") := by
    decide +kernel
  have happlied : session.applied = 1 := by
    decide +kernel
  refine ⟨hquiet, hresult, by decide +kernel, by decide +kernel, ?_⟩
  obtain ⟨-, -, -, -, hfailed, -⟩ := move_atomic hquiet (Prod.eta
    (moveItem .default deletingX .card request crowdedCards)).symm
  rcases hfailed _ hresult with ⟨hnone, -⟩ | hvanished
  · rw [happlied] at hnone
    cases hnone
  · exact hvanished

end Kanban
