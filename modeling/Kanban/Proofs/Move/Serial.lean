/-
Serial equivalence.  Where other writers act only before the second look at the
item and before the write, a move that returns an item might as well have run
after all of them, by itself.
-/
import Mathlib.Data.List.Basic
import Kanban.Proofs.Move.Commit
import Kanban.Proofs.Move.Undisturbed

namespace Kanban

variable {policy : MovePolicy} {env : Interference} {kind : Kind} {request : MoveRequest}
  {store : Store} {session : Session} {item : Item}

/-- While nobody acts under the locks, an attempt that neither fails nor conflicts
before its write works out what the store itself would. -/
theorem plan_of_prepareMove {attempt : Nat} {start looked : Session} {preparation : Preparation}
    (hsnapshot : env.QuietAt .snapshot) (hversion : env.QuietAt .sourceVersion)
    (hprepare : prepareMove policy env kind request attempt start = (looked, preparation))
    (hfailed : ∀ cause, preparation ≠ .ended (.failed cause))
    (hconflict : ∀ cause, preparation ≠ .ended (.conflict cause)) :
    ∃ item, looked.store.load kind request = .ok item ∧
      looked.store.plan policy kind request item = preparation := by
  unfold prepareMove at hprepare
  dsimp only at hprepare
  split at hprepare
  · rename_i cause _
    exact absurd (Prod.mk.inj hprepare).2.symm (hfailed cause)
  · rename_i found _
    generalize (start.yieldAt env .load attempt).yieldAt env .reload attempt = reloaded
      at hprepare
    cases hload : reloaded.store.load kind request with
    | error cause =>
        rw [planLocked_of_error hload] at hprepare
        exact absurd (Prod.mk.inj hprepare).2.symm (hfailed cause)
    | ok item =>
        by_cases hsource : item.container = found.container
        · obtain ⟨notices, heq⟩ := planLocked_of_quiet policy attempt hsnapshot hversion
            hload
          rw [← hsource, heq] at hprepare
          obtain ⟨rfl, hplan⟩ := Prod.mk.inj hprepare
          exact ⟨item, hload, hplan⟩
        · rw [planLocked_of_relocated hload hsource] at hprepare
          exact absurd (Prod.mk.inj hprepare).2.symm (hconflict _)

/-- Versions that are not stale are the present ones. -/
theorem Store.expectedFor_eq {before looked : Store} {target source : String}
    (hstale : before.stale? kind
      (looked.expectedFor target (looked.version kind target) kind source) = none) :
    before.expectedFor target (before.version kind target) kind source =
      looked.expectedFor target (looked.version kind target) kind source := by
  rw [Store.stale?_eq_none_iff] at hstale
  unfold Store.expectedFor at hstale ⊢
  split
  · rename_i hsame
    rw [if_pos hsame] at hstale
    simp only [List.mem_singleton, forall_eq] at hstale
    rw [hstale]
  · rename_i hother
    rw [if_neg hother] at hstale
    simp only [List.mem_cons, List.not_mem_nil, or_false, forall_eq_or_imp, forall_eq] at hstale
    rw [hstale.1, hstale.2]

/-- At the store that it finds, an undisturbed move makes the same write. -/
theorem Commit.move_eq (commit : Commit policy env kind request store)
    (hsnapshot : env.QuietAt .snapshot) (hversion : env.QuietAt .sourceVersion)
    (horderly : Along Store.apply (fun s c => c.Orderly s) store commit.before.others)
    (hretries : 0 ≤ policy.maxRetries) (hindex : request.toIndex ≠ none)
    (hmoved : commit.written.get? kind commit.move.item.id = some item) :
    commit.before.store.move policy kind request = (commit.written, .ok item) := by
  obtain ⟨found, hload, hplan⟩ := plan_of_prepareMove hsnapshot hversion commit.planned
    (by simp) (by simp)
  obtain ⟨hview, hmembers⟩ := commit.members_eq horderly
  obtain ⟨hitem, hlookedView, hexpected, -, -⟩ := preparation_batch hplan
  obtain ⟨hstale, -, -⟩ := Store.writePositions_eq_ok_iff.mp commit.applied
  obtain ⟨hfound, hboard⟩ := load_eq_ok_iff.mp hload
  rw [hexpected] at hstale
  have hstands : commit.before.store.get? kind request.id = some found := by
    have hmember := Store.mem_members_iff.mp ⟨hfound, rfl⟩
    rw [← hitem, ← hmembers, hitem] at hmember
    exact (Store.mem_members_iff.mpr hmember).1
  have hagain : commit.before.store.plan policy kind request found = .planned commit.move := by
    rw [← hplan]
    unfold Store.plan
    rw [hview, hlookedView, Store.expectedFor_eq hstale]
  exact Store.move_of_written hretries hindex (load_eq_ok_iff.mpr ⟨hstands, hboard⟩) hagain
    commit.applied hmoved

/-- If a move returns an item, and others acted only before its first look, before
its second look and before its write, then all of them and after them the move by
itself lead to the same store and the same item. -/
theorem moveItem_serial (hsnapshot : env.QuietAt .snapshot)
    (hversion : env.QuietAt .sourceVersion) (hreadBack : env.QuietAt .readBack)
    (hmove : moveItem policy env kind request store = (session, .ok item))
    (horderly : Along Store.apply (fun s c => c.Orderly s) store session.others) :
    (store.applyAll session.others).move policy kind request = (session.store, .ok item) := by
  obtain ⟨hindex, hretries, ⟨attempt, start, hbegins, hplace⟩ | ⟨commit, hfinal, hmoved⟩⟩ :=
    moveItem_eq_ok hmove
  · have hidle := hbegins.idle.trans (idle_prepareMove policy env kind request attempt start)
    rw [hplace] at hidle
    obtain ⟨found, hload, hplan⟩ := plan_of_prepareMove hsnapshot hversion hplace
      (by simp) (by simp)
    rw [← hidle.store_eq]
    exact (Store.move_of_ended hretries hindex hload hplan).1 item rfl
  · have hlast : commit.final =
        { commit.before with
          store := commit.written
          writes := commit.looked.writes + 1
          applied := commit.before.applied + 1 } := by
      unfold Commit.final
      rw [hreadBack.yieldAt]
    rw [hlast] at hmoved
    rw [hfinal, hlast] at horderly ⊢
    have hidle : (Session.start store).Idle commit.before := by
      have hlooked := idle_prepareMove policy env kind request commit.attempt commit.start
      rw [commit.planned] at hlooked
      rw [← commit.arrived]
      exact (commit.begins.idle.trans hlooked).trans (Session.idle_yieldAt _ _ _ _)
    rw [show store.applyAll commit.before.others = commit.before.store from hidle.store_eq.symm]
    exact commit.move_eq hsnapshot hversion horderly hretries hindex hmoved

/-- A card comes to the target and goes again before the first write. -/
def passingCard : Interference where
  changes moment attempt _ :=
    if moment = .write ∧ attempt = 0 then
      [.upsert .card ⟨"Y", "b", .zero false, 0, []⟩, .delete .card "Y"]
    else []
  refuses _ := false

/-- A move that conflicts with the passing card and then succeeds. -/
def retriedMove : Session × Except MoveError Item :=
  moveItem .default passingCard .card ⟨"X", none, some 0, "b"⟩ oneCard

theorem moveItem_serial_retried :
    passingCard.QuietAt .snapshot ∧ passingCard.QuietAt .sourceVersion ∧
      passingCard.QuietAt .readBack ∧
      retriedMove.1.writes = 2 ∧ retriedMove.1.others.length = 2 ∧
      Along Store.apply (fun s c => c.Orderly s) oneCard retriedMove.1.others ∧
      ∃ item, retriedMove = (retriedMove.1, .ok item) ∧
        (oneCard.applyAll retriedMove.1.others).move .default .card ⟨"X", none, some 0, "b"⟩ =
          (retriedMove.1.store, .ok item) := by
  have hquiet (moment : Moment) (hmoment : moment ≠ .write) : passingCard.QuietAt moment :=
    fun attempt _ => if_neg fun hwrite => hmoment hwrite.1
  have hsnapshot := hquiet .snapshot (by decide)
  have hversion := hquiet .sourceVersion (by decide)
  have hreadBack := hquiet .readBack (by decide)
  have horderly : Along Store.apply (fun s c => c.Orderly s) oneCard retriedMove.1.others :=
    ⟨⟨trivial, trivial⟩, ⟨trivial, trivial⟩, trivial⟩
  obtain ⟨item, hmove⟩ : ∃ item, retriedMove = (retriedMove.1, .ok item) := ⟨_, rfl⟩
  exact ⟨hsnapshot, hversion, hreadBack, rfl, rfl, horderly, item, hmove,
    moveItem_serial hsnapshot hversion hreadBack hmove horderly⟩

end Kanban
