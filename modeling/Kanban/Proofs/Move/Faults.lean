/-
What a move can fail with.  Among finite positions a move that other writers interfere
with returns an item or one of the faults a caller is told of.  One error comes from
inside: the item itself may be missing at the write, if it left its source between the
second look at it and the last version read.
-/
import Mathlib.Data.List.Basic
import Kanban.Fault
import Kanban.Proofs.Move.Atomicity
import Kanban.Proofs.Store.Finite

namespace Kanban

variable {policy : MovePolicy} {env : Interference} {kind : Kind} {request : MoveRequest}
  {store : Store} {session : Session}

/-- The faults that moves are turned down with. -/
def MoveError.IsTold (cause : MoveError) : Prop :=
  ∃ fault, cause.fault? = some fault ∧ fault.code ∈ ["INVALID_MOVE", "NOT_FOUND", "CONFLICT"]

/-- An attempt finds its item in the source and plans its move, but when the last
version is read the item is there no longer, and at the write it is nowhere. -/
structure SlipsAway (policy : MovePolicy) (env : Interference) (kind : Kind)
    (request : MoveRequest) (store : Store) (attempt : Nat) (begun looked : Session)
    (move : PlannedMove) : Prop where
  begins : Begins policy env kind request store attempt begun
  found : ((begun.yieldAt env .load attempt).yieldAt env .reload attempt).store.load kind
    request = .ok move.item
  planned : prepareMove policy env kind request attempt begun = (looked, .planned move)
  left : ∀ item, looked.store.get? kind request.id = some item →
    item.container ≠ move.item.container
  gone : (looked.entering env attempt).store.get? kind request.id = none

/-- What others do along a run to a later session, they do to an earlier one. -/
theorem Session.Idle.along_earlier {earlier later : Session}
    {condition : Store → Change → Prop} (hidle : earlier.Idle later)
    (halong : Along Store.apply condition store later.others) :
    Along Store.apply condition store earlier.others := by
  obtain ⟨changes, -, hothers, -⟩ := hidle
  rw [hothers] at halong
  exact ((along_append store earlier.others changes).mp halong).1

/-- Finite positions stay finite up to every session of a move. -/
theorem finite_of_idle (hfinite : store.Finite)
    (hidle : (Session.start store).Idle session)
    (halong : Along Store.apply (fun s c => c.Orderly s ∧ c.Finite) store session.others) :
    session.store.Finite := by
  obtain ⟨changes, hstore, hothers, -⟩ := hidle
  rw [hothers] at halong
  rw [hstore]
  exact halong.preserves (fun _ _ hstate hchange => hstate.apply hchange.2) hfinite

/-- An item that is missing at a write is the moved one, and it has slipped away. -/
theorem slipsAway_of_missing {attempt : Nat} {begun looked : Session} {move : PlannedMove}
    {id : String} (hbegins : Begins policy env kind request store attempt begun)
    (hplanned : prepareMove policy env kind request attempt begun = (looked, .planned move))
    (hmissing : (looked.entering env attempt).store.writePositions kind move.batch =
      .error (.missing id))
    (horderly : Along Store.apply (fun s c => c.Orderly s) store
      (looked.entering env attempt).others) :
    id = request.id ∧ SlipsAway policy env kind request store attempt begun looked move := by
  obtain ⟨hcurrent, hnamed, habsent⟩ := Store.writePositions_eq_missing hmissing
  obtain ⟨hview, hmembers⟩ := members_eq_of_current hbegins.idle hplanned
    (looked.idle_entering env attempt) hcurrent horderly
  obtain ⟨seen, -, -, hload, -, -, -, hplan⟩ := prepareMove_eq_planned hplanned
  obtain ⟨-, -, -, hcontainers, hpositions⟩ := preparation_batch hplan
  have hitem : move.item.id = request.id :=
    (Shelf.get?_eq_some_iff.mp (load_eq_ok_iff.mp hload).1).2
  have hmoved : id = request.id := by
    rcases hnamed with hposition | hcontainer
    · rcases hpositions id hposition with hmoved | ⟨entry, hentry, rfl⟩
      · exact hmoved.trans hitem
      · -- The view is the present one, so its entries are stored.
        rw [← hview] at hentry
        obtain ⟨stored, hstored, rfl⟩ := List.mem_map.mp hentry
        exact absurd rfl
          (Shelf.get?_eq_none_iff.mp habsent stored (Shelf.mem_contents.mp hstored).1)
    · rw [hcontainers] at hcontainer
      obtain ⟨entry, hentry, rfl⟩ := List.mem_map.mp hcontainer
      rw [(mem_containerChanges hentry).1]
      exact hitem
  subst hmoved
  refine ⟨rfl, hbegins, hload, hplanned, ?_, habsent⟩
  intro item hstored hsource
  obtain ⟨hmember, -⟩ := Store.mem_members_iff.mp ⟨hstored, hsource⟩
  rw [← hmembers] at hmember
  obtain ⟨hpresent, -⟩ := Store.mem_members_iff.mpr
    ⟨hmember, (Shelf.get?_eq_some_iff.mp hstored).2⟩
  rw [habsent] at hpresent
  cases hpresent

/-- An item that nobody touches while the view and the versions are read cannot slip
away. -/
theorem SlipsAway.not_quiet {attempt : Nat} {begun looked : Session} {move : PlannedMove}
    (hslips : SlipsAway policy env kind request store attempt begun looked move)
    (hsnapshot : env.QuietAt .snapshot) : ¬ env.QuietAt .sourceVersion := by
  intro hversion
  obtain ⟨seen, -, ⟨notices, hlooked⟩, -, -, -, hseen, -⟩ := prepareMove_eq_planned hslips.planned
  have hstore : looked.store =
      ((begun.yieldAt env .load attempt).yieldAt env .reload attempt).store := by
    rw [hlooked, Session.looked, hversion.yieldAt, ite_self, hseen, hsnapshot.yieldAt]
  have hfound := (load_eq_ok_iff.mp hslips.found).1
  rw [← hstore] at hfound
  exact hslips.left move.item hfound rfl

/-- How an attempt can fail among finite positions. -/
theorem isTold_or_slipsAway {attempt : Nat} {begun ended : Session} {cause : MoveError}
    (hindex : request.toIndex ≠ none) (hfinite : store.Finite)
    (hbegins : Begins policy env kind request store attempt begun)
    (hends : attemptMove policy env kind request attempt begun = (ended, .failed cause))
    (halong : Along Store.apply (fun s c => c.Orderly s ∧ c.Finite) store ended.others) :
    cause.IsTold ∨ cause = .missing request.id ∧
      ∃ looked move, SlipsAway policy env kind request store attempt begun looked move := by
  have hattempted := attempted policy env kind request attempt begun
  rw [hends] at hattempted
  cases hattempted with
  | unwritten hprepare =>
      left
      rcases prepareMove_eq_ended hprepare with
        ⟨_, hfailed, hcause⟩ | ⟨_, _, -, hconflict⟩ |
        ⟨seen, item, expected, hseen, hlooked, -, hplan⟩
      · obtain rfl := AttemptEnd.failed.inj hfailed
        rcases hcause with rfl | ⟨source, rfl⟩
        · exact ⟨_, rfl, by simp [Fault.notFound]⟩
        · exact ⟨_, rfl, by simp [Fault.invalidMove]⟩
      · cases hconflict
      · rcases preparation_eq_ended hplan with ⟨hmoved, -⟩ | ⟨reason, _, hmove, -⟩
        · cases hmoved
        · -- The view holds finite positions, so there is a place for every index.
          have hstate := finite_of_idle hfinite (hbegins.idle.trans hseen)
            (hlooked.along_earlier halong)
          obtain ⟨toIndex, hindex⟩ := Option.ne_none_iff_exists'.mp hindex
          obtain ⟨placement, hplaced⟩ := exists_planMove hstate.view
            ((request.toIndex_within item.container).trans hindex) (some item.snapshot)
          cases hplaced.symm.trans hmove
  | missing hprepare _ hwrite =>
      obtain ⟨rfl, hslips⟩ := slipsAway_of_missing hbegins hprepare hwrite
        (halong.imp fun _ _ hchange => hchange.1)
      exact Or.inr ⟨rfl, _, _, hslips⟩
  | vanished => exact Or.inl ⟨_, rfl, by simp [Fault.notFound]⟩

/-- In a store of finite positions, among writers that name what they touch, take no id
in use and write finite positions, a move returns an item or fails with a fault that
its caller is told of.  Only the moved item can be missing at the write, and only if
it slipped away between the second look at it and the last version read; never while
nobody acts there. -/
theorem closed_faults (hfinite : store.Finite) {result : Except MoveError Item}
    (hmove : moveItem policy env kind request store = (session, result))
    (halong : Along Store.apply (fun s c => c.Orderly s ∧ c.Finite) store session.others) :
    ((∃ item, result = .ok item) ∨
      (∃ cause, result = .error cause ∧ cause.IsTold) ∨
      (result = .error (.missing request.id) ∧ ∃ attempt begun looked move,
        SlipsAway policy env kind request store attempt begun looked move)) ∧
    (env.QuietAt .snapshot → env.QuietAt .sourceVersion →
      ∀ id, result ≠ .error (.missing id)) := by
  have houtcome : (∃ item, result = .ok item) ∨
      (∃ cause, result = .error cause ∧ cause.IsTold) ∨
      (result = .error (.missing request.id) ∧ ∃ attempt begun looked move,
        SlipsAway policy env kind request store attempt begun looked move) := by
    rcases moveItem_cases policy env kind request store with
      ⟨cause, herror, hcause⟩ | ⟨hindex, -, final, begun, hbegins, hsettles⟩
    · rw [herror] at hmove
      obtain ⟨-, rfl⟩ := Prod.mk.inj hmove
      refine Or.inr (Or.inl ⟨cause, rfl, ?_⟩)
      rcases hcause with rfl | rfl
      · exact ⟨_, rfl, by simp [Fault.invalidMove]⟩
      · exact ⟨_, rfl, by simp [Fault.conflict]⟩
    · rw [hmove] at hsettles
      generalize hends : attemptMove policy env kind request final begun = ended at hsettles
      cases hsettles with
      | moved _ item => exact Or.inl ⟨item, rfl⟩
      | failed _ cause =>
          right
          rcases isTold_or_slipsAway hindex hfinite hbegins hends halong with
            htold | ⟨rfl, looked, move, hslips⟩
          · exact Or.inl ⟨cause, rfl, htold⟩
          · exact Or.inr ⟨rfl, final, begun, looked, move, hslips⟩
      | contended => exact Or.inr (Or.inl ⟨_, rfl, _, rfl, by simp [Fault.conflict]⟩)
  refine ⟨houtcome, ?_⟩
  rintro hsnapshot hversion id rfl
  rcases houtcome with ⟨item, hitem⟩ | ⟨cause, hcause, fault, hfault, -⟩ |
    ⟨-, _, _, _, _, hslips⟩
  · cases hitem
  · obtain rfl := Except.error.inj hcause
    cases hfault
  · exact hslips.not_quiet hsnapshot hversion

/-- Another writer creates a card on a list right before each write. -/
def crowding : Interference where
  changes here _ _ := if here = .write then [.create .card "b" ⟨[], none, none⟩] else []
  refuses _ := false

/-- A card that has one attempt to reach that list. -/
theorem closed_faults_crowding :
    oneCard.Finite ∧
      Along Store.apply (fun s c => c.Orderly s ∧ c.Finite) oneCard
        (moveItem ⟨defaultThreshold, 0⟩ crowding .card ⟨"X", none, some 0, "b"⟩
          oneCard).1.others ∧
      (moveItem ⟨defaultThreshold, 0⟩ crowding .card ⟨"X", none, some 0, "b"⟩ oneCard).2 =
        .error (.contended "X" "b" 1 (some (.stale "b" 0 1))) ∧
      (MoveError.contended "X" "b" 1 (some (.stale "b" 0 1))).IsTold := by
  have hfinite : oneCard.Finite := by
    intro kind
    cases kind <;> decide
  have hothers : (moveItem ⟨defaultThreshold, 0⟩ crowding .card ⟨"X", none, some 0, "b"⟩
      oneCard).1.others = [.create .card "b" ⟨[], none, none⟩] := rfl
  have hfresh : oneCard.get? .card (Store.idFor .card (oneCard.counter + 1) none) = none := by
    decide
  have halong : Along Store.apply (fun s c => c.Orderly s ∧ c.Finite) oneCard
      (moveItem ⟨defaultThreshold, 0⟩ crowding .card ⟨"X", none, some 0, "b"⟩
        oneCard).1.others := by
    rw [hothers]
    exact ⟨⟨⟨trivial, hfresh⟩, fun position hposition => by cases hposition⟩, trivial⟩
  have hresult : (moveItem ⟨defaultThreshold, 0⟩ crowding .card ⟨"X", none, some 0, "b"⟩
      oneCard).2 = .error (.contended "X" "b" 1 (some (.stale "b" 0 1))) := by
    decide +kernel
  refine ⟨hfinite, halong, hresult, ?_⟩
  obtain ⟨houtcome, -⟩ := closed_faults hfinite (Prod.eta
    (moveItem ⟨defaultThreshold, 0⟩ crowding .card ⟨"X", none, some 0, "b"⟩ oneCard)).symm
    halong
  rw [hresult] at houtcome
  rcases houtcome with ⟨item, hitem⟩ | ⟨cause, hcause, htold⟩ | ⟨hmissing, -⟩
  · cases hitem
  · obtain rfl := Except.error.inj hcause
    exact htold
  · cases hmissing

/-- Another writer creates a card at an infinite position on a list before the first
look at a card that goes there. -/
def creatingFarAway : Interference where
  changes here _ _ :=
    if here = .load then [.create .card "b" ⟨[], some (.infinite false), some "Y"⟩] else []
  refuses _ := false

/-- Errors that no caller is told of: a card is deleted before the view of its target is
taken, or stands in front of a place that no whole number comes after. -/
theorem untold_errors :
    (oneCard.Finite ∧
      Along Store.apply (fun s c => c.Orderly s ∧ c.Finite) oneCard
        (moveItem .default deletingX .card ⟨"X", none, some 0, "b"⟩ oneCard).1.others ∧
      (moveItem .default deletingX .card ⟨"X", none, some 0, "b"⟩ oneCard).2 =
        .error (.missing "X") ∧
      ¬ (MoveError.missing "X").IsTold) ∧
    Along Store.apply (fun s c => c.Orderly s) oneCard
      (moveItem .default creatingFarAway .card ⟨"X", none, some 5, "b"⟩ oneCard).1.others ∧
    (moveItem .default creatingFarAway .card ⟨"X", none, some 5, "b"⟩ oneCard).2 =
      .error (.noRoom .infinity) ∧
    ¬ (MoveError.noRoom .infinity).IsTold := by
  have hfinite : oneCard.Finite := by
    intro kind
    cases kind <;> decide
  have hdeleted : (moveItem .default deletingX .card ⟨"X", none, some 0, "b"⟩
      oneCard).1.others = [.delete .card "X"] := rfl
  have hcreated : (moveItem .default creatingFarAway .card ⟨"X", none, some 5, "b"⟩
      oneCard).1.others = [.create .card "b" ⟨[], some (.infinite false), some "Y"⟩] := rfl
  have hfresh : oneCard.get? .card (Store.idFor .card (oneCard.counter + 1) (some "Y")) =
      none := by
    decide
  refine ⟨⟨hfinite, ?_, ?_, ?_⟩, ?_, ?_, ?_⟩
  · rw [hdeleted]
    exact ⟨⟨⟨trivial, trivial⟩, trivial⟩, trivial⟩
  · decide +kernel
  · rintro ⟨fault, hfault, -⟩
    cases hfault
  · rw [hcreated]
    exact ⟨⟨trivial, hfresh⟩, trivial⟩
  · decide +kernel
  · rintro ⟨fault, hfault, -⟩
    cases hfault

end Kanban
