/-
Lists stay on their boards.  A list is moved only where both looks at it found it on
the target board, so what is written gives it a position and no container.  However
other writers interfere, it is they who take a list to another board.
-/
import Mathlib.Data.List.Basic
import Kanban.Fault
import Kanban.Proofs.Move.Atomicity

namespace Kanban

variable {policy : MovePolicy} {env : Interference} {kind : Kind} {request : MoveRequest}
  {store : Store} {session : Session} {batch : Batch}

/-- The container that an item stands in, if it is stored. -/
def Store.container? (store : Store) (kind : Kind) (id : String) : Option String :=
  (store.get? kind id).map Item.container

/-- An operation that leaves an item in its container, whatever store it finds. -/
def Change.Spares (kind : Kind) (id : String) (change : Change) : Prop :=
  ∀ store : Store, (store.apply change).container? kind id = store.container? kind id

/-- A move of a list and the writers that interfere with it. -/
structure ListMove where
  env : Interference
  request : MoveRequest

def ListMove.run (policy : MovePolicy) (store : Store) (move : ListMove) :
    Session × Except MoveError Item :=
  moveItem policy move.env .list move.request store

/-- The store that a move of a list and the other writers leave. -/
def Store.afterListMove (policy : MovePolicy) (store : Store) (move : ListMove) : Store :=
  (move.run policy store).1.store

/-- The sessions in which a move looks its item up: the first look of an attempt, and if
that found the item, the second one under the locks. -/
inductive Looks (policy : MovePolicy) (env : Interference) (kind : Kind)
    (request : MoveRequest) (store : Store) : Session → Prop where
  | first {attempt : Nat} {begun : Session} (hindex : request.toIndex ≠ none)
      (hbegins : Begins policy env kind request store attempt begun) :
      Looks policy env kind request store (begun.yieldAt env .load attempt)
  | second {attempt : Nat} {begun : Session} {found : Item} (hindex : request.toIndex ≠ none)
      (hbegins : Begins policy env kind request store attempt begun)
      (hfound : (begun.yieldAt env .load attempt).store.load kind request = .ok found) :
      Looks policy env kind request store
        ((begun.yieldAt env .load attempt).yieldAt env .reload attempt)

/-- The sessions in which a move enters a write, and what it is to write.  The backend
may still refuse it. -/
inductive Enters (policy : MovePolicy) (env : Interference) (kind : Kind)
    (request : MoveRequest) (store : Store) : Session → Batch → Prop where
  | planned {attempt : Nat} {begun looked : Session} {move : PlannedMove}
      (hbegins : Begins policy env kind request store attempt begun)
      (hplanned : prepareMove policy env kind request attempt begun = (looked, .planned move)) :
      Enters policy env kind request store (looked.yieldAt env .write attempt) move.batch

theorem Looks.idle (hlooks : Looks policy env kind request store session) :
    (Session.start store).Idle session := by
  cases hlooks with
  | first hindex hbegins => exact hbegins.idle.trans (Session.idle_yieldAt _ _ _ _)
  | second hindex hbegins =>
      exact (hbegins.idle.trans (Session.idle_yieldAt _ _ _ _)).trans
        (Session.idle_yieldAt _ _ _ _)

/-- A look that goes wrong settles the move. -/
theorem Looks.moveItem_eq {cause : MoveError}
    (hlooks : Looks policy env kind request store session)
    (hload : session.store.load kind request = .error cause) :
    moveItem policy env kind request store = (session, .error cause) := by
  have hsettled {attempt : Nat} {begun : Session} (hindex : request.toIndex ≠ none)
      (hbegins : Begins policy env kind request store attempt begun)
      (hends : attemptMove policy env kind request attempt begun = (session, .failed cause)) :
      moveItem policy env kind request store = (session, .error cause) := by
    have hsettles := moveItem_of_attempt hindex hbegins hends fun _ => AttemptEnd.noConfusion
    generalize moveItem policy env kind request store = settled at hsettles
    cases hsettles
    rfl
  cases hlooks with
  | first hindex hbegins =>
      apply hsettled hindex hbegins
      simp only [attemptMove, prepareMove, hload]
  | second hindex hbegins hfound =>
      apply hsettled hindex hbegins
      simp only [attemptMove, prepareMove, hfound, planLocked_of_error hload]

/-- What a move leaves is what the other writers made of the store, with one write of its
own among theirs at most. -/
theorem moveItem_history (policy : MovePolicy) (env : Interference) (kind : Kind)
    (request : MoveRequest) (store : Store) :
    let after := (moveItem policy env kind request store).1
    after.store = store.applyAll after.others ∨
      ∃ before batch later, Enters policy env kind request store before batch ∧
        before.store = store.applyAll before.others ∧ after.others = before.others ++ later ∧
        after.store = (before.store.apply (.write kind batch)).applyAll later := by
  intro after
  rcases moveItem_idle_or_commit policy env kind request store with hidle | ⟨commit, hfinal⟩
  · exact Or.inl hidle.store_eq
  · right
    have henters := Enters.planned commit.begins commit.planned
    rw [commit.arrived] at henters
    obtain ⟨changes, hstore, hothers, -⟩ := Session.idle_yieldAt
      { commit.before with
        store := commit.written
        writes := commit.looked.writes + 1
        applied := commit.before.applied + 1 }
      env .readBack commit.attempt
    refine ⟨commit.before, commit.move.batch, changes, henters, commit.idle_before.store_eq, ?_, ?_⟩
    · rw [show after.others = commit.final.others from congrArg Session.others hfinal]
      exact hothers
    · rw [show after.store = commit.final.store from congrArg Session.store hfinal]
      simp only [Store.apply, commit.applied]
      exact hstore

namespace Change

theorem spares_of_kind {change : Change} (hkind : kind ≠ change.kind) (id : String) :
    change.Spares kind id := by
  intro store
  unfold Store.container? Store.get?
  rw [Store.shelf_apply_of_ne hkind]

/-- A write that brings nothing to a container spares everything. -/
theorem spares_write {writer : Kind} (hcontainers : batch.containers = []) (id : String) :
    (Change.write writer batch).Spares kind id := by
  by_cases hkind : kind = writer
  · subst hkind
    intro store
    unfold Store.container?
    cases hwrite : store.writePositions kind batch with
    | error cause => simp only [Store.apply, hwrite]
    | ok written =>
        obtain ⟨-, -, rfl⟩ := Store.writePositions_eq_ok_iff.mp hwrite
        simp only [Store.apply, hwrite, Store.get?, Store.shelf_withShelf_self, Shelf.get?_bump,
          Shelf.get?_reposition, hcontainers, Option.map_map]
        rfl
  · exact spares_of_kind hkind id

theorem container?_applyAll {id : String} {changes : List Change}
    (hspares : ∀ change ∈ changes, change.Spares kind id) (store : Store) :
    (store.applyAll changes).container? kind id = store.container? kind id := by
  induction changes generalizing store with
  | nil => rfl
  | cons change rest ih =>
      rw [List.forall_mem_cons] at hspares
      exact (ih hspares.2 (store.apply change)).trans (hspares.1 store)

end Change

/-- Whatever is written for a list gives no list a container. -/
theorem Enters.containers_eq (henters : Enters policy env .list request store session batch) :
    batch.containers = [] := by
  cases henters with
  | planned hbegins hplanned =>
      obtain ⟨_, -, -, hload, -, -, -, hplan⟩ := prepareMove_eq_planned hplanned
      obtain ⟨-, -, -, hcontainers, -⟩ := preparation_batch hplan
      have hboard := (load_eq_ok_iff.mp hload).2 rfl
      rw [hcontainers, containerChanges, if_pos hboard]

/-- The board of a list while it is moved: no write of the move takes anything to another
container, what the move leaves comes from the other writers and one such write at most, and
a look that finds the list on another board than the target ends the move without a
write. -/
structure KeepsBoards (policy : MovePolicy) (move : ListMove) (store : Store) : Prop where
  writes : ∀ session batch, Enters policy move.env .list move.request store session batch →
    ∀ kind id, (session.store.apply (.write .list batch)).container? kind id =
      session.store.container? kind id
  leaves : let after := (move.run policy store).1
    after.store = store.applyAll after.others ∨
      ∃ before batch later, Enters policy move.env .list move.request store before batch ∧
        before.store = store.applyAll before.others ∧ after.others = before.others ++ later ∧
        after.store = (before.store.apply (.write .list batch)).applyAll later
  refuses : ∀ session list, Looks policy move.env .list move.request store session →
    session.store.get? .list move.request.id = some list →
    list.container ≠ move.request.target →
    let cause := MoveError.otherBoard move.request.id list.container move.request.target
    move.run policy store = (session, .error cause) ∧
      cause.fault? = some (.invalidMove cause.message move.request.id) ∧
      session.applied = 0 ∧ session.store = store.applyAll session.others

theorem keepsBoards (policy : MovePolicy) (move : ListMove) (store : Store) :
    KeepsBoards policy move store := by
  constructor
  case writes =>
    intro session batch henters kind id
    exact Change.spares_write henters.containers_eq id session.store
  case leaves => exact moveItem_history policy move.env .list move.request store
  case refuses =>
    intro session list hlooks hfound hother
    have hload : session.store.load .list move.request =
        .error (.otherBoard move.request.id list.container move.request.target) := by
      simp only [Store.load, hfound, hother, ne_eq, not_false_eq_true, and_self, ↓reduceIte,
        (Shelf.get?_eq_some_iff.mp hfound).2]
    exact ⟨hlooks.moveItem_eq hload, rfl, hlooks.idle.untouched⟩

/-- A list move leaves everything in its container that the other writers spare. -/
theorem Store.container?_afterListMove {move : ListMove} {id : String}
    (hspares : ∀ change ∈ (move.run policy store).1.others, change.Spares kind id) :
    (store.afterListMove policy move).container? kind id = store.container? kind id := by
  obtain ⟨hwrites, hleaves, -⟩ := keepsBoards policy move store
  unfold Store.afterListMove
  rcases hleaves with hstore | ⟨before, batch, later, henters, hbefore, hothers, hstore⟩
  · rw [hstore]
    exact Change.container?_applyAll hspares store
  · rw [hothers, List.forall_mem_append] at hspares
    rw [hstore, Change.container?_applyAll hspares.2, hwrites before batch henters, hbefore]
    exact Change.container?_applyAll hspares.1 store

/-- Lists never leave their boards.  In every sequence of list moves, whatever other
writers do meanwhile, each move keeps the boards; so a list that the others spare stands at the
end where it stood at the start. -/
theorem lists_keep_boards (policy : MovePolicy) (store : Store) (moves : List ListMove) :
    Along (Store.afterListMove policy) (fun state move => KeepsBoards policy move state) store
        moves ∧
      ∀ kind id, Along (Store.afterListMove policy)
          (fun state move => ∀ change ∈ (move.run policy state).1.others, change.Spares kind id)
          store moves →
        (moves.foldl (Store.afterListMove policy) store).container? kind id =
          store.container? kind id := by
  constructor
  · induction moves generalizing store with
    | nil => trivial
    | cons move rest ih => exact ⟨keepsBoards policy move store, ih _⟩
  · intro kind id halong
    have hstep (state : Store) (move : ListMove)
        (hstood : state.container? kind id = store.container? kind id)
        (hspares : ∀ change ∈ (move.run policy state).1.others, change.Spares kind id) :
        (state.afterListMove policy move).container? kind id = store.container? kind id :=
      (Store.container?_afterListMove hspares).trans hstood
    exact halong.preserves hstep rfl

/-- Two lists on one board and a card on the first of them. -/
def oneBoard : Store :=
  Store.empty.applyAll [.create .list "a" ⟨[], some (.zero false), some "X"⟩,
    .create .list "a" ⟨[], some (.ofInt 1), some "Y"⟩,
    .create .card "X" ⟨[], some (.zero false), some "Z"⟩]

/-- Another writer takes the list to a second board right before the first write. -/
def takingX : Interference where
  changes moment attempt _ :=
    if moment = .write ∧ attempt = 0 then [.upsert .list ⟨"X", "b", .zero false, 1, []⟩] else []
  refuses _ := false

/-- A list is taken to another board while it is moved to the end of its own.  The write
meets a conflict, the next attempt finds the list on the other board, and a move back to
the first is turned down.  The card on the list stays there. -/
theorem lists_keep_boards_takingX :
    let ending : ListMove := ⟨takingX, ⟨"X", none, some 1, "a"⟩⟩
    let back : ListMove := ⟨.none, ⟨"X", none, some 0, "a"⟩⟩
    let after := oneBoard.afterListMove .default ending
    (ending.run .default oneBoard).2 = .error (.otherBoard "X" "b" "a") ∧
      (ending.run .default oneBoard).1.writes = 1 ∧
      (ending.run .default oneBoard).1.applied = 0 ∧ after.container? .list "X" = some "b" ∧
      back.run .default after = (Session.start after, .error (.otherBoard "X" "b" "a")) ∧
      ([ending, back].foldl (Store.afterListMove .default) oneBoard).container? .card "Z" =
        some "X" := by
  intro ending back after
  have hrefused {state : Store} (hkeeps : KeepsBoards .default back state)
      (htaken : state.get? .list "X" = some ⟨"X", "b", .zero false, 1, []⟩) :
      back.run .default state = (Session.start state, .error (.otherBoard "X" "b" "a")) := by
    have hlook : Looks .default back.env .list back.request state (Session.start state) :=
      .first (by decide) (.first (by decide))
    exact (hkeeps.refuses _ _ hlook htaken (by decide)).1
  obtain ⟨⟨-, hkeeps, -⟩, hstays⟩ := lists_keep_boards .default oneBoard [ending, back]
  have hback := hrefused hkeeps (by decide +kernel)
  refine ⟨by decide +kernel, by decide +kernel, by decide +kernel, by decide +kernel, hback, ?_⟩
  refine (hstays .card "Z" ⟨?_, ?_, trivial⟩).trans (by decide +kernel)
  · have hlists : ∀ change ∈ (ending.run .default oneBoard).1.others, change.kind = .list := by
      decide +kernel
    intro change hchange
    apply Change.spares_of_kind
    rw [hlists change hchange]
    decide
  · intro change hchange
    rw [hback] at hchange
    cases hchange

end Kanban
