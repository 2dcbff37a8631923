/-
What sinks leave that begin each call with one action, be it to note the document or to
save its text.  What they leave is what their deliveries amount to, each one and in
their order, whatever the other sinks do meanwhile, as long as no such action is taken
otherwise.
-/
import Mathlib.Data.List.Infix
import Kanban.Proofs.FileTree
import Kanban.Proofs.Registry.Deliveries

namespace Kanban

/-- A call that begins with one action and takes no other of its kind. -/
def opened (first kind : SinkAction → Bool) : List SinkAction → Bool
  | [] => false
  | action :: rest => first action && rest.all fun other => !kind other

/-- The sink at a place, if there is one, begins each of its calls with one action, and
no sink takes another of its kind. -/
structure Opens (first kind : SinkAction → Bool) (place : Nat) (sinks : List Sink) :
    Prop where
  own : ∀ sink ∈ sinks[place]?,
    sink.calls.isEmpty = false ∧ ∀ actions ∈ sink.calls, opened first kind actions = true
  others : ∀ sink ∈ sinks.eraseIdx place,
    ∀ actions ∈ sink.calls, ∀ action ∈ actions, kind action = false

instance (first kind : SinkAction → Bool) (place : Nat) (sinks : List Sink) :
    Decidable (Opens first kind place sinks) :=
  decidable_of_iff
    ((∀ sink ∈ sinks[place]?,
      sink.calls.isEmpty = false ∧ ∀ actions ∈ sink.calls, opened first kind actions = true) ∧
      ∀ sink ∈ sinks.eraseIdx place, ∀ actions ∈ sink.calls, ∀ action ∈ actions,
        kind action = false)
    ⟨fun h => ⟨h.1, h.2⟩, fun h => ⟨h.own, h.others⟩⟩

namespace Opens

variable {first kind : SinkAction → Bool} {place other : Nat} {sinks : List Sink} {sink : Sink}

theorem own_call (hopens : Opens first kind place sinks) (hsink : sinks[place]? = some sink)
    (before : Nat) : ∃ action rest, sink.actions before = action :: rest ∧
      first action = true ∧ ∀ action ∈ rest, kind action = false := by
  obtain ⟨hcalls, hopened⟩ := hopens.own sink hsink
  have hcall := hopened _ (Sink.actions_mem (List.isEmpty_eq_false_iff.mp hcalls) before)
  rcases hactions : sink.actions before with _ | ⟨action, rest⟩
  · rw [hactions] at hcall
    cases hcall
  · rw [hactions, opened, Bool.and_eq_true, List.all_eq_true] at hcall
    refine ⟨action, rest, rfl, hcall.1, fun other hother => ?_⟩
    simpa using hcall.2 other hother

theorem other_call (hopens : Opens first kind place sinks) (hsink : sinks[other]? = some sink)
    (hother : other ≠ place) (before : Nat) :
    ∀ action ∈ sink.actions before, kind action = false := by
  intro action haction
  obtain ⟨actions, hcall, hmem⟩ := Sink.exists_call haction
  have herased : sink ∈ sinks.eraseIdx place :=
    List.mem_eraseIdx_iff_getElem?.mpr ⟨other, hother, hsink⟩
  exact hopens.others sink herased actions hcall action hmem

end Opens

/-- Whether an action notes documents under a name. -/
def SinkAction.notes (name : String) : SinkAction → Bool
  | .record other => decide (other = name)
  | _ => false

/-- Whether an action saves in a file. -/
def SinkAction.savesIn (path : Path) : SinkAction → Bool
  | .save other => decide (other = path)
  | _ => false

def SinkAction.saves : SinkAction → Bool
  | .save _ => true
  | _ => false

/-- The sink at a place notes what it is told under a name, and no other does. -/
abbrev Records (name : String) : (place : Nat) → List Sink → Prop :=
  Opens (SinkAction.notes name) (SinkAction.notes name)

/-- The sink at a place saves what it is told in a file, and no other saves anything. -/
abbrev Saves (path : Path) : (place : Nat) → List Sink → Prop :=
  Opens (SinkAction.savesIn path) SinkAction.saves

/-- The document that an event notes under a name. -/
def SinkEvent.noted? (name : String) : SinkEvent → Option Document
  | .delivered other document => if other = name then some document else none
  | .finished _ => none

/-- What is seen of events and files. -/
abbrev View (α : Type) := List SinkEvent → FileTree → α

/-- One action makes a step in what is seen, and an action that is not of its kind
makes none. -/
structure Shows {α : Type} (view : View α) (step : α → Document → α)
    (first kind : SinkAction → Bool) : Prop where
  builds : ∀ action, first action = true → action.builds = false
  step : ∀ action, first action = true → ∀ document events files,
    view (events ++ action.events document) (action.filed document files) =
      step (view events files) document
  spares : ∀ action, kind action = false → ∀ document events files,
    view (events ++ action.events document) (action.filed document files) = view events files

/-- The documents noted under a name. -/
def View.noted (name : String) : View (List Document) :=
  fun events _ => events.filterMap (SinkEvent.noted? name)

theorem shows_noted (name : String) :
    Shows (View.noted name) (fun documents document => documents ++ [document])
      (SinkAction.notes name) (SinkAction.notes name) where
  builds action hfirst := by
    cases action with
    | record other => rfl
    | _ => cases hfirst
  step action hfirst document events files := by
    cases action with
    | record other =>
        have heq : other = name := of_decide_eq_true hfirst
        simp [View.noted, SinkAction.events, SinkEvent.noted?, heq]
    | _ => cases hfirst
  spares action hkind document events files := by
    cases action with
    | record other =>
        have hne : other ≠ name := of_decide_eq_false hkind
        simp [View.noted, SinkAction.events, SinkEvent.noted?, hne]
    | finish other => simp [View.noted, SinkAction.events, SinkEvent.noted?]
    | _ => exact congrArg _ (List.append_nil events)

theorem shows_files (path : Path) :
    Shows (fun _ files => files) (fun files document => (files.save path document.text).1)
      (SinkAction.savesIn path) SinkAction.saves where
  builds action hfirst := by
    cases action with
    | save other => rfl
    | _ => cases hfirst
  step action hfirst _ _ _ := by
    cases action with
    | save other =>
        obtain rfl : other = path := of_decide_eq_true hfirst
        rfl
    | _ => cases hfirst
  spares action hkind _ _ _ := by
    cases action with
    | save other => cases hkind
    | _ => rfl

namespace Assembly

variable {α : Type} {view : View α} {step : α → Document → α} {first kind : SinkAction → Bool}
  {depth place : Nat} {assembly before middle after : Assembly}
  {rebuild : Rebuild} {deliveries later : List Delivery} {action : SinkAction} {final : List Sink}

/-- What is seen of an assembly. -/
def seen (view : View α) (assembly : Assembly) : α :=
  view assembly.events assembly.files

/-- The documents noted under a name. -/
def noted (name : String) (assembly : Assembly) : List Document :=
  assembly.seen (View.noted name)

/-- From one assembly to another, as long as their sinks are among those at the end,
every delivery to a place makes a step in what is seen, and nothing else does. -/
structure Shown (view : View α) (step : α → Document → α) (place : Nat) (final : List Sink)
    (before : Assembly) (deliveries : List Delivery) (after : Assembly) : Prop where
  sinks : before.sinks <+: after.sinks
  seen : after.sinks <+: final → after.seen view =
    ((deliveriesTo place deliveries).map Delivery.document).foldl step (before.seen view)

theorem Shown.refl (assembly : Assembly) : Shown view step place final assembly [] assembly :=
  ⟨List.prefix_refl _, fun _ => rfl⟩

theorem Shown.trans (hfirst : Shown view step place final before deliveries middle)
    (hsecond : Shown view step place final middle later after) :
    Shown view step place final before (deliveries ++ later) after where
  sinks := hfirst.sinks.trans hsecond.sinks
  seen hfinal := by
    rw [hsecond.seen hfinal, hfirst.seen (hsecond.sinks.trans hfinal), deliveriesTo_append,
      List.map_append, List.foldl_append]

/-- What is neither a sink nor seen does not matter. -/
theorem shown_unseen (hdeliveries : after.deliveries = before.deliveries)
    (hsinks : after.sinks = before.sinks) (hevents : after.events = before.events)
    (hfiles : after.files = before.files) :
    Delivers (Shown view step place final) before after := by
  refine .silent hdeliveries ⟨hsinks ▸ List.prefix_refl _, fun _ => ?_⟩
  rw [seen, hevents, hfiles]
  rfl

/-- What is true once all sinks are among those at the end was true before. -/
theorem chained_shown (fact : Prop) :
    Chained (fun assembly => assembly.sinks <+: final → fact) (Shown view step place final) :=
  ⟨fun _ => .refl _, Shown.trans, fun hbefore hshown hfinal => hbefore (hshown.sinks.trans hfinal)⟩

theorem Shown.both (hfirst : Delivers (Shown view step place final) before middle)
    (hsecond : Delivers (Shown view step place final) middle after) :
    Delivers (Shown view step place final) before after :=
  (chained_shown True).both hfirst hsecond

section

variable (hshows : Shows view step first kind)

include hshows

theorem shown_effect (document : Document)
    (hkind : assembly.sinks <+: final → kind action = false) :
    Delivers (Shown view step place final) assembly (assembly.effect document action) := by
  have haffects := affects_effect document assembly action
  have hsinks : assembly.sinks <+: (assembly.effect document action).sinks :=
    haffects.sinks ▸ List.prefix_append _ _
  refine .silent haffects.deliveries ⟨hsinks, fun hfinal => ?_⟩
  rw [seen, haffects.events, haffects.files, hshows.spares action (hkind (hsinks.trans hfinal))]
  rfl

/-- A sink begins its call with the action that is seen. -/
theorem shown_first (document : Document) (hfirst : first action = true) :
    Delivers (Shown view step place final) assembly
      ((assembly.call document place).effect document action) := by
  have haffects := affects_effect document (assembly.call document place) action
  refine ⟨[⟨place, document, assembly.document⟩], haffects.deliveries, ?_, fun _ => ?_⟩
  · rw [haffects.sinks]
    exact List.prefix_append _ _
  · rw [seen, haffects.events, haffects.files, hshows.step action hfirst]
    simp [deliveriesTo, seen, call]

variable (hbuilds : ∀ assembly : Assembly,
  Delivers (Shown view step place final) assembly (rebuild assembly).1)

include hbuilds

theorem shown_action (document : Document)
    (hkind : assembly.sinks <+: final → kind action = false) :
    Delivers (Shown view step place final) assembly
      (assembly.runAction rebuild document action).1 := by
  have heffect : Delivers (Shown view step place final) assembly _ :=
    shown_effect hshows document hkind
  obtain hrun | ⟨-, hrun⟩ := runAction_cases rebuild document assembly action
  · rw [hrun]
    exact heffect
  · rw [hrun]
    exact Shown.both heffect (hbuilds _)

theorem shown_actions (document : Document) {actions : List SinkAction}
    (hkind : assembly.sinks <+: final → ∀ action ∈ actions, kind action = false) :
    Delivers (Shown view step place final) assembly
      (assembly.runActions rebuild document actions).1 :=
  (chained_shown _).actions rebuild hkind fun action haction _ hkind =>
    shown_action hshows hbuilds document fun hfinal => hkind hfinal action haction

theorem shown_own_call (document : Document) {rest : List SinkAction}
    (haction : first action = true) (hrest : ∀ action ∈ rest, kind action = false) :
    Delivers (Shown view step place final) assembly
      ((assembly.call document place).runActions rebuild document (action :: rest)).1 := by
  have hfirst : Delivers (Shown view step place final) assembly _ :=
    shown_first hshows document haction
  obtain hrun | ⟨hbuild, -⟩ :=
    runAction_cases rebuild document (assembly.call document place) action
  · rw [← hrun] at hfirst
    rcases hresult : (assembly.call document place).runAction rebuild document action with
      ⟨next, _ | message⟩
    · simp only [hresult, runActions] at hfirst ⊢
      exact Shown.both hfirst (shown_actions hshows hbuilds document fun _ => hrest)
    · simp only [hresult, runActions] at hfirst ⊢
      exact hfirst
  · rw [hshows.builds action haction] at hbuild
    exact absurd hbuild Bool.false_ne_true

/-- A call of a sink that is not seen, or one whose sink is not among those at the
end. -/
theorem shown_other_call (document : Document) {other : Nat} {actions : List SinkAction}
    (hother : assembly.sinks <+: final → other ≠ place)
    (hkind : assembly.sinks <+: final → ∀ action ∈ actions, kind action = false) :
    Delivers (Shown view step place final) assembly
      ((assembly.call document other).runActions rebuild document actions).1 := by
  have hcall : Delivers (Shown view step place final) assembly (assembly.call document other) := by
    refine ⟨[⟨other, document, assembly.document⟩], rfl, List.prefix_refl _, fun hfinal => ?_⟩
    simp [deliveriesTo, hother hfinal, seen, call]
  exact Shown.both hcall (shown_actions hshows hbuilds document hkind)

variable (hopens : Opens first kind place final)

include hopens

theorem shown_tell (document : Document) {other : Nat} {sink : Sink}
    (hsink : assembly.sinks[other]? = some sink) :
    Delivers (Shown view step place final) assembly
      (assembly.tell rebuild document other sink) := by
  obtain ⟨count, log, htell⟩ := tell_eq rebuild document other sink assembly
  rw [htell]
  suffices hcall : Delivers (Shown view step place final) assembly
      ((assembly.call document other).runActions rebuild document (sink.actions count)).1 from
    Shown.both hcall (shown_unseen rfl rfl rfl rfl)
  have hkept (hfinal : assembly.sinks <+: final) : final[other]? = some sink := by
    obtain ⟨more, rfl⟩ := hfinal
    rw [List.getElem?_append_left (List.getElem?_eq_some_iff.mp hsink).1, hsink]
  by_cases hown : assembly.sinks <+: final ∧ other = place
  · obtain ⟨hfinal, rfl⟩ := hown
    obtain ⟨action, rest, hactions, haction, hrest⟩ := hopens.own_call (hkept hfinal) count
    rw [hactions]
    exact shown_own_call hshows hbuilds document haction hrest
  · have hother (hfinal : assembly.sinks <+: final) : other ≠ place := fun heq =>
      hown ⟨hfinal, heq⟩
    exact shown_other_call hshows hbuilds document hother fun hfinal =>
      hopens.other_call (hkept hfinal) (hother hfinal) count

theorem shown_tellAll (document : Document) {rest : List Sink} {start : Nat}
    (hrest : rest <+: assembly.sinks.drop start) :
    Delivers (Shown view step place final) assembly
      (tellAll rebuild document start rest assembly) := by
  induction rest generalizing start assembly with
  | nil => exact shown_unseen rfl rfl rfl rfl
  | cons sink rest ih =>
      obtain ⟨hsink, hnext⟩ := told_first hrest
      have htell := shown_tell hshows hbuilds hopens document hsink
      have hgrown : assembly.sinks <+: (assembly.tell rebuild document start sink).sinks := by
        obtain ⟨deliveries, -, hshown⟩ := htell
        exact hshown.sinks
      exact Shown.both htell (ih (hnext.trans (hgrown.drop (start + 1))))

theorem shown_notify (document : Document) :
    Delivers (Shown view step place final) assembly (assembly.notify rebuild document) :=
  shown_tellAll hshows hbuilds hopens document (List.prefix_refl _)

end

variable (hshows : Shows view step first kind) (hopens : Opens first kind place final)

include hshows hopens

theorem shown_build (depth : Nat) (assembly : Assembly) :
    Delivers (Shown view step place final) assembly (buildWithin depth assembly).1 := by
  induction depth using Nat.strong_induction_on generalizing assembly with
  | h depth ih =>
      obtain ⟨kept, log, hbuild | ⟨inner, document, rfl, hbuild⟩⟩ := buildWithin_cases depth assembly
      · rw [hbuild]
        exact shown_unseen rfl rfl rfl rfl
      · have hkept : Delivers (Shown view step place final) assembly
            { assembly with document := kept, log := log } :=
          shown_unseen rfl rfl rfl rfl
        rw [hbuild]
        exact Shown.both hkept
          (shown_notify hshows (ih inner (Nat.lt_succ_self inner)) hopens document)

theorem shown_perform (assembly : Assembly) (command : Command) :
    Delivers (Shown view step place final) assembly (assembly.perform command) := by
  by_cases hsink : ∀ sink, command ≠ .addSink sink
  · obtain ⟨registry, log, ⟨-, hperform⟩ | ⟨document, -, ⟨-, hperform⟩ | ⟨-, depth, hperform⟩⟩⟩ :=
      assembly.perform_cases hsink
    · rw [hperform]
      exact shown_unseen rfl rfl rfl rfl
    · rw [hperform]
      exact shown_unseen rfl rfl rfl rfl
    · have hkept : Delivers (Shown view step place final) assembly
          { assembly with registry := registry, document := some document, log := log } :=
        shown_unseen rfl rfl rfl rfl
      rw [hperform]
      exact Shown.both hkept (shown_notify hshows (shown_build hshows hopens depth) hopens document)
  · obtain ⟨sink, hcommand⟩ := not_forall_not.mp hsink
    rw [hcommand]
    exact .silent rfl ⟨List.prefix_append _ _, fun _ => rfl⟩

omit hopens in
/-- What is seen after commands are the deliveries to a sink that begins each call with
the action that is seen, step by step. -/
theorem shown_run {commands : List Command}
    (hopens : Opens first kind place (before.run commands).sinks)
    (hdeliveries : (before.run commands).deliveries = before.deliveries ++ deliveries) :
    (before.run commands).seen view =
      ((deliveriesTo place deliveries).map Delivery.document).foldl step (before.seen view) := by
  obtain ⟨found, hfound, -, hseen⟩ := (chained_shown True).run (fun _ => trivial)
    fun command _ assembly _ => shown_perform hshows hopens assembly command
  rw [hfound, List.append_cancel_left_eq] at hdeliveries
  rw [hseen (List.prefix_refl _), hdeliveries]

omit hshows hopens

/-- What a recording sink has noted after commands are its deliveries, behind what
was noted before. -/
theorem noted_run {name : String} {commands : List Command}
    (hrecords : Records name place (before.run commands).sinks)
    (hdeliveries : (before.run commands).deliveries = before.deliveries ++ deliveries) :
    (before.run commands).noted name =
      before.noted name ++ (deliveriesTo place deliveries).map Delivery.document := by
  rw [noted, shown_run (shows_noted name) hrecords hdeliveries, noted]
  generalize before.seen (View.noted name) = start
  induction (deliveriesTo place deliveries).map Delivery.document generalizing start with
  | nil => exact (List.append_nil start).symm
  | cons document rest ih => rw [List.foldl_cons, ih, List.append_assoc, List.singleton_append]

/-- The files after commands are what a sink that saves has made of its deliveries. -/
theorem files_run {path : Path} {commands : List Command}
    (hsaves : Saves path place (before.run commands).sinks)
    (hdeliveries : (before.run commands).deliveries = before.deliveries ++ deliveries) :
    (before.run commands).files = before.files.saveAll path
      ((deliveriesTo place deliveries).map fun delivery => delivery.document.text) := by
  have hfiles := shown_run (shows_files path) hsaves hdeliveries
  rw [List.foldl_map] at hfiles
  rw [FileTree.saveAll, List.foldl_map]
  exact hfiles

end Assembly
end Kanban
