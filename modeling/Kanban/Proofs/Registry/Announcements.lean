/-
What sinks hear that do not build.  A command announces its document if that
differs from the one kept before.  A sink hears just the announcements of the
commands that found it subscribed, once each and in order, whatever the other
sinks do.
-/
import Mathlib.Data.List.Chain
import Kanban.Proofs.Registry.Recording

namespace Kanban

namespace SinkAction

mutual

/-- Whether an action neither builds nor subscribes a sink that does. -/
def still : SinkAction → Bool
  | .build => false
  | .extend _ => false
  | .subscribe _ calls => stillOf calls
  | _ => true

def stillAll : List SinkAction → Bool
  | [] => true
  | action :: rest => action.still && stillAll rest

def stillOf : List (List SinkAction) → Bool
  | [] => true
  | actions :: rest => stillAll actions && stillOf rest

end

theorem stillAll_eq (actions : List SinkAction) : stillAll actions = actions.all still := by
  induction actions with
  | nil => rfl
  | cons action rest ih => rw [stillAll, ih, List.all_cons]

theorem stillOf_eq (calls : List (List SinkAction)) : stillOf calls = calls.all stillAll := by
  induction calls with
  | nil => rfl
  | cons actions rest ih => rw [stillOf, ih, List.all_cons]

theorem stillOf_of_subscribed {action : SinkAction} {sink : Sink}
    (hsink : sink ∈ action.subscribed) : stillOf sink.calls = action.still := by
  cases action with
  | subscribe label calls =>
      obtain rfl := List.mem_singleton.mp hsink
      rfl
  | _ => exact absurd hsink List.not_mem_nil

theorem not_builds_of_still {action : SinkAction} (hstill : action.still = true) :
    action.builds = false := by
  cases action with
  | build => exact absurd hstill Bool.false_ne_true
  | extend entity => exact absurd hstill Bool.false_ne_true
  | _ => rfl

end SinkAction

/-- A sink that never builds, nor lets another sink do so. -/
def Sink.Still (sink : Sink) : Prop :=
  SinkAction.stillOf sink.calls = true

instance (sink : Sink) : Decidable sink.Still :=
  inferInstanceAs (Decidable (SinkAction.stillOf sink.calls = true))

theorem Sink.Still.action {sink : Sink} (hsink : sink.Still) {before : Nat} {action : SinkAction}
    (haction : action ∈ sink.actions before) : action.still = true := by
  obtain ⟨actions, hcall, hmem⟩ := Sink.exists_call haction
  rw [Still, SinkAction.stillOf_eq, List.all_eq_true] at hsink
  have hactions := hsink actions hcall
  rw [SinkAction.stillAll_eq, List.all_eq_true] at hactions
  exact hactions action hmem

def Command.Still : Command → Prop
  | .addSink sink => sink.Still
  | _ => True

instance : (command : Command) → Decidable command.Still
  | .addSink sink => inferInstanceAs (Decidable sink.Still)
  | .register _ => isTrue trivial
  | .build => isTrue trivial
  | .reload _ => isTrue trivial

namespace Assembly

variable {assembly before middle after : Assembly} {document : Document} {action : SinkAction}

def Still (assembly : Assembly) : Prop :=
  ∀ sink ∈ assembly.sinks, sink.Still

instance (assembly : Assembly) : Decidable assembly.Still :=
  inferInstanceAs (Decidable (∀ sink ∈ assembly.sinks, sink.Still))

/-- The document that a command announces: the one it returns, if it is not the
one that was kept. -/
def announced (assembly : Assembly) (command : Command) : Option Document :=
  (assembly.answer command).filter assembly.changes

/-- What commands announce in turn while a sink is subscribed. -/
def announcedTo (place : Nat) (assembly : Assembly) : List Command → List Document
  | [] => []
  | command :: rest =>
      (if place < assembly.sinks.length then (assembly.announced command).toList else []) ++
        announcedTo place (assembly.perform command) rest

/-- From one assembly to another sinks are only added, none of them builds, and the
document stays. -/
structure Quiet (before after : Assembly) : Prop where
  sinks : before.sinks <+: after.sinks
  still : after.Still
  kept : after.document = before.document

theorem Quiet.trans (hfirst : Quiet before middle) (hsecond : Quiet middle after) :
    Quiet before after :=
  ⟨hfirst.sinks.trans hsecond.sinks, hsecond.still, hsecond.kept.trans hfirst.kept⟩

/-- No sink is called on the way. -/
def Rests (before : Assembly) (deliveries : List Delivery) (after : Assembly) : Prop :=
  Quiet before after ∧ deliveries = []

theorem chained_rests : Chained Still Rests where
  refl hstill := ⟨⟨List.prefix_refl _, hstill, rfl⟩, rfl⟩
  trans hfirst hsecond :=
    ⟨hfirst.1.trans hsecond.1, by rw [hfirst.2, hsecond.2, List.append_nil]⟩
  keeps _ hrests := hrests.1.still

theorem rests_action (rebuild : Rebuild) (document : Document) (hassembly : assembly.Still)
    (haction : action.still = true) :
    Delivers Rests assembly (assembly.runAction rebuild document action).1 := by
  have haffects := affects_effect document assembly action
  obtain hrun | ⟨hbuilds, -⟩ := runAction_cases rebuild document assembly action
  · rw [hrun]
    refine .silent haffects.deliveries
      ⟨⟨haffects.sinks ▸ List.prefix_append _ _, fun sink hsink => ?_, haffects.kept⟩, rfl⟩
    rw [haffects.sinks, List.mem_append] at hsink
    rcases hsink with hsink | hsink
    · exact hassembly sink hsink
    · exact (SinkAction.stillOf_of_subscribed hsink).trans haction
  · rw [SinkAction.not_builds_of_still haction] at hbuilds
    exact absurd hbuilds Bool.false_ne_true

/-- Telling a sink that does not build is one call. -/
theorem quiet_tell (rebuild : Rebuild) (document : Document) (place : Nat) {sink : Sink}
    (hassembly : assembly.Still) (hsink : sink.Still) :
    let next := assembly.tell rebuild document place sink
    Quiet assembly next ∧
      next.deliveries = assembly.deliveries ++ [⟨place, document, assembly.document⟩] := by
  obtain ⟨count, log, htell⟩ := tell_eq rebuild document place sink assembly
  have hcalled : (assembly.call document place).Still := hassembly
  have hactions : Delivers Rests (assembly.call document place)
      ((assembly.call document place).runActions rebuild document (sink.actions count)).1 :=
    chained_rests.actions rebuild hcalled fun action haction _ hassembly =>
      rests_action rebuild document hassembly (hsink.action haction)
  obtain ⟨deliveries, htrace, hquiet, rfl⟩ := hactions
  rw [htell]
  exact ⟨⟨hquiet.sinks, hquiet.still, hquiet.kept⟩, htrace.trans (List.append_nil _)⟩

/-- Of sinks told in turn each is told once. -/
theorem quiet_tellAll (rebuild : Rebuild) (document : Document) (first : Nat)
    {sinks : List Sink} (hassembly : assembly.Still) (hsinks : ∀ sink ∈ sinks, sink.Still) :
    let after := tellAll rebuild document first sinks assembly
    Quiet assembly after ∧ ∃ deliveries, after.deliveries = assembly.deliveries ++ deliveries ∧
      ∀ place, (deliveriesTo place deliveries).map Delivery.document =
        if first ≤ place ∧ place < first + sinks.length then [document] else [] := by
  induction sinks generalizing first assembly with
  | nil =>
      refine ⟨⟨List.prefix_refl _, hassembly, rfl⟩, [], (List.append_nil _).symm, fun place => ?_⟩
      rw [if_neg fun h => Nat.lt_irrefl place (h.2.trans_le h.1)]
      rfl
  | cons sink rest ih =>
      obtain ⟨hfirst, htold⟩ :=
        quiet_tell rebuild document first hassembly (hsinks sink List.mem_cons_self)
      obtain ⟨hrest, deliveries, htrace, hheard⟩ := ih (first + 1) hfirst.still fun other hother =>
        hsinks other (List.mem_cons_of_mem _ hother)
      refine ⟨hfirst.trans hrest, [⟨first, document, assembly.document⟩] ++ deliveries, ?_,
        fun place => ?_⟩
      · rw [tellAll, htrace, htold, List.append_assoc]
      · rw [deliveriesTo_append, List.map_append, hheard place, List.length_cons]
        by_cases hplace : first = place
        · rw [if_neg (by omega), if_pos (by omega), List.append_nil, ← hplace]
          simp [deliveriesTo]
        · have hother : deliveriesTo place [⟨first, document, assembly.document⟩] = [] := by
            simp [deliveriesTo, hplace]
          rw [hother, List.map_nil, List.nil_append]
          exact if_congr (by omega) rfl rfl

theorem quiet_notify (rebuild : Rebuild) (document : Document) (hassembly : assembly.Still) :
    let after := assembly.notify rebuild document
    Quiet assembly after ∧ ∃ deliveries, after.deliveries = assembly.deliveries ++ deliveries ∧
      ∀ place, (deliveriesTo place deliveries).map Delivery.document =
        if place < assembly.sinks.length then [document] else [] := by
  obtain ⟨hquiet, deliveries, htrace, hheard⟩ :=
    quiet_tellAll rebuild document 0 hassembly hassembly
  refine ⟨hquiet, deliveries, htrace, fun place => (hheard place).trans ?_⟩
  exact if_congr (by omega) rfl rfl

/-- What a command does: it announces nothing and no sink is told, or the sinks
that it finds are told what it announces. -/
structure Announces (before : Assembly) (command : Command) : Prop where
  sinks : before.sinks <+: (before.perform command).sinks
  still : (before.perform command).Still
  kept : (before.perform command).fingerprint? =
    ((before.announced command).map Document.fingerprint).or before.fingerprint?
  told : ∃ deliveries, (before.perform command).deliveries = before.deliveries ++ deliveries ∧
    ∀ place, (deliveriesTo place deliveries).map Delivery.document =
      if place < before.sinks.length then (before.announced command).toList else []

theorem announces_silent {command : Command} (hbefore : before.Still)
    (hperform : before.perform command = after) (hsinks : after.sinks = before.sinks)
    (hdeliveries : after.deliveries = before.deliveries)
    (hkept : after.fingerprint? = before.fingerprint?)
    (hannounced : before.announced command = none) : Announces before command := by
  refine ⟨?_, ?_, ?_, [], ?_, fun place => ?_⟩
  · rw [hperform, hsinks]
  · rw [hperform]
    exact fun sink hsink => hbefore sink (hsinks ▸ hsink)
  · rw [hperform, hannounced, hkept]
    rfl
  · rw [hperform, hdeliveries, List.append_nil]
  · rw [hannounced, Option.toList_none, ite_self]
    rfl

theorem announced_of_ok {command : Command} (hanswer : before.answer command = some document) :
    before.announced command = if before.changes document then some document else none := by
  rw [announced, hanswer, Option.filter_some]

/-- A document that changes what was kept is announced to the sinks. -/
theorem announces_told {command : Command} {told : Assembly} {inner : Nat}
    (hbefore : before.Still)
    (hperform : before.perform command = told.notify (buildWithin inner) document)
    (hsinks : told.sinks = before.sinks) (hdeliveries : told.deliveries = before.deliveries)
    (hdocument : told.document = some document)
    (hannounced : before.announced command = some document) : Announces before command := by
  have hstill : told.Still := fun sink hsink => hbefore sink (hsinks ▸ hsink)
  obtain ⟨hquiet, deliveries, htrace, hheard⟩ :=
    quiet_notify (buildWithin inner) document hstill
  refine ⟨hperform ▸ hsinks ▸ hquiet.sinks, hperform ▸ hquiet.still, ?_, deliveries, ?_,
    fun place => ?_⟩
  · rw [hperform, fingerprint?, hquiet.kept, hdocument, hannounced]
    rfl
  · rw [hperform, htrace, hdeliveries]
  · rw [hheard place, hsinks, hannounced]
    rfl

/-- What a reload answers does not depend on the sinks. -/
theorem reload_answer (assembly : Assembly) (source : List (Except EntityError Entity)) :
    (assembly.reload source).2 = (gather .empty source).bind fun registry =>
      (registry.document assembly.coding).mapError .unrendered := by
  cases hgather : gather .empty source with
  | error cause => rw [reload_of_refused assembly hgather]; rfl
  | ok registry =>
      rw [Except.bind]
      cases hdocument : registry.document assembly.coding with
      | error cause =>
          obtain ⟨log, hreload⟩ := reload_of_error assembly hgather hdocument
          rw [hreload]
          rfl
      | ok document =>
          obtain ⟨log, hreload⟩ := reload_of_ok assembly hgather hdocument
          rw [hreload]
          rfl

theorem announces_perform {command : Command} (hbefore : before.Still) (hcommand : command.Still) :
    Announces before command := by
  by_cases hsink : ∀ sink, command ≠ .addSink sink
  · obtain ⟨registry, log, ⟨hanswer, hperform⟩ | ⟨document, hanswer,
        ⟨hsame, hperform⟩ | ⟨hchanged, depth, hperform⟩⟩⟩ := before.perform_cases hsink
    · have hannounced : before.announced command = none := by
        rw [announced, hanswer]
        rfl
      exact announces_silent hbefore hperform rfl rfl rfl hannounced
    · have hannounced := announced_of_ok hanswer
      rw [hsame, if_neg Bool.false_ne_true] at hannounced
      exact announces_silent hbefore hperform rfl rfl (fingerprint?_of_not_changes hsame).symm
        hannounced
    · have hannounced := announced_of_ok hanswer
      rw [hchanged, if_pos rfl] at hannounced
      exact announces_told hbefore hperform rfl rfl rfl hannounced
  · obtain ⟨sink, rfl⟩ := not_forall_not.mp hsink
    refine ⟨List.prefix_append _ _, fun other hother => ?_, rfl, [], (List.append_nil _).symm,
      fun place => ?_⟩
    · rcases List.mem_append.mp hother with hmem | hmem
      · exact hbefore other hmem
      · rw [List.mem_singleton.mp hmem]
        exact hcommand
    · exact (ite_self _).symm

theorem announcedTo_run {commands : List Command} (hbefore : before.Still)
    (hcommands : ∀ command ∈ commands, command.Still) :
    ∃ deliveries, (before.run commands).deliveries = before.deliveries ++ deliveries ∧
      ∀ place, (deliveriesTo place deliveries).map Delivery.document =
        before.announcedTo place commands := by
  induction commands generalizing before with
  | nil => exact ⟨[], (List.append_nil _).symm, fun _ => rfl⟩
  | cons command rest ih =>
      have hannounces := announces_perform hbefore (hcommands command List.mem_cons_self)
      obtain ⟨first, hfirst, htold⟩ := hannounces.told
      obtain ⟨later, hlater, hheard⟩ := ih hannounces.still fun other hother =>
        hcommands other (List.mem_cons_of_mem _ hother)
      refine ⟨first ++ later, ?_, fun place => ?_⟩
      · rw [← List.append_assoc, ← hfirst]
        exact hlater
      · rw [deliveriesTo_append, List.map_append, announcedTo, htold place, hheard place]

/-- No document is announced twice in a row: each differs from the one before, and
for a sink that is subscribed the first differs from the one that was kept. -/
theorem isChain_announcedTo {commands : List Command} (place : Nat) (hbefore : before.Still)
    (hcommands : ∀ command ∈ commands, command.Still) :
    (before.announcedTo place commands).IsChain
        (fun earlier later => earlier.fingerprint ≠ later.fingerprint) ∧
      (place < before.sinks.length → ∀ first ∈ (before.announcedTo place commands).head?,
        before.fingerprint? ≠ some first.fingerprint) := by
  induction commands generalizing before with
  | nil => exact ⟨.nil, fun _ first hfirst => nomatch hfirst⟩
  | cons command rest ih =>
      have hannounces := announces_perform hbefore (hcommands command List.mem_cons_self)
      obtain ⟨hchain, hhead⟩ := ih hannounces.still fun other hother =>
        hcommands other (List.mem_cons_of_mem _ hother)
      have hkept := hannounces.kept
      rw [announcedTo]
      by_cases hplace : place < before.sinks.length
      · have hlater := hhead (hplace.trans_le hannounces.sinks.length_le)
        rw [if_pos hplace]
        cases hannounced : before.announced command with
        | none =>
            rw [hannounced, Option.map_none, Option.none_or] at hkept
            rw [hkept] at hlater
            exact ⟨hchain, fun _ => hlater⟩
        | some document =>
            rw [hannounced, Option.map_some, Option.some_or] at hkept
            rw [hkept] at hlater
            have hchanged := (Option.filter_eq_some_iff.mp hannounced).2
            refine ⟨List.isChain_cons.mpr ⟨fun later hmem heq => ?_, hchain⟩, ?_⟩
            · exact hlater later hmem (congrArg some heq)
            · intro _ first hfirst
              obtain rfl := Option.some.inj hfirst
              exact changes_iff.mp hchanged
      · rw [if_neg hplace, List.nil_append]
        exact ⟨hchain, fun h => absurd h hplace⟩

/-- What a sink hears, if no sink ever builds.  It is called with what is announced
while it is subscribed, each announcement once and in order, and no document twice in a
row.  A sink that notes documents, and be it subscribed during a call of another, notes
just that.  What other sinks do, failing or subscribing more of them, changes neither
that nor the answer of any command. -/
theorem heard_announced (before : Assembly) (commands : List Command) (place : Nat)
    (hbefore : before.Still) (hcommands : ∀ command ∈ commands, command.Still) :
    let after := before.run commands
    let heard := before.announcedTo place commands
    (∃ deliveries, after.deliveries = before.deliveries ++ deliveries ∧
        (deliveriesTo place deliveries).map Delivery.document = heard) ∧
      heard.IsChain (fun earlier later => earlier.fingerprint ≠ later.fingerprint) ∧
      (∀ name, Records name place after.sinks → after.noted name = before.noted name ++ heard) ∧
      after.build.2 = after.rendered ∧
      ∀ source, (after.reload source).2 = (gather .empty source).bind fun registry =>
        (registry.document after.coding).mapError .unrendered := by
  intro after heard
  obtain ⟨deliveries, htrace, hheard⟩ := announcedTo_run hbefore hcommands
  refine ⟨⟨deliveries, htrace, hheard place⟩, (isChain_announcedTo place hbefore hcommands).1,
    fun name hrecords => ?_, buildWithin_answer _ _, reload_answer after⟩
  rw [noted_run hrecords htrace, hheard place]

/-- A sink that is subscribed during a call notes no document of that notification.  At
its first call the sink in front subscribes it and fails; at later ones it just
fails. -/
theorem heard_announced_subscribing :
    let board : Entity := ⟨.text "Board", .empty, [], [], .text "", by decide⟩
    let card : Entity := ⟨.text "Card", .empty, [], [], .text "", by decide⟩
    let before := Assembly.empty.addSink
      ⟨"first", [[.subscribe "second" [[.record "second"]], .fail "no"], [.fail "no"]]⟩
    let commands : List Command :=
      [.register board, .build, .build, .register card, .reload [.ok board], .build,
        .register card, .build]
    let after := before.run commands
    before.Still ∧ (∀ command ∈ commands, command.Still) ∧ Records "second" 1 after.sinks ∧
      (∃ deliveries, after.deliveries = before.deliveries ++ deliveries ∧
        ((deliveriesTo 0 deliveries).map Delivery.document).map Document.entities =
          [[.text "Board"], [.text "Board", .text "Card"]]) ∧
      (after.noted "second").map Document.entities = [[.text "Board", .text "Card"]] := by
  intro board card before commands after
  have hbefore : before.Still := by decide
  have hcommands : ∀ command ∈ commands, command.Still := by decide
  have hrecords : Records "second" 1 after.sinks := by decide +kernel
  obtain ⟨⟨deliveries, htrace, hfirst⟩, -⟩ := heard_announced before commands 0 hbefore hcommands
  obtain ⟨-, -, hnoted, -⟩ := heard_announced before commands 1 hbefore hcommands
  refine ⟨hbefore, hcommands, hrecords, ⟨deliveries, htrace, ?_⟩, ?_⟩
  · rw [hfirst]
    decide +kernel
  · rw [hnoted "second" hrecords]
    decide +kernel

end Assembly
end Kanban
