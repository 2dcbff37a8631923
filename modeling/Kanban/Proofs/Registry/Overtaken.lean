/-
Which document a sink is left with.  Sinks that build while they are told make
the deliveries nest: the sinks behind them hear of the newer document first and
of the older one last.  What a sink was told last may so be overtaken by then,
but only by what a sink in front of it has built, and the document that was kept
at its last call is current to the end.
-/
import Mathlib.Data.Finset.Card
import Kanban.Proofs.Registry.Recording

namespace Kanban

/-- A sink that does not build. -/
def Sink.Quiet (sink : Sink) : Prop :=
  ∀ actions ∈ sink.calls, ∀ action ∈ actions, action.builds = false

namespace Assembly

variable {keys : Finset (Option Key)} {depth place : Nat}
  {assembly before middle after : Assembly} {rebuild : Rebuild} {document : Document}
  {deliveries later : List Delivery} {action : SinkAction}

/-- The document that is kept is that of the entities, as far as these have one. -/
def Synced (assembly : Assembly) : Prop :=
  ∀ document, assembly.rendered = .ok document →
    assembly.fingerprint? = some document.fingerprint

/-- How many keys are still free. -/
def free (keys : Finset (Option Key)) (assembly : Assembly) : Nat :=
  (keys \ assembly.registry.keys.toFinset).card

/-- Builds that nest `depth` deep suffice: each of them but the first needs a key
that was free before, and sinks know of no others than those given. -/
structure Ready (keys : Finset (Option Key)) (depth : Nat) (assembly : Assembly) : Prop where
  known : ∀ sink ∈ assembly.sinks, ∀ key ∈ SinkAction.keysOf sink.calls, key ∈ keys
  enough : assembly.free keys < depth ∨ assembly.free keys ≤ depth ∧ assembly.Synced

theorem free_lt {key : Option Key} (hkey : key ∈ keys) (hfree : key ∉ before.registry.keys)
    (hkeys : after.registry.keys = before.registry.keys ++ [key]) :
    after.free keys < before.free keys := by
  refine Finset.card_lt_card (Finset.ssubset_iff_of_subset ?_ |>.mpr ⟨key, ?_, ?_⟩)
  · intro other hother
    rw [Finset.mem_sdiff, List.mem_toFinset] at hother ⊢
    rw [hkeys] at hother
    exact ⟨hother.1, fun h => hother.2 (List.mem_append_left _ h)⟩
  · exact Finset.mem_sdiff.mpr ⟨hkey, fun h => hfree (List.mem_toFinset.mp h)⟩
  · intro h
    rw [Finset.mem_sdiff, List.mem_toFinset, hkeys] at h
    exact h.2 (List.mem_append_right _ (List.mem_singleton_self key))

namespace Ready

/-- What is neither registered nor kept nor a sink does not matter. -/
theorem aside (hready : assembly.Ready keys depth) (deliveries : List Delivery)
    (log : List LogLine) :
    { assembly with deliveries := deliveries, log := log }.Ready keys depth :=
  ⟨hready.known, hready.enough⟩

theorem effect (document : Document) (hready : assembly.Ready keys depth)
    (hkeys : ∀ key ∈ action.keys, key ∈ keys) :
    (assembly.effect document action).Ready keys depth := by
  have haffects := affects_effect document assembly action
  refine ⟨?_, ?_⟩
  · intro sink hsink key hkey
    rw [haffects.sinks, List.mem_append] at hsink
    rcases hsink with hsink | hsink
    · exact hready.known sink hsink key hkey
    · rw [SinkAction.keysOf_of_subscribed hsink] at hkey
      exact hkeys key hkey
  · rcases haffects.registry with hsame | ⟨key, hkey, hfree, hadded⟩
    · have henough := hready.enough
      simp only [free, Synced, rendered, fingerprint?, hsame, haffects.kept, haffects.coding]
        at henough ⊢
      exact henough
    · left
      have hlt := free_lt (hkeys key hkey) hfree hadded
      have hle := hready.enough
      omega

end Ready

/-- The depth that a build starts with suffices. -/
theorem ready_depth (assembly : Assembly) : ∃ keys, assembly.Ready keys assembly.depth := by
  refine ⟨(assembly.sinks.flatMap fun sink => SinkAction.keysOf sink.calls).toFinset, ⟨?_, .inl ?_⟩⟩
  · intro sink hsink key hkey
    exact List.mem_toFinset.mpr (List.mem_flatMap.mpr ⟨sink, hsink, hkey⟩)
  · rw [depth_eq, Nat.lt_succ_iff]
    exact (Finset.card_le_card Finset.sdiff_subset).trans (List.toFinset_card_le _)

/-- From one assembly to another the document stays, whatever is delivered. -/
def Stays (before : Assembly) (_ : List Delivery) (after : Assembly) : Prop :=
  after.document = before.document

theorem chained_stays : Chained (fun _ => True) Stays :=
  ⟨fun _ => rfl, fun hfirst hsecond => hsecond.trans hfirst, fun _ _ => trivial⟩

theorem stays_action (rebuild : Rebuild) (document : Document) (assembly : Assembly)
    (hquiet : action.builds = false) :
    Delivers Stays assembly (assembly.runAction rebuild document action).1 := by
  have haffects := affects_effect document assembly action
  obtain hrun | ⟨hbuilds, -⟩ := runAction_cases rebuild document assembly action
  · rw [hrun]
    exact .silent haffects.deliveries haffects.kept
  · rw [hquiet] at hbuilds
    exact absurd hbuilds Bool.false_ne_true

theorem document_tell (rebuild : Rebuild) (document : Document) (place : Nat)
    (assembly : Assembly) {sink : Sink} (hquiet : sink.Quiet) :
    (assembly.tell rebuild document place sink).document = assembly.document := by
  obtain ⟨count, log, htell⟩ := tell_eq rebuild document place sink assembly
  have hactions : Delivers Stays (assembly.call document place)
      ((assembly.call document place).runActions rebuild document (sink.actions count)).1 := by
    refine chained_stays.actions rebuild trivial fun action haction assembly _ => ?_
    obtain ⟨actions, hcall, hmem⟩ := Sink.exists_call haction
    exact stays_action rebuild document assembly (hquiet actions hcall action hmem)
  obtain ⟨_, -, hstays⟩ := hactions
  rw [htell]
  exact hstays

/-- The document that was kept when a sink was told last, or to begin with if it
was not told. -/
def lastKept (place : Nat) (before : Assembly) (deliveries : List Delivery) : Option Document :=
  ((deliveriesTo place deliveries).getLast?.map Delivery.kept).getD before.document

/-- From one assembly to another with the deliveries on the way.  What was kept at
the last call of a sink is what is kept now; and a delivery is of the document
that is kept, unless a sink in front builds. -/
structure Episode (before : Assembly) (deliveries : List Delivery) (after : Assembly) :
    Prop where
  sinks : before.sinks <+: after.sinks
  begun : before.document.isSome → after.document.isSome
  settled : ∀ place < before.sinks.length,
    after.fingerprint? = (before.lastKept place deliveries).map Document.fingerprint
  prompt : ∀ delivery ∈ deliveries, ∃ kept, delivery.kept = some kept ∧
    (delivery.place < before.sinks.length →
      (∀ sink ∈ before.sinks.take delivery.place, sink.Quiet) → kept = delivery.document)

theorem lastKept_append (place : Nat) (before : Assembly) (first second : List Delivery)
    (hmiddle : middle.fingerprint? =
      (before.lastKept place first).map Document.fingerprint) :
    (before.lastKept place (first ++ second)).map Document.fingerprint =
      (middle.lastKept place second).map Document.fingerprint := by
  rw [lastKept, lastKept, deliveriesTo_append, List.getLast?_append]
  cases (deliveriesTo place second).getLast? with
  | none => exact hmiddle.symm
  | some delivery => rfl

/-- A call with the document that is kept changes nothing in what was kept last. -/
theorem lastKept_call (place other : Nat) (before : Assembly) (document : Document)
    (deliveries : List Delivery) :
    before.lastKept place (⟨other, document, before.document⟩ :: deliveries) =
      before.lastKept place deliveries := by
  rw [lastKept, lastKept, deliveriesTo, List.filter_cons]
  by_cases hplace : other = place
  · simp only [hplace, decide_true, if_true, List.getLast?_cons, deliveriesTo]
    cases (deliveries.filter fun delivery => decide (delivery.place = place)).getLast? with
    | none => rfl
    | some delivery => rfl
  · simp only [hplace, decide_false, Bool.false_eq_true, if_false, deliveriesTo]

theorem lastKept_of_told {delivery : Delivery} (hmem : delivery ∈ deliveries)
    (hplace : delivery.place = place) :
    before.lastKept place deliveries = after.lastKept place deliveries := by
  have htold : delivery ∈ deliveriesTo place deliveries :=
    List.mem_filter.mpr ⟨hmem, decide_eq_true hplace⟩
  rw [lastKept, lastKept, List.getLast?_eq_some_getLast (List.ne_nil_of_mem htold)]
  rfl

theorem isSome_fingerprint? (assembly : Assembly) :
    assembly.fingerprint?.isSome = assembly.document.isSome :=
  Option.isSome_map

theorem take_of_grown {count : Nat} (hsinks : before.sinks <+: after.sinks)
    (hcount : count ≤ before.sinks.length) :
    after.sinks.take count = before.sinks.take count := by
  obtain ⟨rest, hrest⟩ := hsinks
  rw [← hrest, List.take_append_of_le_length hcount]

namespace Episode

/-- An episode without deliveries. -/
theorem silent (hsinks : before.sinks <+: after.sinks)
    (hfingerprint : after.fingerprint? = before.fingerprint?) : Episode before [] after where
  sinks := hsinks
  begun := by rw [← isSome_fingerprint?, ← isSome_fingerprint?, hfingerprint]; exact id
  settled _ _ := hfingerprint
  prompt _ hdelivery := absurd hdelivery List.not_mem_nil

theorem relog (hepisode : Episode before deliveries after) (log : List LogLine) :
    Episode before deliveries { after with log := log } :=
  ⟨hepisode.sinks, hepisode.begun, hepisode.settled, hepisode.prompt⟩

theorem trans (hfirst : Episode before deliveries middle) (hsecond : Episode middle later after) :
    Episode before (deliveries ++ later) after where
  sinks := hfirst.sinks.trans hsecond.sinks
  begun := hsecond.begun ∘ hfirst.begun
  settled place hplace := by
    rw [lastKept_append place before deliveries later (hfirst.settled place hplace)]
    exact hsecond.settled place (hplace.trans_le hfirst.sinks.length_le)
  prompt delivery hdelivery := by
    rcases List.mem_append.mp hdelivery with hmem | hmem
    · exact hfirst.prompt delivery hmem
    · obtain ⟨kept, hkept, hquiet⟩ := hsecond.prompt delivery hmem
      refine ⟨kept, hkept, fun hplace hclear => ?_⟩
      refine hquiet (hplace.trans_le hfirst.sinks.length_le) ?_
      rw [take_of_grown hfirst.sinks hplace.le]
      exact hclear

/-- A sink is called with a document, which is the one that is kept if no sink in
front builds. -/
theorem call (hepisode : Episode before deliveries after) {kept : Document}
    (hkept : before.document = some kept)
    (hquiet : (∀ sink ∈ before.sinks.take place, sink.Quiet) → kept = document) :
    Episode before (⟨place, document, before.document⟩ :: deliveries) after where
  sinks := hepisode.sinks
  begun := hepisode.begun
  settled other hother := by
    rw [lastKept_call]
    exact hepisode.settled other hother
  prompt delivery hdelivery := by
    rcases List.mem_cons.mp hdelivery with heq | hmem
    · rw [heq]
      exact ⟨kept, hkept, fun _ => hquiet⟩
    · exact hepisode.prompt delivery hmem

end Episode

/-- An episode that leaves no more keys than builds may nest deep. -/
def Runs (keys : Finset (Option Key)) (depth : Nat) (before : Assembly)
    (deliveries : List Delivery) (after : Assembly) : Prop :=
  Episode before deliveries after ∧ after.Ready keys depth

theorem chained_runs : Chained (Ready keys depth) (Runs keys depth) where
  refl hready := ⟨.silent (List.prefix_refl _) rfl, hready⟩
  trans hfirst hsecond := ⟨hfirst.1.trans hsecond.1, hsecond.2⟩
  keeps _ hruns := hruns.2

/-- Building keeps within a depth. -/
def Builds (keys : Finset (Option Key)) (depth : Nat) (rebuild : Rebuild) : Prop :=
  ∀ assembly, assembly.Ready keys depth →
    Delivers (Runs keys depth) assembly (rebuild assembly).1

section

variable (hbuilds : Builds keys depth rebuild)

include hbuilds

theorem runs_action (document : Document) (hready : assembly.Ready keys depth)
    (hkeys : ∀ key ∈ action.keys, key ∈ keys) :
    Delivers (Runs keys depth) assembly (assembly.runAction rebuild document action).1 := by
  have haffects := affects_effect document assembly action
  have hnext := hready.effect document hkeys
  have heffect : Delivers (Runs keys depth) assembly (assembly.effect document action) :=
    .silent haffects.deliveries ⟨.silent (haffects.sinks ▸ List.prefix_append _ _)
      (congrArg (Option.map Document.fingerprint) haffects.kept), hnext⟩
  obtain hrun | ⟨-, hrun⟩ := runAction_cases rebuild document assembly action
  · rw [hrun]
    exact heffect
  · rw [hrun]
    exact chained_runs.both heffect (hbuilds _ hnext)

/-- A call of a sink, with what the sink brings about. -/
theorem runs_tell (document : Document) (place : Nat) {sink : Sink}
    (hready : assembly.Ready keys depth) (hsink : sink ∈ assembly.sinks) :
    ∃ deliveries, (assembly.tell rebuild document place sink).deliveries =
        assembly.deliveries ++ ⟨place, document, assembly.document⟩ :: deliveries ∧
      Runs keys depth assembly deliveries (assembly.tell rebuild document place sink) := by
  obtain ⟨count, log, htell⟩ := tell_eq rebuild document place sink assembly
  have hcalled : (assembly.call document place).Ready keys depth := hready.aside _ assembly.log
  have hactions : Delivers (Runs keys depth) (assembly.call document place)
      ((assembly.call document place).runActions rebuild document (sink.actions count)).1 := by
    refine chained_runs.actions rebuild hcalled fun action haction _ hready => ?_
    obtain ⟨actions, hcall, hmem⟩ := Sink.exists_call haction
    exact runs_action hbuilds document hready fun key hkey => hcalled.known sink hsink key
      (SinkAction.mem_keysOf.mpr ⟨actions, hcall, action, hmem, hkey⟩)
  obtain ⟨deliveries, htrace, hepisode, hafter⟩ := hactions
  rw [htell]
  refine ⟨deliveries, ?_, ?_, hafter.aside _ log⟩
  · rw [List.append_cons]
    exact htrace
  · exact ⟨hepisode.sinks, hepisode.begun, hepisode.settled, hepisode.prompt⟩

/-- Sinks that stand from a place on are told in turn. -/
theorem runs_tellAll {rest : List Sink} (hready : assembly.Ready keys depth)
    (hrest : rest <+: assembly.sinks.drop place) {kept : Document}
    (hkept : assembly.document = some kept)
    (hquiet : (∀ sink ∈ assembly.sinks.take place, sink.Quiet) → kept = document) :
    ∃ deliveries, (tellAll rebuild document place rest assembly).deliveries =
        assembly.deliveries ++ deliveries ∧
      Runs keys depth assembly deliveries (tellAll rebuild document place rest assembly) ∧
      ∀ other, place ≤ other → other < place + rest.length →
        ∃ delivery ∈ deliveries, delivery.place = other := by
  induction rest generalizing place assembly kept with
  | nil =>
      refine ⟨[], (List.append_nil _).symm, ⟨.silent (List.prefix_refl _) rfl, hready⟩, ?_⟩
      exact fun other hle hlt => absurd (hle.trans_lt hlt) (Nat.lt_irrefl _)
  | cons sink rest ih =>
      obtain ⟨hat, hbehind⟩ := told_first hrest
      have hplace : place + 1 ≤ assembly.sinks.length := (List.getElem?_eq_some_iff.mp hat).1
      obtain ⟨own, hown, htell, hnext⟩ :=
        runs_tell hbuilds document place hready (List.mem_of_getElem? hat)
      -- Later sinks are told of the same document, whatever is kept by then.
      have hrest := hbehind.trans (htell.sinks.drop (place + 1))
      obtain ⟨later, hlater⟩ := Option.isSome_iff_exists.mp (htell.begun (by rw [hkept]; rfl))
      have hclear : (∀ other ∈ (assembly.tell rebuild document place sink).sinks.take (place + 1),
          other.Quiet) → later = document := by
        intro hclear
        rw [take_of_grown htell.sinks hplace, List.take_add_one, hat] at hclear
        have hkept' := document_tell rebuild document place assembly
          (hclear sink (List.mem_append_right _ List.mem_cons_self))
        rw [hlater, hkept, Option.some.injEq] at hkept'
        rw [hkept']
        exact hquiet fun other hother => hclear other (List.mem_append_left _ hother)
      obtain ⟨others, hothers, hrun, htold⟩ := ih hnext hrest hlater hclear
      refine ⟨⟨place, document, assembly.document⟩ :: own ++ others, ?_,
        ⟨(htell.call hkept hquiet).trans hrun.1, hrun.2⟩, fun other hle hlt => ?_⟩
      · rw [tellAll, hothers, hown, List.append_assoc]
      · rcases Nat.eq_or_lt_of_le hle with heq | hlt'
        · exact ⟨_, List.mem_cons_self, heq⟩
        · obtain ⟨delivery, hmem, hother⟩ :=
            htold other hlt' (by rw [List.length_cons] at hlt; omega)
          exact ⟨delivery, List.mem_append_right _ hmem, hother⟩

/-- All sinks are told of a document that was just built. -/
theorem runs_notify {told : Assembly} (hready : told.Ready keys depth)
    (hdocument : told.document = some document) (hsinks : told.sinks = before.sinks)
    (hdeliveries : told.deliveries = before.deliveries) :
    Delivers (Runs keys depth) before (told.notify rebuild document) := by
  have hall : told.sinks <+: told.sinks.drop 0 := List.prefix_refl _
  obtain ⟨deliveries, htrace, ⟨hepisode, hafter⟩, htold⟩ :=
    runs_tellAll hbuilds hready hall hdocument fun _ => rfl
  refine ⟨deliveries, hdeliveries ▸ htrace, ⟨hsinks ▸ hepisode.sinks, ?_, ?_,
    hsinks ▸ hepisode.prompt⟩, hafter⟩
  · exact fun _ => hepisode.begun (by rw [hdocument]; rfl)
  · intro place hplace
    rw [← hsinks] at hplace
    obtain ⟨delivery, hmem, hdelivery⟩ := htold place (Nat.zero_le _) (by rwa [Nat.zero_add])
    have heq : before.lastKept place deliveries = told.lastKept place deliveries :=
      lastKept_of_told hmem hdelivery
    rw [heq]
    exact hepisode.settled place hplace

end

theorem synced_of_kept (hrendered : assembly.rendered = .ok document)
    (hkept : assembly.fingerprint? = some document.fingerprint) : assembly.Synced := by
  intro other hother
  rw [hrendered, Except.ok.injEq] at hother
  rw [← hother, hkept]

/-- A document that was kept before is kept again, and no sink hears of it. -/
theorem runs_unchanged (hready : assembly.Ready keys depth)
    (hrendered : assembly.rendered = .ok document)
    (hsame : assembly.changes document = false) (log : List LogLine) :
    Delivers (Runs keys depth) assembly
      { assembly with document := some document, log := log } := by
  have hkept := fingerprint?_of_not_changes hsame
  refine .silent rfl ⟨.silent (List.prefix_refl _) hkept.symm, hready.known, ?_⟩
  exact hready.enough.imp id fun h => ⟨h.1, synced_of_kept hrendered rfl⟩

/-- A changed document needs a build to be left; the builds within it are ready
with one less. -/
theorem Ready.exists_inner (hready : assembly.Ready keys depth)
    (hrendered : assembly.rendered = .ok document)
    (hchanged : assembly.changes document = true) :
    ∃ inner, depth = inner + 1 ∧ ∀ log,
      { assembly with document := some document, log := log }.Ready keys inner := by
  rcases hready.enough with hlt | ⟨-, hsynced⟩
  · obtain ⟨inner, rfl⟩ := Nat.exists_eq_add_one_of_ne_zero (Nat.ne_zero_of_lt hlt)
    exact ⟨inner, rfl, fun log => ⟨hready.known,
      .inr ⟨Nat.le_of_lt_succ hlt, synced_of_kept hrendered rfl⟩⟩⟩
  · exact absurd (hsynced document hrendered) (changes_iff.mp hchanged)

theorem Ready.mono (hready : assembly.Ready keys depth) : assembly.Ready keys (depth + 1) :=
  ⟨hready.known, .inl (by have := hready.enough; omega)⟩

/-- A build at a depth from those one less deep. -/
theorem builds_of_inner
    (hinner : ∀ inner, depth = inner + 1 → Builds keys inner (buildWithin inner)) :
    Builds keys depth (buildWithin depth) := by
  intro assembly hready
  cases hrendered : assembly.rendered with
  | error cause =>
      obtain ⟨log, hbuild⟩ := build_of_error depth hrendered
      rw [hbuild]
      exact .silent rfl ⟨(Episode.silent (List.prefix_refl _) rfl).relog log, hready.aside _ log⟩
  | ok document =>
      cases hchanged : assembly.changes document with
      | false =>
          obtain ⟨log, hbuild⟩ := build_of_silent depth hrendered (.inr hchanged)
          rw [hbuild]
          exact runs_unchanged hready hrendered hchanged log
      | true =>
          obtain ⟨inner, rfl, hbuilt⟩ := hready.exists_inner hrendered hchanged
          obtain ⟨log, hbuild⟩ := build_of_changed inner hrendered hchanged
          rw [hbuild]
          obtain ⟨deliveries, htrace, hepisode, hafter⟩ : Delivers (Runs keys inner) assembly _ :=
            runs_notify (hinner inner rfl) (hbuilt log) rfl rfl rfl
          exact ⟨deliveries, htrace, hepisode, hafter.mono⟩

theorem builds_within (keys : Finset (Option Key)) (depth : Nat) :
    Builds keys depth (buildWithin depth) := by
  induction depth with
  | zero => exact builds_of_inner fun inner hinner => absurd hinner.symm (Nat.succ_ne_zero inner)
  | succ depth ih => exact builds_of_inner fun inner hinner => Nat.succ.inj hinner ▸ ih

theorem Delivers.episode (hruns : Delivers (Runs keys depth) before after) :
    Delivers Episode before after := by
  obtain ⟨deliveries, htrace, hepisode, -⟩ := hruns
  exact ⟨deliveries, htrace, hepisode⟩

theorem episode_build (assembly : Assembly) : Delivers Episode assembly assembly.build.1 := by
  obtain ⟨keys, hready⟩ := assembly.ready_depth
  exact (builds_within keys assembly.depth assembly hready).episode

theorem episode_reload (assembly : Assembly) (source : List (Except EntityError Entity)) :
    Delivers Episode assembly (assembly.reload source).1 := by
  cases hgather : gather .empty source with
  | error cause =>
      rw [reload_of_refused assembly hgather]
      exact .silent rfl (.silent (List.prefix_refl _) rfl)
  | ok registry =>
      cases hdocument : registry.document assembly.coding with
      | error cause =>
          obtain ⟨log, hreload⟩ := reload_of_error assembly hgather hdocument
          rw [hreload]
          exact .silent rfl (.silent (List.prefix_refl _) rfl)
      | ok document =>
          obtain ⟨log, hreload⟩ := reload_of_ok assembly hgather hdocument
          rw [hreload]
          cases hchanged : assembly.changes document with
          | false =>
              exact .silent rfl
                (.silent (List.prefix_refl _) (fingerprint?_of_not_changes hchanged).symm)
          | true =>
              obtain ⟨keys, hready⟩ := ready_depth
                { assembly with registry := registry, document := some document, log := log }
              have hruns : Delivers (Runs keys _) assembly _ :=
                runs_notify (builds_within keys _) hready rfl rfl rfl
              exact hruns.episode

/-- One command is an episode. -/
theorem episode_perform (assembly : Assembly) (command : Command) :
    Delivers Episode assembly (assembly.perform command) := by
  cases command with
  | register entity =>
      obtain ⟨registry, log, heq⟩ := assembly.registered_eq entity
      rw [perform, heq]
      exact .silent rfl (.silent (List.prefix_refl _) rfl)
  | addSink sink => exact .silent rfl (.silent (List.prefix_append _ _) rfl)
  | build => exact episode_build assembly
  | reload source => exact episode_reload assembly source

theorem chained_episode : Chained (fun _ => True) Episode :=
  ⟨fun _ => .silent (List.prefix_refl _) rfl, Episode.trans, fun _ _ => trivial⟩

/-- What a sink is left with that was subscribed before the first document.  As
long as it has not been told of any there is none.  After that the document that
was kept when it was told last is the one that is kept now, up to text of the same
fingerprint; and what it was told of is that document, unless a sink in front of
it builds.  A sink that begins each call by noting the document notes just what it is
told; and files are what one makes of them that begins each call by saving the text,
so that the text it was told of last is read there, if it could be saved. -/
theorem last_delivery (before : Assembly) (commands : List Command) (place : Nat)
    (hunbuilt : before.document = none) (hplace : place < before.sinks.length) :
    let after := before.run commands
    ∃ deliveries, after.deliveries = before.deliveries ++ deliveries ∧
      let told := deliveriesTo place deliveries
      let texts := told.map fun delivery => delivery.document.text
      ((told = [] ∧ after.document = none) ∨
        ∃ last kept, told.getLast? = some last ∧ last.kept = some kept ∧
          after.fingerprint? = some kept.fingerprint ∧
          ((∀ sink ∈ before.sinks.take place, sink.Quiet) → last.document = kept)) ∧
      (∀ name, Records name place after.sinks →
        after.noted name = before.noted name ++ told.map Delivery.document) ∧
      ∀ path, Saves path place after.sinks → after.files = before.files.saveAll path texts ∧
        ∀ text ∈ texts.getLast?,
          ((before.files.saveAll path texts.dropLast).save path text).2 = none →
            after.files.read path = .ok (String.ofList (FileTree.unifyLines text.toList)) := by
  intro after
  obtain ⟨deliveries, htrace, hepisode⟩ : Delivers Episode before after :=
    chained_episode.run trivial fun command _ assembly _ => episode_perform assembly command
  refine ⟨deliveries, htrace, ?_⟩
  intro told texts
  refine ⟨?_, fun name hrecords => noted_run hrecords htrace, fun path hsaves => ?_⟩
  · have hsettled := hepisode.settled place hplace
    rcases hlast : told.getLast? with _ | last
    · refine .inl ⟨List.getLast?_eq_none_iff.mp hlast, ?_⟩
      rw [lastKept, hlast, hunbuilt] at hsettled
      exact Option.map_eq_none_iff.mp hsettled
    · obtain ⟨hmem, hat⟩ := List.mem_filter.mp (List.mem_of_getLast? hlast)
      obtain ⟨kept, hkept, hquiet⟩ := hepisode.prompt last hmem
      rw [of_decide_eq_true hat] at hquiet
      rw [lastKept, hlast] at hsettled
      refine .inr ⟨last, kept, rfl, hkept, ?_, fun hclear => (hquiet hplace hclear).symm⟩
      rw [hsettled, Option.map_some, Option.getD_some, hkept]
      rfl
  · have hfiles : after.files = before.files.saveAll path texts := files_run hsaves htrace
    refine ⟨hfiles, fun text hlast hsaved => ?_⟩
    rw [hfiles, ← List.dropLast_append_getLast? text hlast]
    exact FileTree.read_saveAll hsaved

/-- An assembly of one entity with a sink that registers a second one and builds, and
behind it one that notes what it is told and one that saves it. -/
def rebuilding : Assembly :=
  let note : Entity := ⟨.text "Note", .empty, [], [], .text "", by decide⟩
  let tag : Entity := ⟨.text "Tag", .empty, [], [], .text "", by decide⟩
  (((Assembly.empty.registerAll [note]).1.addSink (.always "first" [.extend tag])).addSink
    (.always "second" [.record "second"])).addSink (.file "schema.gql")

/-- The sinks behind one that builds are left with the older document, though there
is nothing more to build. -/
theorem last_delivery_rebuilding :
    let after := rebuilding.run [.build, .build]
    rebuilding.document = none ∧ 2 < rebuilding.sinks.length ∧
      Records "second" 1 after.sinks ∧ Saves ["schema.gql"] 2 after.sinks ∧
      ∃ last kept : Document, (after.noted "second").getLast? = some last ∧
        after.files.read ["schema.gql"] = .ok last.text ∧
        after.fingerprint? = some kept.fingerprint ∧
        last.entities = [.text "Note"] ∧ kept.entities = [.text "Note", .text "Tag"] ∧
        last.fingerprint ≠ kept.fingerprint := by
  intro after
  have hplace : 2 < rebuilding.sinks.length := by decide
  have hrecords : Records "second" 1 after.sinks := by decide +kernel
  have hsaves : Saves ["schema.gql"] 2 after.sinks := by decide +kernel
  have hseen : ((deliveriesTo 1 after.deliveries).getLast?.bind fun last =>
      last.kept.map fun kept => (last.document.entities, kept.entities,
        decide (last.document.fingerprint ≠ kept.fingerprint))) =
      some ([.text "Note"], [.text "Note", .text "Tag"], true) := by
    decide +kernel
  have hsaved : let texts := (deliveriesTo 2 after.deliveries).map fun told => told.document.text
      texts.getLast? = (after.noted "second").getLast?.map Document.text ∧
      ∀ text ∈ texts.getLast?, ((rebuilding.files.saveAll ["schema.gql"] texts.dropLast).save
          ["schema.gql"] text).2 = none ∧
        String.ofList (FileTree.unifyLines text.toList) = text := by
    decide +kernel
  refine ⟨rfl, hplace, hrecords, hsaves, ?_⟩
  obtain ⟨deliveries, htrace, hleft, hnoted, -⟩ :=
    last_delivery rebuilding [.build, .build] 1 rfl (Nat.lt_of_succ_lt hplace)
  obtain rfl : after.deliveries = deliveries := htrace
  obtain ⟨deliveries, htrace, -, -, hfiles⟩ :=
    last_delivery rebuilding [.build, .build] 2 rfl hplace
  obtain rfl : after.deliveries = deliveries := htrace
  have hlast := congrArg List.getLast? (hnoted "second" hrecords)
  obtain ⟨hnone, -⟩ | ⟨last, kept, htold, hkept, hcurrent, -⟩ := hleft
  · rw [hnone] at hseen
    exact absurd hseen.symm (Option.some_ne_none _)
  · rw [htold, Option.bind_some, hkept, Option.map_some, Option.some.injEq, Prod.mk.injEq,
      Prod.mk.injEq] at hseen
    have hnote : (after.noted "second").getLast? = some last.document := by
      have hnothing : rebuilding.noted "second" = [] := rfl
      rw [hnothing, List.nil_append, List.getLast?_map, htold] at hlast
      exact hlast
    rw [hnote] at hsaved
    obtain ⟨hwritten, hunified⟩ := hsaved.2 last.document.text hsaved.1
    have hread := (hfiles ["schema.gql"] hsaves).2 last.document.text hsaved.1 hwritten
    rw [hunified] at hread
    exact ⟨last.document, kept, hnote, hread, hcurrent, hseen.1, hseen.2.1,
      of_decide_eq_true hseen.2.2⟩

end Assembly
end Kanban
