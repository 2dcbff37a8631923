/-
What commands do to an assembly.  Calls of sinks are kept by the assembly itself, in
the order in which they are made: a sink that builds again is followed by the calls of
its own build before the next sink is told.  A sink is known by its place among the
sinks, which only grow.
-/
import Mathlib.Data.List.Basic
import Kanban.Registry.Assembly

namespace Kanban

namespace SinkAction

/-- Whether an action builds. -/
def builds : SinkAction → Bool
  | .build => true
  | .extend _ => true
  | _ => false

/-- What an action notes of a document. -/
def events (document : Document) : SinkAction → List SinkEvent
  | .record name => [.delivered name document]
  | .finish name => [.finished name]
  | _ => []

/-- What an action leaves in files. -/
def filed (document : Document) (files : FileTree) : SinkAction → FileTree
  | .save path => (files.save path document.text).1
  | _ => files

/-- The sinks that an action subscribes. -/
def subscribed : SinkAction → List Sink
  | .subscribe label calls => [⟨label, calls⟩]
  | _ => []

mutual

/-- The keys of the entities that an action may register, those of the sinks to be
subscribed among them. -/
def keys : SinkAction → List (Option Key)
  | .register entity => [entity.key?]
  | .extend entity => [entity.key?]
  | .subscribe _ calls => keysOf calls
  | _ => []

def keysAll : List SinkAction → List (Option Key)
  | [] => []
  | action :: rest => action.keys ++ keysAll rest

def keysOf : List (List SinkAction) → List (Option Key)
  | [] => []
  | actions :: rest => keysAll actions ++ keysOf rest

end

mutual

theorem length_keys : ∀ action : SinkAction, action.keys.length = action.extensions
  | .record _ => rfl
  | .fail _ => rfl
  | .subscribe _ calls => length_keysOf calls
  | .register _ => rfl
  | .build => rfl
  | .extend _ => rfl
  | .finish _ => rfl
  | .save _ => rfl

theorem length_keysAll : ∀ actions : List SinkAction,
    (keysAll actions).length = extensionsAll actions
  | [] => rfl
  | action :: rest => by
      rw [keysAll, extensionsAll, List.length_append, action.length_keys, length_keysAll rest]

theorem length_keysOf : ∀ calls : List (List SinkAction),
    (keysOf calls).length = extensionsOf calls
  | [] => rfl
  | actions :: rest => by
      rw [keysOf, extensionsOf, List.length_append, length_keysAll actions, length_keysOf rest]

end

theorem mem_keysAll {key : Option Key} {actions : List SinkAction} :
    key ∈ keysAll actions ↔ ∃ action ∈ actions, key ∈ action.keys := by
  induction actions with
  | nil => simp [keysAll]
  | cons action rest ih => rw [keysAll, List.mem_append, ih, List.exists_mem_cons_iff]

theorem mem_keysOf {key : Option Key} {calls : List (List SinkAction)} :
    key ∈ keysOf calls ↔ ∃ actions ∈ calls, ∃ action ∈ actions, key ∈ action.keys := by
  induction calls with
  | nil => simp [keysOf]
  | cons actions rest ih =>
      rw [keysOf, List.mem_append, ih, mem_keysAll, List.exists_mem_cons_iff]

theorem keysOf_of_subscribed {action : SinkAction} {sink : Sink}
    (hsink : sink ∈ action.subscribed) : keysOf sink.calls = action.keys := by
  cases action with
  | subscribe label calls =>
      obtain rfl := List.mem_singleton.mp hsink
      rfl
  | _ => exact absurd hsink List.not_mem_nil

end SinkAction

namespace Sink

theorem actions_mem {sink : Sink} (hcalls : sink.calls ≠ []) (before : Nat) :
    sink.actions before ∈ sink.calls := by
  rw [actions]
  cases hcall : sink.calls[before]? with
  | some actions => exact List.mem_of_getElem? hcall
  | none =>
      rw [Option.getD_none, List.getLast?_eq_some_getLast hcalls]
      exact List.getLast_mem hcalls

/-- What a sink does at a call is told among its calls. -/
theorem exists_call {sink : Sink} {before : Nat} {action : SinkAction}
    (haction : action ∈ sink.actions before) : ∃ actions ∈ sink.calls, action ∈ actions := by
  by_cases hcalls : sink.calls = []
  · rw [actions, hcalls] at haction
    exact absurd haction List.not_mem_nil
  · exact ⟨_, actions_mem hcalls before, haction⟩

end Sink

/-- What is asked of an assembly from outside its sinks. -/
inductive Command where
  | register (entity : Entity)
  | addSink (sink : Sink)
  | build
  | reload (source : List (Except EntityError Entity))

namespace Assembly

/-- The fingerprint of the document that is kept. -/
def fingerprint? (assembly : Assembly) : Option String :=
  assembly.document.map Document.fingerprint

/-- The document of the entities that are registered. -/
def rendered (assembly : Assembly) : Except DocumentError Document :=
  assembly.registry.document assembly.coding

/-- The assembly after a command. -/
def perform (assembly : Assembly) : Command → Assembly
  | .register entity => (assembly.registerAll [entity]).1
  | .addSink sink => assembly.addSink sink
  | .build => assembly.build.1
  | .reload source => (assembly.reload source).1

def run (assembly : Assembly) (commands : List Command) : Assembly :=
  commands.foldl perform assembly

/-- The document that a command returns. -/
def answer (assembly : Assembly) : Command → Option Document
  | .build => assembly.build.2.toOption
  | .reload source => (assembly.reload source).2.toOption
  | _ => none

variable {assembly before middle after : Assembly} {document : Document}

theorem deliveriesTo_append (place : Nat) (first second : List Delivery) :
    deliveriesTo place (first ++ second) =
      deliveriesTo place first ++ deliveriesTo place second :=
  List.filter_append ..

theorem changes_iff : assembly.changes document = true ↔
    assembly.fingerprint? ≠ some document.fingerprint := by
  rw [changes, fingerprint?]
  cases assembly.document with
  | none => simp
  | some previous => simp

theorem fingerprint?_of_not_changes (hsame : assembly.changes document = false) :
    assembly.fingerprint? = some document.fingerprint := by
  by_contra hne
  rw [changes_iff.mpr hne] at hsame
  exact Bool.false_ne_true hsame.symm

theorem foldl_extensions (sinks : List Sink) (count : Nat) :
    sinks.foldl (fun count sink => count + SinkAction.extensionsOf sink.calls) count =
      (sinks.flatMap fun sink => SinkAction.keysOf sink.calls).length + count := by
  induction sinks generalizing count with
  | nil => rw [List.foldl_nil, List.flatMap_nil, List.length_nil, Nat.zero_add]
  | cons sink rest ih =>
      rw [List.foldl_cons, ih, List.flatMap_cons, List.length_append, SinkAction.length_keysOf]
      omega

/-- Builds may nest once for every registering action, and one is there to start
with. -/
theorem depth_eq (assembly : Assembly) : assembly.depth =
    (assembly.sinks.flatMap fun sink => SinkAction.keysOf sink.calls).length + 1 :=
  foldl_extensions assembly.sinks 1

/-- Warnings go to the log alone. -/
theorem warnOmissions_eq (assembly : Assembly) :
    ∃ log, assembly.warnOmissions = { assembly with log := log } := by
  rw [warnOmissions]
  generalize assembly.registry.omissions = omissions
  induction omissions generalizing assembly with
  | nil => exact ⟨assembly.log, rfl⟩
  | cons omission rest ih =>
      obtain ⟨log, hlog⟩ := ih (assembly.note .warning _)
      exact ⟨log, hlog⟩

theorem compile_of_error {cause : DocumentError} (hrendered : assembly.rendered = .error cause) :
    ∃ log, assembly.compile = ({ assembly with log := log }, .error cause) := by
  obtain ⟨log, hlog⟩ := assembly.warnOmissions_eq
  rw [rendered] at hrendered
  exact ⟨log, by simp only [compile, hrendered, hlog]⟩

/-- Compiling keeps the document; besides it only writes to the log. -/
theorem compile_of_ok (hrendered : assembly.rendered = .ok document) :
    ∃ log, assembly.compile =
      ({ assembly with document := some document, log := log },
        .ok (document, assembly.changes document)) := by
  obtain ⟨log, hlog⟩ := assembly.warnOmissions_eq
  rw [rendered] at hrendered
  simp only [compile, hrendered, hlog]
  split
  · exact ⟨_, rfl⟩
  · exact ⟨log, rfl⟩

/-- An entity is registered, or its name is taken or no key; besides that only the log
is written to. -/
theorem registerAll_one (assembly : Assembly) (entity : Entity) :
    (assembly.registerAll [entity]).1 = assembly ∨
      entity.key? ∉ assembly.registry.keys ∧ ∃ registry log,
        (assembly.registerAll [entity]).1 =
          { assembly with registry := registry, log := log } ∧
        registry.entities = assembly.registry.entities ++ [entity] := by
  cases hregister : assembly.registry.register entity with
  | error cause =>
      left
      rw [registerAll, register, hregister]
      rfl
  | ok registry =>
      obtain ⟨-, hfree, hentities⟩ := Registry.register_eq_ok hregister
      refine .inr ⟨hfree, ?_⟩
      rw [registerAll, register, hregister]
      exact ⟨registry, _, rfl, hentities⟩

theorem registered_eq (assembly : Assembly) (entity : Entity) : ∃ registry log,
    (assembly.registerAll [entity]).1 = { assembly with registry := registry, log := log } := by
  obtain heq | ⟨-, registry, log, heq, -⟩ := assembly.registerAll_one entity
  · exact ⟨assembly.registry, assembly.log, heq⟩
  · exact ⟨registry, log, heq⟩

/-- What an action does to an assembly by itself, short of building.  At most it
registers an entity, and the document stays. -/
structure Affects (document : Document) (action : SinkAction) (before after : Assembly) :
    Prop where
  coding : after.coding = before.coding
  kept : after.document = before.document
  deliveries : after.deliveries = before.deliveries
  sinks : after.sinks = before.sinks ++ action.subscribed
  events : after.events = before.events ++ action.events document
  files : after.files = action.filed document before.files
  registry : after.registry = before.registry ∨
    ∃ key ∈ action.keys, key ∉ before.registry.keys ∧
      after.registry.keys = before.registry.keys ++ [key]

theorem affects_registered (document : Document) (assembly : Assembly) {action : SinkAction}
    {entity : Entity} (haction : action = .register entity ∨ action = .extend entity) :
    Affects document action assembly (assembly.registerAll [entity]).1 := by
  obtain ⟨hsubscribed, hevents, hfiled, hkeys⟩ : action.subscribed = [] ∧
      action.events document = [] ∧ action.filed document assembly.files = assembly.files ∧
      entity.key? ∈ action.keys := by
    rcases haction with rfl | rfl
    · exact ⟨rfl, rfl, rfl, List.mem_singleton_self _⟩
    · exact ⟨rfl, rfl, rfl, List.mem_singleton_self _⟩
  obtain heq | ⟨hfree, registry, log, heq, hentities⟩ := assembly.registerAll_one entity
  · rw [heq]
    exact ⟨rfl, rfl, rfl, by rw [hsubscribed, List.append_nil], by rw [hevents, List.append_nil],
      hfiled.symm, .inl rfl⟩
  · rw [heq]
    refine ⟨rfl, rfl, rfl, by rw [hsubscribed, List.append_nil],
      by rw [hevents, List.append_nil], hfiled.symm, .inr ⟨entity.key?, hkeys, hfree, ?_⟩⟩
    rw [Registry.keys, hentities, List.map_append]
    rfl

/-- What a sink's action does to an assembly by itself, short of building. -/
def effect (document : Document) (assembly : Assembly) : SinkAction → Assembly
  | .record name => assembly.emit (.delivered name document)
  | .subscribe label calls => assembly.addSink ⟨label, calls⟩
  | .register entity => (assembly.registerAll [entity]).1
  | .extend entity => (assembly.registerAll [entity]).1
  | .finish name => assembly.emit (.finished name)
  | .save path =>
      { assembly.note .info ("Generated schema:\n\n" ++ document.text) with
        files := (assembly.files.save path document.text).1 }
  | .fail _ => assembly
  | .build => assembly

theorem affects_effect (document : Document) (assembly : Assembly) (action : SinkAction) :
    Affects document action assembly (assembly.effect document action) := by
  have hsame {α : Type} (items : List α) : items = items ++ [] := (List.append_nil items).symm
  cases action with
  | record name => exact ⟨rfl, rfl, rfl, hsame _, rfl, rfl, .inl rfl⟩
  | fail message => exact ⟨rfl, rfl, rfl, hsame _, hsame _, rfl, .inl rfl⟩
  | subscribe label calls => exact ⟨rfl, rfl, rfl, rfl, hsame _, rfl, .inl rfl⟩
  | finish name => exact ⟨rfl, rfl, rfl, hsame _, rfl, rfl, .inl rfl⟩
  | save path => exact ⟨rfl, rfl, rfl, hsame _, hsame _, rfl, .inl rfl⟩
  | build => exact ⟨rfl, rfl, rfl, hsame _, hsame _, rfl, .inl rfl⟩
  | register entity => exact affects_registered document assembly (.inl rfl)
  | extend entity => exact affects_registered document assembly (.inr rfl)

/-- An action leaves its effect, or it builds what its effect left. -/
theorem runAction_cases (rebuild : Rebuild) (document : Document) (assembly : Assembly)
    (action : SinkAction) :
    (assembly.runAction rebuild document action).1 = assembly.effect document action ∨
      (action.builds ∧ (assembly.runAction rebuild document action).1 =
        (rebuild (assembly.effect document action)).1) := by
  cases action with
  | record name => exact .inl rfl
  | fail message => exact .inl rfl
  | subscribe label calls => exact .inl rfl
  | finish name => exact .inl rfl
  | save path => exact .inl rfl
  | register entity =>
      left
      rw [runAction, effect, registerAll]
      cases assembly.register entity with
      | error cause => rfl
      | ok extended => rfl
  | build =>
      refine .inr ⟨rfl, ?_⟩
      rw [runAction, effect]
      split
      · next hbuild => rw [hbuild]
      · next hbuild => rw [hbuild]
  | extend entity =>
      rw [runAction, effect, registerAll]
      cases assembly.register entity with
      | error cause =>
          left
          cases cause with
          | duplicate name => rfl
          | notKey name => rfl
      | ok extended =>
          refine .inr ⟨rfl, ?_⟩
          dsimp only [registerAll]
          split
          · next hbuild => rw [hbuild]
          · next hbuild => rw [hbuild]

/-- Telling a sink is calling it and writing to the log if it fails. -/
theorem tell_eq (rebuild : Rebuild) (document : Document) (place : Nat) (sink : Sink)
    (assembly : Assembly) :
    ∃ count log, assembly.tell rebuild document place sink =
      { ((assembly.call document place).runActions rebuild document (sink.actions count)).1 with
        log := log } := by
  rw [tell]
  split
  · next hrun => exact ⟨_, _, by rw [hrun]⟩
  · next hrun => exact ⟨_, _, by rw [hrun]; rfl⟩

/-- A build without a document leaves the one before. -/
theorem build_of_error {cause : DocumentError} (depth : Nat)
    (hrendered : assembly.rendered = .error cause) :
    ∃ log, buildWithin depth assembly = ({ assembly with log := log }, .error cause) := by
  obtain ⟨log, hcompile⟩ := compile_of_error hrendered
  exact ⟨log, by simp only [buildWithin.eq_def depth, hcompile]⟩

/-- A build that changes nothing, or that has none to spare, tells nobody. -/
theorem build_of_silent (depth : Nat) (hrendered : assembly.rendered = .ok document)
    (hsilent : depth = 0 ∨ assembly.changes document = false) :
    ∃ log, buildWithin depth assembly =
      ({ assembly with document := some document, log := log }, .ok document) := by
  obtain ⟨log, hcompile⟩ := compile_of_ok hrendered
  refine ⟨log, ?_⟩
  rcases hsilent with rfl | hsame
  · simp only [buildWithin, hcompile]
  · simp only [buildWithin.eq_def depth, hcompile, hsame]

/-- A build with a changed document tells the sinks, which may build one less
deep. -/
theorem build_of_changed (depth : Nat) (hrendered : assembly.rendered = .ok document)
    (hchanged : assembly.changes document = true) :
    ∃ log, buildWithin (depth + 1) assembly =
      ({ assembly with document := some document, log := log }.notify (buildWithin depth) document,
        .ok document) := by
  obtain ⟨log, hcompile⟩ := compile_of_ok hrendered
  exact ⟨log, by simp only [buildWithin, hcompile, hchanged]⟩

/-- A build is silent, or it tells the sinks.  What it answers is up to the entities
alone. -/
theorem buildWithin_cases (depth : Nat) (assembly : Assembly) :
    ∃ kept log, let next := { assembly with document := kept, log := log }
      buildWithin depth assembly = (next, assembly.rendered) ∨
        ∃ inner document, depth = inner + 1 ∧ buildWithin depth assembly =
          (next.notify (buildWithin inner) document, assembly.rendered) := by
  cases hrendered : assembly.rendered with
  | error cause =>
      obtain ⟨log, hbuild⟩ := build_of_error depth hrendered
      exact ⟨assembly.document, log, .inl hbuild⟩
  | ok document =>
      by_cases hquiet : depth = 0 ∨ assembly.changes document = false
      · obtain ⟨log, hbuild⟩ := build_of_silent depth hrendered hquiet
        exact ⟨some document, log, .inl hbuild⟩
      · rw [not_or, Bool.not_eq_false] at hquiet
        obtain ⟨inner, rfl⟩ := Nat.exists_eq_add_one_of_ne_zero hquiet.1
        obtain ⟨log, hbuild⟩ := build_of_changed inner hrendered hquiet.2
        exact ⟨some document, log, .inr ⟨inner, document, rfl, hbuild⟩⟩

theorem buildWithin_answer (depth : Nat) (assembly : Assembly) :
    (buildWithin depth assembly).2 = assembly.rendered := by
  obtain ⟨kept, log, hbuild | ⟨inner, document, -, hbuild⟩⟩ := buildWithin_cases depth assembly
  · rw [hbuild]
  · rw [hbuild]

variable {source : List (Except EntityError Entity)} {registry : Registry}

theorem reload_of_refused (assembly : Assembly) {cause : ReloadError}
    (hgather : gather .empty source = .error cause) :
    assembly.reload source = (assembly, .error cause) := by
  simp only [reload, hgather]

theorem reload_of_error (assembly : Assembly) {cause : DocumentError}
    (hgather : gather .empty source = .ok registry)
    (hdocument : registry.document assembly.coding = .error cause) :
    ∃ log, assembly.reload source =
      ({ assembly with registry := registry, log := log }, .error (.unrendered cause)) := by
  have hrendered : { assembly with registry := registry }.rendered = .error cause := hdocument
  obtain ⟨log, hcompile⟩ := compile_of_error hrendered
  exact ⟨log, by simp only [reload, hgather, hcompile]⟩

/-- How a reload ends that goes through: like a build of the new registry. -/
theorem reload_of_ok (assembly : Assembly) (hgather : gather .empty source = .ok registry)
    (hdocument : registry.document assembly.coding = .ok document) :
    ∃ log, let told :=
        { assembly with registry := registry, document := some document, log := log }
      assembly.reload source =
        (if assembly.changes document then told.notify (buildWithin told.depth) document
          else told, .ok document) := by
  have hrendered : { assembly with registry := registry }.rendered = .ok document := hdocument
  obtain ⟨log, hcompile⟩ := compile_of_ok hrendered
  have hchanges : { assembly with registry := registry }.changes document =
      assembly.changes document := rfl
  simp only [reload, hgather, hcompile, hchanges]
  cases assembly.changes document with
  | false => exact ⟨_, rfl⟩
  | true => exact ⟨_, rfl⟩

/-- What a command does that subscribes no sink.  It has no document to return, or it
returns one that does not change what was kept, or it tells the sinks of the change. -/
theorem perform_cases (assembly : Assembly) {command : Command}
    (hcommand : ∀ sink, command ≠ .addSink sink) :
    ∃ registry log, assembly.answer command = none ∧
        assembly.perform command = { assembly with registry := registry, log := log } ∨
      ∃ document, assembly.answer command = some document ∧
        let told :=
          { assembly with registry := registry, document := some document, log := log }
        (assembly.changes document = false ∧ assembly.perform command = told ∨
          assembly.changes document = true ∧
            ∃ depth, assembly.perform command = told.notify (buildWithin depth) document) := by
  cases command with
  | register entity =>
      obtain ⟨registry, log, heq⟩ := assembly.registered_eq entity
      exact ⟨registry, log, .inl ⟨rfl, heq⟩⟩
  | addSink sink => exact absurd rfl (hcommand sink)
  | build =>
      refine ⟨assembly.registry, ?_⟩
      have hanswer : assembly.answer .build = assembly.rendered.toOption :=
        congrArg Except.toOption (buildWithin_answer assembly.depth assembly)
      cases hrendered : assembly.rendered with
      | error cause =>
          obtain ⟨log, hbuild⟩ := build_of_error assembly.depth hrendered
          rw [hrendered] at hanswer
          exact ⟨log, .inl ⟨hanswer, congrArg Prod.fst hbuild⟩⟩
      | ok document =>
          rw [hrendered] at hanswer
          cases hchanged : assembly.changes document with
          | false =>
              obtain ⟨log, hbuild⟩ := build_of_silent assembly.depth hrendered (.inr hchanged)
              exact ⟨log, .inr ⟨document, hanswer, .inl ⟨hchanged, congrArg Prod.fst hbuild⟩⟩⟩
          | true =>
              obtain ⟨log, hbuild⟩ := build_of_changed _ hrendered hchanged
              rw [← assembly.depth_eq] at hbuild
              exact ⟨log, .inr ⟨document, hanswer,
                .inr ⟨hchanged, _, congrArg Prod.fst hbuild⟩⟩⟩
  | reload source =>
      cases hgather : gather .empty source with
      | error cause =>
          have hreload := reload_of_refused assembly hgather
          have hanswer : assembly.answer (.reload source) = none :=
            congrArg (fun result => result.2.toOption) hreload
          exact ⟨assembly.registry, assembly.log, .inl ⟨hanswer, congrArg Prod.fst hreload⟩⟩
      | ok registry =>
          refine ⟨registry, ?_⟩
          cases hdocument : registry.document assembly.coding with
          | error cause =>
              obtain ⟨log, hreload⟩ := reload_of_error assembly hgather hdocument
              have hanswer : assembly.answer (.reload source) = none :=
                congrArg (fun result => result.2.toOption) hreload
              exact ⟨log, .inl ⟨hanswer, congrArg Prod.fst hreload⟩⟩
          | ok document =>
              obtain ⟨log, hreload⟩ := reload_of_ok assembly hgather hdocument
              have hanswer : assembly.answer (.reload source) = some document :=
                congrArg (fun result => result.2.toOption) hreload
              have hperform := congrArg Prod.fst hreload
              refine ⟨log, .inr ⟨document, hanswer, ?_⟩⟩
              cases hchanged : assembly.changes document with
              | false =>
                  rw [hchanged] at hperform
                  exact .inl ⟨rfl, hperform⟩
              | true =>
                  rw [hchanged] at hperform
                  exact .inr ⟨rfl, _, hperform⟩

/-- Where sinks are told in turn that stand from a place on, the first stands there
and the others behind it. -/
theorem told_first {sink : Sink} {rest sinks : List Sink} {place : Nat}
    (hrest : sink :: rest <+: sinks.drop place) :
    sinks[place]? = some sink ∧ rest <+: sinks.drop (place + 1) := by
  obtain ⟨tail, htail⟩ := hrest
  constructor
  · rw [← Nat.add_zero place, ← List.getElem?_drop, ← htail]
    rfl
  · refine ⟨tail, ?_⟩
    rw [← List.drop_drop, ← htail]
    rfl

/-- A relation holds from one assembly to another for the deliveries on the way. -/
def Delivers (relation : Assembly → List Delivery → Assembly → Prop)
    (before after : Assembly) : Prop :=
  ∃ deliveries, after.deliveries = before.deliveries ++ deliveries ∧
    relation before deliveries after

/-- From one assembly to another no sink is called. -/
theorem Delivers.silent {relation : Assembly → List Delivery → Assembly → Prop}
    (hdeliveries : after.deliveries = before.deliveries) (hrelation : relation before [] after) :
    Delivers relation before after :=
  ⟨[], by rw [hdeliveries, List.append_nil], hrelation⟩

/-- A relation between assemblies, with the deliveries from one to the other, that
composes and passes a condition on. -/
structure Chained (condition : Assembly → Prop)
    (relation : Assembly → List Delivery → Assembly → Prop) : Prop where
  refl : ∀ {assembly}, condition assembly → relation assembly [] assembly
  trans : ∀ {before middle after first second}, relation before first middle →
    relation middle second after → relation before (first ++ second) after
  keeps : ∀ {before deliveries after}, condition before → relation before deliveries after →
    condition after

namespace Chained

variable {condition : Assembly → Prop} {relation : Assembly → List Delivery → Assembly → Prop}

theorem stay (hchained : Chained condition relation) (hassembly : condition assembly) :
    Delivers relation assembly assembly :=
  .silent rfl (hchained.refl hassembly)

theorem arrives (hchained : Chained condition relation) (hbefore : condition before)
    (hdelivers : Delivers relation before after) : condition after := by
  obtain ⟨deliveries, -, hrelation⟩ := hdelivers
  exact hchained.keeps hbefore hrelation

theorem both (hchained : Chained condition relation) (hfirst : Delivers relation before middle)
    (hsecond : Delivers relation middle after) : Delivers relation before after := by
  obtain ⟨first, hbefore, hfirst⟩ := hfirst
  obtain ⟨second, hafter, hsecond⟩ := hsecond
  exact ⟨first ++ second, by rw [hafter, hbefore, List.append_assoc],
    hchained.trans hfirst hsecond⟩

/-- What holds along each action of a sink holds along all of them. -/
theorem actions (hchained : Chained condition relation) (rebuild : Rebuild)
    {actions : List SinkAction} (hassembly : condition assembly)
    (haction : ∀ action ∈ actions, ∀ assembly : Assembly, condition assembly →
      Delivers relation assembly (assembly.runAction rebuild document action).1) :
    Delivers relation assembly (assembly.runActions rebuild document actions).1 := by
  induction actions generalizing assembly with
  | nil => exact hchained.stay hassembly
  | cons action rest ih =>
      have hfirst := haction action List.mem_cons_self assembly hassembly
      rcases hrun : assembly.runAction rebuild document action with ⟨next, _ | message⟩
      · simp only [hrun, runActions] at hfirst ⊢
        exact hchained.both hfirst (ih (hchained.arrives hassembly hfirst) fun other hother =>
          haction other (List.mem_cons_of_mem _ hother))
      · simp only [hrun, runActions] at hfirst ⊢
        exact hfirst

/-- What holds along each command holds along a run. -/
theorem run (hchained : Chained condition relation) {commands : List Command}
    (hassembly : condition assembly)
    (hcommand : ∀ command ∈ commands, ∀ assembly : Assembly, condition assembly →
      Delivers relation assembly (assembly.perform command)) :
    Delivers relation assembly (assembly.run commands) := by
  induction commands generalizing assembly with
  | nil => exact hchained.stay hassembly
  | cons command rest ih =>
      have hfirst := hcommand command List.mem_cons_self assembly hassembly
      exact hchained.both hfirst (ih (hchained.arrives hassembly hfirst) fun other hother =>
        hcommand other (List.mem_cons_of_mem _ hother))

end Chained

end Assembly
end Kanban
