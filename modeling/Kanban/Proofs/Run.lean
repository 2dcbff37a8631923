/-
Runs: states and the operations that lead from one to the next.  A condition that
holds along a run is asked of every operation at the state it finds.  A sequence of steps
that may fail gives a result as its steps do.
-/
namespace Kanban

universe u v

variable {S : Type u} {O : Type v} {step : S → O → S} {condition : S → O → Prop}

/-- Every operation of a run meets a condition at the state that it finds. -/
def Along (step : S → O → S) (condition : S → O → Prop) : S → List O → Prop
  | _, [] => True
  | state, op :: rest => condition state op ∧ Along step condition (step state op) rest

instance [∀ state op, Decidable (condition state op)] :
    (state : S) → (ops : List O) → Decidable (Along step condition state ops)
  | _, [] => inferInstanceAs (Decidable True)
  | state, op :: rest =>
      have := instDecidableAlong (step state op) rest
      inferInstanceAs (Decidable (_ ∧ _))

theorem along_append (state : S) (first second : List O) :
    Along step condition state (first ++ second) ↔
      Along step condition state first ∧
        Along step condition (first.foldl step state) second := by
  induction first generalizing state with
  | nil => simp [Along]
  | cons op rest ih => simp only [List.cons_append, Along, ih, List.foldl_cons, and_assoc]

theorem Along.imp {weaker : S → O → Prop}
    (himp : ∀ state op, condition state op → weaker state op) {state : S} {ops : List O}
    (halong : Along step condition state ops) : Along step weaker state ops := by
  induction ops generalizing state with
  | nil => trivial
  | cons op rest ih => exact ⟨himp state op halong.1, ih halong.2⟩

section

variable {inv : S → Prop}

/-- What every step preserves holds along the run. -/
theorem Along.of_invariant {other : S → O → Prop}
    (hstep : ∀ state op, inv state → condition state op → inv (step state op))
    (hholds : ∀ state op, inv state → condition state op → other state op)
    {state : S} {ops : List O} (halong : Along step condition state ops)
    (hstart : inv state) : Along step other state ops := by
  induction ops generalizing state with
  | nil => trivial
  | cons op rest ih =>
      obtain ⟨hop, halong⟩ := halong
      exact ⟨hholds state op hstart hop, ih halong (hstep state op hstart hop)⟩

/-- What every step preserves holds at the end of the run. -/
theorem Along.preserves
    (hstep : ∀ state op, inv state → condition state op → inv (step state op))
    {state : S} {ops : List O} (halong : Along step condition state ops)
    (hstart : inv state) : inv (ops.foldl step state) := by
  induction ops generalizing state with
  | nil => exact hstart
  | cons op rest ih =>
      obtain ⟨hop, halong⟩ := halong
      exact ih halong (hstep state op hstart hop)

/-- A view that every step carries over to a step of its own carries over runs. -/
theorem Along.simulates {T : Type v} {view : S → T} {next : T → O → T}
    (hstep : ∀ state op, inv state → condition state op → inv (step state op))
    (hview : ∀ state op, inv state → condition state op →
      view (step state op) = next (view state) op)
    {state : S} {ops : List O} (halong : Along step condition state ops)
    (hstart : inv state) : view (ops.foldl step state) = ops.foldl next (view state) := by
  induction ops generalizing state with
  | nil => rfl
  | cons op rest ih =>
      obtain ⟨hop, halong⟩ := halong
      rw [List.foldl_cons, ih halong (hstep state op hstart hop), hview state op hstart hop,
        List.foldl_cons]

end

/-- A sequence succeeds as its steps do. -/
theorem bind_eq_ok_iff {E A B : Type} {x : Except E A} {f : A → Except E B} {b : B} :
    x >>= f = .ok b ↔ ∃ a, x = .ok a ∧ f a = .ok b := by
  cases x with
  | error cause => simp [bind, Except.bind]
  | ok a => simp [bind, Except.bind]

/-- Results come of the elements. -/
theorem exists_mem_of_mapM {E A B : Type} {f : A → Except E B} {xs : List A} {ys : List B}
    (hmapM : xs.mapM f = .ok ys) : ∀ y ∈ ys, ∃ x ∈ xs, f x = .ok y := by
  induction xs generalizing ys with
  | nil =>
      obtain rfl : [] = ys := Except.ok.inj hmapM
      exact List.forall_mem_nil _
  | cons x rest ih =>
      rw [List.mapM_cons] at hmapM
      obtain ⟨y, hfirst, hmapM⟩ := bind_eq_ok_iff.mp hmapM
      obtain ⟨others, hothers, hresults⟩ := bind_eq_ok_iff.mp hmapM
      obtain rfl : y :: others = ys := Except.ok.inj hresults
      refine List.forall_mem_cons.mpr ⟨⟨x, List.mem_cons_self, hfirst⟩, ?_⟩
      intro z hz
      obtain ⟨found, hfound, hresult⟩ := ih hothers z hz
      exact ⟨found, List.mem_cons_of_mem x hfound, hresult⟩

/-- A step that fails nowhere. -/
theorem mapM_map_ok {A B C E : Type} {step : B → Except E C} {key : A → B} {result : A → C}
    (hstep : ∀ x, step (key x) = .ok (result x)) (xs : List A) :
    (xs.map key).mapM step = .ok (xs.map result) := by
  induction xs with
  | nil => rfl
  | cons x rest ih =>
      rw [List.map_cons, List.mapM_cons, hstep, ih]
      rfl

end Kanban
