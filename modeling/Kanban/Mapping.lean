/-
Maps in insertion order.  A key set again keeps its first place and takes the
new value.
-/

namespace Kanban

universe u

/-- Keys with their values, in the order in which the keys were first set.  The
keys are texts unless another type is named. -/
abbrev Mapping (A : Type u) (K : Type := String) := List (K × A)

variable {A : Type u} {K : Type}

def Mapping.keys (entries : Mapping A K) : List K :=
  entries.map Prod.fst

variable [DecidableEq K]

/-- The value of a key. -/
def Mapping.get? (key : K) : Mapping A K → Option A
  | [] => none
  | entry :: rest => if entry.1 = key then some entry.2 else Mapping.get? key rest

/-- Set a key, in place if it is there and at the end if it is new. -/
def Mapping.set (key : K) (value : A) : Mapping A K → Mapping A K
  | [] => [(key, value)]
  | entry :: rest =>
      if entry.1 = key then (key, value) :: rest
      else entry :: Mapping.set key value rest

/-- Set every pair in turn. -/
def Mapping.setAll (entries updates : Mapping A K) : Mapping A K :=
  updates.foldl (fun result entry => Mapping.set entry.1 entry.2 result) entries

/-- The map that pairs make when they are set one after the other. -/
def Mapping.ofPairs (pairs : Mapping A K) : Mapping A K :=
  Mapping.setAll [] pairs

theorem Mapping.get?_set_self (key : K) (value : A) (entries : Mapping A K) :
    Mapping.get? key (Mapping.set key value entries) = some value := by
  induction entries with
  | nil => simp [Mapping.set, Mapping.get?]
  | cons entry rest ih =>
      by_cases hkey : entry.1 = key
      · simp [Mapping.set, Mapping.get?, hkey]
      · simp [Mapping.set, Mapping.get?, hkey, ih]

theorem Mapping.get?_set_of_ne {key other : K} (hne : other ≠ key) (value : A)
    (entries : Mapping A K) :
    Mapping.get? other (Mapping.set key value entries) = Mapping.get? other entries := by
  induction entries with
  | nil => simp [Mapping.set, Mapping.get?, hne.symm]
  | cons entry rest ih =>
      by_cases hkey : entry.1 = key
      · have hother : ¬ entry.1 = other := fun h => hne (h.symm.trans hkey)
        simp [Mapping.set, Mapping.get?, hkey, hne.symm]
      · simp [Mapping.set, Mapping.get?, hkey, ih]

theorem Mapping.get?_eq_none_iff {key : K} {entries : Mapping A K} :
    Mapping.get? key entries = none ↔ key ∉ entries.keys := by
  induction entries with
  | nil => simp [Mapping.get?, Mapping.keys]
  | cons entry rest ih =>
      simp only [Mapping.keys] at ih
      by_cases hkey : entry.1 = key
      · simp [Mapping.get?, Mapping.keys, hkey]
      · simp [Mapping.get?, Mapping.keys, hkey, ih, Ne.symm hkey]

theorem Mapping.mem_of_get?_eq_some {key : K} {value : A}
    {entries : Mapping A K} (hget : Mapping.get? key entries = some value) :
    (key, value) ∈ entries := by
  induction entries with
  | nil => simp [Mapping.get?] at hget
  | cons entry rest ih =>
      by_cases hkey : entry.1 = key
      · simp only [Mapping.get?, hkey, ↓reduceIte, Option.some.injEq] at hget
        exact List.mem_cons.mpr (Or.inl (by rw [← hkey, ← hget]))
      · simp only [Mapping.get?, hkey, ↓reduceIte] at hget
        exact List.mem_cons_of_mem entry (ih hget)

theorem Mapping.keys_set (key : K) (value : A) (entries : Mapping A K) :
    Mapping.keys (Mapping.set key value entries) =
      if key ∈ Mapping.keys entries then Mapping.keys entries
      else Mapping.keys entries ++ [key] := by
  induction entries with
  | nil => simp [Mapping.set, Mapping.keys]
  | cons entry rest ih =>
      by_cases hkey : entry.1 = key
      · simp [Mapping.set, Mapping.keys, hkey]
      · have hne : ¬ key = entry.1 := fun h => hkey h.symm
        simp only [Mapping.keys] at ih
        simp only [Mapping.set, Mapping.keys, hkey, hne, ↓reduceIte, List.map_cons,
          List.mem_cons, false_or, ih]
        split <;> simp_all

/-- A new key goes to the end. -/
theorem Mapping.set_of_not_mem {key : K} {entries : Mapping A K} (hnew : key ∉ entries.keys)
    (value : A) : Mapping.set key value entries = entries ++ [(key, value)] := by
  induction entries with
  | nil => rfl
  | cons entry rest ih =>
      obtain ⟨hkey, hrest⟩ := not_or.mp (mt List.mem_cons.mpr hnew)
      rw [Mapping.set, if_neg (Ne.symm hkey), ih hrest, List.cons_append]

/-- Setting new keys in turn adds them at the end. -/
theorem Mapping.setAll_of_nodup {entries updates : Mapping A K}
    (hnodup : (Mapping.keys (entries ++ updates)).Nodup) :
    Mapping.setAll entries updates = entries ++ updates := by
  induction updates generalizing entries with
  | nil => rw [List.append_nil]; rfl
  | cons entry rest ih =>
      have hsplit : entries ++ entry :: rest = entries ++ [entry] ++ rest := by simp
      have hnew : entry.1 ∉ entries.keys := by
        intro hmem
        unfold Mapping.keys at hnodup hmem
        rw [List.map_append, List.map_cons] at hnodup
        exact (List.nodup_append.mp hnodup).2.2 entry.1 hmem entry.1 List.mem_cons_self rfl
      have hstep : Mapping.setAll entries (entry :: rest) =
          Mapping.setAll (Mapping.set entry.1 entry.2 entries) rest :=
        rfl
      rw [hsplit] at hnodup
      rw [hstep, Mapping.set_of_not_mem hnew, ih hnodup, hsplit]

theorem Mapping.ofPairs_of_nodup {entries : Mapping A K} (hnodup : entries.keys.Nodup) :
    Mapping.ofPairs entries = entries :=
  Mapping.setAll_of_nodup hnodup

end Kanban
