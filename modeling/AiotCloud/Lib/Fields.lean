import Mathlib.Data.List.Nodup
import Mathlib.Data.List.Induction

/-!
# Objects as lists of fields

An object is the list of its fields in the order they were first assigned. Assigning a
key again replaces the value in its place.

1. `lookup_assign`, `lookup_build`: the last assignment of a key is the one that is read.
2. `build_of_nodup`: distinct keys are assigned as they stand.
3. `fixed_of_mem_keys_rename`, `rename_of_fixed`: after the keys are rewritten, a key is still
   found only if rewriting leaves it, and everything stays if it leaves all of them.
-/

namespace Fields

variable {κ α : Type} [DecidableEq κ] {k key : κ} {v value : α} {fields : List (κ × α)}

/-- The keys of an object. -/
def keys (fields : List (κ × α)) : List κ := fields.map (·.1)

/-- `fields[key] = value`. -/
def assign (key : κ) (value : α) : List (κ × α) → List (κ × α)
  | [] => [(key, value)]
  | (k, v) :: fields =>
    if k = key then (key, value) :: fields else (k, v) :: assign key value fields

/-- The object after the assignments in order. -/
def build (pairs : List (κ × α)) : List (κ × α) :=
  pairs.foldl (fun fields p => assign p.1 p.2 fields) []

/-- The object with every key rewritten. -/
def rename (f : κ → κ) (fields : List (κ × α)) : List (κ × α) :=
  build (fields.map fun p => (f p.1, p.2))

theorem lookup_cons (k' : κ) (v' : α) :
    ((k', v') :: fields).lookup k = if k = k' then some v' else fields.lookup k := by
  rw [List.lookup_cons]
  rcases eq_or_ne k k' with rfl | hne
  · simp
  · have differ : (k == k') = false := by simpa using hne
    rw [differ, if_neg hne]

theorem lookup_assign :
    (assign key value fields).lookup k = if k = key then some value else fields.lookup k := by
  induction fields with
  | nil => exact lookup_cons key value
  | cons p fields ih =>
    obtain ⟨k', v'⟩ := p
    unfold assign
    rcases eq_or_ne k' key with rfl | hne
    · rw [if_pos rfl, lookup_cons, lookup_cons]
      split_ifs <;> rfl
    · rw [if_neg hne, lookup_cons, ih, lookup_cons]
      rcases eq_or_ne k k' with rfl | hk
      · rw [if_pos rfl, if_neg hne, if_pos rfl]
      · rw [if_neg hk, if_neg hk]

theorem lookup_build (pairs : List (κ × α)) : (build pairs).lookup k = pairs.reverse.lookup k := by
  unfold build
  induction pairs using List.reverseRecOn with
  | nil => rfl
  | append_singleton pairs p ih =>
    rw [List.foldl_append, List.foldl_cons, List.foldl_nil, lookup_assign, ih, List.reverse_append,
      List.reverse_singleton, List.singleton_append, lookup_cons]

omit [DecidableEq κ] in
theorem mem_keys_iff : k ∈ keys fields ↔ ∃ v, (k, v) ∈ fields := by simp [keys]

theorem lookup_eq_none_iff : fields.lookup k = none ↔ k ∉ keys fields := by
  induction fields with
  | nil => simp [keys]
  | cons p fields ih =>
    obtain ⟨k', v'⟩ := p
    rw [lookup_cons]
    rcases eq_or_ne k k' with rfl | hne
    · simp [keys]
    · simpa [keys, hne] using ih

theorem mem_of_lookup (h : fields.lookup k = some v) : (k, v) ∈ fields := by
  induction fields with
  | nil => cases h
  | cons p fields ih =>
    obtain ⟨k', v'⟩ := p
    rw [lookup_cons] at h
    split_ifs at h with same
    · rw [same, Option.some.inj h]
      exact List.mem_cons_self
    · exact List.mem_cons_of_mem _ (ih h)

theorem mem_keys_of_lookup (h : fields.lookup k = some v) : k ∈ keys fields :=
  mem_keys_iff.mpr ⟨v, mem_of_lookup h⟩

/-- With distinct keys, the fields are what is looked up. -/
theorem lookup_eq_some_iff (nodup : (keys fields).Nodup) :
    fields.lookup k = some v ↔ (k, v) ∈ fields := by
  induction fields with
  | nil => simp
  | cons p fields ih =>
    obtain ⟨k', v'⟩ := p
    obtain ⟨fresh, rest⟩ := List.nodup_cons.mp nodup
    rw [lookup_cons]
    rcases eq_or_ne k k' with rfl | hk
    · have absent : (k, v) ∉ fields := fun h => fresh (mem_keys_iff.mpr ⟨v, h⟩)
      simp [absent, eq_comm]
    · simp [hk, ih rest]

theorem assign_of_notMem (h : key ∉ keys fields) :
    assign key value fields = fields ++ [(key, value)] := by
  induction fields with
  | nil => rfl
  | cons p fields ih =>
    simp only [keys, List.map_cons, List.mem_cons, not_or] at h
    unfold assign
    rw [if_neg (Ne.symm h.1), ih h.2, List.cons_append]

theorem build_of_nodup {pairs : List (κ × α)} (nodup : (keys pairs).Nodup) :
    build pairs = pairs := by
  unfold build
  induction pairs using List.reverseRecOn with
  | nil => rfl
  | append_singleton pairs p ih =>
    unfold keys at nodup
    rw [List.map_append, List.nodup_append] at nodup
    obtain ⟨earlier, -, apart⟩ := nodup
    rw [List.foldl_append, ih earlier, List.foldl_cons, List.foldl_nil]
    exact assign_of_notMem fun h => apart _ h _ (by simp) rfl

theorem mem_keys_build {pairs : List (κ × α)} : k ∈ keys (build pairs) ↔ k ∈ keys pairs := by
  rw [← not_iff_not, ← lookup_eq_none_iff, lookup_build, lookup_eq_none_iff]
  simp [keys]

/-- A key that is found after rewriting is a rewritten one, so rewriting leaves it. -/
theorem fixed_of_mem_keys_rename {f : κ → κ} (idempotent : ∀ k, f (f k) = f k)
    (h : k ∈ keys (rename f fields)) : f k = k := by
  rw [rename, mem_keys_build, mem_keys_iff] at h
  obtain ⟨v', hv'⟩ := h
  obtain ⟨p, -, hp⟩ := List.mem_map.mp hv'
  rw [← (Prod.mk.inj hp).1, idempotent]

theorem rename_of_fixed {f : κ → κ} (nodup : (keys fields).Nodup)
    (fixed : ∀ k ∈ keys fields, f k = k) : rename f fields = fields := by
  have same : fields.map (fun p => (f p.1, p.2)) = fields := by
    conv_rhs => rw [← List.map_id fields]
    refine List.map_congr_left fun p hp => ?_
    rw [fixed p.1 (mem_keys_iff.mpr ⟨p.2, hp⟩)]
    rfl
  rw [rename, same, build_of_nodup nodup]

end Fields
