import Mathlib.Data.List.Nodup

/-!
# Rows with distinct keys

A table is the list of its rows, in the order the database happens to keep. Rows are
found, changed and removed by key.

1. `find_modify`, `find_map`, `find_concat`: what a query by key sees afterwards.
2. `Distinct.modify`, `Distinct.map`, `Distinct.remove`, `Distinct.concat`: keys stay distinct.
3. `Distinct.find_eq_some_iff`: with distinct keys, a query by key finds the row.
-/

namespace Keyed

variable {ρ κ : Type} [DecidableEq κ] {key : ρ → κ} {rows : List ρ} {row r : ρ} {k : κ}

/-- The row with the key. -/
def find (key : ρ → κ) (k : κ) (rows : List ρ) : Option ρ := rows.find? (key · = k)

/-- The rows after the one with the key is changed. -/
def modify (key : ρ → κ) (k : κ) (f : ρ → ρ) (rows : List ρ) : List ρ :=
  rows.map fun r => if key r = k then f r else r

/-- The rows without the one with the key. -/
def remove (key : ρ → κ) (k : κ) (rows : List ρ) : List ρ := rows.filter (key · ≠ k)

/-- No two rows have the same key. -/
def Distinct (key : ρ → κ) (rows : List ρ) : Prop := (rows.map key).Nodup

/-! ## Queries -/

theorem mem_of_find (h : find key k rows = some r) : r ∈ rows ∧ key r = k :=
  ⟨List.mem_of_find?_eq_some h, by simpa using List.find?_some h⟩

theorem find_eq_none_iff : find key k rows = none ↔ ∀ r ∈ rows, key r ≠ k := by
  simp [find]

theorem find_modify {k' : κ} {f : ρ → ρ} (same : ∀ r, key r = k' → key (f r) = key r) :
    find key k (modify key k' f rows) =
      if k = k' then (find key k rows).map f else find key k rows := by
  unfold find modify
  induction rows with
  | nil => split <;> rfl
  | cons r rows ih =>
    rw [List.map_cons, List.find?_cons, List.find?_cons, ih]
    rcases eq_or_ne (key r) k' with hr | hr
    · rcases eq_or_ne k k' with rfl | hk
      · simp [hr, same r hr]
      · simp [hr, same r hr, hk, hk.symm]
    · rcases eq_or_ne k k' with rfl | hk
      · simp [hr]
      · simp [hr, hk]

theorem find_map {f : ρ → ρ} (same : ∀ r, key (f r) = key r) :
    find key k (rows.map f) = (find key k rows).map f := by
  unfold find
  rw [List.find?_map]
  simp only [Function.comp_def, same]

theorem find_concat : find key k (rows ++ [row]) =
    (find key k rows).or (if key row = k then some row else none) := by
  unfold find
  rw [List.find?_append]
  by_cases h : key row = k <;> simp [h]

/-! ## Distinct keys -/

omit [DecidableEq κ] in
/-- A key belongs to one row. -/
theorem Distinct.eq_of_key (distinct : Distinct key rows) {r' : ρ} (hr : r ∈ rows)
    (hr' : r' ∈ rows) (same : key r = key r') : r = r' :=
  List.inj_on_of_nodup_map distinct hr hr' same

theorem Distinct.find_eq_some_iff (distinct : Distinct key rows) :
    find key k rows = some r ↔ r ∈ rows ∧ key r = k := by
  refine ⟨mem_of_find, fun ⟨hr, hk⟩ => ?_⟩
  cases hfind : find key k rows with
  | none => exact absurd hk (find_eq_none_iff.mp hfind r hr)
  | some r' =>
    obtain ⟨hr', hk'⟩ := mem_of_find hfind
    rw [distinct.eq_of_key hr' hr (hk'.trans hk.symm)]

theorem map_modify {α : Type} {f : ρ → ρ} {g : ρ → α}
    (same : ∀ r ∈ rows, key r = k → g (f r) = g r) :
    (modify key k f rows).map g = rows.map g := by
  unfold modify
  rw [List.map_map]
  refine List.map_congr_left fun r hr => ?_
  simp only [Function.comp]
  split
  · next h => exact same r hr h
  · rfl

theorem Distinct.modify {f : ρ → ρ} (distinct : Distinct key rows)
    (same : ∀ r ∈ rows, key r = k → key (f r) = key r) : Distinct key (modify key k f rows) := by
  unfold Distinct
  rwa [map_modify same]

omit [DecidableEq κ] in
theorem Distinct.map {f : ρ → ρ} (distinct : Distinct key rows) (same : ∀ r, key (f r) = key r) :
    Distinct key (rows.map f) := by
  have keys : key ∘ f = key := funext same
  unfold Distinct
  rwa [List.map_map, keys]

theorem Distinct.remove (distinct : Distinct key rows) : Distinct key (remove key k rows) :=
  List.Nodup.sublist (List.filter_sublist.map key) distinct

omit [DecidableEq κ] in
theorem Distinct.concat (distinct : Distinct key rows) (fresh : ∀ r ∈ rows, key r ≠ key row) :
    Distinct key (rows ++ [row]) := by
  unfold Distinct
  rw [List.map_append, List.nodup_append]
  refine ⟨distinct, List.nodup_singleton _, ?_⟩
  intro k hk k' hk' heq
  obtain ⟨r, hr, rfl⟩ := List.mem_map.mp hk
  exact fresh r hr (heq.trans (List.mem_singleton.mp hk'))

theorem mem_modify_iff {f : ρ → ρ} :
    r ∈ modify key k f rows ↔
      (∃ old ∈ rows, key old = k ∧ r = f old) ∨ (r ∈ rows ∧ key r ≠ k) := by
  unfold modify
  rw [List.mem_map]
  constructor
  · rintro ⟨old, hold, rfl⟩
    split
    · next h => exact Or.inl ⟨old, hold, h, rfl⟩
    · next h => exact Or.inr ⟨hold, h⟩
  · rintro (⟨old, hold, h, rfl⟩ | ⟨hr, hne⟩)
    · exact ⟨old, hold, if_pos h⟩
    · exact ⟨r, hr, if_neg hne⟩

theorem mem_remove_iff : r ∈ remove key k rows ↔ r ∈ rows ∧ key r ≠ k := by
  simp [remove]

end Keyed
