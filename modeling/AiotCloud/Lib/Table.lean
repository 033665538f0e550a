import Mathlib.Data.List.MinMax

/-!
# Append-only tables

The rows of a table stand in the order they were inserted, and the key of a row
is its position (`Numbered`). `save` replaces the row with the same key; `latest`
is the row with the greatest time, the first one if there are several. A query
without an order is a `find?` over the rows in any order.

1. `Numbered.append`, `Numbered.save`: insertions and saves keep the numbering.
2. `mem_save_iff`: the rows after a save.
3. `latest_append_of_lt`: a row inserted with a later time is the latest.
4. `latest_save`: the latest row, saved with its time, is still the latest.
5. `forall_perm_find?_iff`: a query returns one row in every order exactly when no
   other row matches.
-/

namespace Table

variable {ρ κ : Type} [LinearOrder κ] {idOf : ρ → Nat} {time : ρ → κ}

/-- The key of every row is its position. -/
def Numbered (idOf : ρ → Nat) (rows : List ρ) : Prop := ∀ i r, rows[i]? = some r → idOf r = i

/-- The rows after `row` is saved over the one with its key. -/
def save (idOf : ρ → Nat) (row : ρ) (rows : List ρ) : List ρ :=
  rows.map fun r => if idOf r = idOf row then row else r

/-- The row with the greatest time. -/
def latest (time : ρ → κ) (rows : List ρ) : Option ρ := rows.argmax time

theorem Numbered.nil : Numbered idOf [] := by
  intro i r h
  exact absurd h (by simp)

theorem Numbered.append {rows : List ρ} (h : Numbered idOf rows) {row : ρ}
    (hid : idOf row = rows.length) : Numbered idOf (rows ++ [row]) := by
  intro i r hr
  rcases Nat.lt_trichotomy i rows.length with hlt | rfl | hgt
  · rw [List.getElem?_append_left hlt] at hr
    exact h i r hr
  · rw [List.getElem?_concat_length] at hr
    rw [← Option.some_inj.mp hr, hid]
  · rw [List.getElem?_eq_none (by simp; omega)] at hr
    exact absurd hr (by simp)

theorem Numbered.save {rows : List ρ} (h : Numbered idOf rows) (row : ρ) :
    Numbered idOf (save idOf row rows) := by
  intro i r hr
  unfold Table.save at hr
  rw [List.getElem?_map] at hr
  obtain ⟨old, hold, rfl⟩ := Option.map_eq_some_iff.mp hr
  have hkey := h i old hold
  split
  · next hid => rw [← hid, hkey]
  · exact hkey

/-- A key belongs to one row. -/
theorem Numbered.eq_of_id {rows : List ρ} (h : Numbered idOf rows) {r r' : ρ} (hr : r ∈ rows)
    (hr' : r' ∈ rows) (hid : idOf r = idOf r') : r = r' := by
  obtain ⟨i, hi⟩ := List.mem_iff_getElem?.mp hr
  obtain ⟨j, hj⟩ := List.mem_iff_getElem?.mp hr'
  have hij : i = j := by rw [← h i r hi, ← h j r' hj, hid]
  rw [hij, hj] at hi
  exact (Option.some_inj.mp hi).symm

/-- A key is a position in the table. -/
theorem Numbered.lt_length {rows : List ρ} (h : Numbered idOf rows) {r : ρ} (hr : r ∈ rows) :
    idOf r < rows.length := by
  obtain ⟨i, hi⟩ := List.mem_iff_getElem?.mp hr
  rw [h i r hi]
  exact (List.getElem?_eq_some_iff.mp hi).1

/-- Saving over the newest row leaves the older ones. -/
theorem Numbered.save_concat {rows : List ρ} (h : Numbered idOf rows) {row row' : ρ}
    (hid : idOf row = rows.length) (hid' : idOf row' = rows.length) :
    Table.save idOf row' (rows ++ [row]) = rows ++ [row'] := by
  have old : ∀ r ∈ rows, idOf r ≠ idOf row' := by
    intro r hr
    have hlt := h.lt_length hr
    omega
  unfold Table.save
  rw [List.map_append]
  congr 1
  · refine (List.map_congr_left fun r hr => ?_).trans (List.map_id _)
    exact if_neg (old r hr)
  · simp [hid, hid']

theorem Numbered.nodup {rows : List ρ} (h : Numbered idOf rows) : rows.Nodup := by
  unfold List.Nodup
  rw [List.pairwise_iff_getElem]
  intro i j hi hj hij heq
  have hri := h i rows[i] (List.getElem?_eq_getElem hi)
  have hrj := h j rows[j] (List.getElem?_eq_getElem hj)
  rw [heq, hrj] at hri
  exact absurd hri (Nat.ne_of_gt hij)

/-- After a save, the rows are the saved one and those with another key. -/
theorem mem_save_iff {rows : List ρ} {old row r : ρ} (hold : old ∈ rows)
    (hid : idOf old = idOf row) :
    r ∈ save idOf row rows ↔ r = row ∨ (r ∈ rows ∧ idOf r ≠ idOf row) := by
  unfold save
  rw [List.mem_map]
  constructor
  · rintro ⟨x, hx, rfl⟩
    split
    · exact Or.inl rfl
    · next hne => exact Or.inr ⟨hx, hne⟩
  · rintro (rfl | ⟨hr, hne⟩)
    · exact ⟨old, hold, if_pos hid⟩
    · exact ⟨r, hr, if_neg hne⟩

theorem mem_of_latest {rows : List ρ} {r : ρ} (h : latest time rows = some r) : r ∈ rows :=
  List.argmax_mem h

theorem latest_eq_none_iff {rows : List ρ} : latest time rows = none ↔ rows = [] :=
  List.argmax_eq_none

theorem latest_append_of_lt {rows : List ρ} {row : ρ}
    (later : ∀ r, latest time rows = some r → time r < time row) :
    latest time (rows ++ [row]) = some row := by
  unfold latest at later ⊢
  rw [List.argmax_concat]
  cases h : rows.argmax time with
  | none => rfl
  | some r => simp [later r h]

theorem latest_append_of_not_lt {rows : List ρ} {row r : ρ} (h : latest time rows = some r)
    (early : ¬ time r < time row) : latest time (rows ++ [row]) = some r := by
  unfold latest at h ⊢
  rw [List.argmax_concat, h]
  simp [early]

/-- Changing rows without changing their times changes the latest row with them. -/
theorem latest_map {rows : List ρ} {f : ρ → ρ} (same : ∀ r ∈ rows, time (f r) = time r) :
    latest time (rows.map f) = (latest time rows).map f := by
  unfold latest
  induction rows using List.reverseRecOn with
  | nil => rfl
  | append_singleton rows a ih =>
    have ih' := ih fun r hr => same r (by simp [hr])
    have ha : time (f a) = time a := same a (by simp)
    rw [List.map_append, List.map_singleton, List.argmax_concat, List.argmax_concat, ih']
    cases h : rows.argmax time with
    | none => rfl
    | some r =>
      have hr : time (f r) = time r := same r (by simp [List.argmax_mem h])
      simp only [Option.map_some, hr, ha]
      split <;> rfl

theorem latest_save {rows : List ρ} (numbered : Numbered idOf rows) {old row : ρ}
    (h : latest time rows = some old) (hid : idOf row = idOf old) (htime : time row = time old) :
    latest time (save idOf row rows) = some row := by
  have hold : old ∈ rows := mem_of_latest h
  have same : ∀ r ∈ rows, time (if idOf r = idOf row then row else r) = time r := by
    intro r hr
    split
    · next hrow => rw [htime, numbered.eq_of_id hr hold (hrow.trans hid)]
    · rfl
  unfold save
  rw [latest_map same, h]
  simp [hid]

theorem forall_perm_find?_iff {rows : List ρ} {p : ρ → Bool} {row : ρ} :
    (∀ order : List ρ, order.Perm rows → order.find? p = some row) ↔
      row ∈ rows ∧ p row = true ∧ ∀ r ∈ rows, p r = true → r = row := by
  constructor
  · intro h
    have found := h rows (List.Perm.refl rows)
    refine ⟨List.mem_of_find?_eq_some found, List.find?_some found, fun r hr hp => ?_⟩
    -- the order in which `r` comes first
    obtain ⟨before, after, rfl⟩ := List.append_of_mem hr
    have first := h (r :: (before ++ after)) List.perm_middle.symm
    rw [List.find?_cons_of_pos hp] at first
    exact Option.some_inj.mp first
  · rintro ⟨hrow, hp, unique⟩ order perm
    cases hfind : order.find? p with
    | none => exact absurd hp (List.find?_eq_none.mp hfind row (perm.mem_iff.mpr hrow))
    | some r =>
      have hr := perm.mem_iff.mp (List.mem_of_find?_eq_some hfind)
      rw [unique r hr (List.find?_some hfind)]

end Table
