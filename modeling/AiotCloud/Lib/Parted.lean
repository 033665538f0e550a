import AiotCloud.Lib.Keyed

/-!
# Tables shared by owners

Each row of a table has an owner, and each key was issued for one. A statement of an owner names
rows by key or by a condition that only rows of the owner meet. It then does to the rows of the
owner what it does to the table, and nothing to the rows of the others.

1. `Valid.act`: the rows stay those that the keys were issued for.
2. `refused_own`, `part_act_own`: a statement of the owner.
3. `part_act_other`: a statement of another one.
-/

namespace Parted

/-- A statement that writes. A row is inserted unless a stored one clashes with it. A copy is saved
over the row with its key, or inserted when there is none. -/
inductive Write (ρ κ : Type) where
  | insert (row : ρ) (clash : ρ → Bool)
  | save (copy : ρ) (clash : ρ → Bool)
  | update (condition : ρ → Bool) (f : ρ → ρ)
  | remove (k : κ)

/-- A table: its key, who a row belongs to, who a key was issued for, and what holds of each
row. -/
structure Ledger (ρ κ τ : Type) where
  key : ρ → κ
  owner : ρ → τ
  issuedTo : κ → τ
  ok : ρ → Prop

variable {ρ κ τ : Type} [DecidableEq κ] [DecidableEq τ]

namespace Write

/-- The statement fails. -/
def refused (key : ρ → κ) (rows : List ρ) : Write ρ κ → Bool
  | insert _ clash => rows.any clash
  | save copy clash => !rows.any (key · = key copy) && rows.any clash
  | update .. | remove _ => false

def act (key : ρ → κ) (rows : List ρ) : Write ρ κ → List ρ
  | insert row clash => if rows.any clash then rows else rows ++ [row]
  | save copy clash =>
    if rows.any (key · = key copy) then Keyed.modify key (key copy) (fun _ => copy) rows
    else if rows.any clash then rows
    else rows ++ [copy]
  | update condition f => rows.map fun row => if condition row then f row else row
  | remove k => Keyed.remove key k rows

end Write

namespace Ledger

variable (L : Ledger ρ κ τ)

/-- The row belongs to the one its key was issued for. -/
structure Fair (row : ρ) : Prop where
  ok : L.ok row
  issued : L.issuedTo (L.key row) = L.owner row

def Valid (rows : List ρ) : Prop := ∀ row ∈ rows, L.Fair row

/-- The rows of an owner. -/
def part (t : τ) (rows : List ρ) : List ρ := rows.filter (L.owner · = t)

/-- A row that the owner stores. It can clash with rows of the owner only. -/
structure Stores (t : τ) (row : ρ) (clash : ρ → Bool) : Prop where
  fair : L.Fair row
  own : L.owner row = t
  clash : ∀ other, L.Fair other → clash other = true → L.owner other = t

/-- The statement is one of the owner. -/
def Of (t : τ) : Write ρ κ → Prop
  | .insert row clash | .save row clash => L.Stores t row clash
  | .update condition f => ∀ row, L.Fair row → condition row = true →
    L.owner row = t ∧ L.Fair (f row) ∧ L.owner (f row) = t
  | .remove k => L.issuedTo k = t

variable {L} {t : τ} {rows : List ρ} {write : Write ρ κ}

omit [DecidableEq κ] in
theorem mem_part_iff {row : ρ} : row ∈ L.part t rows ↔ row ∈ rows ∧ L.owner row = t := by
  simp [part]

omit [DecidableEq κ] in
theorem part_concat (row : ρ) : L.part t (rows ++ [row]) =
    if L.owner row = t then L.part t rows ++ [row] else L.part t rows := by
  unfold part
  rw [List.filter_append]
  by_cases own : L.owner row = t <;> simp [own]

section Conditions

variable {p : ρ → Bool}

/-! A condition that only rows of the owner meet selects among the rows of the owner. -/

omit [DecidableEq κ] in
theorem filter_part (valid : L.Valid rows)
    (own : ∀ row, L.Fair row → p row = true → L.owner row = t) :
    rows.filter p = (L.part t rows).filter p := by
  unfold part
  rw [List.filter_filter]
  refine List.filter_congr fun row hrow => ?_
  cases met : p row with
  | false => rfl
  | true => simp [own row (valid row hrow) met]

omit [DecidableEq κ] in
theorem find?_part (valid : L.Valid rows)
    (own : ∀ row, L.Fair row → p row = true → L.owner row = t) :
    rows.find? p = (L.part t rows).find? p := by
  rw [← List.head?_filter, ← List.head?_filter, filter_part valid own]

omit [DecidableEq κ] in
theorem any_part (valid : L.Valid rows)
    (own : ∀ row, L.Fair row → p row = true → L.owner row = t) :
    rows.any p = (L.part t rows).any p := by
  rw [← List.isSome_find?, ← List.isSome_find?, find?_part valid own]

end Conditions

omit [DecidableEq κ] in
theorem part_map {f : ρ → ρ} (same : ∀ row ∈ rows, L.owner (f row) = L.owner row) :
    L.part t (rows.map f) = (L.part t rows).map f := by
  unfold part
  rw [List.filter_map]
  congr 1
  exact List.filter_congr fun row hrow => by simp [same row hrow]

omit [DecidableEq τ] in
/-- A row with the key of an owner's row is the owner's. -/
theorem Fair.of_key {copy row : ρ} (hcopy : L.Fair copy) (hrow : L.Fair row)
    (same : decide (L.key row = L.key copy) = true) : L.owner row = L.owner copy := by
  rw [← hrow.issued, ← hcopy.issued, of_decide_eq_true same]

omit [DecidableEq τ] in
/-- A row that clashes with the row of its key only. -/
theorem Fair.stores {row : ρ} (fair : L.Fair row) :
    L.Stores (L.owner row) row (L.key · = L.key row) :=
  ⟨fair, rfl, fun _ => fair.of_key⟩

omit [DecidableEq κ] [DecidableEq τ] in
theorem Fair.stores_free {row : ρ} (fair : L.Fair row) :
    L.Stores (L.owner row) row fun _ => false :=
  ⟨fair, rfl, fun _ _ => nofun⟩

omit [DecidableEq κ] [DecidableEq τ] in
theorem Valid.concat (valid : L.Valid rows) {row : ρ} (fair : L.Fair row) :
    L.Valid (rows ++ [row]) :=
  List.forall_mem_append.mpr ⟨valid, List.forall_mem_singleton.mpr fair⟩

omit [DecidableEq τ] in
theorem Valid.act (valid : L.Valid rows) (own : L.Of t write) :
    L.Valid (write.act L.key rows) := by
  cases write with
  | insert row clash =>
    simp only [Write.act]
    split_ifs
    · exact valid
    · exact valid.concat own.fair
  | save copy clash =>
    simp only [Write.act]
    split_ifs
    · intro row hrow
      rcases Keyed.mem_modify_iff.mp hrow with ⟨-, -, -, rfl⟩ | ⟨old, -⟩
      · exact own.fair
      · exact valid row old
    · exact valid
    · exact valid.concat own.fair
  | update condition f =>
    intro row hrow
    obtain ⟨old, hold, rfl⟩ := List.mem_map.mp hrow
    split_ifs with met
    · exact (own old (valid old hold) met).2.1
    · exact valid old hold
  | remove k => exact fun row hrow => valid row (Keyed.mem_remove_iff.mp hrow).1

omit [DecidableEq κ] [DecidableEq τ] in
/-- The rows that a statement changes keep their owner. -/
theorem owner_update (valid : L.Valid rows) {condition : ρ → Bool} {f : ρ → ρ}
    (own : L.Of t (.update condition f : Write ρ κ)) :
    ∀ row ∈ rows, L.owner (if condition row then f row else row) = L.owner row := by
  intro row hrow
  split_ifs with met
  · obtain ⟨before, -, after⟩ := own row (valid row hrow) met
    exact after.trans before.symm
  · rfl

omit [DecidableEq τ] in
theorem owner_save (valid : L.Valid rows) {copy : ρ} (fair : L.Fair copy) :
    ∀ row ∈ rows, L.owner (if L.key row = L.key copy then copy else row) = L.owner row := by
  intro row hrow
  split_ifs with same
  · exact (fair.of_key (valid row hrow) (decide_eq_true same)).symm
  · rfl

/-- Whether a statement of the owner fails is up to the rows of the owner. -/
theorem refused_own (valid : L.Valid rows) (own : L.Of t write) :
    write.refused L.key rows = write.refused L.key (L.part t rows) := by
  cases write with
  | insert row clash => exact any_part valid own.clash
  | save copy clash =>
    have keys := any_part valid fun row hrow same => (own.fair.of_key hrow same).trans own.own
    simp only [Write.refused, keys, any_part valid own.clash]
  | update | remove => rfl

/-- A statement of the owner does to the owner's rows what it does to all of them. -/
theorem part_act_own (valid : L.Valid rows) (own : L.Of t write) :
    L.part t (write.act L.key rows) = write.act L.key (L.part t rows) := by
  cases write with
  | insert row clash =>
    simp only [Write.act, ← any_part valid own.clash]
    split_ifs with there
    · rfl
    · rw [part_concat, if_pos own.own]
  | save copy clash =>
    have keys := any_part valid fun row hrow same => (own.fair.of_key hrow same).trans own.own
    simp only [Write.act, ← keys, ← any_part valid own.clash]
    split_ifs with there clashes
    · exact part_map (owner_save valid own.fair)
    · rfl
    · rw [part_concat, if_pos own.own]
  | update condition f => exact part_map (owner_update valid own)
  | remove k => exact List.filter_comm ..

/-- A statement of another owner does nothing to the owner's rows. -/
theorem part_act_other {t' : τ} (valid : L.Valid rows) (own : L.Of t' write) (hne : t' ≠ t) :
    L.part t (write.act L.key rows) = L.part t rows := by
  have fixed : ∀ f : ρ → ρ, (∀ row ∈ rows, L.owner row = t → f row = row) →
      (L.part t rows).map f = L.part t rows := by
    intro f same
    refine (List.map_congr_left fun row hrow => ?_).trans (List.map_id _)
    obtain ⟨hrow, howner⟩ := mem_part_iff.mp hrow
    exact same row hrow howner
  cases write with
  | insert row clash =>
    simp only [Write.act]
    split_ifs with there
    · rfl
    · rw [part_concat, if_neg (own.own ▸ hne)]
  | save copy clash =>
    simp only [Write.act]
    split_ifs with there clashes
    · refine (part_map (owner_save valid own.fair)).trans
        (fixed _ fun row hrow howner => if_neg fun same => hne ?_)
      have holder := own.fair.of_key (valid row hrow) (decide_eq_true same)
      exact (own.own.symm.trans holder.symm).trans howner
    · rfl
    · rw [part_concat, if_neg (own.own ▸ hne)]
  | update condition f =>
    refine (part_map (owner_update valid own)).trans
      (fixed _ fun row hrow howner => if_neg fun met => hne ?_)
    exact (own row (valid row hrow) met).1.symm.trans howner
  | remove k =>
    unfold Write.act Keyed.remove part
    rw [List.filter_filter]
    refine List.filter_congr fun row hrow => ?_
    by_cases howner : L.owner row = t
    · have kept : L.key row ≠ k := by
        rintro rfl
        exact hne (own.symm.trans ((valid row hrow).issued.trans howner))
      simp [howner, kept]
    · simp [howner]

end Ledger

end Parted
