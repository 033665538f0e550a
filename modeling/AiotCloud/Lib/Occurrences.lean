import Mathlib.Data.List.Infix

/-!
# The occurrences of a text in another

A text is read from the left for the occurrences of a separator, which do not overlap. Between
them are its parts, and at each occurrence there is a gap, with what is before it and what is
after it, that can be filled.

1. `induction_on`: a text is empty, begins with an occurrence, or begins with another item.
2. `intercalate_parts`: the text is its parts, joined by the separator.
3. `eq_of_measure`: fillings that are not smaller than a text, and together not larger, are
   each as large as the text.
-/

namespace Occurrences

variable {α : Type} {sep : List α}

/-! ## Parts -/

section Parts

variable [DecidableEq α]

variable (sep) in
/-- The parts of a text after the first `skip` items, which belong to an occurrence. -/
def partsFrom : Nat → List α → List (List α)
  | _, [] => [[]]
  | skip + 1, _ :: text => partsFrom skip text
  | 0, x :: text =>
    if sep <+: x :: text then [] :: partsFrom (sep.length - 1) text
    else (partsFrom 0 text).modifyHead (x :: ·)

variable (sep) in
def parts (text : List α) : List (List α) := partsFrom sep 0 text

theorem partsFrom_eq (skip : Nat) (text : List α) :
    partsFrom sep skip text = parts sep (text.drop skip) := by
  induction text generalizing skip with
  | nil => cases skip <;> rfl
  | cons x text ih =>
    cases skip with
    | zero => rfl
    | succ skip => exact ih skip

/-- A text is empty, begins with an occurrence, or begins with an item that begins none. -/
theorem induction_on {P : List α → Prop} (hsep : sep ≠ []) (text : List α) (nil : P [])
    (found : ∀ rest, P rest → P (sep ++ rest))
    (other : ∀ x text, ¬ sep <+: x :: text → P text → P (x :: text)) : P text := by
  induction hn : text.length using Nat.strong_induction_on generalizing text with
  | _ n ih =>
    cases text with
    | nil => exact nil
    | cons x text =>
      by_cases here : sep <+: x :: text
      · obtain ⟨rest, hrest⟩ := here
        have shorter : rest.length < n := by
          have lengths := congrArg List.length hrest
          have := List.length_pos_iff.mpr hsep
          simp only [List.length_append] at lengths
          omega
        rw [← hrest]
        exact found rest (ih _ shorter rest rfl)
      · exact other x text here (ih _ (by simp [← hn]) text rfl)

theorem parts_found (hsep : sep ≠ []) (rest : List α) :
    parts sep (sep ++ rest) = [] :: parts sep rest := by
  obtain ⟨x, seps, rfl⟩ := List.exists_cons_of_ne_nil hsep
  have here : x :: seps <+: x :: (seps ++ rest) := ⟨rest, rfl⟩
  rw [parts, List.cons_append, partsFrom, if_pos here, partsFrom_eq]
  simp

theorem parts_other {x : α} {text : List α} (other : ¬ sep <+: x :: text) :
    parts sep (x :: text) = (parts sep text).modifyHead (x :: ·) := by
  rw [parts, partsFrom, if_neg other]
  rfl

theorem exists_parts (hsep : sep ≠ []) (text : List α) :
    ∃ part rest, parts sep text = part :: rest := by
  induction text using induction_on hsep with
  | nil => exact ⟨[], [], rfl⟩
  | found rest ih => exact ⟨[], _, parts_found hsep rest⟩
  | other x text other ih =>
    obtain ⟨part, rest, hparts⟩ := ih
    exact ⟨x :: part, rest, by rw [parts_other other, hparts, List.modifyHead_cons]⟩

theorem intercalate_parts (hsep : sep ≠ []) (text : List α) :
    sep.intercalate (parts sep text) = text := by
  induction text using induction_on hsep with
  | nil => rfl
  | found rest ih =>
    obtain ⟨part, others, hparts⟩ := exists_parts hsep rest
    rw [parts_found hsep, hparts, List.intercalate_cons_cons, ← hparts, ih, List.nil_append]
  | other x text other ih =>
    obtain ⟨part, others, hparts⟩ := exists_parts hsep text
    rw [parts_other other, hparts, List.modifyHead_cons]
    rw [hparts] at ih
    cases others with
    | nil => simpa using ih
    | cons next others =>
      rw [List.intercalate_cons_cons] at ih ⊢
      rw [List.cons_append, List.cons_append, ih]

/-- A text without an occurrence is its own part. -/
theorem parts_of_absent (hsep : sep ≠ []) {text : List α} (absent : ¬ sep <:+: text) :
    parts sep text = [text] := by
  induction text using induction_on hsep with
  | nil => rfl
  | found rest ih => exact absurd (List.prefix_append sep rest).isInfix absent
  | other x text other ih =>
    have later : ¬ sep <:+: text := fun here => absent (List.infix_cons here)
    rw [parts_other other, ih later, List.modifyHead_cons]

/-- An occurrence is between two parts. -/
theorem exists_two_parts (hsep : sep ≠ []) {text : List α} (here : sep <:+: text) :
    ∃ first second rest, parts sep text = first :: second :: rest := by
  induction text using induction_on hsep with
  | nil => exact absurd (List.infix_nil.mp here) hsep
  | found rest ih =>
    obtain ⟨part, others, hparts⟩ := exists_parts hsep rest
    exact ⟨[], part, others, by rw [parts_found hsep, hparts]⟩
  | other x text other ih =>
    obtain ⟨first, second, rest, hparts⟩ := ih ((List.infix_cons_iff.mp here).resolve_left other)
    exact ⟨x :: first, second, rest, by rw [parts_other other, hparts, List.modifyHead_cons]⟩

end Parts

/-! ## Gaps -/

section Gaps

variable (sep)

/-- What is before and after each occurrence. -/
def gaps : List α → List (List α) → List (List α × List α)
  | before, part :: next :: parts =>
    (before ++ part, sep.intercalate (next :: parts)) ::
      gaps (before ++ part ++ sep) (next :: parts)
  | _, _ => []

/-- The parts, with each gap filled. -/
def fill (filling : List α → List α → List α) : List α → List (List α) → List α
  | before, part :: next :: parts =>
    part ++ filling (before ++ part) (sep.intercalate (next :: parts)) ++
      fill filling (before ++ part ++ sep) (next :: parts)
  | _, [part] => part
  | _, [] => []

theorem fill_const (text before : List α) (parts : List (List α)) :
    fill sep (fun _ _ => text) before parts = text.intercalate parts := by
  induction parts generalizing before with
  | nil => rfl
  | cons part parts ih =>
    cases parts with
    | nil => simp [fill]
    | cons next parts => rw [fill, ih, List.intercalate_cons_cons]

/-- The filling of an item further left. -/
theorem fill_cons (filling : List α → List α → List α) (before : List α) (x : α)
    (part : List α) (parts : List (List α)) :
    fill sep filling before ((x :: part) :: parts) =
      x :: fill sep filling (before ++ [x]) (part :: parts) := by
  cases parts with
  | nil => rfl
  | cons next parts => simp [fill]

end Gaps

/-! ## Measures -/

section Measure

variable {μ : List α → Int} {filling : List α → List α → List α} {text : List α}

variable (sep) in
theorem measure_le (additive : ∀ a b, μ (a ++ b) = μ a + μ b)
    (larger : ∀ before after, μ text ≤ μ (filling before after)) (before : List α)
    (parts : List (List α)) : μ (text.intercalate parts) ≤ μ (fill sep filling before parts) := by
  induction parts generalizing before with
  | nil => exact Int.le_refl _
  | cons part parts ih =>
    cases parts with
    | nil => simp [fill]
    | cons next parts =>
      have here := larger (before ++ part) (sep.intercalate (next :: parts))
      have rest := ih (before ++ part ++ sep)
      rw [List.intercalate_cons_cons, fill, additive, additive, additive, additive]
      omega

/-- Where each filling is at least as large as a text, and the whole no larger than with the
text, each filling is as large as the text. -/
theorem eq_of_measure (additive : ∀ a b, μ (a ++ b) = μ a + μ b)
    (larger : ∀ before after, μ text ≤ μ (filling before after)) {before : List α}
    {parts : List (List α)}
    (same : μ (fill sep filling before parts) = μ (text.intercalate parts)) :
    ∀ gap ∈ gaps sep before parts, μ (filling gap.1 gap.2) = μ text := by
  induction parts generalizing before with
  | nil => simp [gaps]
  | cons part parts ih =>
    cases parts with
    | nil => simp [gaps]
    | cons next parts =>
      have here := larger (before ++ part) (sep.intercalate (next :: parts))
      have rest := measure_le sep additive larger (before ++ part ++ sep) (next :: parts)
      rw [List.intercalate_cons_cons, fill, additive, additive, additive, additive] at same
      rw [gaps, List.forall_mem_cons]
      have first : μ (filling (before ++ part) (sep.intercalate (next :: parts))) = μ text := by
        omega
      exact ⟨first, ih (by omega)⟩

end Measure

end Occurrences
