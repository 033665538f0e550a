import Mathlib.Data.List.DropRight

/-!
# Lists written as text

A list of texts, joined by a separator that blanks may follow, and the text cut at the
separators again, with the blanks around each item taken off.

* `clean_of_mem_items`: what is read is trimmed, not empty and without the separator.
* `items_join`: such items are read as they were written.
* `items_join_iff`: and only such items are.
-/

namespace TextItems

variable {α : Type} (blank : α → Bool) (sep : α)

/-! ## Trimming -/

/-- The text without the blanks around it. -/
def trim (text : List α) : List α := (text.dropWhile blank).rdropWhile blank

section Trim

variable {blank}

theorem dropWhile_eq_self {text : List α} (h : ∀ c, text.head? = some c → blank c = false) :
    text.dropWhile blank = text := by
  cases text with
  | nil => rfl
  | cons c text => rw [List.dropWhile_cons, if_neg (by simp [h c rfl])]

theorem head_dropWhile {text : List α} {c : α} (h : (text.dropWhile blank).head? = some c) :
    blank c = false := by
  induction text with
  | nil => cases h
  | cons c' text ih =>
    rw [List.dropWhile_cons] at h
    split_ifs at h with hc
    · exact ih h
    · obtain rfl := Option.some.inj h
      simpa using hc

/-- A text is trimmed once for all. -/
theorem trim_trim (text : List α) : trim blank (trim blank text) = trim blank text := by
  unfold trim
  have front : ((text.dropWhile blank).rdropWhile blank).dropWhile blank =
      (text.dropWhile blank).rdropWhile blank := by
    refine dropWhile_eq_self fun c hc => ?_
    -- What is taken off the end leaves the head.
    obtain ⟨rest, hrest⟩ : (text.dropWhile blank).rdropWhile blank <+: text.dropWhile blank :=
      List.rdropWhile_prefix blank _
    suffices h : (text.dropWhile blank).head? = some c from head_dropWhile h
    rw [← hrest]
    cases hdropped : (text.dropWhile blank).rdropWhile blank with
    | nil => rw [hdropped] at hc; cases hc
    | cons c' dropped => rw [hdropped] at hc; exact hc
  rw [front, List.rdropWhile_idempotent]

theorem trim_eq_self_iff {text : List α} :
    trim blank text = text ↔
      (∀ c ∈ text.head?, blank c = false) ∧ ∀ c ∈ text.getLast?, blank c = false := by
  constructor
  · intro trimmed
    have length : text.length ≤ (text.dropWhile blank).length := by
      calc text.length = (trim blank text).length := by rw [trimmed]
        _ ≤ (text.dropWhile blank).length := (List.rdropWhile_prefix blank _).length_le
    have front : text.dropWhile blank = text :=
      (List.dropWhile_suffix blank).eq_of_length_le length
    rw [trim, front, List.rdropWhile_eq_self_iff] at trimmed
    refine ⟨fun c hc => head_dropWhile (front.symm ▸ hc), fun c hc => ?_⟩
    obtain ⟨hne, rfl⟩ := List.mem_getLast?_eq_getLast hc
    simpa using trimmed hne
  · rintro ⟨front, back⟩
    unfold trim
    rw [dropWhile_eq_self front, List.rdropWhile_eq_self_iff]
    intro hne
    rw [back _ (List.getLast?_eq_some_getLast hne)]
    exact Bool.false_ne_true

theorem mem_of_mem_trim {text : List α} {c : α} (h : c ∈ trim blank text) : c ∈ text :=
  (List.dropWhile_sublist _).subset ((List.rdropWhile_prefix blank _).sublist.subset h)

/-- Blanks before a text are taken off. -/
theorem trim_append {glue : List α} (hglue : ∀ c ∈ glue, blank c = true) (text : List α) :
    trim blank (glue ++ text) = trim blank text := by
  unfold trim
  rw [List.dropWhile_append_of_pos hglue]

end Trim

/-! ## Joining -/

/-- The items of a list, each after the first behind a separator and `glue`. -/
def join (glue : List α) (xs : List (List α)) : List α := (sep :: glue).intercalate xs

/-- The glue can stand before the later items instead of after the separators. -/
theorem join_eq (glue x : List α) (xs : List (List α)) :
    join sep glue (x :: xs) = join sep [] (x :: xs.map (glue ++ ·)) := by
  unfold join
  induction xs generalizing x with
  | nil => rfl
  | cons y ys ih =>
    have h := ih y
    simp only [List.map_cons, List.intercalate_cons_cons, List.append_assoc] at h ⊢
    rw [ih y]
    cases ys with
    | nil => simp
    | cons z zs => simp

/-! ## Cutting -/

variable [DecidableEq α]

/-- The trimmed parts between the separators. -/
def fields (text : List α) : List (List α) := (text.splitOn sep).map (trim blank)

/-- The parts that are not empty. -/
def items (text : List α) : List (List α) := (fields blank sep text).filter (· ≠ [])

/-- An item that can be read again. -/
structure Clean (x : List α) : Prop where
  trimmed : trim blank x = x
  nonempty : x ≠ []
  unseparated : sep ∉ x

instance (x : List α) : Decidable (Clean blank sep x) :=
  decidable_of_iff (trim blank x = x ∧ x ≠ [] ∧ sep ∉ x)
    ⟨fun ⟨h, h', h''⟩ => ⟨h, h', h''⟩, fun ⟨h, h', h''⟩ => ⟨h, h', h''⟩⟩

variable {blank sep}

theorem notMem_of_mem_splitOn {text part : List α} (h : part ∈ text.splitOn sep) : sep ∉ part := by
  induction text generalizing part with
  | nil =>
    obtain rfl : part = [] := by simpa using h
    simp
  | cons c text ih =>
    rw [List.splitOn_cons_eq_if_modifyHead] at h
    split_ifs at h with hc
    · rcases List.mem_cons.mp h with rfl | h
      · simp
      · exact ih h
    · obtain ⟨first, rest, hsplit⟩ := List.exists_cons_of_ne_nil (List.splitOn_ne_nil sep text)
      rw [hsplit, List.modifyHead_cons] at h
      rcases List.mem_cons.mp h with rfl | h
      · have hfirst := ih (hsplit ▸ List.mem_cons_self)
        simp only [List.mem_cons, not_or]
        exact ⟨fun same => hc (by simp [same]), hfirst⟩
      · exact ih (hsplit ▸ List.mem_cons_of_mem _ h)

theorem clean_of_mem_items {text x : List α} (h : x ∈ items blank sep text) :
    Clean blank sep x := by
  obtain ⟨hfield, hne⟩ := List.mem_filter.mp h
  obtain ⟨part, hpart, rfl⟩ := List.mem_map.mp hfield
  exact ⟨trim_trim part, by simpa using hne,
    fun hsep => notMem_of_mem_splitOn hpart (mem_of_mem_trim hsep)⟩

/-! ## Reading what was written -/

/-- The fields of joined items are the items. -/
theorem fields_join {glue : List α} (hglue : ∀ c ∈ glue, blank c = true) (hsep : sep ∉ glue)
    {xs : List (List α)} (hxs : xs ≠ []) (clean : ∀ x ∈ xs, Clean blank sep x) :
    fields blank sep (join sep glue xs) = xs := by
  obtain ⟨x, xs, rfl⟩ := List.exists_cons_of_ne_nil hxs
  have parts : ∀ part ∈ x :: xs.map (glue ++ ·), sep ∉ part := by
    intro part hpart
    rcases List.mem_cons.mp hpart with rfl | hpart
    · exact (clean _ List.mem_cons_self).unseparated
    · obtain ⟨y, hy, rfl⟩ := List.mem_map.mp hpart
      rw [List.mem_append, not_or]
      exact ⟨hsep, (clean y (List.mem_cons_of_mem _ hy)).unseparated⟩
  unfold fields
  rw [join_eq, join, List.splitOn_intercalate sep parts (by simp), List.map_cons, List.map_map,
    (clean x List.mem_cons_self).trimmed]
  congr 1
  refine (List.map_congr_left fun y hy => ?_).trans (List.map_id xs)
  rw [Function.comp_apply, trim_append hglue, (clean y (List.mem_cons_of_mem _ hy)).trimmed, id]

theorem items_join {glue : List α} (hglue : ∀ c ∈ glue, blank c = true) (hsep : sep ∉ glue)
    {xs : List (List α)} (clean : ∀ x ∈ xs, Clean blank sep x) :
    items blank sep (join sep glue xs) = xs := by
  unfold items
  by_cases hxs : xs = []
  · subst hxs
    simp [join, fields, trim]
  · rw [fields_join hglue hsep hxs clean, List.filter_eq_self]
    exact fun x hx => by simpa using (clean x hx).nonempty

theorem items_join_iff {glue : List α} (hglue : ∀ c ∈ glue, blank c = true) (hsep : sep ∉ glue)
    {xs : List (List α)} :
    items blank sep (join sep glue xs) = xs ↔ ∀ x ∈ xs, Clean blank sep x :=
  ⟨fun h _ hx => clean_of_mem_items (h.symm ▸ hx), items_join hglue hsep⟩

/-- The items written again have the fields of a text that is not blank just when it has no
empty field. -/
theorem fields_join_items_iff (glue : List α) (hglue : ∀ c ∈ glue, blank c = true)
    (hsep : sep ∉ glue) {text : List α} (present : trim blank text ≠ []) :
    fields blank sep (join sep glue (items blank sep text)) = fields blank sep text ↔
      [] ∉ fields blank sep text := by
  have clean (x : List α) (hx : x ∈ items blank sep text) := clean_of_mem_items hx
  constructor
  · intro same empty
    by_cases hitems : items blank sep text = []
    · -- Without items the text written is empty, and so is its only field.
      have blankField : fields blank sep text = [trim blank text] := by
        rw [hitems] at same
        have single : (text.splitOn sep).length = 1 := by
          have h := congrArg List.length same
          simpa [fields, join] using h.symm
        obtain ⟨part, hpart⟩ := List.length_eq_one_iff.mp single
        have whole : [sep].intercalate (text.splitOn sep) = text := List.intercalate_splitOn sep
        rw [hpart, List.intercalate_singleton] at whole
        rw [fields, hpart, whole, List.map_singleton]
      rw [blankField, List.mem_singleton] at empty
      exact present empty.symm
    · rw [fields_join hglue hsep hitems clean] at same
      rw [← same] at empty
      exact (clean [] empty).nonempty rfl
  · intro full
    have all : items blank sep text = fields blank sep text := by
      refine List.filter_eq_self.mpr fun x hx => ?_
      have hne : x ≠ [] := fun h => full (h ▸ hx)
      simpa using hne
    have hne : items blank sep text ≠ [] := by
      rw [all]
      simp [fields]
    rw [fields_join hglue hsep hne clean, all]

end TextItems
