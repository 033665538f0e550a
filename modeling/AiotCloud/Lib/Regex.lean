import Mathlib.Data.List.Forall2

/-!
# Backtracking regular expressions

An anchored expression is a sequence of segments, some of them captured. A segment is built of
single elements, greedy and lazy runs, sequences and alternatives. A backtracking matcher tries
the ways to divide the text in an order of preference and answers what is captured in the first.

1. `mem_splits_iff`, `mem_divisions_iff`: the ways that are tried are all there are.
2. `exec_of_unique`, `exec_eq_none_iff`: the answer, where the order does not matter.
3. `run_unique`: where a run ends.
-/

namespace Regex

variable {α : Type}

/-! ## Patterns -/

inductive Pattern (α : Type) where
  | empty
  | one (p : α → Bool)
  | many (greedy : Bool) (p : α → Bool)
  | seq (first second : Pattern α)
  | alt (preferred other : Pattern α)

/-- At least one element. -/
def plus (greedy : Bool) (p : α → Bool) : Pattern α := .seq (.one p) (.many greedy p)

def opt (pattern : Pattern α) : Pattern α := .alt pattern .empty

/-- A fixed text. -/
def word [DecidableEq α] : List α → Pattern α
  | [] => .empty
  | c :: cs => .seq (.one (· = c)) (word cs)

def Pattern.Matches : Pattern α → List α → Prop
  | empty, text => text = []
  | one p, text => ∃ c, p c = true ∧ text = [c]
  | many _ p, text => ∀ c ∈ text, p c = true
  | seq first second, text => ∃ u v, first.Matches u ∧ second.Matches v ∧ text = u ++ v
  | alt preferred other, text => preferred.Matches text ∨ other.Matches text

/-- The runs that a text starts with, each with what follows, the shortest first. -/
def runs (p : α → Bool) : List α → List (List α × List α)
  | [] => [([], [])]
  | c :: cs =>
    ([], c :: cs) ::
      if p c then (runs p cs).map fun (used, rest) => (c :: used, rest) else []

/-- What a pattern can use of a text, each with what follows, in the order of preference. -/
def Pattern.splits : Pattern α → List α → List (List α × List α)
  | empty, cs => [([], cs)]
  | one _, [] => []
  | one p, c :: cs => if p c then [([c], cs)] else []
  | many true p, cs => (runs p cs).reverse
  | many false p, cs => runs p cs
  | seq first second, cs =>
    (first.splits cs).flatMap fun (used, rest) =>
      (second.splits rest).map fun (more, rest) => (used ++ more, rest)
  | alt preferred other, cs => preferred.splits cs ++ other.splits cs

theorem mem_runs_iff {p : α → Bool} {cs used rest : List α} :
    (used, rest) ∈ runs p cs ↔ (∀ c ∈ used, p c = true) ∧ used ++ rest = cs := by
  induction cs generalizing used with
  | nil =>
    rw [runs, List.mem_singleton, Prod.mk.injEq, List.append_eq_nil_iff]
    constructor
    · rintro ⟨rfl, rfl⟩
      exact ⟨by simp, rfl, rfl⟩
    · exact And.right
  | cons c cs ih =>
    rw [runs, List.mem_cons, Prod.mk.injEq]
    cases used with
    | nil =>
      -- The empty run is only the first one.
      have longer : ([], rest) ∉
          (if p c then (runs p cs).map fun (used, rest) => (c :: used, rest) else []) := by
        split_ifs <;> simp
      simp [longer]
    | cons c' used =>
      by_cases hc : p c = true
      · rw [if_pos hc]
        simp only [List.mem_map, Prod.exists, Prod.mk.injEq, List.cons.injEq, List.cons_append,
          List.forall_mem_cons]
        constructor
        · rintro (⟨h, -⟩ | ⟨used, rest, found, ⟨rfl, rfl⟩, rfl⟩)
          · cases h
          · obtain ⟨all, same⟩ := ih.mp found
            exact ⟨⟨hc, all⟩, rfl, same⟩
        · rintro ⟨⟨-, all⟩, rfl, same⟩
          exact .inr ⟨used, rest, ih.mpr ⟨all, same⟩, ⟨rfl, rfl⟩, rfl⟩
      · rw [if_neg hc]
        simp only [List.cons_append, List.cons.injEq, List.forall_mem_cons]
        constructor
        · rintro (⟨h, -⟩ | h) <;> cases h
        · rintro ⟨⟨h, -⟩, rfl, -⟩
          exact absurd h hc

theorem mem_splits_iff {pattern : Pattern α} {cs used rest : List α} :
    (used, rest) ∈ pattern.splits cs ↔ pattern.Matches used ∧ used ++ rest = cs := by
  induction pattern generalizing cs used rest with
  | empty =>
    simp only [Pattern.splits, Pattern.Matches, List.mem_singleton, Prod.mk.injEq]
    constructor <;> (rintro ⟨rfl, rfl⟩; exact ⟨rfl, rfl⟩)
  | one p =>
    cases cs with
    | nil =>
      simp only [Pattern.splits, Pattern.Matches, List.not_mem_nil, false_iff, not_and]
      rintro ⟨c, -, rfl⟩ same
      cases same
    | cons c cs =>
      simp only [Pattern.splits, Pattern.Matches]
      constructor
      · intro h
        split_ifs at h with hc
        · obtain ⟨rfl, rfl⟩ := Prod.mk.injEq .. ▸ List.mem_singleton.mp h
          exact ⟨⟨c, hc, rfl⟩, rfl⟩
        · cases h
      · rintro ⟨⟨c', hc, rfl⟩, same⟩
        obtain ⟨rfl, rfl⟩ := List.cons_eq_cons.mp same
        rw [if_pos hc]
        exact List.mem_singleton_self _
  | many greedy p =>
    cases greedy with
    | true => exact List.mem_reverse.trans mem_runs_iff
    | false => exact mem_runs_iff
  | seq first second ihf ihs =>
    simp only [Pattern.splits, Pattern.Matches, List.mem_flatMap, List.mem_map, Prod.exists,
      Prod.mk.injEq]
    constructor
    · rintro ⟨u, rest', hu, v, rest, hv, rfl, rfl⟩
      obtain ⟨mu, rfl⟩ := ihf.mp hu
      obtain ⟨mv, rfl⟩ := ihs.mp hv
      exact ⟨⟨u, v, mu, mv, rfl⟩, List.append_assoc ..⟩
    · rintro ⟨⟨u, v, mu, mv, rfl⟩, rfl⟩
      exact ⟨u, v ++ rest, ihf.mpr ⟨mu, (List.append_assoc ..).symm⟩, v, rest,
        ihs.mpr ⟨mv, rfl⟩, rfl, rfl⟩
  | alt preferred other ihp iho =>
    rw [Pattern.splits, Pattern.Matches, List.mem_append, ihp, iho, or_and_right]

theorem plus_matches {greedy : Bool} {p : α → Bool} {text : List α} :
    (plus greedy p).Matches text ↔ text ≠ [] ∧ ∀ c ∈ text, p c = true := by
  constructor
  · rintro ⟨_, v, ⟨c, hc, rfl⟩, hv, rfl⟩
    exact ⟨by simp, List.forall_mem_cons.mpr ⟨hc, hv⟩⟩
  · rintro ⟨hne, h⟩
    obtain ⟨c, cs, rfl⟩ := List.exists_cons_of_ne_nil hne
    exact ⟨[c], cs, ⟨c, h c List.mem_cons_self, rfl⟩, fun c' hc' => h c' (.tail _ hc'), rfl⟩

theorem opt_matches {pattern : Pattern α} {text : List α} :
    (opt pattern).Matches text ↔ pattern.Matches text ∨ text = [] := Iff.rfl

theorem word_matches [DecidableEq α] {cs text : List α} :
    (word cs).Matches text ↔ text = cs := by
  induction cs generalizing text with
  | nil => rfl
  | cons c cs ih =>
    constructor
    · rintro ⟨_, v, ⟨c', hc, rfl⟩, hv, rfl⟩
      rw [ih.mp hv, of_decide_eq_true hc]
      rfl
    · rintro rfl
      exact ⟨[c], cs, ⟨c, decide_eq_true rfl, rfl⟩, ih.mpr rfl, rfl⟩

/-! ## Expressions -/

/-- A segment of an expression, in a group that is captured or not. No group is optional or
repeated, so that each has a text in every match. -/
structure Segment (α : Type) where
  captured : Bool
  pattern : Pattern α

/-- A group that is captured. -/
def group (pattern : Pattern α) : Segment α := ⟨true, pattern⟩

def skip (pattern : Pattern α) : Segment α := ⟨false, pattern⟩

/-- The ways to divide a whole text among the segments, in the order of preference. -/
def divisions : List (Segment α) → List α → List (List (List α))
  | [], [] => [[]]
  | [], _ :: _ => []
  | segment :: segments, cs =>
    (segment.pattern.splits cs).flatMap fun (used, rest) =>
      (divisions segments rest).map (used :: ·)

def captures (segments : List (Segment α)) (pieces : List (List α)) : List (List α) :=
  ((segments.zip pieces).filter (·.1.captured)).map (·.2)

/-- The captured texts of the first match of the whole text. -/
def exec (segments : List (Segment α)) (cs : List α) : Option (List (List α)) :=
  (divisions segments cs).head?.map (captures segments)

/-- The segments match the pieces, one by one. -/
def Fits (segments : List (Segment α)) (pieces : List (List α)) : Prop :=
  List.Forall₂ (fun segment piece => segment.pattern.Matches piece) segments pieces

@[simp] theorem fits_nil {pieces : List (List α)} : Fits [] pieces ↔ pieces = [] :=
  List.forall₂_nil_left_iff

@[simp] theorem fits_cons {segment : Segment α} {segments : List (Segment α)}
    {pieces : List (List α)} :
    Fits (segment :: segments) pieces ↔
      ∃ piece rest, segment.pattern.Matches piece ∧ Fits segments rest ∧ pieces = piece :: rest :=
  List.forall₂_cons_left_iff

theorem mem_divisions_iff {segments : List (Segment α)} {cs : List α} {pieces : List (List α)} :
    pieces ∈ divisions segments cs ↔ Fits segments pieces ∧ pieces.flatten = cs := by
  induction segments generalizing cs pieces with
  | nil =>
    rw [fits_nil]
    cases cs with
    | nil =>
      rw [divisions, List.mem_singleton]
      exact ⟨fun h => ⟨h, by rw [h, List.flatten_nil]⟩, And.left⟩
    | cons c cs =>
      simp only [divisions, List.not_mem_nil, false_iff, not_and]
      rintro rfl same
      cases same
  | cons segment segments ih =>
    simp only [divisions, List.mem_flatMap, List.mem_map, Prod.exists, fits_cons]
    constructor
    · rintro ⟨used, rest, hused, pieces, hpieces, rfl⟩
      obtain ⟨matched, rfl⟩ := mem_splits_iff.mp hused
      obtain ⟨fits, rfl⟩ := ih.mp hpieces
      exact ⟨⟨used, pieces, matched, fits, rfl⟩, List.flatten_cons⟩
    · rintro ⟨⟨used, pieces, matched, fits, rfl⟩, rfl⟩
      exact ⟨used, pieces.flatten, mem_splits_iff.mpr ⟨matched, List.flatten_cons.symm⟩, pieces,
        ih.mpr ⟨fits, rfl⟩, rfl⟩

theorem exec_eq_none_iff {segments : List (Segment α)} {cs : List α} :
    exec segments cs = none ↔ ∀ pieces, Fits segments pieces → pieces.flatten ≠ cs := by
  rw [exec, Option.map_eq_none_iff, List.head?_eq_none_iff, List.eq_nil_iff_forall_not_mem]
  simp only [mem_divisions_iff, not_and, ne_eq]

theorem exec_isSome_iff {segments : List (Segment α)} {cs : List α} :
    (exec segments cs).isSome = true ↔ ∃ pieces, Fits segments pieces ∧ pieces.flatten = cs := by
  rw [← Option.ne_none_iff_isSome, ne_eq, exec_eq_none_iff]
  push Not
  rfl

/-- An expression with one match finds it, whatever it prefers. -/
theorem exec_of_unique {segments : List (Segment α)} {pieces : List (List α)}
    (fits : Fits segments pieces)
    (unique : ∀ others, Fits segments others → others.flatten = pieces.flatten → others = pieces) :
    exec segments pieces.flatten = some (captures segments pieces) := by
  have found : pieces ∈ divisions segments pieces.flatten := mem_divisions_iff.mpr ⟨fits, rfl⟩
  unfold exec
  cases hways : divisions segments pieces.flatten with
  | nil =>
    rw [hways] at found
    cases found
  | cons first others =>
    have first_mem : first ∈ divisions segments pieces.flatten := hways ▸ List.mem_cons_self
    obtain ⟨fits', same⟩ := mem_divisions_iff.mp first_mem
    rw [unique first fits' same]
    rfl

/-! ## Runs -/

/-- The run is over: nothing follows it, or something that does not belong to it. -/
def Ends (p : α → Bool) (rest : List α) : Prop := ∀ c ∈ rest.head?, p c = false

@[simp] theorem ends_nil {p : α → Bool} : Ends p [] := nofun

@[simp] theorem ends_cons {p : α → Bool} {c : α} {rest : List α} :
    Ends p (c :: rest) ↔ p c = false := by
  simp [Ends]

theorem ends_append {p : α → Bool} {u rest : List α} (hu : ∀ c ∈ u, p c = false)
    (ends : Ends p rest) : Ends p (u ++ rest) := by
  cases u with
  | nil => exact ends
  | cons c u => exact ends_cons.mpr (hu c List.mem_cons_self)

theorem ends_append_of_ne_nil {p : α → Bool} {u : List α} (hne : u ≠ [])
    (hu : ∀ c ∈ u, p c = false) (rest : List α) : Ends p (u ++ rest) := by
  obtain ⟨c, u, rfl⟩ := List.exists_cons_of_ne_nil hne
  exact ends_cons.mpr (hu c List.mem_cons_self)

/-- A text starts with one run that is over. -/
theorem run_unique {p : α → Bool} {u v rest rest' : List α} (hu : ∀ c ∈ u, p c = true)
    (hv : ∀ c ∈ v, p c = true) (ends : Ends p rest) (ends' : Ends p rest')
    (same : u ++ rest = v ++ rest') : u = v ∧ rest = rest' := by
  induction u generalizing v with
  | nil =>
    cases v with
    | nil => exact ⟨rfl, same⟩
    | cons c v =>
      rw [List.nil_append] at same
      subst same
      rw [List.cons_append, ends_cons, hv c List.mem_cons_self] at ends
      cases ends
  | cons c u ih =>
    cases v with
    | nil =>
      rw [List.nil_append] at same
      subst same
      rw [List.cons_append, ends_cons, hu c List.mem_cons_self] at ends'
      cases ends'
    | cons c' v =>
      obtain ⟨rfl, tails⟩ := List.cons_eq_cons.mp same
      obtain ⟨rfl, rests⟩ :=
        ih (fun c hc => hu c (.tail _ hc)) (fun c hc => hv c (.tail _ hc)) tails
      exact ⟨rfl, rests⟩

end Regex
