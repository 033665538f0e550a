import Mathlib.Data.List.TakeWhile

/-!
# Anchored patterns over slash-separated paths

A pattern is a list of literals and captures, matched against a whole path. A
segment capture takes one or more characters other than `/`, a digits capture
one or more decimal digits. The matcher is greedy and does not backtrack.

`matchPieces_eq_some_iff`: when every capture is followed by a literal that
starts with `/`, or by the end, the matcher accepts exactly the paths the
pattern renders, with the captures they are rendered from. So giving back
characters could not have found another match.
-/

namespace PathPattern

/-- What a capture takes. -/
inductive CharClass where
  | segment
  | digits
deriving DecidableEq, Repr

def CharClass.takes : CharClass → Char → Bool
  | segment, c => c != '/'
  | digits, c => c.isDigit

inductive Piece where
  | lit (chars : List Char)
  | capture (cls : CharClass)
deriving DecidableEq, Repr

/-- The captures of the path, if the whole path matches. -/
def matchPieces : List Piece → List Char → Option (List (List Char))
  | [], [] => some []
  | [], _ :: _ => none
  | .lit l :: ps, cs => if l <+: cs then matchPieces ps (cs.drop l.length) else none
  | .capture k :: ps, cs =>
    match cs.takeWhile k.takes with
    | [] => none
    | c :: cap => (matchPieces ps (cs.dropWhile k.takes)).map ((c :: cap) :: ·)

/-- The path `cs` is the pattern with its captures filled in by `caps`. -/
def Renders : List Piece → List (List Char) → List Char → Prop
  | [], [], cs => cs = []
  | .lit l :: ps, caps, cs => ∃ rest, cs = l ++ rest ∧ Renders ps caps rest
  | .capture k :: ps, cap :: caps, cs =>
    cap ≠ [] ∧ (∀ c ∈ cap, k.takes c) ∧ ∃ rest, cs = cap ++ rest ∧ Renders ps caps rest
  | _, _, _ => False

/-- The pattern is at its end, or goes on with a literal that starts with `/`. -/
def Stops : List Piece → Prop
  | [] => True
  | .lit l :: _ => l.head? = some '/'
  | .capture _ :: _ => False

/-- Every capture is followed by a `/` or by the end. -/
def Delimited : List Piece → Prop
  | [] => True
  | .lit _ :: ps => Delimited ps
  | .capture _ :: ps => Stops ps ∧ Delimited ps

theorem CharClass.takes_slash (k : CharClass) : k.takes '/' = false := by
  cases k <;> rfl

theorem takeWhile_append_of_stop {p : Char → Bool} {cap rest : List Char}
    (hcap : ∀ c ∈ cap, p c) (hrest : rest.takeWhile p = []) :
    (cap ++ rest).takeWhile p = cap ∧ (cap ++ rest).dropWhile p = rest := by
  have htake : (cap ++ rest).takeWhile p = cap := by
    rw [List.takeWhile_append_of_pos hcap, hrest, List.append_nil]
  refine ⟨htake, ?_⟩
  have h := List.takeWhile_append_dropWhile (p := p) (l := cap ++ rest)
  rw [htake] at h
  exact List.append_cancel_left h

/-- What is left after a capture starts with `/` or is empty. -/
theorem Renders.takeWhile_of_stops {ps : List Piece} {caps : List (List Char)} {cs : List Char}
    (stops : Stops ps) (h : Renders ps caps cs) (k : CharClass) : cs.takeWhile k.takes = [] := by
  cases ps with
  | nil =>
    cases caps with
    | nil => rw [show cs = [] from h, List.takeWhile_nil]
    | cons _ _ => exact h.elim
  | cons p ps =>
    cases p with
    | lit l =>
      obtain ⟨rest, rfl, _⟩ := h
      obtain ⟨l', rfl⟩ := List.head?_eq_some_iff.mp stops
      simp [k.takes_slash]
    | capture _ => exact stops.elim

theorem matchPieces_eq_some_iff {ps : List Piece} (delimited : Delimited ps)
    {cs : List Char} {caps : List (List Char)} :
    matchPieces ps cs = some caps ↔ Renders ps caps cs := by
  induction ps generalizing cs caps with
  | nil => cases cs <;> cases caps <;> simp [matchPieces, Renders]
  | cons p ps ih =>
    cases p with
    | lit l =>
      by_cases hl : l <+: cs
      · obtain ⟨rest, rfl⟩ := hl
        simp [matchPieces, Renders, ih delimited]
      · simp only [matchPieces, hl, if_false, Renders, reduceCtorEq, false_iff]
        rintro ⟨rest, rfl, _⟩
        exact hl ⟨rest, rfl⟩
    | capture k =>
      obtain ⟨stops, delimited⟩ := delimited
      constructor
      · intro h
        have hsplit := List.takeWhile_append_dropWhile (p := k.takes) (l := cs)
        have hall : ∀ c ∈ cs.takeWhile k.takes, k.takes c := fun c hc => List.mem_takeWhile_imp hc
        cases htake : cs.takeWhile k.takes with
        | nil => simp [matchPieces, htake] at h
        | cons c cap =>
          simp only [matchPieces, htake, Option.map_eq_some_iff] at h
          obtain ⟨caps', hcaps', rfl⟩ := h
          rw [htake] at hsplit hall
          exact ⟨List.cons_ne_nil c cap, hall, _, hsplit.symm, (ih delimited).mp hcaps'⟩
      · intro h
        cases caps with
        | nil => exact h.elim
        | cons cap caps =>
          obtain ⟨hne, hall, rest, rfl, hrest⟩ := h
          obtain ⟨htake, hdrop⟩ :=
            takeWhile_append_of_stop hall (hrest.takeWhile_of_stops stops k)
          cases cap with
          | nil => exact absurd rfl hne
          | cons c cap =>
            simp only [matchPieces, htake, hdrop, (ih delimited).mpr hrest, Option.map_some]

end PathPattern
