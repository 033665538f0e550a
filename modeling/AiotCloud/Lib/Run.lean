import Mathlib.Order.Basic

/-!
# Runs of a deterministic machine

A machine is a step function over states and events. A run folds the step over
a list of events. This file has the two induction rules of a run:

1. `invariant`: a property every step keeps holds after every run.
2. `invariant_of_meets`: the same when only the steps that meet a condition
   keep the property, for a run whose steps all meet it.

`always_iff_meets` makes the second one exact: the property holds all along the
run just when every step of the run meets the condition. `meets_congr` exchanges
the condition for another one that says the same under an invariant, and
`meets_const_iff` is for conditions that do not look at the state, and
`meets_and_iff` for two conditions at once.
-/

namespace Run

variable {σ ε : Type}

/-- The state after the events `es`. -/
def exec (step : σ → ε → σ) (s : σ) (es : List ε) : σ := es.foldl step s

/-- Every step of the run meets `ok` in the state it starts from. -/
def Meets (step : σ → ε → σ) (ok : σ → ε → Prop) : σ → List ε → Prop
  | _, [] => True
  | s, e :: es => ok s e ∧ Meets step ok (step s e) es

variable {step : σ → ε → σ} {ok : σ → ε → Prop} {inv : σ → Prop} {s : σ}

@[simp] theorem exec_nil : exec step s [] = s := rfl

@[simp] theorem exec_cons {e : ε} {es : List ε} :
    exec step s (e :: es) = exec step (step s e) es := rfl

theorem exec_append {es es' : List ε} :
    exec step s (es ++ es') = exec step (exec step s es) es' :=
  List.foldl_append

/-- A property that every step keeps holds after every run. -/
theorem invariant (keeps : ∀ s e, inv s → inv (step s e)) (init : inv s) (es : List ε) :
    inv (exec step s es) := by
  induction es generalizing s with
  | nil => exact init
  | cons e es ih => exact ih (keeps s e init)

/-- A property kept by the steps that meet `ok` holds after every run of such
steps. -/
theorem invariant_of_meets (keeps : ∀ s e, inv s → ok s e → inv (step s e)) (init : inv s)
    {es : List ε} (meets : Meets step ok s es) : inv (exec step s es) := by
  induction es generalizing s with
  | nil => exact init
  | cons e es ih => exact ih (keeps s e init meets.1) meets.2

/-- A run that meets `ok` meets it on every prefix. -/
theorem Meets.prefix {es es' : List ε} (meets : Meets step ok s (es ++ es')) :
    Meets step ok s es := by
  induction es generalizing s with
  | nil => trivial
  | cons e es ih => exact ⟨meets.1, ih meets.2⟩

/-- A condition on the events alone is met by a run just when each event meets it. -/
theorem meets_const_iff {q : ε → Prop} {es : List ε} :
    Meets step (fun _ e => q e) s es ↔ ∀ e ∈ es, q e := by
  induction es generalizing s with
  | nil => simp [Meets]
  | cons e es ih => simp [Meets, ih]

theorem meets_and_iff {ok' : σ → ε → Prop} {es : List ε} :
    Meets step (fun s e => ok s e ∧ ok' s e) s es ↔ Meets step ok s es ∧ Meets step ok' s es := by
  induction es generalizing s with
  | nil => simp [Meets]
  | cons e es ih => simp only [Meets, ih, and_and_and_comm]

/-- Suppose `inv` implies the property `P`, a step that meets `ok` keeps `inv`, and
a step from `inv` to `P` meets `ok`. Then `P` holds after every prefix of the run
exactly if every step of the run meets `ok`. -/
theorem always_iff_meets {P : σ → Prop} (implies : ∀ s, inv s → P s)
    (keeps : ∀ s e, inv s → ok s e → inv (step s e))
    (needs : ∀ s e, inv s → P (step s e) → ok s e) (init : inv s) (es : List ε) :
    (∀ pre, pre <+: es → P (exec step s pre)) ↔ Meets step ok s es := by
  constructor
  · intro always
    induction es generalizing s with
    | nil => trivial
    | cons e es ih =>
      have first : ok s e := needs s e init (always [e] ⟨es, rfl⟩)
      refine ⟨first, ih (keeps s e init first) fun pre hpre => ?_⟩
      obtain ⟨post, rfl⟩ := hpre
      exact always (e :: pre) ⟨post, rfl⟩
  · rintro meets pre ⟨post, rfl⟩
    exact implies _ (invariant_of_meets keeps init meets.prefix)

/-- Two conditions on steps that are the same under an invariant pick the same
runs. -/
theorem meets_congr {ok' : σ → ε → Prop} (same : ∀ s e, inv s → (ok s e ↔ ok' s e))
    (keeps : ∀ s e, inv s → ok s e → inv (step s e)) (init : inv s) (es : List ε) :
    Meets step ok s es ↔ Meets step ok' s es := by
  induction es generalizing s with
  | nil => exact Iff.rfl
  | cons e es ih =>
    constructor
    · rintro ⟨first, rest⟩
      exact ⟨(same s e init).mp first, (ih (keeps s e init first)).mp rest⟩
    · rintro ⟨first, rest⟩
      have first' := (same s e init).mpr first
      exact ⟨first', (ih (keeps s e init first')).mpr rest⟩

end Run
