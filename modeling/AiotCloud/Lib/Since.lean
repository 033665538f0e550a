import AiotCloud.Lib.Run
import Mathlib.Data.List.Induction

/-!
# Since

A fact that one kind of step starts and another kind keeps: it holds after a run if some step of
the run started it and every later step kept it.

* `since_concat_iff`: the last step of the run.
* `exec_iff_since`: a fact that is started and kept step by step.
-/

namespace Run

variable {σ ε τ : Type} {step : σ → ε → σ} {starts keeps : τ → σ → ε → Prop} {s : σ} {t : τ}

/-- A step of the run met `starts`, and every later one met `keeps`. -/
def Since (step : σ → ε → σ) (starts keeps : τ → σ → ε → Prop) (s : σ) (es : List ε) (t : τ) :
    Prop :=
  ∃ before e after, es = before ++ e :: after ∧ starts t (exec step s before) e ∧
    Meets step (keeps t) (exec step s (before ++ [e])) after

theorem meets_concat_iff {ok : σ → ε → Prop} {es : List ε} {e : ε} :
    Meets step ok s (es ++ [e]) ↔ Meets step ok s es ∧ ok (exec step s es) e := by
  induction es generalizing s with
  | nil => simp [Meets]
  | cons e' es ih => simp [Meets, ih, and_assoc]

theorem not_since_nil : ¬ Since step starts keeps s [] t := by
  rintro ⟨before, e, after, h, -⟩
  simp at h

theorem since_concat_iff {es : List ε} {e : ε} :
    Since step starts keeps s (es ++ [e]) t ↔
      starts t (exec step s es) e ∨
        Since step starts keeps s es t ∧ keeps t (exec step s es) e := by
  constructor
  · rintro ⟨before, start, after, h, started, kept⟩
    induction after using List.reverseRecOn with
    | nil =>
      obtain ⟨rfl, rfl⟩ : es = before ∧ e = start := by simpa using h
      exact Or.inl started
    | append_singleton after last =>
      rw [← List.cons_append, ← List.append_assoc] at h
      obtain ⟨rfl, hlast⟩ := List.append_inj' h rfl
      obtain rfl := List.singleton_inj.mp hlast
      obtain ⟨kept, final⟩ := meets_concat_iff.mp kept
      refine Or.inr ⟨⟨before, start, after, rfl, started, kept⟩, ?_⟩
      rwa [← exec_append, List.append_assoc] at final
  · rintro (started | ⟨⟨before, start, after, rfl, started, kept⟩, final⟩)
    · exact ⟨es, e, [], rfl, started, trivial⟩
    · refine ⟨before, start, after ++ [e], by simp, started, meets_concat_iff.mpr ⟨kept, ?_⟩⟩
      rwa [← exec_append, List.append_assoc]

/-- A fact that holds after a step exactly if the step starts it, or keeps it. -/
theorem exec_iff_since {fact : τ → σ → Prop}
    (step_iff : ∀ t s e, fact t (step s e) ↔ starts t s e ∨ fact t s ∧ keeps t s e)
    (init : ¬ fact t s) (es : List ε) :
    fact t (exec step s es) ↔ Since step starts keeps s es t := by
  induction es using List.reverseRecOn with
  | nil => exact iff_of_false init not_since_nil
  | append_singleton es e ih =>
    rw [exec_append, exec_cons, exec_nil, step_iff, ih, since_concat_iff]

end Run
