import AiotCloud.Lib.Run
import Mathlib.Data.List.Induction

/-!
# Last writer wins

Events that each report some fields, and a view that is merged from what a machine sends on
each event, which may be more than the event reports.

`agrees_iff`: the view shows the last report of every field all along a run exactly when
no event sends a field that it does not report with another value than the last report.
-/

namespace LastWriter

variable {κ ν ε σ : Type}

/-- The fields of `b` over those of `a`. -/
def spread (a b : κ → Option ν) (k : κ) : Option ν := (b k).or (a k)

/-- What the last event carries that reports the field. -/
def last (reports : ε → κ → Option ν) (es : List ε) (k : κ) : Option ν :=
  es.reverse.findSome? (reports · k)

variable {reports : ε → κ → Option ν}

theorem last_concat (es : List ε) (e : ε) :
    last reports (es ++ [e]) = spread (last reports es) (reports e) := by
  funext k
  unfold last spread
  rw [List.reverse_append, List.reverse_singleton, List.singleton_append, List.findSome?_cons]
  cases reports e k <;> rfl

/-- A value that each event overwrites with its report is the last one reported. -/
theorem exec_eq_last {step : σ → ε → σ} (view : σ → κ → Option ν)
    (merges : ∀ s e, view (step s e) = spread (view s) (reports e)) (s : σ) (es : List ε) :
    view (Run.exec step s es) = spread (view s) (last reports es) := by
  induction es using List.reverseRecOn with
  | nil => rfl
  | append_singleton es e ih =>
    rw [Run.exec_append, Run.exec_cons, Run.exec_nil, merges, ih, last_concat]
    funext k
    exact Option.or_assoc.symm

theorem agrees_iff {step : σ → ε → σ} (view : σ → κ → Option ν) (sent : σ → ε → κ → Option ν)
    (merges : ∀ s e, view (step s e) = spread (view s) (sent s e)) {s : σ}
    (init : ∀ k, view s k = none) (es : List ε) :
    (∀ pre, pre <+: es → view (Run.exec step s pre) = last reports pre) ↔
      ∀ pre e, pre ++ [e] <+: es →
        spread (last reports pre) (sent (Run.exec step s pre) e) =
          spread (last reports pre) (reports e) := by
  have after (pre : List ε) (e : ε) : view (Run.exec step s (pre ++ [e])) =
      spread (view (Run.exec step s pre)) (sent (Run.exec step s pre) e) := by
    rw [Run.exec_append, Run.exec_cons, Run.exec_nil, merges]
  constructor
  · intro agrees pre e hpre
    rw [← agrees pre ((List.prefix_append pre [e]).trans hpre), ← after, agrees _ hpre, last_concat,
      agrees pre ((List.prefix_append pre [e]).trans hpre)]
  · intro same pre
    induction pre using List.reverseRecOn with
    | nil => exact fun _ => funext init
    | append_singleton pre e ih =>
      intro hpre
      rw [after, ih ((List.prefix_append pre [e]).trans hpre), last_concat, same pre e hpre]

end LastWriter
