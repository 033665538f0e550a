import Mathlib.Algebra.BigOperators.Group.Finset.Basic
import Mathlib.Algebra.Order.Group.Multiset
import Mathlib.Data.Fintype.BigOperators
import Mathlib.Data.Multiset.Count
import Mathlib.Tactic.Abel
import AiotCloud.Lib.Interleave

/-!
# Tallies of a trace

* `tally`: what the steps of a trace add up to, each counted with the steps before it.
* `Sys.sum_fire`: how a step changes what the processes hold in total.
-/

namespace Interleave

section Tally

variable {ι ℓ β : Type} {f : List (ι × ℓ) → ι × ℓ → Multiset β}

/-- What the steps of `trace` add up to, when those of `before` came first. -/
def tallyFrom (f : List (ι × ℓ) → ι × ℓ → Multiset β) :
    List (ι × ℓ) → List (ι × ℓ) → Multiset β
  | _, [] => 0
  | before, x :: trace => f before x + tallyFrom f (before ++ [x]) trace

def tally (f : List (ι × ℓ) → ι × ℓ → Multiset β) (trace : List (ι × ℓ)) : Multiset β :=
  tallyFrom f [] trace

@[simp] theorem tally_nil : tally f [] = 0 := rfl

theorem tallyFrom_concat (before trace : List (ι × ℓ)) (x : ι × ℓ) :
    tallyFrom f before (trace ++ [x]) = tallyFrom f before trace + f (before ++ trace) x := by
  induction trace generalizing before with
  | nil => simp [tallyFrom]
  | cons y trace ih =>
    rw [List.cons_append, tallyFrom, ih, tallyFrom, add_assoc, List.append_assoc]
    rfl

theorem tally_concat (trace : List (ι × ℓ)) (x : ι × ℓ) :
    tally f (trace ++ [x]) = tally f trace + f trace x := tallyFrom_concat [] trace x

/-- Two tallies have as much of two values if the steps have. -/
theorem count_tally_congr {γ : Type} [DecidableEq β] [DecidableEq γ]
    {g : List (ι × ℓ) → ι × ℓ → Multiset γ} {b : β} {c : γ}
    (same : ∀ before x, (f before x).count b = (g before x).count c) (trace : List (ι × ℓ)) :
    (tally f trace).count b = (tally g trace).count c := by
  induction trace using List.reverseRecOn with
  | nil => rfl
  | append_singleton trace x ih =>
    rw [tally_concat, tally_concat, Multiset.count_add, Multiset.count_add, ih, same]

end Tally

/-- What the processes hold in total changes by what the process that steps holds. -/
theorem Sys.sum_fire {ι σ ℓ α β : Type} [Fintype ι] [DecidableEq ι] (act : σ → ℓ → σ)
    (holds : Proc σ ℓ α → Multiset β) {c : Sys ι σ ℓ α} {i : ι} {l : ℓ} {k : σ → Proc σ ℓ α}
    (h : c.procs i = .step l k) :
    ∑ j, holds ((c.fire act i).procs j) + holds (.step l k) =
      ∑ j, holds (c.procs j) + holds (k c.shared) := by
  rw [fire_of_step act h, ← Finset.add_sum_erase _ _ (Finset.mem_univ i),
    ← Finset.add_sum_erase _ (fun j => holds (c.procs j)) (Finset.mem_univ i), h]
  have others : ∑ j ∈ Finset.univ.erase i, holds (Function.update c.procs i (k c.shared) j) =
      ∑ j ∈ Finset.univ.erase i, holds (c.procs j) := by
    refine Finset.sum_congr rfl fun j hj => ?_
    rw [Function.update_of_ne (Finset.ne_of_mem_erase hj)]
  dsimp only
  rw [others, Function.update_self]
  abel

end Interleave
