import Mathlib.Data.List.Induction
import AiotCloud.Lib.Run

/-!
# Statements that write more cells than they mean to

A row gives each cell a value of the cell's own type. A statement is meant to set some
cells and may carry others along, at the values of an older copy of the row.
The row that is wanted after a sequence of statements holds, in each cell, the
value of the last statement meant to set it (`wanted`).

1. `commit_eq_intend_iff`: one statement does what it is meant to do exactly
   when nothing it carries along is stale.
2. `always_wanted_iff`: a sequence of statements leaves the wanted row after
   every prefix exactly when none of them carries anything stale.
3. `wanted_apply`: the wanted value of a cell is that of the last statement meant to
   set it.
-/

namespace Cells

variable {C : Type} {V : C → Type}

/-- A statement over the cells `C`: the cells it is meant to set, and all the
cells it writes. -/
structure Write (C : Type) (V : C → Type) where
  meant : (c : C) → Option (V c)
  carried : (c : C) → Option (V c)
  meant_carried : ∀ c v, meant c = some v → carried c = some v

namespace Write

/-- The row after the statement. -/
def commit (r : (c : C) → V c) (w : Write C V) : (c : C) → V c := fun c => (w.carried c).getD (r c)

/-- The row after a statement that writes only what it is meant to set. -/
def intend (r : (c : C) → V c) (w : Write C V) : (c : C) → V c := fun c => (w.meant c).getD (r c)

/-- What the statement carries along still stands in the row. -/
def Fresh (r : (c : C) → V c) (w : Write C V) : Prop :=
  ∀ c v, w.meant c = none → w.carried c = some v → r c = v

theorem commit_eq_intend_iff {r : (c : C) → V c} {w : Write C V} :
    w.commit r = w.intend r ↔ w.Fresh r := by
  constructor
  · intro same c v hm hc
    have hcell := congrFun same c
    simpa [commit, intend, hm, hc] using hcell.symm
  · intro fresh
    funext c
    cases hm : w.meant c with
    | some v => simp [commit, intend, hm, w.meant_carried c v hm]
    | none =>
      cases hc : w.carried c with
      | none => simp [commit, intend, hm, hc]
      | some v => simp [commit, intend, hm, hc, fresh c v hm hc]

end Write

open Write

/-- The row wanted after the statements `ws`. -/
def wanted (r : (c : C) → V c) (ws : List (Write C V)) : (c : C) → V c := Run.exec intend r ws

theorem wanted_append_singleton {r : (c : C) → V c} {ws : List (Write C V)} {w : Write C V} :
    wanted r (ws ++ [w]) = w.intend (wanted r ws) :=
  Run.exec_append

/-- The last statement meant to set a cell decides its wanted value. -/
theorem wanted_apply (r : (c : C) → V c) (ws : List (Write C V)) (c : C) :
    wanted r ws c = ((ws.filterMap (·.meant c)).getLast?).getD (r c) := by
  induction ws using List.reverseRecOn with
  | nil => rfl
  | append_singleton ws w ih =>
    rw [wanted_append_singleton, List.filterMap_append]
    cases hw : w.meant c with
    | some v => simp [intend, hw]
    | none => simpa [intend, hw] using ih

/-- The rows left by the statements are the wanted ones, after every prefix,
exactly when each statement finds what it carries along unchanged. -/
theorem always_wanted_iff (r : (c : C) → V c) (ws : List (Write C V)) :
    (∀ pre, pre <+: ws → Run.exec commit r pre = wanted r pre) ↔
      Run.Meets commit (fun r w => w.Fresh r) r ws := by
  constructor
  · intro always
    induction ws generalizing r with
    | nil => trivial
    | cons w ws ih =>
      have first : w.commit r = w.intend r := always [w] ⟨ws, rfl⟩
      refine ⟨commit_eq_intend_iff.mp first, ih _ fun pre hpre => ?_⟩
      obtain ⟨post, rfl⟩ := hpre
      have next : Run.exec commit r (w :: pre) = wanted r (w :: pre) :=
        always (w :: pre) ⟨post, rfl⟩
      simpa [wanted, first] using next
  · rintro meets pre ⟨post, rfl⟩
    have meets' := meets.prefix
    clear meets
    induction pre generalizing r with
    | nil => rfl
    | cons w pre ih =>
      have first : w.commit r = w.intend r := commit_eq_intend_iff.mpr meets'.1
      simpa [wanted, first] using ih _ meets'.2

end Cells
