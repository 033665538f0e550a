import Mathlib.Data.Fintype.Card
import AiotCloud.ColumnWriters

/-!
# Concurrent config edits

Any number of `updateDeviceConfig` calls on one device, each with its read of the row and
its `save` of the whole copy. The transaction around them is read-committed, so it orders
nothing.

`edits_count_iff`: when all calls have succeeded, the version has risen once per call and
every field some call gives has the value of one of those calls, exactly when no call
saved between the read and the save of another.
-/

namespace AiotCloud

open Interleave ReadModifyWrite

/-! ## The calls -/

structure EditCall where
  userId : String
  dto : UpdateDeviceConfigDto

/-- `findOneBy({ id, userId })` on the row of the device. -/
def EditCall.found (call : EditCall) (row : DeviceEntity) : Option DeviceEntity :=
  if row.userId = call.userId then some row else none

/-- The save of a call that read `copy`. -/
def EditCall.save (call : EditCall) (copy : DeviceEntity) : RowWrite :=
  ⟨copy, .save (applyConfigDto call.dto copy), configColumns call.dto,
    sendsCopy_updateDeviceConfig rfl⟩

def EditCall.proc (call : EditCall) : Proc DeviceEntity RowStep (ResponseCore DeviceEntity) := do
  match ← Proc.read .read call.found with
  | none => pure (updateDeviceConfig call.dto none).1
  | some copy =>
    Proc.write (.write (call.save copy))
    pure (updateDeviceConfig call.dto (some copy)).1

variable {ι : Type}

/-- Calls at their start. -/
def editCalls (calls : ι → EditCall) (row : DeviceEntity) :
    Sys ι DeviceEntity RowStep (ResponseCore DeviceEntity) :=
  ⟨row, fun i => (calls i).proc⟩

/-- Every call has counted: the version rose by their number, and what some call gives has
the value that one of them gives. -/
structure AllCount [Fintype ι] (calls : ι → EditCall) (row final : DeviceEntity) : Prop where
  version : final.configVersion = row.configVersion + Fintype.card ι
  given : ∀ c, (∃ i, ((calls i).dto.gives c).isSome) →
    ∃ i, (calls i).dto.gives c = some (final.column c)

/-- Every call has returned success. -/
def AllSucceeded (c : Sys ι DeviceEntity RowStep (ResponseCore DeviceEntity)) : Prop :=
  ∀ i, ∃ answer, c.Returned i answer ∧ answer.error = .success

/-! ## Their points -/

theorem EditCall.proc_eq (call : EditCall) : call.proc = .step .read fun row =>
    match call.found row with
    | none => .ret (updateDeviceConfig call.dto none).1
    | some copy => .step (.write (call.save copy)) fun _ =>
        .ret (updateDeviceConfig call.dto (some copy)).1 := by
  unfold EditCall.proc
  rw [Proc.read_bind]
  congr 1

/-- A call before its save, with the copy it holds. -/
inductive Unsaved (call : EditCall) (p : Proc DeviceEntity RowStep (ResponseCore DeviceEntity))
    (copy : Option DeviceEntity) : Prop where
  | start (stands : p = call.proc)
  | saving (row : DeviceEntity) (holds : copy = some row)
      (stands : p = .step (.write (call.save row)) fun _ =>
        .ret (updateDeviceConfig call.dto (some row)).1)
  | refused (stands : p = .ret (updateDeviceConfig call.dto none).1)

/-- A call after its save. -/
def Saved (p : Proc DeviceEntity RowStep (ResponseCore DeviceEntity)) : Prop :=
  ∃ answer, p = .ret answer

theorem Unsaved.read {call : EditCall} {copy : Option DeviceEntity}
    {k : DeviceEntity → Proc DeviceEntity RowStep (ResponseCore DeviceEntity)}
    (h : Unsaved call (.step .read k) copy) (row : DeviceEntity) :
    Unsaved call (k row) (some row) := by
  cases h with
  | start stands =>
    rw [EditCall.proc_eq] at stands
    obtain ⟨-, rfl⟩ := Proc.step.inj stands
    cases hfound : call.found row with
    | none => exact .refused (by simp [hfound])
    | some copy =>
      have hcopy : row = copy := by
        unfold EditCall.found at hfound
        split at hfound
        · exact Option.some_inj.mp hfound
        · exact absurd hfound (by simp)
      subst hcopy
      exact .saving row rfl (by simp [hfound])
  | saving copy holds stands => cases stands
  | refused stands => cases stands

theorem Unsaved.write {call : EditCall} {copy : Option DeviceEntity} {w : RowWrite}
    {k : DeviceEntity → Proc DeviceEntity RowStep (ResponseCore DeviceEntity)}
    (h : Unsaved call (.step (.write w) k) copy) :
    ∃ row, copy = some row ∧ w = call.save row ∧
      ∀ s, k s = .ret (updateDeviceConfig call.dto (some row)).1 := by
  cases h with
  | start stands =>
    rw [EditCall.proc_eq] at stands
    cases stands
  | saving row holds stands =>
    obtain ⟨hw, rfl⟩ := Proc.step.inj stands
    exact ⟨row, holds, RowStep.write.inj hw, fun _ => rfl⟩
  | refused stands => cases stands

theorem edits_simulate [DecidableEq ι] (calls : ι → EditCall) :
    Simulates RowStep.act rowTurn id (fun i row => applyConfigDto (calls i).dto row)
      fun i p copy => Unsaved (calls i) p copy ∨ Saved p where
  other i l k copy row h hturn := by cases l <;> simp [rowTurn] at hturn
  read i l k copy row j h hturn := by
    obtain ⟨rfl, rfl⟩ := rowTurn_read hturn
    rcases h with unsaved | ⟨answer, hret⟩
    · exact ⟨rfl, rfl, Or.inl (unsaved.read row)⟩
    · cases hret
  write i l k copy row j h hturn := by
    obtain ⟨rfl, w, rfl⟩ := rowTurn_write hturn
    rcases h with unsaved | ⟨answer, hret⟩
    · obtain ⟨copied, hcopy, rfl, hnext⟩ := unsaved.write
      exact ⟨rfl, copied, hcopy, rfl, Or.inr ⟨_, hnext row⟩⟩
    · cases hret

theorem edits_write_once [DecidableEq ι] (calls : ι → EditCall) :
    WritesOnce rowTurn
      (fun i (p : Proc DeviceEntity RowStep (ResponseCore DeviceEntity)) =>
        ∃ copy, Unsaved (calls i) p copy)
      fun _ p => Saved p where
  own i l j hturn := (rowTurn_write hturn).1.symm
  before i l k s h quiet := by
    obtain ⟨copy, unsaved⟩ := h
    cases l with
    | read => exact ⟨some s, unsaved.read s⟩
    | write w => exact absurd rfl (quiet i)
  write i l k s j h hturn := by
    obtain ⟨copy, unsaved⟩ := h
    obtain ⟨-, w, rfl⟩ := rowTurn_write hturn
    obtain ⟨row, -, -, hnext⟩ := unsaved.write
    exact ⟨_, hnext s⟩
  after i l k s h := by
    obtain ⟨answer, hret⟩ := h
    cases hret

/-! ## What the saves leave -/

/-- The row after the edits in order. -/
def editAll (calls : ι → EditCall) (row : DeviceEntity) (order : List ι) : DeviceEntity :=
  order.foldl (fun row i => applyConfigDto (calls i).dto row) row

theorem editAll_concat (calls : ι → EditCall) (row : DeviceEntity) (order : List ι) (i : ι) :
    editAll calls row (order ++ [i]) = applyConfigDto (calls i).dto (editAll calls row order) := by
  simp [editAll]

theorem configVersion_editAll (calls : ι → EditCall) (row : DeviceEntity) (order : List ι) :
    (editAll calls row order).configVersion = row.configVersion + order.length := by
  induction order using List.reverseRecOn with
  | nil => rfl
  | append_singleton order i ih =>
    rw [editAll_concat, List.length_append, ← Nat.add_assoc, ← ih]
    rfl

/-- A column that some of the edits give has the value one of them gives. -/
theorem gives_editAll (calls : ι → EditCall) (row : DeviceEntity) (order : List ι)
    (c : DeviceColumn) (given : ∃ i ∈ order, ((calls i).dto.gives c).isSome) :
    ∃ i, (calls i).dto.gives c = some ((editAll calls row order).column c) := by
  induction order using List.reverseRecOn with
  | nil => simp at given
  | append_singleton order i ih =>
    have hc : c ≠ .configVersion := by
      rintro rfl
      obtain ⟨j, -, hj⟩ := given
      have never : (calls j).dto.gives .configVersion = none := rfl
      rw [never] at hj
      exact Bool.false_ne_true hj
    rw [editAll_concat, column_applyConfigDto_gives _ _ hc]
    cases hgives : (calls i).dto.gives c with
    | some v => exact ⟨i, hgives⟩
    | none =>
      obtain ⟨j, hj, hsome⟩ := given
      rcases List.mem_append.mp hj with hold | hlast
      · exact ih ⟨j, hold, hsome⟩
      · obtain rfl := List.mem_singleton.mp hlast
        simp [hgives] at hsome

section Calls

variable [DecidableEq ι] {calls : ι → EditCall} {row : DeviceEntity} {sched : List ι}

/-- The row is what the lineage of the saves makes of it. -/
theorem shared_editCalls (calls : ι → EditCall) (row : DeviceEntity) (sched : List ι) :
    ((editCalls calls row).run RowStep.act sched).shared =
      editAll calls row (lineage (turnsOf ((editCalls calls row).trace RowStep.act sched))) :=
  (edits_simulate calls).view_run (fun _ => Or.inl (.start rfl)) sched

/-- Each call that succeeded has saved once. -/
theorem writes_perm (succeeded : AllSucceeded ((editCalls calls row).run RowStep.act sched)) :
    (writes (turnsOf ((editCalls calls row).trace RowStep.act sched))).Nodup ∧
      ∀ i, i ∈ writes (turnsOf ((editCalls calls row).trace RowStep.act sched)) := by
  have written : Written (fun i p => ∃ copy, Unsaved (calls i) p copy) (fun _ p => Saved p)
      ((editCalls calls row).run RowStep.act sched)
      (writes (turnsOf ((editCalls calls row).trace RowStep.act sched))) :=
    (edits_write_once calls).written_run (fun i => ⟨none, .start rfl⟩) sched
  refine ⟨written.nodup, fun i => ?_⟩
  by_contra unwritten
  obtain ⟨copy, unsaved⟩ := written.before i unwritten
  obtain ⟨answer, hret, hok⟩ := succeeded i
  unfold Sys.Returned at hret
  cases unsaved with
  | start stands =>
    rw [hret, EditCall.proc_eq] at stands
    cases stands
  | saving copied holds stands =>
    rw [hret] at stands
    cases stands
  | refused stands =>
    rw [hret] at stands
    obtain rfl := Proc.ret.inj stands
    cases hok

/-- Of `updateDeviceConfig` calls that have all succeeded, under any schedule, every one
counts exactly when no call saved between the read and the save of another. -/
theorem edits_count_iff [Fintype ι]
    (succeeded : AllSucceeded ((editCalls calls row).run RowStep.act sched)) :
    AllCount calls row ((editCalls calls row).run RowStep.act sched).shared ↔
      Apart (turnsOf ((editCalls calls row).trace RowStep.act sched)) := by
  obtain ⟨nodup, all⟩ := writes_perm succeeded
  have hcard : (writes (turnsOf ((editCalls calls row).trace RowStep.act sched))).length =
      Fintype.card ι := by
    rw [← List.toFinset_card_of_nodup nodup, ← Finset.card_univ]
    congr 1
    ext i
    simp [all i]
  rw [← lineage_eq_writes_iff, shared_editCalls]
  generalize turnsOf ((editCalls calls row).trace RowStep.act sched) = turns at *
  constructor
  · intro count
    have hversion := count.version
    rw [configVersion_editAll] at hversion
    refine (lineage_sublist turns).eq_of_length ?_
    omega
  · intro whole
    rw [whole]
    refine ⟨by rw [configVersion_editAll, hcard], fun c hgiven => ?_⟩
    obtain ⟨i, hi⟩ := hgiven
    exact gives_editAll calls row _ c ⟨i, all i, hi⟩

end Calls

/-! ### Two calls at once -/

def twoEdits : Bool → EditCall
  | true => ⟨"u1", { isActive := some false }⟩
  | false => ⟨"u1", { alertRules := some (some ["hot"]) }⟩

/-- Two calls that read one row: the version rises by one and the first edit is lost. -/
theorem edits_lost :
    AllSucceeded ((editCalls twoEdits plainRelay).run RowStep.act [true, false, true, false]) ∧
      ¬ AllCount twoEdits plainRelay
        ((editCalls twoEdits plainRelay).run RowStep.act [true, false, true, false]).shared := by
  refine ⟨?_, fun count => absurd count.version (by decide)⟩
  rintro (_ | _) <;> exact ⟨_, rfl, rfl⟩

theorem edits_count_iff_twoEdits :
    AllCount twoEdits plainRelay
        ((editCalls twoEdits plainRelay).run RowStep.act [true, true, false, false]).shared ↔
      Apart (turnsOf
        ((editCalls twoEdits plainRelay).trace RowStep.act [true, true, false, false])) := by
  refine edits_count_iff ?_
  rintro (_ | _) <;> exact ⟨_, rfl, rfl⟩

end AiotCloud
