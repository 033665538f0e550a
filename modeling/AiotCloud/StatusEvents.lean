import AiotCloud.Lib.Tally
import AiotCloud.StatusWriters

/-!
# Status events

A call announces a status if the row it had read has another one; whether its update
changes the status depends on the row by then.

* `Balanced.step`: events, changes and overtaken updates after one step.
* `status_events_iff`: when the calls are through.
-/

namespace AiotCloud

open Interleave

variable {n : Nat}

def statusOf (device : DeviceEntity) (rows : List DeviceEntity) : DeviceStatus :=
  (rowOf device rows).status

/-! ## What is counted -/

/-- The statuses that a step announces for the device. -/
def announced (device : DeviceEntity) (_before : List (Fin n × StatusStep))
    (x : Fin n × StatusStep) : Multiset DeviceStatus :=
  match x.2 with
  | .emit events => statusesFor device.deviceId events
  | .read | .update _ => 0

/-- The status that a step changes the device's to. -/
def changed (table : DeviceTable) (device : DeviceEntity) (before : List (Fin n × StatusStep))
    (x : Fin n × StatusStep) : Multiset DeviceStatus :=
  let status := statusOf device (rowsAfter table (before ++ [x]))
  if statusOf device (rowsAfter table before) ≠ status then {status} else 0

/-- An update of the device's status: the status its call had read, the one it finds, and
the one it writes. -/
structure StatusWrite where
  read : DeviceStatus
  found : DeviceStatus
  next : DeviceStatus

def statusWrite (table : DeviceTable) (device : DeviceEntity)
    (before : List (Fin n × StatusStep)) : Fin n × StatusStep → Option StatusWrite
  | (i, .update u) =>
    if device.id ∈ u.ids then
      match u.columns.status, sinceRead table i before with
      | some next, some (rows, _) =>
        some ⟨statusOf device rows, statusOf device (rowsAfter table before), next⟩
      | _, _ => none
    else none
  | _ => none

/-- Its call had read another status, and it finds its own. -/
def StatusWrite.Repeats (w : StatusWrite) : Prop := w.read ≠ w.next ∧ w.found = w.next

/-- Its call had read its own status, and it finds another one. -/
def StatusWrite.Undoes (w : StatusWrite) : Prop := w.read = w.next ∧ w.found ≠ w.next

instance (w : StatusWrite) : Decidable w.Repeats := inferInstanceAs (Decidable (_ ∧ _))

instance (w : StatusWrite) : Decidable w.Undoes := inferInstanceAs (Decidable (_ ∧ _))

/-- The statuses written by the updates that `p` selects. -/
def written (p : StatusWrite → Bool) (table : DeviceTable) (device : DeviceEntity)
    (before : List (Fin n × StatusStep)) (x : Fin n × StatusStep) : Multiset DeviceStatus :=
  (((statusWrite table device before x).filter p).map (·.next)).toList

/-- The statuses that a call is about to announce for the device. -/
def pending (device : DeviceEntity) (p : StatusProc) : Multiset DeviceStatus :=
  match p.label with
  | some (.emit events) => statusesFor device.deviceId events
  | _ => 0

/-! ## The alert -/

/-- What `sendWarning` is called with. -/
structure OfflineWarning where
  userId : String
  message : String
  channels : Option (List NotificationChannelType)
  deviceId : String
deriving DecidableEq, Repr

def offlineWarning (device : DeviceEntity) : Option OfflineWarning :=
  (device.offlineAlert.filter (·.enabled)).map fun alert =>
    { userId := device.userId
      message := "[Cảnh báo] " ++ device.name ++ " đã ngoại tuyến"
      channels := alert.channels
      deviceId := device.id }

/-- The listener's `handleStatusChange`. -/
def handleStatusChange (rows : List DeviceEntity) : DeviceEvent → Option OfflineWarning
  | .status deviceId .offline _ =>
    (findByDeviceId rows deviceId).bind offlineWarning
  | _ => none

/-- The warnings for what a step emits. -/
def warned (table : DeviceTable) (before : List (Fin n × StatusStep))
    (x : Fin n × StatusStep) : Multiset OfflineWarning :=
  match x.2 with
  | .emit events => events.filterMap (handleStatusChange (rowsAfter table before))
  | .read | .update _ => 0

/-- The events announce the changes of the device's status, and its owner is warned once for
each time it goes offline. -/
structure StatusAnnounced (table : DeviceTable) (device : DeviceEntity)
    (trace : List (Fin n × StatusStep)) : Prop where
  events : tally (announced device) trace = tally (changed table device) trace
  warnings : ∀ warning, offlineWarning device = some warning →
    (tally (warned table) trace).count warning = (tally (changed table device) trace).count .offline

variable {table : DeviceTable} {device : DeviceEntity} {trace : List (Fin n × StatusStep)}

theorem offlineWarning_change (u : RowsUpdate) (device : DeviceEntity) :
    offlineWarning (u.change device) = offlineWarning device := by
  unfold RowsUpdate.change
  split <;> rfl

/-- The listener answers the same whenever it looks the device up. -/
theorem handleStatusChange_rowsAfter (event : DeviceEvent) :
    handleStatusChange (rowsAfter table trace) event = handleStatusChange table.rows event := by
  induction trace using List.reverseRecOn with
  | nil => rfl
  | append_singleton trace x ih =>
    rw [rowsAfter_concat, ← ih]
    generalize rowsAfter table trace = rows
    obtain ⟨i, l⟩ := x
    cases l with
    | read | emit => rfl
    | update u =>
      show handleStatusChange (u.apply rows) event = handleStatusChange rows event
      unfold handleStatusChange
      split
      · rw [findByDeviceId, RowsUpdate.apply, Keyed.find_map u.change_deviceId, Option.bind_map]
        exact congrArg _ (funext (offlineWarning_change u))
      · rfl

/-- The owner of the device is warned for an event just when it announces the device offline. -/
theorem handleStatusChange_eq_some_iff (hdevice : device ∈ table.rows) {warning : OfflineWarning}
    (enabled : offlineWarning device = some warning) (event : DeviceEvent) :
    handleStatusChange table.rows event = some warning ↔
      ∃ t, event = .status device.deviceId .offline t := by
  constructor
  · intro h
    unfold handleStatusChange at h
    split at h
    · next deviceId t =>
      obtain ⟨other, hfind, hother⟩ := Option.bind_eq_some_iff.mp h
      obtain ⟨hmem, rfl⟩ := Keyed.mem_of_find hfind
      have id : ∀ d, offlineWarning d = some warning → warning.deviceId = d.id := by
        intro d hd
        obtain ⟨alert, -, rfl⟩ := Option.map_eq_some_iff.mp hd
        rfl
      have same : other.id = device.id := (id other hother).symm.trans (id device enabled)
      exact ⟨t, by rw [table.keys.ids.eq_of_key hmem hdevice same]⟩
    · cases h
  · rintro ⟨t, rfl⟩
    simp [handleStatusChange, (findByDeviceId_eq_some_iff table.keys).mpr ⟨hdevice, rfl⟩, enabled]

theorem count_warned (hdevice : device ∈ table.rows) {warning : OfflineWarning}
    (enabled : offlineWarning device = some warning) (before : List (Fin n × StatusStep))
    (x : Fin n × StatusStep) :
    (warned table before x).count warning = (announced device before x).count .offline := by
  unfold warned announced
  cases x.2 with
  | read | update => rfl
  | emit events =>
    simp only [statusesFor, Multiset.coe_count, List.count_filterMap]
    refine List.countP_congr fun event _ => ?_
    rw [beq_iff_eq, beq_iff_eq, handleStatusChange_rowsAfter,
      handleStatusChange_eq_some_iff hdevice enabled]
    constructor
    · rintro ⟨t, rfl⟩
      simp
    · intro h
      split at h
      · next deviceId status t _ =>
        split_ifs at h with own
        obtain rfl := Option.some.inj h
        exact ⟨t, by rw [own]⟩
      · cases h

/-! ## One step -/

variable {calls : Fin n → StatusCall}

/-- Events to come and emitted, and updates that undo, are as many as changes and updates
that repeat. -/
def Balanced (table : DeviceTable) (device : DeviceEntity)
    (c : Sys (Fin n) (List DeviceEntity) StatusStep Unit) (trace : List (Fin n × StatusStep)) :
    Prop :=
  ∑ j, pending device (c.procs j) + tally (announced device) trace +
      tally (written (·.Undoes) table device) trace =
    tally (changed table device) trace + tally (written (·.Repeats) table device) trace

theorem changed_of_still {x : Fin n × StatusStep} (still : ∀ rows, x.2.act rows = rows) :
    changed table device trace x = 0 := by
  unfold changed
  rw [rowsAfter_concat, still]
  simp

/-- An update announces and undoes as much as it changes and repeats. -/
theorem update_balanced (hdevice : device ∈ table.rows) {i : Fin n} {rows : List DeviceEntity}
    {plan : StatusPlan} (hread : (sinceRead table i trace).map (·.1) = some rows)
    (made : (calls i).plan rows = some plan) :
    (statusesFor device.deviceId plan.events : Multiset DeviceStatus) +
        written (·.Undoes) table device trace (i, .update plan.update) =
      changed table device trace (i, .update plan.update) +
        written (·.Repeats) table device trace (i, .update plan.update) := by
  obtain ⟨pre, rfl⟩ := exists_of_sinceRead hread
  obtain ⟨next, spec⟩ := plan_spec keys_rowsAfter made
  obtain ⟨hrow, hid, hdeviceId⟩ := rowOf_rowsAfter pre hdevice
  obtain ⟨writes, announces⟩ := spec _ hrow
  obtain ⟨⟨rows, later⟩, hsince, hrows⟩ := Option.map_eq_some_iff.mp hread
  rw [hdeviceId, hid] at announces
  rw [announces]
  have after : statusOf device (rowsAfter table (trace ++ [(i, .update plan.update)])) =
      if device.id ∈ plan.update.ids then next else statusOf device (rowsAfter table trace) := by
    rw [rowsAfter_concat]
    show (rowOf device (plan.update.apply _)).status = _
    rw [rowOf_update hdevice, RowsUpdate.change, (rowOf_rowsAfter trace hdevice).2.1]
    split_ifs
    · show plan.update.columns.status.getD _ = next
      rw [writes]
      rfl
    · rfl
  unfold written changed statusWrite
  dsimp only
  rw [after, writes, hsince]
  -- the four cases of the status read and the status found by the update
  by_cases named : device.id ∈ plan.update.ids
  · simp only [named, if_true, true_and]
    change rows = rowsAfter table pre at hrows
    subst hrows
    show ((if statusOf device _ ≠ next then [next] else [] : List DeviceStatus) :
      Multiset DeviceStatus) + _ = _
    generalize statusOf device (rowsAfter table pre) = read
    generalize statusOf device (rowsAfter table trace) = found
    by_cases hread : read = next <;> by_cases hfound : found = next <;>
      simp [Option.filter_some, StatusWrite.Undoes, StatusWrite.Repeats, hread, hfound]
  · simp [named]

/-- What a call is about to announce changes by what a step announces, changes, undoes and
repeats. -/
theorem step_balanced {c : Sys (Fin n) (List DeviceEntity) StatusStep Unit} {i : Fin n}
    {l : StatusStep} {k : List DeviceEntity → StatusProc} (hdevice : device ∈ table.rows)
    (staged : Staged table calls c trace) (hproc : c.procs i = .step l k) :
    pending device (k c.shared) + announced device trace (i, l) +
        written (·.Undoes) table device trace (i, l) =
      pending device (.step l k) + (changed table device trace (i, l) +
        written (·.Repeats) table device trace (i, l)) := by
  have stage := staged.stages i
  rw [hproc] at stage
  generalize hp : Proc.step l k = p at stage
  generalize hcopy : (sinceRead table i trace).map (·.1) = copy at stage
  cases stage with
  | unread =>
    obtain ⟨rfl, rfl⟩ := Proc.step.inj hp
    rw [changed_of_still fun _ => rfl]
    dsimp only
    cases (calls i).plan c.shared <;> rfl
  | planned rows plan made =>
    obtain ⟨rfl, rfl⟩ := Proc.step.inj hp
    have update := update_balanced hdevice hcopy made
    show (statusesFor device.deviceId plan.events : Multiset DeviceStatus) + 0 + _ = 0 + _
    rw [add_zero, zero_add, update]
  | updated rows plan made =>
    obtain ⟨rfl, rfl⟩ := Proc.step.inj hp
    rw [changed_of_still fun _ => rfl]
    show 0 + (statusesFor device.deviceId plan.events : Multiset DeviceStatus) + 0 =
      statusesFor device.deviceId plan.events + (0 + 0)
    simp only [zero_add, add_zero]
  | through => cases hp

theorem Balanced.step {c : Sys (Fin n) (List DeviceEntity) StatusStep Unit} {i : Fin n}
    {l : StatusStep} {k : List DeviceEntity → StatusProc} (hdevice : device ∈ table.rows)
    (staged : Staged table calls c trace) (balanced : Balanced table device c trace)
    (hproc : c.procs i = .step l k) :
    Balanced table device (c.fire StatusStep.act i) (trace ++ [(i, l)]) := by
  have sum := Sys.sum_fire StatusStep.act (pending device) hproc
  have here := step_balanced hdevice staged hproc
  unfold Balanced at balanced ⊢
  simp only [tally_concat]
  -- both sides with what the call was about to announce
  rw [← add_right_cancel_iff (a := pending device (.step l k))]
  generalize ∑ j, pending device ((c.fire StatusStep.act i).procs j) = sum' at sum ⊢
  generalize ∑ j, pending device (c.procs j) = sum₀ at sum balanced
  calc sum' + (tally (announced device) trace + announced device trace (i, l)) +
          (tally (written (·.Undoes) table device) trace +
            written (·.Undoes) table device trace (i, l)) + pending device (.step l k)
      = sum' + pending device (.step l k) +
          (tally (announced device) trace + announced device trace (i, l)) +
          (tally (written (·.Undoes) table device) trace +
            written (·.Undoes) table device trace (i, l)) := by abel
    _ = sum₀ + tally (announced device) trace + tally (written (·.Undoes) table device) trace +
          (pending device (k c.shared) + announced device trace (i, l) +
            written (·.Undoes) table device trace (i, l)) := by rw [sum]; abel
    _ = _ := by rw [balanced, here]; abel

/-! ## Runs -/

theorem balanced_run (table : DeviceTable) (calls : Fin n → StatusCall)
    (hdevice : device ∈ table.rows) (sched : List (Fin n)) :
    Balanced table device ((statusCalls table calls).run StatusStep.act sched)
      ((statusCalls table calls).trace StatusStep.act sched) := by
  have start : Balanced table device (statusCalls table calls) [] := by
    have silent : ∀ j, pending device ((statusCalls table calls).procs j) = 0 := fun _ => rfl
    simp [Balanced, silent]
  have keeps : ∀ c trace i l k, (Staged table calls c trace ∧ Balanced table device c trace) →
      c.procs i = .step l k →
      Staged table calls (c.fire StatusStep.act i) (trace ++ [(i, l)]) ∧
        Balanced table device (c.fire StatusStep.act i) (trace ++ [(i, l)]) :=
    fun c trace i l k h hproc => ⟨h.1.fire hproc, h.2.step hdevice h.1 hproc⟩
  exact (Sys.run_trace_invariant keeps ⟨⟨rfl, fun _ => .unread⟩, start⟩ sched).2

/-- When any calls on any devices are through, under any schedule, the events announce the
changes of a device's status exactly when, for each status, as many updates repeat it, a
change that came between their read and them, as undo such a change. -/
theorem status_events_iff (table : DeviceTable) (calls : Fin n → StatusCall) {sched : List (Fin n)}
    (finished : ((statusCalls table calls).run StatusStep.act sched).Finished)
    (hdevice : device ∈ table.rows) :
    StatusAnnounced table device ((statusCalls table calls).trace StatusStep.act sched) ↔
      tally (written (·.Repeats) table device)
          ((statusCalls table calls).trace StatusStep.act sched) =
        tally (written (·.Undoes) table device)
          ((statusCalls table calls).trace StatusStep.act sched) := by
  have balanced := balanced_run table calls hdevice sched
  have through : ∑ j, pending device
      (((statusCalls table calls).run StatusStep.act sched).procs j) = 0 := by
    refine Finset.sum_eq_zero fun j _ => ?_
    obtain ⟨⟨⟩, hret⟩ := finished j
    rw [hret]
    rfl
  unfold Balanced at balanced
  rw [through, zero_add] at balanced
  generalize htrace : (statusCalls table calls).trace StatusStep.act sched = trace at *
  constructor
  · rintro ⟨events, -⟩
    rw [events] at balanced
    exact (add_left_cancel balanced).symm
  · intro even
    rw [even] at balanced
    have events := add_right_cancel balanced
    refine ⟨events, fun warning enabled => ?_⟩
    rw [← events]
    exact count_tally_congr (count_warned hdevice enabled) trace

/-- A relay that was last heard of at 0, and whose owner is to be warned. -/
def watchedRelay : DeviceEntity :=
  { plainRelay with
    status := .online
    lastSeenAt := some 0
    offlineAlert := some ⟨true, none⟩ }

def watchedTable : DeviceTable where
  rows := [watchedRelay]
  keys := ⟨by simp [Keyed.Distinct], by simp [Keyed.Distinct]⟩

/-- The sweep, and the broker's last will of the device. -/
def sweepAndLastWill : Fin 2 → StatusCall
  | 0 => .sweepOfflineDevices 100000 100001
  | 1 => .message watchedRelay.deviceId (.status 100000 (.string "OFFLINE"))

/-- Both read before the other writes, and both announce the device offline. -/
theorem offline_announced_twice :
    ((statusCalls watchedTable sweepAndLastWill).run StatusStep.act [0, 1, 0, 0, 1, 1]).Finished ∧
      ¬ StatusAnnounced watchedTable watchedRelay
        ((statusCalls watchedTable sweepAndLastWill).trace StatusStep.act [0, 1, 0, 0, 1, 1]) := by
  refine ⟨Fin.forall_fin_two.mpr ⟨⟨(), rfl⟩, ⟨(), rfl⟩⟩, ?_⟩
  rintro ⟨-, warnings⟩
  obtain ⟨warning, enabled⟩ : ∃ warning, offlineWarning watchedRelay = some warning := ⟨_, rfl⟩
  have twice : tally (warned watchedTable)
      ((statusCalls watchedTable sweepAndLastWill).trace StatusStep.act [0, 1, 0, 0, 1, 1]) =
        {warning, warning} := by
    obtain rfl := Option.some.inj enabled
    rfl
  have once : tally (changed watchedTable watchedRelay)
      ((statusCalls watchedTable sweepAndLastWill).trace StatusStep.act [0, 1, 0, 0, 1, 1]) =
        {.offline} := rfl
  have counts := warnings warning enabled
  rw [twice, once] at counts
  simp at counts

theorem status_events_iff_sweepAndLastWill :
    StatusAnnounced watchedTable watchedRelay
        ((statusCalls watchedTable sweepAndLastWill).trace StatusStep.act [0, 0, 0, 1, 1, 1]) ↔
      tally (written (·.Repeats) watchedTable watchedRelay)
          ((statusCalls watchedTable sweepAndLastWill).trace StatusStep.act [0, 0, 0, 1, 1, 1]) =
        tally (written (·.Undoes) watchedTable watchedRelay)
          ((statusCalls watchedTable sweepAndLastWill).trace StatusStep.act
            [0, 0, 0, 1, 1, 1]) := by
  have finished : ((statusCalls watchedTable sweepAndLastWill).run StatusStep.act
      [0, 0, 0, 1, 1, 1]).Finished := Fin.forall_fin_two.mpr ⟨⟨(), rfl⟩, ⟨(), rfl⟩⟩
  exact status_events_iff watchedTable sweepAndLastWill finished (List.mem_singleton_self _)

end AiotCloud
