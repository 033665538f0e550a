import AiotCloud.StatusWriters

/-!
# The offline sweep

`sweepOfflineDevices` selects the online devices that have been silent for the threshold,
and then updates them by id. A device can be heard of between the two statements.

* `find_exec`: the last heartbeat of a device since a read.
* `sweep_update_iff`: what one update of a sweep overrides.
* `sweep_spares_live_iff`: along every interleaving.
-/

namespace AiotCloud

open Interleave

variable {n : Nat}

/-- The device was heard of within the threshold of a sweep at `now`. -/
def HeardWithin (now : Date) (device : DeviceEntity) : Prop :=
  ∃ t, device.lastSeenAt = some t ∧ now - deviceOfflineThresholdMs ≤ t

/-- No update of a sweep is for a device that was heard of within the threshold, as committed
before the update, and the sweep announces no such device as offline. -/
def SparesLive (table : DeviceTable) (calls : Fin n → StatusCall)
    (trace : List (Fin n × StatusStep)) : Prop :=
  ∀ i now changedAt, calls i = .sweepOfflineDevices now changedAt →
    ∀ pre u, pre ++ [(i, .update u)] <+: trace →
    ∀ device ∈ rowsAfter table pre, HeardWithin now device →
      device.id ∉ u.ids ∧
        ∀ events, (i, .emit events) ∈ trace → .status device.deviceId .offline changedAt ∉ events

/-- The time that an update puts on the row with the id. -/
def heartbeatOf (id : String) : Fin n × StatusStep → Option Date
  | (_, .update u) => if id ∈ u.ids then u.columns.lastSeenAt else none
  | _ => none

/-- Between the two statements of a sweep, the last heartbeat of a device it has selected, if
there is one, is older than the threshold. -/
def UnheardMeanwhile (table : DeviceTable) (calls : Fin n → StatusCall)
    (trace : List (Fin n × StatusStep)) : Prop :=
  ∀ i now changedAt, calls i = .sweepOfflineDevices now changedAt →
    ∀ pre u, pre ++ [(i, .update u)] <+: trace →
    ∀ rows between, sinceRead table i pre = some (rows, between) →
    ∀ id ∈ u.ids, ∀ t, lastOf (heartbeatOf id) between = some t →
      t < now - deviceOfflineThresholdMs

/-! ## Heartbeats -/

theorem find_exec (id : String) (rows : List DeviceEntity) (steps : List (Fin n × StatusStep)) :
    (Keyed.find DeviceEntity.id id (Run.exec StatusStep.act rows (steps.map (·.2)))).map
        (fun row => (row.deviceId, row.lastSeenAt)) =
      (Keyed.find DeviceEntity.id id rows).map
        fun row => (row.deviceId, (lastOf (heartbeatOf id) steps).or row.lastSeenAt) := by
  induction steps using List.reverseRecOn with
  | nil => simp [lastOf]
  | append_singleton steps x ih =>
    obtain ⟨j, l⟩ := x
    rw [List.map_append, Run.exec_append]
    simp only [lastOf_concat]
    cases l with
    | read => exact ih
    | emit events => exact ih
    | update u =>
      show (Keyed.find DeviceEntity.id id (u.apply _)).map _ = _
      rw [RowsUpdate.apply, Keyed.find_map u.change_id, Option.map_map]
      generalize hrows : Run.exec StatusStep.act rows (steps.map (·.2)) = rows' at ih ⊢
      cases hfind : Keyed.find DeviceEntity.id id rows' with
      | none =>
        rw [hfind] at ih
        rw [Option.map_none, eq_comm, Option.map_eq_none_iff] at ih
        simp [ih]
      | some row =>
        obtain rfl := (Keyed.mem_of_find hfind).2
        rw [hfind, Option.map_some, eq_comm, Option.map_eq_some_iff] at ih
        obtain ⟨old, hold, heq⟩ := ih
        obtain ⟨hdeviceId, hseen⟩ := Prod.mk.inj heq
        rw [hold, Option.map_some, Option.map_some, hdeviceId]
        refine congrArg some (Prod.ext (by simp) ?_)
        by_cases named : row.id ∈ u.ids
        · simp only [Function.comp, RowsUpdate.change_of_mem named, heartbeatOf, if_pos named]
          show (u.columns.lastSeenAt <|> row.lastSeenAt) = _
          rw [← hseen]
          cases u.columns.lastSeenAt <;> rfl
        · simp [RowsUpdate.change_of_notMem named, heartbeatOf, named, hseen]

/-! ## One sweep -/

/-- The rows that a sweep has read, and what it makes of them. -/
structure Swept (table : DeviceTable) (now changedAt : Date) (pre : List (Fin n × StatusStep))
    (rows : List DeviceEntity) (between : List (Fin n × StatusStep)) (plan : StatusPlan) :
    Prop where
  keys : Keys rows
  after : rowsAfter table pre = Run.exec StatusStep.act rows (between.map (·.2))
  made : sweepOfflineDevices now changedAt rows = some plan

variable {table : DeviceTable} {pre between : List (Fin n × StatusStep)} {now changedAt : Date}
  {rows : List DeviceEntity} {plan : StatusPlan}

/-- A row when the update comes, and the row that the sweep has read. -/
theorem Swept.read_of_mem (h : Swept table now changedAt pre rows between plan)
    {device : DeviceEntity} (hdevice : device ∈ rowsAfter table pre) :
    ∃ read ∈ rows, read.id = device.id ∧ read.deviceId = device.deviceId ∧
      device.lastSeenAt = (lastOf (heartbeatOf device.id) between).or read.lastSeenAt := by
  have found := find_exec device.id rows between
  rw [← h.after, keys_rowsAfter.ids.find_eq_some_iff.mpr ⟨hdevice, rfl⟩, Option.map_some,
    eq_comm, Option.map_eq_some_iff] at found
  obtain ⟨read, hread, heq⟩ := found
  obtain ⟨hdeviceId, hseen⟩ := Prod.mk.inj heq
  obtain ⟨hmem, hid⟩ := Keyed.mem_of_find hread
  exact ⟨read, hmem, hid, hdeviceId, hseen.symm⟩

/-- The row that the sweep has read, and the row when the update comes. -/
theorem Swept.exists_of_read (h : Swept table now changedAt pre rows between plan)
    {read : DeviceEntity} (hread : read ∈ rows) :
    ∃ device ∈ rowsAfter table pre, device.id = read.id ∧
      device.lastSeenAt = (lastOf (heartbeatOf read.id) between).or read.lastSeenAt := by
  have found := find_exec read.id rows between
  rw [← h.after, h.keys.ids.find_eq_some_iff.mpr ⟨hread, rfl⟩, Option.map_some,
    Option.map_eq_some_iff] at found
  obtain ⟨device, hdevice, heq⟩ := found
  obtain ⟨hmem, hid⟩ := Keyed.mem_of_find hdevice
  exact ⟨device, hmem, hid, (Prod.mk.inj heq).2⟩

/-- The update of a sweep is for no live device just when no selected one was heard of since
it was selected. -/
theorem sweep_update_iff (h : Swept table now changedAt pre rows between plan) :
    (∀ device ∈ rowsAfter table pre, HeardWithin now device → device.id ∉ plan.update.ids) ↔
      ∀ id ∈ plan.update.ids, ∀ t, lastOf (heartbeatOf id) between = some t →
        t < now - deviceOfflineThresholdMs := by
  rw [(sweepOfflineDevices_eq_some h.made).1]
  constructor
  · intro spared id hid t hlast
    obtain ⟨read, hread, rfl⟩ := List.mem_map.mp hid
    obtain ⟨device, hdevice, same, hseen⟩ := h.exists_of_read (mem_staleDevices.mp hread).1
    rw [hlast, Option.some_or] at hseen
    by_contra recent
    refine spared device hdevice ⟨t, hseen, not_lt.mp recent⟩ ?_
    rw [same]
    exact List.mem_map_of_mem hread
  · rintro unheard device hdevice ⟨t, hseen, recent⟩ hid
    obtain ⟨read, hread, same, -, hlast⟩ := h.read_of_mem hdevice
    obtain ⟨stale, hstale, heq⟩ := List.mem_map.mp hid
    obtain ⟨hmem, -, t₀, ht₀, old⟩ := mem_staleDevices.mp hstale
    obtain rfl := h.keys.ids.eq_of_key hmem hread (heq.trans same.symm)
    rw [hseen, ht₀] at hlast
    cases hheard : lastOf (heartbeatOf device.id) between with
    | none =>
      rw [hheard, Option.none_or] at hlast
      obtain rfl := Option.some.inj hlast
      exact absurd old (not_lt.mpr recent)
    | some t' =>
      rw [hheard, Option.some_or] at hlast
      obtain rfl := Option.some.inj hlast
      exact absurd (unheard device.id hid t hheard) (not_lt.mpr recent)

/-- A device that the sweep announces is one that it updates. -/
theorem Swept.mem_of_announced (h : Swept table now changedAt pre rows between plan)
    {device : DeviceEntity} (hdevice : device ∈ rowsAfter table pre)
    (announced : .status device.deviceId .offline changedAt ∈ plan.events) :
    device.id ∈ plan.update.ids := by
  obtain ⟨hids, -, hevents⟩ := sweepOfflineDevices_eq_some h.made
  rw [hevents] at announced
  obtain ⟨stale, hstale, heq⟩ := List.mem_map.mp announced
  obtain ⟨read, hread, same, sameDeviceId, -⟩ := h.read_of_mem hdevice
  have hdeviceId : stale.deviceId = read.deviceId :=
    (DeviceEvent.status.inj heq).1.trans sameDeviceId.symm
  obtain rfl := h.keys.deviceIds.eq_of_key (mem_staleDevices.mp hstale).1 hread hdeviceId
  rw [hids, ← same]
  exact List.mem_map_of_mem hstale

/-! ## Runs -/

/-- From any devices, for any calls under any schedule, the updates and events of the sweeps
spare the live devices exactly when no device is heard of between its selection and the
update. -/
theorem sweep_spares_live_iff (table : DeviceTable) (calls : Fin n → StatusCall)
    (sched : List (Fin n)) :
    SparesLive table calls ((statusCalls table calls).trace StatusStep.act sched) ↔
      UnheardMeanwhile table calls ((statusCalls table calls).trace StatusStep.act sched) := by
  constructor
  · intro spares i now changedAt hcall pre u hpre rows between hsince
    obtain ⟨read, plan, hread, made, rfl⟩ := planned_of_update hpre
    rw [hsince] at hread
    obtain rfl := Option.some.inj hread
    rw [hcall] at made
    obtain ⟨keys, after⟩ := sinceRead_spec hsince
    have swept : Swept table now changedAt pre rows between plan := ⟨keys, after, made⟩
    exact (sweep_update_iff swept).mp fun device hdevice heard =>
      (spares i now changedAt hcall pre _ hpre device hdevice heard).1
  · intro unheard i now changedAt hcall pre u hpre device hdevice heard
    obtain ⟨rows, plan, hread, made, rfl⟩ := planned_of_update hpre
    obtain ⟨⟨rows, between⟩, hsince, rfl⟩ := Option.map_eq_some_iff.mp hread
    rw [hcall] at made
    obtain ⟨keys, after⟩ := sinceRead_spec hsince
    have swept : Swept table now changedAt pre rows between plan := ⟨keys, after, made⟩
    have spared := (sweep_update_iff swept).mpr
      (unheard i now changedAt hcall pre _ hpre rows between hsince) device hdevice heard
    refine ⟨spared, fun events hemit announced => spared ?_⟩
    -- the call reads once, so it announces what it has planned for its update
    obtain ⟨rows', plan', hread', made', rfl⟩ := planned_of_emit hemit
    have earlier := sinceRead_of_prefix ((List.prefix_append _ _).trans hpre) hread
    obtain rfl := Option.some.inj (hread'.symm.trans earlier)
    rw [hcall] at made'
    obtain rfl := Option.some.inj (made.symm.trans made')
    exact swept.mem_of_announced hdevice announced

/-- A relay that was last heard of at 0. -/
def quietRelay : DeviceTable where
  rows := [{ plainRelay with status := .online, lastSeenAt := some 0 }]
  keys := ⟨by simp [Keyed.Distinct], by simp [Keyed.Distinct]⟩

def sweepAndTelemetry : Fin 2 → StatusCall
  | 0 => .sweepOfflineDevices 100000 100001
  | 1 => .message plainRelay.deviceId (.telemetry 100000 .null)

/-- Telemetry comes between the two statements of the sweep. -/
theorem sweep_overrides_telemetry :
    ¬ SparesLive quietRelay sweepAndTelemetry
        ((statusCalls quietRelay sweepAndTelemetry).trace StatusStep.act [0, 1, 1, 0]) := by
  intro spares
  have heard := spares 0 100000 100001 rfl
    ((statusCalls quietRelay sweepAndTelemetry).trace StatusStep.act [0, 1, 1])
    ⟨[plainRelay.id], { status := some .offline }⟩ (List.prefix_refl _)
    { plainRelay with status := .online, lastSeenAt := some 100000 } (List.mem_singleton_self _)
    ⟨100000, rfl, by decide⟩
  exact heard.1 (List.mem_singleton_self _)

end AiotCloud
