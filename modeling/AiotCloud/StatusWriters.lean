import AiotCloud.DeviceRegistry
import AiotCloud.Lib.Keyed
import AiotCloud.MessageOrder

/-!
# Writers of the status

The handlers of telemetry, status messages and channel events, and the sweep that marks
silent devices offline. Each reads `devices`, updates some rows by id and then emits
events, all decided from the rows it has read. Any number of them overlap.

* `stage_run`: where a call stands, and the rows it has read.
* `plan_spec`: the status a call writes and the events it emits for a device.
-/

namespace AiotCloud

open Interleave

/-- `DEVICE_OFFLINE_THRESHOLD_MS`. -/
def deviceOfflineThresholdMs : Int := 60 * 1000

/-! ## The table -/

/-- The rows of `devices`. -/
structure DeviceTable where
  rows : List DeviceEntity
  keys : Keys rows

/-- `update({ id: In(ids) }, columns)`. -/
structure RowsUpdate where
  ids : List String
  columns : DevicePatch

def RowsUpdate.change (u : RowsUpdate) (device : DeviceEntity) : DeviceEntity :=
  if device.id ∈ u.ids then u.columns.apply device else device

def RowsUpdate.apply (u : RowsUpdate) (rows : List DeviceEntity) : List DeviceEntity :=
  rows.map u.change

@[simp] theorem RowsUpdate.change_id (u : RowsUpdate) (device : DeviceEntity) :
    (u.change device).id = device.id := by
  unfold change
  split <;> rfl

@[simp] theorem RowsUpdate.change_deviceId (u : RowsUpdate) (device : DeviceEntity) :
    (u.change device).deviceId = device.deviceId := by
  unfold change
  split <;> rfl

theorem RowsUpdate.change_of_mem {u : RowsUpdate} {device : DeviceEntity} (h : device.id ∈ u.ids) :
    u.change device = u.columns.apply device := if_pos h

theorem RowsUpdate.change_of_notMem {u : RowsUpdate} {device : DeviceEntity}
    (h : device.id ∉ u.ids) : u.change device = device := if_neg h

theorem Keys.apply {rows : List DeviceEntity} (keys : Keys rows) (u : RowsUpdate) :
    Keys (u.apply rows) := by
  constructor
  · simpa [Keyed.Distinct, RowsUpdate.apply, Function.comp_def] using keys.ids
  · simpa [Keyed.Distinct, RowsUpdate.apply, Function.comp_def] using keys.deviceIds

/-! ## The calls -/

/-- The handler of a message. -/
def DeviceMessage.handle (deviceId : String) : DeviceMessage → Option DeviceEntity → Handled
  | .telemetry now payload => recordTelemetry now deviceId payload
  | .status now payload => handleDeviceStatusMessage now deviceId payload
  | .event now envelope => handleDeviceChannelEvent now deviceId envelope

/-- When a message was received. -/
def DeviceMessage.receivedAt : DeviceMessage → Date
  | .telemetry now _ => now
  | .status now _ => now
  | .event now _ => now

/-- A call. The sweep takes the time twice, before its query and after it. -/
inductive StatusCall where
  | message (deviceId : String) (received : DeviceMessage)
  | sweepOfflineDevices (now changedAt : Date)

/-- What a call does after its read: one update, then the events. -/
structure StatusPlan where
  update : RowsUpdate
  events : List DeviceEvent

/-- `find({ where: { status: ONLINE, lastSeenAt: LessThan(cutoff) } })`. -/
def staleDevices (cutoff : Date) (rows : List DeviceEntity) : List DeviceEntity :=
  rows.filter fun device => device.status = .online ∧ device.lastSeenAt.any (· < cutoff)

def sweepOfflineDevices (now changedAt : Date) (rows : List DeviceEntity) : Option StatusPlan :=
  match staleDevices (now - deviceOfflineThresholdMs) rows with
  | [] => none
  | stale => some
    { update := ⟨stale.map (·.id), { status := some .offline }⟩
      events := stale.map fun device => .status device.deviceId .offline changedAt }

theorem mem_staleDevices {cutoff : Date} {rows : List DeviceEntity} {device : DeviceEntity} :
    device ∈ staleDevices cutoff rows ↔
      device ∈ rows ∧ device.status = .online ∧ ∃ t, device.lastSeenAt = some t ∧ t < cutoff := by
  unfold staleDevices
  rw [List.mem_filter, decide_eq_true_eq]
  cases device.lastSeenAt <;> simp

theorem sweepOfflineDevices_eq_some {now changedAt : Date} {rows : List DeviceEntity}
    {plan : StatusPlan} (h : sweepOfflineDevices now changedAt rows = some plan) :
    plan.update.ids = (staleDevices (now - deviceOfflineThresholdMs) rows).map (·.id) ∧
      plan.update.columns = { status := some .offline } ∧
      plan.events = (staleDevices (now - deviceOfflineThresholdMs) rows).map fun device =>
        .status device.deviceId .offline changedAt := by
  unfold sweepOfflineDevices at h
  split at h
  · cases h
  · next stale =>
    obtain rfl := Option.some.inj h
    exact ⟨rfl, rfl, rfl⟩

/-- A handler that writes does so by an `update` of the device it has found. One that finds
none records the sighting in another table. -/
def handleMessage (deviceId : String) (message : DeviceMessage) (rows : List DeviceEntity) :
    Option StatusPlan :=
  (findByDeviceId rows deviceId).bind fun device =>
    let handled := message.handle deviceId (some device)
    match handled.write with
    | some (.update columns) => some ⟨⟨[device.id], columns⟩, handled.events⟩
    | _ => none

def StatusCall.plan : StatusCall → List DeviceEntity → Option StatusPlan
  | .message deviceId received => handleMessage deviceId received
  | .sweepOfflineDevices now changedAt => AiotCloud.sweepOfflineDevices now changedAt

inductive StatusStep where
  | read
  | update (u : RowsUpdate)
  | emit (events : List DeviceEvent)

def StatusStep.act (rows : List DeviceEntity) : StatusStep → List DeviceEntity
  | .update u => u.apply rows
  | .read | .emit _ => rows

abbrev StatusProc := Proc (List DeviceEntity) StatusStep Unit

def emitting (events : List DeviceEvent) : StatusProc := .step (.emit events) fun _ => .ret ()

def StatusPlan.proc (plan : StatusPlan) : StatusProc :=
  .step (.update plan.update) fun _ => emitting plan.events

def StatusCall.proc (call : StatusCall) : StatusProc :=
  .step .read fun rows =>
    match call.plan rows with
    | none => .ret ()
    | some plan => plan.proc

variable {n : Nat}

/-- The calls, none of them begun. -/
def statusCalls (table : DeviceTable) (calls : Fin n → StatusCall) :
    Sys (Fin n) (List DeviceEntity) StatusStep Unit :=
  ⟨table.rows, fun i => (calls i).proc⟩

/-- The rows after the steps of a trace. -/
def rowsAfter (table : DeviceTable) (trace : List (Fin n × StatusStep)) : List DeviceEntity :=
  Run.exec StatusStep.act table.rows (trace.map (·.2))

/-- The call reads. -/
def readsRows (i : Fin n) : Fin n × StatusStep → Bool
  | (j, .read) => j = i
  | _ => false

/-- The rows at the read of a call, and the steps since. -/
def sinceRead (table : DeviceTable) (i : Fin n) (trace : List (Fin n × StatusStep)) :
    Option (List DeviceEntity × List (Fin n × StatusStep)) :=
  since StatusStep.act (readsRows i) table.rows trace

/-! ## Rows along a run -/

variable {table : DeviceTable} {trace : List (Fin n × StatusStep)}

theorem rowsAfter_concat (x : Fin n × StatusStep) :
    rowsAfter table (trace ++ [x]) = x.2.act (rowsAfter table trace) := by
  unfold rowsAfter
  rw [List.map_append, Run.exec_append]
  rfl

theorem keys_rowsAfter : Keys (rowsAfter table trace) := by
  refine Run.invariant (fun rows step keys => ?_) table.keys _
  cases step with
  | update u => exact keys.apply u
  | read | emit => exact keys

/-- The row of a device. -/
def rowOf (device : DeviceEntity) (rows : List DeviceEntity) : DeviceEntity :=
  (Keyed.find DeviceEntity.id device.id rows).getD device

theorem rowOf_of_mem {rows : List DeviceEntity} (keys : Keys rows) {device row : DeviceEntity}
    (hrow : row ∈ rows) (id : row.id = device.id) : rowOf device rows = row := by
  unfold rowOf
  rw [keys.ids.find_eq_some_iff.mpr ⟨hrow, id⟩]
  rfl

/-- The row of a device that was there stays, with its keys. -/
theorem rowOf_rowsAfter (trace : List (Fin n × StatusStep)) {device : DeviceEntity}
    (hdevice : device ∈ table.rows) :
    rowOf device (rowsAfter table trace) ∈ rowsAfter table trace ∧
      (rowOf device (rowsAfter table trace)).id = device.id ∧
      (rowOf device (rowsAfter table trace)).deviceId = device.deviceId := by
  induction trace using List.reverseRecOn with
  | nil =>
    have same : rowOf device table.rows = device := rowOf_of_mem table.keys hdevice rfl
    show rowOf device table.rows ∈ table.rows ∧ _
    exact ⟨by rwa [same], congrArg _ same, congrArg _ same⟩
  | append_singleton trace x ih =>
    obtain ⟨hmem, hid, hdeviceId⟩ := ih
    rw [rowsAfter_concat]
    cases x.2 with
    | read | emit => exact ⟨hmem, hid, hdeviceId⟩
    | update u =>
      have changed : u.change (rowOf device (rowsAfter table trace)) ∈
          u.apply (rowsAfter table trace) := List.mem_map_of_mem hmem
      have same : rowOf device (u.apply (rowsAfter table trace)) =
          u.change (rowOf device (rowsAfter table trace)) :=
        rowOf_of_mem (keys_rowsAfter.apply u) changed (by simpa using hid)
      show rowOf device (u.apply (rowsAfter table trace)) ∈ _ ∧ _
      simp only [StatusStep.act, same]
      exact ⟨changed, by simpa using hid, by simpa using hdeviceId⟩

theorem rowOf_update {device : DeviceEntity} (hdevice : device ∈ table.rows) (u : RowsUpdate) :
    rowOf device (u.apply (rowsAfter table trace)) =
      u.change (rowOf device (rowsAfter table trace)) := by
  obtain ⟨hmem, hid, -⟩ := rowOf_rowsAfter trace hdevice
  exact rowOf_of_mem (keys_rowsAfter.apply u) (List.mem_map_of_mem hmem) (by simpa using hid)

/-! ## The stages of a call -/

/-- Where a call stands, and the rows it has read. -/
inductive Stage (call : StatusCall) : StatusProc → Option (List DeviceEntity) → Prop
  | unread : Stage call call.proc none
  | planned (rows : List DeviceEntity) (plan : StatusPlan) (made : call.plan rows = some plan) :
      Stage call plan.proc (some rows)
  | updated (rows : List DeviceEntity) (plan : StatusPlan) (made : call.plan rows = some plan) :
      Stage call (emitting plan.events) (some rows)
  | through (copy : Option (List DeviceEntity)) : Stage call (.ret ()) copy

theorem Stage.of_read (call : StatusCall) (rows : List DeviceEntity) :
    Stage call
      (match call.plan rows with
        | none => .ret ()
        | some plan => plan.proc) (some rows) := by
  cases made : call.plan rows with
  | none => exact .through _
  | some plan => exact .planned rows plan made

/-- Every call is at a stage with the rows it has read. -/
structure Staged (table : DeviceTable) (calls : Fin n → StatusCall)
    (c : Sys (Fin n) (List DeviceEntity) StatusStep Unit) (trace : List (Fin n × StatusStep)) :
    Prop where
  shared : c.shared = rowsAfter table trace
  stages : ∀ i, Stage (calls i) (c.procs i) ((sinceRead table i trace).map (·.1))

theorem sinceRead_first {i : Fin n} (unread : sinceRead table i trace = none) :
    sinceRead table i (trace ++ [(i, .read)]) = some (rowsAfter table trace, []) := by
  unfold sinceRead
  rw [since_concat_of_none unread, if_pos (by simp [readsRows])]
  rfl

/-- Only its own read changes what a call has read. -/
theorem sinceRead_kept {i : Fin n} {x : Fin n × StatusStep} (other : readsRows i x = false) :
    (sinceRead table i (trace ++ [x])).map (·.1) = (sinceRead table i trace).map (·.1) := by
  unfold sinceRead
  cases h : since StatusStep.act (readsRows i) table.rows trace with
  | none => rw [since_concat_of_none h, if_neg (by simp [other])]
  | some found =>
    rw [since_concat_of_some h]
    rfl

theorem Staged.fire {calls : Fin n → StatusCall}
    {c : Sys (Fin n) (List DeviceEntity) StatusStep Unit} {i : Fin n} {l : StatusStep}
    {k : List DeviceEntity → StatusProc} (h : Staged table calls c trace)
    (hproc : c.procs i = .step l k) :
    Staged table calls (c.fire StatusStep.act i) (trace ++ [(i, l)]) := by
  have here := h.stages i
  rw [hproc] at here
  rw [Sys.fire_of_step StatusStep.act hproc]
  refine ⟨by rw [rowsAfter_concat, h.shared], fun j => ?_⟩
  dsimp only
  rcases eq_or_ne j i with rfl | hne
  · rw [Function.update_self]
    generalize hcopy : (sinceRead table j trace).map (·.1) = copy at here
    generalize hp : Proc.step l k = p at here
    cases here with
    | unread =>
      obtain ⟨rfl, rfl⟩ := Proc.step.inj hp
      rw [sinceRead_first (Option.map_eq_none_iff.mp hcopy), h.shared]
      exact .of_read (calls j) _
    | planned rows plan made =>
      obtain ⟨rfl, rfl⟩ := Proc.step.inj hp
      rw [sinceRead_kept rfl, hcopy]
      exact .updated rows plan made
    | updated rows plan made =>
      obtain ⟨rfl, rfl⟩ := Proc.step.inj hp
      rw [sinceRead_kept rfl, hcopy]
      exact .through _
    | through => cases hp
  · rw [Function.update_of_ne hne, sinceRead_kept]
    · exact h.stages j
    · cases l <;> simp [readsRows, hne.symm]

theorem stage_run (table : DeviceTable) (calls : Fin n → StatusCall) (sched : List (Fin n)) :
    Staged table calls ((statusCalls table calls).run StatusStep.act sched)
      ((statusCalls table calls).trace StatusStep.act sched) :=
  Sys.run_trace_invariant (fun _ _ _ _ _ h hproc => h.fire hproc) ⟨rfl, fun _ => .unread⟩ sched

/-! ## What is planned -/

/-- The statuses that events announce for a device. -/
def statusesFor (deviceId : String) (events : List DeviceEvent) : List DeviceStatus :=
  events.filterMap fun
    | .status deviceId' status _ => if deviceId' = deviceId then some status else none
    | _ => none

theorem statusesFor_append (deviceId : String) (events events' : List DeviceEvent) :
    statusesFor deviceId (events ++ events') =
      statusesFor deviceId events ++ statusesFor deviceId events' := List.filterMap_append

theorem statusesFor_status (deviceId deviceId' : String) (status : DeviceStatus) (t : Date) :
    statusesFor deviceId [.status deviceId' status t] =
      if deviceId' = deviceId then [status] else [] := by
  unfold statusesFor
  by_cases h : deviceId' = deviceId <;> simp [h]

theorem statusesFor_cameOnline (device : DeviceEntity) (deviceId deviceId' : String) (now : Date) :
    statusesFor deviceId' (cameOnline device deviceId now) =
      if deviceId = deviceId' ∧ device.status ≠ .online then [.online] else [] := by
  unfold cameOnline
  by_cases h : device.status = .online
  · simp [h, statusesFor]
  · rw [if_pos h, statusesFor_status]
    simp [h]

/-- What a call does to the status of a device: it writes `next`, and announces it if the
row it has read had another one. -/
structure SetsStatus (row : DeviceEntity) (plan : StatusPlan) (next : DeviceStatus) : Prop where
  writes : plan.update.columns.status = some next
  announces : statusesFor row.deviceId plan.events =
    if row.id ∈ plan.update.ids ∧ row.status ≠ next then [next] else []

/-- A handler that writes puts the device online at the time of its message, or offline. -/
theorem handle_update {deviceId : String} {message : DeviceMessage} {device : DeviceEntity}
    {columns : DevicePatch}
    (h : (message.handle deviceId (some device)).write = some (.update columns)) :
    (columns.status = some .online ∧ columns.lastSeenAt = some message.receivedAt ∧
      ∃ before, (∀ deviceId', statusesFor deviceId' before = []) ∧
        (message.handle deviceId (some device)).events =
          before ++ cameOnline device deviceId message.receivedAt) ∨
    columns.status = some .offline ∧
      (message.handle deviceId (some device)).events =
        if device.status ≠ .offline then [.status deviceId .offline message.receivedAt]
        else [] := by
  cases message with
  | telemetry now payload =>
    obtain rfl := Persist.update.inj (Option.some.inj h)
    exact .inl ⟨rfl, rfl, [.telemetry deviceId (normalizePayload payload) now], fun _ => rfl,
      rfl⟩
  | status now payload =>
    simp only [DeviceMessage.handle, handleDeviceStatusMessage] at h ⊢
    cases hparse : parseStatusPayload payload with
    | none => simp [hparse] at h
    | some status =>
      simp only [hparse, Option.some.injEq, Persist.update.injEq] at h ⊢
      subst h
      cases status with
      | online => exact .inl ⟨rfl, rfl, [], fun _ => rfl, if_congr ne_comm rfl rfl⟩
      | offline => exact .inr ⟨rfl, if_congr ne_comm rfl rfl⟩
  | event now envelope =>
    simp only [DeviceMessage.handle, handleDeviceChannelEvent] at h ⊢
    cases hfailed : envelope.failed with
    | true =>
      simp only [hfailed, if_true, Option.some.injEq, Persist.update.injEq] at h ⊢
      subst h
      refine .inl ⟨rfl, rfl, _, fun deviceId' => ?_, rfl⟩
      cases envelope.channel <;> rfl
    | false =>
      cases hchannel : envelope.channel with
      | none => simp [hfailed, hchannel] at h
      | some key =>
        simp only [hfailed, hchannel, Bool.false_eq_true, if_false, Option.some.injEq,
          Persist.update.injEq] at h ⊢
        subst h
        exact .inl ⟨rfl, rfl, _, fun _ => rfl, rfl⟩

/-- A handler announces for its own device. -/
theorem handle_announces {deviceId : String} {message : DeviceMessage} {device : DeviceEntity}
    {columns : DevicePatch}
    (h : (message.handle deviceId (some device)).write = some (.update columns)) :
    ∃ next, columns.status = some next ∧ ∀ deviceId',
      statusesFor deviceId' (message.handle deviceId (some device)).events =
        if deviceId = deviceId' ∧ device.status ≠ next then [next] else [] := by
  rcases handle_update h with ⟨online, -, before, quiet, events⟩ | ⟨offline, events⟩
  · refine ⟨.online, online, fun deviceId' => ?_⟩
    rw [events, statusesFor_append, quiet, List.nil_append, statusesFor_cameOnline]
  · refine ⟨.offline, offline, fun deviceId' => ?_⟩
    rw [events]
    by_cases same : device.status = .offline
    · simp [same, statusesFor]
    · rw [if_pos same, statusesFor_status]
      simp [same]

/-- The rows of distinct devices announce their own device once. -/
theorem statusesFor_map {rows : List DeviceEntity}
    (distinct : Keyed.Distinct DeviceEntity.deviceId rows) (status : DeviceStatus) (t : Date)
    (deviceId : String) :
    statusesFor deviceId (rows.map fun device => .status device.deviceId status t) =
      if ∃ device ∈ rows, device.deviceId = deviceId then [status] else [] := by
  induction rows with
  | nil => simp [statusesFor]
  | cons row rows ih =>
    obtain ⟨fresh, rest⟩ := List.nodup_cons.mp distinct
    have head : ∀ events, statusesFor deviceId (.status row.deviceId status t :: events) =
        (if row.deviceId = deviceId then [status] else []) ++ statusesFor deviceId events := by
      intro events
      rw [← statusesFor_status deviceId row.deviceId status t, ← statusesFor_append]
      rfl
    rw [List.map_cons, head, ih rest]
    by_cases own : row.deviceId = deviceId
    · have alone : ¬ ∃ device ∈ rows, device.deviceId = deviceId := by
        rintro ⟨device, hdevice, same⟩
        exact fresh (List.mem_map.mpr ⟨device, hdevice, same.trans own.symm⟩)
      simp [own, alone]
    · simp [own]

/-- The spec of every call. -/
theorem plan_spec {call : StatusCall} {rows : List DeviceEntity} (keys : Keys rows)
    {plan : StatusPlan} (made : call.plan rows = some plan) :
    ∃ next, ∀ row ∈ rows, SetsStatus row plan next := by
  cases call with
  | message deviceId received =>
    obtain ⟨device, hfind, hplan⟩ := Option.bind_eq_some_iff.mp made
    obtain ⟨hdevice, hdeviceId⟩ := Keyed.mem_of_find hfind
    dsimp only at hplan
    split at hplan
    · next columns hwrite =>
      obtain rfl := Option.some.inj hplan
      obtain ⟨next, hnext, announces⟩ := handle_announces hwrite
      refine ⟨next, fun row hrow => ⟨hnext, ?_⟩⟩
      -- the event names the device id, the update the id of its row
      have own : deviceId = row.deviceId ↔ row.id ∈ [device.id] := by
        rw [← hdeviceId, List.mem_singleton]
        constructor
        · exact fun same => congrArg _ (keys.deviceIds.eq_of_key hrow hdevice same.symm)
        · exact fun same => congrArg _ (keys.ids.eq_of_key hdevice hrow same.symm)
      rw [announces]
      refine if_congr ((and_congr_left' own).trans (and_congr_right fun same => ?_)) rfl rfl
      rw [keys.ids.eq_of_key hrow hdevice (List.mem_singleton.mp same)]
    · cases hplan
  | sweepOfflineDevices now changedAt =>
    obtain ⟨hids, hcolumns, hevents⟩ := sweepOfflineDevices_eq_some made
    refine ⟨.offline, fun row hrow => ⟨by rw [hcolumns], ?_⟩⟩
    have distinct : Keyed.Distinct DeviceEntity.deviceId
        (staleDevices (now - deviceOfflineThresholdMs) rows) :=
      keys.deviceIds.sublist (List.filter_sublist.map _)
    -- the sweep selects online rows, so it announces every row it updates
    have selected : (∃ device ∈ staleDevices (now - deviceOfflineThresholdMs) rows,
          device.deviceId = row.deviceId) ↔
        row.id ∈ (staleDevices (now - deviceOfflineThresholdMs) rows).map (·.id) ∧
          row.status ≠ .offline := by
      constructor
      · rintro ⟨device, hdevice, same⟩
        obtain ⟨hmem, online, -⟩ := mem_staleDevices.mp hdevice
        obtain rfl := keys.deviceIds.eq_of_key hmem hrow same
        exact ⟨List.mem_map_of_mem hdevice, by simp [online]⟩
      · rintro ⟨hid, -⟩
        obtain ⟨device, hdevice, same⟩ := List.mem_map.mp hid
        obtain rfl := keys.ids.eq_of_key (mem_staleDevices.mp hdevice).1 hrow same
        exact ⟨device, hdevice, rfl⟩
    rw [hevents, hids, statusesFor_map distinct]
    exact if_congr selected rfl rfl

/-! ## Reads and plans along a run -/

/-- A read is the state after the steps before it, and stands for the rest of the trace. -/
theorem sinceRead_spec {i : Fin n} {rows : List DeviceEntity} {later : List (Fin n × StatusStep)}
    (h : sinceRead table i trace = some (rows, later)) :
    Keys rows ∧ rowsAfter table trace = Run.exec StatusStep.act rows (later.map (·.2)) := by
  obtain ⟨pre, ⟨j, l⟩, rfl, reads, rfl⟩ := split_of_since h
  refine ⟨keys_rowsAfter, ?_⟩
  cases l with
  | read =>
    unfold rowsAfter
    rw [List.map_append, Run.exec_append]
    rfl
  | update u => cases reads
  | emit events => cases reads

theorem exists_of_sinceRead {i : Fin n} {rows : List DeviceEntity}
    (h : (sinceRead table i trace).map (·.1) = some rows) :
    ∃ pre : List (Fin n × StatusStep), rows = rowsAfter table pre := by
  obtain ⟨⟨rows, later⟩, hfound, rfl⟩ := Option.map_eq_some_iff.mp h
  obtain ⟨pre, -, -, -, rfl⟩ := split_of_since hfound
  exact ⟨pre, rfl⟩

theorem sinceRead_of_prefix {i : Fin n} {rows : List DeviceEntity}
    {pre : List (Fin n × StatusStep)} (hpre : pre <+: trace)
    (h : (sinceRead table i pre).map (·.1) = some rows) :
    (sinceRead table i trace).map (·.1) = some rows := by
  obtain ⟨post, rfl⟩ := hpre
  obtain ⟨⟨rows, later⟩, hfound, rfl⟩ := Option.map_eq_some_iff.mp h
  unfold sinceRead at hfound ⊢
  rw [since_append_of_some hfound]
  rfl

variable {calls : Fin n → StatusCall} {sched : List (Fin n)} {i : Fin n}

/-- What a call updates, it has planned from the rows it had read. -/
theorem planned_of_update {pre : List (Fin n × StatusStep)} {u : RowsUpdate}
    (h : pre ++ [(i, .update u)] <+: (statusCalls table calls).trace StatusStep.act sched) :
    ∃ rows plan, (sinceRead table i pre).map (·.1) = some rows ∧
      (calls i).plan rows = some plan ∧ plan.update = u := by
  obtain ⟨sched', k, rfl, hproc⟩ := Sys.exists_run_of_step h
  have stage := (stage_run table calls sched').stages i
  rw [hproc] at stage
  generalize hp : Proc.step (StatusStep.update u) k = p at stage
  generalize hcopy : (sinceRead table i _).map (·.1) = copy at stage
  cases stage with
  | unread => cases hp
  | planned rows plan made =>
    obtain ⟨hu, -⟩ := Proc.step.inj hp
    exact ⟨rows, plan, rfl, made, (StatusStep.update.inj hu).symm⟩
  | updated => cases hp
  | through => cases hp

/-- What a call emits, it has planned from the rows it had read. -/
theorem planned_of_emit {events : List DeviceEvent}
    (h : (i, .emit events) ∈ (statusCalls table calls).trace StatusStep.act sched) :
    ∃ rows plan, (sinceRead table i
        ((statusCalls table calls).trace StatusStep.act sched)).map (·.1) = some rows ∧
      (calls i).plan rows = some plan ∧ plan.events = events := by
  obtain ⟨pre, post, hsplit⟩ := List.append_of_mem h
  have hpre : pre ++ [(i, .emit events)] <+: (statusCalls table calls).trace StatusStep.act sched :=
    ⟨post, by simp [hsplit]⟩
  obtain ⟨sched', k, rfl, hproc⟩ := Sys.exists_run_of_step hpre
  have stage := (stage_run table calls sched').stages i
  rw [hproc] at stage
  generalize hp : Proc.step (StatusStep.emit events) k = p at stage
  generalize hcopy : (sinceRead table i _).map (·.1) = copy at stage
  cases stage with
  | unread => cases hp
  | planned => cases hp
  | updated rows plan made =>
    obtain ⟨hevents, -⟩ := Proc.step.inj hp
    have earlier := sinceRead_of_prefix ((List.prefix_append _ _).trans hpre) hcopy
    exact ⟨rows, plan, earlier, made, (StatusStep.emit.inj hevents).symm⟩
  | through => cases hp

end AiotCloud
