import AiotCloud.OfflineSweep

/-!
# Status bookkeeping

The calls that write a status, and those that create a device or save one whole, each run to
its end before the next one begins.

1. `Inv.step`: a device is online only if a message of it has come.
2. `sweep_eq`: what a sweep does to the table, and what it announces.
3. `status_bookkeeping`: after every run.
-/

namespace AiotCloud

inductive WholeCall where
  | registerDevice (now : Date) (userId id : String) (factoryId : Option String)
      (templates : List DeviceTemplateEntity) (dto : RegisterDeviceDto)
  | updateDeviceConfig (userId id : String) (dto : UpdateDeviceConfigDto)
  | status (call : StatusCall)

structure StatusBook where
  devices : List DeviceEntity := []
  events : List DeviceEvent := []

namespace StatusBook

def step (s : StatusBook) : WholeCall → StatusBook
  | .registerDevice now userId id factoryId templates dto =>
    { s with devices := afterRegister id now userId factoryId dto templates s.devices }
  | .updateDeviceConfig userId id dto =>
    { s with devices := afterUpdateConfig userId id dto s.devices }
  | .status call =>
    match call.plan s.devices with
    | none => s
    | some plan =>
      { devices := plan.update.apply s.devices, events := s.events ++ plan.events }

end StatusBook

/-- The time that a call can put on a device. -/
def WholeCall.heardAt : WholeCall → Option Date
  | .status (.message _ received) => some received.receivedAt
  | _ => none

/-! ## Heartbeats -/

/-- An online device has a heartbeat, which is the time of a message. -/
def HeardOnline (calls : List WholeCall) (device : DeviceEntity) : Prop :=
  device.status = .online →
    ∃ t, device.lastSeenAt = some t ∧ ∃ call ∈ calls, call.heardAt = some t

theorem HeardOnline.mono {calls : List WholeCall} {device : DeviceEntity}
    (h : HeardOnline calls device) (call : WholeCall) : HeardOnline (calls ++ [call]) device := by
  intro online
  obtain ⟨t, seen, message, hmessage, at_⟩ := h online
  exact ⟨t, seen, message, List.mem_append_left _ hmessage, at_⟩

/-- A plan writes a heartbeat with the status online. -/
theorem plan_online {call : StatusCall} {rows : List DeviceEntity} {plan : StatusPlan}
    (made : call.plan rows = some plan) :
    (plan.update.columns.status = some .online ∧ ∃ t, plan.update.columns.lastSeenAt = some t ∧
        (WholeCall.status call).heardAt = some t) ∨
      plan.update.columns.status = some .offline := by
  cases call with
  | message deviceId received =>
    obtain ⟨device, -, hplan⟩ := Option.bind_eq_some_iff.mp made
    dsimp only at hplan
    split at hplan
    · next columns hwrite =>
      obtain rfl := Option.some.inj hplan
      exact (handle_update hwrite).imp (fun h => ⟨h.1, _, h.2.1, rfl⟩) And.left
    · cases hplan
  | sweepOfflineDevices now changedAt =>
    obtain ⟨-, columns, -⟩ := sweepOfflineDevices_eq_some made
    exact .inr (by rw [columns])

/-! ## Runs -/

namespace StatusBook

structure Inv (calls : List WholeCall) (s : StatusBook) : Prop where
  keys : Keys s.devices
  heard : ∀ device ∈ s.devices, HeardOnline calls device

variable {calls : List WholeCall} {s : StatusBook}

/-- A device is created offline. -/
theorem Inv.registered (h : s.Inv calls) (call : WholeCall) (id : String) (now : Date)
    (userId : String) (factoryId : Option String) (dto : RegisterDeviceDto)
    (templates : List DeviceTemplateEntity) :
    Inv (calls ++ [call])
      { s with devices := afterRegister id now userId factoryId dto templates s.devices } := by
  refine ⟨h.keys.afterRegister id now userId factoryId dto templates, fun device hdevice => ?_⟩
  have hdevice : device ∈ afterRegister id now userId factoryId dto templates s.devices := hdevice
  rcases afterRegister_cases id now userId factoryId dto templates s.devices with
    same | ⟨row, rfl, -, -, inserted⟩
  · rw [same] at hdevice
    exact (h.heard device hdevice).mono _
  · rw [inserted] at hdevice
    rcases List.mem_append.mp hdevice with hdevice | hdevice
    · exact (h.heard device hdevice).mono _
    · rw [List.mem_singleton.mp hdevice]
      rintro ⟨⟩

/-- A config is saved with the status that was read. -/
theorem Inv.configured (h : s.Inv calls) (call : WholeCall) (userId id : String)
    (dto : UpdateDeviceConfigDto) :
    Inv (calls ++ [call]) { s with devices := afterUpdateConfig userId id dto s.devices } := by
  refine ⟨h.keys.afterUpdateConfig userId id dto, fun device hdevice => ?_⟩
  have hdevice : device ∈ afterUpdateConfig userId id dto s.devices := hdevice
  cases hfind : findOwnedDevice s.devices userId id with
  | none =>
    rw [afterUpdateConfig_of_none hfind] at hdevice
    exact (h.heard device hdevice).mono _
  | some found =>
    rw [afterUpdateConfig_of_some hfind] at hdevice
    rcases Keyed.mem_modify_iff.mp hdevice with ⟨old, -, -, rfl⟩ | ⟨hdevice, -⟩
    · have saved := (h.heard found ((findInScope_eq_some_iff h.keys).mp hfind).1).mono call
      exact saved
    · exact (h.heard device hdevice).mono _

/-- A plan puts the time of its message on the devices that it puts online. -/
theorem Inv.planned (h : s.Inv calls) {call : StatusCall} {plan : StatusPlan}
    (made : call.plan s.devices = some plan) (events : List DeviceEvent) :
    Inv (calls ++ [.status call])
      { devices := plan.update.apply s.devices, events := events } := by
  refine ⟨h.keys.apply plan.update, fun device hdevice => ?_⟩
  obtain ⟨old, hold, rfl⟩ := List.mem_map.mp hdevice
  by_cases named : old.id ∈ plan.update.ids
  · rw [RowsUpdate.change_of_mem named]
    rcases plan_online made with ⟨status, t, seen, heard⟩ | status
    · intro _
      refine ⟨t, ?_, .status call, List.mem_append_right _ List.mem_cons_self, heard⟩
      simp [DevicePatch.apply, seen]
    · intro online
      simp [DevicePatch.apply, status] at online
  · rw [RowsUpdate.change_of_notMem named]
    exact (h.heard old hold).mono _

theorem Inv.step (h : s.Inv calls) (call : WholeCall) :
    (s.step call).Inv (calls ++ [call]) := by
  cases call with
  | registerDevice now userId id factoryId templates dto =>
    exact h.registered _ id now userId factoryId dto templates
  | updateDeviceConfig userId id dto => exact h.configured _ userId id dto
  | status call =>
    unfold StatusBook.step
    dsimp only
    split
    · exact ⟨h.keys, fun device hdevice => (h.heard device hdevice).mono _⟩
    · next plan made => exact h.planned made _

theorem inv_exec (calls : List WholeCall) : (Run.exec step {} calls).Inv calls := by
  induction calls using List.reverseRecOn with
  | nil => exact ⟨⟨List.nodup_nil, List.nodup_nil⟩, fun _ h => absurd h List.not_mem_nil⟩
  | append_singleton calls call ih =>
    rw [Run.exec_append]
    exact ih.step call

end StatusBook

/-! ## Sweeps -/

/-- An online device was last heard of longer than the threshold ago. -/
def SilentOnline (now : Date) (device : DeviceEntity) : Prop :=
  device.status = .online ∧ device.lastSeenAt.any (deviceOfflineThresholdMs < now - ·)

instance (now : Date) : DecidablePred (SilentOnline now) :=
  fun _ => inferInstanceAs (Decidable (_ ∧ _))

/-- The devices that a sweep turns offline. -/
def silentDevices (now : Date) (devices : List DeviceEntity) : List DeviceEntity :=
  devices.filter (SilentOnline now ·)

theorem staleDevices_eq (now : Date) (devices : List DeviceEntity) :
    staleDevices (now - deviceOfflineThresholdMs) devices = silentDevices now devices := by
  refine List.filter_congr fun device _ => decide_eq_decide.mpr ?_
  unfold SilentOnline
  refine and_congr_right fun _ => ?_
  cases device.lastSeenAt with
  | none => simp
  | some t =>
    simp only [Option.any_some, decide_eq_true_eq]
    exact lt_sub_comm

/-- A sweep turns the silent devices offline, announces each of them and does nothing else. -/
theorem sweep_eq {s : StatusBook} (keys : Keys s.devices) (now changedAt : Date) :
    s.step (.status (.sweepOfflineDevices now changedAt)) =
      { devices := s.devices.map fun device =>
          if SilentOnline now device then { device with status := .offline } else device
        events := s.events ++ (silentDevices now s.devices).map fun device =>
          .status device.deviceId .offline changedAt } := by
  have selected {device : DeviceEntity} (hdevice : device ∈ s.devices) :
      device.id ∈ (silentDevices now s.devices).map (·.id) ↔ SilentOnline now device := by
    constructor
    · intro named
      obtain ⟨silent, hsilent, same⟩ := List.mem_map.mp named
      obtain ⟨hmem, silent'⟩ := List.mem_filter.mp hsilent
      rw [← keys.ids.eq_of_key hmem hdevice same]
      exact of_decide_eq_true silent'
    · exact fun silent => List.mem_map_of_mem (List.mem_filter.mpr ⟨hdevice, decide_eq_true silent⟩)
  cases made : sweepOfflineDevices now changedAt s.devices with
  | none =>
    have nobody : silentDevices now s.devices = [] := by
      rw [← staleDevices_eq]
      unfold sweepOfflineDevices at made
      split at made
      · assumption
      · cases made
    have same : s.step (.status (.sweepOfflineDevices now changedAt)) = s := by
      simp only [StatusBook.step, StatusCall.plan, made]
    rw [same, nobody, List.map_nil, List.append_nil]
    have kept : ∀ device ∈ s.devices, (if SilentOnline now device then
        { device with status := .offline } else device) = device := by
      intro device hdevice
      refine if_neg fun silent => ?_
      have named := (selected hdevice).mpr silent
      rw [nobody] at named
      cases named
    rw [List.map_congr_left kept, List.map_id']
  | some plan =>
    obtain ⟨ids, columns, events⟩ := sweepOfflineDevices_eq_some made
    rw [staleDevices_eq] at ids events
    have planned : s.step (.status (.sweepOfflineDevices now changedAt)) =
        { devices := plan.update.apply s.devices, events := s.events ++ plan.events } := by
      simp only [StatusBook.step, StatusCall.plan, made]
    rw [planned, events]
    congr 1
    refine List.map_congr_left fun device hdevice => ?_
    unfold RowsUpdate.change
    rw [ids, columns]
    exact if_congr (selected hdevice) rfl rfl

/-- After every run of whole calls an online device has a heartbeat. A sweep turns exactly the
silent online devices offline, with one event for each, and changes nothing else; if the last
messages are longer ago than the threshold, it leaves no device online. -/
theorem status_bookkeeping (calls : List WholeCall) :
    (∀ device ∈ (Run.exec StatusBook.step {} calls).devices, device.status = .online →
      device.lastSeenAt ≠ none) ∧
    ∀ now changedAt,
      let before := Run.exec StatusBook.step {} calls
      let after := before.step (.status (.sweepOfflineDevices now changedAt))
      after.devices = before.devices.map (fun device =>
          if SilentOnline now device then { device with status := .offline } else device) ∧
      (∃ events, after.events = before.events ++ events ∧
        events.length = (silentDevices now before.devices).length ∧
        ∀ device ∈ before.devices, statusesFor device.deviceId events =
          if SilentOnline now device then [.offline] else []) ∧
      ((∀ call ∈ calls, ∀ t, call.heardAt = some t → deviceOfflineThresholdMs < now - t) →
        ∀ device ∈ after.devices, device.status = .offline) := by
  obtain ⟨keys, heard⟩ := StatusBook.inv_exec calls
  refine ⟨?_, fun now changedAt => ?_⟩
  · intro device hdevice online
    obtain ⟨t, seen, -⟩ := heard device hdevice online
    simp [seen]
  · dsimp only
    rw [sweep_eq keys]
    generalize Run.exec StatusBook.step {} calls = s at keys heard ⊢
    refine ⟨rfl, ⟨_, rfl, List.length_map _, ?_⟩, ?_⟩
    · intro device hdevice
      have distinct : Keyed.Distinct DeviceEntity.deviceId (silentDevices now s.devices) :=
        keys.deviceIds.sublist (List.filter_sublist.map _)
      rw [statusesFor_map distinct]
      refine if_congr ⟨?_, fun silent => ?_⟩ rfl rfl
      · rintro ⟨other, hother, same⟩
        obtain ⟨hmem, silent⟩ := List.mem_filter.mp hother
        rw [← keys.deviceIds.eq_of_key hmem hdevice same]
        exact of_decide_eq_true silent
      · exact ⟨device, List.mem_filter.mpr ⟨hdevice, decide_eq_true silent⟩, rfl⟩
    · intro quiet device hdevice
      obtain ⟨old, hold, rfl⟩ := List.mem_map.mp hdevice
      split
      · rfl
      · next loud =>
        cases status : old.status with
        | offline => rfl
        | online =>
          obtain ⟨t, seen, call, hcall, at_⟩ := heard old hold status
          refine absurd ⟨status, ?_⟩ loud
          simpa [seen] using quiet call hcall t at_

/-! ## A relay that falls silent -/

def silentRelay : List WholeCall :=
  [.registerDevice 0 "u1" "d1" none [relayTemplate]
    { deviceId := "relay-1", templateId := "t1", name := "Relay", isActive := none },
    .status (.message "relay-1" (.telemetry 5 .null))]

theorem status_bookkeeping_silentRelay :
    ∀ device ∈ ((Run.exec StatusBook.step {} silentRelay).step
        (.status (.sweepOfflineDevices 60006 60006))).devices, device.status = .offline := by
  have quiet : ∀ call ∈ silentRelay, ∀ t, call.heardAt = some t →
      deviceOfflineThresholdMs < 60006 - t := by
    simp [silentRelay, WholeCall.heardAt, DeviceMessage.receivedAt, deviceOfflineThresholdMs]
  exact ((status_bookkeeping silentRelay).2 60006 60006).2.2 quiet

end AiotCloud
