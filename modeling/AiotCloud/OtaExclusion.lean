import AiotCloud.OtaHistory

/-!
# Concurrent triggers

Any number of `triggerUpdate` calls on one device, interleaved at their accesses to
the database and the broker, with no report in between. A call checks that no update
is in flight on the device row it read first, and writes the row that makes the check
fail for others two steps later.

`exclusive_iff`: at most one call publishes and inserts a row, and every other call
that could have gone through alone is refused, exactly when at most one of those
calls reads the device before a call has saved it.
-/

namespace AiotCloud

open Interleave

variable {κ : Type}

/-- The calls `calls`, all at their start. -/
def callers (env : ApiConfig) (calls : κ → TriggerCall) (w : OtaWorld) :
    Sys κ OtaWorld OtaStep OtaResult :=
  ⟨w, fun i => triggerUpdate env (calls i)⟩

/-- `deviceOtaAlreadyInProgress`. -/
def refusal : OtaResult := answerFailure (.badRequest, "error.deviceOtaAlreadyInProgress")

/-- The call goes through when it runs alone. -/
def Eligible (env : ApiConfig) (w : OtaWorld) (call : TriggerCall) : Prop :=
  startsUpdate env call w ≠ none

/-- No update is in flight and every attempt is over. -/
structure Quiet (w : OtaWorld) : Prop where
  idle : ¬ w.device.otaStatus.InProgress
  closed : ∀ row ∈ w.history, row.completedAt ≠ none

/-- At most one instruction went out, at most one attempt is open, and of two calls
that could have gone through one is refused. -/
structure Exclusive (env : ApiConfig) (calls : κ → TriggerCall) (w : OtaWorld)
    (c : Sys κ OtaWorld OtaStep OtaResult) : Prop where
  published : c.shared.published.length ≤ w.published.length + 1
  one_open : (c.shared.history.filter fun row => row.completedAt = none).length ≤ 1
  refused : ∀ i j, Eligible env w (calls i) → Eligible env w (calls j) → i ≠ j →
    c.Returned i refusal ∨ c.Returned j refusal

def OtaStep.isSave : OtaStep → Bool
  | .saveDevice _ => true
  | _ => false

def OtaStep.isReadDevice : OtaStep → Bool
  | .readDevice => true
  | _ => false

/-- Who reads the device row before anyone saves it. -/
def earlyReaders (trace : List (κ × OtaStep)) : List κ :=
  ((trace.takeWhile fun x => !x.2.isSave).filter fun x => x.2.isReadDevice).map (·.1)

/-- At most one call that could go through reads the device before a save. -/
def OneReader (env : ApiConfig) (calls : κ → TriggerCall) (w : OtaWorld)
    (trace : List (κ × OtaStep)) : Prop :=
  ∀ i ∈ earlyReaders trace, ∀ j ∈ earlyReaders trace,
    Eligible env w (calls i) → Eligible env w (calls j) → i = j

/-! ## What a check says while an update is in flight -/

theorem checkUpdate_pendingDevice {device : DeviceEntity} {firmware? : Option FirmwareEntity}
    {firmware : FirmwareEntity} (h : checkUpdate device firmware? = .ok firmware)
    (f : FirmwareEntity) (t : Date) :
    checkUpdate (pendingDevice device f t) firmware? =
      .error (.badRequest, "error.deviceOtaAlreadyInProgress") := by
  cases firmware? with
  | none => simp [checkUpdate] at h
  | some fw =>
    have pending : (pendingDevice device f t).otaStatus ∈ otaInProgressStatuses := by
      show DeviceOtaStatus.pending ∈ otaInProgressStatuses
      decide
    change (if fw.templateId ≠ device.templateId then _ else if fw.isActive = false then _ else
      if device.pushChannel ≠ .mqtt ∧ device.pushChannel ≠ .kafka then _ else _) = _ at h
    show (if fw.templateId ≠ device.templateId then _ else if fw.isActive = false then _ else
      if device.pushChannel ≠ .mqtt ∧ device.pushChannel ≠ .kafka then _ else _) = _
    by_cases htemplate : fw.templateId ≠ device.templateId
    · rw [if_pos htemplate] at h
      exact absurd h (by simp)
    · by_cases hactive : fw.isActive = false
      · rw [if_neg htemplate, if_pos hactive] at h
        exact absurd h (by simp)
      · by_cases hpush : device.pushChannel ≠ .mqtt ∧ device.pushChannel ≠ .kafka
        · rw [if_neg htemplate, if_neg hactive, if_pos hpush] at h
          exact absurd h (by simp)
        · rw [if_neg htemplate, if_neg hactive, if_neg hpush, if_pos pending]

/-- While an update is in flight every call fails, and one that could have gone
through is refused. -/
theorem planUpdate_pendingDevice (env : ApiConfig) (call : TriggerCall) (device : DeviceEntity)
    (firmware? : Option FirmwareEntity) (f : FirmwareEntity) (t : Date) :
    ∃ failure, planUpdate env call (pendingDevice device f t) firmware? = .error failure ∧
      ((∃ planned, planUpdate env call device firmware? = .ok planned) →
        answerFailure failure = refusal) := by
  cases hcheck : checkUpdate (pendingDevice device f t) firmware? with
  | ok firmware =>
    have idle := checkUpdate_idle hcheck
    exact absurd (by show DeviceOtaStatus.InProgress .pending; decide) idle
  | error failure =>
    refine ⟨failure, by simp [planUpdate, hcheck], ?_⟩
    rintro ⟨planned, hplan⟩
    have hrefused := checkUpdate_pendingDevice (planUpdate_eq_ok hplan) f t
    rw [hcheck] at hrefused
    rw [Except.error.inj hrefused]
    rfl

/-! ## Where the calls stand -/

/-- The step of a call that inserts its history row. -/
def insertStage (call : TriggerCall) (device : DeviceEntity) (firmware : FirmwareEntity) :
    Proc OtaWorld OtaStep OtaResult :=
  .step (.insertHistory (pendingRow (pendingDevice device firmware call.now) firmware call.now))
    fun _ => .ret (.answered (.ok (toStatusDto (pendingDevice device firmware call.now)))
      [.otaStatus device.deviceId .pending (some firmware.version) (some 0) none call.now])

theorem bookUpdate_eq (call : TriggerCall) (device : DeviceEntity) (firmware : FirmwareEntity) :
    bookUpdate call device firmware =
      .step (.saveDevice (pendingDevice device firmware call.now))
        fun _ => insertStage call device firmware := rfl

/-- The state after the publish of a call that goes through. -/
def publishedWorld (w : OtaWorld) (instruction : OtaInstruction) : OtaWorld :=
  { w with published := w.published ++ [instruction] }

/-- The state after its device save. -/
def savedWorld (w : OtaWorld) (call : TriggerCall) (firmware : FirmwareEntity)
    (instruction : OtaInstruction) : OtaWorld :=
  { publishedWorld w instruction with device := pendingDevice w.device firmware call.now }

/-- The state after its insert. -/
def bookedWorld (w : OtaWorld) (call : TriggerCall) (firmware : FirmwareEntity)
    (instruction : OtaInstruction) : OtaWorld :=
  { savedWorld w call firmware instruction with
    history := w.history ++ [insertedRow w firmware call] }

/-- The call that goes through, at one of its stages, with the state it makes. The
flag tells whether it has saved the device row. -/
inductive Leading (env : ApiConfig) (call : TriggerCall) (w : OtaWorld)
    (firmware : FirmwareEntity) (instruction : OtaInstruction) :
    Bool → OtaWorld → Proc OtaWorld OtaStep OtaResult → Prop where
  | firmware : Leading env call w firmware instruction false w
      (continueUpdate env call (some w.device))
  | publish : Leading env call w firmware instruction false w
      (.step (.publish instruction) fun _ => bookUpdate call w.device firmware)
  | save : Leading env call w firmware instruction false (publishedWorld w instruction)
      (bookUpdate call w.device firmware)
  | insert : Leading env call w firmware instruction true
      (savedWorld w call firmware instruction) (insertStage call w.device firmware)
  | done (r : OtaResult) : Leading env call w firmware instruction true
      (bookedWorld w call firmware instruction) (.ret r)

/-- A call that will fail or has failed; one that could have gone through is refused. -/
def Following (env : ApiConfig) (call : TriggerCall) (w : OtaWorld)
    (p : Proc OtaWorld OtaStep OtaResult) : Prop :=
  (∃ device, ((device = w.device ∧ findOwned w call = some device ∧ ¬ Eligible env w call) ∨
      ∃ f t, device = pendingDevice w.device f t) ∧
    p = continueUpdate env call (some device)) ∨
  ∃ r, p = .ret r ∧ (Eligible env w call → r = refusal)

/-- Every call but the leading one is at its start, or follows. -/
def Others (env : ApiConfig) (calls : κ → TriggerCall) (w : OtaWorld) (leader : Option κ)
    (c : Sys κ OtaWorld OtaStep OtaResult) : Prop :=
  ∀ i, some i ≠ leader →
    c.procs i = triggerUpdate env (calls i) ∨ Following env (calls i) w (c.procs i)

/-- What the calls have done so far: nothing, or one of them leads. -/
inductive Phase (env : ApiConfig) (calls : κ → TriggerCall) (w : OtaWorld)
    (c : Sys κ OtaWorld OtaStep OtaResult) : Option κ → Bool → Prop where
  | idle (shared : c.shared = w) (others : Others env calls w none c) :
      Phase env calls w c none false
  | led (p : κ) (saved : Bool) (firmware : FirmwareEntity) (instruction : OtaInstruction)
      (starts : startsUpdate env (calls p) w = some (firmware, instruction))
      (leading : Leading env (calls p) w firmware instruction saved c.shared (c.procs p))
      (others : Others env calls w (some p) c) :
      Phase env calls w c (some p) saved

/-- What the rest of the trace may still do: as long as no one leads, one call that
could go through may read the device; once one leads, none may before its save. -/
def Allowed (env : ApiConfig) (calls : κ → TriggerCall) (w : OtaWorld)
    (trace : List (κ × OtaStep)) : Option κ → Bool → Prop
  | none, _ => OneReader env calls w trace
  | some p, false => ∀ i ∈ earlyReaders trace, Eligible env w (calls i) → i = p
  | some _, true => True

/-! ## Early readers of a trace -/

theorem earlyReaders_read (i : κ) (trace : List (κ × OtaStep)) :
    earlyReaders ((i, .readDevice) :: trace) = i :: earlyReaders trace := rfl

theorem earlyReaders_other {i : κ} {l : OtaStep} (hread : l.isReadDevice = false)
    (hsave : l.isSave = false) (trace : List (κ × OtaStep)) :
    earlyReaders ((i, l) :: trace) = earlyReaders trace := by
  simp [earlyReaders, hread, hsave]

theorem Allowed.tail {env : ApiConfig} {calls : κ → TriggerCall} {w : OtaWorld}
    {trace trace' : List (κ × OtaStep)} {leader : Option κ} {saved : Bool}
    (h : Allowed env calls w trace leader saved)
    (sub : ∀ i ∈ earlyReaders trace', i ∈ earlyReaders trace) :
    Allowed env calls w trace' leader saved := by
  cases leader with
  | none => exact fun i hi j hj => h i (sub i hi) j (sub j hj)
  | some p =>
    cases saved with
    | false => exact fun i hi => h i (sub i hi)
    | true => trivial

/-! ## One step -/

theorem Leading.step {env : ApiConfig} {call : TriggerCall} {w : OtaWorld}
    {firmware : FirmwareEntity} {instruction : OtaInstruction} {saved : Bool} {s : OtaWorld}
    {l : OtaStep} {k : OtaWorld → Proc OtaWorld OtaStep OtaResult}
    (starts : startsUpdate env call w = some (firmware, instruction))
    (h : Leading env call w firmware instruction saved s (.step l k)) :
    ∃ saved', Leading env call w firmware instruction saved' (s.act l) (k s) ∧
      (saved' = false → saved = false ∧ l.isReadDevice = false ∧ l.isSave = false) := by
  generalize hp : Proc.step l k = p at h
  cases h with
  | firmware =>
    obtain ⟨rfl, rfl⟩ := Proc.step.inj hp
    refine ⟨false, ?_, fun _ => ⟨rfl, rfl, rfl⟩⟩
    have plan := (startsUpdate_eq_some starts).2
    show Leading env call w firmware instruction false w
      (finishUpdate env call w.device (findFirmware w call.dto.firmwareId))
    unfold finishUpdate
    rw [plan]
    exact .publish
  | publish =>
    obtain ⟨rfl, rfl⟩ := Proc.step.inj hp
    exact ⟨false, .save, fun _ => ⟨rfl, rfl, rfl⟩⟩
  | save =>
    obtain ⟨rfl, rfl⟩ := Proc.step.inj hp
    exact ⟨true, .insert, fun h => absurd h (by simp)⟩
  | insert =>
    obtain ⟨rfl, rfl⟩ := Proc.step.inj hp
    exact ⟨true, .done _, fun h => absurd h (by simp)⟩
  | done r => exact absurd hp (by simp)

theorem Phase.shared {env : ApiConfig} {calls : κ → TriggerCall} {w : OtaWorld}
    {c : Sys κ OtaWorld OtaStep OtaResult} {leader : Option κ} {saved : Bool}
    (h : Phase env calls w c leader saved) :
    c.shared.firmwares = w.firmwares ∧
      ((saved = false ∧ c.shared.device = w.device) ∨
        (saved = true ∧ ∃ f t, c.shared.device = pendingDevice w.device f t)) := by
  cases h with
  | idle shared _ =>
    rw [shared]
    exact ⟨rfl, Or.inl ⟨rfl, rfl⟩⟩
  | led p _ firmware instruction _ leading _ =>
    generalize c.shared = s at leading ⊢
    generalize c.procs p = proc at leading
    cases leading with
    | firmware => exact ⟨rfl, Or.inl ⟨rfl, rfl⟩⟩
    | publish => exact ⟨rfl, Or.inl ⟨rfl, rfl⟩⟩
    | save => exact ⟨rfl, Or.inl ⟨rfl, rfl⟩⟩
    | insert => exact ⟨rfl, Or.inr ⟨rfl, firmware, (calls p).now, rfl⟩⟩
    | done r => exact ⟨rfl, Or.inr ⟨rfl, firmware, (calls p).now, rfl⟩⟩

/-- A call that reads the device when it cannot go through, or while an update is in
flight, follows. -/
theorem following_of_read {env : ApiConfig} {call : TriggerCall} {w s : OtaWorld}
    (h : (s.device = w.device ∧ ¬ Eligible env w call) ∨
      ∃ f t, s.device = pendingDevice w.device f t) :
    Following env call w (continueUpdate env call (findOwned s call)) := by
  have hid : s.device.id = w.device.id ∧ s.device.userId = w.device.userId := by
    rcases h with ⟨hdevice, _⟩ | ⟨f, t, hdevice⟩
    · rw [hdevice]
      exact ⟨rfl, rfl⟩
    · rw [hdevice]
      exact ⟨rfl, rfl⟩
  by_cases hown : w.device.id = call.id ∧ w.device.userId = call.userId
  · have found : findOwned s call = some s.device := by
      unfold findOwned
      rw [hid.1, hid.2, if_pos hown]
    rw [found]
    refine Or.inl ⟨s.device, ?_, rfl⟩
    rcases h with ⟨hdevice, hne⟩ | hpending
    · refine Or.inl ⟨hdevice, ?_, hne⟩
      rw [hdevice]
      exact if_pos hown
    · exact Or.inr hpending
  · have found : findOwned s call = none := by
      unfold findOwned
      rw [hid.1, hid.2, if_neg hown]
    rw [found]
    refine Or.inr ⟨_, rfl, fun eligible => absurd ?_ eligible⟩
    have none : findOwned w call = none := if_neg hown
    simp [startsUpdate, none]

theorem Following.step {env : ApiConfig} {call : TriggerCall} {w s : OtaWorld} {l : OtaStep}
    {k : OtaWorld → Proc OtaWorld OtaStep OtaResult} (firmwares : s.firmwares = w.firmwares)
    (h : Following env call w (.step l k)) :
    Following env call w (k s) ∧ l = .readFirmware := by
  rcases h with ⟨device, hdevice, hp⟩ | ⟨r, hp, _⟩
  · obtain ⟨rfl, rfl⟩ := Proc.step.inj hp
    refine ⟨Or.inr ?_, rfl⟩
    have hfirmware : findFirmware s call.dto.firmwareId = findFirmware w call.dto.firmwareId := by
      simp [findFirmware, firmwares]
    show ∃ r, finishUpdate env call device (findFirmware s call.dto.firmwareId) = .ret r ∧ _
    rw [hfirmware]
    rcases hdevice with ⟨rfl, found, hne⟩ | ⟨f, t, rfl⟩
    · cases hplan : planUpdate env call w.device (findFirmware w call.dto.firmwareId) with
      | error failure =>
        exact ⟨answerFailure failure, by simp [finishUpdate, hplan],
          fun eligible => absurd eligible hne⟩
      | ok planned =>
        refine absurd ?_ hne
        simp [Eligible, startsUpdate, found, hplan, Except.toOption]
    · obtain ⟨failure, hplan, hrefused⟩ := planUpdate_pendingDevice env call w.device
        (findFirmware w call.dto.firmwareId) f t
      refine ⟨answerFailure failure, by simp [finishUpdate, hplan], fun eligible => hrefused ?_⟩
      obtain ⟨planned, hstarts⟩ := Option.ne_none_iff_exists'.mp eligible
      exact ⟨planned, (startsUpdate_eq_some hstarts).2⟩
  · exact absurd hp (by simp)

theorem Phase.others {env : ApiConfig} {calls : κ → TriggerCall} {w : OtaWorld}
    {c : Sys κ OtaWorld OtaStep OtaResult} {leader : Option κ} {saved : Bool}
    (h : Phase env calls w c leader saved) : Others env calls w leader c := by
  cases h with
  | idle _ others => exact others
  | led _ _ _ _ _ _ others => exact others

theorem Allowed.of_cons {env : ApiConfig} {calls : κ → TriggerCall} {w : OtaWorld} {i : κ}
    {l : OtaStep} (hsave : l.isSave = false) {trace : List (κ × OtaStep)} {leader : Option κ}
    {saved : Bool} (h : Allowed env calls w ((i, l) :: trace) leader saved) :
    Allowed env calls w trace leader saved := by
  refine h.tail fun j hj => ?_
  cases hread : l.isReadDevice with
  | false => rwa [earlyReaders_other hread hsave]
  | true =>
    cases l with
    | readDevice =>
      rw [earlyReaders_read]
      exact List.mem_cons_of_mem i hj
    | readFirmware => exact absurd hread (by decide)
    | publish _ => exact absurd hread (by simp [OtaStep.isReadDevice])
    | saveDevice _ => exact absurd hread (by simp [OtaStep.isReadDevice])
    | insertHistory _ => exact absurd hread (by simp [OtaStep.isReadDevice])
    | readLatest => exact absurd hread (by decide)
    | saveHistory _ => exact absurd hread (by simp [OtaStep.isReadDevice])

/-! ## When every call has returned -/

theorem Following.returned {env : ApiConfig} {call : TriggerCall} {w : OtaWorld} {r : OtaResult}
    (h : Following env call w (.ret r)) (eligible : Eligible env w call) : r = refusal := by
  rcases h with ⟨device, _, hp⟩ | ⟨r', hp, hr⟩
  · exact absurd hp (by simp [continueUpdate])
  · obtain rfl := Proc.ret.inj hp
    exact hr eligible

/-- Every call but the leading one was refused, if it could have gone through. -/
theorem Others.refused {env : ApiConfig} {calls : κ → TriggerCall} {w : OtaWorld}
    {leader : Option κ} {c : Sys κ OtaWorld OtaStep OtaResult} (h : Others env calls w leader c)
    (finished : c.Finished) {i : κ} (hi : some i ≠ leader)
    (eligible : Eligible env w (calls i)) : c.Returned i refusal := by
  obtain ⟨r, hr⟩ := finished i
  rcases h i hi with hstart | hfollow
  · exact absurd (hr.symm.trans hstart) (by simp [triggerUpdate])
  · rw [show c.procs i = .ret r from hr] at hfollow
    rw [← hfollow.returned eligible]
    exact hr

theorem open_rows_of_closed {rows : List DeviceOtaUpdateEntity}
    (closed : ∀ row ∈ rows, row.completedAt ≠ none) :
    (rows.filter fun row => row.completedAt = none) = [] := by
  rw [List.filter_eq_nil_iff]
  intro row hrow
  simpa using closed row hrow

theorem Phase.exclusive {env : ApiConfig} {calls : κ → TriggerCall} {w : OtaWorld}
    {c : Sys κ OtaWorld OtaStep OtaResult} {leader : Option κ} {saved : Bool} (quiet : Quiet w)
    (h : Phase env calls w c leader saved) (finished : c.Finished) : Exclusive env calls w c := by
  have hopen := open_rows_of_closed quiet.closed
  have refused : ∀ i j, Eligible env w (calls i) → Eligible env w (calls j) → i ≠ j →
      c.Returned i refusal ∨ c.Returned j refusal := by
    intro i j hi hj hij
    rcases eq_or_ne (some i) leader with hlead | hlead
    · refine Or.inr (h.others.refused finished (fun hj' => hij ?_) hj)
      exact Option.some_inj.mp (hlead.trans hj'.symm)
    · exact Or.inl (h.others.refused finished hlead hi)
  cases h with
  | idle shared others =>
    refine ⟨?_, ?_, refused⟩
    · rw [shared]
      exact Nat.le_succ _
    · rw [shared, hopen]
      exact Nat.zero_le 1
  | led p _ firmware instruction starts leading others =>
    obtain ⟨r, hr⟩ := finished p
    rw [show c.procs p = .ret r from hr] at leading
    generalize hs : c.shared = s at leading
    generalize hp : Proc.ret r = proc at leading
    cases leading with
    | firmware => exact absurd hp (by simp [continueUpdate])
    | publish => exact absurd hp (by simp)
    | save => exact absurd hp (by simp [bookUpdate])
    | insert => exact absurd hp (by simp [insertStage])
    | done r' =>
      refine ⟨?_, ?_, refused⟩
      · simp [hs, bookedWorld, savedWorld, publishedWorld]
      · rw [hs]
        show ((w.history ++ [insertedRow w firmware (calls p)]).filter _).length ≤ 1
        rw [List.filter_append, hopen, List.nil_append]
        exact List.length_filter_le _ _

/-! ## Two early readers both go through -/

/-- The stages of a call. -/
inductive CallStage (env : ApiConfig) (call : TriggerCall) :
    Proc OtaWorld OtaStep OtaResult → Prop where
  | start : CallStage env call (triggerUpdate env call)
  | firmware (device : DeviceEntity) : CallStage env call (continueUpdate env call (some device))
  | publish (device : DeviceEntity) (firmware : FirmwareEntity) (instruction : OtaInstruction) :
      CallStage env call (.step (.publish instruction) fun _ => bookUpdate call device firmware)
  | save (device : DeviceEntity) (firmware : FirmwareEntity) :
      CallStage env call (bookUpdate call device firmware)
  | insert (device : DeviceEntity) (firmware : FirmwareEntity) :
      CallStage env call (insertStage call device firmware)
  | done (r : OtaResult) : CallStage env call (.ret r)

theorem CallStage.next {env : ApiConfig} {call : TriggerCall} {l : OtaStep}
    {k : OtaWorld → Proc OtaWorld OtaStep OtaResult} (h : CallStage env call (.step l k))
    (s : OtaWorld) :
    CallStage env call (k s) ∧
      (l = .readDevice → k s = continueUpdate env call (findOwned s call)) := by
  generalize hp : Proc.step l k = p at h
  cases h with
  | start =>
    obtain ⟨rfl, rfl⟩ := Proc.step.inj hp
    refine ⟨?_, fun _ => rfl⟩
    show CallStage env call (continueUpdate env call (findOwned s call))
    cases findOwned s call with
    | none => exact .done _
    | some device => exact .firmware device
  | firmware device =>
    obtain ⟨rfl, rfl⟩ := Proc.step.inj hp
    refine ⟨?_, fun h => absurd h (by simp)⟩
    show CallStage env call (finishUpdate env call device (findFirmware s call.dto.firmwareId))
    unfold finishUpdate
    split
    · exact .done _
    · exact .publish device _ _
  | publish device firmware instruction =>
    obtain ⟨rfl, rfl⟩ := Proc.step.inj hp
    exact ⟨.save device firmware, fun h => absurd h (by simp)⟩
  | save device firmware =>
    obtain ⟨rfl, rfl⟩ := Proc.step.inj hp
    exact ⟨.insert device firmware, fun h => absurd h (by simp)⟩
  | insert device firmware =>
    obtain ⟨rfl, rfl⟩ := Proc.step.inj hp
    exact ⟨.done _, fun h => absurd h (by simp)⟩
  | done r => exact absurd hp (by simp)

/-! ## Running the calls -/

variable [DecidableEq κ]

theorem Others.fire {env : ApiConfig} {calls : κ → TriggerCall} {w : OtaWorld}
    {leader leader' : Option κ} {c : Sys κ OtaWorld OtaStep OtaResult}
    (h : Others env calls w leader c) {i : κ}
    (same : ∀ j, j ≠ i → some j ≠ leader' → some j ≠ leader)
    (hi : some i ≠ leader' → Following env (calls i) w ((c.fire OtaWorld.act i).procs i)) :
    Others env calls w leader' (c.fire OtaWorld.act i) := by
  intro j hj
  rcases eq_or_ne j i with rfl | hji
  · exact Or.inr (hi hj)
  · rw [Sys.fire_procs_of_ne hji]
    exact h j (same j hji hj)

/-- A read after which a call follows leaves the phase as it is. -/
theorem Phase.follow {env : ApiConfig} {calls : κ → TriggerCall} {w : OtaWorld}
    {c : Sys κ OtaWorld OtaStep OtaResult} {leader : Option κ} {saved : Bool}
    (h : Phase env calls w c leader saved) {i : κ} {l : OtaStep}
    {k : OtaWorld → Proc OtaWorld OtaStep OtaResult} (hproc : c.procs i = .step l k)
    (hi : some i ≠ leader) (noop : c.shared.act l = c.shared)
    (follows : Following env (calls i) w (k c.shared)) :
    Phase env calls w (c.fire OtaWorld.act i) leader saved := by
  have hfire := Sys.fire_of_step OtaWorld.act hproc
  have hshared : (c.fire OtaWorld.act i).shared = c.shared := by simp [hfire, noop]
  have others : Others env calls w leader (c.fire OtaWorld.act i) := by
    refine h.others.fire (fun _ _ hj => hj) fun _ => ?_
    simpa [hfire] using follows
  cases h with
  | idle shared _ => exact .idle (hshared.trans shared) others
  | led p _ firmware instruction starts leading _ =>
    have hp : p ≠ i := fun heq => hi (by rw [heq])
    refine .led p saved firmware instruction starts ?_ others
    rwa [hshared, Sys.fire_procs_of_ne hp]

/-- The leader's own step. -/
theorem Phase.lead {env : ApiConfig} {calls : κ → TriggerCall} {w : OtaWorld}
    {c : Sys κ OtaWorld OtaStep OtaResult} {saved : Bool} {p : κ}
    (h : Phase env calls w c (some p) saved) {l : OtaStep}
    {k : OtaWorld → Proc OtaWorld OtaStep OtaResult} (hproc : c.procs p = .step l k) :
    ∃ saved', Phase env calls w (c.fire OtaWorld.act p) (some p) saved' ∧
      (saved' = false → saved = false ∧ l.isReadDevice = false ∧ l.isSave = false) := by
  have hfire := Sys.fire_of_step OtaWorld.act hproc
  cases h with
  | led _ _ firmware instruction starts leading others =>
    rw [hproc] at leading
    obtain ⟨saved', leading', before⟩ := leading.step starts
    refine ⟨saved', .led p saved' firmware instruction starts ?_ ?_, before⟩
    · simpa [hfire] using leading'
    · exact others.fire (fun _ _ hj => hj) fun hp => absurd rfl hp

/-- A call that could go through starts to lead. -/
theorem Phase.start {env : ApiConfig} {calls : κ → TriggerCall} {w : OtaWorld}
    {c : Sys κ OtaWorld OtaStep OtaResult} {saved : Bool}
    (h : Phase env calls w c none saved) {i : κ} (hproc : c.procs i = triggerUpdate env (calls i))
    (eligible : Eligible env w (calls i)) :
    Phase env calls w (c.fire OtaWorld.act i) (some i) false := by
  obtain ⟨⟨firmware, instruction⟩, starts⟩ := Option.ne_none_iff_exists'.mp eligible
  have hstart : c.procs i = .step .readDevice fun s =>
      continueUpdate env (calls i) (findOwned s (calls i)) := hproc
  have hfire := Sys.fire_of_step OtaWorld.act hstart
  cases h with
  | idle shared others =>
    refine .led i false firmware instruction starts ?_ ?_
    · have found := (startsUpdate_eq_some starts).1
      have hread : (c.fire OtaWorld.act i).procs i =
          continueUpdate env (calls i) (findOwned c.shared (calls i)) := by simp [hfire]
      have hshared : (c.fire OtaWorld.act i).shared = w := by simp [hfire, OtaWorld.act, shared]
      rw [hread, hshared, shared, found]
      exact .firmware
    · exact others.fire (fun _ _ _ => by simp) fun hi => absurd rfl hi

/-- One step keeps the phase, or makes the caller lead. -/
theorem phase_fire {env : ApiConfig} {calls : κ → TriggerCall} {w : OtaWorld}
    {c : Sys κ OtaWorld OtaStep OtaResult} {leader : Option κ} {saved : Bool}
    (h : Phase env calls w c leader saved) {i : κ} {sched : List κ}
    (allowed : Allowed env calls w (c.trace OtaWorld.act (i :: sched)) leader saved) :
    ∃ leader' saved', Phase env calls w (c.fire OtaWorld.act i) leader' saved' ∧
      Allowed env calls w ((c.fire OtaWorld.act i).trace OtaWorld.act sched) leader' saved' := by
  cases hproc : c.procs i with
  | ret r =>
    refine ⟨leader, saved, ?_, ?_⟩
    · rwa [Sys.fire_of_ret OtaWorld.act hproc]
    · simpa [Sys.trace, hproc] using allowed
  | step l k =>
    have htrace : c.trace OtaWorld.act (i :: sched) =
        (i, l) :: (c.fire OtaWorld.act i).trace OtaWorld.act sched := by
      simp [Sys.trace, hproc]
    rw [htrace] at allowed
    rcases eq_or_ne (some i) leader with rfl | hlead
    · obtain ⟨saved', phase, before⟩ := h.lead hproc
      refine ⟨some i, saved', phase, ?_⟩
      cases saved' with
      | true => trivial
      | false =>
        obtain ⟨rfl, _, hsave⟩ := before rfl
        exact allowed.of_cons hsave
    · rcases h.others i hlead with hstart | hfollow
      · obtain ⟨rfl, rfl⟩ := Proc.step.inj (hproc.symm.trans hstart)
        have goesOn : (c.shared.device = w.device ∧ ¬ Eligible env w (calls i)) ∨
            (∃ f t, c.shared.device = pendingDevice w.device f t) →
            ∃ leader' saved', Phase env calls w (c.fire OtaWorld.act i) leader' saved' ∧
              Allowed env calls w ((c.fire OtaWorld.act i).trace OtaWorld.act sched) leader'
                saved' := by
          intro hdevice
          exact ⟨leader, saved, h.follow hproc hlead rfl (following_of_read hdevice),
            allowed.of_cons rfl⟩
        rcases h.shared.2 with ⟨rfl, hdevice⟩ | ⟨_, hpending⟩
        · by_cases eligible : Eligible env w (calls i)
          · cases leader with
            | none =>
              refine ⟨some i, false, h.start hstart eligible, fun j hj hej => ?_⟩
              exact allowed j (List.mem_cons_of_mem i hj) i List.mem_cons_self hej eligible
            | some p =>
              exact absurd (congrArg some (allowed i List.mem_cons_self eligible)) hlead
          · exact goesOn (Or.inl ⟨hdevice, eligible⟩)
        · exact goesOn (Or.inr hpending)
      · rw [hproc] at hfollow
        obtain ⟨hfollow', rfl⟩ := hfollow.step h.shared.1
        exact ⟨leader, saved, h.follow hproc hlead rfl hfollow', allowed.of_cons rfl⟩

theorem phase_run {env : ApiConfig} {calls : κ → TriggerCall} {w : OtaWorld}
    {c : Sys κ OtaWorld OtaStep OtaResult} {leader : Option κ} {saved : Bool}
    (h : Phase env calls w c leader saved) {sched : List κ}
    (allowed : Allowed env calls w (c.trace OtaWorld.act sched) leader saved) :
    ∃ leader' saved', Phase env calls w (c.run OtaWorld.act sched) leader' saved' := by
  induction sched generalizing c leader saved with
  | nil => exact ⟨leader, saved, h⟩
  | cons i sched ih =>
    obtain ⟨leader', saved', phase, allowed'⟩ := phase_fire h allowed
    exact ih phase allowed'

/-! ## Two early readers both go through -/

/-- A call on its way to success. -/
inductive Committed (env : ApiConfig) (call : TriggerCall) (w : OtaWorld) :
    Proc OtaWorld OtaStep OtaResult → Prop where
  | firmware : Committed env call w (continueUpdate env call (some w.device))
  | publish (firmware : FirmwareEntity) (instruction : OtaInstruction) :
      Committed env call w
        (.step (.publish instruction) fun _ => bookUpdate call w.device firmware)
  | save (firmware : FirmwareEntity) : Committed env call w (bookUpdate call w.device firmware)
  | insert (firmware : FirmwareEntity) : Committed env call w (insertStage call w.device firmware)
  | done (r : OtaResult) (success : r ≠ refusal) : Committed env call w (.ret r)

theorem Committed.next {env : ApiConfig} {call : TriggerCall} {w s : OtaWorld}
    (eligible : Eligible env w call) (firmwares : s.firmwares = w.firmwares) {l : OtaStep}
    {k : OtaWorld → Proc OtaWorld OtaStep OtaResult} (h : Committed env call w (.step l k)) :
    Committed env call w (k s) := by
  generalize hp : Proc.step l k = p at h
  cases h with
  | firmware =>
    obtain ⟨rfl, rfl⟩ := Proc.step.inj hp
    obtain ⟨planned, hstarts⟩ := Option.ne_none_iff_exists'.mp eligible
    have hfirmware : findFirmware s call.dto.firmwareId = findFirmware w call.dto.firmwareId := by
      simp [findFirmware, firmwares]
    show Committed env call w
      (finishUpdate env call w.device (findFirmware s call.dto.firmwareId))
    unfold finishUpdate
    rw [hfirmware, (startsUpdate_eq_some hstarts).2]
    exact .publish planned.1 planned.2
  | publish firmware instruction =>
    obtain ⟨rfl, rfl⟩ := Proc.step.inj hp
    exact .save firmware
  | save firmware =>
    obtain ⟨rfl, rfl⟩ := Proc.step.inj hp
    exact .insert firmware
  | insert firmware =>
    obtain ⟨rfl, rfl⟩ := Proc.step.inj hp
    refine .done _ fun heq => ?_
    have hresponse := (OtaResult.answered.inj heq).1
    exact absurd (congrArg ResponseCore.error hresponse) (by simp)
  | done r _ => exact absurd hp (by simp)

theorem act_firmwares (w : OtaWorld) (l : OtaStep) : (w.act l).firmwares = w.firmwares := by
  cases l <;> rfl

theorem act_device {w : OtaWorld} {l : OtaStep} (h : l.isSave = false) :
    (w.act l).device = w.device := by
  cases l with
  | saveDevice _ => exact absurd h (by simp [OtaStep.isSave])
  | readDevice => rfl
  | readFirmware => rfl
  | publish _ => rfl
  | insertHistory _ => rfl
  | readLatest => rfl
  | saveHistory _ => rfl

theorem fire_firmwares (c : Sys κ OtaWorld OtaStep OtaResult) (i : κ) :
    (c.fire OtaWorld.act i).shared.firmwares = c.shared.firmwares := by
  cases hproc : c.procs i with
  | ret r => rw [Sys.fire_of_ret OtaWorld.act hproc]
  | step l k =>
    rw [Sys.fire_of_step OtaWorld.act hproc]
    exact act_firmwares c.shared l

theorem committed_run {env : ApiConfig} {calls : κ → TriggerCall} {w : OtaWorld} {i : κ}
    (eligible : Eligible env w (calls i)) {c : Sys κ OtaWorld OtaStep OtaResult}
    (firmwares : c.shared.firmwares = w.firmwares)
    (h : Committed env (calls i) w (c.procs i)) (sched : List κ) :
    Committed env (calls i) w ((c.run OtaWorld.act sched).procs i) := by
  induction sched generalizing c with
  | nil => exact h
  | cons j sched ih =>
    refine ih ((fire_firmwares c j).trans firmwares) ?_
    rcases eq_or_ne i j with rfl | hij
    · cases hproc : c.procs i with
      | ret r =>
        rw [Sys.fire_of_ret OtaWorld.act hproc]
        exact h
      | step l k =>
        rw [hproc] at h
        simpa [Sys.fire_of_step OtaWorld.act hproc] using h.next eligible firmwares
    · rwa [Sys.fire_procs_of_ne hij]

/-- A call that reads the device before a save, and could go through, will. -/
theorem committed_of_earlyReader {env : ApiConfig} {calls : κ → TriggerCall} {w : OtaWorld}
    {i : κ} (eligible : Eligible env w (calls i)) {c : Sys κ OtaWorld OtaStep OtaResult}
    (device : c.shared.device = w.device) (firmwares : c.shared.firmwares = w.firmwares)
    (stages : ∀ j, CallStage env (calls j) (c.procs j)) {sched : List κ}
    (early : i ∈ earlyReaders (c.trace OtaWorld.act sched)) :
    Committed env (calls i) w ((c.run OtaWorld.act sched).procs i) := by
  induction sched generalizing c with
  | nil => exact absurd early List.not_mem_nil
  | cons j sched ih =>
    have firmwares' := (fire_firmwares c j).trans firmwares
    cases hproc : c.procs j with
    | ret r =>
      have hfire := Sys.fire_of_ret OtaWorld.act hproc
      have htrace : c.trace OtaWorld.act (j :: sched) = c.trace OtaWorld.act sched := by
        simp [Sys.trace, hproc, hfire]
      rw [htrace] at early
      rw [Sys.run_cons, hfire]
      exact ih device firmwares stages early
    | step l k =>
      have hfire := Sys.fire_of_step OtaWorld.act hproc
      have hnext := stages j
      rw [hproc] at hnext
      obtain ⟨hstage, hread⟩ := hnext.next c.shared
      have stages' : ∀ m, CallStage env (calls m) ((c.fire OtaWorld.act j).procs m) := by
        intro m
        rcases eq_or_ne m j with rfl | hmj
        · simpa [hfire] using hstage
        · rw [Sys.fire_procs_of_ne hmj]
          exact stages m
      have htrace : c.trace OtaWorld.act (j :: sched) =
          (j, l) :: (c.fire OtaWorld.act j).trace OtaWorld.act sched := by
        simp [Sys.trace, hproc]
      rw [htrace] at early
      cases hsave : l.isSave with
      | true => exact absurd early (by simp [earlyReaders, hsave])
      | false =>
        have device' : (c.fire OtaWorld.act j).shared.device = w.device := by
          rw [hfire]
          exact (act_device hsave).trans device
        -- no save yet, so a read of the device finds it as it was
        rcases eq_or_ne l .readDevice with rfl | hl
        · rw [earlyReaders_read] at early
          rcases List.mem_cons.mp early with rfl | hrest
          · refine committed_run eligible firmwares' ?_ sched
            obtain ⟨planned, hstarts⟩ := Option.ne_none_iff_exists'.mp eligible
            have found : findOwned c.shared (calls i) = some w.device := by
              rw [← (startsUpdate_eq_some hstarts).1]
              simp [findOwned, device]
            have hproc' : (c.fire OtaWorld.act i).procs i =
                continueUpdate env (calls i) (findOwned c.shared (calls i)) := by
              simp [hfire, hread rfl]
            rw [hproc', found]
            exact .firmware
          · exact ih device' firmwares' stages' hrest
        · have hread' : l.isReadDevice = false := by
            cases l with
            | readDevice => exact absurd rfl hl
            | readFirmware => rfl
            | publish _ => rfl
            | saveDevice _ => rfl
            | insertHistory _ => rfl
            | readLatest => rfl
            | saveHistory _ => rfl
          rw [earlyReaders_other hread' hsave] at early
          exact ih device' firmwares' stages' early

/-- Of any number of concurrent triggers on a device with no update in flight, at
most one goes through and the others that could have are refused, exactly when at
most one of those reads the device before a save. -/
theorem exclusive_iff (env : ApiConfig) (calls : κ → TriggerCall) {w : OtaWorld} (quiet : Quiet w)
    {sched : List κ} (finished : ((callers env calls w).run OtaWorld.act sched).Finished) :
    Exclusive env calls w ((callers env calls w).run OtaWorld.act sched) ↔
      OneReader env calls w ((callers env calls w).trace OtaWorld.act sched) := by
  constructor
  · intro exclusive i hi j hj hei hej
    by_contra hij
    have committed : ∀ m, m ∈ earlyReaders ((callers env calls w).trace OtaWorld.act sched) →
        Eligible env w (calls m) →
        ¬ ((callers env calls w).run OtaWorld.act sched).Returned m refusal := by
      intro m hm hem hreturned
      have hc := committed_of_earlyReader hem rfl rfl (fun _ => .start) hm
      generalize hp : ((callers env calls w).run OtaWorld.act sched).procs m = p at hc
      have hret : p = .ret refusal := hp.symm.trans hreturned
      cases hc with
      | firmware => exact absurd hret (by simp [continueUpdate])
      | publish _ _ => exact absurd hret (by simp)
      | save _ => exact absurd hret (by simp [bookUpdate])
      | insert _ => exact absurd hret (by simp [insertStage])
      | done r success => exact success (Proc.ret.inj hret)
    rcases exclusive.refused i j hei hej hij with hr | hr
    · exact committed i hi hei hr
    · exact committed j hj hej hr
  · intro one
    have start : Phase env calls w (callers env calls w) none false :=
      .idle rfl fun _ _ => Or.inl rfl
    obtain ⟨leader, saved, phase⟩ := phase_run start one
    exact phase.exclusive quiet finished

/-! ### Two triggers at once -/

def twoTriggers : Bool → TriggerCall
  | false => updateTo2 1
  | true => updateTo2 2

/-- The two calls take turns. -/
def inTurn : List Bool := [false, true, false, true, false, true, false, true, false, true]

/-- Both calls read the idle device; both publish. -/
theorem inTurn_not_exclusive :
    ((callers defaultEnv twoTriggers idleWorld).run OtaWorld.act inTurn).Finished ∧
      ¬ Exclusive defaultEnv twoTriggers idleWorld
        ((callers defaultEnv twoTriggers idleWorld).run OtaWorld.act inTurn) := by
  refine ⟨fun i => ?_, fun exclusive => ?_⟩
  · cases i with
    | false => exact ⟨_, rfl⟩
    | true => exact ⟨_, rfl⟩
  · exact absurd exclusive.published (by decide)

theorem exclusive_iff_oneAfterOther :
    Exclusive defaultEnv twoTriggers idleWorld
        ((callers defaultEnv twoTriggers idleWorld).run OtaWorld.act
          [false, false, false, false, false, true, true]) ↔
      OneReader defaultEnv twoTriggers idleWorld
        ((callers defaultEnv twoTriggers idleWorld).trace OtaWorld.act
          [false, false, false, false, false, true, true]) := by
  have quiet : Quiet idleWorld := ⟨by decide, fun row hrow => absurd hrow List.not_mem_nil⟩
  have finished : ((callers defaultEnv twoTriggers idleWorld).run OtaWorld.act
      [false, false, false, false, false, true, true]).Finished := by
    intro i
    cases i with
    | false => exact ⟨_, rfl⟩
    | true => exact ⟨_, rfl⟩
  exact exclusive_iff defaultEnv twoTriggers quiet finished

end AiotCloud
