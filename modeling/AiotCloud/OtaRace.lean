import AiotCloud.OtaExclusion

/-!
# A trigger against the reports of its attempt

`triggerUpdate` publishes the instruction before it writes anything. The device may
report at once, so the report handlers run between the publish and the two writes of
the trigger, and between one another.

`terminal_settled_iff`: the race ends settled (a `SUCCESS` or `FAILED` that is handled
last is shown by the device row and the attempt, and the device is not left pending
with the attempt open) exactly when

* the device row is saved last with the status of such a report, and its handler, when
  it reads the latest attempt, finds the one of this trigger, open or already at that
  status, and
* if the device row is saved last as pending, the attempt is saved last as over.
-/

namespace AiotCloud

open Interleave

variable {κ : Type}

/-- A trigger (`none`) at the point `trigger`, and the handlers of the reports at
their start. -/
def raceAt (trigger : Proc OtaWorld OtaStep OtaResult) (reports : κ → OtaReport) (w : OtaWorld) :
    Sys (Option κ) OtaWorld OtaStep OtaResult :=
  ⟨w, fun
    | none => trigger
    | some k => handleOtaStatusReport (reports k)⟩

def race (env : ApiConfig) (call : TriggerCall) (reports : κ → OtaReport) (w : OtaWorld) :
    Sys (Option κ) OtaWorld OtaStep OtaResult :=
  raceAt (triggerUpdate env call) reports w

/-- Reports come after the publish: the trigger has the first three turns. -/
def afterPublish (sched : List (Option κ)) : List (Option κ) := none :: none :: none :: sched

/-- The attempt with key `n` shows the status. -/
def RowShown (w : OtaWorld) (n : Nat) (status : DeviceOtaStatus) : Prop :=
  ∃ row ∈ w.history, row.id = n ∧ row.status = status

/-- The attempt with key `n` is open. -/
def RowOpen (w : OtaWorld) (n : Nat) : Prop :=
  ∃ row ∈ w.history, row.id = n ∧ row.completedAt = none

/-! ## The last saves -/

/-- Who saves the device row. -/
def savesDevice : Option κ × OtaStep → Option (Option κ)
  | (i, .saveDevice _) => some i
  | _ => none

/-- Who saves the attempt. -/
def savesAttempt : Option κ × OtaStep → Option (Option κ)
  | (i, .insertHistory _) => some i
  | (i, .saveHistory _) => some i
  | _ => none

/-- The status that a save carries: the trigger's `PENDING`, or that of the report. -/
def carried (reports : κ → OtaReport) : Option κ → Option DeviceOtaStatus
  | none => some .pending
  | some k => parseOtaStatus (reports k).payload.status

/-- The device row is saved last with the status. -/
def DeviceSavedLast (reports : κ → OtaReport) (status : DeviceOtaStatus)
    (trace : List (Option κ × OtaStep)) : Prop :=
  (lastOf savesDevice trace).bind (carried reports) = some status

/-- The attempt is saved last with the status. -/
def AttemptSavedLast (reports : κ → OtaReport) (status : DeviceOtaStatus)
    (trace : List (Option κ × OtaStep)) : Prop :=
  (lastOf savesAttempt trace).bind (carried reports) = some status

/-! ## Where the handlers stand -/

/-- The step of a handler that saves the attempt. -/
def rowStage (report : OtaReport) (device : DeviceEntity) (row : DeviceOtaUpdateEntity) :
    Proc OtaWorld OtaStep OtaResult :=
  .step (.saveHistory (reportedRow row device report.now))
    fun _ => .ret (.handled [reportEvent report device])

/-- The device row that a handler saves or has saved. -/
structure Reported (report : OtaReport) (device : DeviceEntity) : Prop where
  deviceId : device.deviceId = report.deviceId
  status : parseOtaStatus report.payload.status = some device.otaStatus

/-- The stages of a handler. The attempt it may save is the one with key `n`, once
that is inserted. -/
inductive ReportStage (report : OtaReport) (n : Nat) (requestedAt : Date) (inserted : Bool) :
    Proc OtaWorld OtaStep OtaResult → Prop where
  | start : ReportStage report n requestedAt inserted (handleOtaStatusReport report)
  | save (device : DeviceEntity) (reported : Reported report device) :
      ReportStage report n requestedAt inserted
        (.step (.saveDevice device) fun _ => closeReport report device)
  | read (device : DeviceEntity) (reported : Reported report device) :
      ReportStage report n requestedAt inserted (closeReport report device)
  | row (device : DeviceEntity) (reported : Reported report device)
      (row : DeviceOtaUpdateEntity) (hid : row.id = n) (htime : row.requestedAt = requestedAt)
      (hopen : row.completedAt = none) (hinserted : inserted = true) :
      ReportStage report n requestedAt inserted (rowStage report device row)
  | done (result : OtaResult) : ReportStage report n requestedAt inserted (.ret result)

theorem applyReport_reported {report : OtaReport} {w : OtaWorld} {device : DeviceEntity}
    (h : applyReport report (findReported w report) = .ok device) : Reported report device := by
  obtain ⟨found, status, progress, hfound, hparse, -, rfl⟩ := applyReport_eq_ok_iff.mp h
  unfold findReported at hfound
  split at hfound
  · next hid =>
    obtain rfl := Option.some.inj hfound
    exact ⟨hid, hparse⟩
  · cases hfound

/-- A handler goes from stage to stage; it goes on to save an attempt only when it
finds an open one. -/
theorem ReportStage.next {report : OtaReport} {n : Nat} {requestedAt : Date} {inserted : Bool}
    {l : OtaStep} {k : OtaWorld → Proc OtaWorld OtaStep OtaResult} {s : OtaWorld}
    (found : ∀ row, latestUpdate s.history = some row → row.completedAt = none →
      row.id = n ∧ row.requestedAt = requestedAt ∧ inserted = true)
    (h : ReportStage report n requestedAt inserted (.step l k)) :
    ReportStage report n requestedAt inserted (k s) := by
  generalize hp : Proc.step l k = p at h
  cases h with
  | start =>
    obtain ⟨rfl, rfl⟩ := Proc.step.inj hp
    show ReportStage report n requestedAt inserted
      (continueReport report (findReported s report))
    unfold continueReport
    cases happly : applyReport report (findReported s report) with
    | error result => exact .done result
    | ok device => exact .save device (applyReport_reported happly)
  | save device reported =>
    obtain ⟨rfl, rfl⟩ := Proc.step.inj hp
    exact .read device reported
  | read device reported =>
    obtain ⟨rfl, rfl⟩ := Proc.step.inj hp
    show ReportStage report n requestedAt inserted
      (finishReport report device (latestUpdate s.history))
    unfold finishReport
    cases hlatest : latestUpdate s.history with
    | none => exact .done _
    | some row =>
      by_cases hopen : row.completedAt = none
      · obtain ⟨hid, htime, hinserted⟩ := found row hlatest hopen
        simp only [hopen, if_true]
        exact .row device reported row hid htime hopen hinserted
      · simp only [hopen, if_false]
        exact .done _
  | row device reported row hid htime hopen hinserted =>
    obtain ⟨rfl, rfl⟩ := Proc.step.inj hp
    exact .done _
  | done result => exact absurd hp (by simp)

theorem ReportStage.inserted {report : OtaReport} {n : Nat} {requestedAt : Date}
    {p : Proc OtaWorld OtaStep OtaResult}
    (h : ReportStage report n requestedAt false p) : ReportStage report n requestedAt true p := by
  cases h with
  | start => exact .start
  | save device reported => exact .save device reported
  | read device reported => exact .read device reported
  | row device reported row hid htime hopen _ => exact .row device reported row hid htime hopen rfl
  | done result => exact .done result

/-- The trigger after its publish, with the history: its row is not inserted, or it
is the last row and the trigger has returned. -/
inductive TriggerStage (call : TriggerCall) (firmware : FirmwareEntity) (w : OtaWorld) :
    Bool → List DeviceOtaUpdateEntity → Proc OtaWorld OtaStep OtaResult → Prop where
  | save : TriggerStage call firmware w false w.history (bookUpdate call w.device firmware)
  | insert : TriggerStage call firmware w false w.history (insertStage call w.device firmware)
  | done (row : DeviceOtaUpdateEntity) (hid : row.id = w.history.length)
      (htime : row.requestedAt = call.now) (result : OtaResult) :
      TriggerStage call firmware w true (w.history ++ [row]) (.ret result)

/-- The invariant of the race. -/
structure Racing (call : TriggerCall) (reports : κ → OtaReport) (firmware : FirmwareEntity)
    (w : OtaWorld) (inserted : Bool) (c : Sys (Option κ) OtaWorld OtaStep OtaResult) : Prop where
  device : c.shared.device.deviceId = w.device.deviceId
  trigger : TriggerStage call firmware w inserted c.shared.history (c.procs none)
  handlers : ∀ k, ReportStage (reports k) w.history.length call.now inserted (c.procs (some k))

/-- Before the trigger every attempt is over, numbered, and older. -/
structure Before (call : TriggerCall) (w : OtaWorld) : Prop where
  numbered : Numbered w
  closed : ∀ row ∈ w.history, row.completedAt ≠ none
  later : ∀ row ∈ w.history, row.requestedAt < call.now

/-- Only the newest row has the next key. -/
theorem exists_attempt_iff {w s : OtaWorld} (numbered : Numbered w) {row : DeviceOtaUpdateEntity}
    (hid : row.id = w.history.length) (hs : s.history = w.history ++ [row])
    {p : DeviceOtaUpdateEntity → Prop} :
    (∃ r ∈ s.history, r.id = w.history.length ∧ p r) ↔ p row := by
  rw [hs]
  constructor
  · rintro ⟨r, hr, hrid, hp⟩
    rcases List.mem_append.mp hr with hold | hnew
    · have hlt := Table.Numbered.lt_length numbered hold
      exact absurd hrid hlt.ne
    · rw [← List.mem_singleton.mp hnew]
      exact hp
  · intro hp
    exact ⟨row, by simp, hid, hp⟩

theorem latest_of_inserted {call : TriggerCall} {w : OtaWorld} (before : Before call w)
    {row : DeviceOtaUpdateEntity} (htime : row.requestedAt = call.now) :
    latestUpdate (w.history ++ [row]) = some row := by
  refine Table.latest_append_of_lt fun r hr => ?_
  rw [htime]
  exact before.later r (Table.mem_of_latest hr)

/-- The open attempt a handler may find is the one of the trigger. -/
theorem Racing.found {call : TriggerCall} {reports : κ → OtaReport} {firmware : FirmwareEntity}
    {w : OtaWorld} (before : Before call w) {inserted : Bool}
    {c : Sys (Option κ) OtaWorld OtaStep OtaResult}
    (h : Racing call reports firmware w inserted c) (row : DeviceOtaUpdateEntity)
    (hlatest : latestUpdate c.shared.history = some row) (hopen : row.completedAt = none) :
    row.id = w.history.length ∧ row.requestedAt = call.now ∧ inserted = true := by
  have htrigger := h.trigger
  generalize c.shared.history = history at htrigger hlatest
  generalize c.procs none = p at htrigger
  cases htrigger with
  | save => exact absurd hopen (before.closed row (Table.mem_of_latest hlatest))
  | insert => exact absurd hopen (before.closed row (Table.mem_of_latest hlatest))
  | done row' hid htime result =>
    obtain rfl := Option.some_inj.mp ((latest_of_inserted before htime).symm.trans hlatest)
    exact ⟨hid, htime, rfl⟩

theorem Racing.row {call : TriggerCall} {reports : κ → OtaReport} {firmware : FirmwareEntity}
    {w : OtaWorld} {c : Sys (Option κ) OtaWorld OtaStep OtaResult}
    (h : Racing call reports firmware w true c) :
    (∃ a, c.Returned none a) ∧ ∃ row, c.shared.history = w.history ++ [row] ∧
      row.id = w.history.length ∧ row.requestedAt = call.now := by
  have htrigger := h.trigger
  generalize hh : c.shared.history = history at htrigger
  generalize hp : c.procs none = p at htrigger
  cases htrigger with
  | done row hid htime result => exact ⟨⟨result, hp⟩, row, rfl, hid, htime⟩

theorem Racing.unbooked {call : TriggerCall} {reports : κ → OtaReport} {firmware : FirmwareEntity}
    {w : OtaWorld} {c : Sys (Option κ) OtaWorld OtaStep OtaResult}
    (h : Racing call reports firmware w false c) :
    c.shared.history = w.history ∧ (c.procs none = bookUpdate call w.device firmware ∨
      c.procs none = insertStage call w.device firmware) := by
  have htrigger := h.trigger
  generalize c.shared.history = history at htrigger ⊢
  generalize c.procs none = p at htrigger ⊢
  cases htrigger with
  | save => exact ⟨rfl, Or.inl rfl⟩
  | insert => exact ⟨rfl, Or.inr rfl⟩

/-- The steps that the trigger (`none`) and the handlers take after the publish. A row
is saved with the status its saver carries, and the attempt is saved closed just when
that is terminal. -/
inductive RaceStep (reports : κ → OtaReport) (w s : OtaWorld) (i : Option κ) : OtaStep → Prop where
  | readDevice : RaceStep reports w s i .readDevice
  | readLatest : RaceStep reports w s i .readLatest
  | saveDevice (device : DeviceEntity) (hid : device.deviceId = w.device.deviceId)
      (hstatus : carried reports i = some device.otaStatus) :
      RaceStep reports w s i (.saveDevice device)
  | insertHistory (row : DeviceOtaUpdateEntity) (hhistory : s.history = w.history)
      (hstatus : carried reports i = some row.status)
      (hopen : row.completedAt = none ↔ ¬ row.status.Terminal) :
      RaceStep reports w s i (.insertHistory row)
  | saveHistory (row old : DeviceOtaUpdateEntity) (hid : row.id = w.history.length)
      (hhistory : s.history = w.history ++ [old]) (hold : old.id = w.history.length)
      (hstatus : carried reports i = some row.status)
      (hopen : row.completedAt = none ↔ ¬ row.status.Terminal) :
      RaceStep reports w s i (.saveHistory row)

theorem Racing.raceStep {call : TriggerCall} {reports : κ → OtaReport} {firmware : FirmwareEntity}
    {w : OtaWorld} (own : ∀ k, (reports k).deviceId = w.device.deviceId) {inserted : Bool}
    {c : Sys (Option κ) OtaWorld OtaStep OtaResult}
    (h : Racing call reports firmware w inserted c) {i : Option κ} {l : OtaStep}
    {k : OtaWorld → Proc OtaWorld OtaStep OtaResult} (hproc : c.procs i = .step l k) :
    RaceStep reports w c.shared i l := by
  cases i with
  | none =>
    have htrigger := h.trigger
    rw [hproc] at htrigger
    generalize hp : Proc.step l k = p at htrigger
    generalize hh : c.shared.history = history at htrigger
    cases htrigger with
    | save =>
      obtain ⟨rfl, rfl⟩ := Proc.step.inj hp
      exact .saveDevice _ rfl rfl
    | insert =>
      obtain ⟨rfl, rfl⟩ := Proc.step.inj hp
      have pending : ¬ DeviceOtaStatus.Terminal .pending := by decide
      exact .insertHistory _ hh rfl ⟨fun _ => pending, fun _ => rfl⟩
    | done row hid htime result => exact absurd hp (by simp)
  | some m =>
    have hstage := h.handlers m
    rw [hproc] at hstage
    generalize hp : Proc.step l k = p at hstage
    cases hstage with
    | start =>
      obtain ⟨rfl, rfl⟩ := Proc.step.inj hp
      exact .readDevice
    | save device reported =>
      obtain ⟨rfl, rfl⟩ := Proc.step.inj hp
      exact .saveDevice device (reported.deviceId.trans (own m)) reported.status
    | read device reported =>
      obtain ⟨rfl, rfl⟩ := Proc.step.inj hp
      exact .readLatest
    | row device reported row hid htime hopen hinserted =>
      obtain ⟨rfl, rfl⟩ := Proc.step.inj hp
      subst hinserted
      obtain ⟨_, old, hhistory, hold, _⟩ := h.row
      exact .saveHistory _ old hid hhistory hold reported.status
        (reportedRow_open_iff row device (reports m).now hopen)
    | done result => exact absurd hp (by simp)

/-- Every saved device row is a row of this device. -/
theorem RaceStep.deviceId {reports : κ → OtaReport} {w s : OtaWorld} {i : Option κ} {l : OtaStep}
    (h : RaceStep reports w s i l) (same : s.device.deviceId = w.device.deviceId) :
    (s.act l).device.deviceId = w.device.deviceId := by
  cases h with
  | readDevice => exact same
  | readLatest => exact same
  | saveDevice device hid _ => exact hid
  | insertHistory row _ _ _ => exact same
  | saveHistory row old _ _ _ _ _ => exact same

/-- The rows are what the last saves made of them. -/
structure Recorded (reports : κ → OtaReport) (w s : OtaWorld) (trace : List (Option κ × OtaStep)) :
    Prop where
  device : ∀ i, lastOf savesDevice trace = some i → carried reports i = some s.device.otaStatus
  unsaved : lastOf savesAttempt trace = none → s.history = w.history
  attempt : ∀ i, lastOf savesAttempt trace = some i → ∃ row, s.history = w.history ++ [row] ∧
    row.id = w.history.length ∧ carried reports i = some row.status ∧
    (row.completedAt = none ↔ ¬ row.status.Terminal)

theorem Recorded.next {reports : κ → OtaReport} {w s : OtaWorld}
    {trace : List (Option κ × OtaStep)} (numbered : Numbered w) (h : Recorded reports w s trace)
    {i : Option κ} {l : OtaStep} (step : RaceStep reports w s i l) :
    Recorded reports w (s.act l) (trace ++ [(i, l)]) := by
  have device : savesDevice (i, l) = none → (s.act l).device = s.device →
      ∀ j, lastOf savesDevice (trace ++ [(i, l)]) = some j →
        carried reports j = some (s.act l).device.otaStatus := by
    intro hskip hsame j hj
    rw [lastOf_concat, hskip, Option.none_or] at hj
    rw [hsame]
    exact h.device j hj
  have unsaved : savesAttempt (i, l) = none → (s.act l).history = s.history →
      lastOf savesAttempt (trace ++ [(i, l)]) = none → (s.act l).history = w.history := by
    intro hskip hsame hnone
    rw [lastOf_concat, hskip, Option.none_or] at hnone
    exact hsame.trans (h.unsaved hnone)
  have attempt : savesAttempt (i, l) = none → (s.act l).history = s.history →
      ∀ j, lastOf savesAttempt (trace ++ [(i, l)]) = some j →
        ∃ row, (s.act l).history = w.history ++ [row] ∧ row.id = w.history.length ∧
          carried reports j = some row.status ∧
          (row.completedAt = none ↔ ¬ row.status.Terminal) := by
    intro hskip hsame j hj
    rw [lastOf_concat, hskip, Option.none_or] at hj
    rw [hsame]
    exact h.attempt j hj
  cases step with
  | readDevice => exact ⟨device rfl rfl, unsaved rfl rfl, attempt rfl rfl⟩
  | readLatest => exact ⟨device rfl rfl, unsaved rfl rfl, attempt rfl rfl⟩
  | saveDevice entity hid hstatus =>
    refine ⟨fun j hj => ?_, unsaved rfl rfl, attempt rfl rfl⟩
    obtain rfl : i = j := by simpa [lastOf_concat, savesDevice] using hj
    exact hstatus
  | insertHistory row hhistory hstatus hopen =>
    refine ⟨device rfl rfl, fun hnone => ?_, fun j hj => ?_⟩
    · exact absurd hnone (by simp [lastOf_concat, savesAttempt])
    · obtain rfl : i = j := by simpa [lastOf_concat, savesAttempt] using hj
      have hid : s.history.length = w.history.length := congrArg List.length hhistory
      refine ⟨{ row with id := s.history.length }, ?_, hid, hstatus, hopen⟩
      show s.history ++ [_] = _
      rw [hhistory]
  | saveHistory row old hid hhistory hold hstatus hopen =>
    refine ⟨device rfl rfl, fun hnone => ?_, fun j hj => ?_⟩
    · exact absurd hnone (by simp [lastOf_concat, savesAttempt])
    · obtain rfl : i = j := by simpa [lastOf_concat, savesAttempt] using hj
      refine ⟨row, ?_, hid, hstatus, hopen⟩
      show saveRow row s.history = _
      rw [hhistory]
      exact Table.Numbered.save_concat numbered hold hid

/-- The race after the publish. -/
def published (call : TriggerCall) (reports : κ → OtaReport) (w : OtaWorld)
    (firmware : FirmwareEntity) (instruction : OtaInstruction) :
    Sys (Option κ) OtaWorld OtaStep OtaResult :=
  raceAt (bookUpdate call w.device firmware) reports (publishedWorld w instruction)

theorem racing_published (call : TriggerCall) (reports : κ → OtaReport) (w : OtaWorld)
    (firmware : FirmwareEntity) (instruction : OtaInstruction) :
    Racing call reports firmware w false (published call reports w firmware instruction) :=
  ⟨rfl, .save, fun _ => .start⟩

/-! ## One step of the race -/

variable [DecidableEq κ]

theorem TriggerStage.next {call : TriggerCall} {firmware : FirmwareEntity} {w s : OtaWorld}
    {inserted : Bool} {l : OtaStep} {k : OtaWorld → Proc OtaWorld OtaStep OtaResult}
    (h : TriggerStage call firmware w inserted s.history (.step l k)) :
    ∃ inserted', TriggerStage call firmware w inserted' (s.act l).history (k s) ∧
      (inserted = true → inserted' = true) := by
  generalize hp : Proc.step l k = p at h
  generalize hh : s.history = history at h
  cases h with
  | save =>
    obtain ⟨rfl, rfl⟩ := Proc.step.inj hp
    refine ⟨false, ?_, id⟩
    show TriggerStage call firmware w false s.history (insertStage call w.device firmware)
    rw [hh]
    exact .insert
  | insert =>
    obtain ⟨rfl, rfl⟩ := Proc.step.inj hp
    refine ⟨true, ?_, fun _ => rfl⟩
    show TriggerStage call firmware w true (s.history ++ [_]) (.ret _)
    rw [hh]
    exact .done _ rfl rfl _
  | done row hid htime result => exact absurd hp (by simp)

/-- The history after a handler's step: only the attempt of the trigger changes. -/
theorem ReportStage.history {call : TriggerCall} {report : OtaReport} {firmware : FirmwareEntity}
    {w s : OtaWorld} (before : Before call w) {inserted : Bool} {l : OtaStep}
    {k : OtaWorld → Proc OtaWorld OtaStep OtaResult} {p : Proc OtaWorld OtaStep OtaResult}
    (h : ReportStage report w.history.length call.now inserted (.step l k))
    (trigger : TriggerStage call firmware w inserted s.history p) :
    TriggerStage call firmware w inserted (s.act l).history p := by
  generalize hp : Proc.step l k = q at h
  cases h with
  | start =>
    obtain ⟨rfl, rfl⟩ := Proc.step.inj hp
    exact trigger
  | save device reported =>
    obtain ⟨rfl, rfl⟩ := Proc.step.inj hp
    exact trigger
  | read device reported =>
    obtain ⟨rfl, rfl⟩ := Proc.step.inj hp
    exact trigger
  | row device reported row hid htime hopen hinserted =>
    obtain ⟨rfl, rfl⟩ := Proc.step.inj hp
    subst hinserted
    generalize hh : s.history = history at trigger
    cases trigger with
    | done row' hid' htime' result =>
      have hreported : (reportedRow row device report.now).id = w.history.length := hid
      have hsaved : saveRow (reportedRow row device report.now) (w.history ++ [row']) =
          w.history ++ [reportedRow row device report.now] :=
        Table.Numbered.save_concat before.numbered hid' hreported
      show TriggerStage call firmware w true
        (saveRow (reportedRow row device report.now) s.history) (.ret result)
      rw [hh, hsaved]
      exact .done (reportedRow row device report.now) hid htime result
  | done result => exact absurd hp (by simp)

theorem racing_fire {call : TriggerCall} {reports : κ → OtaReport} {firmware : FirmwareEntity}
    {w : OtaWorld} (before : Before call w)
    (own : ∀ k, (reports k).deviceId = w.device.deviceId) {inserted : Bool}
    {c : Sys (Option κ) OtaWorld OtaStep OtaResult}
    (h : Racing call reports firmware w inserted c) (i : Option κ) :
    ∃ inserted', Racing call reports firmware w inserted' (c.fire OtaWorld.act i) ∧
      (inserted = true → inserted' = true) := by
  cases hproc : c.procs i with
  | ret r =>
    rw [Sys.fire_of_ret OtaWorld.act hproc]
    exact ⟨inserted, h, id⟩
  | step l k =>
    have hfire := Sys.fire_of_step OtaWorld.act hproc
    have hnext : (c.fire OtaWorld.act i).procs i = k c.shared := by simp [hfire]
    have hshared : (c.fire OtaWorld.act i).shared = c.shared.act l := by simp [hfire]
    cases i with
    | none =>
      have htrigger := h.trigger
      rw [hproc] at htrigger
      obtain ⟨inserted', htrigger', mono⟩ := htrigger.next
      refine ⟨inserted', ⟨?_, ?_, fun k' => ?_⟩, mono⟩
      · rw [hshared]
        exact (h.raceStep own hproc).deviceId h.device
      · rw [hnext, hshared]
        exact htrigger'
      · rw [Sys.fire_procs_of_ne (by simp)]
        have hstage := h.handlers k'
        cases inserted with
        | true => rwa [mono rfl]
        | false =>
          cases inserted' with
          | true => exact hstage.inserted
          | false => exact hstage
    | some k' =>
      have hstage := h.handlers k'
      rw [hproc] at hstage
      refine ⟨inserted, ⟨?_, ?_, fun m => ?_⟩, id⟩
      · rw [hshared]
        exact (h.raceStep own hproc).deviceId h.device
      · rw [Sys.fire_procs_of_ne (by simp), hshared]
        exact hstage.history before h.trigger
      · rcases eq_or_ne m k' with rfl | hm
        · rw [hnext]
          exact hstage.next (h.found before)
        · rw [Sys.fire_procs_of_ne (by simpa using hm)]
          exact h.handlers m

theorem racing_run {call : TriggerCall} {reports : κ → OtaReport} {firmware : FirmwareEntity}
    {w : OtaWorld} (before : Before call w)
    (own : ∀ k, (reports k).deviceId = w.device.deviceId) {inserted : Bool}
    {c : Sys (Option κ) OtaWorld OtaStep OtaResult}
    (h : Racing call reports firmware w inserted c) (sched : List (Option κ)) :
    ∃ inserted', Racing call reports firmware w inserted' (c.run OtaWorld.act sched) := by
  induction sched generalizing c inserted with
  | nil => exact ⟨inserted, h⟩
  | cons i sched ih =>
    obtain ⟨inserted', h', _⟩ := racing_fire before own h i
    exact ih h'

/-! ## The publish -/

theorem fire_raceAt (l : OtaStep) (k : OtaWorld → Proc OtaWorld OtaStep OtaResult)
    (reports : κ → OtaReport) (w : OtaWorld) :
    (raceAt (.step l k) reports w).fire OtaWorld.act none = raceAt (k w) reports (w.act l) := by
  rw [Sys.fire_of_step OtaWorld.act (show (raceAt (.step l k) reports w).procs none = .step l k
    from rfl)]
  unfold raceAt
  congr 1
  funext i
  cases i with
  | none => simp
  | some m => exact Function.update_of_ne (by simp) _ _

theorem trace_raceAt (l : OtaStep) (k : OtaWorld → Proc OtaWorld OtaStep OtaResult)
    (reports : κ → OtaReport) (w : OtaWorld) (sched : List (Option κ)) :
    (raceAt (.step l k) reports w).trace OtaWorld.act (none :: sched) =
      (none, l) :: (raceAt (k w) reports (w.act l)).trace OtaWorld.act sched := by
  rw [← fire_raceAt]
  rfl

/-- The first three turns of a trigger that goes through end with its publish. -/
theorem run_publish {env : ApiConfig} {call : TriggerCall} (reports : κ → OtaReport)
    {w : OtaWorld} {firmware : FirmwareEntity} {instruction : OtaInstruction}
    (starts : startsUpdate env call w = some (firmware, instruction)) (sched : List (Option κ)) :
    (race env call reports w).run OtaWorld.act (afterPublish sched) =
        (published call reports w firmware instruction).run OtaWorld.act sched ∧
      (race env call reports w).trace OtaWorld.act (afterPublish sched) =
        (none, .readDevice) :: (none, .readFirmware) :: (none, .publish instruction) ::
          (published call reports w firmware instruction).trace OtaWorld.act sched := by
  obtain ⟨found, plan⟩ := startsUpdate_eq_some starts
  have device : continueUpdate env call (findOwned w call) = .step .readFirmware fun s =>
      finishUpdate env call w.device (findFirmware s call.dto.firmwareId) := by
    rw [found]
    rfl
  have firmwareRead : finishUpdate env call w.device (findFirmware w call.dto.firmwareId) =
      .step (.publish instruction) fun _ => bookUpdate call w.device firmware := by
    unfold finishUpdate
    rw [plan]
    rfl
  have start : triggerUpdate env call = .step .readDevice fun s =>
      continueUpdate env call (findOwned s call) := rfl
  unfold race afterPublish published
  rw [start]
  constructor
  · rw [Sys.run_cons, fire_raceAt, device, Sys.run_cons, fire_raceAt]
    show (Sys.fire OtaWorld.act (raceAt (finishUpdate env call w.device
      (findFirmware w call.dto.firmwareId)) reports w) none).run OtaWorld.act sched = _
    rw [firmwareRead, fire_raceAt]
    rfl
  · rw [trace_raceAt, device, trace_raceAt]
    show _ :: _ :: (raceAt (finishUpdate env call w.device
      (findFirmware w call.dto.firmwareId)) reports w).trace OtaWorld.act (none :: sched) = _
    rw [firmwareRead, trace_raceAt]
    rfl

/-! ## The rows at the end -/

theorem recorded_run {call : TriggerCall} {reports : κ → OtaReport} {firmware : FirmwareEntity}
    {instruction : OtaInstruction} {w : OtaWorld} (before : Before call w)
    (own : ∀ k, (reports k).deviceId = w.device.deviceId) (sched : List (Option κ)) :
    Recorded reports w
      ((published call reports w firmware instruction).run OtaWorld.act sched).shared
      ((published call reports w firmware instruction).trace OtaWorld.act sched) := by
  have keeps : ∀ (c : Sys (Option κ) OtaWorld OtaStep OtaResult) trace i l k,
      (∃ b, Racing call reports firmware w b c) ∧ Recorded reports w c.shared trace →
      c.procs i = .step l k →
      (∃ b, Racing call reports firmware w b (c.fire OtaWorld.act i)) ∧
        Recorded reports w (c.fire OtaWorld.act i).shared (trace ++ [(i, l)]) := by
    rintro c trace i l k ⟨⟨b, h⟩, recorded⟩ hproc
    refine ⟨(racing_fire before own h i).imp fun _ h' => h'.1, ?_⟩
    rw [Sys.fire_of_step OtaWorld.act hproc]
    exact recorded.next before.numbered (h.raceStep own hproc)
  have start : Recorded reports w (published call reports w firmware instruction).shared [] :=
    ⟨fun _ h => absurd h (by simp [lastOf]), fun _ => rfl, fun _ h => absurd h (by simp [lastOf])⟩
  exact (Sys.run_trace_invariant keeps
    ⟨⟨false, racing_published call reports w firmware instruction⟩, start⟩ sched).2

/-- The device row ends with the status it is saved last with. -/
theorem device_shown_iff {call : TriggerCall} {reports : κ → OtaReport}
    {firmware : FirmwareEntity} {instruction : OtaInstruction} {w : OtaWorld}
    (before : Before call w) (own : ∀ k, (reports k).deviceId = w.device.deviceId)
    {sched : List (Option κ)}
    (finished : ((published call reports w firmware instruction).run OtaWorld.act sched).Finished)
    (status : DeviceOtaStatus) :
    ((published call reports w firmware instruction).run OtaWorld.act sched).shared.device.otaStatus
        = status ↔
      DeviceSavedLast reports status
        ((published call reports w firmware instruction).trace OtaWorld.act sched) := by
  obtain ⟨a, ha⟩ := finished none
  have saved := Sys.mem_trace_of_returned
    (show (published call reports w firmware instruction).procs none = .step _ _ from rfl) ha
  obtain ⟨i, hlast⟩ := Option.ne_none_iff_exists'.mp (lastOf_ne_none savesDevice saved rfl)
  have hcarried := (recorded_run before own sched).device i hlast
  unfold DeviceSavedLast
  rw [hlast, Option.bind_some, hcarried, Option.some_inj]

/-- The attempt ends open unless it is saved last with a terminal status. -/
theorem row_open_iff {call : TriggerCall} {reports : κ → OtaReport}
    {firmware : FirmwareEntity} {instruction : OtaInstruction} {w : OtaWorld}
    (before : Before call w) (own : ∀ k, (reports k).deviceId = w.device.deviceId)
    {sched : List (Option κ)}
    (finished : ((published call reports w firmware instruction).run OtaWorld.act sched).Finished) :
    RowOpen ((published call reports w firmware instruction).run OtaWorld.act sched).shared
        w.history.length ↔
      ¬ ∃ status, status.Terminal ∧ AttemptSavedLast reports status
        ((published call reports w firmware instruction).trace OtaWorld.act sched) := by
  have recorded : Recorded reports w
      ((published call reports w firmware instruction).run OtaWorld.act sched).shared
      ((published call reports w firmware instruction).trace OtaWorld.act sched) :=
    recorded_run before own sched
  obtain ⟨inserted, h⟩ := racing_run before own
    (racing_published call reports w firmware instruction) sched
  cases inserted with
  | false =>
    obtain ⟨a, ha⟩ := finished none
    rcases h.unbooked.2 with hbook | hinsert
    · exact absurd (hbook.symm.trans ha) (by simp [bookUpdate])
    · exact absurd (hinsert.symm.trans ha) (by simp [insertStage])
  | true =>
    obtain ⟨_, row, hhistory, _⟩ := h.row
    cases hlast : lastOf savesAttempt
        ((published call reports w firmware instruction).trace OtaWorld.act sched) with
    | none =>
      have hsame := hhistory.symm.trans (recorded.unsaved hlast)
      exact absurd (congrArg List.length hsame) (by simp)
    | some i =>
      obtain ⟨row', hhistory', hid, hcarried, hopen⟩ := recorded.attempt i hlast
      unfold RowOpen AttemptSavedLast
      rw [exists_attempt_iff before.numbered hid hhistory', hopen, hlast, Option.bind_some,
        hcarried]
      simp

/-! ## What the last handler finds -/

/-- The handler has not read the latest attempt yet. -/
inductive Unread (report : OtaReport) : Proc OtaWorld OtaStep OtaResult → Prop where
  | start : Unread report (handleOtaStatusReport report)
  | save (device : DeviceEntity) (reported : Reported report device) :
      Unread report (.step (.saveDevice device) fun _ => closeReport report device)
  | read (device : DeviceEntity) (reported : Reported report device) :
      Unread report (closeReport report device)

theorem clampProgress_ne_none {value : JsNumber} (h : value ≠ .nan) :
    clampProgress value ≠ none := by
  cases value with
  | nan => exact absurd rfl h
  | negInfinity => simp [clampProgress]
  | infinity => simp [clampProgress]
  | finite q => simp [clampProgress]

/-- A report whose progress the database stores. A `SUCCESS` stores 100. -/
def Storable (report : OtaReport) (status : DeviceOtaStatus) : Prop :=
  status = .success ∨ report.payload.progress ≠ some .nan

/-- A recognised report of the device with a storable progress is applied. -/
theorem applyReport_ok {report : OtaReport} {s : OtaWorld} {status : DeviceOtaStatus}
    (own : s.device.deviceId = report.deviceId)
    (parsed : parseOtaStatus report.payload.status = some status)
    (storable : Storable report status) :
    ∃ device, applyReport report (findReported s report) = .ok device := by
  unfold findReported
  rw [if_pos own]
  cases hprogress : reportedProgress s.device report.payload status with
  | some progress =>
    exact ⟨reportedDevice s.device report status progress, applyReport_eq_ok_iff.mpr
      ⟨s.device, status, progress, rfl, parsed, hprogress, rfl⟩⟩
  | none =>
    unfold reportedProgress at hprogress
    split at hprogress
    · exact absurd hprogress (by simp)
    · next hfailed =>
      have hnumber := storable.resolve_left hfailed
      cases hvalue : report.payload.progress with
      | none => simp [hvalue] at hprogress
      | some value =>
        rw [hvalue] at hprogress hnumber
        have hclamp : clampProgress value = none := by simpa using hprogress
        exact absurd hclamp (clampProgress_ne_none fun h => hnumber (congrArg some h))

/-- A handler of a recognised report that returns has read the latest attempt. -/
theorem exists_read {call : TriggerCall} {reports : κ → OtaReport} {firmware : FirmwareEntity}
    {w : OtaWorld} (before : Before call w)
    (own : ∀ k, (reports k).deviceId = w.device.deviceId) {r : κ} {status : DeviceOtaStatus}
    (parsed : parseOtaStatus (reports r).payload.status = some status)
    (storable : Storable (reports r) status) {inserted : Bool}
    {c : Sys (Option κ) OtaWorld OtaStep OtaResult}
    (h : Racing call reports firmware w inserted c) (unread : Unread (reports r) (c.procs (some r)))
    {sched : List (Option κ)} {a : OtaResult}
    (returned : (c.run OtaWorld.act sched).Returned (some r) a) :
    ∃ pre post device, sched = pre ++ some r :: post ∧ Reported (reports r) device ∧
      (c.run OtaWorld.act pre).procs (some r) = closeReport (reports r) device := by
  induction sched generalizing c inserted with
  | nil =>
    have hret : c.procs (some r) = .ret a := returned
    rw [hret] at unread
    generalize hp : Proc.ret a = p at unread
    cases unread with
    | start => exact absurd hp (by simp [handleOtaStatusReport])
    | save _ _ => exact absurd hp (by simp)
    | read _ _ => exact absurd hp (by simp [closeReport])
  | cons i sched ih =>
    obtain ⟨inserted', h', _⟩ := racing_fire before own h i
    have later : Unread (reports r) ((c.fire OtaWorld.act i).procs (some r)) →
        ∃ pre post device, i :: sched = pre ++ some r :: post ∧ Reported (reports r) device ∧
          (c.run OtaWorld.act pre).procs (some r) = closeReport (reports r) device := by
      intro unread'
      obtain ⟨pre, post, device, rfl, reported, hread⟩ := ih h' unread' returned
      exact ⟨i :: pre, post, device, rfl, reported, hread⟩
    rcases eq_or_ne (some r) i with rfl | hi
    · generalize hp : c.procs (some r) = p at unread
      cases unread with
      | start =>
        have hproc : c.procs (some r) = .step .readDevice fun s =>
            continueReport (reports r) (findReported s (reports r)) := hp
        obtain ⟨device, happly⟩ := applyReport_ok (h.device.trans (own r).symm) parsed storable
        have hnext : (c.fire OtaWorld.act (some r)).procs (some r) =
            continueReport (reports r) (findReported c.shared (reports r)) := by
          simp [Sys.fire_of_step OtaWorld.act hproc]
        refine later ?_
        rw [hnext]
        unfold continueReport
        rw [happly]
        exact .save device (applyReport_reported happly)
      | save device reported =>
        have hnext : (c.fire OtaWorld.act (some r)).procs (some r) =
            closeReport (reports r) device := by
          simp [Sys.fire_of_step OtaWorld.act hp]
        refine later ?_
        rw [hnext]
        exact .read device reported
      | read device reported => exact ⟨[], sched, device, rfl, reported, hp⟩
    · refine later ?_
      rwa [Sys.fire_procs_of_ne hi]

/-- A handler about to read the latest attempt is at that stage. -/
theorem ReportStage.reading {report : OtaReport} {n : Nat} {requestedAt : Date} {inserted : Bool}
    {p : Proc OtaWorld OtaStep OtaResult} (h : ReportStage report n requestedAt inserted p)
    (label : p.label = some .readLatest) :
    ∃ device, Reported report device ∧ p = closeReport report device := by
  cases h with
  | start => exact absurd label (by simp [handleOtaStatusReport])
  | save _ _ => exact absurd label (by simp)
  | read device reported => exact ⟨device, reported, rfl⟩
  | row _ _ _ _ _ _ _ => exact absurd label (by simp [rowStage])
  | done _ => exact absurd label (by simp)

/-- No handler runs on when the one of `r` has returned. -/
def HandledLast (r : κ) (c : Sys (Option κ) OtaWorld OtaStep OtaResult)
    (sched : List (Option κ)) : Prop :=
  ∀ pre, pre <+: sched → (∃ a, (c.run OtaWorld.act pre).Returned (some r) a) →
    ∀ k, ∃ a, (c.run OtaWorld.act pre).Returned (some k) a

theorem HandledLast.tail {r : κ} {c : Sys (Option κ) OtaWorld OtaStep OtaResult} {i : Option κ}
    {sched : List (Option κ)} (h : HandledLast r c (i :: sched)) :
    HandledLast r (c.fire OtaWorld.act i) sched := by
  rintro pre ⟨post, rfl⟩ returned
  exact h (i :: pre) ⟨post, rfl⟩ returned

theorem HandledLast.suffix {r : κ} {c : Sys (Option κ) OtaWorld OtaStep OtaResult}
    (pre : List (Option κ)) {post : List (Option κ)} (h : HandledLast r c (pre ++ post)) :
    HandledLast r (c.run OtaWorld.act pre) post := by
  induction pre generalizing c with
  | nil => exact h
  | cons i pre ih => exact ih h.tail

/-- When the last handler has returned and the trigger too, the run is over. -/
theorem finished_of_last {r : κ} {c : Sys (Option κ) OtaWorld OtaStep OtaResult}
    {sched : List (Option κ)} (last : HandledLast r c sched)
    (returned : ∃ a, c.Returned (some r) a) (trigger : ∃ a, c.Returned none a) : c.Finished := by
  intro i
  cases i with
  | none => exact trigger
  | some k => exact last [] List.nil_prefix returned k

/-- A last handler that saves the attempt leaves it at the status it reports. -/
theorem rowShown_of_rowStage {call : TriggerCall} {reports : κ → OtaReport}
    {firmware : FirmwareEntity} {w : OtaWorld} (before : Before call w)
    (own : ∀ k, (reports k).deviceId = w.device.deviceId) {r : κ} {device : DeviceEntity}
    {row : DeviceOtaUpdateEntity} (hid : row.id = w.history.length)
    {c : Sys (Option κ) OtaWorld OtaStep OtaResult}
    (h : Racing call reports firmware w true c)
    (stage : c.procs (some r) = rowStage (reports r) device row) {sched : List (Option κ)}
    (last : HandledLast r c sched) (finished : (c.run OtaWorld.act sched).Finished) :
    RowShown (c.run OtaWorld.act sched).shared w.history.length device.otaStatus := by
  induction sched generalizing c with
  | nil =>
    obtain ⟨a, ha⟩ := finished (some r)
    exact absurd (stage.symm.trans ha) (by simp [rowStage])
  | cons i sched ih =>
    obtain ⟨inserted', h', mono⟩ := racing_fire before own h i
    rw [mono rfl] at h'
    rcases eq_or_ne (some r) i with rfl | hi
    · have hfire := Sys.fire_of_step OtaWorld.act stage
      obtain ⟨_, row', hhistory, hid', _⟩ := h.row
      have hsaved : (c.fire OtaWorld.act (some r)).shared.history =
          w.history ++ [reportedRow row device (reports r).now] := by
        rw [hfire]
        show saveRow (reportedRow row device (reports r).now) c.shared.history = _
        rw [hhistory]
        exact Table.Numbered.save_concat before.numbered hid' hid
      have returned : ∃ a, (c.fire OtaWorld.act (some r)).Returned (some r) a :=
        ⟨.handled [reportEvent (reports r) device], by simp [Sys.Returned, hfire]⟩
      have ended := finished_of_last last.tail returned h'.row.1
      rw [Sys.run_cons, Sys.run_of_finished ended]
      have hid'' : (reportedRow row device (reports r).now).id = w.history.length := hid
      exact (exists_attempt_iff before.numbered hid'' hsaved).mpr rfl
    · refine ih h' ?_ last.tail finished
      rw [Sys.fire_procs_of_ne hi, stage]

/-- The trigger alone leaves its attempt pending. -/
structure Alone (call : TriggerCall) (firmware : FirmwareEntity) (w : OtaWorld)
    (c : Sys (Option κ) OtaWorld OtaStep OtaResult) : Prop where
  handlers : ∀ k, ∃ a, c.Returned (some k) a
  trigger :
    (c.shared.history = w.history ∧ (c.procs none = bookUpdate call w.device firmware ∨
      c.procs none = insertStage call w.device firmware)) ∨
    (∃ row, c.shared.history = w.history ++ [row] ∧ row.id = w.history.length ∧
      row.status = .pending ∧ ∃ a, c.Returned none a)

theorem Alone.fire {call : TriggerCall} {firmware : FirmwareEntity} {w : OtaWorld}
    {c : Sys (Option κ) OtaWorld OtaStep OtaResult} (h : Alone call firmware w c) (i : Option κ) :
    Alone call firmware w (c.fire OtaWorld.act i) := by
  cases i with
  | some k =>
    obtain ⟨a, ha⟩ := h.handlers k
    rwa [Sys.fire_of_ret OtaWorld.act ha]
  | none =>
    have handlers : ∀ k, ∃ a, (c.fire OtaWorld.act none).Returned (some k) a := by
      intro k
      obtain ⟨a, ha⟩ := h.handlers k
      exact ⟨a, (Sys.fire_procs_of_ne (by simp)).trans ha⟩
    rcases h.trigger with ⟨hhistory, hbook | hinsert⟩ | ⟨row, hhistory, hid, hstatus, a, ha⟩
    · have hfire :=
        Sys.fire_of_step OtaWorld.act (hbook.trans (bookUpdate_eq call w.device firmware))
      refine ⟨handlers, Or.inl ⟨?_, Or.inr ?_⟩⟩
      · rw [hfire]
        exact hhistory
      · simp [hfire]
    · have hfire := Sys.fire_of_step OtaWorld.act (show c.procs none = .step _ _ from hinsert)
      refine ⟨handlers, Or.inr ⟨insertedRow w firmware call, ?_, rfl, rfl, ?_⟩⟩
      · rw [hfire]
        show c.shared.history ++ [_] = _
        rw [hhistory]
        rfl
      · exact ⟨_, by simp [Sys.Returned, hfire]; rfl⟩
    · rw [Sys.fire_of_ret OtaWorld.act ha]
      exact ⟨h.handlers, Or.inr ⟨row, hhistory, hid, hstatus, a, ha⟩⟩

/-- The attempt of a trigger that is alone stays pending. -/
theorem Alone.not_shown {call : TriggerCall} {firmware : FirmwareEntity} {w : OtaWorld}
    (before : Before call w) {c : Sys (Option κ) OtaWorld OtaStep OtaResult}
    (alone : Alone call firmware w c) {status : DeviceOtaStatus} (terminal : status.Terminal)
    {post : List (Option κ)} (finished : (c.run OtaWorld.act post).Finished) :
    ¬ RowShown (c.run OtaWorld.act post).shared w.history.length status := by
  have keeps : ∀ (c : Sys (Option κ) OtaWorld OtaStep OtaResult) i,
      Alone call firmware w c → Alone call firmware w (c.fire OtaWorld.act i) :=
    fun _ i h => h.fire i
  have after := Sys.run_invariant keeps alone post
  rcases after.trigger with ⟨_, hbook | hinsert⟩ | ⟨row, hrow, hid, hstatus, _⟩
  · obtain ⟨a, ha⟩ := finished none
    exact absurd (hbook.symm.trans ha) (by simp [bookUpdate])
  · obtain ⟨a, ha⟩ := finished none
    exact absurd (hinsert.symm.trans ha) (by simp [insertStage])
  · rw [RowShown, exists_attempt_iff before.numbered hid hrow, hstatus]
    intro hpending
    rw [← hpending] at terminal
    exact absurd terminal (by decide)

/-- A handler that finds no open attempt is through. -/
theorem finishReport_of_closed {report : OtaReport} {device : DeviceEntity}
    {latest : Option DeviceOtaUpdateEntity} (closed : ∀ row ∈ latest, row.completedAt ≠ none) :
    finishReport report device latest = .ret (.handled [reportEvent report device]) := by
  unfold finishReport
  cases latest with
  | none => rfl
  | some row => simp [closed row rfl]

/-- The last handler leaves the attempt at its status just when it finds it, open or
at that status. -/
theorem rowShown_iff {call : TriggerCall} {reports : κ → OtaReport} {firmware : FirmwareEntity}
    {w : OtaWorld} (before : Before call w)
    (own : ∀ k, (reports k).deviceId = w.device.deviceId) {r : κ} {device : DeviceEntity}
    (terminal : device.otaStatus.Terminal) {inserted : Bool}
    {c : Sys (Option κ) OtaWorld OtaStep OtaResult}
    (h : Racing call reports firmware w inserted c)
    (stage : c.procs (some r) = closeReport (reports r) device) {post : List (Option κ)}
    (last : HandledLast r c (some r :: post))
    (finished : (c.run OtaWorld.act (some r :: post)).Finished) :
    RowShown (c.run OtaWorld.act (some r :: post)).shared w.history.length device.otaStatus ↔
      ∃ row, latestUpdate c.shared.history = some row ∧ row.id = w.history.length ∧
        (row.completedAt = none ∨ row.status = device.otaStatus) := by
  have hproc : c.procs (some r) = .step .readLatest fun s =>
      finishReport (reports r) device (latestUpdate s.history) := stage
  have hfire := Sys.fire_of_step OtaWorld.act hproc
  have hnext : (c.fire OtaWorld.act (some r)).procs (some r) =
      finishReport (reports r) device (latestUpdate c.shared.history) := by simp [hfire]
  have hshared : (c.fire OtaWorld.act (some r)).shared = c.shared := by
    rw [hfire]
    rfl
  obtain ⟨inserted', h', mono⟩ := racing_fire before own h (some r)
  rw [Sys.run_cons] at finished ⊢
  cases inserted with
  | false =>
    -- no attempt is booked yet, so the trigger inserts it when no report is left
    obtain ⟨hhistory, htrigger⟩ := h.unbooked
    have closed : ∀ row ∈ latestUpdate c.shared.history, row.completedAt ≠ none := by
      rw [hhistory]
      exact fun row hlatest => before.closed row (Table.mem_of_latest hlatest)
    have returned : ∃ a, (c.fire OtaWorld.act (some r)).Returned (some r) a :=
      ⟨_, hnext.trans (finishReport_of_closed closed)⟩
    have alone : Alone call firmware w (c.fire OtaWorld.act (some r)) := by
      refine ⟨last.tail [] List.nil_prefix returned, Or.inl ⟨?_, ?_⟩⟩
      · rw [hshared, hhistory]
      · rwa [Sys.fire_procs_of_ne (by simp)]
    refine ⟨fun shown => absurd shown (alone.not_shown before terminal finished), ?_⟩
    rintro ⟨row, hlatest, hid, _⟩
    rw [hhistory] at hlatest
    have hlt := Table.Numbered.lt_length before.numbered (Table.mem_of_latest hlatest)
    exact absurd hid hlt.ne
  | true =>
    rw [mono rfl] at h'
    obtain ⟨_, row, hhistory, hid, htime⟩ := h.row
    have hlatest : latestUpdate c.shared.history = some row := by
      rw [hhistory]
      exact latest_of_inserted before htime
    rw [hlatest] at hnext
    by_cases hopen : row.completedAt = none
    · have stage' : (c.fire OtaWorld.act (some r)).procs (some r) =
          rowStage (reports r) device row := by
        rw [hnext]
        unfold finishReport
        simp only [hopen, if_true]
        rfl
      have shown := rowShown_of_rowStage before own hid h' stage' last.tail finished
      exact ⟨fun _ => ⟨row, hlatest, hid, Or.inl hopen⟩, fun _ => shown⟩
    · have closed : ∀ found ∈ some row, found.completedAt ≠ none := by
        rintro _ ⟨⟩
        exact hopen
      have returned : ∃ a, (c.fire OtaWorld.act (some r)).Returned (some r) a :=
        ⟨_, hnext.trans (finishReport_of_closed closed)⟩
      have ended := finished_of_last last.tail returned h'.row.1
      rw [Sys.run_of_finished ended, RowShown,
        exists_attempt_iff before.numbered hid (hshared ▸ hhistory)]
      constructor
      · intro hstatus
        exact ⟨row, hlatest, hid, Or.inr hstatus⟩
      · rintro ⟨row', hlatest', _, hfound⟩
        obtain rfl := Option.some_inj.mp (hlatest.symm.trans hlatest')
        exact hfound.resolve_left hopen

/-! ## The race -/

/-- When the handler of `r` reads the latest attempt, it finds the one with key `n`,
open or at the status. -/
def FindsAttempt (c : Sys (Option κ) OtaWorld OtaStep OtaResult) (sched : List (Option κ)) (r : κ)
    (n : Nat) (status : DeviceOtaStatus) : Prop :=
  ∃ pre post, sched = pre ++ some r :: post ∧
    ((c.run OtaWorld.act pre).procs (some r)).label = some .readLatest ∧
    ∃ row, latestUpdate (c.run OtaWorld.act pre).shared.history = some row ∧ row.id = n ∧
      (row.completedAt = none ∨ row.status = status)

/-- Before the publish no handler takes a step. -/
theorem findsAttempt_afterPublish {env : ApiConfig} {call : TriggerCall} (reports : κ → OtaReport)
    {w : OtaWorld} {firmware : FirmwareEntity} {instruction : OtaInstruction}
    (starts : startsUpdate env call w = some (firmware, instruction)) (sched : List (Option κ))
    (r : κ) (n : Nat) (status : DeviceOtaStatus) :
    FindsAttempt (race env call reports w) (afterPublish sched) r n status ↔
      FindsAttempt (published call reports w firmware instruction) sched r n status := by
  have run : ∀ pre, (race env call reports w).run OtaWorld.act (afterPublish pre) =
      (published call reports w firmware instruction).run OtaWorld.act pre :=
    fun pre => (run_publish reports starts pre).1
  constructor
  · rintro ⟨pre, post, hsched, hlabel, hrow⟩
    unfold afterPublish at hsched
    -- the turns of the trigger are not the handler's, so `pre` holds all three
    match pre with
    | [] => exact absurd hsched (by simp)
    | [_] => exact absurd hsched (by simp)
    | [_, _] => exact absurd hsched (by simp)
    | _ :: _ :: _ :: pre =>
      simp only [List.cons_append, List.cons.injEq] at hsched
      obtain ⟨rfl, rfl, rfl, hsched⟩ := hsched
      have hpre := run pre
      unfold afterPublish at hpre
      rw [hpre] at hlabel hrow
      exact ⟨pre, post, hsched, hlabel, hrow⟩
  · rintro ⟨pre, post, rfl, hlabel, hrow⟩
    refine ⟨afterPublish pre, post, rfl, ?_, ?_⟩
    · rwa [run pre]
    · rwa [run pre]

/-- The report of `r` is handled last and says that the update is over. -/
structure OverLast (reports : κ → OtaReport) (c : Sys (Option κ) OtaWorld OtaStep OtaResult)
    (sched : List (Option κ)) (r : κ) (status : DeviceOtaStatus) : Prop where
  parsed : parseOtaStatus (reports r).payload.status = some status
  terminal : status.Terminal
  storable : Storable (reports r) status
  last : HandledLast r c sched

/-- A terminal report that is handled last is shown by the device row and the attempt
with key `n`, and the device is not left pending with the attempt open. -/
structure Settled (reports : κ → OtaReport) (c : Sys (Option κ) OtaWorld OtaStep OtaResult)
    (sched : List (Option κ)) (n : Nat) : Prop where
  shown : ∀ r status, OverLast reports c sched r status →
    (c.run OtaWorld.act sched).shared.device.otaStatus = status ∧
      RowShown (c.run OtaWorld.act sched).shared n status
  not_stuck : ¬ ((c.run OtaWorld.act sched).shared.device.otaStatus = .pending ∧
    RowOpen (c.run OtaWorld.act sched).shared n)

theorem shown_iff {call : TriggerCall} {reports : κ → OtaReport} {firmware : FirmwareEntity}
    {instruction : OtaInstruction} {w : OtaWorld} (before : Before call w)
    (own : ∀ k, (reports k).deviceId = w.device.deviceId) {sched : List (Option κ)}
    (finished : ((published call reports w firmware instruction).run OtaWorld.act sched).Finished)
    {r : κ} {status : DeviceOtaStatus}
    (ends : OverLast reports (published call reports w firmware instruction) sched r status) :
    RowShown ((published call reports w firmware instruction).run OtaWorld.act sched).shared
        w.history.length status ↔
      FindsAttempt (published call reports w firmware instruction) sched r w.history.length
        status := by
  have start := racing_published call reports w firmware instruction
  -- what the handler of `r` finds decides what the attempt shows
  have row : ∀ pre post, sched = pre ++ some r :: post → ∀ device, Reported (reports r) device →
      ((published call reports w firmware instruction).run OtaWorld.act pre).procs (some r) =
        closeReport (reports r) device →
      (RowShown ((published call reports w firmware instruction).run OtaWorld.act sched).shared
        w.history.length status ↔
        ∃ row, latestUpdate ((published call reports w firmware instruction).run OtaWorld.act
            pre).shared.history = some row ∧ row.id = w.history.length ∧
          (row.completedAt = none ∨ row.status = status)) := by
    rintro pre post rfl device reported stage
    obtain rfl : device.otaStatus = status :=
      Option.some_inj.mp (reported.status.symm.trans ends.parsed)
    obtain ⟨inserted, h⟩ := racing_run before own start pre
    rw [Sys.run_append] at finished ⊢
    exact rowShown_iff before own ends.terminal h stage (ends.last.suffix pre) finished
  constructor
  · intro shown
    obtain ⟨a, ha⟩ := finished (some r)
    obtain ⟨pre, post, d, hsched, reported, stage⟩ :=
      exists_read before own ends.parsed ends.storable start .start ha
    refine ⟨pre, post, hsched, ?_, (row pre post hsched d reported stage).mp shown⟩
    rw [stage]
    rfl
  · rintro ⟨pre, post, hsched, hlabel, hfound⟩
    obtain ⟨inserted, h⟩ := racing_run before own start pre
    obtain ⟨d, reported, stage⟩ := (h.handlers r).reading hlabel
    exact (row pre post hsched d reported stage).mpr hfound

/-- One trigger that goes through races with the reports of its attempt, which come
after the publish. The race ends settled exactly when

* if a `SUCCESS` or `FAILED` is handled last, the device row is saved last with that
  status, and the handler of that report finds the attempt, open or at that status;
* if the device row is saved last as pending, the attempt is saved last with a
  terminal status. -/
theorem terminal_settled_iff {env : ApiConfig} {call : TriggerCall} (reports : κ → OtaReport)
    {w : OtaWorld} (before : Before call w) (starts : startsUpdate env call w ≠ none)
    (own : ∀ k, (reports k).deviceId = w.device.deviceId) {sched : List (Option κ)}
    (finished : ((race env call reports w).run OtaWorld.act (afterPublish sched)).Finished) :
    Settled reports (race env call reports w) (afterPublish sched) w.history.length ↔
      (∀ r status, OverLast reports (race env call reports w) (afterPublish sched) r status →
        DeviceSavedLast reports status
            ((race env call reports w).trace OtaWorld.act (afterPublish sched)) ∧
          FindsAttempt (race env call reports w) (afterPublish sched) r w.history.length
            status) ∧
      (DeviceSavedLast reports .pending
          ((race env call reports w).trace OtaWorld.act (afterPublish sched)) →
        ∃ status, status.Terminal ∧ AttemptSavedLast reports status
          ((race env call reports w).trace OtaWorld.act (afterPublish sched))) := by
  obtain ⟨⟨firmware, instruction⟩, hstarts⟩ := Option.ne_none_iff_exists'.mp starts
  obtain ⟨hrun, htrace⟩ := run_publish reports hstarts sched
  have finished' : ((published call reports w firmware instruction).run OtaWorld.act
      sched).Finished := hrun ▸ finished
  have deviceSaved : ∀ status, DeviceSavedLast reports status
      ((race env call reports w).trace OtaWorld.act (afterPublish sched)) ↔
      DeviceSavedLast reports status
        ((published call reports w firmware instruction).trace OtaWorld.act sched) := by
    intro status
    rw [htrace]
    rfl
  have attemptSaved : ∀ status, AttemptSavedLast reports status
      ((race env call reports w).trace OtaWorld.act (afterPublish sched)) ↔
      AttemptSavedLast reports status
        ((published call reports w firmware instruction).trace OtaWorld.act sched) := by
    intro status
    rw [htrace]
    rfl
  have device := device_shown_iff before own finished'
  have row : ∀ r status, OverLast reports (race env call reports w) (afterPublish sched) r status →
      (RowShown ((published call reports w firmware instruction).run OtaWorld.act sched).shared
        w.history.length status ↔
        FindsAttempt (race env call reports w) (afterPublish sched) r w.history.length
          status) := by
    intro r status ends
    have last' : HandledLast r (published call reports w firmware instruction) sched := by
      have hsuffix := HandledLast.suffix (afterPublish []) ends.last
      rwa [(run_publish reports hstarts []).1] at hsuffix
    rw [findsAttempt_afterPublish reports hstarts]
    exact shown_iff before own finished' ⟨ends.parsed, ends.terminal, ends.storable, last'⟩
  have stuck := row_open_iff before own finished'
  constructor
  · rintro ⟨shown, notStuck⟩
    rw [hrun] at shown notStuck
    refine ⟨fun r status ends => ?_, fun pending => ?_⟩
    · obtain ⟨hdevice, hrow⟩ := shown r status ends
      exact ⟨(deviceSaved status).mpr ((device status).mp hdevice), (row r status ends).mp hrow⟩
    · have hpending := (device .pending).mpr ((deviceSaved .pending).mp pending)
      obtain ⟨status, terminal, hsaved⟩ :=
        not_not.mp fun hnone => notStuck ⟨hpending, stuck.mpr hnone⟩
      exact ⟨status, terminal, (attemptSaved status).mpr hsaved⟩
  · rintro ⟨shown, closed⟩
    refine ⟨fun r status ends => ?_, ?_⟩
    · obtain ⟨hdevice, hrow⟩ := shown r status ends
      rw [hrun]
      exact ⟨(device status).mpr ((deviceSaved status).mp hdevice), (row r status ends).mpr hrow⟩
    · rw [hrun]
      rintro ⟨hpending, hopen⟩
      obtain ⟨status, terminal, hsaved⟩ :=
        closed ((deviceSaved .pending).mpr ((device .pending).mp hpending))
      exact stuck.mp hopen ⟨status, terminal, (attemptSaved status).mp hsaved⟩

/-! ### A success before the bookkeeping -/

def successReport : Unit → OtaReport := fun _ => relayReport .success "2.0.0" 2

/-- The success is handled between the publish and the two writes of the trigger,
which then leave the device pending and the attempt open. -/
theorem success_lost :
    ((race defaultEnv (updateTo2 1) successReport idleWorld).run OtaWorld.act
        (afterPublish [some (), some (), some (), none, none])).Finished ∧
      OverLast successReport (race defaultEnv (updateTo2 1) successReport idleWorld)
        (afterPublish [some (), some (), some (), none, none]) () .success ∧
      ¬ Settled successReport (race defaultEnv (updateTo2 1) successReport idleWorld)
        (afterPublish [some (), some (), some (), none, none]) 0 := by
  have ends : OverLast successReport (race defaultEnv (updateTo2 1) successReport idleWorld)
      (afterPublish [some (), some (), some (), none, none]) () .success :=
    ⟨rfl, by decide, Or.inl rfl, fun _ _ returned _ => returned⟩
  refine ⟨?_, ends, fun settled => ?_⟩
  · rintro (_ | _)
    · exact ⟨_, rfl⟩
    · exact ⟨_, rfl⟩
  · exact absurd (settled.shown () .success ends).1 (by decide)

theorem idleWorld_before : Before (updateTo2 1) idleWorld :=
  ⟨idleWorld_fresh.tracked.2.numbered, fun _ h => absurd h List.not_mem_nil,
    fun _ h => absurd h List.not_mem_nil⟩

theorem terminal_settled_iff_idleWorld :
    Settled successReport (race defaultEnv (updateTo2 1) successReport idleWorld)
        (afterPublish [none, none, some (), some (), some (), some ()]) 0 ↔
      (∀ r status, OverLast successReport (race defaultEnv (updateTo2 1) successReport idleWorld)
          (afterPublish [none, none, some (), some (), some (), some ()]) r status →
        DeviceSavedLast successReport status
            ((race defaultEnv (updateTo2 1) successReport idleWorld).trace OtaWorld.act
              (afterPublish [none, none, some (), some (), some (), some ()])) ∧
          FindsAttempt (race defaultEnv (updateTo2 1) successReport idleWorld)
            (afterPublish [none, none, some (), some (), some (), some ()]) r 0 status) ∧
      (DeviceSavedLast successReport .pending
          ((race defaultEnv (updateTo2 1) successReport idleWorld).trace OtaWorld.act
            (afterPublish [none, none, some (), some (), some (), some ()])) →
        ∃ status, status.Terminal ∧ AttemptSavedLast successReport status
          ((race defaultEnv (updateTo2 1) successReport idleWorld).trace OtaWorld.act
            (afterPublish [none, none, some (), some (), some (), some ()]))) := by
  refine terminal_settled_iff successReport idleWorld_before ?_ (fun _ => rfl) ?_
  · decide
  · rintro (_ | _)
    · exact ⟨_, rfl⟩
    · exact ⟨_, rfl⟩

end AiotCloud
