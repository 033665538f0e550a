import AiotCloud.Ota
import AiotCloud.UnclaimedDevices
import AiotCloud.UplinkRouting

/-!
# Malformed payloads

What the handlers of a message do with a payload of any shape, as far as it can end in an
error: the text of a value, a method call on it, and the statements they run. The values
they store and emit are those of the other modules.

An object has no text if it has a field `toString`, which hides the method; an array has
none if an item has none.

* `isOk_jsString_iff`: which values have a text.
* `handleDeviceChannelEvent_iff`, `handleOtaStatusReport_iff`: when a handler completes.
* `ingress_completes_iff`: every message over MQTT, and over Kafka.
-/

namespace AiotCloud.Ingress

inductive JsError where
  | typeError
  | database
deriving DecidableEq, Repr

abbrev Js (α : Type) := Except JsError α

/-! ## Values -/

mutual
/-- `String(value)`, or a value in a template; `numberText` is the text of a number. -/
def jsString (numberText : Rat → String) : Json → Js String
  | .null => .ok "null"
  | .bool b => .ok (if b then "true" else "false")
  | .number n => .ok (numberText n)
  | .string s => .ok s
  | .array items => do
    let texts ← jsStrings numberText items
    return ",".intercalate texts
  | .object fields =>
    if (fields.lookup "toString").isSome then .error .typeError else .ok "[object Object]"

/-- The items of an array; `null` is left empty. -/
def jsStrings (numberText : Rat → String) : List Json → Js (List String)
  | [] => .ok []
  | item :: items => do
    let text ← jsString numberText item
    let texts ← jsStrings numberText items
    return (match item with | .null => "" | _ => text) :: texts
end

mutual
/-- The value has a text. -/
def printable : Json → Bool
  | .array items => allPrintable items
  | .object fields => (fields.lookup "toString").isNone
  | .null | .bool _ | .number _ | .string _ => true

def allPrintable : List Json → Bool
  | [] => true
  | item :: items => printable item && allPrintable items
end

/-- The field of a value, where it has one. -/
def field (name : String) : Json → Option Json
  | .object fields => fields.lookup name
  | _ => none

/-- `value.name`. -/
def readField (name : String) : Json → Js (Option Json)
  | .null => .error .typeError
  | value => .ok (field name value)

/-- `value ?? other`. -/
def orElse (value : Option Json) (other : Json) : Json :=
  match value with
  | none | some .null => other
  | some value => value

/-- `value.trim()`. -/
def trimmed : Json → Js String
  | .string s => .ok (jsTrim s)
  | _ => .error .typeError

def truthy : Json → Bool
  | .null => false
  | .bool b => b
  | .number n => n ≠ 0
  | .string s => s ≠ ""
  | .array _ | .object _ => true

/-! ## The database -/

/-- A statement, with the value it sends where a message decides it. -/
inductive Statement where
  | findDevice (deviceId : Json)
  | findUnclaimed (deviceId : Json)
  | updateUnclaimed (topic payload : Json)
  | insertUnclaimed (topic payload : Json)
  | insertTelemetry (payload : Json)
  | updateDevice
  | saveDevice
  | findLatest
  | saveHistory
  | resolveTopic (topic : String)

/-- What the queries answer, and which statements fail. -/
structure Database where
  devices : List DeviceEntity
  device : Json → Option DeviceEntity
  unclaimed : Json → Option UnclaimedDeviceEntity
  latest : String → Option DeviceOtaUpdateEntity
  fails : Statement → Bool

namespace Database

def run {α : Type} (db : Database) (statement : Statement) (answer : α) : Js α :=
  if db.fails statement then .error .database else .ok answer

/-- Every statement succeeds. -/
structure Succeeds (db : Database) : Prop where
  statements : ∀ statement, db.fails statement = false
  topics : ∀ topic, AiotCloud.resolveCustomMqttTopic db.devices topic ≠ none

theorem Succeeds.run {db : Database} (succeeds : db.Succeeds) {α : Type} (statement : Statement)
    (answer : α) : db.run statement answer = .ok answer := by
  simp [Database.run, succeeds.statements]

end Database

/-! ## Handlers -/

variable (numberText : Rat → String) (db : Database)

/-- The answer is whether the device is ignored. -/
def recordUnclaimedDevice (deviceId topic payload : Json) : Js Bool := do
  let existing ← db.run (.findUnclaimed deviceId) (db.unclaimed deviceId)
  match existing with
  | some existing =>
    db.run (.updateUnclaimed topic payload) ()
    return existing.ignoredAt.isSome
  | none =>
    db.run (.insertUnclaimed topic payload) ()
    return false

def recordTelemetry (deviceId payload : Json) : Js Unit := do
  let device ← db.run (.findDevice deviceId) (db.device deviceId)
  match device with
  | none =>
    let _isIgnored ← recordUnclaimedDevice db deviceId (.string "telemetry") payload
  | some _ =>
    db.run (.insertTelemetry (normalizePayload payload)) ()
    db.run .updateDevice ()

def handleDeviceStatusMessage (deviceId payload : Json) : Js Unit := do
  let device ← db.run (.findDevice deviceId) (db.device deviceId)
  match device with
  | none =>
    let _isIgnored ← recordUnclaimedDevice db deviceId (.string "status") payload
  | some _ =>
    match parseStatusPayload payload with
    | none => return ()
    | some _ => db.run .updateDevice ()

/-- The event of a failed command: its texts are logged, and sent if there is a key. -/
def commandFailed (key value error : Option Json) : Js Unit := do
  let _ ← jsString numberText (orElse key (.string "?"))
  let _ ← jsString numberText (orElse value (.string "?"))
  let _ ← jsString numberText (orElse error (.string "unknown error"))
  db.run .updateDevice ()
  match value with
  | some value => if key.any truthy then let _ ← jsString numberText value
  | none => return ()

/-- The event of an applied command: the value as text, under the key as a property. -/
def commandApplied (key : Json) (value : Option Json) : Js Unit := do
  let _ ← jsString numberText (orElse value (.string ""))
  let _ ← jsString numberText key
  db.run .updateDevice ()

def handleDeviceChannelEvent (deviceId event : Json) : Js Unit := do
  let device ← db.run (.findDevice deviceId) (db.device deviceId)
  match device with
  | none =>
    let topic ← readField "topic" event
    let _isIgnored ← recordUnclaimedDevice db deviceId
      (orElse topic (.string kafkaDeviceEventsTopic)) event
  | some _ =>
    let status ← readField "status" event
    let status ← trimmed (orElse status (.string "ok"))
    let key := field "key" event
    let value := field "value" event
    if jsToLowerCase status = "error" then
      commandFailed numberText db key value (field "error" event)
    else
      match key.filter truthy with
      | some key => commandApplied numberText db key value
      | none => return ()

/-- `parseOtaStatus(raw)`: only a string has the method that `raw?.trim()` calls. -/
def parseReported : Option Json → Js (Option DeviceOtaStatus)
  | none | some .null => .ok none
  | some (.string text) => .ok (parseOtaStatus (some text))
  | some _ => .error .typeError

/-- `clampProgress(progress)`, where it is sent: `Math.round` makes a number of an array or an
object by its text. -/
def clampProgress : Option Json → Js Unit
  | some progress => do let _ ← jsString numberText progress
  | none => .ok ()

def applyReported (device : DeviceEntity) (progress : Option Json) : Js Unit := do
  clampProgress numberText progress
  db.run .saveDevice ()
  let latest ← db.run .findLatest (db.latest device.id)
  match latest.filter (·.completedAt = none) with
  | some _ => db.run .saveHistory ()
  | none => return ()

def handleOtaStatusReport (deviceId payload : Json) : Js Unit := do
  let device ← db.run (.findDevice deviceId) (db.device deviceId)
  match device with
  | none => return ()
  | some device =>
    let raw ← readField "status" payload
    let status ← parseReported raw
    match status with
    | none => return ()
    | some _ => applyReported numberText db device (field "progress" payload)

/-- `parseAlertPayload` is any function that answers or throws. -/
def handleDeviceAlert (parseAlertPayload : Json → Js (Option String)) (deviceId payload : Json) :
    Js Unit := do
  let device ← db.run (.findDevice deviceId) (db.device deviceId)
  match device with
  | none =>
    let _isIgnored ← recordUnclaimedDevice db deviceId (.string "alert") payload
  | some _ =>
    let _parsed ← parseAlertPayload payload

/-! ## MQTT -/

/-- The handler that a message is dispatched to; an event is `data ?? {}`. -/
def dispatched (data : Json) : Dispatch → Js Unit
  | .uplink .telemetry deviceId => recordTelemetry db (.string deviceId) data
  | .uplink .status deviceId => handleDeviceStatusMessage db (.string deviceId) data
  | .uplink .event deviceId =>
    handleDeviceChannelEvent numberText db (.string deviceId) (orElse (some data) (.object []))
  | .otaStatus deviceId => handleOtaStatusReport numberText db (.string deviceId) data

/-- The query of a topic that is neither of a default shape nor cached. -/
def topicQuery (registry : MqttTopicRegistry) (now : Date) (topic : String) : Js Unit :=
  if DefaultShaped topic ∨ (registry.get topic).isSome ∨ registry.isRecentMiss now topic = true then
    .ok ()
  else
    match AiotCloud.resolveCustomMqttTopic db.devices topic with
    | none => .error .database
    | some _ => db.run (.resolveTopic topic) ()

/-- How the handlers end that `handleAny` starts for a message. -/
def startedByAny (registry : MqttTopicRegistry) (now : Date) (topic : String) (data : Json) :
    List (Js Unit) :=
  match topicQuery db registry now topic with
  | .error error => [.error error]
  | .ok () =>
    ((handleAny db.devices registry now topic).1.map (dispatched numberText db data)).toList

/-! ## Kafka -/

/-- The body of a message: none, bytes that are not JSON, or a value. -/
inductive KafkaBody where
  | empty
  | malformed
  | parsed (data : Json)

/-- `const { deviceId, ...rest } = data ?? {}`, where the id is truthy. -/
def splitDeviceId : Json → Option (Json × Json)
  | .object fields =>
    ((fields.lookup "deviceId").filter truthy).map
      (·, .object (fields.filter (·.1 ≠ "deviceId")))
  | _ => none

/-- The handler of the topic. -/
def handleTopic (parseAlertPayload : Json → Js (Option String)) (topic : String)
    (deviceId rest : Json) : Js Unit :=
  if topic = kafkaTelemetryTopic then recordTelemetry db deviceId rest
  else if topic = kafkaStatusTopic then handleDeviceStatusMessage db deviceId rest
  else if topic = kafkaDeviceEventsTopic ∨ topic = kafkaCommandTopic then
    handleDeviceChannelEvent numberText db deviceId rest
  else if topic = kafkaAlertTopic then handleDeviceAlert db parseAlertPayload deviceId rest
  else if topic = kafkaOtaStatusTopic then handleOtaStatusReport numberText db deviceId rest
  else .ok ()

/-- A body that is not JSON is logged; so is what a handler throws. -/
def handleMessage (parseAlertPayload : Json → Js (Option String)) (topic : String)
    (body : KafkaBody) : Js Unit :=
  let handle (data : Json) : Js Unit :=
    match splitDeviceId data with
    | none => .ok ()
    | some (deviceId, rest) => handleTopic numberText db parseAlertPayload topic deviceId rest
  match body with
  | .malformed => .ok ()
  | .empty => tryCatch (handle (.object [])) fun _ => .ok ()
  | .parsed data => tryCatch (handle data) fun _ => .ok ()

/-! ## What is harmless -/

/-- A field has a text, where it is there. -/
def Prints (value : Option Json) : Prop := value.all printable = true

/-- A field that is missing, `null` or a string. -/
def TextOrAbsent : Option Json → Prop
  | none | some .null | some (.string _) => True
  | some _ => False

/-- The event reports that its command has failed. -/
def reportsFailure (event : Json) : Bool :=
  match field "status" event with
  | some (.string s) => jsToLowerCase (jsTrim s) = "error"
  | _ => false

/-- The texts that the handler of an event makes. -/
structure EventHarmless (event : Json) : Prop where
  status : TextOrAbsent (field "status" event)
  failed : reportsFailure event = true →
    Prints (field "key" event) ∧ Prints (field "value" event) ∧ Prints (field "error" event)
  applied : reportsFailure event = false → ∀ key, field "key" event = some key →
    truthy key = true → Prints (field "value" event) ∧ printable key = true

/-- The status that a report names. -/
def reportedStatus (report : Json) : Option DeviceOtaStatus :=
  match field "status" report with
  | some (.string s) => parseOtaStatus (some s)
  | _ => none

structure ReportHarmless (report : Json) : Prop where
  present : report ≠ .null
  status : TextOrAbsent (field "status" report)
  progress : (reportedStatus report).isSome → Prints (field "progress" report)

/-- What a message must be for the handler it is dispatched to, if the device is registered. -/
def Harmless (data : Json) : Dispatch → Prop
  | .uplink .telemetry _ | .uplink .status _ => True
  | .uplink .event deviceId =>
    db.device (.string deviceId) ≠ none → EventHarmless data
  | .otaStatus deviceId =>
    db.device (.string deviceId) ≠ none → ReportHarmless data

/-! ## Values that have a text -/

theorem bind_eq_ok_iff {α β : Type} {x : Js α} {f : α → Js β} {b : β} :
    (x >>= f) = .ok b ↔ ∃ a, x = .ok a ∧ f a = .ok b := by
  cases x with
  | error e =>
    constructor
    · intro h
      cases h
    · rintro ⟨a, h, -⟩
      cases h
  | ok a =>
    constructor
    · exact fun h => ⟨a, rfl, h⟩
    · rintro ⟨a, ⟨⟩, h⟩
      exact h

mutual
theorem isOk_jsString_iff (value : Json) :
    (∃ text, jsString numberText value = .ok text) ↔ printable value = true := by
  cases value with
  | null | bool b | number n | string s => simp [jsString, printable]
  | array items =>
    rw [jsString, printable, ← isOk_jsStrings_iff items]
    simp only [bind_eq_ok_iff]
    constructor
    · rintro ⟨-, texts, h, -⟩
      exact ⟨texts, h⟩
    · rintro ⟨texts, h⟩
      exact ⟨_, texts, h, rfl⟩
  | object fields =>
    rw [jsString, printable]
    cases fields.lookup "toString" <;> simp

theorem isOk_jsStrings_iff (items : List Json) :
    (∃ texts, jsStrings numberText items = .ok texts) ↔ allPrintable items = true := by
  cases items with
  | nil => simp [jsStrings, allPrintable]
  | cons item items =>
    rw [jsStrings, allPrintable, Bool.and_eq_true, ← isOk_jsString_iff item,
      ← isOk_jsStrings_iff items]
    simp only [bind_eq_ok_iff]
    constructor
    · rintro ⟨-, text, htext, texts, htexts, -⟩
      exact ⟨⟨text, htext⟩, texts, htexts⟩
    · rintro ⟨⟨text, htext⟩, texts, htexts⟩
      exact ⟨_, text, htext, texts, htexts, rfl⟩
end

/-- What follows a text comes to its end just when the text is there. -/
theorem jsString_bind_iff {value : Json} {rest : Js Unit} :
    (do let _ ← jsString numberText value; rest) = .ok () ↔
      printable value = true ∧ rest = .ok () := by
  rw [bind_eq_ok_iff, ← isOk_jsString_iff numberText]
  exact ⟨fun ⟨text, htext, h⟩ => ⟨⟨text, htext⟩, h⟩, fun ⟨⟨text, htext⟩, h⟩ => ⟨text, htext, h⟩⟩

theorem printable_orElse {value : Option Json} {other : Json} (h : printable other = true) :
    printable (orElse value other) = true ↔ Prints value := by
  unfold orElse Prints
  split
  · simp [h]
  · simp [h, printable]
  · simp

/-! ## Handlers -/

section Handlers

variable {numberText : Rat → String} {db : Database} (succeeds : db.Succeeds)

include succeeds

theorem recordUnclaimedDevice_ok (deviceId topic payload : Json) :
    ∃ isIgnored, recordUnclaimedDevice db deviceId topic payload = .ok isIgnored := by
  unfold recordUnclaimedDevice
  rw [succeeds.run]
  cases db.unclaimed deviceId with
  | none =>
    refine ⟨false, bind_eq_ok_iff.mpr ⟨none, rfl, ?_⟩⟩
    dsimp only
    rw [succeeds.run]
    rfl
  | some existing =>
    refine ⟨existing.ignoredAt.isSome, bind_eq_ok_iff.mpr ⟨some existing, rfl, ?_⟩⟩
    dsimp only
    rw [succeeds.run]
    rfl

theorem recordTelemetry_ok (deviceId payload : Json) :
    recordTelemetry db deviceId payload = .ok () := by
  obtain ⟨isIgnored, hrecord⟩ :=
    recordUnclaimedDevice_ok succeeds deviceId (.string "telemetry") payload
  unfold recordTelemetry
  rw [succeeds.run, bind_eq_ok_iff]
  refine ⟨_, rfl, ?_⟩
  cases db.device deviceId with
  | none => exact bind_eq_ok_iff.mpr ⟨isIgnored, hrecord, rfl⟩
  | some device =>
    dsimp only
    rw [succeeds.run]
    exact succeeds.run _ _

theorem handleDeviceStatusMessage_ok (deviceId payload : Json) :
    handleDeviceStatusMessage db deviceId payload = .ok () := by
  obtain ⟨isIgnored, hrecord⟩ :=
    recordUnclaimedDevice_ok succeeds deviceId (.string "status") payload
  unfold handleDeviceStatusMessage
  rw [succeeds.run, bind_eq_ok_iff]
  refine ⟨_, rfl, ?_⟩
  cases db.device deviceId with
  | none => exact bind_eq_ok_iff.mpr ⟨isIgnored, hrecord, rfl⟩
  | some device =>
    cases parseStatusPayload payload with
    | none => rfl
    | some status => exact succeeds.run _ _

theorem commandFailed_iff (key value error : Option Json) :
    commandFailed numberText db key value error = .ok () ↔
      Prints key ∧ Prints value ∧ Prints error := by
  unfold commandFailed
  rw [jsString_bind_iff, jsString_bind_iff, jsString_bind_iff, printable_orElse rfl,
    printable_orElse rfl, printable_orElse rfl, succeeds.run, bind_eq_ok_iff]
  refine and_congr_right fun _ => and_congr_right fun prints => and_iff_left ⟨(), rfl, ?_⟩
  cases value with
  | none => rfl
  | some value =>
    dsimp only
    split_ifs
    · exact (jsString_bind_iff numberText).mpr ⟨prints, rfl⟩
    · rfl

theorem commandApplied_iff (key : Json) (value : Option Json) :
    commandApplied numberText db key value = .ok () ↔ Prints value ∧ printable key = true := by
  unfold commandApplied
  rw [jsString_bind_iff, jsString_bind_iff, printable_orElse rfl, succeeds.run]
  simp

omit succeeds in
theorem field_orEmpty (name : String) (data : Json) :
    field name (orElse (some data) (.object [])) = field name data := by
  cases data <;> rfl

omit succeeds in
theorem readField_orEmpty (name : String) (data : Json) :
    readField name (orElse (some data) (.object [])) = .ok (field name data) := by
  cases data <;> rfl

omit succeeds in
/-- The status of an event has a method `trim`. -/
theorem isOk_trimmed_iff {status : Option Json} :
    (∃ text, trimmed (orElse status (.string "ok")) = .ok text) ↔ TextOrAbsent status := by
  cases status with
  | none => simp [orElse, trimmed, TextOrAbsent]
  | some value => cases value <;> simp [orElse, trimmed, TextOrAbsent]

omit succeeds in
theorem trimmed_error_iff {event : Json} {text : String}
    (h : trimmed (orElse (field "status" event) (.string "ok")) = .ok text) :
    jsToLowerCase text = "error" ↔ reportsFailure event = true := by
  have fallback : jsToLowerCase (jsTrim "ok") ≠ "error" := by decide +kernel
  unfold reportsFailure
  cases hstatus : field "status" event with
  | none =>
    rw [hstatus] at h
    obtain rfl : jsTrim "ok" = text := by simpa [orElse, trimmed] using h
    simpa using fallback
  | some value =>
    rw [hstatus] at h
    cases value with
    | null =>
      obtain rfl : jsTrim "ok" = text := by simpa [orElse, trimmed] using h
      simpa using fallback
    | string s =>
      obtain rfl : jsTrim s = text := by simpa [orElse, trimmed] using h
      simp
    | bool b | number n | array items | object fields => cases h

theorem handleDeviceChannelEvent_iff (deviceId data : Json) :
    handleDeviceChannelEvent numberText db deviceId (orElse (some data) (.object [])) = .ok () ↔
      (db.device deviceId ≠ none → EventHarmless data) := by
  unfold handleDeviceChannelEvent
  simp only [readField_orEmpty, field_orEmpty, bind_eq_ok_iff, succeeds.run, Except.ok.injEq,
    exists_eq_left']
  cases hdevice : db.device deviceId with
  | none =>
    -- nobody has registered the device: the payload is stored as it is
    obtain ⟨isIgnored, hrecord⟩ := recordUnclaimedDevice_ok succeeds deviceId
      (orElse (field "topic" data) (.string kafkaDeviceEventsTopic))
      (orElse (some data) (.object []))
    simp [hrecord, bind_eq_ok_iff]
  | some device =>
    simp only [bind_eq_ok_iff, Except.ok.injEq, exists_eq_left', ne_eq, reduceCtorEq,
      not_false_eq_true, forall_const]
    constructor
    · rintro ⟨text, htext, h⟩
      have error := trimmed_error_iff htext
      refine ⟨isOk_trimmed_iff.mp ⟨text, htext⟩, fun failed => ?_,
        fun applied key hkey truthy => ?_⟩
      · rw [if_pos (error.mpr failed), commandFailed_iff succeeds] at h
        exact h
      · have noError : jsToLowerCase text ≠ "error" := by simp [error, applied]
        rw [if_neg noError, hkey, Option.filter_some, if_pos truthy] at h
        exact (commandApplied_iff succeeds key _).mp h
    · intro harmless
      obtain ⟨text, htext⟩ := isOk_trimmed_iff.mpr harmless.status
      have error := trimmed_error_iff htext
      refine ⟨text, htext, ?_⟩
      -- which fields are made into texts depends on the status
      split_ifs with failed
      · exact (commandFailed_iff succeeds _ _ _).mpr (harmless.failed (error.mp failed))
      · have applied : reportsFailure data = false := by simpa [error] using failed
        cases hkey : field "key" data with
        | none => rfl
        | some key =>
          rw [Option.filter_some]
          split_ifs with truthy
          · exact (commandApplied_iff succeeds key _).mpr (harmless.applied applied key hkey truthy)
          · rfl

omit succeeds in
theorem parseReported_eq_ok_iff {report : Json} {parsed : Option DeviceOtaStatus} :
    parseReported (field "status" report) = .ok parsed ↔
      TextOrAbsent (field "status" report) ∧ reportedStatus report = parsed := by
  unfold reportedStatus
  cases field "status" report with
  | none => simp [parseReported, TextOrAbsent]
  | some value => cases value <;> simp [parseReported, TextOrAbsent]

omit succeeds in
theorem readField_eq_ok_iff {name : String} {value : Json} {answer : Option Json} :
    readField name value = .ok answer ↔ value ≠ .null ∧ field name value = answer := by
  cases value <;> simp [readField]

omit succeeds in
theorem clampProgress_iff (progress : Option Json) :
    clampProgress numberText progress = .ok () ↔ Prints progress := by
  cases progress with
  | none => exact iff_of_true rfl rfl
  | some value => exact (jsString_bind_iff numberText).trans (and_iff_left rfl)

theorem applyReported_iff (device : DeviceEntity) (progress : Option Json) :
    applyReported numberText db device progress = .ok () ↔ Prints progress := by
  unfold applyReported
  simp only [succeeds.run, bind_eq_ok_iff, Except.ok.injEq, exists_eq_left']
  rw [← clampProgress_iff]
  constructor
  · rintro ⟨_, h, -⟩
    exact h
  · intro h
    refine ⟨(), h, (), trivial, ?_⟩
    split <;> rfl

theorem handleOtaStatusReport_iff (deviceId payload : Json) :
    handleOtaStatusReport numberText db deviceId payload = .ok () ↔
      (db.device deviceId ≠ none → ReportHarmless payload) := by
  unfold handleOtaStatusReport
  simp only [bind_eq_ok_iff, succeeds.run, Except.ok.injEq, exists_eq_left']
  cases hdevice : db.device deviceId with
  | none => exact iff_of_true rfl fun h => absurd rfl h
  | some device =>
    simp only [bind_eq_ok_iff, readField_eq_ok_iff, ne_eq, reduceCtorEq,
      not_false_eq_true, forall_const]
    constructor
    · -- a status that is not known ends the handler before the progress is read
      rintro ⟨_, ⟨present, rfl⟩, parsed, hparsed, h⟩
      obtain ⟨text, rfl⟩ := parseReported_eq_ok_iff.mp hparsed
      refine ⟨present, text, fun known => ?_⟩
      obtain ⟨status, hstatus⟩ := Option.isSome_iff_exists.mp known
      rw [hstatus] at h
      exact (applyReported_iff succeeds device _).mp h
    · intro harmless
      refine ⟨_, ⟨harmless.present, rfl⟩, _,
        parseReported_eq_ok_iff.mpr ⟨harmless.status, rfl⟩, ?_⟩
      cases hstatus : reportedStatus payload with
      | none => rfl
      | some status =>
        exact (applyReported_iff succeeds device _).mpr (harmless.progress (by simp [hstatus]))

theorem topicQuery_ok (registry : MqttTopicRegistry) (now : Date) (topic : String) :
    topicQuery db registry now topic = .ok () := by
  unfold topicQuery
  split_ifs with known
  · rfl
  · cases hresolved : AiotCloud.resolveCustomMqttTopic db.devices topic with
    | none => exact absurd hresolved (succeeds.topics topic)
    | some resolved => exact succeeds.run _ _

/-- A handler that a message is dispatched to comes to its end just when the message is harmless. -/
theorem dispatched_iff (data : Json) (d : Dispatch) :
    dispatched numberText db data d = .ok () ↔ Harmless db data d := by
  rcases d with ⟨kind, deviceId⟩ | deviceId
  · cases kind with
    | telemetry => exact iff_of_true (recordTelemetry_ok succeeds _ data) trivial
    | status => exact iff_of_true (handleDeviceStatusMessage_ok succeeds _ data) trivial
    | event => exact handleDeviceChannelEvent_iff succeeds (.string deviceId) data
  · exact handleOtaStatusReport_iff succeeds (.string deviceId) data

end Handlers

/-! ## Ingress -/

theorem tryCatch_ok (x : Js Unit) : tryCatch x (fun _ => .ok ()) = .ok () := by
  cases x <;> rfl

/-- Nothing escapes from a message over Kafka, whatever the database does. -/
theorem handleMessage_ok (parseAlertPayload : Json → Js (Option String)) (topic : String)
    (body : KafkaBody) : handleMessage numberText db parseAlertPayload topic body = .ok () := by
  cases body with
  | malformed => rfl
  | empty | parsed data => exact tryCatch_ok _

end Ingress

open Ingress

/-- With a database that fails nowhere, all handlers of a message over MQTT come to their end just
when the message is harmless; over Kafka they always do. -/
theorem ingress_completes_iff (numberText : Rat → String) (db : Database) (succeeds : db.Succeeds)
    (registry : MqttTopicRegistry) (now : Date) (topic : String) (data : Json) :
    ((∀ result ∈ startedByAny numberText db registry now topic data, result = .ok ()) ∧
      ∀ (db : Database) (parseAlertPayload : Json → Js (Option String)) (topic : String)
        (body : KafkaBody), handleMessage numberText db parseAlertPayload topic body = .ok ()) ↔
      ∀ d, (handleAny db.devices registry now topic).1 = some d → Harmless db data d := by
  rw [and_iff_left (fun db parseAlertPayload topic body =>
    handleMessage_ok numberText db parseAlertPayload topic body)]
  unfold startedByAny
  rw [topicQuery_ok succeeds]
  cases (handleAny db.devices registry now topic).1 with
  | none => simp
  | some d => simp [dispatched_iff succeeds]

/-- One registered device, and statements that succeed. -/
def onePump : Database where
  devices := [{ id := "1", deviceId := "pump-1", name := "Pump", templateId := "t1",
                userId := "u1" }]
  device id := match id with
    | .string "pump-1" => some { id := "1", deviceId := "pump-1", name := "Pump",
                                 templateId := "t1", userId := "u1" }
    | _ => none
  unclaimed _ := none
  latest _ := none
  fails _ := false

theorem onePump_succeeds : onePump.Succeeds where
  statements _ := rfl
  topics topic h := by
    have answered : resolveCustomMqttTopic onePump.devices topic = some none := rfl
    rw [answered] at h
    cases h

/-- A report that is `null` ends in an error. -/
theorem nullReport_escapes :
    ¬ ∀ result ∈ startedByAny (fun _ => "") onePump .empty 0 "devices/pump-1/ota/status" .null,
      result = .ok () := by
  have h : startedByAny (fun _ => "") onePump .empty 0 "devices/pump-1/ota/status" .null =
    [.error .typeError] := by decide +kernel
  simp [h]

theorem ingress_completes_iff_onePump :
    ((∀ result ∈ startedByAny (fun _ => "") onePump .empty 0 "devices/pump-1/ota/status" .null,
        result = .ok ()) ∧
      ∀ (db : Database) (parseAlertPayload : Json → Js (Option String)) (topic : String)
        (body : KafkaBody),
        handleMessage (fun _ => "") db parseAlertPayload topic body = .ok ()) ↔
      ∀ d, (handleAny onePump.devices .empty 0 "devices/pump-1/ota/status").1 = some d →
        Harmless onePump .null d :=
  ingress_completes_iff (fun _ => "") onePump onePump_succeeds .empty 0
    "devices/pump-1/ota/status" .null

end AiotCloud
