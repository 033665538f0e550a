import Mathlib.Data.List.DropRight

/-!
# Constants and the response envelope

The enumerations of `src/constants`, the Kafka topic names, and `ResponseCore`,
the envelope every service call answers with. Enumerations whose names are
compared with text from outside carry that text (`DeviceOtaStatus.name`).

The JavaScript string operations used on such text are here too. They follow
the language on every character that can end up in an ASCII word, which is all
these comparisons can see: `toUpperCase` maps the long s and the ligatures of
`f`, `s` and `t` to ASCII letters.
-/

namespace AiotCloud

/-! ## Enumerations -/

inductive DeviceStatus where
  | online
  | offline
deriving DecidableEq, Repr

inductive DevicePushChannel where
  | mqtt
  | http
  | kafka
deriving DecidableEq, Repr

inductive DeviceTemplateType where
  | sensorNode
  | relayNode
  | relayCurrentNode
  | gateway
  | other
deriving DecidableEq, Repr

inductive AssetType where
  | motor
  | pump
  | compressor
  | fan
  | other
deriving DecidableEq, Repr

inductive WidgetType where
  | value
  | chart
deriving DecidableEq, Repr

inductive DeviceActionType where
  | toggle
  | button
deriving DecidableEq, Repr

inductive NotificationChannelType where
  | zalo
  | webPush
deriving DecidableEq, Repr

inductive DeviceLifecycleStage where
  | new
  | active
  | aging
  | maintenanceDue
  | endOfLife
  | decommissioned
deriving DecidableEq, Repr

inductive DeviceOtaStatus where
  | idle
  | pending
  | downloading
  | installing
  | success
  | failed
deriving DecidableEq, Repr

inductive ErrorCode where
  | success
  | unknownError
  | badRequest
  | unauthorized
  | forbidden
  | notFound
  | internalServerError
  | channelNotLinkedOrEnabled
  | invalidZaloWebhookSignature
  | zaloWebhookVerificationFailed
  | zaloWebhookRegistrationFailed
  | channelNotSupported
deriving DecidableEq, Repr

def DeviceStatus.name : DeviceStatus → String
  | online => "ONLINE"
  | offline => "OFFLINE"

def DeviceOtaStatus.name : DeviceOtaStatus → String
  | idle => "IDLE"
  | pending => "PENDING"
  | downloading => "DOWNLOADING"
  | installing => "INSTALLING"
  | success => "SUCCESS"
  | failed => "FAILED"

def DeviceOtaStatus.all : List DeviceOtaStatus :=
  [.idle, .pending, .downloading, .installing, .success, .failed]

/-- `OTA_IN_PROGRESS_STATUSES`. -/
def otaInProgressStatuses : List DeviceOtaStatus := [.pending, .downloading, .installing]

/-- An update is in flight. -/
def DeviceOtaStatus.InProgress (s : DeviceOtaStatus) : Prop := s ∈ otaInProgressStatuses

/-- The attempt is over. -/
def DeviceOtaStatus.Terminal (s : DeviceOtaStatus) : Prop := s = .success ∨ s = .failed

instance (s : DeviceOtaStatus) : Decidable s.InProgress :=
  inferInstanceAs (Decidable (s ∈ otaInProgressStatuses))

instance (s : DeviceOtaStatus) : Decidable s.Terminal :=
  inferInstanceAs (Decidable (_ ∨ _))

/-! ## Kafka topics -/

def kafkaTelemetryTopic : String := "devices.cloud.telemetry"
def kafkaCommandTopic : String := "devices.cloud.commands"
def kafkaGatewayCommandsTopic : String := "devices.gateway.commands"
def kafkaGatewayEventsTopic : String := "devices.gateway.events"
def kafkaStatusTopic : String := "devices.cloud.status"
def kafkaDeviceEventsTopic : String := "devices.cloud.events"
def kafkaOtaStatusTopic : String := "devices.cloud.ota"
def kafkaAlertTopic : String := "devices.cloud.alerts"

/-! ## The response envelope -/

structure ResponseCore (α : Type) where
  error : ErrorCode
  data : Option α
  message : String
deriving DecidableEq, Repr

def ResponseCore.ok {α : Type} (data : α) : ResponseCore α := ⟨.success, some data, "success"⟩

/-- The `ErrorCode` and message of a failed check. -/
abbrev Failure := ErrorCode × String

def ResponseCore.fail {α : Type} (error : ErrorCode) (message : String) : ResponseCore α :=
  ⟨error, none, message⟩

@[simp] theorem ResponseCore.ok_error {α : Type} (data : α) :
    (ResponseCore.ok data).error = .success := rfl

@[simp] theorem ResponseCore.fail_error {α : Type} (error : ErrorCode) (message : String) :
    (ResponseCore.fail error message : ResponseCore α).error = error := rfl

/-! ## Text from outside -/

/-- A point in time, in milliseconds. -/
abbrev Date := Int

/-- The white space and line terminators that `trim` removes. -/
def isJsSpace (c : Char) : Bool :=
  [0x9, 0xa, 0xb, 0xc, 0xd, 0x20, 0xa0, 0x1680, 0x2028, 0x2029, 0x202f, 0x205f, 0x3000,
    0xfeff].contains c.toNat || (0x2000 ≤ c.toNat && c.toNat ≤ 0x200a)

theorem not_blank_digit (c : Char) (h : c.isDigit = true) : isJsSpace c = false := by
  have bounds : 48 ≤ c.toNat ∧ c.toNat ≤ 57 := Char.isDigit_iff_toNat.mp h
  unfold isJsSpace
  generalize c.toNat = n at bounds
  simp
  omega

/-- A number is known by its text. -/
theorem toString_injective : Function.Injective (toString : Nat → String) := by
  intro m n same
  have digits : Nat.toDigits 10 m = Nat.toDigits 10 n := by
    rw [← Nat.toList_repr, ← Nat.toList_repr]
    exact congrArg String.toList same
  have value := congrArg (Nat.ofDigitChars 10 · 0) digits
  simpa only [Nat.ofDigitChars_ten_toDigits] using value

def jsTrim (s : String) : String :=
  String.ofList ((s.toList.dropWhile isJsSpace).rdropWhile isJsSpace)

/-- The upper case of a character, where it is made of ASCII letters. -/
def upperChar (c : Char) : List Char :=
  match c.toNat with
  | 0x131 => ['I']
  | 0x17f => ['S']
  | 0xdf => ['S', 'S']
  | 0xfb00 => ['F', 'F']
  | 0xfb01 => ['F', 'I']
  | 0xfb02 => ['F', 'L']
  | 0xfb03 => ['F', 'F', 'I']
  | 0xfb04 => ['F', 'F', 'L']
  | 0xfb05 => ['S', 'T']
  | 0xfb06 => ['S', 'T']
  | _ => [c.toUpper]

def jsToUpperCase (s : String) : String := String.ofList (s.toList.flatMap upperChar)

/-- The lower case, as compared with words that hold no `i` and no `k`: only
these two have an upper case outside ASCII. -/
def jsToLowerCase (s : String) : String := String.ofList (s.toList.map Char.toLower)

/-- The text of the status, in any case and with white space around it. -/
def parseStatusText (raw : String) : Option DeviceStatus :=
  [DeviceStatus.online, .offline].find? fun s => s.name == jsToUpperCase (jsTrim raw)

def parseOtaStatus (raw : Option String) : Option DeviceOtaStatus :=
  raw.bind fun text =>
    DeviceOtaStatus.all.find? fun s => s.name == jsToUpperCase (jsTrim text)

/-- Every status is recognised by its own name. -/
theorem parseOtaStatus_name (s : DeviceOtaStatus) : parseOtaStatus (some s.name) = some s := by
  cases s <;> decide

example : parseOtaStatus (some " succeſs\n") = some .success := by decide

end AiotCloud
