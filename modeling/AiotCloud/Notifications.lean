import AiotCloud.Constants
import Mathlib.Data.List.Forall2

/-!
# Notifications

`sendWarning` renders a message for each channel of the user, hands it to the sender of the
channel and records the attempt. The transports behind the senders and the database are
parameters. A sender that has nothing to send to returns as one that has sent, so the history
row says `SENT` for it.

`sendWarning_history_iff`: when the history rows tell what the transports did.
-/

namespace AiotCloud

/-! ## Rows -/

/-- `ZaloChannelConfig | WebPushChannelConfig`. -/
inductive NotificationChannelConfig where
  | zalo (userExtendId : String)
  | webPush (fcmTokens : List String)
deriving DecidableEq, Repr

structure NotificationConfigEntity where
  id : String
  userId : String
  channel : NotificationChannelType
  config : Option NotificationChannelConfig
  messageTemplate : Option String := none
  isEnabled : Bool := true
deriving DecidableEq, Repr

inductive NotificationMessageStatus where
  | sent
  | failed
deriving DecidableEq, Repr

/-- The columns that the attempt sets. -/
structure NotificationMessageEntity where
  userId : String
  channel : NotificationChannelType
  message : String
  deviceId : Option String
  status : NotificationMessageStatus
  error : Option String
deriving DecidableEq, Repr

structure NotificationCreatedEvent where
  userId : String
  message : String
  deviceId : Option String
  occurredAt : Date
deriving DecidableEq, Repr

/-! ## Rendering -/

/-- The text that `replaceAll` puts in for a match: in the replacement, a dollar sign with
another one, with `&`, with a backquote or with a quote stands for itself, the match, what is
before it and what is after it. -/
def getSubstitution (matched before after : List Char) : List Char → List Char
  | '$' :: c :: cs =>
    if c = '$' then '$' :: getSubstitution matched before after cs
    else if c = '&' then matched ++ getSubstitution matched before after cs
    else if c.toNat = 96 then before ++ getSubstitution matched before after cs
    else if c.toNat = 39 then after ++ getSubstitution matched before after cs
    else '$' :: getSubstitution matched before after (c :: cs)
  | c :: cs => c :: getSubstitution matched before after cs
  | [] => []

/-- `replaceAll` from a position on, after the first `skip` characters of the rest, which
belong to a match. -/
def replaceFrom (search replacement before : List Char) (skip : Nat) : List Char → List Char
  | [] => []
  | c :: cs =>
    match skip with
    | skip + 1 => replaceFrom search replacement (before ++ [c]) skip cs
    | 0 =>
      if search <+: c :: cs then
        getSubstitution search before ((c :: cs).drop search.length) replacement ++
          replaceFrom search replacement (before ++ [c]) (search.length - 1) cs
      else c :: replaceFrom search replacement (before ++ [c]) 0 cs

def messagePlaceholder : String := "\x7b\x7bmessage\x7d\x7d"

/-- A template without the placeholder has no match, and stays. -/
def renderTemplate (template fallbackMessage : String) : String :=
  String.ofList (replaceFrom messagePlaceholder.toList fallbackMessage.toList [] 0 template.toList)

example : renderTemplate "Hot: \x7b\x7bmessage\x7d\x7d!" "5$" = "Hot: 5$!" := by rfl

/-- `config.messageTemplate ? this.renderTemplate(config.messageTemplate, message) : message`. -/
def renderedMessage (config : NotificationConfigEntity) (message : String) : String :=
  match config.messageTemplate.filter (· ≠ "") with
  | some template => renderTemplate template message
  | none => message

/-! ## Transports -/

structure MulticastMessage where
  tokens : List String
  title : String
  body : String
deriving DecidableEq, Repr

/-- What Firebase answers for one token. -/
inductive SendResponse where
  | accepted
  | rejected (code : String)
deriving DecidableEq, Repr

/-- The body of an answer of Zalo, with `ok` as it is tested. -/
structure ZaloSendMessageResponse where
  ok : Bool
  message : Option String
deriving DecidableEq, Repr

/-- An answer of Zalo; the JSON `null` is no body. -/
structure ZaloHttpResponse where
  ok : Bool
  status : Nat
  json : Except String (Option ZaloSendMessageResponse)

structure ZaloRequest where
  url : String
  chatId : String
  /-- UTF-16 code units. -/
  text : List Nat
deriving DecidableEq, Repr

/-- The environment of the senders, what their transports answer, and what the database
does. -/
structure Transports where
  firebaseEnabled : Bool
  /-- `admin.apps.length > 0`. -/
  firebaseApp : Bool
  zaloEnabled : Bool
  sendMessageUrl : Option String
  sendEachForMulticast : MulticastMessage → Except String (List SendResponse)
  fetch : ZaloRequest → Except String ZaloHttpResponse
  save : NotificationConfigEntity → Except String Unit
  /-- Is the history row inserted? -/
  recorded : NotificationMessageEntity → Bool

/-- What a transport that was asked answered. -/
inductive TransportAnswer where
  | multicast (responses : List SendResponse)
  | zalo (ok : Bool)
deriving DecidableEq, Repr

/-- At least one recipient was accepted. -/
def TransportAnswer.Accepted : TransportAnswer → Prop
  | .multicast responses => .accepted ∈ responses
  | .zalo ok => ok = true

/-- A run of `send`: the answer of the transport, if it was asked and gave one, the row that
is saved, and the error that escapes. -/
structure SendRun where
  answer : Option TransportAnswer := none
  saved : Option NotificationConfigEntity := none
  thrown : Option String := none
deriving DecidableEq, Repr

/-! ## Senders -/

def staleTokenErrorCodes : List String :=
  ["messaging/invalid-registration-token", "messaging/registration-token-not-registered"]

/-- The tokens that the responses call stale. -/
def staleTokens (fcmTokens : List String) (responses : List SendResponse) : List String :=
  (fcmTokens.zip responses).filterMap fun
    | (token, .rejected code) =>
      if token ≠ "" ∧ code ∈ staleTokenErrorCodes then some token else none
    | _ => none

/-- `isWebPushChannelConfig(config)`, with the tokens. -/
def webPushTokens : Option NotificationChannelConfig → Option (List String)
  | some (.webPush fcmTokens) => if fcmTokens = [] then none else some fcmTokens
  | _ => none

/-- `isZaloChannelConfig(config)`, with the chat id. -/
def zaloChatId : Option NotificationChannelConfig → Option String
  | some (.zalo userExtendId) => some userExtendId
  | _ => none

/-- The row without the stale tokens. -/
def purgedConfig (stale : List String) (fcmTokens : List String)
    (config : NotificationConfigEntity) : NotificationConfigEntity :=
  { config with config := some (.webPush (fcmTokens.filter (· ∉ stale))) }

/-- `FirebaseNotificationSender.send`. -/
def firebaseSend (t : Transports) (config : NotificationConfigEntity) (message : String) :
    SendRun :=
  if t.firebaseEnabled = false then {}
  else if t.firebaseApp = false then {}
  else
    match webPushTokens config.config with
    | none => {}
    | some fcmTokens =>
      match t.sendEachForMulticast ⟨fcmTokens, "Device warning", message⟩ with
      | .error error => { thrown := some error }
      | .ok responses =>
        let stale := staleTokens fcmTokens responses
        if stale = [] then { answer := some (.multicast responses) }
        else
          let purged := purgedConfig stale fcmTokens config
          match t.save purged with
          | .ok () => { answer := some (.multicast responses), saved := some purged }
          | .error error => { answer := some (.multicast responses), thrown := some error }

def utf16Units (c : Char) : List Nat :=
  if c.toNat < 65536 then [c.toNat]
  else [55296 + (c.toNat - 65536) / 1024, 56320 + (c.toNat - 65536) % 1024]

def zaloTextMaxLength : Nat := 2000

def zaloText (message : String) : List Nat :=
  (message.toList.flatMap utf16Units).take zaloTextMaxLength

/-- The error of a test on `null`: of `ok`, or of `message` for an answer that is not ok. -/
def nullBodyError (response : ZaloHttpResponse) : String :=
  if response.ok then "Cannot read properties of null (reading 'ok')"
  else "Cannot read properties of null (reading 'message')"

/-- `ZaloNotificationSender.send`. An answer that is not ok is logged. -/
def zaloSend (t : Transports) (config : NotificationConfigEntity) (message : String) : SendRun :=
  if t.zaloEnabled = false then {}
  else
    match zaloChatId config.config with
    | none => {}
    | some chatId =>
      match t.sendMessageUrl with
      | none => {}
      | some url =>
        match t.fetch ⟨url, chatId, zaloText message⟩ with
        | .error error => { thrown := some error }
        | .ok response =>
          match response.json with
          | .error error => { thrown := some error }
          | .ok none => { answer := some (.zalo false), thrown := some (nullBodyError response) }
          | .ok (some body) => { answer := some (.zalo (response.ok && body.ok)) }

/-- The sender of a channel: both channels have one. -/
def send (t : Transports) (config : NotificationConfigEntity) (message : String) : SendRun :=
  match config.channel with
  | .zalo => zaloSend t config message
  | .webPush => firebaseSend t config message

/-! ## `sendWarning` -/

/-- What `sendWarning` is asked to send. -/
structure WarningRequest where
  userId : String
  message : String
  channels : Option (List NotificationChannelType) := none
  deviceId : Option String := none
deriving DecidableEq, Repr

/-- The enabled, linked configs of the user, of the channels if some are given. -/
def targetConfigs (request : WarningRequest) (configs : List NotificationConfigEntity) :
    List NotificationConfigEntity :=
  let enabled := configs.filter fun config => config.userId = request.userId ∧ config.isEnabled
  let selected :=
    match request.channels.filter (· ≠ []) with
    | some channels =>
      enabled.filter fun (config : NotificationConfigEntity) => config.channel ∈ channels
    | none => enabled
  selected.filter (·.config ≠ none)

/-- The row for a run of `send`. -/
def attemptRow (request : WarningRequest) (config : NotificationConfigEntity) (run : SendRun) :
    NotificationMessageEntity :=
  { userId := request.userId
    channel := config.channel
    message := renderedMessage config request.message
    deviceId := request.deviceId
    status := if run.thrown = none then .sent else .failed
    error := run.thrown }

/-- The error of an insert is only logged. -/
def recordMessage (t : Transports) (row : NotificationMessageEntity) :
    List NotificationMessageEntity :=
  if t.recorded row then [row] else []

structure WarningRun where
  event : NotificationCreatedEvent
  rows : List NotificationMessageEntity
  saved : List NotificationConfigEntity
deriving DecidableEq, Repr

def sendTo (t : Transports) (request : WarningRequest) (config : NotificationConfigEntity) :
    SendRun :=
  send t config (renderedMessage config request.message)

def sendWarning (t : Transports) (now : Date) (request : WarningRequest)
    (configs : List NotificationConfigEntity) : WarningRun :=
  let targets := targetConfigs request configs
  { event := ⟨request.userId, request.message, request.deviceId, now⟩
    rows := targets.flatMap fun config =>
      recordMessage t (attemptRow request config (sendTo t request config))
    saved := targets.filterMap fun config => (sendTo t request config).saved }

/-! ## Does the history tell the truth? -/

/-- The transport was asked and accepted the message for some recipient. -/
def SendRun.Accepted (run : SendRun) : Prop := ∃ answer ∈ run.answer, answer.Accepted

/-- A run throws exactly when no recipient was accepted. -/
def SendRun.Told (run : SendRun) : Prop := run.thrown = none ↔ run.Accepted

/-- One row for each config, and it says `SENT` exactly when a recipient was accepted. -/
def HistoryTruthful (t : Transports) (now : Date) (request : WarningRequest)
    (configs : List NotificationConfigEntity) : Prop :=
  List.Forall₂ (fun config row =>
      row.channel = config.channel ∧ (row.status = .sent ↔ (sendTo t request config).Accepted))
    (targetConfigs request configs) (sendWarning t now request configs).rows

/-- Firebase is set up and has a token; when it answers, either a token is accepted and no
purge fails, or none is and the purge of stale ones fails. -/
def FirebaseTells (t : Transports) (config : NotificationConfigEntity) (message : String) :
    Prop :=
  t.firebaseEnabled = true ∧ t.firebaseApp = true ∧
    ∃ fcmTokens, webPushTokens config.config = some fcmTokens ∧
      ∀ responses, t.sendEachForMulticast ⟨fcmTokens, "Device warning", message⟩ = .ok responses →
        let stale := staleTokens fcmTokens responses
        (.accepted ∈ responses ∧
            (stale ≠ [] → t.save (purgedConfig stale fcmTokens config) = .ok ())) ∨
          (.accepted ∉ responses ∧ stale ≠ [] ∧
            t.save (purgedConfig stale fcmTokens config) ≠ .ok ())

/-- Zalo is set up and has a chat; when it answers with a body, both are ok. -/
def ZaloTells (t : Transports) (config : NotificationConfigEntity) (message : String) : Prop :=
  t.zaloEnabled = true ∧ ∃ chatId, zaloChatId config.config = some chatId ∧
    ∃ url, t.sendMessageUrl = some url ∧
      ∀ response, t.fetch ⟨url, chatId, zaloText message⟩ = .ok response →
        ∀ body, response.json = .ok (some body) → response.ok = true ∧ body.ok = true

def TransportTells (t : Transports) (config : NotificationConfigEntity) (message : String) :
    Prop :=
  match config.channel with
  | .zalo => ZaloTells t config message
  | .webPush => FirebaseTells t config message

/-- A sender that returns without asking its transport is taken for one that has sent. -/
theorem not_told_of_silent : ¬ SendRun.Told {} := fun told =>
  absurd (told.mp rfl) (by simp [SendRun.Accepted])

theorem firebaseSend_told_iff (t : Transports) (config : NotificationConfigEntity)
    (message : String) :
    (firebaseSend t config message).Told ↔ FirebaseTells t config message := by
  unfold firebaseSend FirebaseTells
  split_ifs with disabled missing
  · exact iff_of_false not_told_of_silent (by simp [disabled])
  · exact iff_of_false not_told_of_silent (by simp [missing])
  rw [Bool.not_eq_false] at disabled missing
  simp only [disabled, missing, true_and]
  cases htokens : webPushTokens config.config with
  | none => exact iff_of_false not_told_of_silent (by simp)
  | some fcmTokens =>
    simp only [Option.some.injEq, exists_eq_left']
    cases hanswer : t.sendEachForMulticast ⟨fcmTokens, "Device warning", message⟩ with
    | error error => simp [SendRun.Told, SendRun.Accepted]
    | ok responses =>
      simp only [Except.ok.injEq, forall_eq']
      by_cases clean : staleTokens fcmTokens responses = []
      · simp [clean, SendRun.Told, SendRun.Accepted, TransportAnswer.Accepted]
      · cases hsave : t.save (purgedConfig (staleTokens fcmTokens responses) fcmTokens config) <;>
          simp [clean, SendRun.Told, SendRun.Accepted, TransportAnswer.Accepted]

theorem zaloSend_told_iff (t : Transports) (config : NotificationConfigEntity)
    (message : String) : (zaloSend t config message).Told ↔ ZaloTells t config message := by
  unfold zaloSend ZaloTells
  split_ifs with disabled
  · exact iff_of_false not_told_of_silent (by simp [disabled])
  rw [Bool.not_eq_false] at disabled
  simp only [disabled, true_and]
  cases hchat : zaloChatId config.config with
  | none => exact iff_of_false not_told_of_silent (by simp)
  | some chatId =>
    cases hurl : t.sendMessageUrl with
    | none => exact iff_of_false not_told_of_silent (by simp)
    | some url =>
      simp only [Option.some.injEq, exists_eq_left']
      cases hfetch : t.fetch ⟨url, chatId, zaloText message⟩ with
      | error error => simp [SendRun.Told, SendRun.Accepted]
      | ok response =>
        simp only [Except.ok.injEq, forall_eq']
        cases hjson : response.json with
        | error error => simp [SendRun.Told, SendRun.Accepted]
        | ok body =>
          cases body <;> simp [SendRun.Told, SendRun.Accepted, TransportAnswer.Accepted]

theorem send_told_iff (t : Transports) (config : NotificationConfigEntity) (message : String) :
    (send t config message).Told ↔ TransportTells t config message := by
  unfold send TransportTells
  cases config.channel with
  | zalo => exact zaloSend_told_iff t config message
  | webPush => exact firebaseSend_told_iff t config message

/-- While the inserts succeed, there is one row for each config. -/
theorem sendWarning_rows {t : Transports} (inserts : ∀ row, t.recorded row = true) (now : Date)
    (request : WarningRequest) (configs : List NotificationConfigEntity) :
    (sendWarning t now request configs).rows = (targetConfigs request configs).map fun config =>
      attemptRow request config (sendTo t request config) := by
  simp only [sendWarning, recordMessage, inserts, if_true]
  exact List.map_eq_flatMap.symm

/-- The history tells the truth exactly when for each config the transport tells the sender
by an answer or an error what became of the message. -/
theorem sendWarning_history_iff {t : Transports} (inserts : ∀ row, t.recorded row = true)
    (now : Date) (request : WarningRequest) (configs : List NotificationConfigEntity) :
    HistoryTruthful t now request configs ↔
      ∀ config ∈ targetConfigs request configs,
        TransportTells t config (renderedMessage config request.message) := by
  unfold HistoryTruthful
  rw [sendWarning_rows inserts, List.forall₂_map_right_iff, List.forall₂_same]
  refine forall_congr' fun config => forall_congr' fun _ => ?_
  rw [← send_told_iff]
  have status : (attemptRow request config (sendTo t request config)).status = .sent ↔
      (sendTo t request config).thrown = none := by
    unfold attemptRow
    split_ifs with quiet <;> simp [quiet]
  rw [status]
  exact ⟨fun h => h.2, fun h => ⟨rfl, h⟩⟩

/-! ### Transports that are not there -/

/-- No transport is set up; every request would fail. -/
def noTransports : Transports where
  firebaseEnabled := false
  firebaseApp := false
  zaloEnabled := false
  sendMessageUrl := none
  sendEachForMulticast _ := .error "no app"
  fetch _ := .error "fetch failed"
  save _ := .ok ()
  recorded _ := true

def linkedBrowser : NotificationConfigEntity :=
  { id := "n1", userId := "u1", channel := .webPush, config := some (.webPush ["token"]) }

/-- With Firebase disabled, the history says that the warning was sent. -/
theorem disabled_recorded_as_sent :
    ¬ HistoryTruthful noTransports 0 { userId := "u1", message := "Too hot" } [linkedBrowser] := by
  intro truthful
  have row := List.forall₂_cons.mp truthful
  exact absurd (row.1.2.mp rfl) (by simp [SendRun.Accepted, sendTo, send, linkedBrowser,
    firebaseSend, noTransports])

/-- Firebase is set up and accepts every token. -/
def workingFirebase : Transports :=
  { noTransports with
    firebaseEnabled := true
    firebaseApp := true
    sendEachForMulticast := fun message => .ok (message.tokens.map fun _ => .accepted) }

theorem sendWarning_history_iff_workingFirebase :
    HistoryTruthful workingFirebase 0 { userId := "u1", message := "Too hot" } [linkedBrowser] ↔
      ∀ config ∈ targetConfigs { userId := "u1", message := "Too hot" } [linkedBrowser],
        TransportTells workingFirebase config (renderedMessage config "Too hot") :=
  sendWarning_history_iff (fun _ => rfl) 0 { userId := "u1", message := "Too hot" } [linkedBrowser]

end AiotCloud
