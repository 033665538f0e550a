import AiotCloud.Credentials
import AiotCloud.RequestGuard
import AiotCloud.WebPushTokens

/-!
# Zalo links

A user links a Zalo chat by sending the bot a code: a signed token that names the user and
expires after a quarter of an hour. The same key signs the access tokens of logins. What the
server takes for a code or for an access token is decided by the payload alone.

`ZaloWorld` also keeps what was handed out by the answers, which is all that the outside can
know: the texts of the access tokens and of the codes, each with its user.

* `Sound.handlerUser_iff`: the account behind a guarded request is that of a session.
* `tokens_apart`: a code opens no route, and an access token links no chat.
* `zalo_chats`: the chat of a user is the sender of the last message that was a live code of
  the user.
-/

namespace AiotCloud

/-! ## Tokens -/

/-- The payload as it is signed. Times are in seconds. -/
structure JwtPayload extends TokenClaims where
  purpose : Option String := none
  iat : Int
  exp : Option Int := none
deriving DecidableEq, Repr

def seconds (now : Date) : Int := now / 1000

def zaloLinkCodeTtl : Int := 15 * 60

def accessPayload (now : Date) (claims : TokenClaims) : JwtPayload :=
  { toTokenClaims := claims, iat := seconds now }

def zaloLinkPayload (now : Date) (userId : String) : JwtPayload :=
  { userId := userId
    purpose := some "zalo-link"
    iat := seconds now
    exp := some (seconds now + zaloLinkCodeTtl) }

def JwtPayload.Live (now : Date) (payload : JwtPayload) : Prop :=
  ∀ exp ∈ payload.exp, seconds now < exp

instance (now : Date) (payload : JwtPayload) : Decidable (payload.Live now) :=
  inferInstanceAs (Decidable (∀ exp ∈ payload.exp, _))

/-- `JwtService` with the key of the server. `none` is an error. -/
structure JwtService where
  signAsync : JwtPayload → String
  verifyAsync : Date → String → Option JwtPayload

/-- A text that was signed verifies until it expires, and tells what was signed. -/
def JwtService.Verifies (jwt : JwtService) (signed : List JwtPayload) : Prop :=
  ∀ payload ∈ signed, ∀ now,
    jwt.verifyAsync now (jwt.signAsync payload) = if payload.Live now then some payload else none

/-- The text is no forgery: it never verifies if it is not one of those that were signed. -/
def JwtService.Genuine (jwt : JwtService) (signed : List JwtPayload) (text : String) : Prop :=
  text ∈ signed.map jwt.signAsync ∨ ∀ now, jwt.verifyAsync now text = none

/-! ## Config rows -/

/-- What is unique besides the key. -/
def NotificationConfigEntity.pair (config : NotificationConfigEntity) :
    String × NotificationChannelType :=
  (config.userId, config.channel)

/-- `findOneBy({ userId, channel })`. -/
def findConfig (userId : String) (channel : NotificationChannelType)
    (configs : List NotificationConfigEntity) : Option NotificationConfigEntity :=
  Keyed.find NotificationConfigEntity.pair (userId, channel) configs

/-- The row that `create` makes. -/
def newConfig (id userId : String) (channel : NotificationChannelType) :
    NotificationConfigEntity :=
  { id := id, userId := userId, channel := channel, config := none, isEnabled := true }

def updateConfig (row : NotificationConfigEntity) (configs : List NotificationConfigEntity) :
    List NotificationConfigEntity :=
  Keyed.modify NotificationConfigEntity.id row.id (fun _ => row) configs

/-- `save`: an `UPDATE` of the row that was found, or an `INSERT` of a new one, which fails when
its key is there. -/
def saveConfig (failure : String) (found : Option NotificationConfigEntity)
    (row : NotificationConfigEntity) (configs : List NotificationConfigEntity) :
    Except String Unit × List NotificationConfigEntity :=
  if found = none then
    if configs.any (·.id = row.id) then (.error failure, configs) else (.ok (), configs ++ [row])
  else (.ok (), updateConfig row configs)

/-- `upsertConfig` of any channel. -/
def upsertedConfig (id userId : String) (channel : NotificationChannelType)
    (dto : UpsertNotificationConfigDto) (found : Option NotificationConfigEntity) :
    NotificationConfigEntity :=
  let config := found.getD (newConfig id userId channel)
  { config with
    messageTemplate := dto.messageTemplate.getD config.messageTemplate
    isEnabled := dto.isEnabled.getD config.isEnabled }

/-! ## The webhook -/

inductive ZaloEventName where
  | messageTextReceived
  | messageImageReceived
  | messageStickerReceived
  | messageVoiceReceived
  | messageUnsupportedReceived
deriving DecidableEq, Repr

/-- A message, with `from.id` and the text. -/
structure ZaloWebhookMessage where
  fromId : String
  text : Option String
deriving DecidableEq, Repr

structure ZaloWebhookPayload where
  eventName : ZaloEventName
  message : Option ZaloWebhookMessage
deriving DecidableEq, Repr

/-- The message of an event that can link: its sender and its text, trimmed. -/
def ZaloWebhookPayload.incoming (payload : ZaloWebhookPayload) : Option (String × String) :=
  if payload.eventName = .messageTextReceived then
    payload.message.bind fun message =>
      (message.text.filter (· ≠ "")).map fun text => (message.fromId, jsTrim text)
  else none

/-- What a call meets: the clock, the key that is generated, the error of an `INSERT`, and the
transports. -/
structure ConfigEnv where
  now : Date
  id : String
  failure : String
  transports : Transports

def linkedMessage : String := "You're now linked — this bot will send device warnings here."

/-- The rows after `sendWarning`. -/
def afterWarning (t : Transports) (now : Date) (request : WarningRequest)
    (configs : List NotificationConfigEntity) : List NotificationConfigEntity :=
  (sendWarning t now request configs).saved.foldl (fun configs row => updateConfig row configs)
    configs

/-- The chat is saved, and told so. -/
def linkChat (env : ConfigEnv) (userId fromId : String) (configs : List NotificationConfigEntity) :
    Except String Unit × List NotificationConfigEntity :=
  let found := findConfig userId .zalo configs
  let notificationConfig :=
    { found.getD (newConfig env.id userId .zalo) with config := some (.zalo fromId) }
  match saveConfig env.failure found notificationConfig configs with
  | (.error error, after) => (.error error, after)
  | (.ok (), after) =>
    (.ok (), afterWarning env.transports env.now
      { userId := userId, message := linkedMessage } after)

def handleZaloWebhookUpdate (jwt : JwtService) (env : ConfigEnv) (payload : ZaloWebhookPayload)
    (configs : List NotificationConfigEntity) :
    Except String Unit × List NotificationConfigEntity :=
  match payload.incoming with
  | none => (.ok (), configs)
  | some (fromId, text) =>
    match jwt.verifyAsync env.now text with
    | none => (.ok (), configs)
    | some linkPayload =>
      if linkPayload.purpose ≠ some "zalo-link" then (.ok (), configs)
      else linkChat env linkPayload.userId fromId configs

/-- `Boolean(webhookSecret) && secretHeader === webhookSecret`. -/
def isValidWebhookSecret (webhookSecret secretHeader : Option String) : Bool :=
  webhookSecret.any fun secret => secret ≠ "" ∧ secretHeader = some secret

/-- `handleWebhook` of the controller. -/
def handleWebhook (jwt : JwtService) (webhookSecret : Option String) (env : ConfigEnv)
    (secretToken : Option String) (payload : ZaloWebhookPayload)
    (configs : List NotificationConfigEntity) :
    Except String Unit × List NotificationConfigEntity :=
  if isValidWebhookSecret webhookSecret secretToken then
    handleZaloWebhookUpdate jwt env payload configs
  else (.error "Unauthorized", configs)

/-! ## Calls -/

/-- The account that both guards let through. -/
def handlerUser (jwt : JwtService) (users : List UserEntity) (signed : List JwtPayload)
    (now : Date) (roles : List RoleType) (bearer : Option String) : Option UserEntity :=
  let token := bearer.bind fun text => (jwt.verifyAsync now text).map (·.toTokenClaims)
  match authGuard users (signed.map (·.toTokenClaims)) false token with
  | some (.account user) => if rolesGuard roles (.account user) then some user else none
  | _ => none

/-- The roles of the routes for links and configs. -/
def memberRoles : List RoleType := [.user, .admin, .root]

inductive ZaloCall where
  | account (call : CredentialCall)
  | login (env : CallEnv) (usernameOrEmail password : String)
  | getZaloLinkCode (now : Date) (bearer : Option String)
  | webhook (env : ConfigEnv) (secretToken : Option String) (payload : ZaloWebhookPayload)
  | upsertConfig (env : ConfigEnv) (bearer : Option String) (channel : NotificationChannelType)
      (dto : UpsertNotificationConfigDto)
  | registerWebPushToken (env : ConfigEnv) (bearer : Option String) (token : String)
  | unregisterWebPushToken (env : ConfigEnv) (bearer : Option String) (token : String)
  | sendWarning (env : ConfigEnv) (request : WarningRequest)

/-- The texts that a call brings to be verified. -/
def ZaloCall.presented : ZaloCall → List String
  | .getZaloLinkCode _ bearer | .upsertConfig _ bearer _ _ | .registerWebPushToken _ bearer _ |
    .unregisterWebPushToken _ bearer _ => bearer.toList
  | .webhook _ _ payload => (payload.incoming.map (·.2)).toList
  | .account _ | .login .. | .sendWarning .. => []

/-- A code that was handed out, to whom and when. -/
structure HandedCode where
  text : String
  userId : String
  issuedAt : Int
deriving DecidableEq, Repr

/-- The tables and the signed tokens, and what the answers told: the access tokens and the codes
that were handed out, and the chat that each user has linked. -/
structure ZaloWorld where
  users : List UserEntity := []
  signed : List JwtPayload := []
  configs : List NotificationConfigEntity := []
  sessions : List (String × String) := []
  codes : List HandedCode := []
  chats : String → Option String := fun _ => none

namespace ZaloWorld

/-- The user whose login handed out the text. -/
def sessionUser (w : ZaloWorld) (text : String) : Option String :=
  (w.sessions.find? (·.1 = text)).map (·.2)

/-- The user to whom the text was handed out as a code that is still live. -/
def liveCode (w : ZaloWorld) (now : Date) (text : String) : Option String :=
  (w.codes.find? fun code =>
    code.text = text ∧ seconds now < code.issuedAt + zaloLinkCodeTtl).map (·.userId)

/-- The user and the chat that a message links. -/
def link (w : ZaloWorld) (now : Date) (payload : ZaloWebhookPayload) : Option (String × String) :=
  payload.incoming.bind fun (fromId, text) => (w.liveCode now text).map fun userId =>
    (userId, fromId)

variable (bcrypt : Bcrypt) (jwt : JwtService) (webhookSecret : Option String)

def step (w : ZaloWorld) : ZaloCall → ZaloWorld
  | .account call => { w with users := call.after bcrypt w.users }
  | .login env usernameOrEmail password =>
    match (userLogin bcrypt env usernameOrEmail password w.users).data with
    | none => w
    | some (user, claims) =>
      { w with
        signed := w.signed ++ [accessPayload env.now claims]
        sessions := w.sessions ++ [(jwt.signAsync (accessPayload env.now claims), user.id)] }
  | .getZaloLinkCode now bearer =>
    match handlerUser jwt w.users w.signed now memberRoles bearer with
    | none => w
    | some user =>
      { w with
        signed := w.signed ++ [zaloLinkPayload now user.id]
        codes := w.codes ++ ((bearer.bind w.sessionUser).map fun userId =>
          ⟨jwt.signAsync (zaloLinkPayload now user.id), userId, seconds now⟩).toList }
  | .webhook env secretToken payload =>
    let (answer, configs) :=
      handleWebhook jwt webhookSecret env secretToken payload w.configs
    { w with
      configs := configs
      chats :=
        match answer, w.link env.now payload with
        | .ok (), some (userId, fromId) => Function.update w.chats userId (some fromId)
        | _, _ => w.chats }
  | .upsertConfig env bearer channel dto =>
    match handlerUser jwt w.users w.signed env.now memberRoles bearer with
    | none => w
    | some user =>
      let found := findConfig user.id channel w.configs
      let config := upsertedConfig env.id user.id channel dto found
      { w with configs := (saveConfig env.failure found config w.configs).2 }
  | .registerWebPushToken env bearer token =>
    match handlerUser jwt w.users w.signed env.now memberRoles bearer with
    | none => w
    | some user =>
      if token = "" then w
      else
        let found := findConfig user.id .webPush w.configs
        let config := (AiotCloud.registerWebPushToken env.id user.id token found).2
        { w with configs := (saveConfig env.failure found config w.configs).2 }
  | .unregisterWebPushToken env bearer token =>
    match handlerUser jwt w.users w.signed env.now memberRoles bearer with
    | none => w
    | some user =>
      if token = "" then w
      else
        match (AiotCloud.unregisterWebPushToken token
          (findConfig user.id .webPush w.configs)).2 with
        | none => w
        | some config => { w with configs := updateConfig config w.configs }
  | .sendWarning env request =>
    { w with configs := afterWarning env.transports env.now request w.configs }

end ZaloWorld

/-! ## The table of configs -/

/-- The two unique constraints. -/
structure ConfigKeys (configs : List NotificationConfigEntity) : Prop where
  ids : Keyed.Distinct NotificationConfigEntity.id configs
  pairs : Keyed.Distinct NotificationConfigEntity.pair configs

/-- The chat that is stored for a user. -/
def chatOf (configs : List NotificationConfigEntity) (userId : String) : Option String :=
  (findConfig userId .zalo configs).bind fun config => zaloChatId config.config

section Configs

variable {configs : List NotificationConfigEntity} {row : NotificationConfigEntity}
  {userId : String} {channel : NotificationChannelType}

/-- After the row is written, it is found by its user and channel, and the others as before. -/
def Writes (row : NotificationConfigEntity) (configs after : List NotificationConfigEntity) :
    Prop :=
  ∀ userId channel, findConfig userId channel after =
    if row.pair = (userId, channel) then some row else findConfig userId channel configs

theorem updateConfig_eq (keys : ConfigKeys configs) {old : NotificationConfigEntity}
    (hold : old ∈ configs) (id : old.id = row.id) (pair : old.pair = row.pair) :
    updateConfig row configs =
      Keyed.modify NotificationConfigEntity.pair row.pair (fun _ => row) configs := by
  unfold updateConfig Keyed.modify
  refine List.map_congr_left fun other hother => ?_
  have same : other.id = row.id ↔ other.pair = row.pair := by
    constructor
    · intro h
      rw [keys.ids.eq_of_key hother hold (h.trans id.symm), pair]
    · intro h
      rw [keys.pairs.eq_of_key hother hold (h.trans pair.symm), id]
  by_cases h : other.id = row.id
  · rw [if_pos h, if_pos (same.mp h)]
  · rw [if_neg h, if_neg (mt same.mpr h)]

theorem updateConfig_writes (keys : ConfigKeys configs) {old : NotificationConfigEntity}
    (hold : old ∈ configs) (id : old.id = row.id) (pair : old.pair = row.pair) :
    ConfigKeys (updateConfig row configs) ∧ Writes row configs (updateConfig row configs) := by
  refine ⟨⟨?_, ?_⟩, fun userId channel => ?_⟩
  · exact keys.ids.modify fun _ _ h => h.symm
  · rw [updateConfig_eq keys hold id pair]
    exact keys.pairs.modify fun _ _ h => h.symm
  · rw [updateConfig_eq keys hold id pair]
    unfold findConfig
    rw [Keyed.find_modify fun _ h => h.symm]
    by_cases h : row.pair = (userId, channel)
    · rw [if_pos h.symm, if_pos h, ← h,
        (keys.pairs.find_eq_some_iff).mpr ⟨hold, pair⟩, Option.map_some]
    · rw [if_neg (Ne.symm h), if_neg h]

theorem findConfig_eq_some_iff (keys : ConfigKeys configs) :
    findConfig userId channel configs = some row ↔ row ∈ configs ∧ row.pair = (userId, channel) :=
  keys.pairs.find_eq_some_iff

/-- The row that a call goes on with, found or created. -/
theorem foundOrNew_pair (keys : ConfigKeys configs) (id : String) :
    ((findConfig userId channel configs).getD (newConfig id userId channel)).pair =
      (userId, channel) := by
  cases found : findConfig userId channel configs with
  | none => rfl
  | some old => exact ((findConfig_eq_some_iff keys).mp found).2

theorem foundOrNew_chat (configs : List NotificationConfigEntity) (id userId : String) :
    zaloChatId ((findConfig userId .zalo configs).getD (newConfig id userId .zalo)).config =
      chatOf configs userId := by
  unfold chatOf
  cases findConfig userId .zalo configs <;> rfl

/-- A save of the row that was found, or of a new one, writes it or fails. -/
theorem saveConfig_cases (keys : ConfigKeys configs) (failure : String)
    (pair : row.pair = (userId, channel))
    (kept : ∀ old, findConfig userId channel configs = some old → row.id = old.id) :
    saveConfig failure (findConfig userId channel configs) row configs = (.error failure, configs) ∨
      ∃ after, saveConfig failure (findConfig userId channel configs) row configs =
        (.ok (), after) ∧ ConfigKeys after ∧ Writes row configs after := by
  unfold saveConfig
  cases hfound : findConfig userId channel configs with
  | some old =>
    obtain ⟨hold, hpair⟩ := (findConfig_eq_some_iff keys).mp hfound
    refine Or.inr ⟨_, if_neg (Option.some_ne_none old), ?_⟩
    exact updateConfig_writes keys hold (kept old hfound).symm (hpair.trans pair.symm)
  | none =>
    rw [if_pos rfl]
    split_ifs with taken
    · exact Or.inl rfl
    · refine Or.inr ⟨_, rfl, ⟨?_, ?_⟩, fun userId' channel' => ?_⟩
      · exact keys.ids.concat fun other hother same => taken (by simpa using ⟨other, hother, same⟩)
      · refine keys.pairs.concat fun other hother same => ?_
        exact Keyed.find_eq_none_iff.mp hfound other hother (same.trans pair)
      · unfold findConfig at hfound ⊢
        rw [Keyed.find_concat]
        by_cases h : row.pair = (userId', channel')
        · rw [if_pos h, ← h, pair, hfound]
          simp
        · rw [if_neg h]
          simp [h]

/-- A write of another channel leaves the chats. -/
theorem Writes.chatOf_of_ne {after : List NotificationConfigEntity}
    (writes : Writes row configs after) (other : row.channel ≠ .zalo) :
    chatOf after = chatOf configs := by
  funext userId
  have hne : row.pair ≠ (userId, .zalo) := fun same => other (congrArg Prod.snd same)
  rw [chatOf, writes, if_neg hne]
  rfl

theorem Writes.chatOf {after : List NotificationConfigEntity} (writes : Writes row configs after)
    {chat : String} (pair : row.pair = (userId, .zalo)) (config : row.config = some (.zalo chat)) :
    chatOf after = Function.update (chatOf configs) userId (some chat) := by
  funext other
  rw [AiotCloud.chatOf, writes, pair]
  by_cases same : other = userId
  · subst same
    simp [config, zaloChatId]
  · rw [if_neg fun h => same (congrArg Prod.fst h).symm, Function.update_of_ne same]
    rfl

/-- A sender saves its own row, and only that of web push does. -/
theorem saved_of_send {t : Transports} {config : NotificationConfigEntity} {message : String}
    (h : (send t config message).saved = some row) :
    row.channel ≠ .zalo ∧ config.id = row.id ∧ config.pair = row.pair := by
  cases hchannel : config.channel with
  | zalo =>
    have silent : (zaloSend t config message).saved = none := by
      unfold zaloSend
      split_ifs
      · rfl
      cases zaloChatId config.config with
      | none => rfl
      | some chat =>
        cases t.sendMessageUrl with
        | none => rfl
        | some url =>
          cases hfetch : t.fetch ⟨url, chat, zaloText message⟩ with
          | error error => simp [hfetch]
          | ok response => cases hjson : response.json with
            | error error => simp [hfetch, hjson]
            | ok body => cases body <;> simp [hfetch, hjson]
    rw [send, hchannel] at h
    exact absurd (silent.symm.trans h) (by simp)
  | webPush =>
    rcases send_cases t hchannel message with ⟨-, none⟩ | ⟨-, -, none | purged⟩
    · exact absurd (none.symm.trans h) (by simp)
    · exact absurd (none.symm.trans h) (by simp)
    · obtain rfl := Option.some.inj (purged.symm.trans h)
      exact ⟨by simp [purgedConfig, hchannel], rfl, rfl⟩

theorem updates_keep {rows : List NotificationConfigEntity} (keys : ConfigKeys configs)
    (h : ∀ row ∈ rows, row.channel ≠ .zalo ∧ ∃ old ∈ configs, old.id = row.id ∧
      old.pair = row.pair) :
    ConfigKeys (rows.foldl (fun configs row => updateConfig row configs) configs) ∧
      chatOf (rows.foldl (fun configs row => updateConfig row configs) configs) =
        chatOf configs := by
  induction rows generalizing configs with
  | nil => exact ⟨keys, rfl⟩
  | cons row rows ih =>
    obtain ⟨other, old, hold, id, pair⟩ := h row List.mem_cons_self
    obtain ⟨keys', writes⟩ := updateConfig_writes keys hold id pair
    rw [List.foldl_cons]
    obtain ⟨final, same⟩ := ih keys' fun later hlater => by
      obtain ⟨web, first, hfirst, hid, hpair⟩ := h later (List.mem_cons_of_mem row hlater)
      refine ⟨web, ?_⟩
      by_cases replaced : first.id = row.id
      · refine ⟨row, Keyed.mem_modify_iff.mpr (Or.inl ⟨first, hfirst, replaced, rfl⟩),
          replaced.symm.trans hid, ?_⟩
        rw [← pair, ← hpair, keys.ids.eq_of_key hold hfirst (id.trans replaced.symm)]
      · exact ⟨first, Keyed.mem_modify_iff.mpr (Or.inr ⟨hfirst, replaced⟩), hid, hpair⟩
    exact ⟨final, same.trans (writes.chatOf_of_ne other)⟩

/-- A warning leaves the chats. -/
theorem afterWarning_keeps (keys : ConfigKeys configs) (t : Transports) (now : Date)
    (request : WarningRequest) :
    ConfigKeys (afterWarning t now request configs) ∧
      chatOf (afterWarning t now request configs) = chatOf configs := by
  refine updates_keep keys fun row hrow => ?_
  obtain ⟨config, hconfig, hsaved⟩ := List.mem_filterMap.mp hrow
  obtain ⟨other, id, pair⟩ := saved_of_send hsaved
  have there : config ∈ configs := by
    simp only [targetConfigs, List.mem_filter] at hconfig
    split at hconfig <;> simp only [List.mem_filter] at hconfig <;> tauto
  exact ⟨other, config, there, id, pair⟩

end Configs

/-! ## What the tokens say -/

variable {jwt : JwtService} {signed : List JwtPayload} {text : String}

theorem JwtService.Verifies.mono {later : List JwtPayload} (verifies : jwt.Verifies later)
    (sub : signed ⊆ later) : jwt.Verifies signed :=
  fun payload hp => verifies payload (sub hp)

/-- A text is that of one payload only: before either expires, it tells both. -/
theorem JwtService.Verifies.signAsync_inj (verifies : jwt.Verifies signed)
    {payload other : JwtPayload} (hp : payload ∈ signed) (hother : other ∈ signed)
    (same : jwt.signAsync payload = jwt.signAsync other) : payload = other := by
  obtain ⟨now, live, live'⟩ : ∃ now, payload.Live now ∧ other.Live now := by
    refine ⟨1000 * (min (payload.exp.getD 0) (other.exp.getD 0) - 1), ?_, ?_⟩
    · intro exp hexp
      rw [Option.mem_def.mp hexp, Option.getD_some, seconds]
      omega
    · intro exp hexp
      rw [Option.mem_def.mp hexp, Option.getD_some, seconds]
      omega
  have told := verifies payload hp now
  rw [same, verifies other hother now, if_pos live, if_pos live'] at told
  exact (Option.some.inj told).symm

theorem JwtService.genuine_signAsync {payload : JwtPayload} (hp : payload ∈ signed) :
    jwt.Genuine signed (jwt.signAsync payload) :=
  Or.inl (List.mem_map_of_mem hp)

/-- A text that is no forgery verifies as what was signed. -/
theorem JwtService.Verifies.verifyAsync_eq_some_iff (verifies : jwt.Verifies signed)
    (genuine : jwt.Genuine signed text) {now : Date} {payload : JwtPayload} :
    jwt.verifyAsync now text = some payload ↔
      payload ∈ signed ∧ jwt.signAsync payload = text ∧ payload.Live now := by
  constructor
  · intro verified
    rcases genuine with member | never
    · obtain ⟨other, hother, rfl⟩ := List.mem_map.mp member
      rw [verifies other hother now, Option.ite_none_right_eq_some, Option.some_inj] at verified
      obtain ⟨live, rfl⟩ := verified
      exact ⟨hother, rfl, live⟩
    · rw [never now] at verified
      cases verified
  · rintro ⟨member, rfl, live⟩
    rw [verifies payload member now, if_pos live]

/-- The payload of an access token. -/
structure JwtPayload.IsAccess (payload : JwtPayload) : Prop where
  type : payload.type = some .accessToken
  purpose : payload.purpose = none
  exp : payload.exp = none

/-- The payload of a code. -/
def HandedCode.payload (code : HandedCode) : JwtPayload :=
  { userId := code.userId
    purpose := some "zalo-link"
    iat := code.issuedAt
    exp := some (code.issuedAt + zaloLinkCodeTtl) }

namespace ZaloWorld

variable {w : ZaloWorld}

/-- The tables and the tokens are as the answers tell. -/
structure Sound (jwt : JwtService) (w : ZaloWorld) : Prop where
  users : UserKeys w.users
  configs : ConfigKeys w.configs
  signed : ∀ payload ∈ w.signed,
    (payload.IsAccess ∧ (jwt.signAsync payload, payload.userId) ∈ w.sessions) ∨
      ∃ code ∈ w.codes, code.payload = payload
  sessions : ∀ session ∈ w.sessions, ∃ payload ∈ w.signed, payload.IsAccess ∧
    session = (jwt.signAsync payload, payload.userId)
  codes : ∀ code ∈ w.codes, code.payload ∈ w.signed ∧ code.text = jwt.signAsync code.payload
  chats : chatOf w.configs = w.chats

theorem sessionUser_eq_some_iff (verifies : jwt.Verifies w.signed) (sound : w.Sound jwt)
    {text userId : String} : w.sessionUser text = some userId ↔ (text, userId) ∈ w.sessions := by
  unfold sessionUser
  rw [Option.map_eq_some_iff]
  constructor
  · rintro ⟨session, found, rfl⟩
    have same : session.1 = text := by simpa using List.find?_some found
    rw [← same]
    exact List.mem_of_find?_eq_some found
  · intro member
    cases found : w.sessions.find? (·.1 = text) with
    | none => exact absurd (List.find?_eq_none.mp found _ member) (by simp)
    | some session =>
      refine ⟨session, rfl, ?_⟩
      have same : session.1 = text := by simpa using List.find?_some found
      obtain ⟨payload, hp, -, rfl⟩ := sound.sessions _ (List.mem_of_find?_eq_some found)
      obtain ⟨payload', hp', -, heq⟩ := sound.sessions _ member
      obtain ⟨rfl, rfl⟩ := Prod.mk.inj heq
      rw [verifies.signAsync_inj hp hp' same]

theorem liveCode_eq_some_iff (verifies : jwt.Verifies w.signed) (sound : w.Sound jwt)
    {now : Date} {text userId : String} :
    w.liveCode now text = some userId ↔ ∃ code ∈ w.codes, code.text = text ∧
      code.userId = userId ∧ seconds now < code.issuedAt + zaloLinkCodeTtl := by
  unfold liveCode
  rw [Option.map_eq_some_iff]
  constructor
  · rintro ⟨code, found, rfl⟩
    have facts := List.find?_some found
    rw [decide_eq_true_eq] at facts
    exact ⟨code, List.mem_of_find?_eq_some found, facts.1, rfl, facts.2⟩
  · rintro ⟨code, member, rfl, rfl, live⟩
    cases found : w.codes.find? fun other =>
        other.text = code.text ∧ seconds now < other.issuedAt + zaloLinkCodeTtl with
    | none => exact absurd (List.find?_eq_none.mp found code member) (by simp [live])
    | some other =>
      refine ⟨other, rfl, ?_⟩
      have facts := List.find?_some found
      obtain ⟨hcode, text⟩ := sound.codes code member
      obtain ⟨hother, text'⟩ := sound.codes other (List.mem_of_find?_eq_some found)
      rw [decide_eq_true_eq, text, text'] at facts
      exact congrArg (·.userId) (verifies.signAsync_inj hother hcode facts.1)

/-- The server takes for a code just what was handed out as one and is live. -/
theorem Sound.verify_link (verifies : jwt.Verifies w.signed) (sound : w.Sound jwt)
    (genuine : jwt.Genuine w.signed text) (now : Date) :
    ((jwt.verifyAsync now text).filter (·.purpose = some "zalo-link")).map (·.userId) =
      w.liveCode now text := by
  refine Option.ext fun userId => ?_
  rw [liveCode_eq_some_iff verifies sound, Option.map_eq_some_iff]
  constructor
  · rintro ⟨payload, h, rfl⟩
    obtain ⟨verified, purpose⟩ := Option.filter_eq_some_iff.mp h
    obtain ⟨member, rfl, live⟩ := (verifies.verifyAsync_eq_some_iff genuine).mp verified
    rw [decide_eq_true_eq] at purpose
    rcases sound.signed payload member with ⟨access, -⟩ | ⟨code, hcode, rfl⟩
    · exact absurd (access.purpose.symm.trans purpose) (by simp)
    · exact ⟨code, hcode, (sound.codes code hcode).2, rfl,
        by simpa [JwtPayload.Live, HandedCode.payload] using live⟩
  · rintro ⟨code, hcode, rfl, rfl, live⟩
    refine ⟨code.payload, Option.filter_eq_some_iff.mpr ⟨?_, by simp [HandedCode.payload]⟩, rfl⟩
    obtain ⟨member, text⟩ := sound.codes code hcode
    exact (verifies.verifyAsync_eq_some_iff genuine).mpr
      ⟨member, text.symm, by simpa [JwtPayload.Live, HandedCode.payload] using live⟩

/-- A signed token leaves the choice to `JwtStrategy.validate` and the role. -/
theorem handlerUser_of_verified {users : List UserEntity} {signed : List JwtPayload} {now : Date}
    {roles : List RoleType} {text : String} {payload : JwtPayload}
    (verified : jwt.verifyAsync now text = some payload) (member : payload ∈ signed) :
    handlerUser jwt users signed now roles (some text) =
      match jwtValidate users payload.toTokenClaims with
      | .account user => if rolesGuard roles (.account user) then some user else none
      | _ => none := by
  have signed : (some payload.toTokenClaims).filter (· ∈ signed.map (·.toTokenClaims)) =
      some payload.toTokenClaims := by
    rw [Option.filter_some, if_pos (decide_eq_true (List.mem_map_of_mem member))]
  simp only [handlerUser, authGuard, Option.bind_some, verified, Option.map_some, signed]
  cases jwtValidate users payload.toTokenClaims <;> rfl

/-- The account behind a guarded request is that of the session whose token was sent, so a code
opens no route. -/
theorem Sound.handlerUser_iff (verifies : jwt.Verifies w.signed) (sound : w.Sound jwt)
    {roles : List RoleType} (some_role : roles ≠ []) (now : Date) {bearer : Option String}
    (genuine : ∀ text ∈ bearer.toList, jwt.Genuine w.signed text) (user : UserEntity) :
    handlerUser jwt w.users w.signed now roles bearer = some user ↔
      bearer.bind w.sessionUser = some user.id ∧ user ∈ w.users ∧ user.role ∈ roles := by
  cases bearer with
  | none => simp [handlerUser, authGuard]
  | some text =>
    have spelled := @verifies.verifyAsync_eq_some_iff _ _ text (genuine text (by simp)) now
    rw [Option.bind_some, sessionUser_eq_some_iff verifies sound]
    cases verified : jwt.verifyAsync now text with
    | none =>
      refine iff_of_false (by simp [handlerUser, authGuard, verified]) ?_
      rintro ⟨session, -⟩
      obtain ⟨payload, member, access, heq⟩ := sound.sessions _ session
      have live : payload.Live now := by simp [JwtPayload.Live, access.exp]
      have accepted := spelled.mpr ⟨member, (Prod.mk.inj heq).1.symm, live⟩
      exact absurd (verified.symm.trans accepted) (by simp)
    | some payload =>
      obtain ⟨member, rfl, -⟩ := spelled.mp verified
      rw [handlerUser_of_verified verified member]
      rcases sound.signed payload member with ⟨access, session⟩ | ⟨code, hcode, rfl⟩
      · have owner : ∀ userId,
            (jwt.signAsync payload, userId) ∈ w.sessions ↔ payload.userId = userId := by
          intro userId
          rw [← sessionUser_eq_some_iff verifies sound,
            (sessionUser_eq_some_iff verifies sound).mpr session, Option.some_inj]
        have allowed : ∀ user : UserEntity,
            rolesGuard roles (.account user) = true ↔ user.role ∈ roles := by
          intro user
          rw [rolesGuard_iff some_role]
          simp [RequestUser.role]
        rw [owner, jwtValidate, if_neg (not_not.mpr access.type)]
        cases found : findUser w.users payload.userId with
        | none =>
          refine iff_of_false (by simp) ?_
          rintro ⟨same, there, -⟩
          have hfind := (findUser_eq_some_iff sound.users).mpr ⟨there, same.symm⟩
          exact absurd (found.symm.trans hfind) (by simp)
        | some account =>
          obtain ⟨there, id⟩ := (findUser_eq_some_iff sound.users).mp found
          constructor
          · intro h
            rw [Option.ite_none_right_eq_some, Option.some_inj] at h
            obtain ⟨role, rfl⟩ := h
            exact ⟨id.symm, there, (allowed account).mp role⟩
          · rintro ⟨same, member', role⟩
            obtain rfl := sound.users.ids.eq_of_key there member' (id.trans same)
            exact if_pos ((allowed account).mpr role)
      · have refused : jwtValidate w.users code.payload.toTokenClaims =
            .refused (.fail .unauthorized "error.invalidTokenType") := by
          simp [jwtValidate, HandedCode.payload]
        rw [refused]
        refine iff_of_false (by simp) ?_
        rintro ⟨session, -⟩
        obtain ⟨payload, hp, access, heq⟩ := sound.sessions _ session
        have same := verifies.signAsync_inj member hp (Prod.mk.inj heq).1
        exact absurd (same ▸ access.purpose) (by simp [HandedCode.payload])

/-! ## Runs -/

variable {bcrypt : Bcrypt} {webhookSecret : Option String}

theorem Sound.logIn (sound : w.Sound jwt) {payload : JwtPayload} (access : payload.IsAccess) :
    ({ w with
      signed := w.signed ++ [payload]
      sessions := w.sessions ++ [(jwt.signAsync payload, payload.userId)] } :
      ZaloWorld).Sound jwt where
  users := sound.users
  configs := sound.configs
  signed p hp := by
    rcases List.mem_append.mp hp with old | new
    · exact (sound.signed p old).imp_left (And.imp_right (List.mem_append_left _))
    · obtain rfl := List.mem_singleton.mp new
      exact Or.inl ⟨access, by simp⟩
  sessions session h := by
    rcases List.mem_append.mp h with old | new
    · obtain ⟨p, hp, facts⟩ := sound.sessions session old
      exact ⟨p, List.mem_append_left _ hp, facts⟩
    · exact ⟨payload, by simp, access, List.mem_singleton.mp new⟩
  codes code hcode := (sound.codes code hcode).imp_left (List.mem_append_left _)
  chats := sound.chats

theorem Sound.handOut (sound : w.Sound jwt) {code : HandedCode}
    (text : code.text = jwt.signAsync code.payload) :
    ({ w with
      signed := w.signed ++ [code.payload]
      codes := w.codes ++ [code] } : ZaloWorld).Sound jwt where
  users := sound.users
  configs := sound.configs
  signed p hp := by
    rcases List.mem_append.mp hp with old | new
    · refine (sound.signed p old).imp_right fun ⟨other, hother, same⟩ => ?_
      exact ⟨other, List.mem_append_left _ hother, same⟩
    · exact Or.inr ⟨code, by simp, (List.mem_singleton.mp new).symm⟩
  sessions session h := by
    obtain ⟨p, hp, facts⟩ := sound.sessions session h
    exact ⟨p, List.mem_append_left _ hp, facts⟩
  codes other hother := by
    rcases List.mem_append.mp hother with old | new
    · exact (sound.codes other old).imp_left (List.mem_append_left _)
    · obtain rfl := List.mem_singleton.mp new
      exact ⟨by simp, text⟩
  chats := sound.chats

/-- The rows change, and the chats with them. -/
theorem Sound.write (sound : w.Sound jwt) {configs : List NotificationConfigEntity}
    (keys : ConfigKeys configs) {chats : String → Option String} (same : chatOf configs = chats) :
    ({ w with configs := configs, chats := chats } : ZaloWorld).Sound jwt :=
  { sound with configs := keys, chats := same }

/-- A save of a row of another channel. -/
theorem Sound.save (sound : w.Sound jwt) (failure : String) {userId : String}
    {channel : NotificationChannelType} {row : NotificationConfigEntity}
    (pair : row.pair = (userId, channel))
    (kept : ∀ old, findConfig userId channel w.configs = some old → row.id = old.id)
    (chat : channel = .zalo → zaloChatId row.config = chatOf w.configs userId) :
    ({ w with configs :=
      (saveConfig failure (findConfig userId channel w.configs) row w.configs).2 } :
      ZaloWorld).Sound jwt := by
  rcases saveConfig_cases sound.configs failure pair kept with failed | ⟨after, saved, keys, writes⟩
  · rw [failed]
    exact sound
  · rw [saved]
    refine sound.write keys ?_
    rw [← sound.chats]
    funext other
    rw [chatOf, writes, pair]
    by_cases same : (userId, channel) = (other, .zalo)
    · obtain ⟨rfl, rfl⟩ := Prod.mk.inj same
      rw [if_pos rfl]
      exact chat rfl
    · rw [if_neg same]
      rfl

/-- The webhook links what the answers so far say is to be linked. -/
theorem Sound.handleZaloWebhookUpdate_eq (verifies : jwt.Verifies w.signed)
    (sound : w.Sound jwt) (env : ConfigEnv) {payload : ZaloWebhookPayload}
    (genuine : ∀ text ∈ (payload.incoming.map (·.2)).toList, jwt.Genuine w.signed text) :
    handleZaloWebhookUpdate jwt env payload w.configs =
      match w.link env.now payload with
      | none => (.ok (), w.configs)
      | some (userId, fromId) => linkChat env userId fromId w.configs := by
  unfold handleZaloWebhookUpdate link
  cases incoming : payload.incoming with
  | none => rfl
  | some message =>
    obtain ⟨fromId, text⟩ := message
    have unforged : jwt.Genuine w.signed text := genuine text (by simp [incoming])
    simp only [Option.bind_some, ← sound.verify_link verifies unforged]
    cases jwt.verifyAsync env.now text with
    | none => rfl
    | some linkPayload =>
      by_cases purpose : linkPayload.purpose = some "zalo-link"
      · simp [purpose, Option.filter_some]
      · simp [purpose, Option.filter_some]

theorem linkChat_cases {configs : List NotificationConfigEntity} (keys : ConfigKeys configs)
    (env : ConfigEnv) (userId fromId : String) :
    linkChat env userId fromId configs = (.error env.failure, configs) ∨
      ∃ after, linkChat env userId fromId configs = (.ok (), after) ∧ ConfigKeys after ∧
        chatOf after = Function.update (chatOf configs) userId (some fromId) := by
  have pair : ({ (findConfig userId .zalo configs).getD (newConfig env.id userId .zalo) with
      config := some (.zalo fromId) } : NotificationConfigEntity).pair = (userId, .zalo) :=
    foundOrNew_pair keys env.id
  unfold linkChat
  dsimp only
  rcases saveConfig_cases keys env.failure pair (fun old found => by rw [found]; rfl) with
    failed | ⟨after, saved, keys', writes⟩
  · rw [failed]
    exact Or.inl rfl
  · rw [saved]
    obtain ⟨keys'', same⟩ := afterWarning_keeps keys' env.transports env.now
      { userId := userId, message := linkedMessage }
    exact Or.inr ⟨_, rfl, keys'', same.trans (writes.chatOf pair rfl)⟩

theorem Sound.webhook (verifies : jwt.Verifies w.signed) (sound : w.Sound jwt)
    (env : ConfigEnv) (secretToken : Option String) {payload : ZaloWebhookPayload}
    (genuine : ∀ text ∈ (payload.incoming.map (·.2)).toList, jwt.Genuine w.signed text) :
    (w.step bcrypt jwt webhookSecret (.webhook env secretToken payload)).Sound jwt := by
  simp only [step, handleWebhook]
  split_ifs with trusted
  · rw [sound.handleZaloWebhookUpdate_eq verifies env genuine]
    cases w.link env.now payload with
    | none => exact sound
    | some linked =>
      obtain ⟨userId, fromId⟩ := linked
      dsimp only
      rcases linkChat_cases sound.configs env userId fromId with failed | ⟨after, done, keys, chats⟩
      · rw [failed]
        exact sound
      · rw [done]
        exact sound.write keys (by rw [chats, sound.chats])
  · exact sound

theorem Sound.step (verifies : jwt.Verifies w.signed) (sound : w.Sound jwt) (call : ZaloCall)
    (genuine : ∀ text ∈ call.presented, jwt.Genuine w.signed text) :
    (w.step bcrypt jwt webhookSecret call).Sound jwt := by
  have members : memberRoles ≠ [] := by decide
  cases call with
  | account call =>
    exact { sound with users := sound.users.leaves (call.leaves bcrypt sound.users) }
  | login env usernameOrEmail password =>
    simp only [ZaloWorld.step, userLogin]
    cases (validateUser bcrypt env usernameOrEmail password w.users).data with
    | none => exact sound
    | some user => exact sound.logIn ⟨rfl, rfl, rfl⟩
  | getZaloLinkCode now bearer =>
    simp only [ZaloWorld.step]
    cases handler : handlerUser jwt w.users w.signed now memberRoles bearer with
    | none => exact sound
    | some user =>
      obtain ⟨session, -⟩ := (sound.handlerUser_iff verifies members now genuine user).mp handler
      rw [session]
      exact @Sound.handOut jwt w sound ⟨_, user.id, seconds now⟩ rfl
  | webhook env secretToken payload => exact sound.webhook verifies env secretToken genuine
  | upsertConfig env bearer channel dto =>
    simp only [ZaloWorld.step]
    cases handlerUser jwt w.users w.signed env.now memberRoles bearer with
    | none => exact sound
    | some user =>
      refine sound.save env.failure (foundOrNew_pair sound.configs env.id) (fun old found => ?_) ?_
      · rw [found]
        rfl
      · rintro rfl
        exact foundOrNew_chat w.configs env.id user.id
  | registerWebPushToken env bearer token =>
    simp only [ZaloWorld.step]
    cases handlerUser jwt w.users w.signed env.now memberRoles bearer with
    | none => exact sound
    | some user =>
      dsimp only
      split_ifs with blank
      · exact sound
      · refine sound.save env.failure (foundOrNew_pair sound.configs env.id) (fun old found => ?_)
          fun web => ?_
        · rw [found]
          rfl
        · cases web
  | unregisterWebPushToken env bearer token =>
    simp only [ZaloWorld.step]
    cases handlerUser jwt w.users w.signed env.now memberRoles bearer with
    | none => exact sound
    | some user =>
      dsimp only
      split_ifs with blank
      · exact sound
      · cases found : findConfig user.id .webPush w.configs with
        | none => exact sound
        | some config =>
          have pair := ((findConfig_eq_some_iff sound.configs).mp found).2
          have kept : ∀ old, findConfig user.id .webPush w.configs = some old →
              (withoutToken token config).id = old.id := by
            intro old h
            rw [Option.some.inj (h.symm.trans found)]
            rfl
          have saved := @Sound.save jwt w sound "" user.id .webPush (withoutToken token config)
            pair kept (fun web => by cases web)
          rw [found, saveConfig, if_neg (Option.some_ne_none config)] at saved
          exact saved
  | sendWarning env request =>
    obtain ⟨keys, same⟩ := afterWarning_keeps sound.configs env.transports env.now request
    exact sound.write keys (same.trans sound.chats)

theorem signed_step (w : ZaloWorld) (call : ZaloCall) {payload : JwtPayload}
    (h : payload ∈ w.signed) : payload ∈ (w.step bcrypt jwt webhookSecret call).signed := by
  cases call with
  | account | webhook | sendWarning => exact h
  | login env usernameOrEmail password =>
    simp only [ZaloWorld.step]
    split
    · exact h
    · exact List.mem_append_left _ h
  | getZaloLinkCode now bearer =>
    simp only [ZaloWorld.step]
    split
    · exact h
    · exact List.mem_append_left _ h
  | upsertConfig env bearer channel dto =>
    simp only [ZaloWorld.step]
    split <;> exact h
  | registerWebPushToken env bearer token =>
    simp only [ZaloWorld.step]
    split
    · exact h
    · split_ifs <;> exact h
  | unregisterWebPushToken env bearer token =>
    simp only [ZaloWorld.step]
    split
    · exact h
    · split_ifs
      · exact h
      · split <;> exact h

/-- The world after the calls. -/
abbrev after (bcrypt : Bcrypt) (jwt : JwtService) (webhookSecret : Option String)
    (calls : List ZaloCall) : ZaloWorld :=
  Run.exec (ZaloWorld.step bcrypt jwt webhookSecret) {} calls

/-- No call brings a forged token. -/
abbrev Unforged (bcrypt : Bcrypt) (jwt : JwtService) (webhookSecret : Option String)
    (calls : List ZaloCall) : Prop :=
  Run.Meets (ZaloWorld.step bcrypt jwt webhookSecret)
    (fun w call => ∀ text ∈ call.presented, jwt.Genuine w.signed text) {} calls

theorem signed_exec (w : ZaloWorld) (calls : List ZaloCall) :
    w.signed ⊆ (Run.exec (ZaloWorld.step bcrypt jwt webhookSecret) w calls).signed := by
  induction calls generalizing w with
  | nil => exact List.Subset.refl _
  | cons call calls ih => exact fun _ h => ih _ (signed_step w call h)

theorem Sound.exec (sound : w.Sound jwt) {calls : List ZaloCall}
    (verifies : jwt.Verifies (Run.exec (ZaloWorld.step bcrypt jwt webhookSecret) w calls).signed)
    (unforged : Run.Meets (ZaloWorld.step bcrypt jwt webhookSecret)
      (fun w call => ∀ text ∈ call.presented, jwt.Genuine w.signed text) w calls) :
    (Run.exec (ZaloWorld.step bcrypt jwt webhookSecret) w calls).Sound jwt := by
  induction calls generalizing w with
  | nil => exact sound
  | cons call calls ih =>
    have known := verifies.mono (signed_exec w (call :: calls))
    exact ih (sound.step known call unforged.1) verifies unforged.2

theorem Sound.run {calls : List ZaloCall}
    (verifies : jwt.Verifies (after bcrypt jwt webhookSecret calls).signed)
    (unforged : Unforged bcrypt jwt webhookSecret calls) :
    (after bcrypt jwt webhookSecret calls).Sound jwt :=
  have empty : ({} : ZaloWorld).Sound jwt :=
    ⟨UserKeys.nil, ⟨List.nodup_nil, List.nodup_nil⟩, by simp, by simp, by simp, rfl⟩
  empty.exec verifies unforged

end ZaloWorld

open ZaloWorld

section Results

variable {bcrypt : Bcrypt} {webhookSecret : Option String}

/-- After every sequence of calls, the chat stored for each user is the one that the answers tell:
the sender of the last message, delivered with the secret, whose text was a code of that user,
handed out less than a quarter of an hour before. -/
theorem zalo_chats (calls : List ZaloCall)
    (verifies : jwt.Verifies (after bcrypt jwt webhookSecret calls).signed)
    (unforged : Unforged bcrypt jwt webhookSecret calls) :
    chatOf (after bcrypt jwt webhookSecret calls).configs =
      (after bcrypt jwt webhookSecret calls).chats :=
  (Sound.run verifies unforged).chats

/-- No code opens a route that asks for a role, and the webhook leaves the configs as they are
when the message is an access token. -/
theorem tokens_apart (calls : List ZaloCall)
    (verifies : jwt.Verifies (after bcrypt jwt webhookSecret calls).signed)
    (unforged : Unforged bcrypt jwt webhookSecret calls) :
    let w := after bcrypt jwt webhookSecret calls
    (∀ code ∈ w.codes, ∀ roles ≠ [], ∀ now,
        handlerUser jwt w.users w.signed now roles (some code.text) = none) ∧
      ∀ session ∈ w.sessions, ∀ env payload fromId,
        payload.incoming = some (fromId, session.1) →
          handleZaloWebhookUpdate jwt env payload w.configs = (.ok (), w.configs) := by
  intro w
  have sound : w.Sound jwt := Sound.run verifies unforged
  have distinct : ∀ code ∈ w.codes, ∀ session ∈ w.sessions, code.text ≠ session.1 := by
    intro code hcode session hsession same
    obtain ⟨member, text⟩ := sound.codes code hcode
    obtain ⟨payload, hp, access, rfl⟩ := sound.sessions session hsession
    obtain rfl := verifies.signAsync_inj member hp (text.symm.trans same)
    exact absurd access.purpose (by simp [HandedCode.payload])
  constructor
  · intro code hcode roles some_role now
    rw [Option.eq_none_iff_forall_ne_some]
    intro user handler
    obtain ⟨member, text⟩ := sound.codes code hcode
    have genuine : ∀ text ∈ (some code.text).toList, jwt.Genuine w.signed text := by
      rintro _ h
      obtain rfl := List.mem_singleton.mp h
      exact text ▸ JwtService.genuine_signAsync member
    obtain ⟨session, -⟩ := (sound.handlerUser_iff verifies some_role now genuine user).mp handler
    rw [Option.bind_some, sessionUser_eq_some_iff verifies sound] at session
    exact distinct code hcode _ session rfl
  · intro session hsession env payload fromId incoming
    obtain ⟨signed, hp, -, heq⟩ := sound.sessions session hsession
    have genuine : ∀ text ∈ (payload.incoming.map (·.2)).toList, jwt.Genuine w.signed text := by
      rw [incoming, heq]
      rintro _ h
      obtain rfl := List.mem_singleton.mp h
      exact JwtService.genuine_signAsync hp
    have unlinked : w.liveCode env.now session.1 = none := by
      rw [Option.eq_none_iff_forall_ne_some]
      intro userId live
      obtain ⟨code, hcode, same, -⟩ := (liveCode_eq_some_iff verifies sound).mp live
      exact distinct code hcode session hsession same
    have linked : w.link env.now payload = none := by
      simp only [link, incoming, Option.bind_some, unlinked, Option.map_none]
    rw [sound.handleZaloWebhookUpdate_eq verifies env genuine, linked]

end Results

def someSign (payload : JwtPayload) : String := payload.userId ++ "." ++ payload.purpose.getD ""

/-- A service that knows the tokens of a run. -/
def knownTokens (table : List JwtPayload) : JwtService where
  signAsync := someSign
  verifyAsync now text := (table.find? (someSign · = text)).filter (·.Live now)

def someConfigEnv (now : Date) (id : String) : ConfigEnv where
  now := now
  id := id
  failure := ""
  transports := workingFirebase

/-- An account logs in, gets a code, and a chat sends it ten minutes later. -/
def chatLinked : List ZaloCall :=
  [.account (.account (.createUserByAdmin (someEnv "u1")
      { username := "ann", password := "secret" })),
    .login (someEnv "") "ann" "secret",
    .getZaloLinkCode 0 (some "u1."),
    .webhook (someConfigEnv 600000 "c1") (some "hook")
      ⟨.messageTextReceived, some ⟨"chat", some " u1.zalo-link
"⟩⟩]

/-- The access token and the code. -/
def chatTokens : List JwtPayload :=
  [{ userId := "u1", type := some .accessToken, role := some .user, iat := 0 },
    zaloLinkPayload 0 "u1"]

theorem chatTokens_verify :
    (knownTokens chatTokens).Verifies
      (after plainBcrypt (knownTokens chatTokens) (some "hook") chatLinked).signed := by
  have signed : (after plainBcrypt (knownTokens chatTokens) (some "hook") chatLinked).signed =
      chatTokens := by decide
  rw [signed]
  intro payload hp now
  have found : chatTokens.find? (someSign · = someSign payload) = some payload := by
    revert payload
    decide
  change (chatTokens.find? (someSign · = someSign payload)).filter (·.Live now) = _
  rw [found, Option.filter_some]
  by_cases live : payload.Live now
  · rw [if_pos live, if_pos (decide_eq_true live)]
  · rw [if_neg live, if_neg (by simpa using live)]

theorem chatLinked_unforged :
    Unforged plainBcrypt (knownTokens chatTokens) (some "hook") chatLinked := by
  refine ⟨by simp [ZaloCall.presented], by simp [ZaloCall.presented], ?_, ?_, trivial⟩
  · intro text h
    obtain rfl := List.mem_singleton.mp h
    exact Or.inl (by decide)
  · intro text h
    obtain rfl := List.mem_singleton.mp h
    exact Or.inl (by decide)

theorem zalo_chats_linked :
    chatOf (after plainBcrypt (knownTokens chatTokens) (some "hook") chatLinked).configs "u1" =
      some "chat" := by
  rw [zalo_chats chatLinked chatTokens_verify chatLinked_unforged]
  decide

/-- The code opens no route, and the access token, sent to the bot by another chat, links none. -/
theorem tokens_apart_linked :
    let w := after plainBcrypt (knownTokens chatTokens) (some "hook") chatLinked
    handlerUser (knownTokens chatTokens) w.users w.signed 0 memberRoles (some "u1.zalo-link") =
        none ∧
      handleZaloWebhookUpdate (knownTokens chatTokens) (someConfigEnv 600000 "c2")
        ⟨.messageTextReceived, some ⟨"other", some "u1."⟩⟩ w.configs = (.ok (), w.configs) := by
  obtain ⟨code, session⟩ := tokens_apart chatLinked chatTokens_verify chatLinked_unforged
  exact ⟨code ⟨"u1.zalo-link", "u1", 0⟩ (by decide) memberRoles (by decide) 0,
    session ("u1.", "u1") (by decide) _ _ "other" (by decide)⟩

end AiotCloud
