import AiotCloud.Entities
import AiotCloud.Lib.Run
import AiotCloud.Notifications

/-!
# Web push tokens

The browsers of a user are a list of tokens in the config row of the web push channel. A
registration appends to it, an unregistration and the sender filter it. An unregistration
that leaves no token stores `null`; the sender stores the empty list.

1. `RepresentsTokens.register`, `RepresentsTokens.unregister`, `RepresentsTokens.send_iff`: one
   call.
2. `web_push_tokens_iff`: along a run.
-/

namespace AiotCloud

/-! ## `NotificationService` -/

/-- `(config.config as WebPushChannelConfig | null)?.fcmTokens ?? []`. -/
def storedTokens (config : NotificationConfigEntity) : List String :=
  match config.config with
  | some (.webPush fcmTokens) => fcmTokens
  | _ => []

/-- The row that a first registration creates. -/
def newWebPushConfig (id userId : String) : NotificationConfigEntity :=
  { id := id, userId := userId, channel := .webPush, config := none, isEnabled := true }

def withToken (token : String) (config : NotificationConfigEntity) : NotificationConfigEntity :=
  let fcmTokens := storedTokens config
  { config with
    config := some (.webPush (if token ∈ fcmTokens then fcmTokens else fcmTokens ++ [token])) }

def withoutToken (token : String) (config : NotificationConfigEntity) :
    NotificationConfigEntity :=
  let remainingTokens := (storedTokens config).filter (· ≠ token)
  { config with
    config := if remainingTokens ≠ [] then some (.webPush remainingTokens) else none }

/-- The answer, and the row that is saved. -/
def registerWebPushToken (id userId token : String) (config : Option NotificationConfigEntity) :
    ResponseCore NotificationConfigEntity × NotificationConfigEntity :=
  let saved := withToken token (config.getD (newWebPushConfig id userId))
  (.ok saved, saved)

/-- The answer, and the row that is saved, if there is one. -/
def unregisterWebPushToken (token : String) :
    Option NotificationConfigEntity →
      ResponseCore (Option NotificationConfigEntity) × Option NotificationConfigEntity
  | none => (.ok none, none)
  | some config => (.ok (some (withoutToken token config)), some (withoutToken token config))

structure UpsertNotificationConfigDto where
  messageTemplate : Option (Option String) := none
  isEnabled : Option Bool := none
deriving DecidableEq, Repr

/-- The row that `upsertConfig` saves for the web push channel. -/
def upsertConfig (id userId : String) (dto : UpsertNotificationConfigDto)
    (config : Option NotificationConfigEntity) : NotificationConfigEntity :=
  let config := config.getD (newWebPushConfig id userId)
  { config with
    messageTemplate := dto.messageTemplate.getD config.messageTemplate
    isEnabled := dto.isEnabled.getD config.isEnabled }

def testMessage : String := "This is a test notification from AIoT Lab."

/-- The row that `sendTestMessage` hands to the sender. -/
def testTarget (config : Option NotificationConfigEntity) : Option NotificationConfigEntity :=
  config.filter fun config => config.isEnabled ∧ config.config ≠ none

/-! ## Calls -/

/-- The calls that read or write the web push row of a user. -/
inductive WebPushCall where
  | register (id userId token : String)
  | unregister (token : String)
  | upsert (id userId : String) (dto : UpsertNotificationConfigDto)
  | sendWarning (t : Transports) (request : WarningRequest)
  | sendTestMessage (t : Transports)

/-- The row a call hands to the sender, and the run of the sender. -/
def WebPushCall.sends (row : Option NotificationConfigEntity) :
    WebPushCall → Option (NotificationConfigEntity × SendRun)
  | .sendWarning t request =>
    (targetConfigs request row.toList).head?.map fun config => (config, sendTo t request config)
  | .sendTestMessage t =>
    (testTarget row).map fun config => (config, send t config (renderedMessage config testMessage))
  | _ => none

/-- The row after a call. The pipe refuses an empty token. -/
def WebPushCall.after (row : Option NotificationConfigEntity) (call : WebPushCall) :
    Option NotificationConfigEntity :=
  match call with
  | .register id userId token =>
    if token ≠ "" then some (registerWebPushToken id userId token row).2 else row
  | .unregister token =>
    if token ≠ "" then (unregisterWebPushToken token row).2.or row else row
  | .upsert id userId dto => some (upsertConfig id userId dto row)
  | .sendWarning .. | .sendTestMessage .. => ((call.sends row).bind (·.2.saved)).or row

/-- The tokens that the transport reports stale in a run. -/
def SendRun.reported (config : NotificationConfigEntity) (run : SendRun) : List String :=
  match run.answer with
  | some (.multicast responses) => staleTokens (storedTokens config) responses
  | _ => []

/-- The tokens that the transport reports stale during a call. -/
def WebPushCall.reported (row : Option NotificationConfigEntity) (call : WebPushCall) :
    List String :=
  ((call.sends row).map fun (config, run) => run.reported config).getD []

/-- The registered tokens after a call, from those before it. -/
def WebPushCall.live (row : Option NotificationConfigEntity) (call : WebPushCall)
    (tokens : Finset String) : Finset String :=
  match call with
  | .register _ _ token => if token ≠ "" then insert token tokens else tokens
  | .unregister token => if token ≠ "" then tokens.erase token else tokens
  | .upsert .. => tokens
  | .sendWarning .. | .sendTestMessage .. => tokens \ (call.reported row).toFinset

/-- The row, and the tokens registered and not since unregistered or reported stale. -/
structure WebPushState where
  row : Option NotificationConfigEntity
  tokens : Finset String

def WebPushState.step (s : WebPushState) (call : WebPushCall) : WebPushState :=
  ⟨call.after s.row, call.live s.row s.tokens⟩

/-- The stored config is `null` or a nonempty list without duplicates, of the tokens. -/
def RepresentsTokens (config : Option NotificationChannelConfig) (tokens : Finset String) :
    Prop :=
  match config with
  | none => tokens = ∅
  | some (.webPush fcmTokens) => fcmTokens ≠ [] ∧ fcmTokens.Nodup ∧ fcmTokens.toFinset = tokens
  | some (.zalo _) => False

def WebPushState.Represented (s : WebPushState) : Prop :=
  RepresentsTokens (s.row.bind (·.config)) s.tokens

/-! ## One call -/

section Represented

variable {config : NotificationConfigEntity} {tokens : Finset String}

theorem RepresentsTokens.stored (h : RepresentsTokens config.config tokens) :
    (storedTokens config).Nodup ∧ (storedTokens config).toFinset = tokens := by
  unfold storedTokens
  cases hconfig : config.config with
  | none =>
    rw [hconfig] at h
    obtain rfl : tokens = ∅ := h
    exact ⟨List.nodup_nil, rfl⟩
  | some value =>
    rw [hconfig] at h
    cases value with
    | webPush fcmTokens => exact h.2
    | zalo userExtendId => exact h.elim

/-- A first registration starts from a row that represents no token. -/
theorem representsTokens_new {row : Option NotificationConfigEntity}
    (h : RepresentsTokens (row.bind (·.config)) tokens) (id userId : String) :
    RepresentsTokens (row.getD (newWebPushConfig id userId)).config tokens := by
  cases row <;> exact h

theorem RepresentsTokens.register (h : RepresentsTokens config.config tokens) (token : String) :
    RepresentsTokens (withToken token config).config (insert token tokens) := by
  obtain ⟨nodup, same⟩ := h.stored
  unfold withToken RepresentsTokens
  dsimp only
  split_ifs with old
  · exact ⟨List.ne_nil_of_mem old, nodup, by rw [same, Finset.insert_eq_self.mpr]; simpa [← same]⟩
  · refine ⟨by simp, by simpa using nodup.concat old, ?_⟩
    rw [List.toFinset_append, same]
    ext other
    simp

theorem RepresentsTokens.unregister (h : RepresentsTokens config.config tokens)
    (token : String) :
    RepresentsTokens (withoutToken token config).config (tokens.erase token) := by
  obtain ⟨nodup, same⟩ := h.stored
  have left : ((storedTokens config).filter (· ≠ token)).toFinset = tokens.erase token := by
    ext other
    simp [← same, and_comm]
  unfold withoutToken RepresentsTokens
  dsimp only
  split_ifs with some
  · exact ⟨some, nodup.filter _, left⟩
  · rw [← left, not_not.mp some]
    rfl

theorem mem_stored_of_mem_staleTokens {fcmTokens : List String} {responses : List SendResponse}
    {token : String} (h : token ∈ staleTokens fcmTokens responses) : token ∈ fcmTokens := by
  obtain ⟨⟨other, response⟩, hpair, found⟩ := List.mem_filterMap.mp h
  cases response with
  | accepted => simp at found
  | rejected code =>
    simp only [Option.ite_none_right_eq_some, Option.some.injEq] at found
    exact found.2 ▸ (List.of_mem_zip hpair).1

/-- A run of the sender reports nothing and saves nothing, or reports stale tokens of the row
and saves the row without them, unless the save fails. -/
theorem send_cases (t : Transports) (web : config.channel = .webPush) (message : String) :
    ((send t config message).reported config = [] ∧ (send t config message).saved = none) ∨
      ((send t config message).reported config ≠ [] ∧
        (∀ token ∈ (send t config message).reported config, token ∈ storedTokens config) ∧
        ((send t config message).saved = none ∨ (send t config message).saved =
          some (purgedConfig ((send t config message).reported config) (storedTokens config)
            config))) := by
  have silent : (SendRun.reported config {} = [] ∧ SendRun.saved {} = none) := ⟨rfl, rfl⟩
  have run : send t config message = firebaseSend t config message := by
    unfold send
    rw [web]
  rw [run]
  unfold firebaseSend
  split_ifs
  · exact Or.inl silent
  · exact Or.inl silent
  cases hconfig : config.config with
  | none => exact Or.inl silent
  | some value =>
    cases value with
    | zalo userExtendId => exact Or.inl silent
    | webPush fcmTokens =>
      have stored : storedTokens config = fcmTokens := by simp [storedTokens, hconfig]
      by_cases empty : fcmTokens = []
      · simpa [webPushTokens, empty] using Or.inl silent
      simp only [webPushTokens, empty, if_false]
      cases t.sendEachForMulticast ⟨fcmTokens, "Device warning", message⟩ with
      | error error => exact Or.inl ⟨rfl, rfl⟩
      | ok responses =>
        by_cases clean : staleTokens fcmTokens responses = []
        · simp [clean, SendRun.reported, stored]
        · refine Or.inr ?_
          simp only [clean, if_false]
          cases t.save (purgedConfig (staleTokens fcmTokens responses) fcmTokens config) with
          | ok saved =>
            simp only [SendRun.reported, stored]
            exact ⟨clean, fun token => mem_stored_of_mem_staleTokens, Or.inr trivial⟩
          | error error =>
            simp only [SendRun.reported, stored]
            exact ⟨clean, fun token => mem_stored_of_mem_staleTokens, Or.inl trivial⟩

/-- What is left after a purge represents the tokens that are left exactly when there are
some. -/
theorem RepresentsTokens.purge_iff (h : RepresentsTokens config.config tokens)
    {stale : List String} :
    RepresentsTokens (purgedConfig stale (storedTokens config) config).config
        (tokens \ stale.toFinset) ↔ ∃ token ∈ storedTokens config, token ∉ stale := by
  obtain ⟨nodup, same⟩ := h.stored
  have left : ((storedTokens config).filter (· ∉ stale)).toFinset = tokens \ stale.toFinset := by
    ext other
    simp [← same]
  have remains : (storedTokens config).filter (· ∉ stale) ≠ [] ↔
      ∃ token ∈ storedTokens config, token ∉ stale := by
    rw [ne_eq, List.filter_eq_nil_iff]
    simp
  exact ⟨fun h => remains.mp h.1, fun some => ⟨remains.mpr some, nodup.filter _, left⟩⟩

end Represented

/-! ## Runs -/

/-- When the transport reports stale tokens, the purge is saved and one token is left. -/
def WebPushState.LeavesToken (s : WebPushState) (call : WebPushCall) : Prop :=
  ∀ config run, call.sends s.row = some (config, run) → run.reported config ≠ [] →
    run.saved ≠ none ∧ ∃ token ∈ storedTokens config, token ∉ run.reported config

structure WebPushState.Standing (s : WebPushState) : Prop where
  channel : ∀ config ∈ s.row, config.channel = .webPush
  represented : s.Represented

theorem row_of_target {request : WarningRequest} {row : Option NotificationConfigEntity}
    {config : NotificationConfigEntity}
    (h : (targetConfigs request row.toList).head? = some config) : row = some config := by
  have mem := List.mem_of_mem_filter (List.mem_of_head? h)
  cases hchannels : request.channels.filter (· ≠ []) with
  | none =>
    rw [hchannels] at mem
    exact Option.mem_toList.mp (List.mem_of_mem_filter mem)
  | some channels =>
    rw [hchannels] at mem
    exact Option.mem_toList.mp (List.mem_of_mem_filter (List.mem_of_mem_filter mem))

/-- What is handed to the sender is the row. -/
theorem WebPushCall.row_of_sends {row : Option NotificationConfigEntity} {call : WebPushCall}
    {config : NotificationConfigEntity} {run : SendRun} (h : call.sends row = some (config, run)) :
    row = some config ∧ ∃ t message, run = send t config message := by
  cases call with
  | register id userId token => cases h
  | unregister token => cases h
  | upsert id userId dto => cases h
  | sendWarning t request =>
    obtain ⟨target, hhead, same⟩ := Option.map_eq_some_iff.mp h
    obtain ⟨rfl, rfl⟩ := Prod.mk.inj same
    exact ⟨row_of_target hhead, t, _, rfl⟩
  | sendTestMessage t =>
    obtain ⟨target, htarget, same⟩ := Option.map_eq_some_iff.mp h
    obtain ⟨rfl, rfl⟩ := Prod.mk.inj same
    exact ⟨(Option.filter_eq_some_iff.mp htarget).1, t, _, rfl⟩

namespace WebPushState

variable {s : WebPushState}

theorem Standing.config (standing : s.Standing) {config : NotificationConfigEntity}
    (row : s.row = some config) : RepresentsTokens config.config s.tokens := by
  have represented := standing.represented
  unfold Represented at represented
  rwa [row] at represented

/-- The row that a request saves, stored or new. -/
theorem Standing.channel_getD (standing : s.Standing) (id userId : String) :
    (s.row.getD (newWebPushConfig id userId)).channel = .webPush := by
  cases hrow : s.row with
  | none => rfl
  | some config => exact standing.channel config hrow

theorem Standing.register (standing : s.Standing) (id userId token : String) :
    (s.step (.register id userId token)).Standing := by
  by_cases blank : token = ""
  · have same : s.step (.register id userId token) = s := by
      simp [step, WebPushCall.after, WebPushCall.live, blank]
    rwa [same]
  · have saved : s.step (.register id userId token) =
        ⟨some (withToken token (s.row.getD (newWebPushConfig id userId))),
          insert token s.tokens⟩ := by
      simp [step, WebPushCall.after, WebPushCall.live, blank, registerWebPushToken]
    rw [saved]
    refine ⟨?_, (representsTokens_new standing.represented id userId).register token⟩
    rintro _ ⟨⟩
    exact standing.channel_getD id userId

theorem Standing.unregister (standing : s.Standing) (token : String) :
    (s.step (.unregister token)).Standing := by
  by_cases blank : token = ""
  · have same : s.step (.unregister token) = s := by
      simp [step, WebPushCall.after, WebPushCall.live, blank]
    rwa [same]
  · cases hrow : s.row with
    | none =>
      have empty : s.tokens = ∅ := by
        have represented := standing.represented
        unfold Represented at represented
        rwa [hrow] at represented
      have same : s.step (.unregister token) = s := by
        cases s
        simp_all [step, WebPushCall.after, WebPushCall.live, unregisterWebPushToken]
      rwa [same]
    | some config =>
      have saved : s.step (.unregister token) =
          ⟨some (withoutToken token config), s.tokens.erase token⟩ := by
        simp [step, WebPushCall.after, WebPushCall.live, blank, unregisterWebPushToken, hrow]
      rw [saved]
      refine ⟨?_, (standing.config hrow).unregister token⟩
      rintro _ ⟨⟩
      exact standing.channel config hrow

theorem Standing.upsert (standing : s.Standing) (id userId : String)
    (dto : UpsertNotificationConfigDto) : (s.step (.upsert id userId dto)).Standing := by
  refine ⟨?_, representsTokens_new standing.represented id userId⟩
  rintro _ ⟨⟩
  exact standing.channel_getD id userId

/-- A call that sends changes the state by what its run reports and saves. -/
theorem step_of_sends {call : WebPushCall} {config : NotificationConfigEntity} {run : SendRun}
    (h : call.sends s.row = some (config, run)) :
    s.step call = ⟨run.saved.or s.row, s.tokens \ (run.reported config).toFinset⟩ := by
  cases call with
  | register id userId token => cases h
  | unregister token => cases h
  | upsert id userId dto => cases h
  | sendWarning t request =>
    simp only [step, WebPushCall.after, WebPushCall.live, WebPushCall.reported, h,
      Option.bind_some, Option.map_some, Option.getD_some]
  | sendTestMessage t =>
    simp only [step, WebPushCall.after, WebPushCall.live, WebPushCall.reported, h,
      Option.bind_some, Option.map_some, Option.getD_some]

theorem Standing.send_iff (standing : s.Standing) {call : WebPushCall}
    {config : NotificationConfigEntity} {run : SendRun}
    (h : call.sends s.row = some (config, run)) :
    (s.step call).Represented ↔ (run.reported config ≠ [] →
      run.saved ≠ none ∧ ∃ token ∈ storedTokens config, token ∉ run.reported config) := by
  obtain ⟨hrow, t, message, rfl⟩ := WebPushCall.row_of_sends h
  have represents := standing.config hrow
  rw [step_of_sends h, hrow]
  rcases send_cases t (standing.channel config hrow) message with
    ⟨clean, unsaved⟩ | ⟨stale, stored, unsaved | saved⟩
  · rw [clean, unsaved]
    exact iff_of_true (by simpa [Represented] using represents) (by simp)
  · -- the row stays although one of its tokens is reported
    rw [unsaved]
    refine iff_of_false (fun represented => ?_) fun h => (h stale).1 rfl
    obtain ⟨token, htoken⟩ := List.exists_mem_of_ne_nil _ stale
    obtain ⟨-, same⟩ := RepresentsTokens.stored (represented : RepresentsTokens config.config _)
    have mem := List.mem_toFinset.mpr (stored token htoken)
    rw [same] at mem
    exact (Finset.mem_sdiff.mp mem).2 (List.mem_toFinset.mpr htoken)
  · have left : RepresentsTokens (purgedConfig ((send t config message).reported config)
        (storedTokens config) config).config _ ↔ _ := represents.purge_iff
    rw [saved]
    exact left.trans ⟨fun left _ => ⟨by simp, left⟩, fun h => (h stale).2⟩

theorem Standing.step (standing : s.Standing) (call : WebPushCall)
    (leaves : s.LeavesToken call) : (s.step call).Standing := by
  cases hsends : call.sends s.row with
  | some sent =>
    obtain ⟨config, run⟩ := sent
    refine ⟨?_, (standing.send_iff hsends).mpr (leaves config run hsends)⟩
    obtain ⟨hrow, t, message, rfl⟩ := WebPushCall.row_of_sends hsends
    have web := standing.channel config hrow
    rw [step_of_sends hsends, hrow]
    rcases send_cases t web message with ⟨-, unsaved⟩ | ⟨-, -, unsaved | saved⟩
    · rw [unsaved]
      rintro _ ⟨⟩
      exact web
    · rw [unsaved]
      rintro _ ⟨⟩
      exact web
    · rw [saved]
      rintro _ ⟨⟩
      exact web
  | none =>
    cases call with
    | register id userId token => exact standing.register id userId token
    | unregister token => exact standing.unregister token
    | upsert id userId dto => exact standing.upsert id userId dto
    | sendWarning t request =>
      have same : s.step (.sendWarning t request) = s := by
        cases s
        simp [WebPushState.step, WebPushCall.after, WebPushCall.live, WebPushCall.reported, hsends]
      rwa [same]
    | sendTestMessage t =>
      have same : s.step (.sendTestMessage t) = s := by
        cases s
        simp [WebPushState.step, WebPushCall.after, WebPushCall.live, WebPushCall.reported, hsends]
      rwa [same]

end WebPushState

open WebPushState in
/-- From no row, in every state of the run the stored list is that of the registered tokens,
exactly when each send that is told of stale tokens saves its purge and leaves a token. -/
theorem web_push_tokens_iff (calls : List WebPushCall) :
    (∀ pre, pre <+: calls → (Run.exec WebPushState.step ⟨none, ∅⟩ pre).Represented) ↔
      Run.Meets WebPushState.step LeavesToken ⟨none, ∅⟩ calls := by
  have start : WebPushState.Standing ⟨none, ∅⟩ := ⟨by simp, rfl⟩
  have implies : ∀ s : WebPushState, s.Standing → s.Represented := fun s h => h.represented
  refine Run.always_iff_meets implies (fun s call standing leaves => standing.step call leaves)
    (fun s call standing represented => ?_) start calls
  intro config run sends
  exact (standing.send_iff sends).mp represented

/-! ### The last token goes stale -/

/-- Firebase knows no token any more. -/
def forgetfulFirebase : Transports :=
  { workingFirebase with
    sendEachForMulticast := fun message => .ok (message.tokens.map fun _ =>
      .rejected "messaging/registration-token-not-registered") }

/-- A browser registers and a warning finds its token stale. -/
def lastTokenStale : List WebPushCall :=
  [.register "n1" "u1" "token",
    .sendWarning forgetfulFirebase { userId := "u1", message := "Too hot" }]

/-- The stored list is empty, and not `null`. -/
theorem lastTokenStale_not_represented :
    ¬ (Run.exec WebPushState.step ⟨none, ∅⟩ lastTokenStale).Represented := by
  have row : (Run.exec WebPushState.step ⟨none, ∅⟩ lastTokenStale).row.bind (·.config) =
      some (.webPush []) := by decide
  intro represented
  unfold WebPushState.Represented at represented
  rw [row] at represented
  exact represented.1 rfl

end AiotCloud
