import AiotCloud.Lib.LastWriter
import AiotCloud.Lib.ReadModifyWrite
import AiotCloud.WebPushTokens

/-!
# Web push tokens under concurrent calls

A registration and an unregistration read the row and save a list made of their copy. A
warning reads the row, waits for Firebase and saves its copy without the stale tokens. The
calls are not ordered by anything, so what is stored at the end is what one chain of saves
made: the last one, the one whose result its call had read, and so on.

1. `firebaseSend_saved`: the steps of a warning are those of the sender.
2. `row_eq_lineage`: the stored row is what the chain makes of the first one.
3. `tokens_kept_iff`: when no token is lost or comes back.
4. `tokens_kept_of_apart`: never, if no call saves between the read and the save of another.
-/

namespace AiotCloud

open ReadModifyWrite

/-! ## Calls -/

/-- The stale tokens that Firebase reports for the row, if it is asked and answers. -/
def askFirebase (t : Transports) (config : NotificationConfigEntity) (message : String) :
    Option (List String) :=
  if t.firebaseEnabled = false then none
  else if t.firebaseApp = false then none
  else
    match webPushTokens config.config with
    | none => none
    | some fcmTokens =>
      match t.sendEachForMulticast ⟨fcmTokens, "Device warning", message⟩ with
      | .error _ => none
      | .ok responses => some (staleTokens fcmTokens responses)

/-- The save at the end of a run of the sender. -/
def savePurge (t : Transports) (config : NotificationConfigEntity) (stale : List String) :
    Option NotificationConfigEntity :=
  match t.save (purgedConfig stale (storedTokens config) config) with
  | .ok () => some (purgedConfig stale (storedTokens config) config)
  | .error _ => none

/-- Firebase fails, or answers for each token. -/
def Transports.answering (t : Transports) (answers : Option (String → SendResponse)) :
    Transports :=
  { t with
    sendEachForMulticast := fun message =>
      match answers with
      | none => .error "messaging/server-unavailable"
      | some answer => .ok (message.tokens.map answer) }

inductive TokenCall where
  | register (id userId token : String)
  | unregister (token : String)
  | sendWarning (t : Transports) (request : WarningRequest)
      (answers : Option (String → SendResponse))

/-- What a call saves, from the copy that it has read. -/
def TokenCall.makes (copy : Option NotificationConfigEntity) :
    TokenCall → Option NotificationConfigEntity
  | .register id userId token => some (registerWebPushToken id userId token copy).2
  | .unregister token => (unregisterWebPushToken token copy).2
  | .sendWarning _ _ answers => copy.map fun config =>
    let fcmTokens := storedTokens config
    purgedConfig (staleTokens fcmTokens ((answers.map fcmTokens.map).getD [])) fcmTokens config

inductive TokenPhase where
  | start
  | loaded (copy : Option NotificationConfigEntity)
  | asking (config : NotificationConfigEntity)
  | purging (config : NotificationConfigEntity) (stale : List String)
  | finished
deriving DecidableEq, Repr

/-- What a step did: it read the row, found none to unregister from, was told of stale
tokens, saved, or had its save refused. -/
inductive TokenEvent where
  | read
  | absent
  | reported (tokens : List String)
  | saved
  | refused
deriving DecidableEq, Repr

/-- One step of a call. The insert of a first registration is refused when there is a row by
then; the columns `userId` and `channel` have a unique index. -/
def TokenCall.advance (call : TokenCall) (row : Option NotificationConfigEntity)
    (phase : TokenPhase) :
    TokenPhase × Option NotificationConfigEntity × Option TokenEvent :=
  match call, phase with
  | .register .., .start => (.loaded row, row, some .read)
  | .register .., .loaded copy =>
    if copy = none ∧ row ≠ none then (.finished, row, some .refused)
    else (.finished, call.makes copy, some .saved)
  | .unregister _, .start =>
    match row with
    | none => (.finished, row, some .absent)
    | some config => (.loaded (some config), row, some .read)
  | .unregister _, .loaded copy => (.finished, call.makes copy, some .saved)
  | .sendWarning _ request _, .start =>
    match (targetConfigs request row.toList).head? with
    | none => (.finished, row, none)
    | some config => (.asking config, row, some .read)
  | .sendWarning t request answers, .asking config =>
    match askFirebase (t.answering answers) config (renderedMessage config request.message) with
    | none => (.finished, row, none)
    | some stale =>
      (if stale = [] then .finished else .purging config stale, row, some (.reported stale))
  | .sendWarning t _ _, .purging config stale =>
    match savePurge t config stale with
    | none => (.finished, row, some .refused)
    | some saved => (.finished, some saved, some .saved)
  | _, _ => (phase, row, none)

/-- The row, where the calls are, and what has happened. -/
structure TokenRace (ι : Type) where
  row : Option NotificationConfigEntity
  phases : ι → TokenPhase
  log : List (ι × TokenEvent)

section Race

variable {ι : Type} [DecidableEq ι] (calls : ι → TokenCall)

def TokenRace.step (w : TokenRace ι) (i : ι) : TokenRace ι :=
  let (phase, row, event) := (calls i).advance w.row (w.phases i)
  ⟨row, Function.update w.phases i phase, w.log ++ (event.map (i, ·)).toList⟩

/-- The calls at their start. -/
def TokenRace.start (row : Option NotificationConfigEntity) : TokenRace ι :=
  ⟨row, fun _ => .start, []⟩

def TokenRace.run (row : Option NotificationConfigEntity) (sched : List ι) : TokenRace ι :=
  Run.exec (TokenRace.step calls) (.start row) sched

end Race

/-! ## The sender in steps -/

/-- Without a stop in between, the steps of a warning are a run of the sender. -/
theorem firebaseSend_saved (t : Transports) (config : NotificationConfigEntity)
    (message : String) :
    (firebaseSend t config message).saved = (askFirebase t config message).bind fun stale =>
      if stale = [] then none else savePurge t config stale := by
  unfold firebaseSend askFirebase
  split_ifs
  · rfl
  · rfl
  cases hconfig : config.config with
  | none => rfl
  | some value =>
    cases value with
    | zalo userExtendId => rfl
    | webPush fcmTokens =>
      have stored : storedTokens config = fcmTokens := by simp [storedTokens, hconfig]
      by_cases empty : fcmTokens = []
      · simp [webPushTokens, empty]
      simp only [webPushTokens, empty, if_false]
      cases t.sendEachForMulticast ⟨fcmTokens, "Device warning", message⟩ with
      | error error => rfl
      | ok responses =>
        simp only [Option.bind_some, savePurge, stored]
        by_cases clean : staleTokens fcmTokens responses = []
        · simp only [clean, if_true]
        · simp only [clean, if_false]
          cases t.save (purgedConfig (staleTokens fcmTokens responses) fcmTokens config) <;> rfl

/-- Firebase calls the token stale. -/
def callsStale (answers : Option (String → SendResponse)) (token : String) : Bool :=
  token ≠ "" && answers.any fun answer =>
    match answer token with
    | .accepted => false
    | .rejected code => code ∈ staleTokenErrorCodes

/-- The tokens of a row that Firebase calls stale. -/
theorem mem_staleTokens_iff (answers : Option (String → SendResponse)) (fcmTokens : List String)
    (token : String) :
    token ∈ staleTokens fcmTokens ((answers.map fcmTokens.map).getD []) ↔
      token ∈ fcmTokens ∧ callsStale answers token = true := by
  unfold callsStale staleTokens
  cases answers with
  | none => simp
  | some answer =>
    have pairs : fcmTokens.zip (fcmTokens.map answer) = fcmTokens.map fun t => (t, answer t) := by
      rw [List.zip_map_right, List.zip_eq_zipWith, List.zipWith_self, List.map_map]
      rfl
    simp only [Option.map_some, Option.getD_some, pairs, List.mem_filterMap, List.mem_map,
      Option.any_some, Bool.and_eq_true, decide_eq_true_eq]
    constructor
    · rintro ⟨_, ⟨other, hother, rfl⟩, found⟩
      cases hanswer : answer other with
      | accepted => simp [hanswer] at found
      | rejected code =>
        simp only [hanswer, Option.ite_none_right_eq_some, Option.some.injEq] at found
        obtain ⟨⟨nonempty, known⟩, rfl⟩ := found
        exact ⟨hother, nonempty, by simpa [hanswer] using known⟩
    · rintro ⟨htoken, nonempty, known⟩
      refine ⟨_, ⟨token, htoken, rfl⟩, ?_⟩
      cases hanswer : answer token with
      | accepted => simp [hanswer] at known
      | rejected code =>
        have stale : code ∈ staleTokenErrorCodes := by simpa [hanswer] using known
        simp [nonempty, stale]

/-! ## One token -/

/-- Is the token in the stored list? -/
def holdsToken (row : Option NotificationConfigEntity) (token : String) : Option Bool :=
  some (decide (token ∈ (row.map storedTokens).getD []))

/-- What a save of the call makes of the token, if it does not carry it over from its copy. -/
def TokenCall.decides (call : TokenCall) (token : String) : Option Bool :=
  match call with
  | .register _ _ registered => if token = registered then some true else none
  | .unregister unregistered => if token = unregistered then some false else none
  | .sendWarning _ _ answers => if callsStale answers token then some false else none

theorem storedTokens_withToken (token : String) (config : NotificationConfigEntity)
    (other : String) :
    other ∈ storedTokens (withToken token config) ↔
      other = token ∨ other ∈ storedTokens config := by
  have list : storedTokens (withToken token config) =
      if token ∈ storedTokens config then storedTokens config
      else storedTokens config ++ [token] := rfl
  rw [list]
  split_ifs with old
  · exact ⟨Or.inr, fun h => h.elim (fun same => same ▸ old) id⟩
  · simp [or_comm]

theorem storedTokens_withoutToken (token : String) (config : NotificationConfigEntity)
    (other : String) : other ∈ storedTokens (withoutToken token config) ↔
      other ∈ storedTokens config ∧ other ≠ token := by
  have list : storedTokens (withoutToken token config) =
      (storedTokens config).filter (· ≠ token) := by
    unfold withoutToken
    dsimp only
    split_ifs with some
    · rfl
    · exact (not_not.mp some).symm
  rw [list]
  simp

theorem storedTokens_purgedConfig (stale fcmTokens : List String)
    (config : NotificationConfigEntity) :
    storedTokens (purgedConfig stale fcmTokens config) = fcmTokens.filter (· ∉ stale) := rfl

theorem holdsToken_makes (call : TokenCall) (copy : Option NotificationConfigEntity) :
    holdsToken (call.makes copy) = LastWriter.spread (holdsToken copy) call.decides := by
  funext token
  unfold LastWriter.spread holdsToken TokenCall.makes TokenCall.decides
  cases call with
  | register id userId registered =>
    have old : (storedTokens (copy.getD (newWebPushConfig id userId))) =
        (copy.map storedTokens).getD [] := by cases copy <;> rfl
    simp only [registerWebPushToken, Option.map_some, Option.getD_some, storedTokens_withToken, old]
    by_cases same : token = registered <;> simp [same]
  | unregister unregistered =>
    cases copy with
    | none => by_cases same : token = unregistered <;> simp [unregisterWebPushToken, same]
    | some config =>
      simp only [unregisterWebPushToken, Option.map_some, Option.getD_some,
        storedTokens_withoutToken]
      by_cases same : token = unregistered <;> simp [same]
  | sendWarning t request answers =>
    cases copy with
    | none => cases stale : callsStale answers token <;> simp [stale]
    | some config =>
      simp only [Option.map_some, Option.getD_some, storedTokens_purgedConfig, List.mem_filter,
        mem_staleTokens_iff]
      cases callsStale answers token <;> by_cases held : token ∈ storedTokens config <;>
        simp [held]

/-! ## Runs -/

section Race

variable {ι : Type} [DecidableEq ι] {calls : ι → TokenCall}

/-- The reads and saves among the events. -/
def tokenTurn : ι × TokenEvent → Option (Turn ι)
  | (i, .read) => some (.read i)
  | (i, .saved) => some (.write i)
  | _ => none

/-- The turns so far. -/
def TokenRace.turns (w : TokenRace ι) : List (Turn ι) := w.log.filterMap tokenTurn

/-- A call holds the copy that it has read, and what Firebase has said of it. -/
def HoldsCopy (call : TokenCall) (copy : Option (Option NotificationConfigEntity)) :
    TokenPhase → Prop
  | .loaded loaded => copy = some loaded
  | .asking config => copy = some (some config)
  | .purging config stale => copy = some (some config) ∧
      call.makes (some config) = some (purgedConfig stale (storedTokens config) config)
  | _ => True

/-- The world is where its turns lead. -/
structure FollowsTurns (calls : ι → TokenCall) (row : Option NotificationConfigEntity)
    (w : TokenRace ι) : Prop where
  value : w.row = (ReadModifyWrite.run (fun i copy => (calls i).makes copy) row w.turns).value
  copies : ∀ i, HoldsCopy (calls i)
    ((ReadModifyWrite.run (fun i copy => (calls i).makes copy) row w.turns).copies i) (w.phases i)

/-- What a step does to the row and to the copy of its call. -/
inductive Advances (call : TokenCall) (row : Option NotificationConfigEntity)
    (copy : Option (Option NotificationConfigEntity)) :
    TokenPhase × Option NotificationConfigEntity × Option TokenEvent → Prop
  | read (phase : TokenPhase) (holds : HoldsCopy call (some row) phase) :
      Advances call row copy (phase, row, some .read)
  | saved (loaded saved : Option NotificationConfigEntity) (hcopy : copy = some loaded)
      (hsaved : saved = call.makes loaded) :
      Advances call row copy (.finished, saved, some .saved)
  | other (phase : TokenPhase) (event : Option TokenEvent) (holds : HoldsCopy call copy phase)
      (unread : event ≠ some .read) (unsaved : event ≠ some .saved) :
      Advances call row copy (phase, row, event)

theorem makes_of_asked {t : Transports} {request : WarningRequest}
    {answers : Option (String → SendResponse)} {config : NotificationConfigEntity}
    {message : String} {stale : List String}
    (h : askFirebase (t.answering answers) config message = some stale) :
    (TokenCall.sendWarning t request answers).makes (some config) =
      some (purgedConfig stale (storedTokens config) config) := by
  unfold askFirebase at h
  split_ifs at h
  cases hconfig : config.config with
  | none => simp [hconfig, webPushTokens] at h
  | some value =>
    cases value with
    | zalo userExtendId => simp [hconfig, webPushTokens] at h
    | webPush fcmTokens =>
      have stored : storedTokens config = fcmTokens := by simp [storedTokens, hconfig]
      by_cases empty : fcmTokens = []
      · simp [hconfig, webPushTokens, empty] at h
      cases answers with
      | none => simp [hconfig, webPushTokens, empty, Transports.answering] at h
      | some answer =>
        simp only [hconfig, webPushTokens, empty, if_false, Transports.answering,
          Option.some.injEq] at h
        simp [TokenCall.makes, stored, h]

theorem advances_sendWarning (t : Transports) (request : WarningRequest)
    (answers : Option (String → SendResponse)) (row : Option NotificationConfigEntity)
    {phase : TokenPhase} {copy : Option (Option NotificationConfigEntity)}
    (holds : HoldsCopy (.sendWarning t request answers) copy phase) :
    Advances (.sendWarning t request answers) row copy
      ((TokenCall.sendWarning t request answers).advance row phase) := by
  cases phase with
  | start =>
    cases htarget : (targetConfigs request row.toList).head? with
    | none =>
      simpa [TokenCall.advance, htarget] using
        Advances.other .finished none trivial (by simp) (by simp)
    | some config =>
      simpa [TokenCall.advance, htarget] using
        Advances.read (.asking config) (congrArg some (row_of_target htarget))
  | loaded loaded => exact .other _ _ holds (by simp) (by simp)
  | asking config =>
    cases hanswer : askFirebase (t.answering answers) config
        (renderedMessage config request.message) with
    | none =>
      simpa [TokenCall.advance, hanswer] using
        Advances.other .finished none trivial (by simp) (by simp)
    | some stale =>
      by_cases clean : stale = []
      · simpa [TokenCall.advance, hanswer, clean] using
          Advances.other .finished (some (.reported [])) trivial (by simp) (by simp)
      · simpa [TokenCall.advance, hanswer, clean] using
          Advances.other (.purging config stale) (some (.reported stale))
            ⟨holds, makes_of_asked hanswer⟩ (by simp) (by simp)
  | purging config stale =>
    obtain ⟨hcopy, hmakes⟩ := holds
    cases hsave : t.save (purgedConfig stale (storedTokens config) config) with
    | ok _ =>
      simpa [TokenCall.advance, savePurge, hsave] using
        Advances.saved (some config) _ hcopy hmakes.symm
    | error error =>
      simpa [TokenCall.advance, savePurge, hsave] using
        Advances.other .finished (some .refused) trivial (by simp) (by simp)
  | finished => exact .other _ _ holds (by simp) (by simp)

theorem advances (call : TokenCall) (row : Option NotificationConfigEntity) {phase : TokenPhase}
    {copy : Option (Option NotificationConfigEntity)} (holds : HoldsCopy call copy phase) :
    Advances call row copy (call.advance row phase) := by
  cases call with
  | sendWarning t request answers => exact advances_sendWarning t request answers row holds
  | register id userId token =>
    cases phase with
    | start => exact .read _ rfl
    | loaded loaded =>
      by_cases taken : loaded = none ∧ row ≠ none
      · simpa [TokenCall.advance, taken] using
          Advances.other .finished (some .refused) trivial (by simp) (by simp)
      · simpa [TokenCall.advance, taken] using Advances.saved loaded _ holds rfl
    | asking config => exact .other _ _ holds (by simp) (by simp)
    | purging config stale => exact .other _ _ holds (by simp) (by simp)
    | finished => exact .other _ _ holds (by simp) (by simp)
  | unregister token =>
    cases phase with
    | start =>
      cases row with
      | none => exact .other _ _ trivial (by simp) (by simp)
      | some config => exact .read _ rfl
    | loaded loaded => exact .saved loaded _ holds rfl
    | asking config => exact .other _ _ holds (by simp) (by simp)
    | purging config stale => exact .other _ _ holds (by simp) (by simp)
    | finished => exact .other _ _ holds (by simp) (by simp)

omit [DecidableEq ι] in
/-- An event that is no read and no save is no turn. -/
theorem no_turn {i : ι} {event : Option TokenEvent} (unread : event ≠ some .read)
    (unsaved : event ≠ some .saved) : ((event.map (i, ·)).toList).filterMap tokenTurn = [] := by
  cases event with
  | none => rfl
  | some event =>
    cases event with
    | read => exact absurd rfl unread
    | saved => exact absurd rfl unsaved
    | absent => rfl
    | reported tokens => rfl
    | refused => rfl

theorem FollowsTurns.step {row : Option NotificationConfigEntity} {w : TokenRace ι}
    (follows : FollowsTurns calls row w) (i : ι) : FollowsTurns calls row (w.step calls i) := by
  have moved := advances (calls i) w.row (follows.copies i)
  have stepped : w.step calls i =
      ⟨((calls i).advance w.row (w.phases i)).2.1,
        Function.update w.phases i ((calls i).advance w.row (w.phases i)).1,
        w.log ++ (((calls i).advance w.row (w.phases i)).2.2.map (i, ·)).toList⟩ := rfl
  have turns : (w.step calls i).turns = w.turns ++
      ((((calls i).advance w.row (w.phases i)).2.2.map (i, ·)).toList).filterMap tokenTurn := by
    rw [stepped, TokenRace.turns, List.filterMap_append]
    rfl
  refine ⟨?_, fun j => ?_⟩
  · rw [turns, stepped]
    generalize (calls i).advance w.row (w.phases i) = advance at moved
    cases moved with
    | read phase holds =>
      simpa [tokenTurn, run_concat, ReadModifyWrite.step] using follows.value
    | saved loaded saved hcopy hsaved =>
      simpa [tokenTurn, run_concat, ReadModifyWrite.step, hcopy] using hsaved
    | other phase event holds unread unsaved =>
      rw [no_turn unread unsaved, List.append_nil]
      exact follows.value
  · rw [turns, stepped]
    generalize (calls i).advance w.row (w.phases i) = advance at moved
    cases moved with
    | read phase holds =>
      rcases eq_or_ne j i with rfl | hne
      · simpa [tokenTurn, run_concat, ReadModifyWrite.step, ← follows.value] using holds
      · simpa [tokenTurn, run_concat, ReadModifyWrite.step, hne] using follows.copies j
    | saved loaded saved hcopy hsaved =>
      rcases eq_or_ne j i with rfl | hne
      · simp [HoldsCopy]
      · simpa [tokenTurn, run_concat, ReadModifyWrite.step, hcopy, hne] using follows.copies j
    | other phase event holds unread unsaved =>
      rw [no_turn unread unsaved, List.append_nil]
      rcases eq_or_ne j i with rfl | hne
      · simpa using holds
      · simpa [hne] using follows.copies j

variable (calls)

/-- The stored row is what the saves in the chain of the last one make of the first row. -/
theorem row_eq_lineage (row : Option NotificationConfigEntity) (sched : List ι) :
    (TokenRace.run calls row sched).row =
      Run.exec (fun copy i => (calls i).makes copy) row
        (lineage (TokenRace.run calls row sched).turns) := by
  have start : FollowsTurns calls row (.start row) := ⟨rfl, fun _ => trivial⟩
  have follows : FollowsTurns calls row (TokenRace.run calls row sched) :=
    Run.invariant (fun w i follows => follows.step i) start sched
  exact follows.value.trans (value_eq_foldl_lineage _ _ _)

/-! ## What is kept -/

/-- A registration of the token returned success. -/
def Registers (token : String) (entry : ι × TokenEvent) : Prop :=
  entry.2 = .saved ∧ ∃ id userId, calls entry.1 = .register id userId token

/-- An unregistration of the token returned success. -/
def Unregisters (token : String) (entry : ι × TokenEvent) : Prop :=
  (entry.2 = .saved ∨ entry.2 = .absent) ∧ calls entry.1 = .unregister token

/-- Firebase reported the token stale. -/
def ReportsStale (token : String) (entry : ι × TokenEvent) : Prop :=
  ∃ tokens, entry.2 = .reported tokens ∧ token ∈ tokens

/-- The token was registered, not unregistered afterwards, and not reported stale. -/
def KeptRegistration (token : String) (log : List (ι × TokenEvent)) : Prop :=
  (∃ before entry after, log = before ++ entry :: after ∧ Registers calls token entry ∧
      ∀ later ∈ after, ¬ Unregisters calls token later) ∧
    ∀ entry ∈ log, ¬ ReportsStale token entry

/-- The last call on the token that returned success unregistered it. -/
def UnregisteredLast (token : String) (log : List (ι × TokenEvent)) : Prop :=
  ∃ before entry after, log = before ++ entry :: after ∧ Unregisters calls token entry ∧
    ∀ later ∈ after, ¬ Registers calls token later

/-- No registration is lost, and no token comes back. -/
def TokensKept (w : TokenRace ι) : Prop :=
  ∀ token, (KeptRegistration calls token w.log → token ∈ (w.row.map storedTokens).getD []) ∧
    (UnregisteredLast calls token w.log → token ∉ (w.row.map storedTokens).getD [])

/-- In the chain of the last save, the last save that decides about the token registers it;
or none decides, and the first row has it. -/
def RegisteredInChain (row : Option NotificationConfigEntity) (token : String)
    (turns : List (Turn ι)) : Prop :=
  LastWriter.last (fun i => (calls i).decides) (lineage turns) token = some true ∨
    (LastWriter.last (fun i => (calls i).decides) (lineage turns) token = none ∧
      token ∈ (row.map storedTokens).getD [])

theorem mem_storedTokens_iff (row : Option NotificationConfigEntity) (sched : List ι)
    (token : String) :
    token ∈ ((TokenRace.run calls row sched).row.map storedTokens).getD [] ↔
      RegisteredInChain calls row token (TokenRace.run calls row sched).turns := by
  have chain := LastWriter.exec_eq_last holdsToken (fun copy i => holdsToken_makes (calls i) copy)
    row (lineage (TokenRace.run calls row sched).turns)
  rw [← row_eq_lineage] at chain
  have entry := congrFun chain token
  unfold RegisteredInChain
  unfold LastWriter.spread holdsToken at entry
  cases hlast : LastWriter.last (fun i => (calls i).decides)
      (lineage (TokenRace.run calls row sched).turns) token with
  | none =>
    rw [hlast] at entry
    simpa using entry
  | some decided =>
    rw [hlast] at entry
    cases decided <;> simpa using entry

/-- For any calls, any first row and any schedule: no token is lost and none comes back exactly
when the chain of the last save ends for each of them as the calls themselves did. -/
theorem tokens_kept_iff (row : Option NotificationConfigEntity) (sched : List ι) :
    TokensKept calls (TokenRace.run calls row sched) ↔
      ∀ token,
        (KeptRegistration calls token (TokenRace.run calls row sched).log →
          RegisteredInChain calls row token (TokenRace.run calls row sched).turns) ∧
        (UnregisteredLast calls token (TokenRace.run calls row sched).log →
          ¬ RegisteredInChain calls row token (TokenRace.run calls row sched).turns) := by
  unfold TokensKept
  simp only [mem_storedTokens_iff]

/-! ## Calls that do not overlap -/

variable {calls}

/-- The tokens of the row. -/
def TokenRace.tokens (w : TokenRace ι) : List String := (w.row.map storedTokens).getD []

omit [DecidableEq ι] in
theorem KeptRegistration.of_concat {token : String} {log : List (ι × TokenEvent)}
    {entry : ι × TokenEvent} (kept : KeptRegistration calls token (log ++ [entry])) :
    Registers calls token entry ∨
      KeptRegistration calls token log ∧ ¬ Unregisters calls token entry := by
  obtain ⟨⟨before, registered, after, split, registers, last⟩, unreported⟩ := kept
  rcases List.eq_nil_or_concat after with rfl | ⟨after, late, rfl⟩
  · obtain ⟨-, same⟩ := List.append_inj' split rfl
    rw [List.singleton_inj.mp same]
    exact Or.inl registers
  · rw [List.concat_eq_append, ← List.cons_append, ← List.append_assoc] at split
    obtain ⟨rfl, same⟩ := List.append_inj' split rfl
    obtain rfl := List.singleton_inj.mp same
    refine Or.inr ⟨⟨⟨before, registered, after, rfl, registers, fun later hlater => ?_⟩,
      fun e he => unreported e (List.mem_append_left _ he)⟩, last _ (by simp)⟩
    exact last later (by simp [hlater])

omit [DecidableEq ι] in
theorem UnregisteredLast.of_concat {token : String} {log : List (ι × TokenEvent)}
    {entry : ι × TokenEvent} (gone : UnregisteredLast calls token (log ++ [entry])) :
    Unregisters calls token entry ∨
      UnregisteredLast calls token log ∧ ¬ Registers calls token entry := by
  obtain ⟨before, unregistered, after, split, unregisters, last⟩ := gone
  rcases List.eq_nil_or_concat after with rfl | ⟨after, late, rfl⟩
  · obtain ⟨-, same⟩ := List.append_inj' split rfl
    rw [List.singleton_inj.mp same]
    exact Or.inl unregisters
  · rw [List.concat_eq_append, ← List.cons_append, ← List.append_assoc] at split
    obtain ⟨rfl, same⟩ := List.append_inj' split rfl
    obtain rfl := List.singleton_inj.mp same
    refine Or.inr ⟨⟨before, unregistered, after, rfl, unregisters, fun later hlater => ?_⟩,
      last _ (by simp)⟩
    exact last later (by simp [hlater])

/-- An event does to the row what it says: a token comes in only with its registration, and goes
only with its unregistration or after a report. -/
structure Tells (calls : ι → TokenCall) (w after : TokenRace ι) (entry : ι × TokenEvent) :
    Prop where
  registers : ∀ token, Registers calls token entry → token ∈ after.tokens
  unregisters : ∀ token, Unregisters calls token entry → token ∉ after.tokens
  comesIn : ∀ token ∈ after.tokens, token ∈ w.tokens ∨ Registers calls token entry
  goes : ∀ token ∈ w.tokens, token ∈ after.tokens ∨ Unregisters calls token entry ∨
    ∃ e ∈ w.log, ReportsStale token e

omit [DecidableEq ι] in
theorem TokensKept.concat {w after : TokenRace ι} {entry : ι × TokenEvent}
    (kept : TokensKept calls w) (log : after.log = w.log ++ [entry])
    (tells : Tells calls w after entry) : TokensKept calls after := by
  intro token
  rw [log]
  constructor
  · intro registered
    have unreported := registered.2
    rcases registered.of_concat with now | ⟨earlier, stays⟩
    · exact tells.registers token now
    · rcases tells.goes token ((kept token).1 earlier) with here | leaves | ⟨e, he, reports⟩
      · exact here
      · exact absurd leaves stays
      · exact absurd reports (unreported e (List.mem_append_left _ he))
  · intro gone here
    rcases gone.of_concat with now | ⟨earlier, stays⟩
    · exact tells.unregisters token now here
    · rcases tells.comesIn token here with before | comes
      · exact (kept token).2 earlier before
      · exact stays comes

/-- A call that is about to purge has reported what it purges. -/
def HasReported (log : List (ι × TokenEvent)) (i : ι) : TokenPhase → Prop
  | .purging _ stale => (i, .reported stale) ∈ log
  | _ => True

omit [DecidableEq ι] in
theorem HasReported.mono {log log' : List (ι × TokenEvent)} (sub : log ⊆ log') {i : ι}
    {phase : TokenPhase} (reported : HasReported log i phase) : HasReported log' i phase := by
  cases phase with
  | purging config stale => exact sub reported
  | _ => trivial

omit [DecidableEq ι] in
theorem hasReported_advance (call : TokenCall) (row : Option NotificationConfigEntity)
    {phase : TokenPhase} {log : List (ι × TokenEvent)} {i : ι}
    (reported : HasReported log i phase) :
    HasReported (log ++ ((call.advance row phase).2.2.map (i, ·)).toList) i
      (call.advance row phase).1 := by
  have stays := reported.mono (List.subset_append_left log
    (((call.advance row phase).2.2.map (i, ·)).toList))
  cases call with
  | register id userId token =>
    cases phase with
    | loaded loaded =>
      simp only [TokenCall.advance]
      split_ifs <;> trivial
    | start => trivial
    | asking config => trivial
    | purging config stale => exact stays
    | finished => trivial
  | unregister token =>
    cases phase with
    | start => cases row <;> trivial
    | loaded loaded => trivial
    | asking config => trivial
    | purging config stale => exact stays
    | finished => trivial
  | sendWarning t request answers =>
    cases phase with
    | start =>
      simp only [TokenCall.advance]
      split <;> trivial
    | loaded loaded => trivial
    | asking config =>
      simp only [TokenCall.advance]
      split
      · trivial
      · next stale _ =>
        by_cases clean : stale = []
        · simp [clean, HasReported]
        · simp [clean, HasReported]
    | purging config stale =>
      simp only [TokenCall.advance]
      split <;> trivial
    | finished => trivial

/-- Only an unregistration that finds no row is absent. -/
theorem row_of_absent {call : TokenCall} {row : Option NotificationConfigEntity}
    {phase : TokenPhase} (absent : (call.advance row phase).2.2 = some .absent) :
    row = none := by
  cases call with
  | register id userId token =>
    cases phase with
    | loaded loaded =>
      simp only [TokenCall.advance] at absent
      split_ifs at absent <;> cases absent
    | _ => cases absent
  | unregister token =>
    cases phase with
    | start =>
      cases row with
      | none => rfl
      | some config => cases absent
    | _ => cases absent
  | sendWarning t request answers =>
    cases phase with
    | start | asking | purging =>
      simp only [TokenCall.advance] at absent
      split at absent <;> cases absent
    | _ => cases absent

/-- A save of a warning purges. -/
theorem purging_of_saved {t : Transports} {request : WarningRequest}
    {answers : Option (String → SendResponse)} {row : Option NotificationConfigEntity}
    {phase : TokenPhase}
    (saved : ((TokenCall.sendWarning t request answers).advance row phase).2.2 = some .saved) :
    ∃ config stale, phase = .purging config stale := by
  cases phase with
  | purging config stale => exact ⟨config, stale, rfl⟩
  | start =>
    simp only [TokenCall.advance] at saved
    split at saved <;> cases saved
  | asking config =>
    simp only [TokenCall.advance] at saved
    split at saved <;> cases saved
  | loaded loaded => cases saved
  | finished => cases saved

theorem mem_makes_iff (call : TokenCall) (copy : Option NotificationConfigEntity)
    (token : String) :
    token ∈ ((call.makes copy).map storedTokens).getD [] ↔
      call.decides token = some true ∨
        call.decides token = none ∧ token ∈ (copy.map storedTokens).getD [] := by
  have held := congrFun (holdsToken_makes call copy) token
  unfold LastWriter.spread holdsToken at held
  cases hdecides : call.decides token with
  | none => simpa [hdecides] using held
  | some decided => cases decided <;> simpa [hdecides] using held

theorem decides_eq_true_iff {call : TokenCall} {token : String} :
    call.decides token = some true ↔ ∃ id userId, call = .register id userId token := by
  cases call with
  | register id userId registered => simp [TokenCall.decides, eq_comm]
  | unregister unregistered => simp [TokenCall.decides]
  | sendWarning t request answers => simp [TokenCall.decides]

omit [DecidableEq ι] in
/-- A save of the row as it is tells what it does. -/
theorem tells_saved {w after : TokenRace ι} {i : ι}
    (holds : HoldsCopy (calls i) (some w.row) (w.phases i))
    (reported : HasReported w.log i (w.phases i))
    (saves : ((calls i).advance w.row (w.phases i)).2.2 = some .saved)
    (made : after.row = (calls i).makes w.row) : Tells calls w after (i, .saved) where
  registers token := by
    rintro ⟨-, call⟩
    rw [TokenRace.tokens, made, mem_makes_iff]
    exact Or.inl (decides_eq_true_iff.mpr call)
  unregisters token := by
    rintro ⟨-, call⟩
    have call : calls i = .unregister token := call
    rw [TokenRace.tokens, made, mem_makes_iff, call]
    simp [TokenCall.decides]
  comesIn token here := by
    rw [TokenRace.tokens, made, mem_makes_iff] at here
    exact here.symm.imp And.right fun decides => ⟨rfl, decides_eq_true_iff.mp decides⟩
  goes token before := by
    rw [TokenRace.tokens, made, or_iff_not_imp_left]
    intro gone
    have decided := mt (mem_makes_iff (calls i) w.row token).mpr gone
    rw [not_or, not_and] at decided
    cases hcall : calls i with
    | register id userId registered =>
      rw [hcall] at decided
      by_cases same : token = registered
      · exact absurd (by simp [TokenCall.decides, same]) decided.1
      · exact absurd before (decided.2 (by simp [TokenCall.decides, same]))
    | unregister unregistered =>
      rw [hcall] at decided
      by_cases same : token = unregistered
      · exact Or.inl ⟨Or.inl rfl, by rw [hcall, same]⟩
      · exact absurd before (decided.2 (by simp [TokenCall.decides, same]))
    | sendWarning t request answers =>
      rw [hcall] at saves
      obtain ⟨config, stale, phase⟩ := purging_of_saved saves
      rw [phase] at holds reported
      obtain ⟨row, purged⟩ := holds
      have hrow : w.row = some config := Option.some.inj row
      rw [TokenRace.tokens, hrow] at before
      rw [hrow, purged, Option.map_some, Option.getD_some, storedTokens_purgedConfig,
        List.mem_filter, not_and] at gone
      have purges : token ∈ stale := by simpa using gone before
      exact Or.inr ⟨_, reported, stale, rfl, purges⟩

omit [DecidableEq ι] in
/-- An event that leaves the row tells so. -/
theorem tells_unsaved {w after : TokenRace ι} {entry : ι × TokenEvent} (same : after.row = w.row)
    (unsaved : entry.2 ≠ .saved) (absent : entry.2 = .absent → w.row = none) :
    Tells calls w after entry where
  registers _ registers := absurd registers.1 unsaved
  unregisters token unregisters := by
    rw [TokenRace.tokens, same, absent (unregisters.1.resolve_left unsaved)]
    simp
  comesIn token here := by
    rw [TokenRace.tokens, same] at here
    exact Or.inl here
  goes token before := by
    rw [TokenRace.tokens, same]
    exact Or.inl before

/-- As long as no call has saved between the read and the save of another, no token has been
lost or come back. -/
structure KeptSoFar (calls : ι → TokenCall) (row : Option NotificationConfigEntity)
    (w : TokenRace ι) : Prop where
  follows : FollowsTurns calls row w
  reported : ∀ i, HasReported w.log i (w.phases i)
  kept : Apart w.turns → TokensKept calls w

theorem KeptSoFar.step {row : Option NotificationConfigEntity} {w : TokenRace ι}
    (so_far : KeptSoFar calls row w) (i : ι) : KeptSoFar calls row (w.step calls i) := by
  have moved := advances (calls i) w.row (so_far.follows.copies i)
  have stepped : w.step calls i =
      ⟨((calls i).advance w.row (w.phases i)).2.1,
        Function.update w.phases i ((calls i).advance w.row (w.phases i)).1,
        w.log ++ (((calls i).advance w.row (w.phases i)).2.2.map (i, ·)).toList⟩ := rfl
  refine ⟨so_far.follows.step i, fun j => ?_, fun apart => ?_⟩
  · rw [stepped]
    dsimp only
    rcases eq_or_ne j i with rfl | hne
    · rw [Function.update_self]
      exact hasReported_advance (calls j) w.row (so_far.reported j)
    · rw [Function.update_of_ne hne]
      exact (so_far.reported j).mono (List.subset_append_left _ _)
  · have turns : (w.step calls i).turns = w.turns ++
        ((((calls i).advance w.row (w.phases i)).2.2.map (i, ·)).toList).filterMap tokenTurn := by
      rw [stepped, TokenRace.turns, List.filterMap_append]
      rfl
    rw [turns] at apart
    rw [stepped]
    generalize hadvance : (calls i).advance w.row (w.phases i) = advance at moved apart
    cases moved with
    | read phase holds =>
      have earlier := (apart_concat_iff.mp apart).1
      exact (so_far.kept earlier).concat rfl (tells_unsaved rfl (by simp) (by simp))
    | saved loaded saved hcopy hsaved =>
      obtain ⟨earlier, last⟩ := apart_concat_iff.mp apart
      have current : loaded = w.row :=
        (copy_eq_value hcopy (last i rfl).2).trans so_far.follows.value.symm
      have holds := so_far.follows.copies i
      rw [hcopy, current] at holds
      refine (so_far.kept earlier).concat rfl (tells_saved holds (so_far.reported i) ?_ ?_)
      · rw [hadvance]
      · rw [hsaved, current]
    | other phase event holds unread unsaved =>
      rw [no_turn unread unsaved, List.append_nil] at apart
      cases event with
      | none =>
        have kept : TokensKept calls ⟨w.row, Function.update w.phases i phase, w.log⟩ :=
          so_far.kept apart
        simpa only [Option.map_none, Option.toList_none, List.append_nil] using kept
      | some event =>
        refine (so_far.kept apart).concat rfl (tells_unsaved rfl ?_ fun absent => ?_)
        · exact fun saved => unsaved (congrArg some saved)
        · exact row_of_absent (by rw [hadvance, ← absent])

/-- If no call saves between the read and the save of another, no token is lost and none comes
back. -/
theorem tokens_kept_of_apart (row : Option NotificationConfigEntity) (sched : List ι)
    (apart : Apart (TokenRace.run calls row sched).turns) :
    TokensKept calls (TokenRace.run calls row sched) := by
  have start : KeptSoFar calls row (.start row) := by
    refine ⟨⟨rfl, fun _ => trivial⟩, fun _ => trivial, fun _ token => ⟨?_, ?_⟩⟩
    · rintro ⟨⟨before, entry, after, split, -⟩, -⟩
      exact absurd split (by simp [TokenRace.start])
    · rintro ⟨before, entry, after, split, -⟩
      exact absurd split (by simp [TokenRace.start])
  have so_far : KeptSoFar calls row (TokenRace.run calls row sched) :=
    Run.invariant (fun w i so_far => so_far.step i) start sched
  exact so_far.kept apart

end Race

/-! ### A registration during a send -/

/-- A warning, whose first token is stale, and the registration of another browser. -/
def warningAndBrowser : Bool → TokenCall
  | false => .sendWarning workingFirebase { userId := "u1", message := "Too hot" }
      (some fun token => if token = "token" then
        .rejected "messaging/registration-token-not-registered" else .accepted)
  | true => .register "n2" "u1" "browser"

/-- The warning has read the row when the browser registers, and then saves its purge. -/
theorem browser_lost : ¬ TokensKept warningAndBrowser
    (TokenRace.run warningAndBrowser (some linkedBrowser) [false, true, true, false, false]) := by
  intro kept
  have log : (TokenRace.run warningAndBrowser (some linkedBrowser)
      [false, true, true, false, false]).log =
        [(false, .read), (true, .read), (true, .saved), (false, .reported ["token"]),
          (false, .saved)] := by decide
  have lost : ((TokenRace.run warningAndBrowser (some linkedBrowser)
      [false, true, true, false, false]).row.map storedTokens).getD [] = [] := by decide
  have stored := (kept "browser").1
  rw [log, lost] at stored
  refine List.not_mem_nil (stored ⟨⟨[(false, .read), (true, .read)], (true, .saved), _, rfl,
    ⟨rfl, "n2", "u1", rfl⟩, ?_⟩, ?_⟩)
  · simp [Unregisters, warningAndBrowser]
  · simp [ReportsStale]

end AiotCloud
