import AiotCloud.Lib.Interleave
import AiotCloud.TopicCache

/-!
# The topic cache with lookups in flight

A lookup checks the cache, asks the database and stores the answer; an edit saves, clears
the cache inside its transaction if it carries `mqtt`, and commits. Any number of both run
at once.

1. `exec_lookup`, `exec_update`: alone, they do what the sequential model has them do.
2. `topic_cache_agrees_iff`: the entries of the cache agree with the committed rows exactly
   when, for the lookups whose entry was not cleared or replaced, no row's last edit after the
   query takes the answer away.
3. `topic_cache_agrees_of_apart`: they always do if no lookup queries between the clear and the
   commit of an edit, and no edit clears between the query of a lookup and its insert.
-/

namespace AiotCloud

open Interleave

/-! ## Saving and committing -/

/-- A save sends the columns in which the copy differs from the row it finds. They reach the
row at the commit. Only the columns that `updateDeviceConfig` assigns can differ. -/
def DeviceEntity.commitOver (seen saved row : DeviceEntity) : DeviceEntity :=
  { row with
    config := if saved.config = seen.config then row.config else saved.config
    pushChannel := if saved.pushChannel = seen.pushChannel then row.pushChannel
      else saved.pushChannel
    isActive := if saved.isActive = seen.isActive then row.isActive else saved.isActive
    warningOverrides := if saved.warningOverrides = seen.warningOverrides then row.warningOverrides
      else saved.warningOverrides
    offlineAlert := if saved.offlineAlert = seen.offlineAlert then row.offlineAlert
      else saved.offlineAlert
    alertRules := if saved.alertRules = seen.alertRules then row.alertRules else saved.alertRules
    failsafe := if saved.failsafe = seen.failsafe then row.failsafe else saved.failsafe
    configVersion := if saved.configVersion = seen.configVersion then row.configVersion
      else saved.configVersion }

theorem commitOver_applyConfigDto (dto : UpdateDeviceConfigDto) (device : DeviceEntity) :
    device.commitOver (applyConfigDto dto device) device = applyConfigDto dto device := by
  have kept : ∀ {α : Type} [DecidableEq α] (a b : α), (if a = b then b else a) = a := by
    intro α _ a b
    split_ifs with h
    · exact h.symm
    · rfl
  unfold DeviceEntity.commitOver
  simp only [kept]
  rfl

/-! ## The calls -/

/-- The committed rows and the cache. -/
structure CacheWorld where
  devices : List DeviceEntity
  registry : MqttTopicRegistry

inductive CacheStep where
  | check
  | query
  | recordHit (topic : String) (resolved : ResolvedMqttTopic)
  | recordMiss (now : Date) (topic : String)
  | readDevice
  | save
  | clear
  | commit (id : String) (seen saved : DeviceEntity)

/-- The committed rows after a step. -/
def committed (devices : List DeviceEntity) : CacheStep → List DeviceEntity
  | .commit id seen saved => Keyed.modify DeviceEntity.id id (seen.commitOver saved) devices
  | _ => devices

/-- The cache after a step. -/
def MqttTopicRegistry.after (registry : MqttTopicRegistry) : CacheStep → MqttTopicRegistry
  | .recordHit topic resolved => registry.recordHit topic resolved
  | .recordMiss now topic => registry.recordMiss now topic
  | .clear => registry.clear
  | _ => registry

def CacheWorld.act (w : CacheWorld) (l : CacheStep) : CacheWorld :=
  ⟨committed w.devices l, w.registry.after l⟩

inductive CacheResult where
  | dispatched (dispatch : Option Dispatch)
  | answered (answer : ResponseCore DeviceEntity)

/-- A `resolveCustomTopic` call, with the order its query gets the rows in, and the time at
its check and at its end. -/
structure LookupCall where
  rows : RowOrder
  checkedAt : Date
  missedAt : Date
  topic : String

structure UpdateCall where
  userId : String
  id : String
  dto : UpdateDeviceConfigDto

namespace LookupCall

/-- From the answer of the query on. -/
def insert (call : LookupCall) : Option (Option ResolvedMqttTopic) →
    Proc CacheWorld CacheStep CacheResult
  | none => pure (.dispatched none)
  | some none => do
    Proc.write (.recordMiss call.missedAt call.topic)
    pure (.dispatched none)
  | some (some resolved) => do
    Proc.write (.recordHit call.topic resolved)
    pure (.dispatched (dispatchByRole resolved))

/-- The answer of the query on the rows. -/
def answer (call : LookupCall) (devices : List DeviceEntity) : Option (Option ResolvedMqttTopic) :=
  resolveCustomMqttTopic (call.rows.order devices) call.topic

def ask (call : LookupCall) : Proc CacheWorld CacheStep CacheResult := do
  call.insert (← Proc.read .query fun w => call.answer w.devices)

def proc (call : LookupCall) : Proc CacheWorld CacheStep CacheResult := do
  let registry ← Proc.read .check (·.registry)
  match registry.get call.topic with
  | some cached => pure (.dispatched (dispatchByRole cached))
  | none =>
    if registry.isRecentMiss call.checkedAt call.topic then pure (.dispatched none)
    else call.ask

end LookupCall

/-- A call that carries `mqtt` clears the cache before its transaction commits. -/
def UpdateCall.proc (call : UpdateCall) : Proc CacheWorld CacheStep CacheResult := do
  match ← Proc.read .readDevice fun w => findOwnedDevice w.devices call.userId call.id with
  | none => pure (.answered (updateDeviceConfig call.dto none).1)
  | some device =>
    let seen ← Proc.read .save fun w => Keyed.find DeviceEntity.id call.id w.devices
    if call.dto.mqtt.isSome then Proc.write .clear
    Proc.write (.commit call.id (seen.getD device) (applyConfigDto call.dto device))
    pure (.answered (updateDeviceConfig call.dto (some device)).1)

inductive CacheCall where
  | lookup (call : LookupCall)
  | update (call : UpdateCall)

def CacheCall.proc : CacheCall → Proc CacheWorld CacheStep CacheResult
  | .lookup call => call.proc
  | .update call => call.proc

/-! ### Alone -/

theorem exec_lookup (call : LookupCall) (at_once : call.missedAt = call.checkedAt)
    (w : CacheWorld) :
    call.proc.exec CacheWorld.act w =
      (⟨w.devices, (resolveCustomTopic (call.rows.order w.devices) w.registry call.checkedAt
          call.topic).2⟩,
        .dispatched (resolveCustomTopic (call.rows.order w.devices) w.registry call.checkedAt
          call.topic).1) := by
  unfold LookupCall.proc resolveCustomTopic
  rw [Proc.read_bind, Proc.exec_step]
  cases hget : w.registry.get call.topic with
  | some cached => rfl
  | none =>
    cases hmiss : w.registry.isRecentMiss call.checkedAt call.topic with
    | true => rfl
    | false =>
      simp only [Bool.false_eq_true, if_false]
      unfold LookupCall.ask LookupCall.answer
      rw [Proc.read_bind, Proc.exec_step]
      show (call.insert (resolveCustomMqttTopic (call.rows.order w.devices) call.topic)).exec
        CacheWorld.act w = _
      cases resolveCustomMqttTopic (call.rows.order w.devices) call.topic with
      | none => rfl
      | some answer =>
        cases answer with
        | none =>
          rw [← at_once]
          rfl
        | some resolved => rfl

theorem exec_update (call : UpdateCall) {w : CacheWorld} (keys : Keys w.devices) :
    (call.proc.exec CacheWorld.act w).1 =
      ⟨afterUpdateConfig call.userId call.id call.dto w.devices,
        if (updateDeviceConfig call.dto (findOwnedDevice w.devices call.userId call.id)).2.2 then
          w.registry.clear
        else w.registry⟩ := by
  unfold UpdateCall.proc
  rw [Proc.read_bind, Proc.exec_step]
  cases hfind : findOwnedDevice w.devices call.userId call.id with
  | none =>
    rw [afterUpdateConfig_of_none hfind]
    rfl
  | some device =>
    obtain ⟨hdevice, hid, -⟩ := (findInScope_eq_some_iff keys).mp hfind
    have seen : Keyed.find DeviceEntity.id call.id w.devices = some device :=
      keys.ids.find_eq_some_iff.mpr ⟨hdevice, hid⟩
    have same : Keyed.modify DeviceEntity.id call.id
        (((Keyed.find DeviceEntity.id call.id w.devices).getD device).commitOver
          (applyConfigDto call.dto device)) w.devices =
        afterUpdateConfig call.userId call.id call.dto w.devices := by
      rw [afterUpdateConfig_of_some hfind, seen]
      refine List.map_congr_left fun row hrow => ?_
      split_ifs with h
      · obtain rfl := keys.ids.eq_of_key hrow hdevice (h.trans hid.symm)
        exact commitOver_applyConfigDto call.dto row
      · rfl
    rw [← same]
    unfold updateDeviceConfig
    cases call.dto.mqtt <;> rfl

/-! ## Whose entry stands -/

variable {ι : Type}

/-- Calls at their start, with an empty cache. -/
def cacheCalls (calls : ι → CacheCall) (devices : List DeviceEntity) :
    Sys ι CacheWorld CacheStep CacheResult :=
  ⟨⟨devices, .empty⟩, fun i => (calls i).proc⟩

/-- Every entry is what a lookup can return on the committed rows. -/
structure AllAgree (w : CacheWorld) : Prop where
  hits : ∀ topic cached, w.registry.get topic = some cached →
    CouldAnswer w.devices topic (some cached)
  misses : ∀ topic missedAt, w.registry.missedAt.lookup topic = some missedAt →
    CouldAnswer w.devices topic none

def nextHit (topic : String) (owner : Option ι) : ι × CacheStep → Option ι
  | (i, .recordHit topic' _) => if topic' = topic then some i else owner
  | (_, .clear) => none
  | _ => owner

/-- Who stored the mapping of the topic that is in the cache. -/
def hitBy (topic : String) (trace : List (ι × CacheStep)) : Option ι :=
  trace.foldl (nextHit topic) none

def nextMiss (topic : String) (owner : Option ι) : ι × CacheStep → Option ι
  | (_, .recordHit topic' _) => if topic' = topic then none else owner
  | (i, .recordMiss _ topic') => if topic' = topic then some i else owner
  | (_, .clear) => none
  | _ => owner

/-- Who stored the miss of the topic that is in the cache. -/
def missBy (topic : String) (trace : List (ι × CacheStep)) : Option ι :=
  trace.foldl (nextMiss topic) none

theorem hitBy_concat (topic : String) (trace : List (ι × CacheStep)) (x : ι × CacheStep) :
    hitBy topic (trace ++ [x]) = nextHit topic (hitBy topic trace) x := List.foldl_concat ..

theorem missBy_concat (topic : String) (trace : List (ι × CacheStep)) (x : ι × CacheStep) :
    missBy topic (trace ++ [x]) = nextMiss topic (missBy topic trace) x := List.foldl_concat ..

variable [DecidableEq ι]

/-- The step is the query of call `i`. -/
def isQuery (i : ι) : ι × CacheStep → Bool
  | (j, .query) => j = i
  | _ => false

/-- The state at the query of a call, and the steps after it. -/
def sinceQuery (devices : List DeviceEntity) (i : ι) (trace : List (ι × CacheStep)) :
    Option (CacheWorld × List (ι × CacheStep)) :=
  since CacheWorld.act (isQuery i) ⟨devices, .empty⟩ trace

/-- Lookup `i` got the answer for the topic. -/
def Answered (calls : ι → CacheCall) (devices : List DeviceEntity)
    (trace : List (ι × CacheStep)) (i : ι) (topic : String)
    (answer : Option ResolvedMqttTopic) : Prop :=
  ∃ call w later, calls i = .lookup call ∧ call.topic = topic ∧
    sinceQuery devices i trace = some (w, later) ∧ call.answer w.devices = some answer

/-- The row that a step writes. -/
def CacheStep.edited : CacheStep → Option String
  | .commit id _ _ => some id
  | _ => none

/-- An edit may leave the row so after a lookup has got the answer: it does not make the query
throw, the device that is named keeps the topic in its role, and after a miss none has it. -/
structure Bears (topic : String) (answer : Option ResolvedMqttTopic) (row : DeviceEntity) :
    Prop where
  queryable : row.pushChannel = .mqtt → matchesTopic row topic ≠ none
  named : ∀ resolved, answer = some resolved → row.deviceId = resolved.deviceId →
    row.pushChannel = .mqtt ∧ matchesTopic row topic = some true ∧
      answerOf row topic = some resolved
  unnamed : answer = none → row.pushChannel = .mqtt → matchesTopic row topic ≠ some true

/-- Of the edits of one row, the last one leaves it so that it bears the answer. -/
def EditsSpare (topic : String) (answer : Option ResolvedMqttTopic) (rows : List DeviceEntity)
    (steps : List CacheStep) : Prop :=
  ∀ before id seen saved after, steps = before ++ .commit id seen saved :: after →
    (∀ l ∈ after, l.edited ≠ some id) →
      ∀ row ∈ Run.exec committed rows before, row.id = id →
        Bears topic answer (seen.commitOver saved row)

/-- The edits that commit after the query of lookup `i` spare its answer. -/
def Spared (calls : ι → CacheCall) (devices : List DeviceEntity) (trace : List (ι × CacheStep))
    (i : ι) : Prop :=
  ∀ call w later answer, calls i = .lookup call → sinceQuery devices i trace = some (w, later) →
    call.answer w.devices = some answer →
      EditsSpare call.topic answer w.devices (later.map (·.2))

/-- The edits spare every lookup whose entry was not cleared or replaced. -/
def StandingSpared (calls : ι → CacheCall) (devices : List DeviceEntity)
    (trace : List (ι × CacheStep)) : Prop :=
  ∀ topic i, hitBy topic trace = some i ∨ missBy topic trace = some i →
    Spared calls devices trace i

/-! ## Where the calls stand -/

/-- A lookup, with what it has read. -/
inductive LookupAt (call : LookupCall) (read : Option (CacheWorld × List (ι × CacheStep)))
    (p : Proc CacheWorld CacheStep CacheResult) : Prop where
  | checking (unread : read = none) (stands : p = call.proc)
  | asking (unread : read = none) (stands : p = call.ask)
  | inserting (w : CacheWorld) (later : List (ι × CacheStep)) (hread : read = some (w, later))
      (stands : p = call.insert (call.answer w.devices))
  | done (result : CacheResult) (stands : p = .ret result)

def CacheStep.ofUpdate : CacheStep → Bool
  | .readDevice | .save | .clear | .commit .. => true
  | _ => false

def CallAt (call : CacheCall) (read : Option (CacheWorld × List (ι × CacheStep)))
    (p : Proc CacheWorld CacheStep CacheResult) : Prop :=
  match call with
  | .lookup call => LookupAt call read p
  | .update _ => p.Only (CacheStep.ofUpdate ·)

/-- What a step stores in the cache. -/
def CacheStep.stores : CacheStep → Option (String × Option ResolvedMqttTopic)
  | .recordHit topic resolved => some (topic, some resolved)
  | .recordMiss _ topic => some (topic, none)
  | _ => none

/-- Every entry is the answer that its owner got. -/
structure Owned (calls : ι → CacheCall) (devices : List DeviceEntity)
    (registry : MqttTopicRegistry) (trace : List (ι × CacheStep)) : Prop where
  hits : ∀ topic, (hitBy topic trace = none ∧ registry.get topic = none) ∨
    ∃ i resolved, hitBy topic trace = some i ∧ registry.get topic = some resolved ∧
      Answered calls devices trace i topic (some resolved)
  misses : ∀ topic, (missBy topic trace = none ∧ registry.missedAt.lookup topic = none) ∨
    ∃ i missedAt, missBy topic trace = some i ∧ registry.missedAt.lookup topic = some missedAt ∧
      Answered calls devices trace i topic none

section Steps

variable {calls : ι → CacheCall} {devices : List DeviceEntity} {registry : MqttTopicRegistry}
  {trace : List (ι × CacheStep)} {i : ι} {l : CacheStep}

theorem Answered.concat {topic : String} {answer : Option ResolvedMqttTopic}
    (h : Answered calls devices trace i topic answer) (x : ι × CacheStep) :
    Answered calls devices (trace ++ [x]) i topic answer := by
  obtain ⟨call, w, later, hcall, htopic, hsince, hanswer⟩ := h
  exact ⟨call, w, later ++ [x], hcall, htopic, since_concat_of_some hsince x, hanswer⟩

/-- The mappings of other topics stay, with their owners. -/
theorem Owned.hits_keep (h : Owned calls devices registry trace) {registry' : MqttTopicRegistry}
    {topic : String} {x : ι × CacheStep} (owner : nextHit topic (hitBy topic trace) x =
      hitBy topic trace) (entry : registry'.get topic = registry.get topic) :
    (hitBy topic (trace ++ [x]) = none ∧ registry'.get topic = none) ∨
      ∃ i resolved, hitBy topic (trace ++ [x]) = some i ∧ registry'.get topic = some resolved ∧
        Answered calls devices (trace ++ [x]) i topic (some resolved) := by
  rw [hitBy_concat, owner, entry]
  rcases h.hits topic with none | ⟨i, resolved, howner, hget, answered⟩
  · exact Or.inl none
  · exact Or.inr ⟨i, resolved, howner, hget, answered.concat x⟩

theorem Owned.misses_keep (h : Owned calls devices registry trace)
    {registry' : MqttTopicRegistry} {topic : String} {x : ι × CacheStep}
    (owner : nextMiss topic (missBy topic trace) x = missBy topic trace)
    (entry : registry'.missedAt.lookup topic = registry.missedAt.lookup topic) :
    (missBy topic (trace ++ [x]) = none ∧ registry'.missedAt.lookup topic = none) ∨
      ∃ i missedAt, missBy topic (trace ++ [x]) = some i ∧
        registry'.missedAt.lookup topic = some missedAt ∧
        Answered calls devices (trace ++ [x]) i topic none := by
  rw [missBy_concat, owner, entry]
  rcases h.misses topic with none | ⟨i, missedAt, howner, hmissed, answered⟩
  · exact Or.inl none
  · exact Or.inr ⟨i, missedAt, howner, hmissed, answered.concat x⟩

theorem Owned.recordHit (h : Owned calls devices registry trace) {topic : String}
    {resolved : ResolvedMqttTopic}
    (answered : Answered calls devices trace i topic (some resolved)) :
    Owned calls devices (registry.recordHit topic resolved)
      (trace ++ [(i, .recordHit topic resolved)]) where
  hits topic' := by
    rcases eq_or_ne topic topic' with rfl | hne
    · refine Or.inr ⟨i, resolved, ?_, Finmap.lookup_insert _, answered.concat _⟩
      rw [hitBy_concat]
      exact if_pos rfl
    · exact h.hits_keep (if_neg hne) (Finmap.lookup_insert_of_ne _ hne.symm)
  misses topic' := by
    rcases eq_or_ne topic topic' with rfl | hne
    · refine Or.inl ⟨?_, Finmap.lookup_erase _ _⟩
      rw [missBy_concat]
      exact if_pos rfl
    · exact h.misses_keep (if_neg hne) (Finmap.lookup_erase_ne hne.symm)

theorem Owned.recordMiss (h : Owned calls devices registry trace) {now : Date} {topic : String}
    (answered : Answered calls devices trace i topic none) :
    Owned calls devices (registry.recordMiss now topic)
      (trace ++ [(i, .recordMiss now topic)]) where
  hits topic' := h.hits_keep rfl rfl
  misses topic' := by
    rcases eq_or_ne topic topic' with rfl | hne
    · refine Or.inr ⟨i, now, ?_, Finmap.lookup_insert _, answered.concat _⟩
      rw [missBy_concat]
      exact if_pos rfl
    · exact h.misses_keep (if_neg hne) (Finmap.lookup_insert_of_ne _ hne.symm)

/-- What a step stores is the answer its call got, so the entries stay owned. -/
theorem Owned.step (h : Owned calls devices registry trace)
    (stores : ∀ topic answer, l.stores = some (topic, answer) →
      Answered calls devices trace i topic answer) :
    Owned calls devices (registry.after l) (trace ++ [(i, l)]) := by
  cases l with
  | recordHit topic resolved => exact h.recordHit (stores topic (some resolved) rfl)
  | recordMiss now topic => exact h.recordMiss (stores topic none rfl)
  | clear =>
    refine ⟨fun topic => Or.inl ⟨?_, rfl⟩, fun topic => Or.inl ⟨?_, rfl⟩⟩
    · rw [hitBy_concat]
      rfl
    · rw [missBy_concat]
      rfl
  | check | query | readDevice | save | commit =>
    exact ⟨fun topic => h.hits_keep rfl rfl, fun topic => h.misses_keep rfl rfl⟩

end Steps

/-! ## Runs -/

/-- Every call is where its reads have led it, and the entries are owned. -/
structure Underway (calls : ι → CacheCall) (devices : List DeviceEntity)
    (c : Sys ι CacheWorld CacheStep CacheResult) (trace : List (ι × CacheStep)) : Prop where
  shared : c.shared = Run.exec CacheWorld.act ⟨devices, .empty⟩ (trace.map (·.2))
  procs : ∀ i, CallAt (calls i) (sinceQuery devices i trace) (c.procs i)
  owned : Owned calls devices c.shared.registry trace

section Calls

variable {calls : ι → CacheCall} {devices : List DeviceEntity}

/-- A call that another one overtakes stands where it stood. -/
theorem CallAt.concat {call : CacheCall} {trace : List (ι × CacheStep)} {i : ι}
    {p : Proc CacheWorld CacheStep CacheResult} (h : CallAt call (sinceQuery devices i trace) p)
    {x : ι × CacheStep} (other : isQuery i x = false) :
    CallAt call (sinceQuery devices i (trace ++ [x])) p := by
  cases call with
  | update call => exact h
  | lookup call =>
    have unread : sinceQuery devices i trace = none →
        sinceQuery devices i (trace ++ [x]) = none := by
      intro hnone
      rw [sinceQuery, since_concat_of_none hnone, other]
      rfl
    cases h with
    | checking hnone stands => exact .checking (unread hnone) stands
    | asking hnone stands => exact .asking (unread hnone) stands
    | inserting w later hread stands =>
      exact .inserting w (later ++ [x]) (since_concat_of_some hread x) stands
    | done result stands => exact .done result stands

theorem LookupCall.proc_eq (call : LookupCall) : call.proc = .step .check fun w =>
    match w.registry.get call.topic with
    | some cached => .ret (.dispatched (dispatchByRole cached))
    | none =>
      if w.registry.isRecentMiss call.checkedAt call.topic then .ret (.dispatched none)
      else call.ask := by
  unfold LookupCall.proc
  rw [Proc.read_bind]
  congr 1

theorem LookupCall.ask_eq (call : LookupCall) :
    call.ask = .step .query fun w => call.insert (call.answer w.devices) := by
  unfold LookupCall.ask
  rw [Proc.read_bind]

theorem UpdateCall.only (call : UpdateCall) : call.proc.Only (CacheStep.ofUpdate ·) := by
  unfold UpdateCall.proc
  rw [Proc.read_bind]
  refine ⟨rfl, fun w => ?_⟩
  dsimp only
  cases findOwnedDevice w.devices call.userId call.id with
  | none => trivial
  | some device =>
    refine ⟨rfl, fun _ => ?_⟩
    dsimp only
    cases call.dto.mqtt.isSome with
    | true => exact ⟨rfl, fun _ => ⟨rfl, fun _ => trivial⟩⟩
    | false => exact ⟨rfl, fun _ => trivial⟩

variable {trace : List (ι × CacheStep)} {i : ι} {l : CacheStep}
  {k : CacheWorld → Proc CacheWorld CacheStep CacheResult} {w : CacheWorld}

theorem CacheStep.stores_of_ofUpdate (h : l.ofUpdate = true) : l.stores = none := by
  cases l with
  | readDevice | save | clear | commit => rfl
  | check | query | recordHit | recordMiss => cases h

/-- What a call stores is the answer it got. -/
theorem CallAt.stores (h : CallAt (calls i) (sinceQuery devices i trace) (.step l k))
    {topic : String} {answer : Option ResolvedMqttTopic}
    (stores : l.stores = some (topic, answer)) :
    Answered calls devices trace i topic answer := by
  cases hcall : calls i with
  | update call =>
    rw [hcall] at h
    exact absurd stores (by simp [CacheStep.stores_of_ofUpdate h.1])
  | lookup call =>
    rw [hcall] at h
    cases h with
    | checking unread stands =>
      rw [LookupCall.proc_eq] at stands
      obtain ⟨rfl, -⟩ := Proc.step.inj stands
      cases stores
    | asking unread stands =>
      rw [LookupCall.ask_eq] at stands
      obtain ⟨rfl, -⟩ := Proc.step.inj stands
      cases stores
    | inserting w later hread stands =>
      cases hanswer : call.answer w.devices with
      | none =>
        rw [hanswer] at stands
        cases stands
      | some got =>
        rw [hanswer] at stands
        have answered : Answered calls devices trace i call.topic got :=
          ⟨call, w, later, hcall, rfl, hread, hanswer⟩
        cases got with
        | none =>
          obtain ⟨rfl, -⟩ := Proc.step.inj stands
          cases stores
          exact answered
        | some resolved =>
          obtain ⟨rfl, -⟩ := Proc.step.inj stands
          cases stores
          exact answered
    | done result stands => cases stands

/-- A call that takes a step has read what the shared state was. -/
theorem CallAt.next (h : CallAt (calls i) (sinceQuery devices i trace) (.step l k))
    (shared : w = Run.exec CacheWorld.act ⟨devices, .empty⟩ (trace.map (·.2))) :
    CallAt (calls i) (sinceQuery devices i (trace ++ [(i, l)])) (k w) := by
  cases hcall : calls i with
  | update call =>
    rw [hcall] at h
    exact h.2 w
  | lookup call =>
    rw [hcall] at h
    cases h with
    | checking unread stands =>
      rw [LookupCall.proc_eq] at stands
      obtain ⟨rfl, rfl⟩ := Proc.step.inj stands
      have still : sinceQuery devices i (trace ++ [(i, .check)]) = none := by
        rw [sinceQuery, since_concat_of_none unread]
        rfl
      dsimp only
      cases w.registry.get call.topic with
      | some cached => exact .done _ rfl
      | none =>
        cases w.registry.isRecentMiss call.checkedAt call.topic with
        | true => exact .done _ rfl
        | false => exact .asking still rfl
    | asking unread stands =>
      rw [LookupCall.ask_eq] at stands
      obtain ⟨rfl, rfl⟩ := Proc.step.inj stands
      refine .inserting w [] ?_ rfl
      rw [sinceQuery, since_concat_of_none unread, ← shared]
      simp [isQuery]
    | inserting w' later hread stands =>
      cases hanswer : call.answer w'.devices with
      | none =>
        rw [hanswer] at stands
        cases stands
      | some got =>
        rw [hanswer] at stands
        cases got with
        | none =>
          obtain ⟨rfl, rfl⟩ := Proc.step.inj stands
          exact .done _ rfl
        | some resolved =>
          obtain ⟨rfl, rfl⟩ := Proc.step.inj stands
          exact .done _ rfl
    | done result stands => cases stands

theorem underway_run (calls : ι → CacheCall) (devices : List DeviceEntity) (sched : List ι) :
    Underway calls devices ((cacheCalls calls devices).run CacheWorld.act sched)
      ((cacheCalls calls devices).trace CacheWorld.act sched) := by
  refine Sys.run_trace_invariant (fun c trace i l k h hstep => ?_) ?_ sched
  · have stands := h.procs i
    rw [hstep] at stands
    rw [Sys.fire_of_step _ hstep]
    refine ⟨?_, fun j => ?_, ?_⟩
    · rw [List.map_append, Run.exec_append, ← h.shared]
      rfl
    · rcases eq_or_ne j i with rfl | hne
      · simp only [Function.update_self]
        exact stands.next h.shared
      · simp only [Function.update_of_ne hne]
        refine (h.procs j).concat ?_
        cases l <;> simp [isQuery, hne.symm]
    · exact h.owned.step fun topic answer stores => stands.stores stores
  · refine ⟨rfl, fun i => ?_, fun topic => Or.inl ⟨rfl, rfl⟩, fun topic => Or.inl ⟨rfl, rfl⟩⟩
    show CallAt (calls i) none (calls i).proc
    cases calls i with
    | lookup call => exact .checking rfl rfl
    | update call => exact call.only

/-! ## Agreement -/

theorem devices_exec (w : CacheWorld) (ls : List CacheStep) :
    (Run.exec CacheWorld.act w ls).devices = Run.exec committed w.devices ls := by
  induction ls generalizing w with
  | nil => rfl
  | cons l ls ih => exact ih (w.act l)

/-- The committed rows are the rows a query saw, after the edits that committed since. -/
theorem Underway.devices_since {c : Sys ι CacheWorld CacheStep CacheResult}
    (h : Underway calls devices c trace) {later : List (ι × CacheStep)}
    (hsince : sinceQuery devices i trace = some (w, later)) :
    c.shared.devices = Run.exec committed w.devices (later.map (·.2)) := by
  obtain ⟨⟨j, l⟩, hquery, hexec⟩ := exec_of_since hsince
  rw [h.shared, hexec, devices_exec, Run.exec_cons]
  cases l with
  | query => rfl
  | _ => cases hquery

/-- What can be answered, row by row. -/
theorem couldAnswer_iff_bears {rows : List DeviceEntity} (keys : Keys rows) {topic : String}
    {answer : Option ResolvedMqttTopic}
    (present : ∀ resolved, answer = some resolved →
      ∃ row ∈ rows, row.deviceId = resolved.deviceId) :
    CouldAnswer rows topic answer ↔ ∀ row ∈ rows, Bears topic answer row := by
  cases answer with
  | none =>
    rw [couldAnswer_none_iff]
    constructor
    · rintro ⟨queryable, unselected⟩ row hrow
      exact ⟨queryable row hrow, nofun, fun _ push stores => unselected row hrow ⟨push, stores⟩⟩
    · intro bears
      exact ⟨fun row hrow => (bears row hrow).queryable,
        fun row hrow selected => (bears row hrow).unnamed rfl selected.1 selected.2⟩
  | some resolved =>
    rw [couldAnswer_some_iff]
    constructor
    · rintro ⟨queryable, device, hdevice, selected, answers⟩ row hrow
      refine ⟨queryable row hrow, ?_, nofun⟩
      rintro _ ⟨⟩ named
      have same := named.trans (deviceId_of_answerOf answers)
      obtain rfl := keys.deviceIds.eq_of_key hrow hdevice same
      exact ⟨selected.1, selected.2, answers⟩
    · intro bears
      obtain ⟨device, hdevice, named⟩ := present resolved rfl
      obtain ⟨push, stores, answers⟩ := (bears device hdevice).named resolved rfl named
      exact ⟨fun row hrow => (bears row hrow).queryable, device, hdevice, ⟨push, stores⟩, answers⟩

section Edits

variable {rows : List DeviceEntity} {topic : String} {answer : Option ResolvedMqttTopic}

/-- No device comes or goes. -/
theorem deviceIds_committed (rows : List DeviceEntity) (l : CacheStep) :
    (committed rows l).map (·.deviceId) = rows.map (·.deviceId) := by
  cases l with
  | commit id seen saved =>
    show (Keyed.modify DeviceEntity.id id (seen.commitOver saved) rows).map _ = _
    exact Keyed.map_modify fun _ _ _ => rfl
  | _ => rfl

theorem deviceIds_exec_committed (ls : List CacheStep) :
    (Run.exec committed rows ls).map (·.deviceId) = rows.map (·.deviceId) := by
  have keeps : ∀ rows' l, rows'.map (·.deviceId) = rows.map (·.deviceId) →
      (committed rows' l).map (·.deviceId) = rows.map (·.deviceId) :=
    fun rows' l same => (deviceIds_committed rows' l).trans same
  exact Run.invariant keeps rfl ls

theorem keys_committed (keys : Keys rows) (l : CacheStep) : Keys (committed rows l) := by
  refine ⟨?_, (congrArg List.Nodup (deviceIds_committed rows l)).mpr keys.deviceIds⟩
  cases l with
  | commit id seen saved => exact keys.ids.modify fun _ _ _ => rfl
  | _ => exact keys.ids

theorem keys_exec_committed (keys : Keys rows) (ls : List CacheStep) :
    Keys (Run.exec committed rows ls) := by
  have keeps : ∀ rows l, Keys rows → Keys (committed rows l) := fun _ l keys =>
    keys_committed keys l
  exact Run.invariant keeps keys ls

/-- Only an edit of the row changes it. -/
theorem mem_committed_of_ne {id : String} {l : CacheStep} (other : l.edited ≠ some id)
    {row : DeviceEntity} (hid : row.id = id) : row ∈ committed rows l ↔ row ∈ rows := by
  cases l with
  | commit id' seen saved =>
    have ne : id' ≠ id := fun same => other (congrArg some same)
    refine Keyed.mem_modify_iff.trans
      ⟨?_, fun hrow => Or.inr ⟨hrow, fun h => ne (h.symm.trans hid)⟩⟩
    rintro (⟨old, -, key, rfl⟩ | ⟨hrow, -⟩)
    · exact absurd (key.symm.trans hid) ne
    · exact hrow
  | _ => exact Iff.rfl

/-- A row that bore the answer does so after some steps exactly if its last edit lets it. -/
theorem bears_exec_iff (bears : ∀ row ∈ rows, Bears topic answer row) (id : String)
    (ls : List CacheStep) :
    (∀ row ∈ Run.exec committed rows ls, row.id = id → Bears topic answer row) ↔
      ∀ before seen saved after, ls = before ++ .commit id seen saved :: after →
        (∀ l ∈ after, l.edited ≠ some id) →
          ∀ row ∈ Run.exec committed rows before, row.id = id →
            Bears topic answer (seen.commitOver saved row) := by
  induction ls using List.reverseRecOn with
  | nil =>
    exact iff_of_true (fun row hrow _ => bears row hrow) fun before _ _ _ h => by simp at h
  | append_singleton ls l ih =>
    rw [Run.exec_append, Run.exec_cons, Run.exec_nil]
    by_cases edit : l.edited = some id
    · obtain ⟨seen, saved, rfl⟩ : ∃ seen saved, l = .commit id seen saved := by
        cases l with
        | commit id' seen saved =>
          obtain rfl := Option.some.inj edit
          exact ⟨seen, saved, rfl⟩
        | _ => cases edit
      constructor
      · intro after before seen' saved' rest split quiet row hrow hid
        -- an edit with none after it is this one
        rcases List.eq_nil_or_concat rest with rfl | ⟨rest, last, rfl⟩
        · obtain ⟨rfl, same⟩ := List.append_inj' split rfl
          cases same
          exact after _ (Keyed.mem_modify_iff.mpr (Or.inl ⟨row, hrow, hid, rfl⟩)) hid
        · rw [List.concat_eq_append, ← List.cons_append, ← List.append_assoc] at split
          obtain ⟨-, same⟩ := List.append_inj' split rfl
          obtain rfl := List.singleton_inj.mp same
          exact absurd rfl (quiet (.commit id seen saved) (by simp))
      · intro last row hrow hid
        rcases Keyed.mem_modify_iff.mp hrow with ⟨old, hold, key, rfl⟩ | ⟨-, other⟩
        · exact last ls seen saved [] rfl (by simp) old hold key
        · exact absurd hid other
    · have same : (∀ row ∈ committed (Run.exec committed rows ls) l, row.id = id →
          Bears topic answer row) ↔
            ∀ row ∈ Run.exec committed rows ls, row.id = id → Bears topic answer row :=
        forall_congr' fun row =>
          ⟨fun h hrow hid => h ((mem_committed_of_ne edit hid).mpr hrow) hid,
            fun h hrow hid => h ((mem_committed_of_ne edit hid).mp hrow) hid⟩
      rw [same, ih]
      constructor
      · intro last before seen saved after split quiet
        rcases List.eq_nil_or_concat after with rfl | ⟨after, x, rfl⟩
        · obtain ⟨-, same⟩ := List.append_inj' split rfl
          cases same
          exact absurd rfl edit
        · rw [List.concat_eq_append, ← List.cons_append, ← List.append_assoc] at split
          obtain ⟨rfl, -⟩ := List.append_inj' split rfl
          exact last before seen saved after rfl fun l hl => quiet l (by simp [hl])
      · intro last before seen saved after split quiet
        refine last before seen saved (after ++ [l]) (by simp [split]) fun x hx => ?_
        rcases List.mem_append.mp hx with hx | hx
        · exact quiet x hx
        · obtain rfl := List.mem_singleton.mp hx
          exact edit

theorem editsSpare_iff (bears : ∀ row ∈ rows, Bears topic answer row) (ls : List CacheStep) :
    EditsSpare topic answer rows ls ↔
      ∀ row ∈ Run.exec committed rows ls, Bears topic answer row := by
  constructor
  · intro spared row hrow
    exact (bears_exec_iff bears row.id ls).mpr
      (fun before seen saved after => spared before row.id seen saved after) row hrow rfl
  · intro borne before id seen saved after
    exact (bears_exec_iff bears id ls).mp (fun row hrow _ => borne row hrow)
      before seen saved after

/-- An answer that was right is so after some steps exactly if they spare it. -/
theorem couldAnswer_exec_iff (keys : Keys rows) (could : CouldAnswer rows topic answer)
    (ls : List CacheStep) :
    CouldAnswer (Run.exec committed rows ls) topic answer ↔ EditsSpare topic answer rows ls := by
  have present : ∀ resolved, answer = some resolved →
      ∃ row ∈ rows, row.deviceId = resolved.deviceId := by
    rintro resolved rfl
    obtain ⟨-, device, hdevice, -, answers⟩ := couldAnswer_some_iff.mp could
    exact ⟨device, hdevice, (deviceId_of_answerOf answers).symm⟩
  have still : ∀ resolved, answer = some resolved →
      ∃ row ∈ Run.exec committed rows ls, row.deviceId = resolved.deviceId := by
    intro resolved got
    obtain ⟨row, hrow, named⟩ := present resolved got
    have there : resolved.deviceId ∈ (Run.exec committed rows ls).map (·.deviceId) := by
      rw [deviceIds_exec_committed, ← named]
      exact List.mem_map_of_mem hrow
    exact List.mem_map.mp there
  rw [couldAnswer_iff_bears (keys_exec_committed keys ls) still]
  exact (editsSpare_iff ((couldAnswer_iff_bears keys present).mp could) ls).symm

end Edits

/-- The entry of a lookup is right now exactly if the edits spared it. -/
theorem Underway.couldAnswer_iff {c : Sys ι CacheWorld CacheStep CacheResult} (keys : Keys devices)
    (h : Underway calls devices c trace) {topic : String} {answer : Option ResolvedMqttTopic}
    (answered : Answered calls devices trace i topic answer) :
    CouldAnswer c.shared.devices topic answer ↔ Spared calls devices trace i := by
  obtain ⟨call, w, later, hcall, rfl, hsince, hanswer⟩ := answered
  have stored : Keys w.devices := by
    obtain ⟨pre, x, -, -, rfl⟩ := split_of_since hsince
    rw [devices_exec]
    exact keys_exec_committed keys _
  have could : CouldAnswer w.devices call.topic answer :=
    ⟨call.rows.order w.devices, call.rows.perm w.devices, hanswer⟩
  rw [h.devices_since hsince, couldAnswer_exec_iff stored could]
  constructor
  · intro spared call' w' later' answer' hcall' hsince' hanswer'
    obtain rfl := CacheCall.lookup.inj (hcall.symm.trans hcall')
    obtain ⟨rfl, rfl⟩ := Prod.mk.inj (Option.some.inj (hsince.symm.trans hsince'))
    obtain rfl := Option.some.inj (hanswer.symm.trans hanswer')
    exact spared
  · exact fun spared => spared call w later answer hcall hsince hanswer

/-- The entries agree with the committed rows exactly when the edits spare those that stand. -/
theorem Underway.allAgree_iff {c : Sys ι CacheWorld CacheStep CacheResult} (keys : Keys devices)
    (h : Underway calls devices c trace) :
    AllAgree c.shared ↔ StandingSpared calls devices trace := by
  constructor
  · rintro agree topic i (hit | miss)
    · rcases h.owned.hits topic with ⟨none, -⟩ | ⟨j, resolved, owner, hget, answered⟩
      · exact absurd (none.symm.trans hit) (by simp)
      · obtain rfl := Option.some.inj (owner.symm.trans hit)
        exact (h.couldAnswer_iff keys answered).mp (agree.hits topic resolved hget)
    · rcases h.owned.misses topic with ⟨none, -⟩ | ⟨j, missedAt, owner, hmissed, answered⟩
      · exact absurd (none.symm.trans miss) (by simp)
      · obtain rfl := Option.some.inj (owner.symm.trans miss)
        exact (h.couldAnswer_iff keys answered).mp (agree.misses topic missedAt hmissed)
  · intro spared
    refine ⟨fun topic cached hcached => ?_, fun topic missedAt hmissedAt => ?_⟩
    · rcases h.owned.hits topic with ⟨-, none⟩ | ⟨i, resolved, owner, hget, answered⟩
      · exact absurd (none.symm.trans hcached) (by simp)
      · obtain rfl := Option.some.inj (hget.symm.trans hcached)
        exact (h.couldAnswer_iff keys answered).mpr (spared topic i (Or.inl owner))
    · rcases h.owned.misses topic with ⟨-, none⟩ | ⟨i, missed, owner, -, answered⟩
      · exact absurd (none.symm.trans hmissedAt) (by simp)
      · exact (h.couldAnswer_iff keys answered).mpr (spared topic i (Or.inr owner))

/-- Under any schedule of lookups and edits, the cache agrees with the committed rows exactly
when the edits spare every lookup whose entry stands. -/
theorem topic_cache_agrees_iff (calls : ι → CacheCall) {devices : List DeviceEntity}
    (keys : Keys devices) (sched : List ι) :
    AllAgree ((cacheCalls calls devices).run CacheWorld.act sched).shared ↔
      StandingSpared calls devices ((cacheCalls calls devices).trace CacheWorld.act sched) :=
  (underway_run calls devices sched).allAgree_iff keys

end Calls

/-! ## Lookups and edits apart -/

/-- A process that commits has cleared the cache before. -/
def ClearsFirst : Proc CacheWorld CacheStep CacheResult → Prop
  | .ret _ => True
  | .step .clear _ => True
  | .step (.commit ..) _ => False
  | .step _ k => ∀ w, ClearsFirst (k w)

theorem LookupCall.clearsFirst (call : LookupCall) : ClearsFirst call.proc := by
  rw [LookupCall.proc_eq]
  intro w
  dsimp only
  cases w.registry.get call.topic with
  | some cached => trivial
  | none =>
    cases w.registry.isRecentMiss call.checkedAt call.topic with
    | true => trivial
    | false =>
      show ClearsFirst call.ask
      rw [LookupCall.ask_eq]
      intro w
      show ClearsFirst (call.insert (call.answer w.devices))
      rcases call.answer w.devices with _ | _ | resolved
      · trivial
      · exact fun _ => trivial
      · exact fun _ => trivial

theorem UpdateCall.clearsFirst {call : UpdateCall} (carries : call.dto.mqtt.isSome = true) :
    ClearsFirst call.proc := by
  unfold UpdateCall.proc
  rw [Proc.read_bind]
  intro w
  dsimp only
  cases findOwnedDevice w.devices call.userId call.id with
  | none => trivial
  | some device =>
    intro w
    simp only [carries, if_true]
    trivial

section Apart

variable {calls : ι → CacheCall} {devices : List DeviceEntity} {trace : List (ι × CacheStep)}

/-- An insert has no clear between its query and itself, and a commit no query between its clear
and itself. -/
def KeepsApart (trace : List (ι × CacheStep)) : ι × CacheStep → Prop
  | (i, .recordHit ..) | (i, .recordMiss ..) =>
    ∀ before later, trace = before ++ (i, .query) :: later → ∀ x ∈ later, x.2 ≠ .clear
  | (i, .commit ..) =>
    ∀ before later, trace = before ++ (i, .clear) :: later → ∀ x ∈ later, x.2 ≠ .query
  | _ => True

def SpansApart (trace : List (ι × CacheStep)) : Prop :=
  ∀ before x after, trace = before ++ x :: after → KeepsApart before x

omit [DecidableEq ι] in
theorem SpansApart.of_concat {x : ι × CacheStep} (apart : SpansApart (trace ++ [x])) :
    SpansApart trace ∧ KeepsApart trace x :=
  ⟨fun before y after split => apart before y (after ++ [x]) (by simp [split]),
    apart trace x [] rfl⟩

/-- While the spans are apart, no edit has committed since the query of a lookup without a clear
in between, and the cache was not cleared since the query of a lookup whose entry stands. -/
structure Separate (devices : List DeviceEntity) (c : Sys ι CacheWorld CacheStep CacheResult)
    (trace : List (ι × CacheStep)) : Prop where
  cleared : ∀ j, (j, .clear) ∈ trace ∨ ClearsFirst (c.procs j)
  unedited : SpansApart trace → ∀ i w later, sinceQuery devices i trace = some (w, later) →
    (∀ x ∈ later, x.2 ≠ .clear) → ∀ x ∈ later, x.2.edited = none
  standing : SpansApart trace → ∀ topic i,
    hitBy topic trace = some i ∨ missBy topic trace = some i →
      ∀ w later, sinceQuery devices i trace = some (w, later) → ∀ x ∈ later, x.2 ≠ .clear

/-- The query of a lookup, and what came after it. -/
theorem split_of_sinceQuery {i : ι} {w : CacheWorld} {later : List (ι × CacheStep)}
    (h : sinceQuery devices i trace = some (w, later)) :
    ∃ before, trace = before ++ (i, .query) :: later := by
  obtain ⟨before, ⟨j, l⟩, split, query, -⟩ := split_of_since h
  cases l with
  | query =>
    obtain rfl : j = i := by simpa [isQuery] using query
    exact ⟨before, split⟩
  | _ => cases query

/-- One step later, the steps since a query are those before and this one, or none. -/
theorem sinceQuery_concat_cases {x : ι × CacheStep} {i : ι} {w : CacheWorld}
    {later : List (ι × CacheStep)} (h : sinceQuery devices i (trace ++ [x]) = some (w, later)) :
    (∃ later', sinceQuery devices i trace = some (w, later') ∧ later = later' ++ [x]) ∨
      later = [] := by
  cases before : sinceQuery devices i trace with
  | none =>
    rw [sinceQuery, since_concat_of_none before, Option.ite_none_right_eq_some,
      Option.some_inj] at h
    exact Or.inr (Prod.mk.inj h.2).2.symm
  | some read =>
    obtain ⟨w', later'⟩ := read
    rw [sinceQuery, since_concat_of_some before, Option.some_inj] at h
    obtain ⟨rfl, rfl⟩ := Prod.mk.inj h
    exact Or.inl ⟨later', rfl, rfl⟩

omit [DecidableEq ι] in
/-- Whose entry stands after a step: one that stood before, or the one that the step stores. -/
theorem stands_concat_cases {topic : String} {i j : ι} {l : CacheStep}
    (h : hitBy topic (trace ++ [(j, l)]) = some i ∨ missBy topic (trace ++ [(j, l)]) = some i) :
    l ≠ .clear ∧ ((hitBy topic trace = some i ∨ missBy topic trace = some i) ∨
      i = j ∧ l.stores ≠ none) := by
  rw [hitBy_concat, missBy_concat] at h
  cases l with
  | clear => exact absurd h (by simp [nextHit, nextMiss])
  | recordHit topic' resolved =>
    refine ⟨by simp, ?_⟩
    simp only [nextHit, nextMiss] at h
    split_ifs at h with same
    · rcases h with h | h
      · exact Or.inr ⟨(Option.some.inj h).symm, by simp [CacheStep.stores]⟩
      · cases h
    · exact Or.inl h
  | recordMiss now topic' =>
    refine ⟨by simp, ?_⟩
    simp only [nextHit, nextMiss] at h
    split_ifs at h with same
    · rcases h with h | h
      · exact Or.inl (Or.inl h)
      · exact Or.inr ⟨(Option.some.inj h).symm, by simp [CacheStep.stores]⟩
    · exact Or.inl h
  | check | query | readDevice | save | commit => exact ⟨by simp, Or.inl h⟩

omit [DecidableEq ι] in
/-- An edit that cleared before the query of a lookup does not commit after it. -/
theorem KeepsApart.clears_late {i j : ι} {id : String} {seen saved : DeviceEntity}
    (keeps : KeepsApart trace (j, .commit id seen saved)) (cleared : (j, .clear) ∈ trace)
    {before later : List (ι × CacheStep)} (split : trace = before ++ (i, .query) :: later) :
    (j, .clear) ∈ later := by
  rw [split] at cleared
  rcases List.mem_append.mp cleared with early | late
  · obtain ⟨pre, mid, rfl⟩ := List.append_of_mem early
    have between := keeps pre (mid ++ (i, .query) :: later) (by simp [split])
    exact absurd rfl (between (i, .query) (by simp))
  · rcases List.mem_cons.mp late with query | late
    · cases query
    · exact late

theorem Separate.step {c : Sys ι CacheWorld CacheStep CacheResult}
    (h : Separate devices c trace) {j : ι} {l : CacheStep}
    {k : CacheWorld → Proc CacheWorld CacheStep CacheResult} (stands : c.procs j = .step l k) :
    Separate devices (c.fire CacheWorld.act j) (trace ++ [(j, l)]) := by
  refine ⟨fun i => ?_, fun apart i w later hsince unclear => ?_,
    fun apart topic i owner w later hsince => ?_⟩
  · rw [Sys.fire_of_step _ stands]
    rcases h.cleared i with cleared | first
    · exact Or.inl (List.mem_append_left _ cleared)
    · rcases eq_or_ne i j with rfl | hne
      · rw [stands] at first
        simp only [Function.update_self]
        cases l with
        | clear => exact Or.inl (by simp)
        | commit id seen saved => exact first.elim
        | check | query | recordHit | recordMiss | readDevice | save =>
          exact Or.inr (first c.shared)
      · simp only [Function.update_of_ne hne]
        exact Or.inr first
  · obtain ⟨earlier, keeps⟩ := apart.of_concat
    rcases sinceQuery_concat_cases hsince with ⟨later, read, rfl⟩ | rfl
    · intro x hx
      have unclear' : ∀ x ∈ later, x.2 ≠ .clear := fun x hx => unclear x (by simp [hx])
      rcases List.mem_append.mp hx with hx | hx
      · exact h.unedited earlier i w later read unclear' x hx
      · obtain rfl := List.mem_singleton.mp hx
        cases l with
        | commit id seen saved =>
          have cleared := (h.cleared j).resolve_right fun first => by rwa [stands] at first
          obtain ⟨before, split⟩ := split_of_sinceQuery read
          exact absurd rfl (unclear' _ (keeps.clears_late cleared split))
        | _ => rfl
    · intro x hx
      cases hx
  · obtain ⟨earlier, keeps⟩ := apart.of_concat
    obtain ⟨unclear, owner⟩ := stands_concat_cases owner
    rcases sinceQuery_concat_cases hsince with ⟨later, read, rfl⟩ | rfl
    · have quiet : ∀ x ∈ later, x.2 ≠ .clear := by
        rcases owner with owner | ⟨rfl, stores⟩
        · exact h.standing earlier topic i owner w later read
        · obtain ⟨before, split⟩ := split_of_sinceQuery read
          cases l with
          | recordHit | recordMiss => exact keeps before later split
          | _ => exact absurd rfl stores
      intro x hx
      rcases List.mem_append.mp hx with hx | hx
      · exact quiet x hx
      · obtain rfl := List.mem_singleton.mp hx
        exact unclear
    · intro x hx
      cases hx

/-- If all edits carry `mqtt`, no lookup queries between the clear and the commit of an edit and
no edit clears between the query of a lookup and its insert, then the entries agree with the
committed rows. -/
theorem topic_cache_agrees_of_apart (keys : Keys devices)
    (carry : ∀ i call, calls i = .update call → call.dto.mqtt.isSome = true) (sched : List ι)
    (apart : SpansApart ((cacheCalls calls devices).trace CacheWorld.act sched)) :
    AllAgree ((cacheCalls calls devices).run CacheWorld.act sched).shared := by
  have separate : Separate devices ((cacheCalls calls devices).run CacheWorld.act sched)
      ((cacheCalls calls devices).trace CacheWorld.act sched) := by
    refine Sys.run_trace_invariant (fun c trace i l k h stands => h.step stands)
      ⟨fun i => Or.inr ?_, ?_, ?_⟩ sched
    · show ClearsFirst (calls i).proc
      cases hcall : calls i with
      | lookup call => exact call.clearsFirst
      | update call => exact UpdateCall.clearsFirst (carry i call hcall)
    · rintro - i w later ⟨⟩
    · rintro - topic i - w later ⟨⟩
  refine ((underway_run calls devices sched).allAgree_iff keys).mpr fun topic i owner => ?_
  intro call w later answer hcall hsince hanswer before id seen saved after split
  have unedited := separate.unedited apart i w later hsince
    (separate.standing apart topic i owner w later hsince)
  -- no edit has committed since the query
  have commits : CacheStep.commit id seen saved ∈ later.map (·.2) := by simp [split]
  obtain ⟨x, hx, same⟩ := List.mem_map.mp commits
  have none := unedited x hx
  rw [same] at none
  cases none

end Apart

/-! ### A lookup around an edit -/

/-- A lookup on the override of `lineA`, and an edit of its MQTT section. -/
def lookupAndEdit (mqtt : Option DeviceMqttConfig) : Bool → CacheCall
  | true => .lookup ⟨⟨id, fun devices => List.Perm.refl devices⟩, 0, 0, "plant"⟩
  | false => .update ⟨"u1", "a", { mqtt := some mqtt }⟩

/-- The query, all of the edit, and then the insert. -/
def editBetween : List Bool := [true, true, false, false, false, false, true]

/-- Another status topic. -/
def plantStatus : DeviceMqttConfig :=
  { broker := "localhost", port := 1883, username := none, password := none
    topics := { telemetryOn "plant" none with status := some "plant/status" } }

/-- The edit keeps the override, so that the lookup may store it afterwards. -/
theorem topic_cache_agrees_iff_kept :
    AllAgree ((cacheCalls (lookupAndEdit (some plantStatus)) [lineA]).run CacheWorld.act
      editBetween).shared := by
  refine (topic_cache_agrees_iff (lookupAndEdit (some plantStatus)) lineA_keys editBetween).mpr ?_
  rintro topic (_ | _) - call w later answer ⟨⟩ hsince hanswer
  obtain ⟨rfl, rfl⟩ := Prod.mk.inj (Option.some.inj hsince)
  obtain rfl : some ⟨"a", .telemetry⟩ = answer := Option.some.inj hanswer
  have bears (row : DeviceEntity) (push : row.pushChannel = .mqtt)
      (stores : matchesTopic row "plant" = some true)
      (answers : answerOf row "plant" = some ⟨"a", .telemetry⟩) :
      Bears "plant" (some ⟨"a", .telemetry⟩) row :=
    ⟨fun _ => by simp [stores], fun _ same _ => ⟨push, stores, answers.trans same⟩, nofun⟩
  refine (editsSpare_iff ?_ _).mpr ?_
  · intro row hrow
    obtain rfl := List.mem_singleton.mp hrow
    exact bears lineA rfl rfl rfl
  · intro row hrow
    obtain rfl := List.mem_singleton.mp hrow
    exact bears _ rfl rfl rfl

/-- The lookup stores what it read after the edit has cleared the cache and committed. -/
theorem topic_cache_disagrees :
    ((cacheCalls (lookupAndEdit none) [lineA]).run CacheWorld.act editBetween).Finished ∧
      ¬ AllAgree ((cacheCalls (lookupAndEdit none) [lineA]).run CacheWorld.act
        editBetween).shared := by
  refine ⟨?_, fun agree => ?_⟩
  · rintro (_ | _) <;> exact ⟨_, rfl⟩
  · have could := agree.hits "plant" ⟨"a", .telemetry⟩ (by decide)
    obtain ⟨-, device, hdevice, ⟨-, stores⟩, -⟩ := couldAnswer_some_iff.mp could
    obtain rfl := List.mem_singleton.mp hdevice
    exact absurd stores (by decide)

end AiotCloud
