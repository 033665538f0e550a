import AiotCloud.ActionDispatch
import AiotCloud.Lib.Run

/-!
# The optimistic channel state

A command is announced as done before the device has answered it: in the process
for an MQTT-push device, and by a self-published event. Announcements and the
device's own answer go through `handleDeviceChannelEvent`, one after the other,
in any order of the two sources.

1. `channelState_consume`: a channel shows the value of the last successful
   event that names it.
2. `authoritative_wins_iff`: when the answer decides what the channel shows.
   A confirmed value is shown if nothing announced comes after the answer, a
   reported error only if nothing was announced at all, or if in either case
   the values happen to agree.
-/

namespace AiotCloud

/-! ## Consuming channel events -/

/-- The row after one event; the event carries the time it is handled at. -/
def consumeEvent (device : DeviceEntity) (m : Date × DeviceChannelEventPayload) : DeviceEntity :=
  (handleDeviceChannelEvent m.1 device.deviceId m.2 (some device)).row device

/-- The row after the events, in the order they are consumed. -/
def consume (device : DeviceEntity) (ms : List (Date × DeviceChannelEventPayload)) :
    DeviceEntity :=
  Run.exec consumeEvent device ms

/-- The value an event stores for the channel. -/
def storedFor (key : String) (event : DeviceChannelEventPayload) : Option String :=
  if event.failed = false ∧ event.channel = some key then some event.stored else none

/-- The value stored last for the channel. -/
def lastStored (key : String) : List DeviceChannelEventPayload → Option String
  | [] => none
  | event :: events => (lastStored key events).or (storedFor key event)

theorem channelState_consumeEvent (device : DeviceEntity) (m : Date × DeviceChannelEventPayload)
    (key : String) :
    (consumeEvent device m).channelState key =
      (storedFor key m.2).or (device.channelState key) := by
  unfold consumeEvent storedFor
  rw [channelState_apply]
  split <;> rfl

/-- A channel shows what was stored for it last, or what it showed before. -/
theorem channelState_consume (device : DeviceEntity)
    (ms : List (Date × DeviceChannelEventPayload)) (key : String) :
    (consume device ms).channelState key =
      (lastStored key (ms.map (·.2))).or (device.channelState key) := by
  induction ms generalizing device with
  | nil => rfl
  | cons m ms ih =>
    have hstep := ih (consumeEvent device m)
    unfold consume at hstep ⊢
    rw [Run.exec_cons, hstep, channelState_consumeEvent, List.map_cons, lastStored,
      Option.or_assoc]

/-- Only the events that name the channel count. -/
theorem lastStored_filter (key : String) (events : List DeviceChannelEventPayload) :
    lastStored key (events.filter (·.channel == some key)) = lastStored key events := by
  induction events with
  | nil => rfl
  | cons event events ih =>
    rw [lastStored, List.filter_cons]
    cases hnames : event.channel == some key with
    | true => rw [if_pos rfl, lastStored, ih]
    | false =>
      have skipped : storedFor key event = none := by
        unfold storedFor
        rw [if_neg fun h => absurd hnames (by simp [h.2])]
      rw [if_neg (by simp), ih, skipped, Option.or_none]

theorem lastStored_append (key : String) (events events' : List DeviceChannelEventPayload) :
    lastStored key (events ++ events') = (lastStored key events').or (lastStored key events) := by
  induction events with
  | nil => simp [lastStored]
  | cons event events ih => rw [List.cons_append, lastStored, ih, lastStored, Option.or_assoc]

/-! ## What a command causes -/

/-- The channel event an effect leads to: the in-process call, or the consumer
reading the self-published record. -/
def channelEventOf : Effect → Option DeviceChannelEventPayload
  | .applyChannelEvent _ event => some event
  | .kafka topic (.channelEvent _ key value status) _ =>
    if topic = kafkaDeviceEventsTopic then
      some { key := some key, value := some (some value), status := some status }
    else none
  | _ => none

/-- The events that announce the command, in the order they are consumed. -/
def optimisticMessages (effects : List Effect) : List DeviceChannelEventPayload :=
  effects.filterMap channelEventOf

/-- The command goes out and is announced, in the process or on Kafka. -/
def Announces (env : ApiConfig) (brokers : Brokers) (device : DeviceEntity)
    (key : String) : Prop :=
  kafkaSend brokers.producer brokers.command = true ∧
    ((device.pushChannel = .mqtt ∧ MqttGoesOut env brokers device key) ∨
      (kafkaSend brokers.producer brokers.gatewayEvent = true ∧
        kafkaSend brokers.producer brokers.channelEvent = true))

theorem optimisticMessages_announceDispatch (brokers : Brokers) (now : Date)
    (device : DeviceEntity) (dto : TriggerDeviceActionDto) :
    optimisticMessages (announceDispatch brokers now device dto) =
      if kafkaSend brokers.producer brokers.gatewayEvent = true ∧
        kafkaSend brokers.producer brokers.channelEvent = true
      then [optimisticEvent dto] else [] := by
  unfold announceDispatch optimisticMessages
  cases kafkaSend brokers.producer brokers.gatewayEvent with
  | false => simp
  | true =>
    cases kafkaSend brokers.producer brokers.channelEvent with
    | false => simp [List.filterMap_cons, channelEventOf]
    | true => simp [List.filterMap_cons, channelEventOf, optimisticEvent]

/-- Every announcement is the optimistic event, and there is one just when the
command is announced. -/
theorem optimisticMessages_dispatchAction (env : ApiConfig) (brokers : Brokers) (now : Date)
    (device : DeviceEntity) (dto : TriggerDeviceActionDto) :
    ∃ n, optimisticMessages (dispatchAction env brokers now device dto).2 =
        List.replicate n (optimisticEvent dto) ∧
      (n ≠ 0 ↔ Announces env brokers device dto.key) := by
  unfold Announces
  cases hsend : kafkaSend brokers.producer brokers.command with
  | true =>
    have announced := optimisticMessages_announceDispatch brokers now device dto
    have effects : optimisticMessages (dispatchAction env brokers now device dto).2 =
        optimisticMessages (if device.pushChannel = .mqtt then
          (triggerDeviceActionViaMqtt env brokers now device dto
            (deviceMqttTopic device dto.key)).2 else []) ++
        optimisticMessages (announceDispatch brokers now device dto) := by
      simp [dispatchAction, hsend, optimisticMessages, List.filterMap_cons, channelEventOf]
    -- one announcement is made over MQTT, one with the Kafka events
    have viaMqtt : optimisticMessages (if device.pushChannel = .mqtt then
          (triggerDeviceActionViaMqtt env brokers now device dto
            (deviceMqttTopic device dto.key)).2 else []) = [optimisticEvent dto] ∧
          (device.pushChannel = .mqtt ∧ MqttGoesOut env brokers device dto.key) ∨
        optimisticMessages (if device.pushChannel = .mqtt then
          (triggerDeviceActionViaMqtt env brokers now device dto
            (deviceMqttTopic device dto.key)).2 else []) = [] ∧
          ¬ (device.pushChannel = .mqtt ∧ MqttGoesOut env brokers device dto.key) := by
      by_cases hpush : device.pushChannel = .mqtt
      · rw [if_pos hpush]
        rcases triggerDeviceActionViaMqtt_effects env brokers now device dto with
          ⟨goesOut, topic, _, heffects⟩ | ⟨stays, heffects⟩
        · rw [heffects]
          exact Or.inl ⟨rfl, hpush, goesOut⟩
        · rw [heffects]
          exact Or.inr ⟨rfl, fun h => stays h.2⟩
      · rw [if_neg hpush]
        exact Or.inr ⟨rfl, fun h => hpush h.1⟩
    rw [effects, announced]
    rcases viaMqtt with ⟨hmsgs, hout⟩ | ⟨hmsgs, hstay⟩
    · rw [hmsgs]
      split
      · exact ⟨2, rfl, by simp [hout]⟩
      · exact ⟨1, rfl, by simp [hout]⟩
    · rw [hmsgs]
      split
      · next hself => exact ⟨1, rfl, by simp [hself]⟩
      · next hself => exact ⟨0, rfl, by simp only [hstay, hself]; simp⟩
  | false =>
    exact ⟨0, by simp [dispatchAction, hsend, optimisticMessages], by simp⟩

theorem storedFor_optimisticEvent {dto : TriggerDeviceActionDto} (hkey : dto.key ≠ "") :
    storedFor dto.key (optimisticEvent dto) = some dto.value := by
  have ok : (optimisticEvent dto).failed = false := by
    show (jsToLowerCase (jsTrim "ok") == "error") = false
    decide
  have channel : (optimisticEvent dto).channel = some dto.key := by
    simp [optimisticEvent, DeviceChannelEventPayload.channel, Option.filter, hkey]
  unfold storedFor
  rw [if_pos ⟨ok, channel⟩]
  rfl

theorem lastStored_replicate {dto : TriggerDeviceActionDto} (hkey : dto.key ≠ "") (n : Nat) :
    lastStored dto.key (List.replicate n (optimisticEvent dto)) =
      if n = 0 then none else some dto.value := by
  induction n with
  | zero => rfl
  | succ n ih =>
    rw [List.replicate_succ, lastStored, ih, storedFor_optimisticEvent hkey]
    split <;> simp

/-! ## Does the answer win? -/

/-- What the device's answer makes the channel show: the confirmed value, or
after an error the value from before the command. -/
def AnswerShown (before after : DeviceEntity) (key : String)
    (answer : DeviceChannelEventPayload) : Prop :=
  if answer.failed then after.channelState key = before.channelState key
  else after.channelState key = some answer.stored

/-- The announcements of one command are consumed in part (`pre`) before and in
part (`post`) after the device's answer; any events of other channels come in
between. The answer decides what the channel shows exactly when

* on an error, the command was not announced, or the channel already showed its
  value;
* on a confirmation, nothing is consumed after it, or it confirms the commanded
  value. -/
theorem authoritative_wins_iff (env : ApiConfig) (brokers : Brokers) (now : Date)
    {template : Option DeviceTemplateEntity} {dto : TriggerDeviceActionDto}
    (hdto : StringField dto.key) (accepted : ActionAccepted template dto)
    {device : DeviceEntity} (push : device.pushChannel = .mqtt ∨ device.pushChannel = .kafka)
    {pre post : List DeviceChannelEventPayload}
    (split : optimisticMessages
      (triggerDeviceAction env brokers now template dto (some device)).2 = pre ++ post)
    {answer : DeviceChannelEventPayload} (names : answer.channel = some dto.key)
    {ms : List (Date × DeviceChannelEventPayload)}
    (consumed : (ms.map (·.2)).filter (·.channel == some dto.key) = pre ++ answer :: post) :
    AnswerShown device (consume device ms) dto.key answer ↔
      if answer.failed then
        ¬ Announces env brokers device dto.key ∨ device.channelState dto.key = some dto.value
      else post = [] ∨ answer.stored = dto.value := by
  rw [triggerDeviceAction_of_accepted accepted push] at split
  obtain ⟨n, hmsgs, hn⟩ := optimisticMessages_dispatchAction env brokers now device dto
  rw [hmsgs] at split
  obtain ⟨hlen, hpre, hpost⟩ := List.append_eq_replicate_iff.mp split.symm
  have hcons : ∀ (x : DeviceChannelEventPayload) xs,
      lastStored dto.key (x :: xs) = (lastStored dto.key xs).or (storedFor dto.key x) :=
    fun _ _ => rfl
  have hstored : ∀ xs : List DeviceChannelEventPayload,
      xs = List.replicate xs.length (optimisticEvent dto) →
      lastStored dto.key xs = if xs.length = 0 then none else some dto.value := by
    intro xs hxs
    rw [← lastStored_replicate hdto xs.length, ← hxs]
  unfold AnswerShown
  rw [channelState_consume, ← lastStored_filter, consumed, lastStored_append, hcons,
    hstored pre hpre, hstored post hpost]
  cases hfailed : answer.failed with
  | true =>
    -- an error stores nothing, so any announcement around it is what stays
    have nothing : storedFor dto.key answer = none := by simp [storedFor, hfailed]
    simp only [nothing, if_true, ← hn]
    rcases eq_or_ne n 0 with hnone | hnone
    · obtain ⟨hpre0, hpost0⟩ : pre.length = 0 ∧ post.length = 0 := by omega
      simp [hpost0, hpre0, hnone]
    · have shown : (((if post.length = 0 then none else some dto.value).or none).or
          (if pre.length = 0 then none else some dto.value)).or (device.channelState dto.key) =
          some dto.value := by
        rcases eq_or_ne post.length 0 with hpost0 | hpost0
        · have hpre0 : pre.length ≠ 0 := by omega
          simp [hpost0, hpre0]
        · simp [hpost0]
      rw [shown]
      exact ⟨fun h => Or.inr h.symm, fun h => (h.resolve_left (not_not_intro hnone)).symm⟩
  | false =>
    -- a confirmation is replaced by an announcement that comes later
    have stored : storedFor dto.key answer = some answer.stored := by
      simp [storedFor, hfailed, names]
    simp only [stored, Bool.false_eq_true, if_false]
    rcases eq_or_ne post [] with hpost0 | hpost0
    · simp [hpost0]
    · have hlen0 : post.length ≠ 0 := fun h => hpost0 (List.length_eq_zero_iff.mp h)
      rw [if_neg hlen0, Option.some_or, Option.some_or, Option.some_or, Option.some_inj]
      exact ⟨fun h => Or.inr h.symm, fun h => (h.resolve_left hpost0).symm⟩

/-! ### A relay that reports an error -/

def relayStuck : DeviceChannelEventPayload :=
  { key := some "relay1", value := some (some "ON"), status := some "error"
    error := some "relay stuck" }

/-- The relay's error report is consumed last, and the channel still shows the
value the relay never took. -/
theorem relayStuck_not_shown :
    optimisticMessages (triggerDeviceAction defaultEnv healthyBrokers 0 (some relayTemplate)
      relayOn (some plainRelay)).2 = [optimisticEvent relayOn] ∧
    ¬ AnswerShown plainRelay
      (consume plainRelay [(1, optimisticEvent relayOn), (2, relayStuck)]) "relay1"
      relayStuck := by
  refine ⟨by decide, ?_⟩
  unfold AnswerShown
  rw [channelState_consume]
  decide

/-- The relay stays off and says so. -/
def relayStaysOff : DeviceChannelEventPayload :=
  { key := some "relay1", value := some (some "OFF"), status := some "ok" }

/-- The announcement is consumed, an event of another channel, and the report of the relay. -/
def reportedOff : List (Date × DeviceChannelEventPayload) :=
  [(1, optimisticEvent relayOn), (2, { relayStaysOff with key := some "relay2" }),
    (3, relayStaysOff)]

theorem authoritative_wins_iff_reportedOff :
    AnswerShown plainRelay (consume plainRelay reportedOff) "relay1" relayStaysOff := by
  have announced : optimisticMessages (triggerDeviceAction defaultEnv healthyBrokers 0
      (some relayTemplate) relayOn (some plainRelay)).2 = [optimisticEvent relayOn] ++ [] := by
    decide
  have consumed : (reportedOff.map (·.2)).filter (·.channel == some "relay1") =
      [optimisticEvent relayOn] ++ relayStaysOff :: [] := by decide
  have decides := authoritative_wins_iff defaultEnv healthyBrokers 0
    (by decide : relayOn.key ≠ "") relayOn_accepted (Or.inl rfl) announced
    (show relayStaysOff.channel = some relayOn.key from rfl) consumed
  have confirms : ¬ relayStaysOff.failed := by decide
  rw [if_neg confirms] at decides
  exact decides.mpr (Or.inl rfl)

end AiotCloud
