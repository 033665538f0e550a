import AiotCloud.UplinkRouting

/-!
# Shapes of topics

The seven regexes of `src/constants/mqtt-topics.ts` next to the seven builders. A device id has
no slash, so a topic is cut in one way: the id ends at the first slash after `devices/`, and what
follows it tells the shapes apart.

1. `TopicShape.eq_of_matches`: no topic has two shapes.
2. `topic_shapes`: a default topic is matched by its own regex, which gives back what it was
   built from, and is dispatched to its role.
-/

namespace AiotCloud

open PathPattern

inductive TopicShape where
  | telemetry
  | command
  | status
  | event
  | channelCommand
  | ota
  | otaStatus
deriving DecidableEq, Repr

namespace TopicShape

def regex : TopicShape → List Piece
  | .telemetry => telemetryTopicRegex
  | .command => commandTopicRegex
  | .status => statusTopicRegex
  | .event => eventTopicRegex
  | .channelCommand => channelCommandTopicRegex
  | .ota => otaTopicRegex
  | .otaStatus => otaStatusTopicRegex

/-- The builder; only a topic of a channel has its number. -/
def defaultTopic (deviceId : String) (channel : Nat) : TopicShape → String
  | .telemetry => defaultTelemetryTopic deviceId
  | .command => defaultCommandTopic deviceId
  | .status => defaultStatusTopic deviceId
  | .event => defaultEventTopic deviceId
  | .channelCommand => defaultChannelCommandTopic deviceId channel
  | .ota => defaultOtaTopic deviceId
  | .otaStatus => defaultOtaStatusTopic deviceId

/-- The capture groups of a default topic. -/
def captures (deviceId : String) (channel : Nat) : TopicShape → List String
  | .channelCommand => [deviceId, toString channel]
  | _ => [deviceId]

/-- Where `handleAny` sends it: a topic of the backend's own goes nowhere. -/
def dispatch (deviceId : String) : TopicShape → Option Dispatch
  | .telemetry => some (.uplink .telemetry deviceId)
  | .status => some (.uplink .status deviceId)
  | .event => some (.uplink .event deviceId)
  | .otaStatus => some (.otaStatus deviceId)
  | .command | .channelCommand | .ota => none

/-- What follows the device id, given the digits of the channel. -/
def tail (channel : List Char) : TopicShape → List Char
  | .telemetry => "/telemetry".toList
  | .command => "/command".toList
  | .status => "/status".toList
  | .event => "/event".toList
  | .channelCommand => "/channel/".toList ++ (channel ++ "/command".toList)
  | .ota => "/ota".toList
  | .otaStatus => "/ota/status".toList

/-- The captures after the device id. -/
def Numbered (channel : List Char) (numbers : List (List Char)) : TopicShape → Prop
  | .channelCommand => channel ≠ [] ∧ (∀ c ∈ channel, c.isDigit) ∧ numbers = [channel]
  | _ => numbers = []

/-- The groups of `REGEX.exec(topic)`. -/
def exec (shape : TopicShape) (topic : String) : Option (List String) :=
  (matchPieces shape.regex topic.toList).map (·.map String.ofList)

/-! ## One cut -/

theorem delimited (shape : TopicShape) : Delimited shape.regex := by
  cases shape with
  | channelCommand => exact ⟨rfl, rfl, trivial⟩
  | _ => exact ⟨rfl, trivial⟩

theorem renders_channelCommand {caps : List (List Char)} {cs : List Char} :
    Renders channelCommandTopicRegex caps cs ↔ ∃ id channel, caps = [id, channel] ∧ id ≠ [] ∧
      '/' ∉ id ∧ channel ≠ [] ∧ (∀ c ∈ channel, c.isDigit) ∧
      cs = "devices/".toList ++ id ++ ("/channel/".toList ++ (channel ++ "/command".toList)) := by
  constructor
  · rintro ⟨_, rfl, h⟩
    rcases caps with _ | ⟨id, _ | ⟨channel, _ | ⟨cap, caps⟩⟩⟩
    · exact h.elim
    · obtain ⟨-, -, _, -, _, -, h⟩ := h
      exact h.elim
    · obtain ⟨hne, hall, _, rfl, _, rfl, hchannel, hdigits, _, rfl, _, rfl, h⟩ := h
      obtain rfl := h
      refine ⟨id, channel, rfl, hne, fun slash => absurd (hall _ slash) (by decide), hchannel,
        hdigits, ?_⟩
      simp
    · obtain ⟨-, -, _, -, _, -, -, -, _, -, _, -, h⟩ := h
      exact h.elim
  · rintro ⟨id, channel, rfl, hne, slash, hchannel, hdigits, rfl⟩
    refine ⟨_, List.append_assoc .., hne, fun c hc => ?_, _, rfl, _, rfl, hchannel, hdigits, _, rfl,
      [], by simp, rfl⟩
    have : c ≠ '/' := fun h => slash (h ▸ hc)
    simpa [CharClass.takes] using this

/-- A match cuts the topic after the id. -/
theorem renders_iff (shape : TopicShape) {caps : List (List Char)} {cs : List Char} :
    Renders shape.regex caps cs ↔ ∃ id numbers channel, caps = id :: numbers ∧ id ≠ [] ∧
      '/' ∉ id ∧ shape.Numbered channel numbers ∧
      cs = "devices/".toList ++ id ++ shape.tail channel := by
  have plain (suffix : String) : Renders (deviceTopicRegex suffix) caps cs ↔
      ∃ id numbers, ∃ _ : List Char, caps = id :: numbers ∧ id ≠ [] ∧ '/' ∉ id ∧ numbers = [] ∧
        cs = "devices/".toList ++ id ++ suffix.toList := by
    rw [renders_deviceTopicRegex]
    constructor
    · rintro ⟨id, rfl, hne, slash, rfl⟩
      exact ⟨id, [], [], rfl, hne, slash, rfl, rfl⟩
    · rintro ⟨id, _, _, rfl, hne, slash, rfl, rfl⟩
      exact ⟨id, rfl, hne, slash, rfl⟩
  cases shape with
  | channelCommand =>
    refine renders_channelCommand.trans ⟨?_, ?_⟩
    · rintro ⟨id, channel, rfl, hne, slash, hchannel, hdigits, rfl⟩
      exact ⟨id, [channel], channel, rfl, hne, slash, ⟨hchannel, hdigits, rfl⟩, rfl⟩
    · rintro ⟨id, _, channel, rfl, hne, slash, ⟨hchannel, hdigits, rfl⟩, rfl⟩
      exact ⟨id, channel, rfl, hne, slash, hchannel, hdigits, rfl⟩
  | telemetry | command | status | event | ota | otaStatus => exact plain _

theorem tail_head? (shape : TopicShape) (channel : List Char) :
    (shape.tail channel).head? = some '/' := by cases shape <;> rfl

/-- The third and the sixth character of what follows the id. -/
def mark : TopicShape → Option Char × Option Char
  | .telemetry => (some 'e', some 'm')
  | .command => (some 'o', some 'a')
  | .status => (some 't', some 'u')
  | .event => (some 'v', some 't')
  | .channelCommand => (some 'h', some 'n')
  | .ota => (some 't', none)
  | .otaStatus => (some 't', some 's')

theorem mark_tail (shape : TopicShape) (channel : List Char) :
    ((shape.tail channel)[2]?, (shape.tail channel)[5]?) = shape.mark := by cases shape <;> rfl

theorem mark_injective {shape shape' : TopicShape} (h : shape.mark = shape'.mark) :
    shape = shape' := by
  cases shape <;> cases shape' <;> simp [mark] at h ⊢

/-- What follows the id tells the shapes apart. -/
theorem eq_of_tail {shape shape' : TopicShape} {channel channel' : List Char}
    (h : shape.tail channel = shape'.tail channel') : shape = shape' := by
  refine mark_injective ?_
  rw [← mark_tail shape channel, ← mark_tail shape' channel', h]

/-- No topic has two shapes. -/
theorem eq_of_matches {shape shape' : TopicShape} {topic : String}
    (h : (shape.exec topic).isSome) (h' : (shape'.exec topic).isSome) : shape = shape' := by
  have cut : ∀ {shape : TopicShape}, (shape.exec topic).isSome → ∃ id channel, '/' ∉ id ∧
      topic.toList = "devices/".toList ++ (id ++ shape.tail channel) := by
    intro shape h
    rw [exec, Option.isSome_map, Option.isSome_iff_exists] at h
    obtain ⟨caps, h⟩ := h
    obtain ⟨id, _, channel, -, -, slash, -, htopic⟩ :=
      shape.renders_iff.mp ((matchPieces_eq_some_iff shape.delimited).mp h)
    exact ⟨id, channel, slash, htopic.trans (List.append_assoc ..)⟩
  -- the id ends at the first slash
  have ends : ∀ (shape : TopicShape) {id channel : List Char}, '/' ∉ id →
      (id ++ shape.tail channel).dropWhile CharClass.segment.takes = shape.tail channel := by
    intro shape id channel slash
    refine (takeWhile_append_of_stop (fun c hc => ?_) ?_).2
    · have : c ≠ '/' := fun h => slash (h ▸ hc)
      simpa [CharClass.takes] using this
    · obtain ⟨rest, hrest⟩ := List.head?_eq_some_iff.mp (shape.tail_head? channel)
      rw [hrest]
      rfl
  obtain ⟨id, channel, slash, htopic⟩ := cut h
  obtain ⟨id', channel', slash', htopic'⟩ := cut h'
  have rest := List.append_cancel_left (htopic.symm.trans htopic')
  have tails : shape.tail channel = shape'.tail channel' := by
    rw [← ends shape slash, rest, ends shape' slash']
  exact eq_of_tail tails

/-! ## Default topics -/

theorem toList_defaultTopic (id : String) (channel : Nat) (shape : TopicShape) :
    (shape.defaultTopic id channel).toList =
      "devices/".toList ++ id.toList ++ shape.tail (Nat.toDigits 10 channel) := by
  have plain (suffix : String) : ("devices/" ++ id ++ suffix).toList =
      "devices/".toList ++ id.toList ++ suffix.toList := by
    rw [String.toList_append, String.toList_append]
  cases shape with
  | channelCommand =>
    have digits : (toString channel).toList = Nat.toDigits 10 channel := Nat.toList_repr
    show ("devices/" ++ id ++ "/channel/" ++ toString channel ++ "/command").toList = _
    rw [String.toList_append, String.toList_append, plain, digits,
      List.append_assoc ("devices/".toList ++ id.toList ++ "/channel/".toList),
      List.append_assoc ("devices/".toList ++ id.toList)]
    rfl
  | telemetry | command | status | event | ota | otaStatus => exact plain _

theorem matchPieces_defaultTopic {id : String} (segment : IsSegment id) (channel : Nat)
    (shape : TopicShape) :
    matchPieces shape.regex (shape.defaultTopic id channel).toList =
      some ((shape.captures id channel).map String.toList) := by
  have hne : id.toList ≠ [] := fun empty => segment.1 (String.toList_inj.mp (by simpa using empty))
  have digits : (toString channel).toList = Nat.toDigits 10 channel := Nat.toList_repr
  have numbered : shape.Numbered (Nat.toDigits 10 channel)
      ((shape.captures id channel).map String.toList).tail := by
    cases shape with
    | channelCommand =>
      refine ⟨Nat.toDigits_ne_nil, fun c hc => ?_, ?_⟩
      · exact Nat.isDigit_of_mem_toDigits (by decide) (by decide) hc
      · rw [← digits]
        rfl
    | _ => rfl
  refine (matchPieces_eq_some_iff shape.delimited).mpr (shape.renders_iff.mpr
    ⟨id.toList, _, Nat.toDigits 10 channel, ?_, hne, segment.2, numbered, ?_⟩)
  · cases shape <;> rfl
  · exact toList_defaultTopic id channel shape

/-- A default topic is matched by its own regex only. -/
theorem exec_defaultTopic {id : String} (segment : IsSegment id) (channel : Nat)
    (shape shape' : TopicShape) :
    shape'.exec (shape.defaultTopic id channel) =
      if shape' = shape then some (shape.captures id channel) else none := by
  have own : shape.exec (shape.defaultTopic id channel) = some (shape.captures id channel) := by
    rw [exec, matchPieces_defaultTopic segment]
    simp
  split_ifs with same
  · rw [same, own]
  · rw [← Option.not_isSome_iff_eq_none]
    exact fun matched => same (eq_of_matches matched (by simp [own]))

theorem exec_regex (shape : TopicShape) (topic : String) :
    AiotCloud.exec shape.regex topic = (shape.exec topic).bind List.head? := by
  rw [AiotCloud.exec, exec]
  cases matchPieces shape.regex topic.toList with
  | none => rfl
  | some caps => simp

theorem test_regex (shape : TopicShape) (topic : String) :
    test shape.regex topic = (shape.exec topic).isSome := by
  rw [test, exec, Option.isSome_map]

theorem handleAny_defaultTopic {id : String} (segment : IsSegment id) (channel : Nat)
    (shape : TopicShape) (rows : List DeviceEntity) (registry : MqttTopicRegistry) (now : Date) :
    handleAny rows registry now (shape.defaultTopic id channel) =
      (shape.dispatch id, registry) := by
  have first (shape' : TopicShape) : AiotCloud.exec shape'.regex (shape.defaultTopic id channel) =
      if shape' = shape then some id else none := by
    rw [exec_regex, exec_defaultTopic segment]
    split_ifs
    · cases shape <;> rfl
    · rfl
  have tests (shape' : TopicShape) :
      test shape'.regex (shape.defaultTopic id channel) = decide (shape' = shape) := by
    rw [test_regex, exec_defaultTopic segment]
    split_ifs with same <;> simp [same]
  unfold handleAny
  rw [show telemetryTopicRegex = TopicShape.telemetry.regex from rfl, first,
    show statusTopicRegex = TopicShape.status.regex from rfl, first,
    show eventTopicRegex = TopicShape.event.regex from rfl, first,
    show otaStatusTopicRegex = TopicShape.otaStatus.regex from rfl, first,
    show commandTopicRegex = TopicShape.command.regex from rfl, tests,
    show channelCommandTopicRegex = TopicShape.channelCommand.regex from rfl, tests,
    show otaTopicRegex = TopicShape.ota.regex from rfl, tests]
  cases shape <;> rfl

end TopicShape

/-- No topic has two shapes. The default topic of a device id that is one path segment is matched
by its own regex only, which captures the id and the channel, and it goes to the handler of its
role. -/
theorem topic_shapes :
    (∀ (topic : String) (shape shape' : TopicShape), (shape.exec topic).isSome →
      (shape'.exec topic).isSome → shape = shape') ∧
    ∀ id : String, IsSegment id → ∀ (channel : Nat) (shape : TopicShape),
      (∀ shape' : TopicShape, shape'.exec (shape.defaultTopic id channel) =
        if shape' = shape then some (shape.captures id channel) else none) ∧
      ∀ (rows : List DeviceEntity) (registry : MqttTopicRegistry) (now : Date),
        handleAny rows registry now (shape.defaultTopic id channel) =
          (shape.dispatch id, registry) := by
  refine ⟨fun topic shape shape' h h' => TopicShape.eq_of_matches h h', ?_⟩
  intro id segment channel shape
  exact ⟨TopicShape.exec_defaultTopic segment channel shape,
    TopicShape.handleAny_defaultTopic segment channel shape⟩

/-- A device called `command`. -/
theorem topic_shapes_command :
    TopicShape.channelCommand.exec "devices/command/channel/2/command" = some ["command", "2"] := by
  have own := ((topic_shapes.2 "command" (by decide) 2 .channelCommand).1 .channelCommand)
  exact own

end AiotCloud
