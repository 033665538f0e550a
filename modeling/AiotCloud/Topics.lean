import AiotCloud.Constants
import AiotCloud.Lib.PathPattern

/-!
# MQTT topics

The topic builders and regexes of `src/constants/mqtt-topics.ts`. A regex is a
`PathPattern`; `exec` gives its first capture group.

`exec_iff` reads a regex as an equation: it matches with capture `id` exactly
when the topic is the builder's output for `id`, and `id` is not empty and has
no slash. A device id that has a slash therefore has default topics that its
own regexes do not match.
-/

namespace AiotCloud

open PathPattern

/-! ## Builders -/

def defaultTelemetryTopic (deviceId : String) : String := "devices/" ++ deviceId ++ "/telemetry"
def defaultCommandTopic (deviceId : String) : String := "devices/" ++ deviceId ++ "/command"
def defaultStatusTopic (deviceId : String) : String := "devices/" ++ deviceId ++ "/status"
def defaultEventTopic (deviceId : String) : String := "devices/" ++ deviceId ++ "/event"
def defaultChannelCommandTopic (deviceId : String) (channel : Nat) : String :=
  "devices/" ++ deviceId ++ "/channel/" ++ toString channel ++ "/command"
def defaultOtaTopic (deviceId : String) : String := "devices/" ++ deviceId ++ "/ota"
def defaultOtaStatusTopic (deviceId : String) : String := "devices/" ++ deviceId ++ "/ota/status"

/-! ## Regexes -/

/-- `^devices\/([^/]+)suffix$`. -/
def deviceTopicRegex (suffix : String) : List Piece :=
  [.lit "devices/".toList, .capture .segment, .lit suffix.toList]

def telemetryTopicRegex : List Piece := deviceTopicRegex "/telemetry"
def commandTopicRegex : List Piece := deviceTopicRegex "/command"
def statusTopicRegex : List Piece := deviceTopicRegex "/status"
def eventTopicRegex : List Piece := deviceTopicRegex "/event"
def channelCommandTopicRegex : List Piece :=
  [.lit "devices/".toList, .capture .segment, .lit "/channel/".toList, .capture .digits,
    .lit "/command".toList]
def otaTopicRegex : List Piece := deviceTopicRegex "/ota"
def otaStatusTopicRegex : List Piece := deviceTopicRegex "/ota/status"

/-- `REGEX.exec(topic)?.[1]`. -/
def exec (regex : List Piece) (topic : String) : Option String :=
  (matchPieces regex topic.toList).bind fun caps => caps.head?.map String.ofList

/-- `REGEX.test(topic)`. -/
def test (regex : List Piece) (topic : String) : Bool :=
  (matchPieces regex topic.toList).isSome

/-! ## Reading a regex as an equation -/

/-- A device id that fits in one path segment. -/
def IsSegment (id : String) : Prop := id ≠ "" ∧ '/' ∉ id.toList

instance (id : String) : Decidable (IsSegment id) := inferInstanceAs (Decidable (_ ∧ _))

theorem renders_deviceTopicRegex {suffix : String} {caps : List (List Char)} {cs : List Char} :
    Renders (deviceTopicRegex suffix) caps cs ↔
      ∃ cap, caps = [cap] ∧ cap ≠ [] ∧ '/' ∉ cap ∧
        cs = "devices/".toList ++ cap ++ suffix.toList := by
  constructor
  · rintro ⟨_, rfl, h⟩
    cases caps with
    | nil => exact h.elim
    | cons cap caps =>
      obtain ⟨hne, hall, _, rfl, _, rfl, h⟩ := h
      cases caps with
      | cons _ _ => exact h.elim
      | nil =>
        obtain rfl := h
        exact ⟨cap, rfl, hne, fun hslash => absurd (hall _ hslash) (by decide), by simp⟩
  · rintro ⟨cap, rfl, hne, hslash, rfl⟩
    refine ⟨cap ++ suffix.toList, List.append_assoc _ _ _, hne, fun c hc => ?_, suffix.toList, rfl,
      [], by simp, rfl⟩
    have : c ≠ '/' := fun h => hslash (h ▸ hc)
    simpa [CharClass.takes] using this

/-- A device topic regex matches with capture `id` exactly the topic built from
`id`, for an `id` of one segment. -/
theorem exec_iff {suffix topic id : String} (hs : suffix.toList.head? = some '/') :
    exec (deviceTopicRegex suffix) topic = some id ↔
      IsSegment id ∧ topic = "devices/" ++ id ++ suffix := by
  have delimited : Delimited (deviceTopicRegex suffix) := ⟨hs, trivial⟩
  have hchars : ∀ cs, topic.toList = "devices/".toList ++ cs ++ suffix.toList ↔
      topic = "devices/" ++ String.ofList cs ++ suffix := by
    intro cs
    simp [← String.toList_inj]
  simp only [exec, Option.bind_eq_some_iff, matchPieces_eq_some_iff delimited,
    renders_deviceTopicRegex]
  constructor
  · rintro ⟨_, ⟨cap, rfl, hne, hslash, ht⟩, hcap⟩
    obtain rfl : String.ofList cap = id := by simpa using hcap
    refine ⟨⟨fun he => hne ?_, by simpa using hslash⟩, (hchars cap).mp ht⟩
    simpa using congrArg String.toList he
  · rintro ⟨⟨hne, hslash⟩, ht⟩
    refine ⟨_, ⟨id.toList, rfl, fun he => hne ?_, hslash, (hchars _).mpr (by simpa using ht)⟩, ?_⟩
    · exact String.toList_inj.mp (by simpa using he)
    · simp

/-- Topics with different last characters are never built by both builders. -/
theorem topic_ne_of_last {id id' suffix suffix' : String}
    (h : suffix.toList.getLast? ≠ suffix'.toList.getLast?)
    (hs : suffix ≠ "") (hs' : suffix' ≠ "") :
    "devices/" ++ id ++ suffix ≠ "devices/" ++ id' ++ suffix' := by
  have last : ∀ i s : String, s ≠ "" →
      ("devices/" ++ i ++ s).toList.getLast? = s.toList.getLast? := by
    intro i s hs
    have hne : s.toList ≠ [] := fun e => hs (String.toList_inj.mp (by simpa using e))
    rw [String.toList_append, List.getLast?_append_of_ne_nil _ hne]
  intro he
  apply h
  rw [← last id suffix hs, ← last id' suffix' hs', he]

example : exec telemetryTopicRegex (defaultTelemetryTopic "a/b") = none := by decide

end AiotCloud
