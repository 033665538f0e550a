import Mathlib.Data.List.Sort
import AiotCloud.Lib.Run
import AiotCloud.Lib.Timeline
import AiotCloud.QueryBounds

/-!
# The history of a chart

`useDeviceSocket` keeps the samples of a device for its charts. It appends every live sample, and
the first answer of the server for a newly selected range replaces them all. The answer is as old
as the query; samples arrive in between, and some of those it has may still be on their way.

1. `fetchHistory_covers`: the answer is a window of what is stored.
2. `hasRange_seed_iff`, `HasRange.step`: which events keep the range on the chart.
3. `chart_history_iff`: along a run.
-/

open JsNumber

namespace AiotCloud

open Timeline

/-! ## Ranges -/

inductive TimeRangePreset where
  | lastHour
  | last6Hours
  | last24Hours
  | last7Days
  | last30Days
deriving DecidableEq, Repr

/-- `PRESET_MS`. -/
def presetMs : TimeRangePreset → Int
  | .lastHour => 60 * 60 * 1000
  | .last6Hours => 6 * (60 * 60 * 1000)
  | .last24Hours => 24 * (60 * 60 * 1000)
  | .last7Days => 7 * 24 * (60 * 60 * 1000)
  | .last30Days => 30 * 24 * (60 * 60 * 1000)

structure ResolvedTimeRange where
  fromTime : Date
  toTime : Date
  key : TimeRangePreset
deriving DecidableEq, Repr

def resolveTimeRange (preset : TimeRangePreset) (now : Date) : ResolvedTimeRange :=
  { fromTime := now - presetMs preset, toTime := now, key := preset }

structure TelemetryPoint where
  payload : Json
  recordedAt : Date

/-- The sample is of the range. -/
def ResolvedTimeRange.admits (range : ResolvedTimeRange) (point : TelemetryPoint) : Bool :=
  decide (range.fromTime ≤ point.recordedAt ∧ point.recordedAt ≤ range.toTime)

/-! ## Samples of one device -/

/-- `TELEMETRY_HISTORY_LIMIT`. -/
def telemetryHistoryLimit : Nat := 1000

/-- The `limit` that `getDeviceTelemetry` asks for. -/
def historyFetchLimit : Nat := 500

/-- The rows of the device with the clock of the server, the events on their way, and what the
dashboard has. -/
structure ChartWorld where
  clock : Date := 0
  stored : List TelemetryPoint := []
  inFlight : List TelemetryPoint := []
  selected : Option ResolvedTimeRange := none
  /-- `fetchedHistory`, for the selected range. -/
  fetched : Option (List TelemetryPoint) := none
  /-- `seedKeyByDeviceRef`. -/
  seedKey : Option TimeRangePreset := none
  /-- The range of the last seed. -/
  seeded : Option ResolvedTimeRange := none
  /-- `historyByDevice`. -/
  history : List TelemetryPoint := []

inductive ChartEvent where
  | record (elapsed : Nat) (payload : Json)
  | deliver
  | select (preset : TimeRangePreset) (now : Date)
  | snapshot
  | seed

/-- `handleTelemetry` of the socket. -/
def appendLive (history : List TelemetryPoint) (point : TelemetryPoint) : List TelemetryPoint :=
  let appended := history ++ [point]
  if telemetryHistoryLimit < appended.length then
    appended.drop (appended.length - telemetryHistoryLimit)
  else appended

/-- The row of a sample. -/
def telemetryRow (id : String) (point : TelemetryPoint) : DeviceTelemetryEntity :=
  ⟨id, point.payload, point.recordedAt⟩

def pointOf (entity : DeviceTelemetryEntity) : TelemetryPoint :=
  ⟨entity.payload, entity.recordedAt⟩

section

/- What the repository of the telemetry answers from its rows, and who asks for which device. -/
variable (find : List DeviceTelemetryEntity → (DeviceTelemetryEntity → Bool) → Option Value →
    Except String (List DeviceTelemetryEntity))
  (devices : List DeviceEntity) (scope : AccessScope) (id : String)

/-- The answer for a range, as the samples it is mapped to. -/
def fetchHistory (stored : List TelemetryPoint) (range : ResolvedTimeRange) :
    Option (List TelemetryPoint) :=
  match getDeviceTelemetryHistory (find (stored.map (telemetryRow id))) devices scope id
      { limit := some (.finite historyFetchLimit)
        fromTime := some range.fromTime
        toTime := some range.toTime } with
  | .ok entities => some (entities.map pointOf)
  | .error _ => none

namespace ChartWorld

/-- The points replace the samples the first time the key is seen. -/
def seedHistory (s : ChartWorld) (points : List TelemetryPoint) (range : ResolvedTimeRange) :
    ChartWorld :=
  if s.seedKey = some range.key then s
  else { s with seedKey := some range.key, seeded := some range, history := points }

def step (s : ChartWorld) : ChartEvent → ChartWorld
  | .record elapsed payload =>
    let point : TelemetryPoint := ⟨payload, s.clock + elapsed⟩
    { s with
      clock := s.clock + elapsed
      stored := s.stored ++ [point]
      inFlight := s.inFlight ++ [point] }
  | .deliver =>
    match s.inFlight with
    | [] => s
    | point :: inFlight => { s with inFlight := inFlight, history := appendLive s.history point }
  | .select preset now =>
    if s.selected.map (·.key) = some preset then s
    else { s with selected := some (resolveTimeRange preset now), fetched := none }
  | .snapshot =>
    match s.selected.bind (fetchHistory find devices scope id s.stored) with
    | some points => { s with fetched := some points }
    | none => s
  | .seed =>
    match s.selected, s.fetched with
    | some range, some points => s.seedHistory points range
    | _, _ => s

/-- The samples once the events on their way have arrived. -/
def drained (s : ChartWorld) : List TelemetryPoint := s.inFlight.foldl appendLive s.history

/-- The samples whose events have arrived. -/
def delivered (s : ChartWorld) : List TelemetryPoint :=
  s.stored.take (s.stored.length - s.inFlight.length)

/-- The chart has every recorded sample of the seeded range exactly once and in order, up to the
oldest beyond the limit, as soon as the events on their way have arrived. -/
def HasRange (s : ChartWorld) : Prop :=
  ∀ range, s.seeded = some range →
    Covers (·.recordedAt) historyFetchLimit (s.stored.filter range.admits)
      (s.drained.filter range.admits) s.drained.length

/-- What the limit leaves of seeded points when the events on their way have arrived. -/
def kept (s : ChartWorld) (points : List TelemetryPoint) : List TelemetryPoint :=
  points.drop (points.length + s.inFlight.length - telemetryHistoryLimit)

/-- The points that are seeded for a new key, as far as they will stay, are the samples of the
range that have arrived. -/
def SeedFits (s : ChartWorld) : ChartEvent → Prop
  | .seed => ∀ range points, s.selected = some range → s.fetched = some points →
      s.seedKey ≠ some range.key → s.inFlight.length < telemetryHistoryLimit →
        Covers (·.recordedAt) historyFetchLimit (s.delivered.filter range.admits) (s.kept points)
          ((s.kept points).length + s.inFlight.length)
  | _ => True

end ChartWorld

/-! ## The answer of the server -/

section

variable {find}

/-- The repository answers no more rows than asked for, each of which meets the condition. -/
def FindsWithin (find : List DeviceTelemetryEntity → (DeviceTelemetryEntity → Bool) →
    Option Value → Except String (List DeviceTelemetryEntity)) : Prop :=
  ∀ rows condition (limit : Nat) found, find rows condition (some (.finite limit)) = .ok found →
    found.length ≤ limit ∧ ∀ row ∈ found, condition row

theorem map_eq_ok {ε α β : Type} {answer : Except ε α} {f : α → β} {mapped : β}
    (h : answer.map f = .ok mapped) : ∃ a, answer = .ok a ∧ f a = mapped := by
  cases answer with
  | error e => cases h
  | ok a => exact ⟨a, rfl, Except.ok.inj h⟩

/-- The rows that an answer is made of. -/
theorem fetchHistory_eq_some {stored points : List TelemetryPoint} {range : ResolvedTimeRange}
    (h : fetchHistory find devices scope id stored range = some points) :
    ∃ condition found, find (stored.map (telemetryRow id)) condition
        (some (.finite historyFetchLimit)) = .ok found ∧
      (∀ entity, condition entity ↔ entity.deviceId = id ∧ range.admits (pointOf entity)) ∧
      points = found.reverse.map pointOf := by
  unfold fetchHistory at h
  split at h
  · next entities answered =>
    obtain rfl := Option.some_inj.mp h
    unfold getDeviceTelemetryHistory at answered
    split at answered
    · cases answered
    · next device hdevice =>
      obtain ⟨found, hfound, rfl⟩ := map_eq_ok answered
      refine ⟨_, found, hfound, fun entity => ?_, rfl⟩
      have same : device.id = id := by
        have asked := List.find?_some hdevice
        simp only [decide_eq_true_eq] at asked
        exact asked.1
      simp only [Option.all_some, decide_eq_true_eq, same]
      exact and_congr_right fun _ => decide_eq_true_iff.symm
  · cases h

theorem fetchHistory_within (finds : FindsWithin find) {stored points : List TelemetryPoint}
    {range : ResolvedTimeRange}
    (h : fetchHistory find devices scope id stored range = some points) :
    points.length ≤ historyFetchLimit ∧ ∀ point ∈ points, range.admits point := by
  obtain ⟨condition, found, hfound, asked, rfl⟩ := fetchHistory_eq_some devices scope id h
  obtain ⟨short, within⟩ := finds _ _ historyFetchLimit _ hfound
  refine ⟨by simpa using short, fun point hpoint => ?_⟩
  obtain ⟨entity, hentity, rfl⟩ := List.mem_map.mp hpoint
  exact ((asked entity).mp (within entity (List.mem_reverse.mp hentity))).2

/-- The repository answers the newest rows that meet the condition, newest first. -/
def FindsNewest (find : List DeviceTelemetryEntity → (DeviceTelemetryEntity → Bool) →
    Option Value → Except String (List DeviceTelemetryEntity)) : Prop :=
  ∀ rows condition (limit : Nat) found, find rows condition (some (.finite limit)) = .ok found →
    found.Pairwise (fun a b => b.recordedAt ≤ a.recordedAt) ∧
      ∃ rest, (rest ++ found).Perm (rows.filter condition) ∧
        (∀ r ∈ rest, ∀ f ∈ found, r.recordedAt ≤ f.recordedAt) ∧
        (rest = [] ∨ limit ≤ found.length)

/-- The answer for a range is a window of what is stored by then. -/
theorem fetchHistory_covers (finds : FindsNewest find) {stored points : List TelemetryPoint}
    {range : ResolvedTimeRange}
    (h : fetchHistory find devices scope id stored range = some points) :
    Covers (·.recordedAt) historyFetchLimit (stored.filter range.admits) points points.length := by
  obtain ⟨condition, found, hfound, asked, rfl⟩ := fetchHistory_eq_some devices scope id h
  obtain ⟨sorted, rest, perm, older, room⟩ := finds _ _ historyFetchLimit _ hfound
  have selected : ((stored.map (telemetryRow id)).filter condition).map pointOf =
      stored.filter range.admits := by
    have same : condition ∘ telemetryRow id = range.admits := by
      funext point
      exact Bool.eq_iff_iff.mpr ((asked _).trans (and_iff_right rfl))
    rw [List.filter_map, List.map_map, same]
    exact List.map_id _
  refine ⟨?_, rest.map pointOf, ?_, ?_, ?_⟩
  · rw [List.map_reverse]
    exact List.pairwise_reverse.mpr (List.pairwise_map.mpr sorted)
  · rw [← selected, ← List.map_append]
    exact (((List.reverse_perm found).append_left rest).trans perm).map _
  · intro d hd p hp
    obtain ⟨r, hr, rfl⟩ := List.mem_map.mp hd
    obtain ⟨f, hf, rfl⟩ := List.mem_map.mp hp
    exact older r hr f (List.mem_reverse.mp hf)
  · refine room.imp (fun none => ?_) fun full => ?_
    · rw [none, List.map_nil]
    · simpa using full

end

namespace ChartWorld

/-! ## Live samples -/

theorem appendLive_eq (history : List TelemetryPoint) (point : TelemetryPoint) :
    appendLive history point = keepLast telemetryHistoryLimit (history ++ [point]) := by
  unfold appendLive
  dsimp only
  split
  · rfl
  · next short => rw [keepLast_of_le (not_lt.mp short)]

theorem foldl_appendLive {history : List TelemetryPoint}
    (short : history.length ≤ telemetryHistoryLimit) (points : List TelemetryPoint) :
    points.foldl appendLive history = keepLast telemetryHistoryLimit (history ++ points) := by
  induction points using List.reverseRecOn with
  | nil => rw [List.append_nil, keepLast_of_le short, List.foldl_nil]
  | append_singleton points point ih =>
    rw [List.foldl_append, List.foldl_cons, List.foldl_nil, ih, appendLive_eq, keepLast_append,
      List.append_assoc]

/-- What holds along every run. -/
structure Inv (s : ChartWorld) : Prop where
  sorted : Chronological (·.recordedAt) s.stored
  past : ∀ point ∈ s.stored, point.recordedAt ≤ s.clock
  onTheWay : s.inFlight <:+ s.stored
  short : s.history.length ≤ telemetryHistoryLimit
  answer : ∀ points, s.fetched = some points → points.length ≤ telemetryHistoryLimit ∧
    ∀ range, s.selected = some range → ∀ point ∈ points, range.admits point

variable {s : ChartWorld}

theorem Inv.delivered_append (h : s.Inv) : s.delivered ++ s.inFlight = s.stored := by
  obtain ⟨front, split⟩ := h.onTheWay
  have length : s.stored.length - s.inFlight.length = front.length := by
    rw [← split, List.length_append, Nat.add_sub_cancel]
  rw [delivered, length, ← split, List.take_left]

/-- The samples that have arrived are not newer than those on their way. -/
theorem Inv.delivered_le (h : s.Inv) : Chronological (·.recordedAt) s.inFlight ∧
    ∀ a ∈ s.delivered, ∀ b ∈ s.inFlight, a.recordedAt ≤ b.recordedAt := by
  have sorted : Chronological (·.recordedAt) (s.delivered ++ s.inFlight) :=
    h.delivered_append ▸ h.sorted
  exact (List.pairwise_append.mp sorted).2

theorem historyFetchLimit_le : historyFetchLimit ≤ telemetryHistoryLimit := by decide

/-! ## Steps -/

theorem Inv.record (h : s.Inv) (elapsed : Nat) (payload : Json) :
    (s.step find devices scope id (.record elapsed payload)).Inv := by
  have later : s.clock ≤ s.clock + elapsed := Int.le_add_of_nonneg_right (Int.natCast_nonneg _)
  refine ⟨?_, ?_, ?_, h.short, h.answer⟩
  · refine List.pairwise_append.mpr ⟨h.sorted, List.pairwise_singleton _ _, ?_⟩
    intro old hold new hnew
    rw [List.mem_singleton.mp hnew]
    exact (h.past old hold).trans later
  · intro point hpoint
    rcases List.mem_append.mp hpoint with hpoint | hpoint
    · exact (h.past point hpoint).trans later
    · rw [List.mem_singleton.mp hpoint]
      exact le_refl _
  · obtain ⟨front, split⟩ := h.onTheWay
    refine ⟨front, ?_⟩
    show front ++ (s.inFlight ++ _) = s.stored ++ _
    rw [← List.append_assoc, split]

/-- A delivery takes the first event off the way. -/
theorem step_deliver (s : ChartWorld) :
    (s.inFlight = [] ∧ s.step find devices scope id .deliver = s) ∨
      ∃ point inFlight, s.inFlight = point :: inFlight ∧
        s.step find devices scope id .deliver =
          { s with inFlight := inFlight, history := appendLive s.history point } := by
  cases way : s.inFlight with
  | nil => exact .inl ⟨rfl, by simp only [ChartWorld.step, way]⟩
  | cons point inFlight => exact .inr ⟨point, inFlight, rfl, by simp only [ChartWorld.step, way]⟩

theorem Inv.deliver (h : s.Inv) : (s.step find devices scope id .deliver).Inv := by
  rcases step_deliver find devices scope id s with ⟨-, same⟩ | ⟨point, inFlight, way, moved⟩
  · rwa [same]
  · rw [moved]
    refine ⟨h.sorted, h.past, ?_, ?_, h.answer⟩
    · exact (List.suffix_cons point inFlight).trans (way ▸ h.onTheWay)
    · show (appendLive s.history point).length ≤ _
      rw [appendLive_eq, length_keepLast]
      exact Nat.min_le_left _ _

variable {find}

theorem Inv.select (h : s.Inv) (preset : TimeRangePreset) (now : Date) :
    (s.step find devices scope id (.select preset now)).Inv := by
  unfold ChartWorld.step
  dsimp only
  split
  · exact h
  · exact ⟨h.sorted, h.past, h.onTheWay, h.short, by rintro points ⟨⟩⟩

theorem Inv.snapshot (h : s.Inv) (finds : FindsWithin find) :
    (s.step find devices scope id .snapshot).Inv := by
  unfold ChartWorld.step
  dsimp only
  split
  · next points answered =>
    obtain ⟨range, hrange, fetched⟩ := Option.bind_eq_some_iff.mp answered
    obtain ⟨short, within⟩ := fetchHistory_within devices scope id finds fetched
    refine ⟨h.sorted, h.past, h.onTheWay, h.short, fun points' same => ?_⟩
    obtain rfl := Option.some_inj.mp same
    refine ⟨short.trans historyFetchLimit_le, fun range' hrange' => ?_⟩
    obtain rfl := Option.some_inj.mp (hrange.symm.trans hrange')
    exact within
  · exact h

/-- A seed changes nothing, or puts the points in place of the samples. -/
theorem step_seed (s : ChartWorld) :
    ((∀ range points, s.selected = some range → s.fetched = some points →
        s.seedKey = some range.key) ∧ s.step find devices scope id .seed = s) ∨
      ∃ range points, s.selected = some range ∧ s.fetched = some points ∧
        s.seedKey ≠ some range.key ∧ s.step find devices scope id .seed =
          { s with seedKey := some range.key, seeded := some range, history := points } := by
  rcases Option.eq_none_or_eq_some s.selected with unselected | ⟨range, selected⟩
  · exact .inl ⟨by simp [unselected], by simp only [ChartWorld.step, unselected]⟩
  · rcases Option.eq_none_or_eq_some s.fetched with unfetched | ⟨points, fetched⟩
    · exact .inl ⟨by simp [unfetched], by simp only [ChartWorld.step, selected, unfetched]⟩
    · have seeds : s.step find devices scope id .seed = s.seedHistory points range := by
        simp only [ChartWorld.step, selected, fetched]
      rw [seeds]
      by_cases same : s.seedKey = some range.key
      · refine .inl ⟨fun range' points' selected' _ => ?_, if_pos same⟩
        rwa [← Option.some_inj.mp (selected.symm.trans selected')]
      · exact .inr ⟨range, points, selected, fetched, same, if_neg same⟩

theorem Inv.seed (h : s.Inv) : (s.step find devices scope id .seed).Inv := by
  rcases step_seed devices scope id s with
    ⟨-, same⟩ | ⟨range, points, -, fetched, -, replaced⟩
  · rwa [same]
  · rw [replaced]
    exact ⟨h.sorted, h.past, h.onTheWay, (h.answer points fetched).1, h.answer⟩

theorem Inv.step (h : s.Inv) (finds : FindsWithin find) (e : ChartEvent) :
    (s.step find devices scope id e).Inv := by
  cases e with
  | record elapsed payload => exact h.record find devices scope id elapsed payload
  | deliver => exact h.deliver find devices scope id
  | select preset now => exact h.select devices scope id preset now
  | snapshot => exact h.snapshot devices scope id finds
  | seed => exact h.seed devices scope id

/-! ## The range on the chart -/

theorem HasRange.record (has : s.HasRange) (h : s.Inv) (elapsed : Nat) (payload : Json) :
    (s.step find devices scope id (.record elapsed payload)).HasRange := by
  intro range seeded
  have covers := has range seeded
  let point : TelemetryPoint := ⟨payload, s.clock + elapsed⟩
  have drained : (s.step find devices scope id (.record elapsed payload)).drained =
      keepLast telemetryHistoryLimit (s.drained ++ [point]) := by
    show (s.inFlight ++ [point]).foldl appendLive s.history = _
    rw [List.foldl_append, List.foldl_cons, List.foldl_nil, appendLive_eq]
    rfl
  rw [drained]
  show Covers _ _ ((s.stored ++ [point]).filter range.admits) _ _
  rw [List.filter_append]
  have both : Covers (·.recordedAt) historyFetchLimit
      (s.stored.filter range.admits ++ [point].filter range.admits)
      ((s.drained ++ [point]).filter range.admits) s.drained.length := by
    rw [List.filter_append]
    refine (covers_append_iff ?_ ((List.pairwise_singleton _ _).filter _)).mpr covers
    intro old hold new hnew
    have hnew : new = point := List.mem_singleton.mp (List.mem_of_mem_filter hnew)
    rw [hnew]
    exact (h.past old (List.mem_of_mem_filter hold)).trans
      (Int.le_add_of_nonneg_right (Int.natCast_nonneg _))
  refine both.keepLast ?_ historyFetchLimit_le
  rw [List.length_append]
  exact Nat.le_add_right _ _

theorem HasRange.deliver (has : s.HasRange) :
    (s.step find devices scope id .deliver).HasRange := by
  rcases step_deliver find devices scope id s with ⟨-, same⟩ | ⟨point, inFlight, way, moved⟩
  · rwa [same]
  · have drained : (s.step find devices scope id .deliver).drained = s.drained := by
      rw [moved]
      show inFlight.foldl appendLive (appendLive s.history point) = _
      rw [ChartWorld.drained, way, List.foldl_cons]
    intro range seeded
    rw [drained]
    rw [moved] at seeded ⊢
    exact has range seeded

/-- The seeded points, cut to what the limit leaves of them. -/
theorem hasRange_seed_iff (h : s.Inv) {range : ResolvedTimeRange} {points : List TelemetryPoint}
    (selected : s.selected = some range) (fetched : s.fetched = some points) :
    Covers (·.recordedAt) historyFetchLimit (s.stored.filter range.admits)
        ((keepLast telemetryHistoryLimit (points ++ s.inFlight)).filter range.admits)
        (keepLast telemetryHistoryLimit (points ++ s.inFlight)).length ↔
      (s.inFlight.length < telemetryHistoryLimit →
        Covers (·.recordedAt) historyFetchLimit (s.delivered.filter range.admits) (s.kept points)
          ((s.kept points).length + s.inFlight.length)) := by
  by_cases few : s.inFlight.length < telemetryHistoryLimit
  · have cut : keepLast telemetryHistoryLimit (points ++ s.inFlight) =
        s.kept points ++ s.inFlight := by
      rw [keepLast, kept, List.length_append, List.drop_append_of_le_length (by omega)]
    have inside : (s.kept points).filter range.admits = s.kept points :=
      List.filter_eq_self.mpr fun point hpoint =>
        (h.answer points fetched).2 range selected point (List.mem_of_mem_drop hpoint)
    obtain ⟨sorted, newer⟩ := h.delivered_le
    have newer : ∀ a ∈ s.delivered.filter range.admits, ∀ b ∈ s.inFlight.filter range.admits,
        a.recordedAt ≤ b.recordedAt := fun a ha b hb =>
      newer a (List.mem_of_mem_filter ha) b (List.mem_of_mem_filter hb)
    rw [← h.delivered_append, List.filter_append, cut, List.filter_append, inside,
      List.length_append, covers_append_iff newer (sorted.filter range.admits)]
    exact ⟨fun covers _ => covers, fun covers => covers few⟩
  · -- the events on their way fill the buffer
    refine iff_of_true ?_ fun fewer => absurd fewer few
    have cut : keepLast telemetryHistoryLimit (points ++ s.inFlight) =
        keepLast telemetryHistoryLimit s.stored := by
      rw [← h.delivered_append, keepLast_append_of_le (not_lt.mp few),
        keepLast_append_of_le (not_lt.mp few)]
    rw [cut]
    exact (covers_self (h.sorted.filter range.admits) 0).keepLast (Nat.zero_le _)
      historyFetchLimit_le

/-- The events but a seed keep the range on the chart, and a seed does if its points fit. -/
theorem HasRange.step (has : s.HasRange) (h : s.Inv) (e : ChartEvent) (fits : s.SeedFits e) :
    (s.step find devices scope id e).HasRange := by
  cases e with
  | record elapsed payload => exact has.record devices scope id h elapsed payload
  | deliver => exact has.deliver devices scope id
  | select preset now =>
    unfold ChartWorld.step
    dsimp only
    split
    · exact has
    · exact has
  | snapshot =>
    unfold ChartWorld.step
    dsimp only
    split
    · exact has
    · exact has
  | seed =>
    rcases step_seed devices scope id s with
      ⟨-, same⟩ | ⟨range, points, selected, fetched, fresh, replaced⟩
    · rwa [same]
    · rw [replaced]
      rintro _ ⟨⟩
      have short := (h.answer points fetched).1
      rw [ChartWorld.drained, foldl_appendLive short]
      exact (hasRange_seed_iff h selected fetched).mpr (fits range points selected fetched fresh)

/-- Points that do not fit leave a sample out or show one twice. -/
theorem seedFits_of_hasRange (h : s.Inv) {e : ChartEvent}
    (after : (s.step find devices scope id e).HasRange) : s.SeedFits e := by
  cases e with
  | seed =>
    intro range points selected fetched fresh
    rcases step_seed devices scope id s with
      ⟨again, -⟩ | ⟨range', points', selected', fetched', -, replaced⟩
    · exact absurd (again range points selected fetched) fresh
    · obtain rfl := Option.some_inj.mp (selected.symm.trans selected')
      obtain rfl := Option.some_inj.mp (fetched.symm.trans fetched')
      rw [replaced] at after
      have covers := after range rfl
      have short := (h.answer points fetched).1
      rw [ChartWorld.drained, foldl_appendLive short] at covers
      exact (hasRange_seed_iff h selected fetched).mp covers
  | _ => trivial

theorem inv_empty : Inv {} :=
  ⟨List.Pairwise.nil, nofun, List.suffix_refl _, Nat.zero_le _, nofun⟩

end ChartWorld

open ChartWorld in
/-- After every event of a run the chart has each recorded sample of the range that it was seeded
for exactly once, as soon as the events on their way have arrived, exactly if every seed's points
are the samples of the range that have arrived by then. -/
theorem chart_history_iff (finds : FindsWithin find) (events : List ChartEvent) :
    (∀ pre, pre <+: events → (Run.exec (step find devices scope id) {} pre).HasRange) ↔
      Run.Meets (step find devices scope id) SeedFits {} events := by
  have implies : ∀ s : ChartWorld, s.Inv ∧ s.HasRange → s.HasRange := fun _ h => h.2
  exact Run.always_iff_meets implies
    (fun s e h fits => ⟨h.1.step devices scope id finds e, h.2.step devices scope id h.1 e fits⟩)
    (fun s e h after => seedFits_of_hasRange devices scope id h.1 after)
    ⟨inv_empty, nofun⟩ events

/-! ## Snapshots that fit -/

/-- A seed fits if the samples of the range that have arrived by then are those that were stored
when the snapshot was taken. -/
theorem ChartWorld.seedFits_of_unmoved (finds : FindsNewest find) {s : ChartWorld}
    (unmoved : ∀ range points, s.selected = some range → s.fetched = some points →
      ∃ stored, fetchHistory find devices scope id stored range = some points ∧
        (stored.filter range.admits).Perm (s.delivered.filter range.admits)) :
    s.SeedFits .seed := by
  intro range points selected fetched _ few
  obtain ⟨stored, taken, arrived⟩ := unmoved range points selected fetched
  have covers := (fetchHistory_covers devices scope id finds taken).congr arrived
  have split : points.take (points.length + s.inFlight.length - telemetryHistoryLimit) ++
      s.kept points = points := List.take_append_drop _ _
  have length := congrArg List.length split
  rw [List.length_append, List.length_take] at length
  have whole : Covers (·.recordedAt) historyFetchLimit (s.delivered.filter range.admits)
      (points.take (points.length + s.inFlight.length - telemetryHistoryLimit) ++ s.kept points)
      points.length := by
    rw [split]
    exact covers
  refine whole.drop ?_
  have limit := historyFetchLimit_le
  rcases Nat.eq_zero_or_pos (points.length + s.inFlight.length - telemetryHistoryLimit) with
    none | some
  · refine .inl ⟨by rw [none, List.take_zero], ?_⟩
    omega
  · refine .inr ?_
    omega

end

/-! ## A sample that is there twice -/

def newerFirst (a b : DeviceTelemetryEntity) : Prop := b.recordedAt ≤ a.recordedAt

instance : DecidableRel newerFirst := fun _ _ => inferInstanceAs (Decidable (_ ≤ _))

instance : Std.Total newerFirst := ⟨fun a b => le_total b.recordedAt a.recordedAt⟩

instance : IsTrans DeviceTelemetryEntity newerFirst := ⟨fun _ _ _ h h' => le_trans h' h⟩

/-- A repository that sorts its rows. -/
def findByDate (rows : List DeviceTelemetryEntity) (condition : DeviceTelemetryEntity → Bool)
    (limit : Option Value) : Except String (List DeviceTelemetryEntity) :=
  let sorted := (rows.filter condition).insertionSort newerFirst
  match limit with
  | some (.finite limit) => .ok (sorted.take ⌊limit⌋.toNat)
  | _ => .ok sorted

theorem findByDate_finds : FindsWithin findByDate ∧ FindsNewest findByDate := by
  have taken {rows : List DeviceTelemetryEntity} {condition : DeviceTelemetryEntity → Bool}
      {limit : Nat} {found : List DeviceTelemetryEntity}
      (h : findByDate rows condition (some (.finite limit)) = .ok found) :
      found = ((rows.filter condition).insertionSort newerFirst).take limit := by
    have answered := (Except.ok.inj h).symm
    rwa [Int.floor_natCast, Int.toNat_natCast] at answered
  constructor
  · intro rows condition limit found h
    obtain rfl := taken h
    refine ⟨List.length_take_le _ _, fun row hrow => ?_⟩
    have member := (List.perm_insertionSort _ _).mem_iff.mp (List.mem_of_mem_take hrow)
    exact (List.mem_filter.mp member).2
  · intro rows condition limit found h
    obtain rfl := taken h
    have sorted := List.pairwise_insertionSort newerFirst (rows.filter condition)
    have perm := List.perm_insertionSort newerFirst (rows.filter condition)
    generalize (rows.filter condition).insertionSort newerFirst = all at sorted perm ⊢
    rw [← List.take_append_drop limit all] at sorted perm
    obtain ⟨front, -, newer⟩ := List.pairwise_append.mp sorted
    refine ⟨front, all.drop limit, List.perm_append_comm.trans perm,
      fun r hr f hf => newer f hf r hr, ?_⟩
    rw [List.drop_eq_nil_iff, List.length_take]
    omega

def pumpSample : TelemetryPoint := ⟨.number 7, 50⟩

/-- The answer of the server has a sample whose event is still on its way when it is seeded. -/
def lateEvent : List ChartEvent :=
  [.record 50 (.number 7), .select .lastHour 100, .snapshot, .seed, .deliver]

def chartRelay : DeviceEntity :=
  { id := "d1", deviceId := "relay-1", name := "Relay", templateId := "t1", userId := "u1" }

theorem lateEvent_twice :
    ¬ ∀ pre, pre <+: lateEvent → (Run.exec
      (ChartWorld.step findByDate [chartRelay] .unrestricted "d1") {} pre).HasRange := by
  intro always
  have covers := always lateEvent (List.prefix_refl _) (resolveTimeRange .lastHour 100) rfl
  have history : (Run.exec (ChartWorld.step findByDate [chartRelay] .unrestricted "d1") {}
      lateEvent).drained = [pumpSample, pumpSample] := rfl
  have stored : (Run.exec (ChartWorld.step findByDate [chartRelay] .unrestricted "d1") {}
      lateEvent).stored = [pumpSample] := rfl
  rw [history, stored] at covers
  obtain ⟨dropped, perm, -⟩ := covers.rest
  have length : (dropped ++ [pumpSample, pumpSample]).length = 1 := perm.length_eq
  rw [List.length_append, List.length_cons, List.length_cons] at length
  omega

theorem chart_history_iff_lateEvent :
    (∀ pre, pre <+: lateEvent → (Run.exec
        (ChartWorld.step findByDate [chartRelay] .unrestricted "d1") {} pre).HasRange) ↔
      Run.Meets (ChartWorld.step findByDate [chartRelay] .unrestricted "d1") ChartWorld.SeedFits {}
        lateEvent :=
  chart_history_iff findByDate [chartRelay] .unrestricted "d1" findByDate_finds.1 lateEvent

end AiotCloud
