import AiotCloud.DashboardSnapshot
import AiotCloud.Ingress
import AiotCloud.Lib.Since

/-!
# The switch of a dashboard

An `ACTION` panel shows the value that was pressed, before the device has it, and gives it up when
the device reports it, when the gateway reports that it failed, when the call fails, or after eight
seconds. Otherwise it shows the value that was reported last, or that the row had when the page
loaded it.

1. `awaiting_iff`: when the panel shows a pressed value.
2. `switch_settles_iff`: when every rest of the page shows what the row has.
-/

namespace AiotCloud

/-! ## The panel -/

/-- What the panel renders from: the maps of the socket, the last point of the history, the row
that the page has loaded, and its own state. -/
structure ActionPanel where
  latestByDevice : Record LatestTelemetry := ∅
  lastPoint : Option Json := none
  channelStates : Option (Record String) := none
  actionResultAt : Option Date := none
  isPending : Bool := false
  optimisticValue : Option String := none
  timer : Option Date := none

inductive SwitchEvent where
  | receive (event : DeviceEvent)
  | seedHistory (lastPoint : Option Json)
  | fetched (channelStates : Option (Record String))
  | trigger (value : String)
  | onSuccess
  | onError
  | tick

def optimisticActionTimeoutMs : Int := 8000

/-- `a ?? b`. -/
def coalesce : Option Json → Option Json → Option Json
  | none, b | some .null, b => b
  | some a, _ => some a

namespace ActionPanel

section

variable (numberText : Rat → String) (deviceId field : String) (p : ActionPanel)

def currentValue : Option Json :=
  coalesce (latestField p.latestByDevice deviceId field)
    (coalesce (p.lastPoint.bind (·.fields field))
      ((p.channelStates.bind (·.lookup field)).map .string))

/-- `String(currentValue)`. -/
def currentText : Option String :=
  (p.currentValue deviceId field).bind fun value => (Ingress.jsString numberText value).toOption

def displayValue : Option Json :=
  (p.optimisticValue.map .string).or (p.currentValue deviceId field)

/-- The result of a command is an error of the channel that the panel has not seen. -/
def Denies : SwitchEvent → Prop
  | .receive (.actionResult id key _ ok _ changedAt) =>
    id = deviceId ∧ key = field ∧ ok = false ∧ p.actionResultAt ≠ some changedAt
  | _ => False

instance (event : SwitchEvent) : Decidable (p.Denies deviceId field event) := by
  unfold Denies
  split <;> infer_instance

/-- What the handlers of the socket set, and what the page loads. -/
def onEvent (event : DeviceEvent) : ActionPanel :=
  { p with
    latestByDevice := AiotCloud.onEvent p.latestByDevice event
    lastPoint := match event with
      | .telemetry id payload _ => if id = deviceId then some payload else p.lastPoint
      | _ => p.lastPoint
    actionResultAt := match event with
      | .actionResult id _ _ _ _ changedAt =>
        if id = deviceId then some changedAt else p.actionResultAt
      | _ => p.actionResultAt }

/-- The state that an event sets. The buttons are disabled while a call is pending. -/
def handle : SwitchEvent → ActionPanel
  | .receive event =>
    { p.onEvent deviceId event with
      optimisticValue :=
        if p.Denies deviceId field (.receive event) then none else p.optimisticValue }
  | .seedHistory lastPoint => { p with lastPoint := lastPoint }
  | .fetched channelStates => { p with channelStates := channelStates }
  | .trigger value =>
    if p.isPending then p else { p with isPending := true, optimisticValue := some value }
  | .onSuccess => { p with isPending := false }
  | .onError => if p.isPending then { p with isPending := false, optimisticValue := none } else p
  | .tick => p

/-- The timer is due. -/
def expire (now : Date) : ActionPanel :=
  if p.timer.any (· ≤ now) then { p with optimisticValue := none, timer := none } else p

/-- The effect that compares the pressed value with the current one. -/
def confirm : ActionPanel :=
  if p.optimisticValue.isSome ∧ p.currentText numberText deviceId field = p.optimisticValue then
    { p with optimisticValue := none }
  else p

/-- The effect that restarts the timer when the pressed value is another one. -/
def restart (now : Date) (before : Option String) : ActionPanel :=
  { p with
    timer := match p.optimisticValue with
      | none => none
      | some value =>
        if before = some value then p.timer else some (now + optimisticActionTimeoutMs) }

/-- An event, and the render and its effects after it. React may take two events that come at once
in one render, which shows only the later of two results. -/
def step (event : Date × SwitchEvent) : ActionPanel :=
  let due := p.expire event.1
  ((due.handle deviceId field event.2).confirm numberText deviceId field).restart event.1
    due.optimisticValue

end

/-! ## What is pressed -/

/-- The panel shows the value until the time. -/
def AwaitsUntil (awaited : String × Date) (p : ActionPanel) : Prop :=
  p.optimisticValue = some awaited.1 ∧ p.timer = some awaited.2

/-- The event leaves the pressed value. -/
def Leaves (deviceId field value : String) (p : ActionPanel) : SwitchEvent → Prop
  | .trigger other => p.isPending = true ∨ other = value
  | .onError => p.isPending = false
  | event => ¬ p.Denies deviceId field event

section

variable (numberText : Rat → String) (deviceId field : String)

/-- The press of a value that the panel does not show yet, which no other press is pending with. -/
structure Starts (awaited : String × Date) (p : ActionPanel) (event : Date × SwitchEvent) :
    Prop where
  pressed : event.2 = .trigger awaited.1
  idle : p.isPending = false
  new : (p.expire event.1).optimisticValue ≠ some awaited.1
  unconfirmed : p.currentText numberText deviceId field ≠ some awaited.1
  until_ : awaited.2 = event.1 + optimisticActionTimeoutMs

/-- An event in time that neither takes the value back nor reports it. -/
structure Keeps (awaited : String × Date) (p : ActionPanel) (event : Date × SwitchEvent) :
    Prop where
  inTime : event.1 < awaited.2
  leaves : p.Leaves deviceId field awaited.1 event.2
  unconfirmed : (p.step numberText deviceId field event).currentText numberText deviceId field ≠
    some awaited.1

end

section Step

variable {numberText : Rat → String} {deviceId field value : String} {p : ActionPanel} {now : Date}

/-- The timer runs while a pressed value is shown. -/
def Timed (p : ActionPanel) : Prop := p.optimisticValue.isSome → p.timer.isSome

theorem expire_optimisticValue_eq_some :
    (p.expire now).optimisticValue = some value ↔
      p.optimisticValue = some value ∧ ∀ due, p.timer = some due → now < due := by
  unfold expire
  cases htimer : p.timer with
  | none => simp
  | some due => by_cases passed : due ≤ now <;> simp [passed, not_lt.mpr, lt_of_not_ge]

theorem expire_timer (h : (p.expire now).optimisticValue = some value) :
    (p.expire now).timer = p.timer := by
  unfold expire at h ⊢
  split_ifs at h ⊢
  rfl

theorem expire_isPending (now : Date) : (p.expire now).isPending = p.isPending := by
  unfold expire
  split_ifs <;> rfl

theorem expire_currentText (now : Date) : (p.expire now).currentText numberText deviceId field =
    p.currentText numberText deviceId field := by
  unfold expire
  split_ifs <;> rfl

theorem expire_leaves (now : Date) {event : SwitchEvent} :
    (p.expire now).Leaves deviceId field value event ↔ p.Leaves deviceId field value event := by
  unfold expire
  split_ifs <;> rfl

theorem handle_optimisticValue_eq_some {event : SwitchEvent} :
    (p.handle deviceId field event).optimisticValue = some value ↔
      (event = .trigger value ∧ p.isPending = false) ∨
        p.optimisticValue = some value ∧ p.Leaves deviceId field value event := by
  cases event with
  | receive event =>
    by_cases denied : p.Denies deviceId field (.receive event) <;> simp [handle, Leaves, denied]
  | trigger other =>
    cases pending : p.isPending with
    | true => simp [handle, Leaves, pending]
    | false =>
      simp only [handle, Leaves, pending]
      grind
  | onError => cases pending : p.isPending <;> simp [handle, Leaves, pending]
  | seedHistory | fetched | onSuccess | tick => simp [handle, Leaves, Denies]

theorem confirm_currentText : (p.confirm numberText deviceId field).currentText numberText deviceId
    field = p.currentText numberText deviceId field := by
  unfold confirm
  split_ifs <;> rfl

theorem confirm_optimisticValue_eq_some :
    (p.confirm numberText deviceId field).optimisticValue = some value ↔
      p.optimisticValue = some value ∧ p.currentText numberText deviceId field ≠ some value := by
  unfold confirm
  cases h : p.optimisticValue with
  | none => simp [h]
  | some other =>
    by_cases same : p.currentText numberText deviceId field = some other
    · simp [same]
    · simp only [same, and_false, if_false, h]
      grind

theorem trigger_currentText {other : String} :
    ((p.expire now).handle deviceId field (.trigger other)).currentText numberText deviceId field =
      p.currentText numberText deviceId field := by
  refine Eq.trans ?_ (expire_currentText now)
  simp only [handle]
  split_ifs <;> rfl

theorem step_currentText (event : SwitchEvent) :
    (p.step numberText deviceId field (now, event)).currentText numberText deviceId field =
      ((p.expire now).handle deviceId field event).currentText numberText deviceId field :=
  confirm_currentText

theorem step_optimisticValue_eq_some {event : SwitchEvent} :
    (p.step numberText deviceId field (now, event)).optimisticValue = some value ↔
      ((event = .trigger value ∧ p.isPending = false) ∨
        (p.expire now).optimisticValue = some value ∧ p.Leaves deviceId field value event) ∧
      (p.step numberText deviceId field (now, event)).currentText numberText deviceId field ≠
        some value := by
  rw [step_currentText, ← expire_isPending now, ← expire_leaves now,
    ← handle_optimisticValue_eq_some]
  exact confirm_optimisticValue_eq_some

theorem step_timer {event : SwitchEvent}
    (h : (p.step numberText deviceId field (now, event)).optimisticValue = some value) :
    (p.step numberText deviceId field (now, event)).timer =
      if (p.expire now).optimisticValue = some value then p.timer
      else some (now + optimisticActionTimeoutMs) := by
  have same : (((p.expire now).handle deviceId field event).confirm numberText deviceId
      field).timer = (p.expire now).timer := by
    unfold confirm handle onEvent
    split_ifs <;> cases event <;> grind
  have shown : (((p.expire now).handle deviceId field event).confirm numberText deviceId
      field).optimisticValue = some value := h
  unfold step restart
  simp only [shown, same]
  split_ifs with awaited
  · exact expire_timer awaited
  · rfl

theorem Timed.step (timed : p.Timed) (event : Date × SwitchEvent) :
    (p.step numberText deviceId field event).Timed := by
  intro shown
  obtain ⟨value, hvalue⟩ := Option.isSome_iff_exists.mp shown
  rw [step_timer hvalue]
  split_ifs with awaited
  · exact timed (Option.isSome_iff_exists.mpr
      ⟨value, (expire_optimisticValue_eq_some.mp awaited).1⟩)
  · rfl

/-- A press that the panel does not show yet starts the time. Another press of the same value does
not start it anew. -/
theorem awaitsUntil_step_iff (awaited : String × Date) (p : ActionPanel)
    (event : Date × SwitchEvent) : (p.step numberText deviceId field event).AwaitsUntil awaited ↔
      Starts numberText deviceId field awaited p event ∨
        p.AwaitsUntil awaited ∧ Keeps numberText deviceId field awaited p event := by
  obtain ⟨value, due⟩ := awaited
  obtain ⟨now, event⟩ := event
  by_cases shows : (p.expire now).optimisticValue = some value
  · have ⟨shown, inTime⟩ := expire_optimisticValue_eq_some.mp shows
    constructor
    · rintro ⟨hvalue, hdue⟩
      rw [step_timer hvalue, if_pos shows] at hdue
      obtain ⟨how, unconfirmed⟩ := step_optimisticValue_eq_some.mp hvalue
      refine Or.inr ⟨⟨shown, hdue⟩, inTime due hdue, ?_, unconfirmed⟩
      rcases how with ⟨rfl, -⟩ | ⟨-, leaves⟩
      · exact Or.inr rfl
      · exact leaves
    · rintro (starts | ⟨⟨-, hdue⟩, keeps⟩)
      · exact absurd shows starts.new
      · have hvalue := step_optimisticValue_eq_some.mpr
          ⟨Or.inr ⟨shows, keeps.leaves⟩, keeps.unconfirmed⟩
        exact ⟨hvalue, (step_timer hvalue).trans ((if_pos shows).trans hdue)⟩
  · constructor
    · rintro ⟨hvalue, hdue⟩
      rw [step_timer hvalue, if_neg shows] at hdue
      obtain ⟨how, unconfirmed⟩ := step_optimisticValue_eq_some.mp hvalue
      obtain ⟨rfl, idle⟩ := how.resolve_right fun h => shows h.1
      refine Or.inl ⟨rfl, idle, shows, ?_, (Option.some.inj hdue).symm⟩
      rwa [step_currentText, trigger_currentText] at unconfirmed
    · rintro (starts | ⟨⟨shown, hdue⟩, keeps⟩)
      · obtain ⟨rfl, idle, -, unconfirmed, hdue⟩ := starts
        dsimp only at hdue unconfirmed
        have hvalue : (p.step numberText deviceId field (now, .trigger value)).optimisticValue =
            some value :=
          step_optimisticValue_eq_some.mpr ⟨Or.inl ⟨rfl, idle⟩, by
            rwa [step_currentText, trigger_currentText]⟩
        exact ⟨hvalue, (step_timer hvalue).trans ((if_neg shows).trans (congrArg some hdue.symm))⟩
      · refine absurd (expire_optimisticValue_eq_some.mpr ⟨shown, fun other h => ?_⟩) shows
        obtain rfl : due = other := Option.some.inj (hdue.symm.trans h)
        exact keeps.inTime

end Step

/-! ## Runs of a panel -/

section Runs

variable {numberText : Rat → String} {deviceId field : String} {p : ActionPanel}

/-- A panel that has been opened shows a pressed value exactly if it was pressed less than eight
seconds ago, and since then nothing took it back or reported it. -/
theorem awaiting_iff (opened : p.optimisticValue = none) (events : List (Date × SwitchEvent))
    (value : String) :
    (Run.exec (step numberText deviceId field) p events).optimisticValue = some value ↔
      ∃ due, Run.Since (step numberText deviceId field) (Starts numberText deviceId field)
        (Keeps numberText deviceId field) p events (value, due) := by
  have since (due : Date) :
      (Run.exec (step numberText deviceId field) p events).AwaitsUntil (value, due) ↔
        Run.Since (step numberText deviceId field) (Starts numberText deviceId field)
          (Keeps numberText deviceId field) p events (value, due) :=
    Run.exec_iff_since awaitsUntil_step_iff
      (fun h => Option.some_ne_none value (h.1.symm.trans opened)) events
  simp only [← since]
  constructor
  · intro shown
    have keeps : ∀ (p : ActionPanel) event, p.Timed →
        (p.step numberText deviceId field event).Timed := fun _ event h => h.step event
    have start : p.Timed := fun shown => by simp [opened] at shown
    have timed := Run.invariant keeps start events
    obtain ⟨due, hdue⟩ := Option.isSome_iff_exists.mp
      (timed (Option.isSome_iff_exists.mpr ⟨value, shown⟩))
    exact ⟨due, shown, hdue⟩
  · rintro ⟨due, shown, -⟩
    exact shown

/-- Pressed, sent, and an error of another channel. -/
theorem awaiting_iff_sent : ∃ due, Run.Since (step (fun _ => "") "node-1" "relay1")
    (Starts (fun _ => "") "node-1" "relay1") (Keeps (fun _ => "") "node-1" "relay1")
    {} [(1000, .trigger "ON"), (1200, .onSuccess),
      (1500, .receive (.actionResult "node-1" "relay2" none false none 1490))] ("ON", due) :=
  (awaiting_iff rfl _ "ON").mp rfl

end Runs

end ActionPanel

/-! ## The page and the row -/

/-- The row of the device, the events and the answers that are on their way to a page in its room,
and the panel. -/
structure SwitchWorld where
  device : DeviceEntity
  inFlight : List DeviceEvent := []
  answers : List (Option (Record String)) := []
  panel : ActionPanel

/-- A message is handled, the query of the page reads the row, the page gets the next event or
answer, or something happens on the page. -/
inductive SwitchStep where
  | handle (message : DeviceMessage)
  | query
  | deliver (now : Date)
  | answer (now : Date)
  | seedHistory (now : Date) (lastPoint : Option Json)
  | trigger (now : Date) (value : String)
  | onSuccess (now : Date)
  | onError (now : Date)
  | tick (now : Date)

namespace SwitchWorld

section

variable (numberText : Rat → String) (deviceId field : String)

/-- The page joins the room with a row that it has loaded. -/
def join (device : DeviceEntity) (loaded : Option (Record String)) : SwitchWorld :=
  { device := device, panel := { channelStates := loaded } }

/-- The panel gets an event. -/
def render (w : SwitchWorld) (now : Date) (event : SwitchEvent) : SwitchWorld :=
  { w with panel := w.panel.step numberText deviceId field (now, event) }

def step (w : SwitchWorld) : SwitchStep → SwitchWorld
  | .handle message =>
    let handled := message.handle w.device.deviceId (some w.device)
    { w with
      device := handled.row w.device
      inFlight := w.inFlight ++ handled.events.map (·.withDeviceId deviceId) }
  | .query => { w with answers := w.answers ++ [w.device.channelStates] }
  | .deliver now =>
    match w.inFlight with
    | [] => w
    | event :: inFlight =>
      { w with inFlight := inFlight }.render numberText deviceId field now (.receive event)
  | .answer now =>
    match w.answers with
    | [] => w
    | channelStates :: answers =>
      { w with answers := answers }.render numberText deviceId field now (.fetched channelStates)
  | .seedHistory now lastPoint => w.render numberText deviceId field now (.seedHistory lastPoint)
  | .trigger now value => w.render numberText deviceId field now (.trigger value)
  | .onSuccess now => w.render numberText deviceId field now .onSuccess
  | .onError now => w.render numberText deviceId field now .onError
  | .tick now => w.render numberText deviceId field now .tick

end

/-- What the page has of the device when everything that is sent has come. -/
def watched (w : SwitchWorld) : Watched :=
  ⟨w.device, w.inFlight.foldl onEvent w.panel.latestByDevice⟩

end SwitchWorld

/-- Telemetry does not report the field. -/
def SwitchStep.Quiet (field : String) : SwitchStep → Prop
  | handle (.telemetry _ payload) => (normalizePayload payload).fields field = none
  | seedHistory _ lastPoint => lastPoint.bind (·.fields field) = none
  | _ => True

/-- An event without a telemetry value of the field. -/
def QuietEvent (field : String) : DeviceEvent → Prop
  | .telemetry _ payload _ => payload.fields field = none
  | _ => True

section Settles

variable {numberText : Rat → String} {deviceId field : String}

/-- What the panel renders the current value from. -/
def ActionPanel.sources (p : ActionPanel) :
    Record LatestTelemetry × Option Json × Option (Record String) :=
  (p.latestByDevice, p.lastPoint, p.channelStates)

theorem step_sources (p : ActionPanel) (now : Date) (event : SwitchEvent) :
    (p.step numberText deviceId field (now, event)).sources =
      (p.handle deviceId field event).sources := by
  have confirmed (q : ActionPanel) : (q.confirm numberText deviceId field).sources = q.sources := by
    unfold ActionPanel.confirm
    split_ifs <;> rfl
  have handled : ((p.expire now).handle deviceId field event).sources =
      (p.handle deviceId field event).sources := by
    unfold ActionPanel.expire
    split_ifs
    · cases event <;> simp only [ActionPanel.handle] <;> first | rfl | (split_ifs <;> rfl)
    · rfl
  exact (confirmed _).trans handled

/-- The page has the state of the channel, or will have it when everything that is sent has come. -/
structure SwitchWorld.Told (deviceId field : String) (w : SwitchWorld) : Prop where
  shown : ∀ value, w.watched.field deviceId field = some value →
    ∃ state, value = .string state ∧ w.device.channelState field = some state
  loaded : w.watched.field deviceId field = none →
    ∀ snapshot ∈ w.panel.channelStates :: w.answers,
      snapshot.bind (·.lookup field) = w.device.channelState field
  quiet : ∀ event ∈ w.inFlight, QuietEvent field event
  lastPoint : w.panel.lastPoint.bind (·.fields field) = none

namespace SwitchWorld

variable {w : SwitchWorld}

/-- What a message sends of the channel is its state afterwards; without that, the state is as
before. -/
theorem sent_channel (deviceId : String) (v : Watched) {message : DeviceMessage}
    (quiet : (SwitchStep.handle message).Quiet field) :
    (v.sent message field = none ∧
        (v.step deviceId message).device.channelState field = v.device.channelState field) ∨
      ∃ state, v.sent message field = some (.string state) ∧
        (v.step deviceId message).device.channelState field = some state := by
  rw [channelState_step]
  cases message with
  | telemetry now payload => exact Or.inl ⟨quiet, rfl⟩
  | status now payload => exact Or.inl ⟨rfl, rfl⟩
  | event now envelope =>
    simp only [Watched.sent, LastWriter.spread, DeviceMessage.channelValue]
    cases happlied : (DeviceMessage.event now envelope).applied with
    | none => exact Or.inl ⟨rfl, rfl⟩
    | some set =>
      obtain ⟨key, value⟩ := set
      simp only [Option.bind_some, lookup_mergeChannelState]
      by_cases same : field = key
      · exact Or.inr ⟨value, by simp [same], by simp [same]⟩
      · cases v.device.channelState field with
        | none => exact Or.inl ⟨by simp [same], by simp [same]⟩
        | some state => exact Or.inr ⟨state, by simp [same], by simp [same]⟩

theorem handle_quietEvent (device : DeviceEntity) {message : DeviceMessage}
    (quiet : (SwitchStep.handle message).Quiet field) :
    ∀ event ∈ (message.handle device.deviceId (some device)).events,
      QuietEvent field (event.withDeviceId deviceId) := by
  have online (changedAt : Date) : ∀ event ∈ cameOnline device device.deviceId changedAt,
      QuietEvent field (event.withDeviceId deviceId) := by
    unfold cameOnline
    split_ifs <;> simp [QuietEvent, DeviceEvent.withDeviceId]
  cases message with
  | telemetry now payload => exact List.forall_mem_cons.mpr ⟨quiet, online now⟩
  | status now payload =>
    dsimp only [DeviceMessage.handle, handleDeviceStatusMessage]
    cases parseStatusPayload payload with
    | none => simp
    | some status =>
      dsimp only
      split_ifs <;> simp [QuietEvent, DeviceEvent.withDeviceId]
  | event now envelope =>
    dsimp only [DeviceMessage.handle, handleDeviceChannelEvent]
    split_ifs
    · refine List.forall_mem_append.mpr ⟨?_, online now⟩
      cases envelope.channel <;> simp [QuietEvent, DeviceEvent.withDeviceId]
    · cases envelope.channel with
      | none => simp
      | some key =>
        refine List.forall_mem_append.mpr ⟨?_, online now⟩
        simp [QuietEvent, DeviceEvent.withDeviceId]

theorem Told.handle (told : w.Told deviceId field) {message : DeviceMessage}
    (quiet : (SwitchStep.handle message).Quiet field) :
    (w.step numberText deviceId field (.handle message)).Told deviceId field := by
  have next : (w.step numberText deviceId field (.handle message)).watched =
      w.watched.step deviceId message := by
    unfold watched Watched.step
    exact congrArg _ List.foldl_append
  have field_eq : (w.step numberText deviceId field (.handle message)).watched.field deviceId
      field = (w.watched.sent message field).or (w.watched.field deviceId field) := by
    rw [next, field_step]
    rfl
  have row_eq : (w.step numberText deviceId field (.handle message)).device =
      (w.watched.step deviceId message).device := rfl
  refine ⟨fun value hvalue => ?_, fun absent => ?_,
    List.forall_mem_append.mpr ⟨told.quiet, List.forall_mem_map.mpr ?_⟩, told.lastPoint⟩
  · rw [field_eq] at hvalue
    rw [row_eq]
    rcases sent_channel deviceId w.watched quiet with
      ⟨sent, state⟩ | ⟨state, sent, hstate⟩
    · rw [sent, Option.none_or] at hvalue
      rw [state]
      exact told.shown value hvalue
    · rw [sent, Option.some_or] at hvalue
      exact ⟨state, (Option.some.inj hvalue).symm, hstate⟩
  · rw [field_eq, Option.or_eq_none_iff] at absent
    rw [row_eq]
    rcases sent_channel deviceId w.watched quiet with
      ⟨-, state⟩ | ⟨state, sent, -⟩
    · rw [state]
      exact told.loaded absent.2
    · rw [sent] at absent
      cases absent.1
  · exact handle_quietEvent w.device quiet

/-- It is up to the row, what is on its way, and what the panel renders from. -/
theorem Told.of_sources (told : w.Told deviceId field) {w' : SwitchWorld}
    (device : w'.device = w.device) (inFlight : w'.inFlight = w.inFlight)
    (answers : w'.answers = w.answers) (sources : w'.panel.sources = w.panel.sources) :
    w'.Told deviceId field := by
  simp only [ActionPanel.sources, Prod.mk.injEq] at sources
  obtain ⟨latest, lastPoint, channelStates⟩ := sources
  have watched_eq : w'.watched = w.watched := by
    unfold watched
    rw [device, inFlight, latest]
  refine ⟨?_, ?_, ?_, ?_⟩
  · rw [watched_eq, device]
    exact told.shown
  · rw [watched_eq, device, answers, channelStates]
    exact told.loaded
  · rw [inFlight]
    exact told.quiet
  · rw [lastPoint]
    exact told.lastPoint

/-- An event that changes nothing the panel renders from. -/
theorem Told.render (told : w.Told deviceId field) (now : Date) {event : SwitchEvent}
    (same : (w.panel.handle deviceId field event).sources = w.panel.sources) :
    (w.render numberText deviceId field now event).Told deviceId field :=
  told.of_sources rfl rfl rfl ((step_sources w.panel now event).trans same)

theorem Told.deliver (told : w.Told deviceId field) (now : Date) :
    (w.step numberText deviceId field (.deliver now)).Told deviceId field := by
  unfold SwitchWorld.step
  cases hflight : w.inFlight with
  | nil => exact told
  | cons event inFlight =>
    have quiet := told.quiet
    rw [hflight] at quiet
    obtain ⟨first, rest⟩ := List.forall_mem_cons.mp quiet
    -- the same world, with the event merged but the panel not rendered
    have merged : ({ w with
        inFlight := inFlight
        panel := w.panel.onEvent deviceId event } : SwitchWorld).Told deviceId field := by
      have watched_eq : w.watched = ⟨w.device, inFlight.foldl AiotCloud.onEvent
          (AiotCloud.onEvent w.panel.latestByDevice event)⟩ := by
        unfold watched
        rw [hflight]
        rfl
      have shown := told.shown
      have loaded := told.loaded
      rw [watched_eq] at shown loaded
      refine ⟨shown, loaded, rest, ?_⟩
      cases event with
      | telemetry id payload recordedAt =>
        simp only [ActionPanel.onEvent]
        split_ifs
        · exact first
        · exact told.lastPoint
      | status | channelState | actionResult | otaStatus => exact told.lastPoint
    exact merged.of_sources rfl rfl rfl (step_sources w.panel now (.receive event))

theorem Told.answer (told : w.Told deviceId field) (now : Date) :
    (w.step numberText deviceId field (.answer now)).Told deviceId field := by
  unfold SwitchWorld.step
  cases hanswers : w.answers with
  | nil => exact told
  | cons channelStates answers =>
    have set : ({ w with
        answers := answers
        panel := { w.panel with channelStates := channelStates } } : SwitchWorld).Told deviceId
          field := by
      refine ⟨told.shown, fun absent snapshot hsnapshot => ?_, told.quiet, told.lastPoint⟩
      refine told.loaded absent snapshot (List.mem_cons_of_mem _ ?_)
      rwa [hanswers]
    exact set.of_sources rfl rfl rfl (step_sources w.panel now (.fetched channelStates))

theorem Told.step (told : w.Told deviceId field) {s : SwitchStep} (quiet : s.Quiet field) :
    (w.step numberText deviceId field s).Told deviceId field := by
  cases s with
  | handle message => exact told.handle quiet
  | query =>
    refine ⟨told.shown, fun absent snapshot hsnapshot => ?_, told.quiet, told.lastPoint⟩
    have either : snapshot ∈ (w.panel.channelStates :: w.answers) ++ [w.device.channelStates] :=
      hsnapshot
    rcases List.mem_append.mp either with old | new
    · exact told.loaded absent snapshot old
    · rw [List.mem_singleton.mp new]
      rfl
  | deliver now => exact told.deliver now
  | answer now => exact told.answer now
  | seedHistory now lastPoint =>
    have set : ({ w with panel := { w.panel with lastPoint := lastPoint } } :
        SwitchWorld).Told deviceId field :=
      ⟨told.shown, told.loaded, told.quiet, quiet⟩
    exact set.of_sources rfl rfl rfl (step_sources w.panel now (.seedHistory lastPoint))
  | trigger now value =>
    refine told.render now ?_
    simp only [ActionPanel.handle]
    split_ifs <;> rfl
  | onError now =>
    refine told.render now ?_
    simp only [ActionPanel.handle]
    split_ifs <;> rfl
  | onSuccess now | tick now => exact told.render now rfl

/-- The current value of a page that everything sent has come to. -/
theorem Told.currentValue (told : w.Told deviceId field) (delivered : w.inFlight = []) :
    w.panel.currentValue deviceId field = (w.device.channelState field).map .string := by
  have watched_eq : w.watched.field deviceId field =
      latestField w.panel.latestByDevice deviceId field := by
    unfold watched
    rw [delivered]
    rfl
  unfold ActionPanel.currentValue
  rw [← watched_eq, told.lastPoint]
  cases hfield : w.watched.field deviceId field with
  | none =>
    rw [told.loaded hfield _ List.mem_cons_self]
    rfl
  | some value =>
    obtain ⟨state, rfl, hstate⟩ := told.shown value hfield
    rw [hstate]
    rfl

/-- A step leaves the panel, or is an event of it. -/
theorem panel_step_cases (w : SwitchWorld) (s : SwitchStep) :
    (w.step numberText deviceId field s).panel = w.panel ∨ ∃ now event,
      (w.step numberText deviceId field s).panel =
        w.panel.step numberText deviceId field (now, event) ∧
      ∀ value, event = .trigger value → s = .trigger now value := by
  cases s with
  | handle | query => exact Or.inl rfl
  | deliver now =>
    unfold step
    cases w.inFlight with
    | nil => exact Or.inl rfl
    | cons event inFlight => exact Or.inr ⟨now, .receive event, rfl, fun _ => nofun⟩
  | answer now =>
    unfold step
    cases w.answers with
    | nil => exact Or.inl rfl
    | cons channelStates answers =>
      exact Or.inr ⟨now, .fetched channelStates, rfl, fun _ => nofun⟩
  | seedHistory now lastPoint => exact Or.inr ⟨now, .seedHistory lastPoint, rfl, fun _ => nofun⟩
  | trigger now value =>
    refine Or.inr ⟨now, .trigger value, rfl, ?_⟩
    rintro _ ⟨⟩
    rfl
  | onSuccess now => exact Or.inr ⟨now, .onSuccess, rfl, fun _ => nofun⟩
  | onError now => exact Or.inr ⟨now, .onError, rfl, fun _ => nofun⟩
  | tick now => exact Or.inr ⟨now, .tick, rfl, fun _ => nofun⟩

theorem timed_step (w : SwitchWorld) (s : SwitchStep) (timed : w.panel.Timed) :
    (w.step numberText deviceId field s).panel.Timed := by
  rcases panel_step_cases w s with same | ⟨now, event, rendered, -⟩
  · rwa [same]
  · rw [rendered]
    exact timed.step (now, event)

/-- A pressed value is shown since some press, for eight seconds. -/
theorem pressed_of_awaits (device : DeviceEntity) (loaded : Option (Record String))
    (steps : List SwitchStep) {awaited : String × Date}
    (awaits : (Run.exec (step numberText deviceId field) (join device loaded)
      steps).panel.AwaitsUntil awaited) :
    ∃ pressedAt value, .trigger pressedAt value ∈ steps ∧
      awaited.2 = pressedAt + optimisticActionTimeoutMs := by
  induction steps using List.reverseRecOn with
  | nil => exact absurd awaits.1 (Option.some_ne_none _).symm
  | append_singleton steps s ih =>
    have earlier (before : (Run.exec (step numberText deviceId field) (join device loaded)
        steps).panel.AwaitsUntil awaited) : ∃ pressedAt value,
          .trigger pressedAt value ∈ steps ++ [s] ∧
            awaited.2 = pressedAt + optimisticActionTimeoutMs := by
      obtain ⟨pressedAt, value, pressed, hdue⟩ := ih before
      exact ⟨pressedAt, value, List.mem_append_left _ pressed, hdue⟩
    rw [Run.exec_append, Run.exec_cons, Run.exec_nil] at awaits
    rcases panel_step_cases _ s with same | ⟨now, event, rendered, isTrigger⟩
    · rw [same] at awaits
      exact earlier awaits
    · rw [rendered, ActionPanel.awaitsUntil_step_iff] at awaits
      rcases awaits with starts | ⟨before, -⟩
      · rw [isTrigger awaited.1 starts.pressed]
        exact ⟨now, awaited.1, by simp, starts.until_⟩
      · exact earlier before

/-- Eight seconds after the last press. -/
theorem settled_after (device : DeviceEntity) (loaded : Option (Record String))
    {steps : List SwitchStep} {now : Date}
    (old : ∀ pressedAt value, .trigger pressedAt value ∈ steps →
      pressedAt + optimisticActionTimeoutMs ≤ now) :
    (Run.exec (step numberText deviceId field) (join device loaded)
      (steps ++ [.tick now])).panel.optimisticValue = none := by
  rw [Run.exec_append, Run.exec_cons, Run.exec_nil]
  rw [Option.eq_none_iff_forall_ne_some]
  intro value shown
  have opened : (join device loaded).panel.Timed := fun shown => absurd shown Bool.false_ne_true
  have timed : (Run.exec (step numberText deviceId field) (join device loaded) steps).panel.Timed :=
    Run.invariant timed_step opened steps
  obtain ⟨how, -⟩ := ActionPanel.step_optimisticValue_eq_some.mp shown
  obtain ⟨awaited, -⟩ := how.resolve_left (by rintro ⟨⟨⟩, -⟩)
  obtain ⟨awaits, inTime⟩ := ActionPanel.expire_optimisticValue_eq_some.mp awaited
  obtain ⟨due, hdue⟩ := Option.isSome_iff_exists.mp
    (timed (Option.isSome_iff_exists.mpr ⟨value, awaits⟩))
  have awaitsUntil : (Run.exec (step numberText deviceId field) (join device loaded)
      steps).panel.AwaitsUntil (value, due) := ⟨awaits, hdue⟩
  obtain ⟨pressedAt, other, pressed, rfl⟩ := pressed_of_awaits device loaded steps awaitsUntil
  exact absurd (inTime _ hdue) (not_lt.mpr (old pressedAt other pressed))

theorem told_join_iff {device : DeviceEntity} {loaded : Option (Record String)} :
    (join device loaded).Told deviceId field ↔
      loaded.bind (·.lookup field) = device.channelState field := by
  constructor
  · exact fun told => told.loaded rfl loaded List.mem_cons_self
  · intro same
    refine ⟨nofun, fun _ snapshot hsnapshot => ?_, List.forall_mem_nil _, rfl⟩
    rw [List.mem_singleton.mp hsnapshot]
    exact same

/-- A page that has been in the room since it loaded the row, of a channel that telemetry does not
report. Whenever all events have come and no press is younger than eight seconds, its switch shows
what the row has, whatever was pressed, failed, denied and fetched meanwhile, exactly if the row
that it loaded had the state that the channel had when the page joined. -/
theorem switch_settles_iff (numberText : Rat → String) (deviceId field : String)
    (device : DeviceEntity) (loaded : Option (Record String)) :
    (∀ steps : List SwitchStep, (∀ s ∈ steps, s.Quiet field) → ∀ now,
        (∀ pressedAt value, .trigger pressedAt value ∈ steps →
          pressedAt + optimisticActionTimeoutMs ≤ now) →
        let w := Run.exec (step numberText deviceId field) (join device loaded)
          (steps ++ [.tick now])
        w.inFlight = [] →
          w.panel.displayValue deviceId field = (w.device.channelState field).map .string) ↔
      loaded.bind (·.lookup field) = device.channelState field := by
  constructor
  · intro settles
    have shown := settles [] (List.forall_mem_nil _) 0 nofun rfl
    have loaded_eq : (loaded.bind (·.lookup field)).map Json.string =
        (device.channelState field).map .string := shown
    exact Option.map_injective (fun _ _ => Json.string.inj) loaded_eq
  · intro same steps quiet now old w delivered
    have told : w.Told deviceId field := by
      refine Run.invariant_of_meets (fun _ _ told quiet => told.step quiet)
        (told_join_iff.mpr same) (Run.meets_const_iff.mpr ?_)
      exact List.forall_mem_append.mpr ⟨quiet, List.forall_mem_singleton.mpr trivial⟩
    have settled : w.panel.optimisticValue = none := settled_after device loaded old
    unfold ActionPanel.displayValue
    rw [settled, told.currentValue delivered]
    rfl

end SwitchWorld

end Settles

end AiotCloud
