import AiotCloud.ActionDispatch

/-!
# Buttons of the dashboard

The requests that the buttons of `DevicePanel`, `ToggleAction` and `ButtonAction` send, which
fill in `ON` and `OFF` where the template has no value, and the checks of
`triggerDeviceAction`, which compares with the stored values of the first action with the key.

`buttons_accepted_iff`: every button passes the checks exactly if the first toggles of the
schema take the values that are filled in, and what their keys are repeated with.
-/

namespace AiotCloud

/-! ## Requests -/

/-- What the validation pipe lets through of an entry of an `actionSchema`. -/
structure ActionFieldDefinition.Accepted (action : ActionFieldDefinition) : Prop where
  key : StringField action.key
  label : StringField action.label
  onValue : StringFieldOptional action.onValue
  offValue : StringFieldOptional action.offValue

def ActionFieldDefinition.onValueOrDefault (action : ActionFieldDefinition) : String :=
  action.onValue.getD "ON"

def ActionFieldDefinition.offValueOrDefault (action : ActionFieldDefinition) : String :=
  action.offValue.getD "OFF"

namespace DevicePanel

def handleTrigger (actionDef : ActionFieldDefinition) (value : String) : TriggerDeviceActionDto :=
  ⟨actionDef.key, value⟩

def handleToggle (actionDef : ActionFieldDefinition) (checked : Bool) : TriggerDeviceActionDto :=
  handleTrigger actionDef
    (if checked then actionDef.onValueOrDefault else actionDef.offValueOrDefault)

/-- What the buttons of the panel of a field send: its switch, or its two buttons. -/
def requests (template : Option DeviceTemplateEntity) (field : String) :
    List TriggerDeviceActionDto :=
  match findAction template field with
  | none => []
  | some actionDef =>
    if actionDef.type = .toggle then [handleToggle actionDef true, handleToggle actionDef false]
    else [handleTrigger actionDef actionDef.onValueOrDefault,
      handleTrigger actionDef actionDef.offValueOrDefault]

end DevicePanel

def ToggleAction.requests (action : ActionFieldDefinition) : List TriggerDeviceActionDto :=
  [⟨action.key, action.onValueOrDefault⟩, ⟨action.key, action.offValueOrDefault⟩]

def ButtonAction.requests (action : ActionFieldDefinition) : List TriggerDeviceActionDto :=
  [⟨action.key, action.key⟩]

/-- One component for each entry of the schema. -/
def DeviceActionsPanel.requests (template : Option DeviceTemplateEntity) :
    List TriggerDeviceActionDto :=
  (actionSchema template).flatMap fun action =>
    if action.type = .toggle then ToggleAction.requests action else ButtonAction.requests action

/-- Some button sends the request. -/
def Sends (template : Option DeviceTemplateEntity) (request : TriggerDeviceActionDto) : Prop :=
  (∃ field, request ∈ DevicePanel.requests template field) ∨
    request ∈ DeviceActionsPanel.requests template

/-! ## Checks -/

/-- The response is not the one of a failed check of the key or the value. -/
def PassesChecks (env : ApiConfig) (brokers : Brokers) (now : Date)
    (template : Option DeviceTemplateEntity) (device : DeviceEntity)
    (request : TriggerDeviceActionDto) : Prop :=
  let response := (triggerDeviceAction env brokers now template request (some device)).1
  response ≠ .fail .badRequest "error.deviceActionNotFound" ∧
    response ≠ .fail .badRequest "error.deviceActionInvalidValue"

/-- The values that a component fills in for an entry. -/
def ActionFieldDefinition.sends (action : ActionFieldDefinition) : List String :=
  if action.type = .toggle then [action.onValueOrDefault, action.offValueOrDefault]
  else [action.key]

/-- A toggle has both values, or the one it has is what the other is filled in with. -/
structure FilledIn (action : ActionFieldDefinition) : Prop where
  onValue : action.onValue ≠ none ∨ action.offValue = some "ON"
  offValue : action.offValue ≠ none ∨ action.onValue = some "OFF"

/-- The first action of a key, if it is a toggle, is filled in with its own values, and so is
every other action with the key. -/
def SchemaFits (template : Option DeviceTemplateEntity) : Prop :=
  ∀ first, findAction template first.key = some first → first.type = .toggle →
    FilledIn first ∧
    ∀ action ∈ actionSchema template, action ≠ first → action.key = first.key →
      ∀ value ∈ action.sends, some value = first.onValue ∨ some value = first.offValue

theorem findAction_key {template : Option DeviceTemplateEntity} {key : String}
    {action : ActionFieldDefinition} (h : findAction template key = some action) :
    action.key = key := by
  simpa using List.find?_some h

theorem dispatchAction_passes (env : ApiConfig) (brokers : Brokers) (now : Date)
    (device : DeviceEntity) (request : TriggerDeviceActionDto) {message : String} :
    (dispatchAction env brokers now device request).1 ≠ .fail .badRequest message := by
  unfold dispatchAction
  split
  · simp [ResponseCore.ok, ResponseCore.fail]
  · simp [ResponseCore.fail]

theorem passesChecks_iff {device : DeviceEntity}
    (push : device.pushChannel = .mqtt ∨ device.pushChannel = .kafka) (env : ApiConfig)
    (brokers : Brokers) (now : Date) (template : Option DeviceTemplateEntity)
    (request : TriggerDeviceActionDto) :
    PassesChecks env brokers now template device request ↔ ActionAccepted template request := by
  constructor
  · rintro ⟨found, valid⟩
    cases hfind : findAction template request.key with
    | none => simp [triggerDeviceAction, hfind] at found
    | some action =>
      by_cases takes : action.takes request.value
      · exact ⟨action, hfind, takes⟩
      · simp [triggerDeviceAction, hfind, takes] at valid
  · intro accepted
    unfold PassesChecks
    rw [triggerDeviceAction_of_accepted accepted push]
    exact ⟨dispatchAction_passes env brokers now device request,
      dispatchAction_passes env brokers now device request⟩

/-! ## Agreement -/

/-- Every entry is behind the first one of its key. -/
theorem findAction_of_mem {template : Option DeviceTemplateEntity}
    {action : ActionFieldDefinition} (h : action ∈ actionSchema template) :
    ∃ first, findAction template action.key = some first := by
  rw [← Option.isSome_iff_exists, findAction, List.find?_isSome]
  exact ⟨action, h, by simp⟩

theorem mem_devicePanel_iff {template : Option DeviceTemplateEntity} {field : String}
    {request : TriggerDeviceActionDto} :
    request ∈ DevicePanel.requests template field ↔
      ∃ first, findAction template field = some first ∧
        (request = ⟨first.key, first.onValueOrDefault⟩ ∨
          request = ⟨first.key, first.offValueOrDefault⟩) := by
  unfold DevicePanel.requests
  cases hfind : findAction template field with
  | none => simp
  | some first =>
    by_cases toggle : first.type = .toggle <;>
      simp [toggle, DevicePanel.handleToggle, DevicePanel.handleTrigger]

theorem mem_deviceActionsPanel_iff {template : Option DeviceTemplateEntity}
    {request : TriggerDeviceActionDto} :
    request ∈ DeviceActionsPanel.requests template ↔
      ∃ action ∈ actionSchema template, ∃ value ∈ action.sends, request = ⟨action.key, value⟩ := by
  unfold DeviceActionsPanel.requests
  rw [List.mem_flatMap]
  refine exists_congr fun action => and_congr_right fun _ => ?_
  by_cases toggle : action.type = .toggle <;>
    simp [toggle, ActionFieldDefinition.sends, ToggleAction.requests, ButtonAction.requests]

/-- A toggle takes what it is filled in with if a missing value is the other one. -/
theorem filledIn_iff {action : ActionFieldDefinition} (toggle : action.type = .toggle) :
    FilledIn action ↔
      action.takes action.onValueOrDefault ∧ action.takes action.offValueOrDefault := by
  have onValue : (action.onValue ≠ none ∨ action.offValue = some "ON") ↔
      action.takes action.onValueOrDefault := by
    simp only [ActionFieldDefinition.takes, toggle, forall_const,
      ActionFieldDefinition.onValueOrDefault]
    cases action.onValue <;> simp [eq_comm]
  have offValue : (action.offValue ≠ none ∨ action.onValue = some "OFF") ↔
      action.takes action.offValueOrDefault := by
    simp only [ActionFieldDefinition.takes, toggle, forall_const,
      ActionFieldDefinition.offValueOrDefault]
    cases action.offValue <;> simp [eq_comm]
  rw [← onValue, ← offValue]
  exact ⟨fun h => ⟨h.onValue, h.offValue⟩, fun h => ⟨h.1, h.2⟩⟩

theorem takes_of_sends {action : ActionFieldDefinition} (filled : action.type = .toggle →
    FilledIn action) {value : String} (h : value ∈ action.sends) : action.takes value := by
  intro toggle
  have both := (filledIn_iff toggle).mp (filled toggle)
  simp only [ActionFieldDefinition.sends, toggle, if_true, List.mem_cons, List.not_mem_nil,
    or_false] at h
  rcases h with rfl | rfl
  · exact both.1 toggle
  · exact both.2 toggle

theorem accepted_sends_iff (template : Option DeviceTemplateEntity) :
    (∀ request, Sends template request → ActionAccepted template request) ↔
      SchemaFits template := by
  constructor
  · intro claim first hfirst toggle
    have panel {value : String} (h : value = first.onValueOrDefault ∨
        value = first.offValueOrDefault) : first.takes value := by
      obtain ⟨other, hother, takes⟩ := claim ⟨first.key, value⟩
        (.inl ⟨first.key, mem_devicePanel_iff.mpr ⟨first, hfirst, by simpa using h⟩⟩)
      rwa [Option.some_inj.mp (hother.symm.trans hfirst)] at takes
    refine ⟨(filledIn_iff toggle).mpr ⟨panel (.inl rfl), panel (.inr rfl)⟩, ?_⟩
    intro action member _ key value sent
    obtain ⟨other, hother, takes⟩ := claim ⟨action.key, value⟩
      (.inr (mem_deviceActionsPanel_iff.mpr ⟨action, member, value, sent, rfl⟩))
    rw [key] at hother
    rw [Option.some_inj.mp (hother.symm.trans hfirst)] at takes
    exact takes toggle
  · rintro fits request (⟨field, pressed⟩ | pressed)
    · obtain ⟨first, hfirst, sent⟩ := mem_devicePanel_iff.mp pressed
      have key := findAction_key hfirst
      subst key
      refine ⟨first, by rcases sent with rfl | rfl <;> exact hfirst, fun toggle => ?_⟩
      obtain ⟨onValue, offValue⟩ := (filledIn_iff toggle).mp (fits first hfirst toggle).1
      rcases sent with rfl | rfl
      · exact onValue toggle
      · exact offValue toggle
    · obtain ⟨action, member, value, sent, rfl⟩ := mem_deviceActionsPanel_iff.mp pressed
      obtain ⟨first, hfirst⟩ := findAction_of_mem member
      have key := findAction_key hfirst
      refine ⟨first, hfirst, fun toggle => ?_⟩
      have fit := fits first (key ▸ hfirst) toggle
      by_cases same : action = first
      · exact takes_of_sends (fun _ => fit.1) (same ▸ sent) toggle
      · exact fit.2 action member same key.symm value sent

/-- Every button on the dashboard passes the checks of the key and the value exactly if the
schema fits. -/
theorem buttons_accepted_iff {device : DeviceEntity}
    (push : device.pushChannel = .mqtt ∨ device.pushChannel = .kafka)
    (template : Option DeviceTemplateEntity) (env : ApiConfig) (brokers : Brokers) (now : Date) :
    (∀ request, Sends template request → PassesChecks env brokers now template device request) ↔
      SchemaFits template := by
  simp only [passesChecks_iff push]
  exact accepted_sends_iff template

theorem buttons_accepted_iff_plainRelay :
    (∀ request, Sends (some relayTemplate) request →
      PassesChecks defaultEnv healthyBrokers 0 (some relayTemplate) plainRelay request) ↔
      SchemaFits (some relayTemplate) :=
  buttons_accepted_iff (.inl rfl) (some relayTemplate) defaultEnv healthyBrokers 0

/-- A toggle without values. -/
def bareToggle : ActionFieldDefinition := ⟨"relay1", "Relay 1", .toggle, none, none⟩

def bareTemplate : DeviceTemplateEntity :=
  { relayTemplate with actionSchema := some [bareToggle] }

theorem bareToggle_accepted : bareToggle.Accepted where
  key := (by decide : "relay1" ≠ "")
  label := (by decide : "Relay 1" ≠ "")
  onValue := by rintro _ ⟨⟩
  offValue := by rintro _ ⟨⟩

/-- Switching it on sends `ON`, which it does not take. -/
theorem bareToggle_rejected :
    (∀ action ∈ actionSchema (some bareTemplate), action.Accepted) ∧
    ∃ request, Sends (some bareTemplate) request ∧
      ¬ PassesChecks defaultEnv healthyBrokers 0 (some bareTemplate) plainRelay request := by
  refine ⟨?_, ⟨"relay1", "ON"⟩, .inl ⟨"relay1", by decide⟩, fun passes => passes.2 (by decide)⟩
  intro action member
  rw [List.mem_singleton.mp member]
  exact bareToggle_accepted

end AiotCloud
