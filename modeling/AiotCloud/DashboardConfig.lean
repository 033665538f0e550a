import AiotCloud.DeviceRow
import AiotCloud.Lib.Keyed

/-!
# Dashboard config files

A draft is exported with the device of each widget under its database id and its physical id.
The importer reads the file through a schema and looks each device up again, by database id
first; a widget whose device it does not find is skipped.

1. `configFileSchema_exported`: what the schema reads in an exported file.
2. `target_eq_some_iff`: the device that a widget is given.
3. `importWidgets_eq`: what the loop makes of the widgets.
4. `dashboard_round_trip`: what an import of an export returns.
-/

namespace AiotCloud.DashboardConfig

/-! ## Records -/

/-- The panel types of the dashboard page. -/
inductive WidgetType where
  | value
  | chart
  | action
deriving DecidableEq, Repr

def WidgetType.name : WidgetType → String
  | value => "VALUE"
  | chart => "CHART"
  | action => "ACTION"

structure IDevice where
  id : String
  deviceId : String
  name : String
deriving DecidableEq, Repr

structure IDashboardWidget where
  id : String
  deviceId : String
  widgetType : WidgetType
  field : Option String := none
  title : Option String := none
  x : Rat
  y : Rat
  w : Rat
  h : Rat
deriving DecidableEq, Repr

structure DraftDashboard where
  name : String
  isDefault : Bool
  widgets : List IDashboardWidget
deriving DecidableEq, Repr

/-! ## JSON -/

/-- An object through `JSON.stringify` and `JSON.parse`: a field that is `undefined` is
dropped. -/
def jsonObject (fields : List (String × Option Json)) : Json :=
  .object (fields.filterMap fun field => field.2.map (field.1, ·))

/-! ## Export -/

/-- `DASHBOARD_CONFIG_VERSION`. -/
def dashboardConfigVersion : Rat := 1

/-- The device as a file carries it. -/
structure ExportedDevice where
  id : String
  deviceId : String
  name : String

/-- `IDashboardConfigFile['widgets'][number]`. -/
structure ExportedWidget where
  widgetType : WidgetType
  field : Option String
  title : Option String
  x : Rat
  y : Rat
  w : Rat
  h : Rat
  device : ExportedDevice

structure IDashboardConfigFile where
  version : Rat
  name : String
  isDefault : Bool
  widgets : List ExportedWidget

def exportWidget (devices : List IDevice) (widget : IDashboardWidget) : ExportedWidget :=
  let device := Keyed.find IDevice.id widget.deviceId devices
  { widgetType := widget.widgetType
    field := widget.field
    title := widget.title
    x := widget.x
    y := widget.y
    w := widget.w
    h := widget.h
    device :=
      { id := widget.deviceId
        deviceId := (device.map (·.deviceId)).getD ""
        name := (device.map (·.name)).getD "" } }

def buildDashboardConfigExport (draft : DraftDashboard) (devices : List IDevice) :
    IDashboardConfigFile :=
  { version := dashboardConfigVersion
    name := draft.name
    isDefault := draft.isDefault
    widgets := draft.widgets.map (exportWidget devices) }

def ExportedWidget.toJson (widget : ExportedWidget) : Json :=
  jsonObject
    [("widgetType", some (.string widget.widgetType.name)),
      ("field", widget.field.map .string),
      ("title", widget.title.map .string),
      ("x", some (.number widget.x)),
      ("y", some (.number widget.y)),
      ("w", some (.number widget.w)),
      ("h", some (.number widget.h)),
      ("device", some (jsonObject
        [("id", some (.string widget.device.id)),
          ("deviceId", some (.string widget.device.deviceId)),
          ("name", some (.string widget.device.name))]))]

def IDashboardConfigFile.toJson (file : IDashboardConfigFile) : Json :=
  jsonObject
    [("version", some (.number file.version)),
      ("name", some (.string file.name)),
      ("isDefault", some (.bool file.isDefault)),
      ("widgets", some (.array (file.widgets.map (·.toJson))))]

/-! ## The schema

A schema reads a property, which may be missing, or throws. -/

def zString : Option Json → Option String
  | some (.string s) => some s
  | _ => none

def zNumber : Option Json → Option Rat
  | some (.number q) => some q
  | _ => none

def zBoolean : Option Json → Option Bool
  | some (.bool b) => some b
  | _ => none

/-- `z.enum(['VALUE', 'CHART', 'ACTION'])`. -/
def zWidgetType : Option Json → Option WidgetType
  | some (.string s) => [WidgetType.value, .chart, .action].find? (·.name = s)
  | _ => none

/-- `.optional()`. -/
def zOptional {α : Type} (schema : Option Json → Option α) : Option Json → Option (Option α)
  | none => some none
  | value => (schema value).map some

def zArray {α : Type} (schema : Option Json → Option α) : Option Json → Option (List α)
  | some (.array items) => items.mapM fun item => schema (some item)
  | _ => none

/-- `z.object`, whose fields are read by `fields`. -/
def zObject {α : Type} (fields : (String → Option Json) → Option α) : Option Json → Option α
  | some (.object entries) => fields (entries.lookup ·)
  | _ => none

structure DeviceReference where
  id : Option String
  deviceId : Option String
  name : Option String
deriving DecidableEq, Repr

structure WidgetEntry where
  widgetType : WidgetType
  field : Option String
  title : Option String
  x : Rat
  y : Rat
  w : Rat
  h : Rat
  device : DeviceReference
deriving DecidableEq, Repr

structure ConfigFile where
  version : Rat
  name : String
  isDefault : Option Bool
  widgets : List WidgetEntry

def deviceSchema : Option Json → Option DeviceReference :=
  zObject fun property => do
    let id ← zOptional zString (property "id")
    let deviceId ← zOptional zString (property "deviceId")
    let name ← zOptional zString (property "name")
    return ⟨id, deviceId, name⟩

def widgetSchema : Option Json → Option WidgetEntry :=
  zObject fun property => do
    let widgetType ← zWidgetType (property "widgetType")
    let field ← zOptional zString (property "field")
    let title ← zOptional zString (property "title")
    let x ← zNumber (property "x")
    let y ← zNumber (property "y")
    let w ← zNumber (property "w")
    let h ← zNumber (property "h")
    let device ← deviceSchema (property "device")
    return ⟨widgetType, field, title, x, y, w, h, device⟩

def configFileSchema : Option Json → Option ConfigFile :=
  zObject fun property => do
    let version ← zNumber (property "version")
    let name ← zString (property "name")
    let isDefault ← zOptional zBoolean (property "isDefault")
    let widgets ← zArray widgetSchema (property "widgets")
    return ⟨version, name, isDefault, widgets⟩

/-! ## Import -/

structure IParsedDashboardConfig where
  name : String
  isDefault : Bool
  widgets : List IDashboardWidget
  skippedCount : Nat
deriving DecidableEq, Repr

/-- `devices.find` by database id, else by physical id. -/
def findDevice (devices : List IDevice) (reference : DeviceReference) : Option IDevice :=
  devices.find? (fun d => some d.id = reference.id) <|>
    devices.find? (fun d => some d.deviceId = reference.deviceId)

/-- The widget that is pushed for an entry. -/
def importedWidget (id : String) (device : IDevice) (entry : WidgetEntry) : IDashboardWidget :=
  { id := id
    deviceId := device.id
    widgetType := entry.widgetType
    field := entry.field
    title := entry.title
    x := entry.x
    y := entry.y
    w := entry.w
    h := entry.h }

section Import

/- `crypto.randomUUID()`, by the number of calls before. -/
variable (randomUUID : Nat → String) (devices : List IDevice)

/-- One turn of the loop, with the widgets and the number of skipped ones so far. -/
def importWidget (state : List IDashboardWidget × Nat) (entry : WidgetEntry) :
    List IDashboardWidget × Nat :=
  match findDevice devices entry.device with
  | none => (state.1, state.2 + 1)
  | some device => (state.1 ++ [importedWidget (randomUUID state.1.length) device entry], state.2)

def parseDashboardConfigImport (raw : Json) : Option IParsedDashboardConfig := do
  let file ← configFileSchema (some raw)
  let (widgets, skippedCount) := file.widgets.foldl (importWidget randomUUID devices) ([], 0)
  return { name := file.name
           isDefault := file.isDefault.getD false
           widgets := widgets
           skippedCount := skippedCount }

end Import

/-! ## An exported file -/

/-- What the schema reads of an exported widget. -/
def ExportedWidget.entry (widget : ExportedWidget) : WidgetEntry :=
  { widgetType := widget.widgetType
    field := widget.field
    title := widget.title
    x := widget.x
    y := widget.y
    w := widget.w
    h := widget.h
    device := ⟨some widget.device.id, some widget.device.deviceId, some widget.device.name⟩ }

theorem zWidgetType_name (widgetType : WidgetType) :
    zWidgetType (some (.string widgetType.name)) = some widgetType := by
  cases widgetType <;> decide

theorem widgetSchema_exported (widget : ExportedWidget) :
    widgetSchema (some widget.toJson) = some widget.entry := by
  obtain ⟨widgetType, field, title, x, y, w, h, device⟩ := widget
  cases field <;> cases title <;>
    simp [widgetSchema, deviceSchema, ExportedWidget.toJson, ExportedWidget.entry, jsonObject,
      zObject, List.lookup_cons, zWidgetType_name, zOptional, zString, zNumber]

theorem zArray_map {α β : Type} {schema : Option Json → Option α} {json : β → Json} {entry : β → α}
    (reads : ∀ b, schema (some (json b)) = some (entry b)) (items : List β) :
    zArray schema (some (.array (items.map json))) = some (items.map entry) := by
  unfold zArray
  induction items with
  | nil => rfl
  | cons item items ih => simp [reads, ih]

theorem configFileSchema_exported (file : IDashboardConfigFile) :
    configFileSchema (some file.toJson) =
      some ⟨file.version, file.name, some file.isDefault, file.widgets.map (·.entry)⟩ := by
  simp [configFileSchema, IDashboardConfigFile.toJson, jsonObject, zObject, List.lookup_cons,
    zNumber, zString, zOptional, zBoolean, zArray_map widgetSchema_exported]

/-! ## Devices -/

/-- The ids are distinct, and so are the physical ids, none of which is empty. -/
structure DistinctDevices (devices : List IDevice) : Prop where
  ids : Keyed.Distinct IDevice.id devices
  deviceIds : Keyed.Distinct IDevice.deviceId devices
  named : ∀ device ∈ devices, device.deviceId ≠ ""

/-- The device is the one of the widget: by database id, else by the physical id that the
widget's device had where the draft was exported. -/
structure FoundIn (devices devices' : List IDevice) (widget : IDashboardWidget)
    (device : IDevice) : Prop where
  mem : device ∈ devices'
  identified : device.id = widget.deviceId ∨
    (∀ other ∈ devices', other.id ≠ widget.deviceId) ∧
      ∃ known ∈ devices, known.id = widget.deviceId ∧ device.deviceId = known.deviceId

/-- The device that the importer finds for an exported widget. -/
def target (devices devices' : List IDevice) (widget : IDashboardWidget) : Option IDevice :=
  findDevice devices' (exportWidget devices widget).entry.device

variable {devices devices' : List IDevice}

theorem findDevice_some (id deviceId : String) (name : Option String) :
    findDevice devices ⟨some id, some deviceId, name⟩ =
      (Keyed.find IDevice.id id devices <|> Keyed.find IDevice.deviceId deviceId devices) := by
  simp [findDevice, Keyed.find]

theorem target_eq_some_iff (distinct : DistinctDevices devices)
    (distinct' : DistinctDevices devices') (widget : IDashboardWidget) (device : IDevice) :
    target devices devices' widget = some device ↔ FoundIn devices devices' widget device := by
  have form : target devices devices' widget =
      (Keyed.find IDevice.id widget.deviceId devices' <|>
        Keyed.find IDevice.deviceId
          (((Keyed.find IDevice.id widget.deviceId devices).map (·.deviceId)).getD "") devices') :=
    findDevice_some _ _ _
  rw [form]
  cases hid : Keyed.find IDevice.id widget.deviceId devices' with
  | some found =>
    obtain ⟨hmem, same⟩ := Keyed.mem_of_find hid
    constructor
    · rintro ⟨⟩
      exact ⟨hmem, .inl same⟩
    · rintro ⟨hdevice, own | ⟨absent, -⟩⟩
      · exact congrArg some (distinct'.ids.eq_of_key hmem hdevice (same.trans own.symm))
      · exact absurd same (absent found hmem)
  | none =>
    have absent := Keyed.find_eq_none_iff.mp hid
    show Keyed.find IDevice.deviceId _ devices' = some device ↔ _
    rw [distinct'.deviceIds.find_eq_some_iff]
    constructor
    · rintro ⟨hdevice, same⟩
      cases hknown : Keyed.find IDevice.id widget.deviceId devices with
      | none =>
        rw [hknown] at same
        exact absurd same (distinct'.named device hdevice)
      | some known =>
        obtain ⟨hmem, hkey⟩ := Keyed.mem_of_find hknown
        rw [hknown] at same
        exact ⟨hdevice, .inr ⟨absent, known, hmem, hkey, same⟩⟩
    · rintro ⟨hdevice, own | ⟨-, known, hmem, hkey, same⟩⟩
      · exact absurd own (absent device hdevice)
      · have hknown := distinct.ids.find_eq_some_iff.mpr ⟨hmem, hkey⟩
        refine ⟨hdevice, ?_⟩
        rw [hknown, same]
        rfl

/-! ## The loop -/

theorem importWidget_exported (randomUUID : Nat → String) (devices devices' : List IDevice)
    (widget : IDashboardWidget) (state : List IDashboardWidget × Nat) :
    importWidget randomUUID devices' state (exportWidget devices widget).entry =
      match target devices devices' widget with
      | none => (state.1, state.2 + 1)
      | some device =>
        (state.1 ++ [{ widget with id := randomUUID state.1.length, deviceId := device.id }],
          state.2) := rfl

/-- The loop pushes the widgets whose device is found, in order, with fresh ids, and counts the
others. -/
theorem importWidgets_eq (randomUUID : Nat → String) (devices devices' : List IDevice)
    (widgets : List IDashboardWidget) (state : List IDashboardWidget × Nat) :
    (widgets.map fun widget => (exportWidget devices widget).entry).foldl
        (importWidget randomUUID devices') state =
      (state.1 ++ (widgets.filterMap fun widget =>
          (target devices devices' widget).map fun device =>
            { widget with deviceId := device.id }).mapIdx fun i widget =>
              { widget with id := randomUUID (state.1.length + i) },
        state.2 + widgets.countP fun widget => (target devices devices' widget).isNone) := by
  induction widgets generalizing state with
  | nil => simp
  | cons widget widgets ih =>
    rw [List.map_cons, List.foldl_cons, ih, importWidget_exported]
    cases htarget : target devices devices' widget with
    | none => simp [htarget]; omega
    | some device => simp [htarget, List.mapIdx_cons, Nat.add_assoc, Nat.add_comm 1]

/-! ## The round trip -/

/-- The same physical devices, all under other database ids. -/
structure Rekeyed (devices devices' : List IDevice) : Prop where
  same : ∀ deviceId, deviceId ∈ devices.map (·.deviceId) ↔ deviceId ∈ devices'.map (·.deviceId)
  apart : ∀ device ∈ devices, ∀ other ∈ devices', other.id ≠ device.id

/-- What an import returns of an exported draft: the widgets whose device is found, in order,
each as it was but for a fresh id and the id of the device, and the number of the others. -/
structure Restores (randomUUID : Nat → String) (devices devices' : List IDevice)
    (draft : DraftDashboard) (found : IDashboardWidget → Option IDevice)
    (parsed : IParsedDashboardConfig) : Prop where
  name : parsed.name = draft.name
  isDefault : parsed.isDefault = draft.isDefault
  found_iff : ∀ widget device,
    found widget = some device ↔ FoundIn devices devices' widget device
  widgets : parsed.widgets = (draft.widgets.filterMap fun widget =>
    (found widget).map fun device => { widget with deviceId := device.id }).mapIdx fun i widget =>
      { widget with id := randomUUID i }
  skipped : parsed.skippedCount = draft.widgets.countP fun widget => (found widget).isNone

/-- On the same devices, a widget is skipped if its device is unknown, and keeps it else. -/
def KeepsKnown (devices : List IDevice) (found : IDashboardWidget → Option IDevice) : Prop :=
  ∀ widget, (found widget = none ↔ ∀ device ∈ devices, device.id ≠ widget.deviceId) ∧
    ∀ device, found widget = some device → device.id = widget.deviceId

/-- A widget of a known device is given the same physical device. -/
def KeepsPhysical (devices : List IDevice) (found : IDashboardWidget → Option IDevice) : Prop :=
  ∀ widget, ∀ known ∈ devices, known.id = widget.deviceId →
    ∃ device, found widget = some device ∧ device.deviceId = known.deviceId

theorem import_exported (randomUUID : Nat → String) (devices devices' : List IDevice)
    (draft : DraftDashboard) :
    parseDashboardConfigImport randomUUID devices'
        (buildDashboardConfigExport draft devices).toJson =
      some
        { name := draft.name
          isDefault := draft.isDefault
          widgets := (draft.widgets.filterMap fun widget =>
            (target devices devices' widget).map fun device =>
              { widget with deviceId := device.id }).mapIdx fun i widget =>
                { widget with id := randomUUID i }
          skippedCount := draft.widgets.countP fun widget =>
            (target devices devices' widget).isNone } := by
  simp [parseDashboardConfigImport, configFileSchema_exported, buildDashboardConfigExport,
    Function.comp_def, importWidgets_eq]

/-- A draft is restored by importing its export. On the same devices only widgets of unknown
devices are skipped; on the same physical devices under other database ids every widget of a
known device keeps its physical device. -/
theorem dashboard_round_trip (randomUUID : Nat → String) (draft : DraftDashboard)
    (distinct : DistinctDevices devices) (distinct' : DistinctDevices devices') :
    ∃ found parsed,
      parseDashboardConfigImport randomUUID devices'
          (buildDashboardConfigExport draft devices).toJson = some parsed ∧
        Restores randomUUID devices devices' draft found parsed ∧
        (devices' = devices → KeepsKnown devices found) ∧
        (Rekeyed devices devices' → KeepsPhysical devices found) := by
  have found_iff := target_eq_some_iff distinct distinct'
  refine ⟨target devices devices', _, import_exported randomUUID devices devices' draft,
    ⟨rfl, rfl, found_iff, rfl, rfl⟩, ?_, ?_⟩
  · rintro rfl widget
    have own : ∀ device, FoundIn devices' devices' widget device →
        device.id = widget.deviceId := by
      rintro device ⟨hmem, own | ⟨absent, known, hknown, hkey, -⟩⟩
      · exact own
      · exact absurd hkey (absent known hknown)
    refine ⟨?_, fun device h => own device ((found_iff widget device).mp h)⟩
    rw [Option.eq_none_iff_forall_ne_some]
    constructor
    · intro none device hmem same
      exact none device ((found_iff widget device).mpr ⟨hmem, .inl same⟩)
    · intro unknown device h
      have hfound := (found_iff widget device).mp h
      exact unknown device hfound.mem (own device hfound)
  · intro rekeyed widget known hknown hkey
    obtain ⟨device, hdevice, same⟩ := List.mem_map.mp
      ((rekeyed.same known.deviceId).mp (List.mem_map_of_mem hknown))
    have absent : ∀ other ∈ devices', other.id ≠ widget.deviceId :=
      fun other hother => hkey ▸ rekeyed.apart known hknown other hother
    exact ⟨device, (found_iff widget device).mpr
      ⟨hdevice, .inr ⟨absent, known, hknown, hkey, same⟩⟩, same⟩

/-! ### A pump in two accounts -/

def plantDevices : List IDevice := [⟨"d1", "pump-1", "Pump"⟩, ⟨"d3", "fan-1", "Fan"⟩]

/-- The devices of another account. -/
def rekeyedDevices : List IDevice := [⟨"d8", "fan-1", "Fan"⟩, ⟨"d7", "pump-1", "Pump"⟩]

theorem plantDevices_distinct : DistinctDevices plantDevices :=
  ⟨show (plantDevices.map (·.id)).Nodup by decide,
    show (plantDevices.map (·.deviceId)).Nodup by decide, by decide⟩

theorem rekeyedDevices_distinct : DistinctDevices rekeyedDevices :=
  ⟨show (rekeyedDevices.map (·.id)).Nodup by decide,
    show (rekeyedDevices.map (·.deviceId)).Nodup by decide, by decide⟩

theorem plantDevices_rekeyed : Rekeyed plantDevices rekeyedDevices where
  same deviceId := by
    rw [show plantDevices.map (·.deviceId) = ["pump-1", "fan-1"] from rfl,
      show rekeyedDevices.map (·.deviceId) = ["fan-1", "pump-1"] from rfl]
    simp [or_comm]
  apart := by decide

/-- One widget of the pump and one of a device that is gone. -/
def plantDraft : DraftDashboard where
  name := "Plant"
  isDefault := true
  widgets :=
    [{ id := "w1", deviceId := "d1", widgetType := .chart, field := some "flow",
       x := 0, y := 0, w := 4, h := 3 },
      { id := "w2", deviceId := "d2", widgetType := .action, x := 4, y := 0, w := 4, h := 2 }]

/-- The file is imported by the account itself and by the other one. -/
theorem dashboard_round_trip_plant :
    (∃ found parsed,
      parseDashboardConfigImport toString plantDevices
          (buildDashboardConfigExport plantDraft plantDevices).toJson = some parsed ∧
        Restores toString plantDevices plantDevices plantDraft found parsed ∧
        KeepsKnown plantDevices found) ∧
      ∃ found parsed,
        parseDashboardConfigImport toString rekeyedDevices
            (buildDashboardConfigExport plantDraft plantDevices).toJson = some parsed ∧
          Restores toString plantDevices rekeyedDevices plantDraft found parsed ∧
          KeepsPhysical plantDevices found := by
  constructor
  · obtain ⟨found, parsed, read, restores, keeps, -⟩ :=
      dashboard_round_trip toString plantDraft plantDevices_distinct plantDevices_distinct
    exact ⟨found, parsed, read, restores, keeps rfl⟩
  · obtain ⟨found, parsed, read, restores, -, keeps⟩ :=
      dashboard_round_trip toString plantDraft plantDevices_distinct rekeyedDevices_distinct
    exact ⟨found, parsed, read, restores, keeps plantDevices_rekeyed⟩

end AiotCloud.DashboardConfig
