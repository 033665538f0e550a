import AiotCloud.Ingress
import AiotCloud.Lib.Xml

/-!
# The XML export of a device's telemetry

`buildTelemetryHistoryXml` writes the fields of the schema and the recorded points as a
document.

The text of a value is `String(value)`; `numberText` is how a number is written. A field is
looked up with `in`, which finds the names of `Object.prototype` in every payload.

* `History`: what a document says, and `History.markup`, its layout.
* `build_eq_ok_iff`: when a document is built, and that it has this layout.
-/

namespace AiotCloud.TelemetryXml

open AiotCloud.Ingress

/-! ## Dates -/

/-- The year, month and day of a number of days since 1970. -/
def civil (days : Int) : Int × Int × Int :=
  let shifted := days + 719468
  let era := shifted / 146097
  let dayOfEra := shifted % 146097
  let yearOfEra :=
    (dayOfEra - dayOfEra / 1460 + dayOfEra / 36524 - dayOfEra / 146096) / 365
  let dayOfYear := dayOfEra - (365 * yearOfEra + yearOfEra / 4 - yearOfEra / 100)
  -- the year is taken to begin in March, so that the leap day is its last
  let march := (5 * dayOfYear + 2) / 153
  let month := if march < 10 then march + 3 else march - 9
  let year := yearOfEra + era * 400
  (if month ≤ 2 then year + 1 else year, month, dayOfYear - (153 * march + 2) / 5 + 1)

/-- `String(n).padStart(width, "0")`. -/
def padStart (width n : Nat) : String :=
  String.ofList ((toString n).toList.leftpad width '0')

def yearText (year : Int) : String :=
  if 0 ≤ year ∧ year ≤ 9999 then padStart 4 year.toNat
  else (if year < 0 then "-" else "+") ++ padStart 6 year.natAbs

/-- `date.toISOString()`. -/
def toISOString (date : Date) : String :=
  let (year, month, day) := civil (date / 86400000)
  let time := (date % 86400000).toNat
  yearText year ++ "-" ++ padStart 2 month.toNat ++ "-" ++ padStart 2 day.toNat ++ "T" ++
    padStart 2 (time / 3600000) ++ ":" ++ padStart 2 (time / 60000 % 60) ++ ":" ++
    padStart 2 (time / 1000 % 60) ++ "." ++ padStart 3 (time % 1000) ++ "Z"

/-! ## The export -/

/-- A recorded point; its `recordedAt` is the date that the server wrote. -/
structure DeviceTelemetry where
  payload : Record Json
  recordedAt : Date

structure TelemetryExportParams where
  deviceId : String
  deviceCode : Option String
  deviceName : Option String
  fields : List TelemetryFieldDefinition
  telemetry : List DeviceTelemetry
  fromTime : Date
  toTime : Date

def apostrophe : Char := Char.ofNat 0x27

def escapeXml (value : String) : String :=
  String.ofList (value.toList.flatMap fun char =>
    if char = '&' then "&amp;".toList
    else if char = '<' then "&lt;".toList
    else if char = '>' then "&gt;".toList
    else if char = '"' then "&quot;".toList
    else if char = apostrophe then "&apos;".toList
    else [char])

def attr (value : String) : String := "\"" ++ escapeXml value ++ "\""

/-- The text of a built-in function. -/
def nativeText (name : String) : String := "function " ++ name ++ "() \x7b [native code] \x7d"

/-- The names that every object has from `Object.prototype`, with the texts of their values. -/
def objectPrototype : List (String × String) :=
  [("constructor", nativeText "Object"), ("__proto__", "[object Object]")] ++
    ["__defineGetter__", "__defineSetter__", "__lookupGetter__", "__lookupSetter__",
      "hasOwnProperty", "isPrototypeOf", "propertyIsEnumerable", "toLocaleString", "toString",
      "valueOf"].map fun name => (name, nativeText name)

/-- `key in payload`. -/
def isIn (key : String) (payload : Record Json) : Bool :=
  (payload.lookup key).isSome || (objectPrototype.lookup key).isSome

/-- `text ? … : ''`. -/
def optional (lead : String) (text : Option String) : String :=
  match text with
  | none => ""
  | some text => if text = "" then "" else lead ++ attr text

def fieldXml (field : TelemetryFieldDefinition) : String :=
  "    <field key=" ++ attr field.key ++ " label=" ++ attr field.label ++
    optional " unit=" field.unit ++ " />"

def valueXml (key text : String) : String :=
  "      <value field=" ++ attr key ++ ">" ++ escapeXml text ++ "</value>"

def recordXml (recordedAt : Date) (valuesXml : List String) : String :=
  "    <record recordedAt=" ++ attr (toISOString recordedAt) ++ ">\n" ++
    "\n".intercalate valuesXml ++ "\n    </record>"

def documentXml (now : Date) (params : TelemetryExportParams)
    (fieldsXml recordsXml : List String) : String :=
  "\n".intercalate [
    "<?xml version=\"1.0\" encoding=\"UTF-8\"?>",
    "<telemetryHistory deviceId=" ++ attr params.deviceId ++
      " deviceCode=" ++ attr (params.deviceCode.getD params.deviceId) ++
      optional " deviceName=" params.deviceName ++
      " generatedAt=" ++ attr (toISOString now) ++ ">",
    "  <timeRange from=" ++ attr (toISOString params.fromTime) ++
      " to=" ++ attr (toISOString params.toTime) ++ " />",
    "  <fields>",
    "\n".intercalate fieldsXml,
    "  </fields>",
    "  <records count=" ++ attr (toString params.telemetry.length) ++ ">",
    "\n".intercalate recordsXml,
    "  </records>",
    "</telemetryHistory>",
    ""]

section

variable (numberText : Rat → String)

/-- `String(payload[key])`. -/
def valueText (payload : Record Json) (key : String) : Js String :=
  match payload.lookup key with
  | some raw => jsString numberText raw
  | none => .ok ((objectPrototype.lookup key).getD "undefined")

def exportRecord (fields : List TelemetryFieldDefinition) (point : DeviceTelemetry) :
    Js String := do
  let valuesXml ← (fields.filter fun field => isIn field.key point.payload).mapM fun field => do
    return valueXml field.key (← valueText numberText point.payload field.key)
  return recordXml point.recordedAt valuesXml

def buildTelemetryHistoryXml (now : Date) (params : TelemetryExportParams) : Js String := do
  let recordsXml ← params.telemetry.mapM (exportRecord numberText params.fields)
  return documentXml now params (params.fields.map fieldXml) recordsXml

end

/-! ## What a document says -/

abbrev Attributes := List (String × String)

/-- The content of an export: the attributes of its elements, and for each record its values,
the field of each with its text. -/
structure History where
  device : Attributes
  timeRange : Attributes
  fields : List Attributes
  count : Attributes
  records : List (Attributes × List (Attributes × String))
deriving DecidableEq

def optionalAttribute (name : String) (text : Option String) : Attributes :=
  match text with
  | none => []
  | some text => if text = "" then [] else [(name, text)]

/-- A record, with the texts that its payload has under the keys of some fields. -/
def record (textIn : Record Json → String → Option String) (fields : List TelemetryFieldDefinition)
    (point : DeviceTelemetry) : Attributes × List (Attributes × String) :=
  ([("recordedAt", toISOString point.recordedAt)], fields.filterMap fun field =>
    (textIn point.payload field.key).map fun text => ([("field", field.key)], text))

/-- The content of an export. -/
def history (textIn : Record Json → String → Option String) (now : Date)
    (params : TelemetryExportParams) : History where
  device :=
    [("deviceId", params.deviceId), ("deviceCode", params.deviceCode.getD params.deviceId)] ++
      optionalAttribute "deviceName" params.deviceName ++ [("generatedAt", toISOString now)]
  timeRange := [("from", toISOString params.fromTime), ("to", toISOString params.toTime)]
  fields := params.fields.map fun field =>
    [("key", field.key), ("label", field.label)] ++ optionalAttribute "unit" field.unit
  count := [("count", toString params.telemetry.length)]
  records := params.telemetry.map (record textIn params.fields)

section

variable (numberText : Rat → String)

/-- The text of a value, if it has one. -/
def textOf (raw : Json) : String :=
  match jsString numberText raw with
  | .ok text => text
  | .error _ => ""

end

/-! ## The layout of a document -/

namespace History

def pairs (attributes : Attributes) : List (Xml.Text × Xml.Text) :=
  attributes.map fun (name, text) => (name.toList, text.toList)

def valueMarkup (value : Attributes × String) : Xml.Markup :=
  .element "value".toList (pairs value.1) (.last value.2.toList)

def recordMarkup (record : Attributes × List (Attributes × String)) : Xml.Markup :=
  .element "record".toList (pairs record.1)
    (Xml.block "      ".toList (record.2.map valueMarkup) "    ".toList)

def fieldMarkup (field : Attributes) : Xml.Markup := .empty "field".toList (pairs field)

def fieldsMarkup (h : History) : Xml.Markup :=
  .element "fields".toList [] (Xml.block "    ".toList (h.fields.map fieldMarkup) "  ".toList)

def recordsMarkup (h : History) : Xml.Markup :=
  .element "records".toList (pairs h.count)
    (Xml.block "    ".toList (h.records.map recordMarkup) "  ".toList)

def sections (h : History) : List Xml.Markup :=
  [.empty "timeRange".toList (pairs h.timeRange), h.fieldsMarkup, h.recordsMarkup]

def markup (h : History) : Xml.Markup :=
  .element "telemetryHistory".toList (pairs h.device)
    (Xml.block "  ".toList h.sections [])

end History

/-! ## The document that is built -/

theorem eq_ofList {text : String} {chars : Xml.Text} (h : text.toList = chars) :
    text = String.ofList chars := by
  rw [← h, String.ofList_toList]

theorem toList_escapeXml (text : String) : (escapeXml text).toList = Xml.escape text.toList := by
  rw [escapeXml, String.toList_ofList]
  rfl

@[simp] theorem toList_attr (text : String) :
    (attr text).toList = '"' :: (Xml.escape text.toList ++ ['"']) := by
  simp [attr, toList_escapeXml]

/-- An attribute is written in the same way wherever it is. -/
theorem write_pairs (attributes : Attributes) :
    Xml.writeAttributes (History.pairs attributes) =
      attributes.flatMap fun (name, text) => ' ' :: (name.toList ++ '=' :: (attr text).toList) := by
  simp [Xml.writeAttributes, History.pairs, List.flatMap_map]

theorem toList_optional {lead name : String} (text : Option String)
    (hlead : lead.toList = ' ' :: (name.toList ++ ['='])) :
    (optional lead text).toList =
      (optionalAttribute name text).flatMap fun (name, text) =>
        ' ' :: (name.toList ++ '=' :: (attr text).toList) := by
  cases text with
  | none => rfl
  | some text =>
    by_cases hempty : text = ""
    · simp [optional, optionalAttribute, hempty]
    · simp [optional, optionalAttribute, hempty, hlead]

/-- The markup of a value, on a line of its own. -/
theorem toList_valueXml (key text : String) : (valueXml key text).toList =
    "      ".toList ++ (History.valueMarkup ([("field", key)], text)).write := by
  unfold valueXml
  simp [History.valueMarkup, Xml.Markup.write, Xml.Markup.writeTail, Xml.Content.write, write_pairs,
    toList_escapeXml]

theorem toList_fieldXml (field : TelemetryFieldDefinition) :
    (fieldXml field).toList = "    ".toList ++ (History.fieldMarkup
      ([("key", field.key), ("label", field.label)] ++
        optionalAttribute "unit" field.unit)).write := by
  have hlead : " unit=".toList = ' ' :: ("unit".toList ++ ['=']) := by simp
  have unit := toList_optional field.unit hlead
  unfold fieldXml
  simp [History.fieldMarkup, Xml.Markup.write, Xml.Markup.writeTail, write_pairs, unit]

section

variable {α β : Type} {f : α → Js β} {p : α → Prop} {g : α → β}

/-- A list is gone through just when each step of it succeeds. -/
theorem mapM_eq_ok_iff (h : ∀ x y, f x = .ok y ↔ p x ∧ y = g x) (xs : List α) (ys : List β) :
    xs.mapM f = .ok ys ↔ (∀ x ∈ xs, p x) ∧ ys = xs.map g := by
  induction xs generalizing ys with
  | nil => simp [List.mapM_nil, pure, Except.pure, eq_comm]
  | cons x xs ih =>
    rw [List.mapM_cons, List.forall_mem_cons, List.map_cons]
    simp only [bind_eq_ok_iff, h, ih, pure, Except.pure, Except.ok.injEq]
    constructor
    · rintro ⟨y, ⟨hx, rfl⟩, ys, ⟨hxs, rfl⟩, rfl⟩
      exact ⟨⟨hx, hxs⟩, rfl⟩
    · rintro ⟨⟨hx, hxs⟩, rfl⟩
      exact ⟨_, ⟨hx, rfl⟩, _, ⟨hxs, rfl⟩, rfl⟩

end

section

variable (numberText : Rat → String)

/-- `String` has a text for the value that a payload has under a key, if any. -/
def HasText (payload : Record Json) (key : String) : Prop :=
  ∀ raw, payload.lookup key = some raw → ∃ text, jsString numberText raw = .ok text

/-- The text that is written for a field of a payload. -/
def textAt (payload : Record Json) (key : String) : String :=
  match payload.lookup key with
  | some raw => textOf numberText raw
  | none => (objectPrototype.lookup key).getD "undefined"

/-- The text under a key that `in` finds. -/
def foundText (payload : Record Json) (key : String) : Option String :=
  if isIn key payload then some (textAt numberText payload key) else none

variable {numberText}

theorem jsString_eq_ok_iff {raw : Json} {text : String} : jsString numberText raw = .ok text ↔
    (∃ text, jsString numberText raw = .ok text) ∧ text = textOf numberText raw := by
  unfold textOf
  cases jsString numberText raw with
  | error e => simp
  | ok own => simp [eq_comm]

theorem valueText_eq_ok_iff {payload : Record Json} {key text : String} :
    valueText numberText payload key = .ok text ↔
      HasText numberText payload key ∧ text = textAt numberText payload key := by
  rw [valueText, HasText, textAt]
  cases payload.lookup key with
  | none => simp [eq_comm]
  | some raw =>
    simp only [Option.some.injEq, forall_eq']
    exact jsString_eq_ok_iff

/-- The values that are found, field by field. -/
theorem filterMap_foundText {β : Type} (payload : Record Json)
    (fields : List TelemetryFieldDefinition) (f : String → String → β) :
    (fields.filterMap fun field =>
      (foundText numberText payload field.key).map fun text => f field.key text) =
      (fields.filter fun field => isIn field.key payload).map fun field =>
        f field.key (textAt numberText payload field.key) := by
  induction fields with
  | nil => rfl
  | cons field fields ih =>
    rw [List.filterMap_cons, List.filter_cons, ih, foundText]
    split <;> simp_all

theorem hasText_of_not_isIn {payload : Record Json} {key : String}
    (h : isIn key payload = false) : HasText numberText payload key := by
  intro raw found
  rw [isIn, found] at h
  cases h

theorem toList_recordXml (fields : List TelemetryFieldDefinition) (point : DeviceTelemetry) :
    (recordXml point.recordedAt ((fields.filter fun field => isIn field.key point.payload).map
      fun field => valueXml field.key (textAt numberText point.payload field.key))).toList =
      "    ".toList ++
        (History.recordMarkup (record (foundText numberText) fields point)).write := by
  have hindent : Xml.escape "      ".toList = "      ".toList := rfl
  have hlast : Xml.escape "    ".toList = "    ".toList := rfl
  have values := @filterMap_foundText numberText _ point.payload fields
    fun key text => (([("field", key)] : Attributes), text)
  rw [History.recordMarkup, Xml.Markup.write, Xml.Markup.writeTail, record, values,
    Xml.write_block hindent hlast, List.map_map, List.map_map, write_pairs]
  unfold recordXml
  simp [String.toList_intercalate, List.map_map, Function.comp_def, toList_valueXml]

theorem exportRecord_eq_ok_iff (fields : List TelemetryFieldDefinition) (point : DeviceTelemetry)
    (xml : String) : exportRecord numberText fields point = .ok xml ↔
      (∀ field ∈ fields, HasText numberText point.payload field.key) ∧
        xml = String.ofList ("    ".toList ++
          (History.recordMarkup (record (foundText numberText) fields point)).write) := by
  have hvalue : ∀ (field : TelemetryFieldDefinition) (value : String),
      (do return valueXml field.key (← valueText numberText point.payload field.key) :
        Js String) = .ok value ↔
      HasText numberText point.payload field.key ∧
        value = valueXml field.key (textAt numberText point.payload field.key) := by
    intro field value
    rw [bind_eq_ok_iff]
    simp only [valueText_eq_ok_iff]
    constructor
    · rintro ⟨text, ⟨has, rfl⟩, hok⟩
      exact ⟨has, (Except.ok.inj hok).symm⟩
    · rintro ⟨has, rfl⟩
      exact ⟨_, ⟨has, rfl⟩, rfl⟩
  have hall : (∀ field ∈ fields.filter fun field => isIn field.key point.payload,
      HasText numberText point.payload field.key) ↔
      ∀ field ∈ fields, HasText numberText point.payload field.key := by
    constructor
    · intro h field hfield
      cases found : isIn field.key point.payload with
      | false => exact hasText_of_not_isIn found
      | true => exact h field (List.mem_filter.mpr ⟨hfield, found⟩)
    · exact fun h field hfield => h field (List.mem_of_mem_filter hfield)
  rw [exportRecord, bind_eq_ok_iff]
  simp only [mapM_eq_ok_iff hvalue, hall]
  constructor
  · rintro ⟨values, ⟨has, rfl⟩, hok⟩
    exact ⟨has, (Except.ok.inj hok).symm.trans (eq_ofList (toList_recordXml fields point))⟩
  · rintro ⟨has, rfl⟩
    exact ⟨_, ⟨has, rfl⟩, congrArg Except.ok (eq_ofList (toList_recordXml fields point))⟩

theorem toList_documentXml (now : Date) (params : TelemetryExportParams)
    {recordsXml : List String}
    (hrecords : recordsXml = params.telemetry.map fun point => String.ofList ("    ".toList ++
      (History.recordMarkup (record (foundText numberText) params.fields point)).write)) :
    (documentXml now params (params.fields.map fieldXml) recordsXml).toList =
      Xml.writeDocument (history (foundText numberText) now params).markup := by
  let h := history (foundText numberText) now params
  have houter : Xml.escape "  ".toList = "  ".toList := rfl
  have hinner : Xml.escape "    ".toList = "    ".toList := rfl
  have hfields : h.fieldsMarkup.write = "<fields>\n".toList ++
      ("\n".intercalate (params.fields.map fieldXml)).toList ++ "\n  </fields>".toList := by
    rw [History.fieldsMarkup, Xml.Markup.write, Xml.Markup.writeTail,
      Xml.write_block hinner houter]
    simp [h, history, Xml.writeAttributes, String.toList_intercalate, List.map_map,
      Function.comp_def, toList_fieldXml]
  have hsection : h.recordsMarkup.write = "<records count=".toList ++
      (attr (toString params.telemetry.length)).toList ++ ">\n".toList ++
      ("\n".intercalate recordsXml).toList ++ "\n  </records>".toList := by
    rw [History.recordsMarkup, Xml.Markup.write, Xml.Markup.writeTail,
      Xml.write_block hinner houter, write_pairs, hrecords]
    simp [h, history, String.toList_intercalate, List.map_map, Function.comp_def]
  have declared : "<?xml version=\"1.0\" encoding=\"UTF-8\"?>".toList = Xml.declaration := rfl
  have hlead : " deviceName=".toList = ' ' :: ("deviceName".toList ++ ['=']) := by simp
  have name := toList_optional params.deviceName hlead
  rw [Xml.writeDocument, History.markup, Xml.Markup.write, Xml.Markup.writeTail, write_pairs,
    Xml.write_block houter rfl, History.sections, List.map_cons, List.map_cons, List.map_singleton,
    hfields, hsection]
  unfold documentXml
  simp only [String.toList_intercalate, List.map_cons, List.map_nil, String.toList_append, name,
    declared]
  simp [history, write_pairs, Xml.Markup.write, Xml.Markup.writeTail]

/-- A document is built just when every value of the schema has a text, and it has the layout
of its content. -/
theorem build_eq_ok_iff (now : Date) (params : TelemetryExportParams) (xml : String) :
    buildTelemetryHistoryXml numberText now params = .ok xml ↔
      (∀ point ∈ params.telemetry, ∀ field ∈ params.fields,
        HasText numberText point.payload field.key) ∧
      xml = String.ofList
        (Xml.writeDocument (history (foundText numberText) now params).markup) := by
  rw [buildTelemetryHistoryXml, bind_eq_ok_iff]
  simp only [mapM_eq_ok_iff (exportRecord_eq_ok_iff params.fields)]
  constructor
  · rintro ⟨records, ⟨has, hrecords⟩, hok⟩
    exact ⟨has, (Except.ok.inj hok).symm.trans (eq_ofList (toList_documentXml now params hrecords))⟩
  · rintro ⟨has, rfl⟩
    exact ⟨_, ⟨has, rfl⟩, congrArg Except.ok (eq_ofList (toList_documentXml now params rfl))⟩

end

end AiotCloud.TelemetryXml
