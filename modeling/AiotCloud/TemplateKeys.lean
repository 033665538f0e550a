import AiotCloud.ApiClient
import AiotCloud.BootConfig

/-!
# Template keys through the API client

A template's keys come to the dashboard twice: as strings in its schemas, and as object
keys of the maps that are kept under them, which the client camelizes.

1. `survives_iff`: when one map arrives.
2. `template_keys_iff`: all maps of a device arrive, and saving one gate leaves the others,
   exactly when every key and every number in them is one that the client leaves.
-/

namespace AiotCloud

variable {camelize : String → String}

/-! ## What the server sends -/

/-- The other fields of a DTO that has the fields `own`. -/
structure Dto (own : List String) where
  fields : List (String × JsonText)
  nodup : (own ++ Fields.keys fields).Nodup
  camelCase : ∀ name ∈ Fields.keys fields, CamelCase name

/-- One entry of a template's telemetry or action schema. -/
structure SchemaField where
  key : String
  others : Dto ["key"]

def SchemaField.json (field : SchemaField) : JsonText :=
  .obj (("key", .str field.key) :: field.others.fields)

/-- A map kept under template keys. -/
abbrev KeyMap := List (String × JsonText)

/-- A column that holds a map or `null`. -/
def mapJson : Option KeyMap → JsonText
  | none => .null
  | some fields => .obj fields

/-- A device, its template and its recorded telemetry, as they are stored. The maps are
keyed by the template's keys. -/
structure StoredDevice where
  others : Dto ["template", "warningOverrides", "channelStates"]
  templateOthers : Dto ["telemetrySchema", "actionSchema"]
  telemetrySchema : List SchemaField
  actionSchema : List SchemaField
  warningOverrides : Option KeyMap
  channelStates : Option KeyMap
  telemetry : List (Dto ["payload"] × KeyMap)
  telemetryKeys : ∀ key ∈ telemetrySchema.map (·.key), key ≠ ""
  telemetryKeys_nodup : (telemetrySchema.map (·.key)).Nodup
  actionKeys : ∀ key ∈ actionSchema.map (·.key), key ≠ ""
  actionKeys_nodup : (actionSchema.map (·.key)).Nodup
  overrides_keyed : ∀ key ∈ Fields.keys (warningOverrides.getD []),
    key ∈ telemetrySchema.map (·.key)
  channels_keyed : ∀ key ∈ Fields.keys (channelStates.getD []), key ∈ actionSchema.map (·.key)
  telemetry_keyed : ∀ record ∈ telemetry, ∀ key ∈ Fields.keys record.2,
    key ∈ telemetrySchema.map (·.key)
  overrides_distinct : (JsonText.obj (warningOverrides.getD [])).Distinct
  channels_distinct : (JsonText.obj (channelStates.getD [])).Distinct
  telemetry_distinct : ∀ record ∈ telemetry, (JsonText.obj record.2).Distinct

/-- `ResponseCore.ok(data)`. -/
def responseBody (data : JsonText) : JsonText :=
  .obj [("error", .num ⟨false, digits ['0'] rfl, none, none⟩), ("data", data),
    ("message", .str "success")]

namespace StoredDevice

variable (d : StoredDevice)

def overrides : KeyMap := d.warningOverrides.getD []

def channels : KeyMap := d.channelStates.getD []

/-- `DeviceTemplateDto`. -/
def templateJson : JsonText :=
  .obj (("telemetrySchema", .arr (d.telemetrySchema.map (·.json))) ::
    ("actionSchema", .arr (d.actionSchema.map (·.json))) :: d.templateOthers.fields)

/-- `DeviceDto`. -/
def deviceFields : List (String × JsonText) :=
  ("template", d.templateJson) :: ("warningOverrides", mapJson d.warningOverrides) ::
    ("channelStates", mapJson d.channelStates) :: d.others.fields

/-- The answer of `GET /devices/:id`. -/
def deviceBody : JsonText := responseBody (.obj d.deviceFields)

/-- The answer of `GET /devices/:id/telemetry`. -/
def telemetryBody : JsonText :=
  responseBody (.arr (d.telemetry.map fun record =>
    .obj (("payload", .obj record.2) :: record.1.fields)))

end StoredDevice

/-! ## What the dashboard reads -/

/-- `response.data?.data?.name`. -/
def dataField (name : String) (response : Option JsonText) : Option JsonText :=
  (response.bind (·.get? "data")).bind (·.get? name)

/-- `device.template?.schema`: the keys of its entries. -/
def schemaKeys (schema : String) (response : Option JsonText) : List JsonText :=
  (JsonText.elements ((dataField "template" response).bind (·.get? schema))).filterMap
    (·.get? "key")

/-- `telemetry[i]?.payload`. -/
def payloadAt (i : Nat) (response : Option JsonText) : Option JsonText :=
  ((JsonText.elements (response.bind (·.get? "data")))[i]?).bind (·.get? "payload")

/-- The map `GateRow.handleSave` sends: the row's threshold over the map last fetched. -/
def handleSave (key : String) (nextThreshold : JsonText) (warningOverrides : Option JsonText) :
    KeyMap :=
  Fields.assign key nextThreshold (JsonText.entries warningOverrides)

/-- `updateDeviceConfig` on the column of the overrides. -/
def storeOverrides {α : Type} (dto : Option (Option α)) (column : Option α) : Option α :=
  dto.getD column

theorem applyConfigDto_warningOverrides (dto : UpdateDeviceConfigDto) (device : DeviceEntity) :
    (applyConfigDto dto device).warningOverrides =
      storeOverrides dto.warningOverrides device.warningOverrides := rfl

/-- The column after one row's save. -/
def StoredDevice.saveGate (camelize : String → String) (d : StoredDevice) (key : String)
    (nextThreshold : JsonText) : Option KeyMap :=
  storeOverrides (some (some (handleSave key nextThreshold
    (dataField "warningOverrides" (transformResponse camelize d.deviceBody))))) d.warningOverrides

/-! ## One map -/

/-- Every stored key is found with its value, and no two keys are merged. -/
structure Survives (stored arrived : KeyMap) : Prop where
  found : ∀ k v, stored.lookup k = some v → arrived.lookup k = some v
  apart : arrived.length = stored.length

theorem survives_nil_iff {stored : KeyMap} : Survives stored [] ↔ stored = [] := by
  constructor
  · intro h
    exact List.length_eq_zero_iff.mp h.apart.symm
  · rintro rfl
    exact ⟨fun _ _ h => h, rfl⟩

theorem plain_nil : (JsonText.obj []).Plain camelize := plain_obj_iff.mpr (by simp [Fields.keys])

/-- Of an answer that is not read, only the empty map is left. -/
theorem survives_unread_iff {stored : KeyMap} {read : Prop} (unread : ¬ read) :
    Survives stored [] ↔ (stored = [] ∨ read) ∧ (JsonText.obj stored).Plain camelize := by
  rw [survives_nil_iff]
  constructor
  · rintro rfl
    exact ⟨Or.inl rfl, plain_nil⟩
  · rintro ⟨empty, -⟩
    exact empty.resolve_right unread

/-- A map survives if every key and every number in it is left. -/
theorem survives_iff (humps : Humps camelize) {stored : KeyMap}
    (distinct : (JsonText.obj stored).Distinct) :
    Survives stored (JsonText.entries (transformResponse camelize (.obj stored))) ↔
      (JsonText.obj stored).Plain camelize := by
  rw [← transformResponse_eq_self_iff humps _ distinct]
  constructor
  · intro survives
    rw [transformResponse_obj] at survives
    rw [transform_obj_iff humps distinct.1]
    cases harrived : transformFields camelize stored with
    | none =>
      rw [harrived] at survives
      obtain rfl := survives_nil_iff.mp survives
      cases harrived
    | some arrived =>
      rw [harrived] at survives
      have found : ∀ k v, stored.lookup k = some v →
          (Fields.rename camelize arrived).lookup k = some v := survives.found
      have fixed : ∀ k ∈ Fields.keys stored, camelize k = k := by
        intro k hk
        obtain ⟨v, hv⟩ := Fields.mem_keys_iff.mp hk
        exact Fields.fixed_of_mem_keys_rename humps.idempotent
          (Fields.mem_keys_of_lookup (found k v ((Fields.lookup_eq_some_iff distinct.1).mpr hv)))
      have keys := keys_transformFields harrived
      rw [Fields.rename_of_fixed (keys ▸ distinct.1) (keys ▸ fixed)] at found
      refine ⟨fixed, ?_⟩
      rw [← harrived, transformFields_eq_self_iff humps stored distinct.2]
      rintro ⟨k, v⟩ hp
      have stands := (Fields.lookup_eq_some_iff distinct.1).mpr hp
      have same := found k v stands
      rw [lookup_transformFields harrived, stands] at same
      exact (transformResponse_eq_self_iff humps v
        (JsonText.distinctFields_iff.mp distinct.2 _ hp)).mp same
  · intro same
    rw [same]
    exact ⟨fun _ _ h => h, rfl⟩

/-- The same of a column, `null` being an empty map. -/
theorem survives_mapJson_iff (humps : Humps camelize) {column : Option KeyMap}
    (distinct : (JsonText.obj (column.getD [])).Distinct) :
    Survives (column.getD []) (JsonText.entries (transformResponse camelize (mapJson column))) ↔
      (JsonText.obj (column.getD [])).Plain camelize := by
  cases column with
  | none => exact iff_of_true ⟨fun _ _ h => h, rfl⟩ plain_nil
  | some stored => exact survives_iff humps distinct

/-! ## Where the maps stand in a response -/

theorem responseBody_readable_iff (data : JsonText) :
    (responseBody data).Readable ↔ data.Readable := by
  have zero : ¬ Literal.Broken ⟨false, digits ['0'] rfl, none, none⟩ := by
    rintro ⟨long, -⟩
    exact absurd long (by decide)
  unfold JsonText.Readable
  simp only [responseBody, JsonText.numbers, JsonText.numbersOfFields, List.append_nil,
    List.singleton_append, List.forall_mem_cons]
  exact ⟨fun h => h.2, fun h => ⟨zero, h⟩⟩

/-- `response.data` is what the data become. -/
theorem data_transformResponse (humps : Humps camelize) (data : JsonText) :
    (transformResponse camelize (responseBody data)).bind (·.get? "data") =
      transformResponse camelize data := by
  cases hreceived : transformResponse camelize (responseBody data) with
  | none =>
    have unreadable : ¬ (transformResponse camelize data).isSome := by
      rw [transformResponse_isSome_iff, ← responseBody_readable_iff,
        ← transformResponse_isSome_iff camelize, hreceived]
      simp
    rw [Option.not_isSome_iff_eq_none.mp unreadable]
    rfl
  | some received =>
    have names : Fields.keys [("error", JsonText.num ⟨false, digits ['0'] rfl, none, none⟩),
        ("data", data), ("message", .str "success")] = ["error", "data", "message"] := rfl
    have camelCase : ∀ name ∈ ["error", "data", "message"], CamelCase name := by decide
    refine get?_transformResponse (by rw [names]; decide) (fun name hname => ?_) hreceived "data"
    rw [names] at hname
    exact humps.camelCase name (camelCase name hname)

/-- A field of a DTO is what its value becomes. -/
theorem get?_dto (humps : Humps camelize) {own : List String} (dto : Dto own)
    (hown : ∀ name ∈ own, CamelCase name) {fields : List (String × JsonText)}
    (keys : Fields.keys fields = own ++ Fields.keys dto.fields)
    (readable : (JsonText.obj fields).Readable) (name : String) :
    (transformResponse camelize (.obj fields)).bind (·.get? name) =
      (fields.lookup name).bind (transformResponse camelize) := by
  rw [← transformResponse_isSome_iff camelize, Option.isSome_iff_exists] at readable
  obtain ⟨received, hreceived⟩ := readable
  rw [hreceived]
  refine get?_transformResponse (keys ▸ dto.nodup) (fun k hk => ?_) hreceived name
  rw [keys] at hk
  rcases List.mem_append.mp hk with hk | hk
  · exact humps.camelCase k (hown k hk)
  · exact humps.camelCase k (dto.camelCase k hk)

theorem dataField_deviceBody (humps : Humps camelize) {d : StoredDevice}
    (readable : d.deviceBody.Readable) (name : String) :
    dataField name (transformResponse camelize d.deviceBody) =
      (d.deviceFields.lookup name).bind (transformResponse camelize) := by
  unfold dataField StoredDevice.deviceBody
  rw [data_transformResponse humps]
  exact get?_dto humps d.others (by decide) rfl ((responseBody_readable_iff _).mp readable) name

/-- A response that is not read has no field. -/
theorem transformResponse_eq_none {body : JsonText} (unreadable : ¬ body.Readable) :
    transformResponse camelize body = none := by
  rwa [← transformResponse_isSome_iff camelize, Option.not_isSome_iff_eq_none] at unreadable

/-- A map of the device survives if the answer is read and the map is one that is left. -/
theorem survives_deviceBody_iff (humps : Humps camelize) {d : StoredDevice} (name : String)
    {column : Option KeyMap} (distinct : (JsonText.obj (column.getD [])).Distinct)
    (stands : d.deviceFields.lookup name = some (mapJson column)) :
    Survives (column.getD [])
        (JsonText.entries (dataField name (transformResponse camelize d.deviceBody))) ↔
      (column.getD [] = [] ∨ d.deviceBody.Readable) ∧
        (JsonText.obj (column.getD [])).Plain camelize := by
  by_cases readable : d.deviceBody.Readable
  · rw [dataField_deviceBody humps readable, stands, Option.bind_some,
      survives_mapJson_iff humps distinct]
    simp [readable]
  · rw [transformResponse_eq_none readable]
    exact survives_unread_iff readable

/-- The panels see the template's own keys: they are strings. -/
theorem schemaKeys_deviceBody (humps : Humps camelize) {d : StoredDevice}
    (readable : d.deviceBody.Readable) {schema : String} {fields : List SchemaField}
    (stands : (("telemetrySchema", .arr (d.telemetrySchema.map (·.json))) ::
      ("actionSchema", .arr (d.actionSchema.map (·.json))) :: d.templateOthers.fields).lookup
        schema = some (.arr (fields.map (·.json)))) :
    schemaKeys schema (transformResponse camelize d.deviceBody) =
      fields.map fun field => .str field.key := by
  have deviceReadable := (responseBody_readable_iff _).mp readable
  have templateReadable : d.templateJson.Readable :=
    deviceReadable.field (List.mem_cons_self ..)
  have schemaReadable : (JsonText.arr (fields.map (·.json))).Readable :=
    templateReadable.field (Fields.mem_of_lookup stands)
  have entry : ∀ field ∈ fields, (transformResponse camelize field.json).bind (·.get? "key") =
      some (.str field.key) := by
    intro field hfield
    exact get?_dto humps field.others (by decide) rfl
      (schemaReadable.item (List.mem_map_of_mem hfield)) "key"
  have items := elements_transformResponse camelize schemaReadable
  unfold schemaKeys
  rw [dataField_deviceBody humps readable]
  show (JsonText.elements ((transformResponse camelize d.templateJson).bind
    (·.get? schema))).filterMap _ = _
  unfold StoredDevice.templateJson
  rw [get?_dto humps d.templateOthers (by decide) rfl templateReadable, stands, Option.bind_some]
  calc
    _ = ((JsonText.elements (transformResponse camelize (.arr (fields.map (·.json))))).map
          some).filterMap (·.bind (·.get? "key")) := by
      rw [List.filterMap_map]
      rfl
    _ = fields.filterMap fun field =>
          (transformResponse camelize field.json).bind (·.get? "key") := by
      rw [items, List.map_map, List.filterMap_map]
      rfl
    _ = fields.map fun field => .str field.key := by
      rw [List.filterMap_congr entry, ← List.filterMap_eq_map]
      rfl

/-- A recorded payload survives if the answer is read and the payload is one that is left. -/
theorem survives_telemetryBody_iff (humps : Humps camelize) {d : StoredDevice} {i : Nat}
    {record : Dto ["payload"] × KeyMap} (stands : d.telemetry[i]? = some record) :
    Survives record.2
        (JsonText.entries (payloadAt i (transformResponse camelize d.telemetryBody))) ↔
      (record.2 = [] ∨ d.telemetryBody.Readable) ∧ (JsonText.obj record.2).Plain camelize := by
  have hrecord : record ∈ d.telemetry := List.mem_of_getElem? stands
  by_cases readable : d.telemetryBody.Readable
  · have dataReadable := (responseBody_readable_iff _).mp readable
    have fields := get?_dto humps record.1 (by decide) rfl
      (dataReadable.item (List.mem_map_of_mem hrecord)) "payload"
    have arrived : payloadAt i (transformResponse camelize d.telemetryBody) =
        transformResponse camelize (.obj record.2) := by
      unfold payloadAt StoredDevice.telemetryBody
      rw [data_transformResponse humps, getElem?_transformResponse dataReadable, List.getElem?_map,
        stands]
      exact fields
    rw [arrived, survives_iff humps (d.telemetry_distinct record hrecord)]
    simp [readable]
  · rw [transformResponse_eq_none readable]
    exact survives_unread_iff readable

/-! ## All maps of a device -/

/-- The keys the panels look up, the maps that are fetched, and what a save of one row
leaves. -/
structure TemplateKeysSurvive (camelize : String → String) (d : StoredDevice) : Prop where
  telemetryKeys : (transformResponse camelize d.deviceBody).isSome →
    schemaKeys "telemetrySchema" (transformResponse camelize d.deviceBody) =
      d.telemetrySchema.map fun field => .str field.key
  actionKeys : (transformResponse camelize d.deviceBody).isSome →
    schemaKeys "actionSchema" (transformResponse camelize d.deviceBody) =
      d.actionSchema.map fun field => .str field.key
  overrides : Survives d.overrides
    (JsonText.entries (dataField "warningOverrides" (transformResponse camelize d.deviceBody)))
  channels : Survives d.channels
    (JsonText.entries (dataField "channelStates" (transformResponse camelize d.deviceBody)))
  telemetry : ∀ i record, d.telemetry[i]? = some record → Survives record.2
    (JsonText.entries (payloadAt i (transformResponse camelize d.telemetryBody)))
  saves : ∀ key,
    .str key ∈ schemaKeys "telemetrySchema" (transformResponse camelize d.deviceBody) →
    ∀ nextThreshold other, other ≠ key →
      ((d.saveGate camelize key nextThreshold).getD []).lookup other = d.overrides.lookup other

/-- The answers that carry a map with a key in it are read, and the maps are left. -/
structure KeysLeft (camelize : String → String) (d : StoredDevice) : Prop where
  device : (d.overrides = [] ∧ d.channels = []) ∨ d.deviceBody.Readable
  history : (∀ record ∈ d.telemetry, record.2 = []) ∨ d.telemetryBody.Readable
  overrides : (JsonText.obj d.overrides).Plain camelize
  channels : (JsonText.obj d.channels).Plain camelize
  telemetry : ∀ record ∈ d.telemetry, (JsonText.obj record.2).Plain camelize

/-- When the overrides arrive as they are stored, a save writes the row's key only. -/
theorem saveGate_other (humps : Humps camelize) {d : StoredDevice}
    (left : (JsonText.obj d.overrides).Plain camelize) (readable : d.deviceBody.Readable)
    {key other : String} (hne : other ≠ key) (nextThreshold : JsonText) :
    ((d.saveGate camelize key nextThreshold).getD []).lookup other = d.overrides.lookup other := by
  have arrived : JsonText.entries
      (dataField "warningOverrides" (transformResponse camelize d.deviceBody)) = d.overrides := by
    rw [dataField_deviceBody humps readable]
    show JsonText.entries (transformResponse camelize (mapJson d.warningOverrides)) = d.overrides
    have distinct := d.overrides_distinct
    unfold StoredDevice.overrides at left ⊢
    cases hcolumn : d.warningOverrides with
    | none => rfl
    | some stored =>
      rw [hcolumn] at left distinct
      exact congrArg JsonText.entries ((transformResponse_eq_self_iff humps _ distinct).mpr left)
  show (handleSave key nextThreshold _).lookup other = _
  rw [handleSave, arrived, Fields.lookup_assign, if_neg hne]

/-- Looking a fetched map up with a template key gives the stored value, no two keys being
merged, and saving one gate leaves the override of every other field, exactly when every
answer with a map in it is read and `camelize` and the quoting leave the maps. -/
theorem template_keys_iff (camelize : String → String) (humps : Humps camelize)
    (d : StoredDevice) : TemplateKeysSurvive camelize d ↔ KeysLeft camelize d := by
  have overridesIff := survives_deviceBody_iff humps "warningOverrides" d.overrides_distinct rfl
  have channelsIff := survives_deviceBody_iff humps "channelStates" d.channels_distinct rfl
  constructor
  · intro survive
    obtain ⟨overridesRead, overrides⟩ := overridesIff.mp survive.overrides
    obtain ⟨channelsRead, channels⟩ := channelsIff.mp survive.channels
    have telemetry : ∀ record ∈ d.telemetry, (record.2 = [] ∨ d.telemetryBody.Readable) ∧
        (JsonText.obj record.2).Plain camelize := by
      intro record hrecord
      obtain ⟨i, hi⟩ := List.getElem?_of_mem hrecord
      exact (survives_telemetryBody_iff humps hi).mp (survive.telemetry i record hi)
    refine ⟨?_, ?_, overrides, channels, fun record hrecord => (telemetry record hrecord).2⟩
    · rcases overridesRead with noOverrides | readable
      · exact channelsRead.imp (fun noChannels => ⟨noOverrides, noChannels⟩) id
      · exact Or.inr readable
    · by_cases readable : d.telemetryBody.Readable
      · exact Or.inr readable
      · exact Or.inl fun record hrecord => (telemetry record hrecord).1.resolve_right readable
  · intro left
    refine ⟨fun answered => ?_, fun answered => ?_,
      overridesIff.mpr ⟨left.device.imp_left (·.1), left.overrides⟩,
      channelsIff.mpr ⟨left.device.imp_left (·.2), left.channels⟩, fun i record hi => ?_, ?_⟩
    · exact schemaKeys_deviceBody humps ((transformResponse_isSome_iff _ _).mp answered) rfl
    · exact schemaKeys_deviceBody humps ((transformResponse_isSome_iff _ _).mp answered) rfl
    · have hrecord := List.mem_of_getElem? hi
      exact (survives_telemetryBody_iff humps hi).mpr
        ⟨left.history.imp_left fun empty => empty record hrecord, left.telemetry record hrecord⟩
    · intro key row nextThreshold other hne
      by_cases readable : d.deviceBody.Readable
      · exact saveGate_other humps left.overrides readable hne nextThreshold
      · rw [transformResponse_eq_none readable] at row
        cases row

/-! ## Keys of one word and keys of two -/

/-- The separators of `humps.camelize`. -/
def separator (c : Char) : Bool := ['-', '_', ' ', '\t', '\r', '\n'].contains c

/-- A separator goes and the character after it is put in upper case. -/
def joinWords (up : Bool) : List Char → List Char
  | [] => []
  | c :: cs =>
    if separator c then joinWords true cs
    else (if up then c.toUpper else c) :: joinWords false cs

/-- What `humps.camelize` does to words of ASCII letters that `Number` does not read. It would leave
`Infinity`. -/
def camelizeWords (s : String) : String :=
  match joinWords false s.toList with
  | [] => ""
  | c :: cs => String.ofList (c.toLower :: cs)

theorem toNat_toUpper (c : Char) :
    c.toUpper.toNat = if 97 ≤ c.toNat ∧ c.toNat ≤ 122 then c.toNat - 32 else c.toNat := by
  unfold Char.toUpper
  simp only [Char.toNat, UInt32.le_iff_toNat_le]
  split
  · next h =>
    have lower : 97 ≤ c.val.toNat ∧ c.val.toNat ≤ 122 := h
    have shift : ('A'.val - 'a'.val).toNat = 4294967264 := by decide
    rw [if_pos lower, UInt32.toNat_add, shift]
    omega
  · next h => exact (if_neg h).symm

theorem toNat_toLower (c : Char) :
    c.toLower.toNat = if 65 ≤ c.toNat ∧ c.toNat ≤ 90 then c.toNat + 32 else c.toNat := by
  unfold Char.toLower
  simp only [Char.toNat, UInt32.le_iff_toNat_le, ge_iff_le]
  split
  · next h =>
    have upper : 65 ≤ c.val.toNat ∧ c.val.toNat ≤ 90 := h
    have shift : ('a'.val - 'A'.val).toNat = 32 := by decide
    rw [if_pos upper, UInt32.toNat_add, shift]
    omega
  · next h => exact (if_neg h).symm

theorem toLower_toLower (c : Char) : c.toLower.toLower = c.toLower := by
  rw [← Char.toNat_inj, toNat_toLower c.toLower, toNat_toLower c]
  split_ifs <;> omega

theorem separator_iff (c : Char) : separator c = true ↔ c.toNat ∈ [45, 95, 32, 9, 13, 10] := by
  simp only [separator, List.contains_iff_mem, List.mem_cons, List.not_mem_nil, or_false,
    ← Char.toNat_inj]
  rfl

theorem separator_toUpper {c : Char} (h : separator c = false) : separator c.toUpper = false := by
  rw [Bool.eq_false_iff, Ne, separator_iff] at h ⊢
  rw [toNat_toUpper]
  simp only [List.mem_cons, List.not_mem_nil, or_false] at h ⊢
  split_ifs <;> omega

theorem separator_toLower {c : Char} (h : separator c = false) : separator c.toLower = false := by
  rw [Bool.eq_false_iff, Ne, separator_iff] at h ⊢
  rw [toNat_toLower]
  simp only [List.mem_cons, List.not_mem_nil, or_false] at h ⊢
  split_ifs <;> omega

theorem joinWords_eq_self {cs : List Char} (h : ∀ c ∈ cs, separator c = false) :
    joinWords false cs = cs := by
  induction cs with
  | nil => rfl
  | cons c cs ih =>
    rw [joinWords, if_neg (by simp [h c]), ih fun x hx => h x (List.mem_cons_of_mem _ hx)]
    rfl

theorem joinWords_joined (up : Bool) (cs : List Char) :
    ∀ c ∈ joinWords up cs, separator c = false := by
  induction cs generalizing up with
  | nil => simp [joinWords]
  | cons c cs ih =>
    unfold joinWords
    split_ifs with hc hup
    · exact ih true
    · exact List.forall_mem_cons.mpr ⟨separator_toUpper (Bool.not_eq_true _ ▸ hc), ih false⟩
    · exact List.forall_mem_cons.mpr ⟨Bool.not_eq_true _ ▸ hc, ih false⟩

theorem separator_of_isAlphanum {c : Char} (h : c.isAlphanum) : separator c = false := by
  rw [Bool.eq_false_iff, Ne, separator_iff]
  simp only [List.mem_cons, List.not_mem_nil, or_false]
  delta Char.isAlphanum Char.isAlpha Char.isUpper Char.isLower Char.isDigit at h
  simp only [Bool.or_eq_true, Bool.and_eq_true, decide_eq_true_eq, UInt32.le_iff_toNat_le,
    ge_iff_le] at h
  change ((65 ≤ c.toNat ∧ c.toNat ≤ 90) ∨ (97 ≤ c.toNat ∧ c.toNat ≤ 122)) ∨
    (48 ≤ c.toNat ∧ c.toNat ≤ 57) at h
  omega

theorem toLower_of_isLower {c : Char} (h : c.isLower) : c.toLower = c := by
  delta Char.isLower at h
  simp only [Bool.and_eq_true, decide_eq_true_eq, UInt32.le_iff_toNat_le, ge_iff_le] at h
  change 97 ≤ c.toNat ∧ c.toNat ≤ 122 at h
  rw [← Char.toNat_inj, toNat_toLower]
  split_ifs <;> omega

theorem camelizeWords_humps : Humps camelizeWords := by
  constructor
  · intro s
    unfold camelizeWords
    have joined := joinWords_joined false s.toList
    cases hjoin : joinWords false s.toList with
    | nil => rfl
    | cons c cs =>
      rw [hjoin] at joined
      have stays : ∀ x ∈ c.toLower :: cs, separator x = false := by
        intro x hx
        rcases List.mem_cons.mp hx with rfl | hx
        · exact separator_toLower (joined c List.mem_cons_self)
        · exact joined x (List.mem_cons_of_mem _ hx)
      simp only [String.toList_ofList, joinWords_eq_self stays, toLower_toLower]
  · intro s camelCase
    rw [CamelCase, Bool.and_eq_true, List.all_eq_true] at camelCase
    obtain ⟨word, start⟩ := camelCase
    unfold camelizeWords
    rw [joinWords_eq_self fun c hc => separator_of_isAlphanum (word c hc)]
    cases hs : s.toList with
    | nil =>
      rw [hs] at start
      cases start
    | cons c cs =>
      rw [hs] at start
      show String.ofList (c.toLower :: cs) = s
      rw [toLower_of_isLower start, ← hs, String.ofList_toList]

/-- A sensor node with one telemetry key, an override for it and one recorded value. -/
def sensorNode (key : String) (hkey : key ≠ "") : StoredDevice where
  others := ⟨[("deviceId", .str "node-7"), ("status", .str "ONLINE")], by decide, by decide⟩
  templateOthers := ⟨[("name", .str "Sensor node")], by decide, by decide⟩
  telemetrySchema := [⟨key, ⟨[("label", .str "Reading")], by decide, by decide⟩⟩]
  actionSchema := []
  warningOverrides := some [(key, .obj [("enabled", .bool true)])]
  channelStates := none
  telemetry := [(⟨[("deviceId", .str "node-7")], by decide, by decide⟩,
    [(key, .num ⟨false, digits ['2', '1'] rfl, none, none⟩)])]
  telemetryKeys := by simpa using hkey
  telemetryKeys_nodup := by simp
  actionKeys := by simp
  actionKeys_nodup := by simp
  overrides_keyed := by simp [Fields.keys]
  channels_keyed := by simp [Fields.keys]
  telemetry_keyed := by simp [Fields.keys]
  overrides_distinct := by
    simp [JsonText.Distinct, JsonText.DistinctFields, Fields.keys]
  channels_distinct := by
    simp [JsonText.Distinct, JsonText.DistinctFields, Fields.keys]
  telemetry_distinct := by
    simp [JsonText.Distinct, JsonText.DistinctFields, Fields.keys]

theorem template_keys_iff_temperature :
    TemplateKeysSurvive camelizeWords (sensorNode "temperature" (by decide)) :=
  (template_keys_iff camelizeWords camelizeWords_humps (sensorNode "temperature" (by decide))).mpr
    { device := Or.inr (by decide)
      history := Or.inr (by decide)
      overrides := ⟨by decide, by decide⟩
      channels := plain_nil
      telemetry := by
        intro record hrecord
        obtain rfl := List.mem_singleton.mp hrecord
        exact ⟨by decide, by decide⟩ }

/-- The override of a snake_case key is not found under it. -/
theorem template_keys_lost :
    ¬ TemplateKeysSurvive camelizeWords (sensorNode "soil_moisture" (by decide)) := by
  intro survive
  have left := ((survives_deviceBody_iff camelizeWords_humps "warningOverrides"
    (sensorNode "soil_moisture" (by decide)).overrides_distinct rfl).mp survive.overrides).2
  exact absurd (left.names "soil_moisture" (by decide)) (by decide)

end AiotCloud
