import AiotCloud.TelemetryXml

/-!
# Reading the XML export

What an XML reader finds in the document that `buildTelemetryHistoryXml` builds.

* `readHistory_node`: it finds the content, with each text as it is read.
* `read_document_iff`: it reads the document when its texts are allowed.
* `lossless_iff`: when a document is read, and as what was exported.
-/

namespace AiotCloud.TelemetryXml

open AiotCloud.Ingress

/-! ## The content of a document -/

def attributesOf (node : Xml.Node) : Attributes :=
  node.attributes.map fun (name, text) => (String.ofList name, String.ofList text)

/-- The content of a document that was read. -/
def readHistory (root : Xml.Node) : History where
  device := attributesOf root
  timeRange := (root.elements "timeRange".toList).flatMap attributesOf
  fields := (root.elements "fields".toList).flatMap fun fields =>
    (fields.elements "field".toList).map attributesOf
  count := (root.elements "records".toList).flatMap attributesOf
  records := (root.elements "records".toList).flatMap fun records =>
    (records.elements "record".toList).map fun record =>
      (attributesOf record, (record.elements "value".toList).map fun value =>
        (attributesOf value, String.ofList value.text))

section

variable (numberText : Rat → String)

/-- The text of a field of the payload. -/
def ownText (payload : Record Json) (key : String) : Option String :=
  (payload.lookup key).map (textOf numberText)

/-- The document is built, an XML reader reads it, and what it finds is what was exported. -/
def Lossless (now : Date) (params : TelemetryExportParams) : Prop :=
  ∃ xml root, buildTelemetryHistoryXml numberText now params = .ok xml ∧
    Xml.read xml.toList = some root ∧ readHistory root = history (ownText numberText) now params

end

namespace History

/-- The values of the attributes are changed, and the texts. -/
def mapTexts (onAttributes : Attributes → Attributes) (onText : String → String) (h : History) :
    History where
  device := onAttributes h.device
  timeRange := onAttributes h.timeRange
  fields := h.fields.map onAttributes
  count := onAttributes h.count
  records := h.records.map fun (attributes, values) =>
    (onAttributes attributes, values.map fun (attributes, text) =>
      (onAttributes attributes, onText text))

def attributeTexts (h : History) : List String :=
  (h.device ++ h.timeRange ++ h.fields.flatten ++ h.count ++
    h.records.flatMap fun record => record.1 ++ record.2.flatMap (·.1)).map (·.2)

def texts (h : History) : List String := h.records.flatMap fun record => record.2.map (·.2)

end History

/-- An attribute value as it is read. -/
def readValue (text : String) : String := String.ofList (Xml.valueOf text.toList)

/-- A text as it is read. -/
def readText (text : String) : String := String.ofList (Xml.lineEnds text.toList)

/-- The attributes as they are read. -/
def readAttributes (attributes : Attributes) : Attributes :=
  attributes.map fun (name, text) => (name, readValue text)

@[simp] theorem attributesOf_element (name : Xml.Text) (attributes : Attributes)
    (content : Xml.Content) :
    attributesOf (Xml.Markup.element name (History.pairs attributes) content).node =
      readAttributes attributes := by
  simp [attributesOf, Xml.Markup.node, Xml.Node.attributes, Xml.readAttributes, History.pairs,
    readAttributes, readValue]

@[simp] theorem attributesOf_empty (name : Xml.Text) (attributes : Attributes) :
    attributesOf (Xml.Markup.empty name (History.pairs attributes)).node =
      readAttributes attributes := by
  simp [attributesOf, Xml.Markup.node, Xml.Node.attributes, Xml.readAttributes, History.pairs,
    readAttributes, readValue]

theorem text_node (name : Xml.Text) (attributes : List (Xml.Text × Xml.Text)) (text : Xml.Text) :
    (Xml.Markup.element name attributes (.last text)).node.text = Xml.lineEnds text := by
  simp [Xml.Markup.node, Xml.Content.nodes, Xml.Node.text, Xml.Node.children,
    List.filterMap_map]

/-- A record is read with its values in order. -/
theorem values_node (record : Attributes × List (Attributes × String)) :
    ((History.recordMarkup record).node.elements "value".toList).map (fun value =>
        (attributesOf value, String.ofList value.text)) =
      record.2.map fun (attributes, text) => (readAttributes attributes, readText text) := by
  have named : ∀ item ∈ record.2.map History.valueMarkup, item.name = "value".toList :=
    List.forall_mem_map.mpr fun _ _ => rfl
  rw [History.recordMarkup, Xml.elements_node named, List.map_map, List.map_map]
  refine List.map_congr_left fun value _ => ?_
  simp [History.valueMarkup, text_node, readText]

/-- The content that is read of a document is the content it was written from, with its texts
as they are read. -/
theorem readHistory_node (h : History) :
    readHistory h.markup.node = h.mapTexts readAttributes readText := by
  have hsections : ∀ name, h.markup.node.elements name =
      (h.sections.filter (·.name = name)).map Xml.Markup.node :=
    fun name => Xml.elements_block
  have hrange : h.markup.node.elements "timeRange".toList =
      [(Xml.Markup.empty "timeRange".toList (History.pairs h.timeRange)).node] := hsections _
  have hfields : h.markup.node.elements "fields".toList = [h.fieldsMarkup.node] := hsections _
  have hrecords : h.markup.node.elements "records".toList = [h.recordsMarkup.node] := hsections _
  have hfield : h.fieldsMarkup.node.elements "field".toList =
      (h.fields.map History.fieldMarkup).map Xml.Markup.node :=
    Xml.elements_node (List.forall_mem_map.mpr fun _ _ => rfl)
  have hrecord : h.recordsMarkup.node.elements "record".toList =
      (h.records.map History.recordMarkup).map Xml.Markup.node :=
    Xml.elements_node (List.forall_mem_map.mpr fun _ _ => rfl)
  have hdevice : attributesOf h.markup.node = readAttributes h.device := attributesOf_element ..
  have hcount : attributesOf h.recordsMarkup.node = readAttributes h.count :=
    attributesOf_element ..
  rw [readHistory, hdevice, hrange, hfields, hrecords, List.flatMap_singleton,
    List.flatMap_singleton, List.flatMap_singleton, List.flatMap_singleton, hfield, hrecord, hcount,
    List.map_map, List.map_map, List.map_map, List.map_map, attributesOf_empty]
  refine congr (congrArg (History.mk _ _ · _) ?_) ?_
  · exact List.map_congr_left fun field _ => attributesOf_empty ..
  · refine List.map_congr_left fun record _ => ?_
    exact congr (congrArg Prod.mk (attributesOf_element ..)) (values_node record)

section

variable (p q : String → Prop)

/-- What holds of the attribute values of a content and of its texts, part by part. -/
theorem forall_texts (h : History) :
    ((∀ text ∈ h.attributeTexts, p text) ∧ ∀ text ∈ h.texts, q text) ↔
      (∀ pair ∈ h.device, p pair.2) ∧ (∀ pair ∈ h.timeRange, p pair.2) ∧
        (∀ field ∈ h.fields, ∀ pair ∈ field, p pair.2) ∧ (∀ pair ∈ h.count, p pair.2) ∧
          ∀ record ∈ h.records, (∀ pair ∈ record.1, p pair.2) ∧
            ∀ value ∈ record.2, (∀ pair ∈ value.1, p pair.2) ∧ q value.2 := by
  simp only [History.attributeTexts, History.texts, List.forall_mem_map, List.forall_mem_append,
    List.forall_mem_flatMap, List.forall_mem_flatten, forall_and, and_assoc]

end

theorem allowed_pairs (attributes : Attributes) :
    (∀ text ∈ (History.pairs attributes).map (·.2), Xml.Allowed text) ↔
      ∀ pair ∈ attributes, Xml.Allowed pair.2.toList := by
  simp only [History.pairs, List.forall_mem_map]

theorem allowed_indents : Xml.Allowed "  ".toList ∧ Xml.Allowed "    ".toList ∧
    Xml.Allowed "      ".toList :=
  ⟨List.all_eq_true.mp (by decide), List.all_eq_true.mp (by decide),
    List.all_eq_true.mp (by decide)⟩

theorem allowed_record (record : Attributes × List (Attributes × String)) :
    (∀ text ∈ (History.recordMarkup record).texts, Xml.Allowed text) ↔
      (∀ pair ∈ record.1, Xml.Allowed pair.2.toList) ∧
        ∀ value ∈ record.2, (∀ pair ∈ value.1, Xml.Allowed pair.2.toList) ∧
          Xml.Allowed value.2.toList := by
  obtain ⟨-, hlast, hindent⟩ := allowed_indents
  have hvalue : ∀ value, (∀ text ∈ (History.valueMarkup value).texts, Xml.Allowed text) ↔
      (∀ pair ∈ value.1, Xml.Allowed pair.2.toList) ∧ Xml.Allowed value.2.toList := by
    intro value
    rw [History.valueMarkup, Xml.Markup.texts, List.forall_mem_append, allowed_pairs,
      Xml.Content.texts, List.forall_mem_singleton]
  rw [History.recordMarkup, Xml.Markup.texts, List.forall_mem_append, allowed_pairs,
    Xml.allowed_texts_block hindent hlast, List.forall_mem_map]
  simp only [hvalue]

/-- The texts of a document are allowed when those of the content are. -/
theorem allowed_markup (h : History) :
    (∀ text ∈ h.markup.texts, Xml.Allowed text) ↔
      (∀ text ∈ h.attributeTexts, Xml.Allowed text.toList) ∧
        ∀ text ∈ h.texts, Xml.Allowed text.toList := by
  obtain ⟨houter, hinner, -⟩ := allowed_indents
  have hfields : (∀ text ∈ h.fieldsMarkup.texts, Xml.Allowed text) ↔
      ∀ field ∈ h.fields, ∀ pair ∈ field, Xml.Allowed pair.2.toList := by
    rw [History.fieldsMarkup, Xml.Markup.texts, List.map_nil, List.nil_append,
      Xml.allowed_texts_block hinner houter, List.forall_mem_map]
    simp only [History.fieldMarkup, Xml.Markup.texts, allowed_pairs]
  have hrecords : (∀ text ∈ h.recordsMarkup.texts, Xml.Allowed text) ↔
      (∀ pair ∈ h.count, Xml.Allowed pair.2.toList) ∧
        ∀ record ∈ h.records, (∀ pair ∈ record.1, Xml.Allowed pair.2.toList) ∧
          ∀ value ∈ record.2, (∀ pair ∈ value.1, Xml.Allowed pair.2.toList) ∧
            Xml.Allowed value.2.toList := by
    rw [History.recordsMarkup, Xml.Markup.texts, List.forall_mem_append, allowed_pairs,
      Xml.allowed_texts_block hinner houter, List.forall_mem_map]
    simp only [allowed_record]
  rw [forall_texts (fun text => Xml.Allowed text.toList) (fun text => Xml.Allowed text.toList),
    History.markup, Xml.Markup.texts, List.forall_mem_append, allowed_pairs,
    Xml.allowed_texts_block houter Xml.allowed_nil, History.sections, List.forall_mem_cons,
    List.forall_mem_cons, List.forall_mem_singleton, hfields, hrecords, Xml.Markup.texts,
    allowed_pairs]

/-- A list is kept by a change of its items just when they are. -/
theorem map_eq_self_iff {α : Type} {f : α → α} {xs : List α} :
    xs.map f = xs ↔ ∀ x ∈ xs, f x = x := by
  have kept : xs.map f = xs.map id ↔ ∀ x ∈ xs, f x = x := List.map_inj_left
  rw [← kept, List.map_id]

theorem readAttributes_eq_self_iff {attributes : Attributes} :
    readAttributes attributes = attributes ↔ ∀ pair ∈ attributes, readValue pair.2 = pair.2 := by
  rw [readAttributes, map_eq_self_iff]
  simp only [Prod.ext_iff, true_and]

theorem mapTexts_eq_self_iff (h : History) :
    h.mapTexts readAttributes readText = h ↔
      (∀ text ∈ h.attributeTexts, readValue text = text) ∧
        ∀ text ∈ h.texts, readText text = text := by
  rw [forall_texts (fun text => readValue text = text) (fun text => readText text = text)]
  cases h with
  | mk device timeRange fields count records =>
    simp only [History.mapTexts, History.mk.injEq, map_eq_self_iff, readAttributes_eq_self_iff,
      Prod.ext_iff]

/-! ## Reading a document -/

theorem named_pairs {attributes : Attributes} (names : List String)
    (h : (attributes.map (·.1)).Sublist names)
    (valid : ∀ name ∈ names, Xml.isName name.toList = true)
    (distinct : (names.map String.toList).Nodup) : Xml.Named (History.pairs attributes) := by
  have keys : (History.pairs attributes).map (·.1) = (attributes.map (·.1)).map String.toList := by
    simp [History.pairs]
  constructor
  · rw [keys]
    exact List.forall_mem_map.mpr fun name hname => valid name (h.subset hname)
  · rw [keys]
    exact distinct.sublist (h.map _)

theorem optionalAttribute_sublist (name : String) (text : Option String) :
    ((optionalAttribute name text).map (·.1)).Sublist [name] := by
  cases text with
  | none => exact List.nil_sublist _
  | some text =>
    rw [optionalAttribute]
    split
    · exact List.nil_sublist _
    · exact List.Sublist.refl _

section

variable (textIn : Record Json → String → Option String)

theorem wellNamed_record (fields : List TelemetryFieldDefinition) (point : DeviceTelemetry) :
    (History.recordMarkup (record textIn fields point)).WellNamed := by
  have hvalue : ∀ value ∈ (record textIn fields point).2,
      (History.valueMarkup value).WellNamed := by
    intro value hvalue
    obtain ⟨field, -, hfield⟩ := List.mem_filterMap.mp hvalue
    obtain ⟨text, -, rfl⟩ := Option.map_eq_some_iff.mp hfield
    exact ⟨rfl, named_pairs ["field"] (List.Sublist.refl _) (by decide) (by decide), trivial⟩
  exact ⟨rfl, named_pairs ["recordedAt"] (List.Sublist.refl _) (by decide) (by decide),
    Xml.wellNamed_block (List.forall_mem_map.mpr hvalue)⟩

theorem wellNamed_markup (now : Date) (params : TelemetryExportParams) :
    (history textIn now params).markup.WellNamed := by
  have device : Xml.Named (History.pairs (history textIn now params).device) := by
    refine named_pairs ["deviceId", "deviceCode", "deviceName", "generatedAt"] ?_ (by decide)
      (by decide)
    have name := optionalAttribute_sublist "deviceName" params.deviceName
    simpa [history] using name.append_right ["generatedAt"]
  have field : ∀ field ∈ (history textIn now params).fields,
      (History.fieldMarkup field).WellNamed := by
    refine List.forall_mem_map.mpr fun field _ => ⟨rfl, named_pairs ["key", "label", "unit"] ?_
      (by decide) (by decide)⟩
    exact ((optionalAttribute_sublist "unit" field.unit).cons_cons "label").cons_cons "key"
  have fields : (history textIn now params).fieldsMarkup.WellNamed :=
    ⟨rfl, ⟨fun _ h => absurd h List.not_mem_nil, List.nodup_nil⟩,
      Xml.wellNamed_block (List.forall_mem_map.mpr field)⟩
  have records : (history textIn now params).recordsMarkup.WellNamed :=
    ⟨rfl, named_pairs ["count"] (List.Sublist.refl _) (by decide) (by decide),
      Xml.wellNamed_block (List.forall_mem_map.mpr
        (List.forall_mem_map.mpr fun point _ => wellNamed_record textIn params.fields point))⟩
  have range : (Xml.Markup.empty "timeRange".toList
      (History.pairs (history textIn now params).timeRange)).WellNamed :=
    ⟨rfl, named_pairs ["from", "to"] (List.Sublist.refl _) (by decide) (by decide)⟩
  exact ⟨rfl, device, Xml.wellNamed_block (List.forall_mem_cons.mpr ⟨range,
    List.forall_mem_cons.mpr ⟨fields, List.forall_mem_singleton.mpr records⟩⟩)⟩

end

/-- A document is read just when its texts are allowed, and it is read as its content with the
texts as they are read. -/
theorem read_document_iff {h expected : History} (named : h.markup.WellNamed) :
    (∃ root, Xml.read (Xml.writeDocument h.markup) = some root ∧ readHistory root = expected) ↔
      ((∀ text ∈ h.attributeTexts, Xml.Allowed text.toList) ∧
        ∀ text ∈ h.texts, Xml.Allowed text.toList) ∧
      h.mapTexts readAttributes readText = expected := by
  rw [← allowed_markup, ← readHistory_node]
  constructor
  · rintro ⟨root, hread, rfl⟩
    have allowed := (Xml.allowed_writeDocument named).mp (Xml.allowed_of_read hread)
    rw [Xml.read_write named allowed] at hread
    rw [Option.some.inj hread]
    exact ⟨allowed, rfl⟩
  · rintro ⟨allowed, rfl⟩
    exact ⟨_, Xml.read_write named allowed, rfl⟩

/-! ## What is read as it was exported -/

/-- A text that an XML reader gives back as the value of an attribute. -/
def KeptInAttribute (text : String) : Prop :=
  ∀ c ∈ text.toList, Xml.isChar c = true ∧ (Xml.isBlank c = true → c = ' ')

/-- A text that an XML reader gives back as the text of an element. -/
def KeptInElement (text : String) : Prop :=
  ∀ c ∈ text.toList, Xml.isChar c = true ∧ c ≠ '\r'

/-- The texts of an export that become attribute values. -/
def TelemetryExportParams.attributeTexts (params : TelemetryExportParams) : List String :=
  params.deviceId :: params.deviceCode.getD params.deviceId :: (params.deviceName.toList ++
    params.fields.flatMap fun field => field.key :: field.label :: field.unit.toList)

/-- Every text of the export is one that XML keeps, every value of the schema has a text, and
a field named as a member of `Object.prototype` is in every payload. -/
structure Exportable (numberText : Rat → String) (params : TelemetryExportParams) : Prop where
  attributes : ∀ text ∈ params.attributeTexts, KeptInAttribute text
  values : ∀ point ∈ params.telemetry, ∀ field ∈ params.fields, ∀ raw,
    point.payload.lookup field.key = some raw →
      ∃ text, jsString numberText raw = .ok text ∧ KeptInElement text
  names : ∀ point ∈ params.telemetry, ∀ field ∈ params.fields,
    field.key ∈ objectPrototype.map (·.1) → field.key ∈ point.payload

theorem eq_ofList_iff {text : String} {chars : Xml.Text} :
    String.ofList chars = text ↔ chars = text.toList := by
  constructor
  · rintro rfl
    exact String.toList_ofList.symm
  · rintro rfl
    exact String.ofList_toList

theorem keptInAttribute_iff {text : String} :
    KeptInAttribute text ↔ Xml.Allowed text.toList ∧ readValue text = text := by
  rw [readValue, eq_ofList_iff, Xml.valueOf_eq_self_iff]
  exact forall₂_and

theorem keptInElement_iff {text : String} :
    KeptInElement text ↔ Xml.Allowed text.toList ∧ readText text = text := by
  rw [readText, eq_ofList_iff, Xml.lineEnds_eq_self_iff]
  refine forall₂_and.trans (and_congr_right fun _ => ?_)
  exact ⟨fun h hmem => h _ hmem rfl, fun h c hc heq => h (heq ▸ hc)⟩

/-- The characters of a text can be written anywhere. -/
def Plain (text : String) : Prop := ∀ c ∈ text.toList, Xml.isChar c = true ∧ Xml.isBlank c = false

theorem Plain.kept {text : String} (h : Plain text) : KeptInAttribute text := by
  intro c hc
  refine ⟨(h c hc).1, fun blank => ?_⟩
  rw [(h c hc).2] at blank
  cases blank

theorem Plain.append {text text' : String} (h : Plain text) (h' : Plain text') :
    Plain (text ++ text') := by
  intro c hc
  rw [String.toList_append, List.mem_append] at hc
  exact hc.elim (h c) (h' c)

theorem plain_of_all {text : String}
    (h : text.toList.all (fun c => Xml.isChar c && !Xml.isBlank c) = true) : Plain text := by
  intro c hc
  simpa using List.all_eq_true.mp h c hc

theorem plain_toString (n : Nat) : Plain (toString n) := by
  intro c hc
  have digits : (toString n).toList = Nat.toDigits 10 n := Nat.toList_repr
  rw [digits] at hc
  have digit := Nat.isDigit_of_mem_toDigits (by decide) (by decide) hc
  have bounds : 48 ≤ c.toNat ∧ c.toNat ≤ 57 := Char.isDigit_iff_toNat.mp digit
  have named : Xml.isNameChar c = true := by simp [Xml.isNameChar, Xml.within, bounds]
  exact ⟨Xml.isChar_of_isNameChar named, Xml.isBlank_of_isNameChar named⟩

theorem plain_padStart (width n : Nat) : Plain (padStart width n) := by
  intro c hc
  rw [padStart, String.toList_ofList, List.leftpad, List.mem_append] at hc
  rcases hc with hc | hc
  · rw [List.eq_of_mem_replicate hc]
    decide
  · exact plain_toString n c hc

theorem plain_yearText (year : Int) : Plain (yearText year) := by
  rw [yearText]
  split
  · exact plain_padStart 4 _
  · refine Plain.append ?_ (plain_padStart 6 _)
    split
    · exact plain_of_all (by decide)
    · exact plain_of_all (by decide)

theorem plain_toISOString (date : Date) : Plain (toISOString date) := by
  have dash : Plain "-" := plain_of_all (by decide)
  have colon : Plain ":" := plain_of_all (by decide)
  have mark : Plain "T" ∧ Plain "." ∧ Plain "Z" :=
    ⟨plain_of_all (by decide), plain_of_all (by decide), plain_of_all (by decide)⟩
  rw [toISOString]
  exact plain_yearText _ |>.append dash |>.append (plain_padStart 2 _) |>.append dash
    |>.append (plain_padStart 2 _) |>.append mark.1 |>.append (plain_padStart 2 _)
    |>.append colon |>.append (plain_padStart 2 _) |>.append colon
    |>.append (plain_padStart 2 _) |>.append mark.2.1 |>.append (plain_padStart 3 _)
    |>.append mark.2.2

section

variable (numberText : Rat → String) (textIn : Record Json → String → Option String)

/-- The texts of a content that XML keeps, in terms of the export. -/
theorem kept_history_iff (now : Date) (params : TelemetryExportParams) :
    ((∀ text ∈ (history textIn now params).attributeTexts, KeptInAttribute text) ∧
      ∀ text ∈ (history textIn now params).texts, KeptInElement text) ↔
    (∀ text ∈ params.attributeTexts, KeptInAttribute text) ∧
      ∀ point ∈ params.telemetry, ∀ field ∈ params.fields, ∀ text,
        textIn point.payload field.key = some text → KeptInElement text := by
  have date := fun date => (plain_toISOString date).kept
  have number := fun n => (plain_toString n).kept
  have kept : ∀ name text, (∀ pair ∈ optionalAttribute name text, KeptInAttribute pair.2) ↔
      ∀ own ∈ text.toList, KeptInAttribute own := by
    intro name text
    cases text with
    | none => simp [optionalAttribute]
    | some text =>
      rw [optionalAttribute]
      split
      · rename_i empty
        simp [empty, KeptInAttribute]
      · simp
  have device : (∀ pair ∈ (history textIn now params).device, KeptInAttribute pair.2) ↔
      KeptInAttribute params.deviceId ∧ KeptInAttribute (params.deviceCode.getD params.deviceId) ∧
        ∀ name ∈ params.deviceName.toList, KeptInAttribute name := by
    simp only [history, List.forall_mem_append, List.forall_mem_cons, List.not_mem_nil, kept, date,
      false_implies, implies_true, and_true, and_assoc]
  have range : ∀ pair ∈ (history textIn now params).timeRange, KeptInAttribute pair.2 := by
    simp [history, date]
  have fields : (∀ field ∈ (history textIn now params).fields, ∀ pair ∈ field,
      KeptInAttribute pair.2) ↔ ∀ field ∈ params.fields, KeptInAttribute field.key ∧
        KeptInAttribute field.label ∧ ∀ unit ∈ field.unit.toList, KeptInAttribute unit := by
    simp only [history, List.forall_mem_map, List.forall_mem_append, List.forall_mem_cons,
      List.not_mem_nil, kept, false_implies, implies_true, true_and, and_assoc]
  have count : ∀ pair ∈ (history textIn now params).count, KeptInAttribute pair.2 := by
    simpa [history] using number _
  have records : (∀ record ∈ (history textIn now params).records,
      (∀ pair ∈ record.1, KeptInAttribute pair.2) ∧
        ∀ value ∈ record.2, (∀ pair ∈ value.1, KeptInAttribute pair.2) ∧ KeptInElement value.2) ↔
      ∀ point ∈ params.telemetry, ∀ field ∈ params.fields, ∀ text,
        textIn point.payload field.key = some text →
          KeptInAttribute field.key ∧ KeptInElement text := by
    simp only [history, List.forall_mem_map, record, List.forall_mem_singleton, date, true_and,
      List.forall_mem_filterMap, Option.map_eq_some_iff, forall_exists_index, and_imp,
      forall_apply_eq_imp_iff₂]
  rw [forall_texts, device, fields, records, TelemetryExportParams.attributeTexts,
    List.forall_mem_cons, List.forall_mem_cons, List.forall_mem_append, List.forall_mem_flatMap]
  simp only [List.forall_mem_cons]
  constructor
  · rintro ⟨⟨hid, hcode, hname⟩, -, hfields, -, hrecords⟩
    exact ⟨⟨hid, hcode, hname, hfields⟩, fun point hp field hf text found =>
      (hrecords point hp field hf text found).2⟩
  · rintro ⟨⟨hid, hcode, hname, hfields⟩, hrecords⟩
    exact ⟨⟨hid, hcode, hname⟩, range, hfields, count, fun point hp field hf text found =>
      ⟨(hfields field hf).1, hrecords point hp field hf text found⟩⟩

variable {numberText}

theorem foundText_isSome (payload : Record Json) (key : String) :
    (foundText numberText payload key).isSome = isIn key payload := by
  rw [foundText]
  split <;> simp_all

/-- A field is written with its own text, or not at all, unless its name is one of those that
every object has. -/
theorem foundText_eq_ownText_iff (payload : Record Json) (key : String) :
    foundText numberText payload key = ownText numberText payload key ↔
      (key ∈ objectPrototype.map (·.1) → key ∈ payload) := by
  have inherited : (objectPrototype.lookup key).isSome = true ↔
      key ∈ objectPrototype.map (·.1) := by
    rw [List.lookup_isSome_iff, List.mem_map]
    simp only [beq_iff_eq, @eq_comm _ key]
  rw [← inherited, Finmap.mem_iff, foundText, ownText, isIn, textAt]
  cases payload.lookup key with
  | none => cases objectPrototype.lookup key <;> simp
  | some raw => simp

theorem foundText_eq_ownText {payload : Record Json} {key : String}
    (h : isIn key payload = true → (ownText numberText payload key).isSome = true) :
    foundText numberText payload key = ownText numberText payload key := by
  rw [ownText, Option.isSome_map] at h
  rw [foundText, ownText, textAt]
  cases own : payload.lookup key with
  | none =>
    rw [own] at h
    have out : isIn key payload = false := Bool.eq_false_iff.mpr fun found =>
      Bool.false_ne_true (h found)
    rw [out]
    rfl
  | some raw =>
    rw [isIn, own]
    rfl

theorem isIn_of_ownText {payload : Record Json} {key : String}
    (h : (ownText numberText payload key).isSome = true) : isIn key payload = true := by
  rw [ownText, Option.isSome_map] at h
  rw [isIn, h, Bool.true_or]

/-- Two ways to choose some items agree when one chooses at least those of the other, and as
many. -/
theorem isSome_of_length_eq {α β γ : Type} {f : α → Option β} {g : α → Option γ} {xs : List α}
    (more : ∀ x, (g x).isSome = true → (f x).isSome = true)
    (same : (xs.filterMap f).length = (xs.filterMap g).length) :
    ∀ x ∈ xs, (f x).isSome = true → (g x).isSome = true := by
  have sub : (xs.filter fun x => (g x).isSome).Sublist (xs.filter fun x => (f x).isSome) :=
    List.monotone_filter_right xs more
  rw [List.length_filterMap_eq_countP, List.length_filterMap_eq_countP,
    List.countP_eq_length_filter, List.countP_eq_length_filter] at same
  intro x hx hf
  have chosen : x ∈ xs.filter fun x => (f x).isSome := List.mem_filter.mpr ⟨hx, hf⟩
  rw [← sub.eq_of_length same.symm] at chosen
  exact (List.mem_filter.mp chosen).2

theorem history_congr {textIn textIn' : Record Json → String → Option String} {now : Date}
    {params : TelemetryExportParams}
    (same : ∀ point ∈ params.telemetry, ∀ field ∈ params.fields,
      textIn point.payload field.key = textIn' point.payload field.key) :
    history textIn now params = history textIn' now params := by
  have records : params.telemetry.map (record textIn params.fields) =
      params.telemetry.map (record textIn' params.fields) := by
    refine List.map_congr_left fun point hpoint => congrArg (Prod.mk _) ?_
    exact List.filterMap_congr fun field hfield => by rw [same point hpoint field hfield]
  rw [history, history, records]

/-- A value that is written for an inherited name is one too many: nothing makes up for it. -/
theorem mapTexts_found_iff (now : Date) (params : TelemetryExportParams) :
    (history (foundText numberText) now params).mapTexts readAttributes readText =
        history (ownText numberText) now params ↔
      (∀ point ∈ params.telemetry, ∀ field ∈ params.fields,
        foundText numberText point.payload field.key =
          ownText numberText point.payload field.key) ∧
      (history (foundText numberText) now params).mapTexts readAttributes readText =
        history (foundText numberText) now params := by
  constructor
  · intro same
    have records := congrArg History.records same
    simp only [history, History.mapTexts, List.map_map] at records
    have found : ∀ point ∈ params.telemetry, ∀ field ∈ params.fields,
        foundText numberText point.payload field.key =
          ownText numberText point.payload field.key := by
      intro point hpoint field hfield
      have lengths :=
        congrArg (fun record => record.2.length) (List.map_inj_left.mp records point hpoint)
      simp only [Function.comp_apply, record, List.length_map] at lengths
      have own := isSome_of_length_eq (fun field h => ?_) lengths field hfield
      · rw [Option.isSome_map, Option.isSome_map, foundText_isSome] at own
        exact foundText_eq_ownText own
      · rw [Option.isSome_map, foundText_isSome]
        rw [Option.isSome_map] at h
        exact isIn_of_ownText h
    exact ⟨found, same.trans (history_congr found).symm⟩
  · rintro ⟨found, same⟩
    exact same.trans (history_congr found)

/-- The values of a payload that an XML reader gives back. -/
theorem keptValue_iff (payload : Record Json) (key : String) :
    (HasText numberText payload key ∧
      ∀ text, ownText numberText payload key = some text → KeptInElement text) ↔
    ∀ raw, payload.lookup key = some raw →
      ∃ text, jsString numberText raw = .ok text ∧ KeptInElement text := by
  rw [HasText, ownText]
  cases payload.lookup key with
  | none => simp
  | some raw =>
    simp only [Option.some.injEq, forall_eq', Option.map_some]
    constructor
    · rintro ⟨⟨text, htext⟩, kept⟩
      rw [← (jsString_eq_ok_iff.mp htext).2] at kept
      exact ⟨text, htext, kept⟩
    · rintro ⟨text, htext, kept⟩
      rw [← (jsString_eq_ok_iff.mp htext).2]
      exact ⟨⟨text, htext⟩, kept⟩

theorem lossless_iff_read (now : Date) (params : TelemetryExportParams) :
    Lossless numberText now params ↔
      (∀ point ∈ params.telemetry, ∀ field ∈ params.fields,
        HasText numberText point.payload field.key) ∧
      ∃ root, Xml.read (Xml.writeDocument (history (foundText numberText) now params).markup) =
        some root ∧ readHistory root = history (ownText numberText) now params := by
  simp only [Lossless, build_eq_ok_iff]
  constructor
  · rintro ⟨xml, root, ⟨has, rfl⟩, hread, hroot⟩
    rw [String.toList_ofList] at hread
    exact ⟨has, root, hread, hroot⟩
  · rintro ⟨has, root, hread, hroot⟩
    exact ⟨_, root, ⟨has, rfl⟩, by rwa [String.toList_ofList], hroot⟩

end

/-- An export is well-formed and lossless just when every text of it is one that XML keeps,
every value of the schema has a text, and no inherited name stands for a missing value. -/
theorem lossless_iff (numberText : Rat → String) (now : Date) (params : TelemetryExportParams) :
    Lossless numberText now params ↔ Exportable numberText params := by
  have allowed : ((∀ text ∈ (history (foundText numberText) now params).attributeTexts,
        Xml.Allowed text.toList) ∧
      ∀ text ∈ (history (foundText numberText) now params).texts, Xml.Allowed text.toList) ∧
      (history (foundText numberText) now params).mapTexts readAttributes readText =
        history (foundText numberText) now params ↔
      (∀ text ∈ params.attributeTexts, KeptInAttribute text) ∧
        ∀ point ∈ params.telemetry, ∀ field ∈ params.fields, ∀ text,
          foundText numberText point.payload field.key = some text → KeptInElement text := by
    rw [mapTexts_eq_self_iff, ← kept_history_iff (foundText numberText) now params]
    simp only [keptInAttribute_iff, keptInElement_iff, forall₂_and]
    tauto
  rw [lossless_iff_read, read_document_iff (wellNamed_markup _ now params), mapTexts_found_iff]
  constructor
  · rintro ⟨has, allowedTexts, found, same⟩
    obtain ⟨attributes, values⟩ := allowed.mp ⟨allowedTexts, same⟩
    refine ⟨attributes, fun point hpoint field hfield => (keptValue_iff _ _).mp
      ⟨has point hpoint field hfield, fun text htext => ?_⟩, fun point hpoint field hfield =>
        (foundText_eq_ownText_iff _ _).mp (found point hpoint field hfield)⟩
    rw [← found point hpoint field hfield] at htext
    exact values point hpoint field hfield text htext
  · intro holds
    have found : ∀ point ∈ params.telemetry, ∀ field ∈ params.fields,
        foundText numberText point.payload field.key =
          ownText numberText point.payload field.key := fun point hpoint field hfield =>
      (foundText_eq_ownText_iff _ _).mpr (holds.names point hpoint field hfield)
    have kept := fun point hpoint field hfield =>
      (keptValue_iff _ _).mpr (holds.values point hpoint field hfield)
    obtain ⟨allowedTexts, same⟩ := allowed.mpr ⟨holds.attributes,
      fun point hpoint field hfield text htext =>
        (kept point hpoint field hfield).2 text (found point hpoint field hfield ▸ htext)⟩
    exact ⟨fun point hpoint field hfield => (kept point hpoint field hfield).1, allowedTexts,
      found, same⟩

/-- A device that reports a text as terminals colour it, with the escape character. -/
def colouredText : TelemetryExportParams where
  deviceId := "d1"
  deviceCode := none
  deviceName := none
  fields := [
    { key := "log", label := "Log", unit := none, warningMin := none, warningMax := none }]
  telemetry := [
    { payload := Finmap.singleton "log" (.string "\x1b[31mhot"), recordedAt := 0 }]
  fromTime := 0
  toTime := 1

theorem colouredText_not_read : ¬ Lossless (fun _ => "") 0 colouredText ∧
    ∃ xml, buildTelemetryHistoryXml (fun _ => "") 0 colouredText = .ok xml ∧
      Xml.read xml.toList = none := by
  have has : ∀ point ∈ colouredText.telemetry, ∀ field ∈ colouredText.fields,
      HasText (fun _ => "") point.payload field.key := by
    intro point hpoint field hfield raw hraw
    rw [List.mem_singleton.mp hpoint, List.mem_singleton.mp hfield,
      Finmap.lookup_singleton_eq] at hraw
    cases hraw
    exact ⟨_, rfl⟩
  have unread : Xml.read (Xml.writeDocument
      (history (foundText fun _ => "") 0 colouredText).markup) = none := by
    refine Option.eq_none_iff_forall_ne_some.mpr fun root hread => ?_
    have allowed := (Xml.allowed_writeDocument (wellNamed_markup _ _ _)).mp
      (Xml.allowed_of_read hread)
    have text := ((allowed_markup _).mp allowed).2 "\x1b[31mhot" (by decide)
    exact absurd (text (Char.ofNat 0x1b) (by decide)) (by decide)
  constructor
  · rw [lossless_iff_read, unread]
    rintro ⟨-, root, ⟨⟩, -⟩
  · refine ⟨_, (build_eq_ok_iff 0 colouredText _).mpr ⟨has, rfl⟩, ?_⟩
    rw [String.toList_ofList]
    exact unread

end AiotCloud.TelemetryXml
