import AiotCloud.Entities
import AiotCloud.Lib.Run

/-!
# The lists of the template editor

The dialog of a new template appends telemetry fields and channels and removes them at any
position. The key of a new row is made from the number of rows there are.

1. `rows_eq`: a list of the dialog is made from the numbers its rows were added at.
2. `keys_distinct_iff`: the keys stay distinct exactly when no row is added at a number that
   a row still in the list was added at.
-/

namespace AiotCloud

/-! ## The dialog -/

section

/- The texts of the dialog, by name and number. -/
variable (t : String → Nat → String)

def newChannel (index : Nat) : ActionFieldDefinition :=
  { key := "channel" ++ toString index
    label := t "actionDialog.channelN" index
    type := .toggle
    onValue := some "ON"
    offValue := some "OFF" }

def newTelemetryField (index : Nat) : TelemetryFieldDefinition :=
  { key := "field" ++ toString index
    label := t "actionDialog.fieldN" index
    unit := some ""
    warningMin := none
    warningMax := none }

end

/-- What the buttons of a list do. -/
inductive RowEdit where
  | append
  | remove (index : Nat)
deriving DecidableEq, Repr

/-- `append(newRow(fields.length + 1))` and `remove(index)` of a field array. -/
def editRows {ρ : Type} (newRow : Nat → ρ) (rows : List ρ) : RowEdit → List ρ
  | .append => rows ++ [newRow (rows.length + 1)]
  | .remove index => rows.eraseIdx index

structure TemplateLists where
  telemetrySchema : List TelemetryFieldDefinition := []
  actionSchema : List ActionFieldDefinition := []
deriving DecidableEq, Repr

inductive TemplateEdit where
  | telemetryFields (edit : RowEdit)
  | actionFields (edit : RowEdit)
deriving DecidableEq, Repr

def TemplateLists.step (t : String → Nat → String) (lists : TemplateLists) :
    TemplateEdit → TemplateLists
  | .telemetryFields edit =>
    { lists with telemetrySchema := editRows (newTelemetryField t) lists.telemetrySchema edit }
  | .actionFields edit =>
    { lists with actionSchema := editRows (newChannel t) lists.actionSchema edit }

structure KeysDistinct (lists : TemplateLists) : Prop where
  telemetrySchema : (lists.telemetrySchema.map (·.key)).Nodup
  actionSchema : (lists.actionSchema.map (·.key)).Nodup

/-! ## Numbers -/

/-- For each row, the number of rows there were with it when it was added. -/
structure RowNumbers where
  telemetrySchema : List Nat := []
  actionSchema : List Nat := []
deriving DecidableEq, Repr

namespace RowNumbers

def step (numbers : RowNumbers) : TemplateEdit → RowNumbers
  | .telemetryFields edit =>
    { numbers with telemetrySchema := editRows id numbers.telemetrySchema edit }
  | .actionFields edit =>
    { numbers with actionSchema := editRows id numbers.actionSchema edit }

/-- The rows of these numbers. -/
def lists (t : String → Nat → String) (numbers : RowNumbers) : TemplateLists where
  telemetrySchema := numbers.telemetrySchema.map (newTelemetryField t)
  actionSchema := numbers.actionSchema.map (newChannel t)

/-- No row has a number twice. -/
def Apart (numbers : RowNumbers) : Prop :=
  numbers.telemetrySchema.Nodup ∧ numbers.actionSchema.Nodup

end RowNumbers

/-- No row of the list was added when it had as many rows as a row added now makes. -/
def AddsApart (rows : List Nat) : RowEdit → Prop
  | .append => rows.length + 1 ∉ rows
  | .remove _ => True

def RowNumbers.AddsApart (numbers : RowNumbers) : TemplateEdit → Prop
  | .telemetryFields edit => AiotCloud.AddsApart numbers.telemetrySchema edit
  | .actionFields edit => AiotCloud.AddsApart numbers.actionSchema edit

theorem editRows_map {ρ : Type} (newRow : Nat → ρ) (rows : List Nat) (edit : RowEdit) :
    editRows newRow (rows.map newRow) edit = (editRows id rows edit).map newRow := by
  cases edit with
  | append => simp [editRows]
  | remove index => exact List.eraseIdx_map newRow rows index

theorem editRows_nodup_iff {rows : List Nat} (apart : rows.Nodup) (edit : RowEdit) :
    (editRows id rows edit).Nodup ↔ AddsApart rows edit := by
  cases edit with
  | append =>
    rw [editRows, AddsApart, List.nodup_append_comm, List.singleton_append, List.nodup_cons]
    exact and_iff_left apart
  | remove index => exact iff_of_true (apart.eraseIdx index) trivial

section Keys

variable (t : String → Nat → String)

theorem lists_step (numbers : RowNumbers) (edit : TemplateEdit) :
    (numbers.lists t).step t edit = (numbers.step edit).lists t := by
  cases edit with
  | telemetryFields edit =>
    simp only [TemplateLists.step, RowNumbers.step, RowNumbers.lists, editRows_map]
  | actionFields edit =>
    simp only [TemplateLists.step, RowNumbers.step, RowNumbers.lists, editRows_map]

/-- The dialog makes its lists from the numbers. -/
theorem rows_eq (numbers : RowNumbers) (edits : List TemplateEdit) :
    Run.exec (TemplateLists.step t) (numbers.lists t) edits =
      (Run.exec RowNumbers.step numbers edits).lists t := by
  induction edits generalizing numbers with
  | nil => rfl
  | cons edit edits ih => rw [Run.exec_cons, Run.exec_cons, lists_step, ih]

theorem newChannel_key_injective : Function.Injective fun n => (newChannel t n).key :=
  fun _ _ same => toString_injective ((String.append_right_inj _).mp same)

theorem newTelemetryField_key_injective :
    Function.Injective fun n => (newTelemetryField t n).key :=
  fun _ _ same => toString_injective ((String.append_right_inj _).mp same)

theorem keysDistinct_lists_iff (numbers : RowNumbers) :
    KeysDistinct (numbers.lists t) ↔ numbers.Apart := by
  have fields := List.nodup_map_iff (l := numbers.telemetrySchema)
    (newTelemetryField_key_injective t)
  have channels := List.nodup_map_iff (l := numbers.actionSchema) (newChannel_key_injective t)
  rw [RowNumbers.Apart, ← fields, ← channels]
  refine ⟨fun h => ?_, fun h => ⟨?_, ?_⟩⟩
  · simpa [RowNumbers.lists, Function.comp_def] using And.intro h.1 h.2
  · simpa [RowNumbers.lists, Function.comp_def] using h.1
  · simpa [RowNumbers.lists, Function.comp_def] using h.2

theorem apart_step_iff {numbers : RowNumbers} (apart : numbers.Apart) (edit : TemplateEdit) :
    (numbers.step edit).Apart ↔ numbers.AddsApart edit := by
  cases edit with
  | telemetryFields edit =>
    exact (and_iff_left apart.2).trans (editRows_nodup_iff apart.1 edit)
  | actionFields edit =>
    exact (and_iff_right apart.1).trans (editRows_nodup_iff apart.2 edit)

/-- From empty lists, the keys of both lists are distinct all along the edits exactly when
each row is added at a number that no row then in its list was added at. -/
theorem keys_distinct_iff (edits : List TemplateEdit) :
    (∀ pre, pre <+: edits → KeysDistinct (Run.exec (TemplateLists.step t) {} pre)) ↔
      Run.Meets RowNumbers.step RowNumbers.AddsApart {} edits := by
  have start : ({} : TemplateLists) = RowNumbers.lists t {} := rfl
  simp only [start, rows_eq, keysDistinct_lists_iff]
  have init : RowNumbers.Apart {} := ⟨List.nodup_nil, List.nodup_nil⟩
  have keeps : ∀ numbers edit, RowNumbers.Apart numbers → numbers.AddsApart edit →
      (numbers.step edit).Apart := fun _ edit apart => (apart_step_iff apart edit).mpr
  exact Run.always_iff_meets (fun _ apart => apart) keeps
    (fun _ edit apart => (apart_step_iff apart edit).mp) init edits

end Keys

def englishTexts (name : String) (index : Nat) : String :=
  (if name = "actionDialog.channelN" then "Channel " else "Field ") ++ toString index

/-- Two channels are added, the first is removed, and one is added. -/
def removeFirst : List TemplateEdit :=
  [.actionFields .append, .actionFields .append, .actionFields (.remove 0),
    .actionFields .append]

/-- The new channel has the key of the second one. -/
theorem removeFirst_not_distinct :
    ¬ KeysDistinct (Run.exec (TemplateLists.step englishTexts) {} removeFirst) := by
  intro distinct
  exact absurd distinct.actionSchema (by decide)

end AiotCloud
