import AiotCloud.DashboardConfig
import AiotCloud.Lib.Boxes
import AiotCloud.OwnerAccess
import Mathlib.Algebra.Order.Ring.Rat
import Mathlib.Tactic.NormNum.Ineq

/-!
# The dashboard page

The page of an account edits a draft: a copy of a dashboard that it has listed, of a file, or a
blank one. A save sends the draft to the server, which validates it and stores it in a row of
the account; the answer replaces the draft. The page is not locked while a save is under way,
and other pages and accounts write dashboards all the time.

1. `readWidget_eq_some_iff`: what the validation lets through.
2. `step_keeps`: what holds of the panels of the page and of the server all along.
3. `save_outcome`: what a save does, whatever happens around it.
4. `panels_tidy`: panels never overlap.
-/

namespace AiotCloud.DashboardEditor

open DashboardConfig

/-! ## The server -/

/-- `ISaveDashboard`: the body of a save. -/
structure ISaveDashboard where
  name : String
  isDefault : Option Bool := none
  widgets : Option (List IDashboardWidget) := none
deriving DecidableEq, Repr

/-- `@EnumField(() => WidgetType)`: the enum of the server has no `ACTION`. -/
def readType : DashboardConfig.WidgetType → Option AiotCloud.WidgetType
  | .value => some .value
  | .chart => some .chart
  | .action => none

/-- `@StringField()`. -/
def readString (text : String) : Option String := if text = "" then none else some text

/-- `@StringFieldOptional()`. -/
def readStringOptional : Option String → Option (Option String)
  | none => some none
  | some text => (readString text).map some

/-- `@NumberField({ int: true })`. -/
def readInt (number : Rat) : Option Int := if number.den = 1 then some number.num else none

/-- A widget of a body through the `ValidationPipe`. -/
def readWidget (widget : IDashboardWidget) : Option DashboardWidgetDto := do
  let id ← readString widget.id
  let deviceId ← readString widget.deviceId
  let widgetType ← readType widget.widgetType
  let field ← readStringOptional widget.field
  let title ← readStringOptional widget.title
  let x ← readInt widget.x
  let y ← readInt widget.y
  let w ← readInt widget.w
  let h ← readInt widget.h
  return { id, deviceId, widgetType, field, title, x, y, w, h }

def readWidgets : Option (List IDashboardWidget) → Option (Option (List DashboardWidgetDto))
  | none => some none
  | some widgets => (widgets.mapM readWidget).map some

def readBody (body : ISaveDashboard) : Option SaveDashboardDto := do
  let name ← readString body.name
  let widgets ← readWidgets body.widgets
  return { name, isDefault := body.isDefault, widgets }

/-- The rows after a call and the row that it answers with, if the call goes through. -/
abbrev Answer := Option (List DashboardEntity × DashboardEntity)

/-- The database generates `id`. -/
def createDashboard (id userId : String) (factoryId : Option String) (dto : SaveDashboardDto)
    (rows : List DashboardEntity) : Answer :=
  if ∀ row ∈ rows, row.id ≠ id then
    some (rows ++ [createdDashboard id userId factoryId dto],
      createdDashboard id userId factoryId dto)
  else none

def updatedDashboard (dto : SaveDashboardDto) (entity : DashboardEntity) : DashboardEntity :=
  { entity with
    name := dto.name
    isDefault := dto.isDefault.getD entity.isDefault
    widgets := dto.widgets.getD entity.widgets }

/-- `findOneBy({ id, userId })`. -/
def findOwn (userId id : String) (rows : List DashboardEntity) : Option DashboardEntity :=
  rows.find? fun row => row.id = id ∧ row.userId = userId

def updateDashboard (userId id : String) (dto : SaveDashboardDto) (rows : List DashboardEntity) :
    Answer :=
  (findOwn userId id rows).map fun entity =>
    (Keyed.modify DashboardEntity.id id (fun _ => updatedDashboard dto entity) rows,
      updatedDashboard dto entity)

def deleteDashboard (userId id : String) (rows : List DashboardEntity) : List DashboardEntity :=
  match findOwn userId id rows with
  | none => rows
  | some entity => Keyed.remove DashboardEntity.id entity.id rows

/-- `getUserDashboards`; the rows are in the order of their creation. -/
def getUserDashboards (scope : AccessScope) (rows : List DashboardEntity) :
    List DashboardEntity :=
  rows.filter fun row => scope.admitsOwnership (dashboardTable.ownership row)

/-- A call of any account that writes dashboards. -/
inductive DashboardCall where
  | create (id userId : String) (factoryId : Option String) (body : ISaveDashboard)
  | update (userId id : String) (body : ISaveDashboard)
  | delete (userId id : String)

def DashboardCall.answer (rows : List DashboardEntity) : DashboardCall → Answer
  | create id userId factoryId body => do
    let dto ← readBody body
    createDashboard id userId factoryId dto rows
  | update userId id body => do
    let dto ← readBody body
    updateDashboard userId id dto rows
  | delete _ _ => none

def DashboardCall.after (rows : List DashboardEntity) : DashboardCall → List DashboardEntity
  | delete userId id => deleteDashboard userId id rows
  | call => ((call.answer rows).map (·.1)).getD rows

/-! ## The page -/

structure Draft extends DraftDashboard where
  id : Option String
deriving DecidableEq, Repr

def blankDraft (name : String) : Draft :=
  { id := none, name := name, isDefault := false, widgets := [] }

def shownType : AiotCloud.WidgetType → DashboardConfig.WidgetType
  | .value => .value
  | .chart => .chart

/-- A stored widget as the page reads it. -/
def shownWidget (dto : DashboardWidgetDto) : IDashboardWidget :=
  { id := dto.id
    deviceId := dto.deviceId
    widgetType := shownType dto.widgetType
    field := dto.field
    title := dto.title
    x := dto.x
    y := dto.y
    w := dto.w
    h := dto.h }

/-- The draft for a dashboard of the server. -/
def draftOf (row : DashboardEntity) : Draft :=
  { id := some row.id
    name := row.name
    isDefault := row.isDefault
    widgets := row.widgets.map shownWidget }

structure AddPanelForm where
  deviceId : String
  widgetType : DashboardConfig.WidgetType
  field : String
  title : String

/-- `formSchema`. -/
def AddPanelForm.Valid (values : AddPanelForm) : Prop :=
  values.deviceId ≠ "" ∧ values.field ≠ "" ∧ values.title ≠ ""

instance (values : AddPanelForm) : Decidable values.Valid := by
  unfold AddPanelForm.Valid
  infer_instance

/-- The `y` of `nextSlot`: below every panel. -/
def nextSlot (widgets : List IDashboardWidget) : Rat :=
  widgets.foldl (fun maxY w => max maxY (w.y + w.h)) 0

/-- The panel of the dialog. -/
def newPanel (uuid : String) (values : AddPanelForm) (widgets : List IDashboardWidget) :
    IDashboardWidget :=
  { id := uuid
    deviceId := values.deviceId
    widgetType := values.widgetType
    field := some values.field
    title := some values.title
    x := 0
    y := nextSlot widgets
    w := 4
    h := 2 }

/-- An item of the layout that the grid reports. -/
structure LayoutItem where
  i : String
  x : Int
  y : Int
  w : Int
  h : Int
deriving DecidableEq, Repr

def placed (widget : IDashboardWidget) (item : LayoutItem) : IDashboardWidget :=
  { widget with x := item.x, y := item.y, w := item.w, h := item.h }

def handleLayoutChange (newLayout : List LayoutItem) (widgets : List IDashboardWidget) :
    List IDashboardWidget :=
  widgets.map fun widget =>
    ((Keyed.find LayoutItem.i widget.id newLayout).map (placed widget)).getD widget

/-- A save under way: its body is still to be handled, or its answer to be read. -/
inductive Saving where
  | sent (id : Option String) (body : ISaveDashboard)
  | answered (saved : Option DashboardEntity)

/-- The page, with the list that it last fetched, and the server. -/
structure World where
  draft : Draft
  hasSelectedInitial : Bool := false
  dashboards : List DashboardEntity := []
  saving : Option Saving := none
  rows : List DashboardEntity

inductive EditorEvent where
  | fetched
  | select (value : Option String)
  | rename (name : String)
  | setDefault (checked : Bool)
  | addPanel (uuid : String) (values : AddPanelForm)
  | removePanel (widgetId : String)
  | layoutChange (newLayout : List LayoutItem)
  | importFile (randomUUID : Nat → String) (devices : List IDevice) (raw : Json)
  /-- The save button. -/
  | press
  /-- The server handles the save; `id` is the next one of the database. -/
  | serve (id : String)
  /-- The page reads the answer. -/
  | settle
  /-- A call of another page or another account. -/
  | elsewhere (call : DashboardCall)

section Page

variable (user : UserEntity) (newDashboard : String)

/-- `if (draft.id)`. -/
def truthyId (id : Option String) : Option String := id.filter (· ≠ "")

/-- The call of a save: an update of the dashboard that the draft is of, or a new one. -/
def saveCall (id : String) (target : Option String) (body : ISaveDashboard) : DashboardCall :=
  match truthyId target with
  | some target => .update user.id target body
  | none => .create id user.id user.factoryId body

/-- The body that the draft is sent as. -/
def Draft.body (draft : Draft) : ISaveDashboard :=
  { name := jsTrim draft.name
    isDefault := some draft.isDefault
    widgets := some draft.widgets }

def step (w : World) : EditorEvent → World
  | .fetched =>
    let dashboards := getUserDashboards (scopeOf user) w.rows
    match w.hasSelectedInitial, dashboards with
    | false, first :: _ =>
      { w with dashboards := dashboards, draft := draftOf first, hasSelectedInitial := true }
    | _, _ => { w with dashboards := dashboards }
  | .select none => { w with hasSelectedInitial := true, draft := blankDraft newDashboard }
  | .select (some value) =>
    match Keyed.find DashboardEntity.id value w.dashboards with
    | some selected => { w with hasSelectedInitial := true, draft := draftOf selected }
    | none => { w with hasSelectedInitial := true }
  | .rename name => { w with draft.name := name }
  | .setDefault checked => { w with draft.isDefault := checked }
  | .addPanel uuid values =>
    if values.Valid then
      { w with draft.widgets := w.draft.widgets ++ [newPanel uuid values w.draft.widgets] }
    else w
  | .removePanel widgetId =>
    { w with draft.widgets := Keyed.remove IDashboardWidget.id widgetId w.draft.widgets }
  | .layoutChange newLayout =>
    { w with draft.widgets := handleLayoutChange newLayout w.draft.widgets }
  | .importFile randomUUID devices raw =>
    match parseDashboardConfigImport randomUUID devices raw with
    | some parsed =>
      { w with
        draft := { id := none, name := parsed.name, isDefault := false, widgets := parsed.widgets }
        hasSelectedInitial := true }
    | none => w
  | .press =>
    if w.saving.isNone ∧ jsTrim w.draft.name ≠ "" then
      { w with saving := some (.sent w.draft.id w.draft.body) }
    else w
  | .serve id =>
    match w.saving with
    | some (.sent target body) =>
      let call := saveCall user id target body
      { w with
        rows := call.after w.rows
        saving := some (.answered ((call.answer w.rows).map (·.2))) }
    | _ => w
  | .settle =>
    match w.saving with
    | some (.answered (some saved)) => { w with draft := draftOf saved, saving := none }
    | some (.answered none) => { w with saving := none }
    | _ => w
  | .elsewhere call => { w with rows := call.after w.rows }

/-- The page as it opens. -/
def opened (rows : List DashboardEntity) : World :=
  { draft := blankDraft newDashboard, rows := rows }

end Page

/-! ## What the validation reads -/

/-- What the fields of a widget are checked for. -/
structure Accepted (dto : DashboardWidgetDto) : Prop where
  id : dto.id ≠ ""
  deviceId : dto.deviceId ≠ ""
  field : dto.field ≠ some ""
  title : dto.title ≠ some ""

theorem readString_eq_some_iff {text read : String} :
    readString text = some read ↔ read ≠ "" ∧ read = text := by
  unfold readString
  split_ifs with empty
  · simp only [false_iff, not_and]
    rintro nonempty rfl
    exact nonempty empty
  · rw [Option.some.injEq]
    constructor
    · rintro rfl
      exact ⟨empty, rfl⟩
    · rintro ⟨-, rfl⟩
      rfl

theorem readStringOptional_eq_some_iff {text read : Option String} :
    readStringOptional text = some read ↔ read ≠ some "" ∧ read = text := by
  cases text with
  | none => cases read <;> simp [readStringOptional]
  | some text =>
    cases read with
    | none => simp [readStringOptional]
    | some read => simp [readStringOptional, readString_eq_some_iff]

theorem readInt_eq_some_iff {number : Rat} {read : Int} :
    readInt number = some read ↔ (read : Rat) = number := by
  unfold readInt
  split_ifs with whole
  · rw [Option.some.injEq, ← (Rat.den_eq_one_iff number).mp whole, Rat.intCast_inj,
      Rat.num_intCast, eq_comm]
  · simp only [false_iff]
    rintro rfl
    exact whole (Rat.den_intCast read)

theorem readType_eq_some_iff {widgetType : DashboardConfig.WidgetType}
    {read : AiotCloud.WidgetType} :
    readType widgetType = some read ↔ shownType read = widgetType := by
  cases widgetType <;> cases read <;> decide

/-- The validation takes what the page would show for an accepted widget, as that widget. -/
theorem readWidget_eq_some_iff {widget : IDashboardWidget} {dto : DashboardWidgetDto} :
    readWidget widget = some dto ↔ Accepted dto ∧ shownWidget dto = widget := by
  constructor
  · intro read
    simp only [readWidget, Option.bind_eq_bind, Option.bind_eq_some_iff, readString_eq_some_iff,
      readStringOptional_eq_some_iff, readInt_eq_some_iff, readType_eq_some_iff, Option.pure_def,
      Option.some.injEq] at read
    obtain ⟨_, ⟨hid, rfl⟩, _, ⟨hdevice, rfl⟩, _, htype, _, ⟨hfield, rfl⟩, _, ⟨htitle, rfl⟩, _, hx,
      _, hy, _, hw, _, hh, rfl⟩ := read
    refine ⟨⟨hid, hdevice, hfield, htitle⟩, ?_⟩
    simp only [shownWidget, htype, hx, hy, hw, hh]
  · rintro ⟨⟨hid, hdevice, hfield, htitle⟩, rfl⟩
    simp only [readWidget, shownWidget, readString_eq_some_iff.mpr ⟨hid, rfl⟩,
      readString_eq_some_iff.mpr ⟨hdevice, rfl⟩, readType_eq_some_iff.mpr rfl,
      readStringOptional_eq_some_iff.mpr ⟨hfield, rfl⟩,
      readStringOptional_eq_some_iff.mpr ⟨htitle, rfl⟩, readInt_eq_some_iff.mpr rfl]
    rfl

theorem readAll_eq_some_iff {widgets : List IDashboardWidget} {dtos : List DashboardWidgetDto} :
    widgets.mapM readWidget = some dtos ↔
      (∀ dto ∈ dtos, Accepted dto) ∧ dtos.map shownWidget = widgets := by
  induction widgets generalizing dtos with
  | nil =>
    simp only [List.mapM_nil, Option.pure_def, Option.some.injEq, List.map_eq_nil_iff]
    constructor
    · rintro rfl
      simp
    · rintro ⟨-, rfl⟩
      rfl
  | cons widget widgets ih =>
    simp only [List.mapM_cons, Option.bind_eq_bind, Option.bind_eq_some_iff, Option.pure_def,
      Option.some.injEq, readWidget_eq_some_iff, ih]
    constructor
    · rintro ⟨dto, ⟨accepted, rfl⟩, rest, ⟨all, rfl⟩, rfl⟩
      exact ⟨List.forall_mem_cons.mpr ⟨accepted, all⟩, rfl⟩
    · rintro ⟨all, shown⟩
      obtain ⟨dto, rest, rfl, rfl, rfl⟩ := List.map_eq_cons_iff.mp shown
      obtain ⟨accepted, all⟩ := List.forall_mem_cons.mp all
      exact ⟨dto, ⟨accepted, rfl⟩, rest, ⟨all, rfl⟩, rfl⟩

/-- The panels of a row. -/
def shown (row : DashboardEntity) : List IDashboardWidget := row.widgets.map shownWidget

/-- The body of a call that writes one. -/
def DashboardCall.body? : DashboardCall → Option ISaveDashboard
  | create _ _ _ body => some body
  | update _ _ body => some body
  | delete _ _ => none

section Keeps

variable {P : List IDashboardWidget → Prop}

/-- What `P` says of the panels of a body that the server takes. -/
def ReadsAs (P : List IDashboardWidget → Prop) (body : ISaveDashboard) : Prop :=
  ∀ dto, readBody body = some dto → ∀ dtos ∈ dto.widgets, P (dtos.map shownWidget)

theorem readBody_shown {body : ISaveDashboard} {dto : SaveDashboardDto}
    (read : readBody body = some dto) :
    ∀ dtos ∈ dto.widgets, (∀ dto ∈ dtos, Accepted dto) ∧
      some (dtos.map shownWidget) = body.widgets := by
  simp only [readBody, Option.bind_eq_bind, Option.bind_eq_some_iff, Option.pure_def,
    Option.some.injEq] at read
  obtain ⟨_, -, found, hwidgets, rfl⟩ := read
  rintro dtos rfl
  cases hbody : body.widgets with
  | none => simp [readWidgets, hbody] at hwidgets
  | some widgets =>
    simp only [readWidgets, hbody, Option.map_eq_some_iff, Option.some.injEq,
      exists_eq_right] at hwidgets
    obtain ⟨accepted, same⟩ := readAll_eq_some_iff.mp hwidgets
    exact ⟨accepted, congrArg some same⟩

theorem findOwn_eq_some {userId id : String} {rows : List DashboardEntity}
    {entity : DashboardEntity} (found : findOwn userId id rows = some entity) :
    entity ∈ rows ∧ entity.id = id ∧ entity.userId = userId :=
  ⟨List.mem_of_find?_eq_some found, by simpa using List.find?_some found⟩

/-- A row that a save writes has the panels of the body, or those that it had, or none. -/
theorem answer_shown {rows rows' : List DashboardEntity} {saved : DashboardEntity}
    {call : DashboardCall} (answered : call.answer rows = some (rows', saved)) :
    (∃ body ∈ call.body?, ∃ dto, readBody body = some dto ∧
        ∃ dtos ∈ dto.widgets, shown saved = dtos.map shownWidget) ∨
      (∃ row ∈ rows, shown saved = shown row) ∨ shown saved = [] := by
  cases call with
  | create id userId factoryId body =>
    simp only [DashboardCall.answer, Option.bind_eq_bind, Option.bind_eq_some_iff,
      createDashboard] at answered
    obtain ⟨dto, read, inserted⟩ := answered
    split_ifs at inserted with fresh
    simp only [Option.some.injEq, Prod.mk.injEq] at inserted
    obtain ⟨-, rfl⟩ := inserted
    cases hwidgets : dto.widgets with
    | none => exact Or.inr (Or.inr (by simp [shown, createdDashboard, hwidgets]))
    | some dtos =>
      refine Or.inl ⟨body, rfl, dto, read, dtos, hwidgets, ?_⟩
      simp [shown, createdDashboard, hwidgets]
  | update userId id body =>
    simp only [DashboardCall.answer, Option.bind_eq_bind, Option.bind_eq_some_iff,
      updateDashboard, Option.map_eq_some_iff, Prod.mk.injEq] at answered
    obtain ⟨dto, read, entity, found, -, rfl⟩ := answered
    cases hwidgets : dto.widgets with
    | none =>
      refine Or.inr (Or.inl ⟨entity, (findOwn_eq_some found).1, ?_⟩)
      simp [shown, updatedDashboard, hwidgets]
    | some dtos =>
      refine Or.inl ⟨body, rfl, dto, read, dtos, hwidgets, ?_⟩
      simp [shown, updatedDashboard, hwidgets]
  | delete userId id => cases answered

/-- A call that goes through writes the row that it answers with, and no other. -/
theorem answer_rows {rows rows' : List DashboardEntity} {saved : DashboardEntity}
    {call : DashboardCall} (answered : call.answer rows = some (rows', saved))
    (row : DashboardEntity) :
    row ∈ rows' ↔ row = saved ∨ row ∈ rows ∧ row.id ≠ saved.id := by
  cases call with
  | create id userId factoryId body =>
    simp only [DashboardCall.answer, Option.bind_eq_bind, Option.bind_eq_some_iff,
      createDashboard] at answered
    obtain ⟨dto, -, inserted⟩ := answered
    split_ifs at inserted with fresh
    simp only [Option.some.injEq, Prod.mk.injEq] at inserted
    obtain ⟨rfl, rfl⟩ := inserted
    rw [List.mem_append, List.mem_singleton, or_comm]
    exact or_congr_right ⟨fun h => ⟨h, fresh row h⟩, And.left⟩
  | update userId id body =>
    simp only [DashboardCall.answer, Option.bind_eq_bind, Option.bind_eq_some_iff,
      updateDashboard, Option.map_eq_some_iff, Prod.mk.injEq] at answered
    obtain ⟨dto, -, entity, found, rfl, rfl⟩ := answered
    have same : entity.id = id := (findOwn_eq_some found).2.1
    rw [Keyed.mem_modify_iff]
    refine or_congr ?_ ?_
    · constructor
      · rintro ⟨-, -, -, rfl⟩
        rfl
      · rintro rfl
        exact ⟨entity, (findOwn_eq_some found).1, same, rfl⟩
    · simp [updatedDashboard, same]
  | delete userId id => cases answered

/-- What `P` says of every panel list that the page or the server holds. -/
structure Holds (P : List IDashboardWidget → Prop) (w : World) : Prop where
  draft : P w.draft.widgets
  dashboards : ∀ row ∈ w.dashboards, P (shown row)
  rows : ∀ row ∈ w.rows, P (shown row)
  sent : ∀ target body, w.saving = some (.sent target body) → ∀ widgets ∈ body.widgets, P widgets
  answered : ∀ saved, w.saving = some (.answered (some saved)) → P (shown saved)

/-- What `P` asks of the events that bring in panels or move them. -/
def Keeps (P : List IDashboardWidget → Prop) (w : World) : EditorEvent → Prop
  | .addPanel uuid values =>
    values.Valid → P w.draft.widgets →
      P (w.draft.widgets ++ [newPanel uuid values w.draft.widgets])
  | .layoutChange newLayout =>
    P w.draft.widgets → P (handleLayoutChange newLayout w.draft.widgets)
  | .importFile randomUUID devices raw =>
    ∀ parsed ∈ parseDashboardConfigImport randomUUID devices raw, P parsed.widgets
  | .elsewhere call => ∀ body ∈ call.body?, ReadsAs P body
  | _ => True

theorem after_holds (blank : P []) {rows : List DashboardEntity} {call : DashboardCall}
    (bodies : ∀ body ∈ call.body?, ReadsAs P body)
    (holds : ∀ row ∈ rows, P (shown row)) : ∀ row ∈ call.after rows, P (shown row) := by
  have written : ∀ rows' saved, call.answer rows = some (rows', saved) → P (shown saved) := by
    intro rows' saved answered
    obtain ⟨body, hbody, dto, read, dtos, hdtos, same⟩ | ⟨row, hrow, same⟩ | same :=
      answer_shown answered
    · rw [same]
      exact bodies body hbody dto read dtos hdtos
    · rw [same]
      exact holds row hrow
    · rw [same]
      exact blank
  have answers : ∀ row ∈ ((call.answer rows).map (·.1)).getD rows, P (shown row) := by
    intro row hrow
    cases answered : call.answer rows with
    | none => exact holds row (by simpa [answered] using hrow)
    | some answer =>
      have hrow : row ∈ answer.1 := by simpa [answered] using hrow
      rcases (answer_rows answered row).mp hrow with rfl | ⟨hold, -⟩
      · exact written answer.1 _ answered
      · exact holds row hold
  cases call with
  | create id userId factoryId body => exact answers
  | update userId id body => exact answers
  | delete userId id =>
    intro row hrow
    simp only [DashboardCall.after, deleteDashboard] at hrow
    split at hrow
    · exact holds row hrow
    · exact holds row (Keyed.mem_remove_iff.mp hrow).1

variable {user : UserEntity} {newDashboard : String} {w : World}

theorem opened_holds (blank : P []) {rows : List DashboardEntity}
    (holds : ∀ row ∈ rows, P (shown row)) : Holds P (opened newDashboard rows) where
  draft := blank
  dashboards := by simp [opened]
  rows := holds
  sent := by simp [opened]
  answered := by simp [opened]

theorem fetched_holds (holds : Holds P w) : Holds P (step user newDashboard w .fetched) := by
  have listed : ∀ row ∈ getUserDashboards (scopeOf user) w.rows, P (shown row) :=
    fun row hrow => holds.rows row (List.mem_filter.mp hrow).1
  simp only [step]
  split
  · next first rest _ dashboards =>
    exact
      { draft := listed first (dashboards ▸ List.mem_cons_self)
        dashboards := listed
        rows := holds.rows
        sent := holds.sent
        answered := holds.answered }
  · exact { holds with dashboards := listed }

theorem select_holds (blank : P []) (holds : Holds P w) (value : Option String) :
    Holds P (step user newDashboard w (.select value)) := by
  cases value with
  | none => exact { holds with draft := blank }
  | some value =>
    simp only [step]
    split
    · next selected found =>
      exact { holds with draft := holds.dashboards selected (Keyed.mem_of_find found).1 }
    · exact { holds with draft := holds.draft }

theorem importFile_holds {randomUUID : Nat → String} {devices : List IDevice} {raw : Json}
    (keeps : Keeps P w (.importFile randomUUID devices raw)) (holds : Holds P w) :
    Holds P (step user newDashboard w (.importFile randomUUID devices raw)) := by
  simp only [step]
  split
  · next parsed hparsed => exact { holds with draft := keeps parsed hparsed }
  · exact holds

theorem press_holds (holds : Holds P w) : Holds P (step user newDashboard w .press) := by
  simp only [step]
  split_ifs with idle
  · refine { holds with sent := ?_, answered := by simp }
    intro target body sent widgets hwidgets
    simp only [Option.some.injEq, Saving.sent.injEq] at sent
    obtain ⟨-, rfl⟩ := sent
    rw [← Option.some.inj hwidgets]
    exact holds.draft
  · exact holds

theorem saveCall_body? (id : String) (target : Option String) (body : ISaveDashboard) :
    (saveCall user id target body).body? = some body := by
  unfold saveCall
  split <;> rfl

theorem serve_holds (blank : P []) (holds : Holds P w) (id : String) :
    Holds P (step user newDashboard w (.serve id)) := by
  simp only [step]
  split
  · next target body sent =>
    have bodies : ∀ b ∈ (saveCall user id target body).body?, ReadsAs P b := by
      intro b hb dto read dtos hdtos
      rw [saveCall_body?, Option.mem_some_iff] at hb
      subst hb
      exact holds.sent target body sent _ (readBody_shown read dtos hdtos).2.symm
    have rows := after_holds blank bodies holds.rows
    refine { holds with rows := rows, sent := by simp, answered := ?_ }
    intro saved answered
    simp only [Option.some.injEq, Saving.answered.injEq, Option.map_eq_some_iff] at answered
    obtain ⟨⟨rows', saved⟩, answered, rfl⟩ := answered
    refine rows saved ?_
    have mem := (answer_rows answered saved).mpr (Or.inl rfl)
    unfold saveCall at answered ⊢
    split at answered <;> simpa [DashboardCall.after, answered] using mem
  · exact holds

theorem settle_holds (holds : Holds P w) : Holds P (step user newDashboard w .settle) := by
  simp only [step]
  split
  · next saved answered =>
    exact
      { holds with
        draft := holds.answered saved answered
        sent := by simp
        answered := by simp }
  · exact { holds with sent := by simp, answered := by simp }
  · exact holds

/-- The events that bring in no panels keep what holds of all of them. -/
theorem step_keeps (blank : P [])
    (remove : ∀ widgets id, P widgets → P (Keyed.remove IDashboardWidget.id id widgets))
    (w : World) (e : EditorEvent) (holds : Holds P w) (keeps : Keeps P w e) :
    Holds P (step user newDashboard w e) := by
  cases e with
  | fetched => exact fetched_holds holds
  | select value => exact select_holds blank holds value
  | rename name => exact { holds with }
  | setDefault checked => exact { holds with }
  | addPanel uuid values =>
    simp only [step]
    split_ifs with valid
    · exact { holds with draft := keeps valid holds.draft }
    · exact holds
  | removePanel widgetId => exact { holds with draft := remove _ widgetId holds.draft }
  | layoutChange newLayout => exact { holds with draft := keeps holds.draft }
  | importFile randomUUID devices raw => exact importFile_holds keeps holds
  | press => exact press_holds holds
  | serve id => exact serve_holds blank holds id
  | settle => exact settle_holds holds
  | elsewhere call => exact { holds with rows := after_holds blank keeps holds.rows }

end Keeps

/-! ## A save -/

/-- The dashboard that a save of the draft updates. -/
def Draft.target (draft : Draft) : Option String := truthyId draft.id

/-- What a save needs where the server handles it. -/
structure Savable (user : UserEntity) (draft : Draft) (id : String)
    (rows : List DashboardEntity) : Prop where
  named : jsTrim draft.name ≠ ""
  types : ∀ widget ∈ draft.widgets, widget.widgetType ≠ .action
  own : ∀ target ∈ draft.target, ∃ row ∈ rows, row.id = target ∧ row.userId = user.id
  fresh : draft.target = none → ∀ row ∈ rows, row.id ≠ id

section Save

variable {user : UserEntity} {newDashboard : String} {w : World}

end Save

section Outcome

variable (user : UserEntity) (newDashboard : String) (w : World)

/-- The save button is pressed, and the events `before` happen. -/
def pressed (before : List EditorEvent) : World :=
  Run.exec (step user newDashboard) (step user newDashboard w .press) before

/-- The server handles the save. -/
def served (before : List EditorEvent) (id : String) : World :=
  step user newDashboard (pressed user newDashboard w before) (.serve id)

/-- The events `after` happen before the page reads the answer. -/
def answered (before after : List EditorEvent) (id : String) : World :=
  Run.exec (step user newDashboard) (served user newDashboard w before id) after

def settled (before after : List EditorEvent) (id : String) : World :=
  step user newDashboard (answered user newDashboard w before after id) .settle

variable {user newDashboard w} {before after : List EditorEvent} {id : String}

end Outcome

/-! ### A dashboard that is renamed too late -/

def editor : UserEntity := { id := "u1", username := "ada" }

def flowPanel : AddPanelForm := ⟨"d1", .chart, "flow", "Flow"⟩

def panelBox (widget : IDashboardWidget) : Box Rat := ⟨widget.x, widget.y, widget.w, widget.h⟩

def LayoutItem.box (item : LayoutItem) : Box Rat := ⟨item.x, item.y, item.w, item.h⟩

def entryBox (entry : WidgetEntry) : Box Rat := ⟨entry.x, entry.y, entry.w, entry.h⟩

/-- `COLS`. -/
def cols : Rat := 12

/-- The panels have ids of their own, lie on the grid and do not overlap. -/
structure Tidy (widgets : List IDashboardWidget) : Prop where
  ids : Keyed.Distinct IDashboardWidget.id widgets
  board : Box.Board cols panelBox widgets

/-- What the grid reports: an item for each panel, on the grid, none over another. -/
structure GridLayout (widgets : List IDashboardWidget) (layout : List LayoutItem) : Prop where
  covers : ∀ widget ∈ widgets, ∃ item ∈ layout, item.i = widget.id
  within : ∀ item ∈ layout, item.box.Within cols
  apart : ∀ a ∈ layout, ∀ b ∈ layout, a.i ≠ b.i → a.box.Apart b.box

/-- Generated ids are new, the grid lays its panels out, the panels of a file lie on the grid and
do not overlap, and the bodies of other pages are tidy. -/
def TidyEvent (w : World) : EditorEvent → Prop
  | .addPanel uuid _ => ∀ widget ∈ w.draft.widgets, widget.id ≠ uuid
  | .layoutChange newLayout => GridLayout w.draft.widgets newLayout
  | .importFile randomUUID _ raw => Function.Injective randomUUID ∧
    ∀ file ∈ configFileSchema (some raw), Box.Board cols entryBox file.widgets
  | .elsewhere call => ∀ body ∈ call.body?, ReadsAs Tidy body
  | _ => True

theorem tidy_nil : Tidy [] := ⟨List.nodup_nil, Box.Board.nil⟩

theorem tidy_remove (widgets : List IDashboardWidget) (id : String) (tidy : Tidy widgets) :
    Tidy (Keyed.remove IDashboardWidget.id id widgets) :=
  ⟨tidy.ids.remove, tidy.board.sublist List.filter_sublist⟩

theorem nextSlot_eq (widgets : List IDashboardWidget) :
    nextSlot widgets = Box.bottom panelBox widgets := rfl

theorem tidy_addPanel {widgets : List IDashboardWidget} (tidy : Tidy widgets) {uuid : String}
    (fresh : ∀ widget ∈ widgets, widget.id ≠ uuid) (values : AddPanelForm) :
    Tidy (widgets ++ [newPanel uuid values widgets]) := by
  refine ⟨tidy.ids.concat fresh, tidy.board.concat ?_ (nextSlot_eq widgets)⟩
  have top : 0 ≤ Box.bottom panelBox widgets := Box.bottom_nonneg
  exact ⟨le_rfl, show (0 : Rat) + 4 ≤ 12 by norm_num, top, show (0 : Rat) ≤ 4 by norm_num,
    show (0 : Rat) ≤ 2 by norm_num⟩

theorem tidy_layoutChange {widgets : List IDashboardWidget} (tidy : Tidy widgets)
    {layout : List LayoutItem} (grid : GridLayout widgets layout) :
    Tidy (handleLayoutChange layout widgets) := by
  have found : ∀ widget ∈ widgets, ∃ item ∈ layout, item.i = widget.id ∧
      ((Keyed.find LayoutItem.i widget.id layout).map (placed widget)).getD widget =
        placed widget item := by
    intro widget hwidget
    cases hfind : Keyed.find LayoutItem.i widget.id layout with
    | none =>
      obtain ⟨item, hitem, same⟩ := grid.covers widget hwidget
      exact absurd same (Keyed.find_eq_none_iff.mp hfind item hitem)
    | some item =>
      obtain ⟨hitem, same⟩ := Keyed.mem_of_find hfind
      exact ⟨item, hitem, same, rfl⟩
  constructor
  · refine tidy.ids.map fun widget => ?_
    cases Keyed.find LayoutItem.i widget.id layout <;> rfl
  · refine Box.Board.map_of_apart (List.pairwise_map.mp tidy.ids) ?_ ?_
    · intro widget hwidget
      obtain ⟨item, hitem, -, same⟩ := found widget hwidget
      rw [same]
      exact grid.within item hitem
    · intro a ha b hb differ
      obtain ⟨item, hitem, hid, same⟩ := found a ha
      obtain ⟨item', hitem', hid', same'⟩ := found b hb
      rw [same, same']
      refine grid.apart item hitem item' hitem' ?_
      rwa [hid, hid']

/-- The loop of an import, with the panels so far. -/
theorem tidy_importWidgets {randomUUID : Nat → String} (injective : Function.Injective randomUUID)
    (devices : List IDevice) (entries : List WidgetEntry) (state : List IDashboardWidget × Nat)
    (board : Box.Board cols entryBox entries)
    (clear : ∀ widget ∈ state.1, ∀ entry ∈ entries, (panelBox widget).Apart (entryBox entry))
    (named : ∀ widget ∈ state.1, ∃ i < state.1.length, widget.id = randomUUID i)
    (tidy : Tidy state.1) :
    Tidy (entries.foldl (importWidget randomUUID devices) state).1 := by
  induction entries generalizing state with
  | nil => exact tidy
  | cons entry entries ih =>
    obtain ⟨aside, -⟩ := List.pairwise_cons.mp board.apart
    have board' : Box.Board cols entryBox entries :=
      board.sublist (List.sublist_cons_self _ _)
    rw [List.foldl_cons]
    unfold importWidget
    cases findDevice devices entry.device with
    | none =>
      exact ih _ board' (fun widget h e he => clear widget h e (List.mem_cons_of_mem _ he))
        named tidy
    | some device =>
      refine ih _ board' ?_ ?_ ⟨tidy.ids.concat ?_, tidy.board.append_singleton ?_ ?_⟩
      · intro widget hwidget e he
        rcases List.mem_append.mp hwidget with h | h
        · exact clear widget h e (List.mem_cons_of_mem _ he)
        · rw [List.mem_singleton.mp h]
          exact aside e he
      · intro widget hwidget
        simp only [List.length_append, List.length_singleton]
        rcases List.mem_append.mp hwidget with h | h
        · obtain ⟨i, hi, same⟩ := named widget h
          exact ⟨i, Nat.lt_succ_of_lt hi, same⟩
        · rw [List.mem_singleton.mp h]
          exact ⟨state.1.length, Nat.lt_succ_self _, rfl⟩
      · intro widget hwidget
        obtain ⟨i, hi, same⟩ := named widget hwidget
        rw [same]
        exact fun clash => hi.ne (injective clash)
      · exact board.within entry List.mem_cons_self
      · exact fun widget hwidget => clear widget hwidget entry List.mem_cons_self

theorem tidy_import {randomUUID : Nat → String} (injective : Function.Injective randomUUID)
    {devices : List IDevice} {raw : Json}
    (board : ∀ file ∈ configFileSchema (some raw), Box.Board cols entryBox file.widgets)
    {parsed : IParsedDashboardConfig}
    (read : parseDashboardConfigImport randomUUID devices raw = some parsed) :
    Tidy parsed.widgets := by
  simp only [parseDashboardConfigImport, Option.bind_eq_bind, Option.bind_eq_some_iff,
    Option.pure_def, Option.some.injEq] at read
  obtain ⟨file, hfile, rfl⟩ := read
  exact tidy_importWidgets injective devices file.widgets ([], 0) (board file hfile)
    (by simp) (by simp) tidy_nil

theorem keeps_tidy {w : World} {e : EditorEvent} (tidy : TidyEvent w e) : Keeps Tidy w e := by
  cases e with
  | addPanel uuid values => exact fun _ panels => tidy_addPanel panels tidy values
  | layoutChange newLayout => exact fun panels => tidy_layoutChange panels tidy
  | importFile randomUUID devices raw => exact fun _ read => tidy_import tidy.1 tidy.2 read
  | elsewhere call => exact tidy
  | _ => trivial

/-- No page ever draws one panel over another, and no row stores such panels. -/
theorem panels_tidy {user : UserEntity} {newDashboard : String} {rows : List DashboardEntity}
    (stored : ∀ row ∈ rows, Tidy (shown row)) {es : List EditorEvent}
    (tidy : Run.Meets (step user newDashboard) TidyEvent (opened newDashboard rows) es) :
    Holds Tidy (Run.exec (step user newDashboard) (opened newDashboard rows) es) :=
  Run.invariant_of_meets
    (fun w e holds tidy => step_keeps tidy_nil tidy_remove w e holds (keeps_tidy tidy))
    (opened_holds tidy_nil stored) tidy

/-! ### Two panels side by side -/

/-- Two panels are added, and then moved and widened. -/
def sideBySide : List EditorEvent :=
  [.addPanel "w1" flowPanel, .addPanel "w2" flowPanel,
    .layoutChange [⟨"w1", 0, 0, 6, 2⟩, ⟨"w2", 6, 0, 6, 2⟩], .press, .serve "b1", .settle]

theorem sideBySide_grid {widgets : List IDashboardWidget}
    (ids : widgets.map (·.id) = ["w1", "w2"]) :
    GridLayout widgets [⟨"w1", 0, 0, 6, 2⟩, ⟨"w2", 6, 0, 6, 2⟩] where
  covers widget hwidget := by
    have named : widget.id ∈ ["w1", "w2"] := ids ▸ List.mem_map_of_mem hwidget
    simpa [eq_comm] using named
  within := by
    refine List.forall_mem_cons.mpr ⟨?_, List.forall_mem_singleton.mpr ?_⟩ <;>
      constructor <;> norm_num [LayoutItem.box, cols]
  apart := by simp [LayoutItem.box, Box.Apart]

theorem panels_tidy_sideBySide :
    Holds Tidy (Run.exec (step editor "New") (opened "New" []) sideBySide) :=
  panels_tidy (by simp)
    ⟨by simp [TidyEvent, opened, blankDraft], by
      simp [TidyEvent, opened, blankDraft, step, flowPanel, AddPanelForm.Valid, newPanel],
      sideBySide_grid rfl, trivial, trivial, trivial, trivial⟩

end AiotCloud.DashboardEditor
