import AiotCloud.Accounts
import AiotCloud.AssetNodes
import AiotCloud.Lib.Run

/-!
# Who may write may read

Devices, assets and dashboards carry the account that created them and a copy of the
factory that the account had. An account writes the records with its id and reads those
of its scope: its factory, or its own records while it has none. A change of the account's
factory leaves the copies on its records.

* `writersRead_iff`: reading one's records, in terms of the two columns.
* `Standing.account_iff`: what a call on accounts may do.
* `writers_read_iff`: along a run.
-/

namespace AiotCloud

/-! ## Records -/

structure DashboardWidgetDto where
  id : String
  deviceId : String
  widgetType : WidgetType
  field : Option String := none
  title : Option String := none
  x : Int
  y : Int
  w : Int
  h : Int
deriving DecidableEq, Repr

structure DashboardEntity where
  id : String
  userId : String
  factoryId : Option String
  name : String
  isDefault : Bool
  widgets : List DashboardWidgetDto
deriving DecidableEq, Repr

structure CreateAssetDto where
  name : String
  type : Option AssetType := none
  description : Option String := none
  installedAt : Option Date := none
  expectedLifespanMonths : Option Int := none
deriving DecidableEq, Repr

structure SaveDashboardDto where
  name : String
  isDefault : Option Bool := none
  widgets : Option (List DashboardWidgetDto) := none
deriving DecidableEq, Repr

/-- The row that is inserted; the database generates `id`. -/
def createdAsset (id userId : String) (factoryId : Option String) (dto : CreateAssetDto) :
    AssetEntity :=
  { id := id
    userId := userId
    factoryId := factoryId
    name := dto.name
    type := dto.type.getD .other
    description := dto.description
    installedAt := dto.installedAt
    expectedLifespanMonths := dto.expectedLifespanMonths }

def createdDashboard (id userId : String) (factoryId : Option String) (dto : SaveDashboardDto) :
    DashboardEntity :=
  { id := id
    userId := userId
    factoryId := factoryId
    name := dto.name
    isDefault := dto.isDefault.getD false
    widgets := dto.widgets.getD [] }

/-! ## Reading -/

/-- The columns of a record that decide who reads it. -/
structure Ownership where
  userId : String
  factoryId : Option String
deriving DecidableEq, Repr

def AccessScope.admitsOwnership : AccessScope → Ownership → Bool
  | .user userId, record => record.userId == userId
  | .factory factoryId, record => record.factoryId == some factoryId
  | .unrestricted, _ => true

/-- A table whose rows have an id and an ownership. -/
structure OwnedTable (ρ : Type) where
  id : ρ → String
  ownership : ρ → Ownership

/-- `findOne({ where: scope ? { id, ...scope } : { id } })`. -/
def OwnedTable.findOne {ρ : Type} (table : OwnedTable ρ) (rows : List ρ) (scope : AccessScope)
    (id : String) : Option ρ :=
  rows.find? fun row => table.id row = id ∧ scope.admitsOwnership (table.ownership row)

def deviceTable : OwnedTable DeviceEntity := ⟨(·.id), fun d => ⟨d.userId, d.factoryId⟩⟩

def assetTable : OwnedTable AssetEntity := ⟨(·.id), fun a => ⟨a.userId, a.factoryId⟩⟩

def dashboardTable : OwnedTable DashboardEntity := ⟨(·.id), fun d => ⟨d.userId, d.factoryId⟩⟩

/-- The row as a call that reads one answers. -/
def answerFound {ρ : Type} (missing : String) : Option ρ → ResponseCore ρ
  | none => .fail .notFound missing
  | some entity => .ok entity

def getDevice (scope : AccessScope) (id : String) (devices : List DeviceEntity) :
    ResponseCore DeviceEntity :=
  answerFound "error.deviceNotFound" (deviceTable.findOne devices scope id)

def getAsset (scope : AccessScope) (id : String) (assets : List AssetEntity) :
    ResponseCore AssetEntity :=
  answerFound "error.assetNotFound" (assetTable.findOne assets scope id)

def getDashboard (scope : AccessScope) (id : String) (dashboards : List DashboardEntity) :
    ResponseCore DashboardEntity :=
  answerFound "error.dashboardNotFound" (dashboardTable.findOne dashboards scope id)

/-- The scope of an account. -/
def scopeOf (user : UserEntity) : AccessScope :=
  resolveAccessScope user.id user.role user.factoryId

/-- The live feed and the lifecycle calls look devices up the same way. -/
theorem deviceTable_findOne (devices : List DeviceEntity) (scope : AccessScope) (id : String) :
    deviceTable.findOne devices scope id = findInScope devices scope id := by
  cases scope <;> rfl

theorem OwnedTable.findOne_eq_some_iff {ρ : Type} {table : OwnedTable ρ} {rows : List ρ}
    (distinct : Keyed.Distinct table.id rows) {scope : AccessScope} {row : ρ} (hrow : row ∈ rows) :
    table.findOne rows scope (table.id row) = some row ↔
      scope.admitsOwnership (table.ownership row) = true := by
  constructor
  · intro h
    have found := List.find?_some h
    simp only [decide_eq_true_eq] at found
    exact found.2
  · intro admitted
    cases hfind : table.findOne rows scope (table.id row) with
    | none =>
      have absent := List.find?_eq_none.mp hfind row hrow
      simp [admitted] at absent
    | some other =>
      have found := List.find?_some hfind
      simp only [decide_eq_true_eq] at found
      rw [distinct.eq_of_key (List.mem_of_find?_eq_some hfind) hrow found.1]

theorem answerFound_eq_ok_iff {ρ : Type} {missing : String} {found : Option ρ} {row : ρ} :
    answerFound missing found = .ok row ↔ found = some row := by
  cases found <;> simp [answerFound, ResponseCore.ok, ResponseCore.fail]

/-- The account's own record is in its scope if the record has the account's factory. -/
theorem scopeOf_admits_own_iff {user : UserEntity} (role : user.role ≠ .guest)
    {record : Ownership} (own : record.userId = user.id) :
    (scopeOf user).admitsOwnership record = true ↔
      ∀ factoryId, user.factoryId = some factoryId → factoryId ≠ "" →
        record.factoryId = some factoryId := by
  unfold scopeOf resolveAccessScope
  rw [if_neg role]
  cases hfactory : user.factoryId with
  | none => simp [AccessScope.admitsOwnership, own]
  | some factoryId =>
    rw [Option.filter_some]
    by_cases blank : factoryId = ""
    · simp [AccessScope.admitsOwnership, own, blank]
    · simp [AccessScope.admitsOwnership, blank]

/-! ## Runs -/

structure OwnerWorld where
  templates : List DeviceTemplateEntity
  users : List UserEntity
  devices : List DeviceEntity
  assets : List AssetEntity
  dashboards : List DashboardEntity

/-- A call of an account that creates a record, or a call on accounts. -/
inductive OwnerCall where
  | registerDevice (userId id : String) (now : Date) (dto : RegisterDeviceDto)
  | createAsset (userId id : String) (dto : CreateAssetDto)
  | createDashboard (userId id : String) (dto : SaveDashboardDto)
  | account (call : AccountCall)

/-- The rows with a new one. A generated id is none that a row has. -/
def OwnedTable.insert {ρ : Type} (table : OwnedTable ρ) (row : ρ) (rows : List ρ) : List ρ :=
  if ∀ other ∈ rows, table.id other ≠ table.id row then rows ++ [row] else rows

theorem OwnedTable.insert_cases {ρ : Type} (table : OwnedTable ρ) (row : ρ) (rows : List ρ) :
    table.insert row rows = rows ∨
      (∀ other ∈ rows, table.id other ≠ table.id row) ∧ table.insert row rows = rows ++ [row] := by
  unfold OwnedTable.insert
  split_ifs with fresh
  · exact Or.inr ⟨fresh, rfl⟩
  · exact Or.inl rfl

theorem OwnedTable.distinct_insert {ρ : Type} {table : OwnedTable ρ} {rows : List ρ}
    (distinct : Keyed.Distinct table.id rows) (row : ρ) :
    Keyed.Distinct table.id (table.insert row rows) := by
  rcases table.insert_cases row rows with same | ⟨fresh, inserted⟩
  · rwa [same]
  · rw [inserted]
    exact distinct.concat fresh

/-- The ownerships of a table grow by that of the new row. -/
theorem OwnedTable.mem_ownerships_insert {ρ : Type} {table : OwnedTable ρ} {row : ρ}
    {rows : List ρ} {record : Ownership}
    (h : record ∈ (table.insert row rows).map table.ownership) :
    record ∈ rows.map table.ownership ∨ record = table.ownership row := by
  rcases table.insert_cases row rows with same | ⟨-, inserted⟩
  · rw [same] at h
    exact Or.inl h
  · rw [inserted, List.map_append] at h
    exact (List.mem_append.mp h).imp_right List.mem_singleton.mp

/-- `@Auth([RoleType.USER, RoleType.ADMIN, RoleType.ROOT])`: the account of the request. -/
def mayCreate (users : List UserEntity) (userId : String) : Option UserEntity :=
  (findUser users userId).filter fun user => user.role ∈ [RoleType.user, .admin, .root]

theorem mayCreate_eq_some {users : List UserEntity} {userId : String} {user : UserEntity}
    (h : mayCreate users userId = some user) : user ∈ users := by
  unfold mayCreate at h
  rw [Option.filter_eq_some_iff] at h
  exact (Keyed.mem_of_find h.1).1

namespace OwnerWorld

def step (bcrypt : Bcrypt) (w : OwnerWorld) : OwnerCall → OwnerWorld
  | .registerDevice userId id now dto =>
    match mayCreate w.users userId with
    | none => w
    | some user =>
      { w with devices := afterRegister id now user.id user.factoryId dto w.templates w.devices }
  | .createAsset userId id dto =>
    match mayCreate w.users userId with
    | none => w
    | some user =>
      { w with assets := assetTable.insert (createdAsset id user.id user.factoryId dto) w.assets }
  | .createDashboard userId id dto =>
    match mayCreate w.users userId with
    | none => w
    | some user =>
      { w with
        dashboards :=
          dashboardTable.insert (createdDashboard id user.id user.factoryId dto) w.dashboards }
  | .account call => { w with users := call.after bcrypt w.users }

/-- Every record of an account that is no guest is found by the account. -/
structure FindsOwn (w : OwnerWorld) (user : UserEntity) : Prop where
  devices : ∀ device ∈ w.devices, device.userId = user.id →
    getDevice (scopeOf user) device.id w.devices = .ok device
  assets : ∀ asset ∈ w.assets, asset.userId = user.id →
    getAsset (scopeOf user) asset.id w.assets = .ok asset
  dashboards : ∀ dashboard ∈ w.dashboards, dashboard.userId = user.id →
    getDashboard (scopeOf user) dashboard.id w.dashboards = .ok dashboard

def WritersRead (w : OwnerWorld) : Prop :=
  ∀ user ∈ w.users, user.role ≠ .guest → w.FindsOwn user

/-- The columns of all records. -/
def records (w : OwnerWorld) : List Ownership :=
  w.devices.map deviceTable.ownership ++ w.assets.map assetTable.ownership ++
    w.dashboards.map dashboardTable.ownership

/-- An account that a call leaves a member of a factory, and no guest, has no records but
those of the factory. -/
def RecordsMoved (bcrypt : Bcrypt) (w : OwnerWorld) : OwnerCall → Prop
  | .account call => ∀ user, call.saved bcrypt w.users = some user → user.role ≠ .guest →
      ∀ factoryId, user.factoryId = some factoryId → factoryId ≠ "" →
        ∀ record ∈ w.records, record.userId = user.id → record.factoryId = some factoryId
  | _ => True

structure Standing (w : OwnerWorld) : Prop where
  users : UserKeys w.users
  devices : Keys w.devices
  assets : Keyed.Distinct assetTable.id w.assets
  dashboards : Keyed.Distinct dashboardTable.id w.dashboards
  owners : ∀ record ∈ w.records, ∃ user ∈ w.users, user.id = record.userId
  read : w.WritersRead

variable {bcrypt : Bcrypt} {w : OwnerWorld}

/-- The records that an account writes are in its scope. -/
def Admitted (users : List UserEntity) (records : List Ownership) : Prop :=
  ∀ user ∈ users, user.role ≠ .guest → ∀ record ∈ records, record.userId = user.id →
    (scopeOf user).admitsOwnership record = true

theorem writersRead_iff (devices : Keys w.devices) (assets : Keyed.Distinct assetTable.id w.assets)
    (dashboards : Keyed.Distinct dashboardTable.id w.dashboards) :
    w.WritersRead ↔ Admitted w.users w.records := by
  -- for every table: the ids are distinct, so a look-up by id can only miss by the scope
  have found : ∀ {ρ : Type} (table : OwnedTable ρ) (rows : List ρ) (missing : String)
      (scope : AccessScope) (userId : String), Keyed.Distinct table.id rows →
      ((∀ row ∈ rows, (table.ownership row).userId = userId →
          answerFound missing (table.findOne rows scope (table.id row)) = .ok row) ↔
        ∀ record ∈ rows.map table.ownership, record.userId = userId →
          scope.admitsOwnership record = true) := by
    intro ρ table rows missing scope userId distinct
    rw [List.forall_mem_map]
    refine forall_congr' fun row => forall_congr' fun hrow => forall_congr' fun _ => ?_
    rw [answerFound_eq_ok_iff, OwnedTable.findOne_eq_some_iff distinct hrow]
  refine forall_congr' fun user => forall_congr' fun _ => forall_congr' fun _ => ?_
  unfold records
  rw [List.forall_mem_append, List.forall_mem_append,
    ← found deviceTable w.devices "error.deviceNotFound" _ _ devices.ids,
    ← found assetTable w.assets "error.assetNotFound" _ _ assets,
    ← found dashboardTable w.dashboards "error.dashboardNotFound" _ _ dashboards]
  exact ⟨fun h => ⟨⟨h.devices, h.assets⟩, h.dashboards⟩, fun h => ⟨h.1.1, h.1.2, h.2⟩⟩

/-- What a call of an account that may create a record changes. -/
theorem step_cases (bcrypt : Bcrypt) (w : OwnerWorld) (call : OwnerCall) :
    (∃ account, call = .account account) ∨ w.step bcrypt call = w ∨ ∃ user ∈ w.users,
      (∃ id now dto, w.step bcrypt call = { w with
        devices := afterRegister id now user.id user.factoryId dto w.templates w.devices }) ∨
      (∃ id dto, w.step bcrypt call = { w with
        assets := assetTable.insert (createdAsset id user.id user.factoryId dto) w.assets }) ∨
      ∃ id dto, w.step bcrypt call = { w with
        dashboards :=
          dashboardTable.insert (createdDashboard id user.id user.factoryId dto)
            w.dashboards } := by
  cases call with
  | account call => exact .inl ⟨call, rfl⟩
  | registerDevice userId id now dto =>
    unfold OwnerWorld.step
    dsimp only
    cases hcreate : mayCreate w.users userId with
    | none => exact .inr (.inl rfl)
    | some user =>
      exact .inr (.inr ⟨user, mayCreate_eq_some hcreate, .inl ⟨id, now, dto, rfl⟩⟩)
  | createAsset userId id dto =>
    unfold OwnerWorld.step
    dsimp only
    cases hcreate : mayCreate w.users userId with
    | none => exact .inr (.inl rfl)
    | some user =>
      exact .inr (.inr ⟨user, mayCreate_eq_some hcreate, .inr (.inl ⟨id, dto, rfl⟩)⟩)
  | createDashboard userId id dto =>
    unfold OwnerWorld.step
    dsimp only
    cases hcreate : mayCreate w.users userId with
    | none => exact .inr (.inl rfl)
    | some user =>
      exact .inr (.inr ⟨user, mayCreate_eq_some hcreate, .inr (.inr ⟨id, dto, rfl⟩)⟩)

theorem step_users (bcrypt : Bcrypt) (w : OwnerWorld) {call : OwnerCall}
    (creates : ∀ account, call ≠ .account account) : (w.step bcrypt call).users = w.users := by
  rcases w.step_cases bcrypt call with ⟨account, same⟩ | same | ⟨user, -, created⟩
  · exact absurd same (creates account)
  · rw [same]
  · rcases created with ⟨id, now, dto, created⟩ | ⟨id, dto, created⟩ | ⟨id, dto, created⟩
    all_goals rw [created]

/-- A call adds at most a record with the columns of an account. -/
theorem step_grown (bcrypt : Bcrypt) (w : OwnerWorld) (call : OwnerCall) :
    ∀ record ∈ (w.step bcrypt call).records,
      record ∈ w.records ∨ ∃ user ∈ w.users, record = ⟨user.id, user.factoryId⟩ := by
  intro record hrecord
  rcases w.step_cases bcrypt call with ⟨account, rfl⟩ | same | ⟨user, huser, created⟩
  · exact Or.inl hrecord
  · exact Or.inl (same ▸ hrecord)
  rcases created with ⟨id, now, dto, created⟩ | ⟨id, dto, created⟩ | ⟨id, dto, created⟩
  all_goals
    rw [created] at hrecord
    simp only [records, List.mem_append] at hrecord ⊢
    rcases hrecord with (hrecord | hrecord) | hrecord
  · rcases afterRegister_cases id now user.id user.factoryId dto w.templates w.devices with
      same | ⟨row, rfl, -, -, inserted⟩
    · rw [same] at hrecord
      exact Or.inl (Or.inl (Or.inl hrecord))
    · rw [inserted, List.map_append] at hrecord
      exact (List.mem_append.mp hrecord).imp (fun old => Or.inl (Or.inl old))
        fun new => ⟨user, huser, List.mem_singleton.mp new⟩
  · exact Or.inl (Or.inl (Or.inr hrecord))
  · exact Or.inl (Or.inr hrecord)
  · exact Or.inl (Or.inl (Or.inl hrecord))
  · exact (OwnedTable.mem_ownerships_insert hrecord).imp (fun old => Or.inl (Or.inr old))
      fun new => ⟨user, huser, new⟩
  · exact Or.inl (Or.inr hrecord)
  · exact Or.inl (Or.inl (Or.inl hrecord))
  · exact Or.inl (Or.inl (Or.inr hrecord))
  · exact (OwnedTable.mem_ownerships_insert hrecord).imp Or.inr fun new => ⟨user, huser, new⟩

/-- The records that accounts create are in their scope. -/
theorem Admitted.grow {users : List UserEntity} {records : List Ownership} (keys : UserKeys users)
    (h : Admitted users records) {records' : List Ownership}
    (grown : ∀ record ∈ records',
      record ∈ records ∨ ∃ user ∈ users, record = ⟨user.id, user.factoryId⟩) :
    Admitted users records' := by
  intro other hother role record hrecord own
  rcases grown record hrecord with hrecord | ⟨user, huser, rfl⟩
  · exact h other hother role record hrecord own
  · obtain rfl := keys.ids.eq_of_key huser hother own
    exact (scopeOf_admits_own_iff role own).mpr fun factoryId hfactory _ => hfactory

/-- Of the accounts, only the one that is saved can lose records out of its scope. -/
theorem Admitted.leaves_iff {users after : List UserEntity} {records : List Ownership}
    (h : Admitted users records) {saved : Option UserEntity} (leaves : Leaves users saved after) :
    Admitted after records ↔ ∀ user, saved = some user → user.role ≠ .guest →
      ∀ record ∈ records, record.userId = user.id →
        (scopeOf user).admitsOwnership record = true := by
  cases leaves with
  | same => exact iff_of_true h (by simp)
  | inserted row insertable =>
    simp only [Option.some_inj, forall_eq']
    refine ⟨fun admitted => admitted row (List.mem_append_right _ List.mem_cons_self), ?_⟩
    intro admitted user huser
    rcases List.mem_append.mp huser with huser | huser
    · exact h user huser
    · obtain rfl := List.mem_singleton.mp huser
      exact admitted
  | written old row hold id savable =>
    have exist : ∃ old ∈ users, old.id = row.id := ⟨old, hold, id.symm⟩
    simp only [Option.some_inj, forall_eq']
    refine ⟨fun admitted => admitted row ((mem_writeUser_iff exist).mpr (Or.inl rfl)), ?_⟩
    intro admitted user huser
    rcases (mem_writeUser_iff exist).mp huser with rfl | ⟨huser, -⟩
    · exact admitted
    · exact h user huser

theorem Standing.admitted (standing : w.Standing) : Admitted w.users w.records :=
  (writersRead_iff standing.devices standing.assets standing.dashboards).mp standing.read

theorem Standing.account_iff (standing : w.Standing) (call : AccountCall) :
    (w.step bcrypt (.account call)).WritersRead ↔ w.RecordsMoved bcrypt (.account call) := by
  have admitted := standing.admitted
  refine (writersRead_iff (w := w.step bcrypt (.account call)) standing.devices standing.assets
    standing.dashboards).trans ?_
  refine (admitted.leaves_iff (leaves_after bcrypt standing.users call)).trans ?_
  refine forall_congr' fun user => forall_congr' fun _ => forall_congr' fun role => ?_
  constructor
  · intro h factoryId hfactory blank record hrecord own
    exact (scopeOf_admits_own_iff role own).mp (h record hrecord own) factoryId hfactory blank
  · intro h record hrecord own
    exact (scopeOf_admits_own_iff role own).mpr fun factoryId hfactory blank =>
      h factoryId hfactory blank record hrecord own

theorem Standing.account (standing : w.Standing) (call : AccountCall)
    (read : (w.step bcrypt (.account call)).WritersRead) :
    (w.step bcrypt (.account call)).Standing where
  users := standing.users.leaves (leaves_after bcrypt standing.users call)
  devices := standing.devices
  assets := standing.assets
  dashboards := standing.dashboards
  owners record hrecord := by
    obtain ⟨user, huser, own⟩ := standing.owners record hrecord
    obtain ⟨later, hlater, same⟩ := (leaves_after bcrypt standing.users call).stays huser
    exact ⟨later, hlater, same.trans own⟩
  read := read

/-- A call that creates a record of an account keeps the rest. -/
theorem Standing.create (standing : w.Standing) {after : OwnerWorld}
    (users : after.users = w.users) (devices : Keys after.devices)
    (assets : Keyed.Distinct assetTable.id after.assets)
    (dashboards : Keyed.Distinct dashboardTable.id after.dashboards)
    (grown : ∀ record ∈ after.records,
      record ∈ w.records ∨ ∃ user ∈ w.users, record = ⟨user.id, user.factoryId⟩) :
    after.Standing where
  users := users ▸ standing.users
  devices := devices
  assets := assets
  dashboards := dashboards
  owners record hrecord := by
    rw [users]
    rcases grown record hrecord with hrecord | ⟨user, huser, rfl⟩
    · exact standing.owners record hrecord
    · exact ⟨user, huser, rfl⟩
  read := by
    refine (writersRead_iff devices assets dashboards).mpr ?_
    rw [users]
    exact standing.admitted.grow standing.users grown

theorem Standing.step (standing : w.Standing) (call : OwnerCall)
    (moved : w.RecordsMoved bcrypt call) : (w.step bcrypt call).Standing := by
  have grown := w.step_grown bcrypt call
  rcases w.step_cases bcrypt call with ⟨account, rfl⟩ | same | ⟨user, -, created⟩
  · exact standing.account account ((standing.account_iff account).mpr moved)
  · rw [same]
    exact standing
  rcases created with ⟨id, now, dto, created⟩ | ⟨id, dto, created⟩ | ⟨id, dto, created⟩
  · rw [created] at grown ⊢
    exact standing.create rfl (standing.devices.afterRegister ..) standing.assets
      standing.dashboards grown
  · rw [created] at grown ⊢
    exact standing.create rfl standing.devices (OwnedTable.distinct_insert standing.assets _)
      standing.dashboards grown
  · rw [created] at grown ⊢
    exact standing.create rfl standing.devices standing.assets
      (OwnedTable.distinct_insert standing.dashboards _) grown

end OwnerWorld

open OwnerWorld in
/-- From the empty database, in every state of the run every account that is no guest finds
the records it may write, exactly when each call that leaves an account in a factory finds
all its records there. -/
theorem writers_read_iff (bcrypt : Bcrypt) (templates : List DeviceTemplateEntity)
    (calls : List OwnerCall) :
    (∀ pre, pre <+: calls →
        (Run.exec (OwnerWorld.step bcrypt) ⟨templates, [], [], [], []⟩ pre).WritersRead) ↔
      Run.Meets (OwnerWorld.step bcrypt) (RecordsMoved bcrypt) ⟨templates, [], [], [], []⟩
        calls := by
  have start : Standing ⟨templates, [], [], [], []⟩ :=
    { users := .nil
      devices := ⟨List.nodup_nil, List.nodup_nil⟩
      assets := List.nodup_nil
      dashboards := List.nodup_nil
      owners := fun record hrecord => by cases hrecord
      read := fun user huser => by cases huser }
  refine Run.always_iff_meets (fun w standing => standing.read)
    (fun w call standing moved => standing.step call moved) (fun w call standing read => ?_)
    start calls
  cases call with
  | account call => exact (standing.account_iff call).mp read
  | registerDevice userId id now dto => trivial
  | createAsset userId id dto => trivial
  | createDashboard userId id dto => trivial

/-! ### An account that gets a factory -/

/-- A user without a factory creates an asset and is then assigned to one. -/
def joinsFactory : List OwnerCall :=
  [.account (.createUserByAdmin (someEnv "u1") { username := "ann", password := "secret" }),
    .createAsset "u1" "pump" { name := "Pump" },
    .account (.updateUser (someEnv "") "u1"
      { password := some "secret", factoryId := some (some "f1") })]

theorem writers_not_read :
    ¬ (Run.exec (OwnerWorld.step plainBcrypt) ⟨[], [], [], [], []⟩ joinsFactory).WritersRead := by
  intro read
  let w := Run.exec (OwnerWorld.step plainBcrypt) ⟨[], [], [], [], []⟩ joinsFactory
  have user : ∃ user ∈ w.users, user.id = "u1" ∧ user.role ≠ .guest ∧
      getAsset (scopeOf user) "pump" w.assets = .fail .notFound "error.assetNotFound" := by decide
  obtain ⟨user, huser, id, role, missing⟩ := user
  have asset : ∃ asset ∈ w.assets, asset.userId = "u1" ∧ asset.id = "pump" := by decide
  obtain ⟨asset, hasset, own, hid⟩ := asset
  -- the account owns the asset, and its scope answers 404
  have found := (read user huser role).assets asset hasset (own.trans id.symm)
  rw [hid] at found
  exact absurd (missing.symm.trans found) (by simp [ResponseCore.fail, ResponseCore.ok])

end AiotCloud
