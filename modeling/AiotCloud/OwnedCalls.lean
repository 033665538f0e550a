import AiotCloud.AssetHealth
import AiotCloud.DashboardEditor
import AiotCloud.Lib.Interleave
import AiotCloud.Lib.Parted
import AiotCloud.Listings

/-!
# Calls on assets, devices and dashboards

Calls on the rows of accounts as processes on three shared tables: those of `AssetController` and
`DashboardController`, and of `DeviceController` the ones that list, load, register, configure and
delete devices. The table of unclaimed devices is shared by all accounts, and no call here reads
it. A query runs alone, and so does the end of a transaction; between them the calls of other
accounts go on.

* `OwnedStep.act`: a transaction goes through as a whole or not at all.
* `OwnedCall.proc`: the calls.
* `OwnedRequest.proc`: the same behind the guard for roles.
-/

namespace AiotCloud

open AssetHealth Interleave Parted

/-! ## Tables -/

structure OwnedTables where
  assets : List AssetRow := []
  devices : List DeviceEntity := []
  dashboards : List DashboardEntity := []

def assetRowTable : OwnedTable AssetRow := ⟨AssetRow.id, fun row => assetTable.ownership row.entity⟩

/-- A statement on one of the tables. -/
inductive OwnedWrite where
  | assets (write : Write AssetRow String)
  | devices (write : Write DeviceEntity String)
  | dashboards (write : Write DashboardEntity String)

namespace OwnedWrite

/-- The asset that a stored device refers to. -/
def reference : Write DeviceEntity String → Option String
  | .insert row _ | .save row _ => row.assetId
  | .update .. | .remove _ => none

/-- The asset of a device is a foreign key. -/
def refused (t : OwnedTables) : OwnedWrite → Bool
  | assets write => write.refused AssetRow.id t.assets
  | devices write =>
    write.refused DeviceEntity.id t.devices ||
      (reference write).any fun assetId => !t.assets.any (·.id = assetId)
  | dashboards write => write.refused DashboardEntity.id t.dashboards

def act (t : OwnedTables) : OwnedWrite → OwnedTables
  | assets write => { t with assets := write.act AssetRow.id t.assets }
  | devices write => { t with devices := write.act DeviceEntity.id t.devices }
  | dashboards write => { t with dashboards := write.act DashboardEntity.id t.dashboards }

end OwnedWrite

/-- A query, or the end of a transaction. -/
inductive OwnedStep where
  | query
  | commit (writes : List OwnedWrite)

namespace OwnedStep

def refused (t : OwnedTables) : OwnedStep → Bool
  | query => false
  | commit writes => writes.any (·.refused t)

/-- A transaction goes through as a whole or not at all. -/
def act (t : OwnedTables) : OwnedStep → OwnedTables
  | query => t
  | commit writes => if writes.any (·.refused t) then t else writes.foldl OwnedWrite.act t

end OwnedStep

/-! ## Calls -/

inductive OwnedAnswer where
  | forbidden
  | failed
  | asset (response : ResponseCore AssetRow)
  | assets (data : List AssetRow) (pageMeta : PageMeta)
  | assessment (response : ResponseCore AssetHealthAssessmentDto)
  | device (response : ResponseCore DeviceEntity)
  | devices (data : List DeviceEntity) (pageMeta : PageMeta)
  | dashboard (response : ResponseCore DashboardEntity)
  | dashboards (data : List DashboardEntity)
  | done (response : ResponseCore Unit)

abbrev OwnedProc := Proc OwnedTables OwnedStep OwnedAnswer

/-- A transaction that writes, and then answers. -/
def commitProc (writes : List OwnedWrite) (answer : OwnedAnswer) : OwnedProc :=
  Proc.read (.commit writes) fun t =>
    if (OwnedStep.commit writes).refused t then .failed else answer

/-- The rows that a query selects, sorted. Rows that tie stay as in the table. -/
def SelectQueryBuilder.getMany {ρ α : Type} (query : SelectQueryBuilder α) (of : ρ → α)
    (rows : List ρ) : List ρ :=
  (rows.filter fun row => query.condition (of row)).mergeSort fun row row' =>
    query.orderBy (of row) (of row')

/-- The rows of the page and their number are two queries. -/
def paginateProc {ρ α : Type} (query : SelectQueryBuilder α) (of : ρ → α)
    (table : OwnedTables → List ρ) (page : PageOptions) (answer : List ρ → PageMeta → OwnedAnswer) :
    OwnedProc := do
  let entities ← Proc.read .query fun t => (paginate page (query.getMany of (table t))).1
  let itemCount ← Proc.read .query fun t => (query.getMany of (table t)).length
  pure (answer entities (PageMeta.of page itemCount))

def assetNotFound {α : Type} : ResponseCore α := .fail .notFound "error.assetNotFound"

def deviceNotFound {α : Type} : ResponseCore α := .fail .notFound "error.deviceNotFound"

def dashboardNotFound {α : Type} : ResponseCore α := .fail .notFound "error.dashboardNotFound"

def removed : OwnedAnswer := .done ⟨.success, none, "success"⟩

/-- What a call does with the row that it looked up. -/
def goOn {ρ : Type} (missing : OwnedAnswer) (found : ρ → OwnedProc) : Option ρ → OwnedProc
  | none => pure missing
  | some entity => found entity

/-- Looks a row up in the scope and goes on with it. -/
def findProc {ρ : Type} (table : OwnedTable ρ) (rows : OwnedTables → List ρ) (scope : AccessScope)
    (id : String) (missing : OwnedAnswer) (found : ρ → OwnedProc) : OwnedProc :=
  Proc.read .query (fun t => table.findOne (rows t) scope id) >>= goOn missing found

/-! ### Assets -/

structure UpdateAssetDto where
  name : Option String := none
  type : Option AssetType := none
  description : Option (Option String) := none
  installedAt : Option (Option Date) := none
  expectedLifespanMonths : Option (Option Int) := none
deriving DecidableEq, Repr

/-- `Object.assign(entity, dto)`. -/
def updatedAsset (dto : UpdateAssetDto) (row : AssetRow) : AssetRow :=
  { row with
    entity :=
      { row.entity with
        name := dto.name.getD row.entity.name
        type := dto.type.getD row.entity.type
        description := dto.description.getD row.entity.description
        installedAt := dto.installedAt.getD row.entity.installedAt
        expectedLifespanMonths :=
          dto.expectedLifespanMonths.getD row.entity.expectedLifespanMonths } }

def findAssetProc (scope : AccessScope) (id : String) (missing : OwnedAnswer)
    (found : AssetRow → OwnedProc) : OwnedProc :=
  findProc assetRowTable (·.assets) scope id missing found

def getAssetsProc (scope : AccessScope) (order : Option Order) (page : PageOptions) : OwnedProc :=
  paginateProc (getAssets scope order) (fun row : AssetRow => ⟨row.entity, row.createdAt⟩)
    (·.assets) page .assets

def getAssetProc (scope : AccessScope) (id : String) : OwnedProc :=
  findAssetProc scope id (.asset assetNotFound) fun entity => pure (.asset (.ok entity))

def createAssetProc (id : String) (now : Date) (userId : String) (factoryId : Option String)
    (dto : CreateAssetDto) : OwnedProc :=
  let entity : AssetRow := { entity := createdAsset id userId factoryId dto, createdAt := now }
  commitProc [.assets (.insert entity (·.id = id))] (.asset (.ok entity))

def updateAssetProc (userId id : String) (dto : UpdateAssetDto) : OwnedProc :=
  findAssetProc (.user userId) id (.asset assetNotFound) fun entity =>
    commitProc [.assets (.save (updatedAsset dto entity) fun _ => false)]
      (.asset (.ok (updatedAsset dto entity)))

/-- The nodes of a deleted asset detach. -/
def deleteAssetProc (userId id : String) : OwnedProc :=
  findAssetProc (.user userId) id (.done assetNotFound) fun entity =>
    commitProc [.assets (.remove entity.id),
      .devices (.update (·.assetId = some entity.id) ({ · with assetId := none }))] removed

/-! ### Assessments -/

/-- The columns that `assessAsset` updates. -/
def updateHealth (assessed row : AssetRow) : AssetRow :=
  { row with
    healthIndex := assessed.healthIndex
    healthStatus := assessed.healthStatus
    healthAssessedAt := assessed.healthAssessedAt }

def saveHealth (assessed : AssetRow) : OwnedWrite :=
  .assets (.update (·.id = assessed.id) (updateHealth assessed))

/-- Not in a transaction. -/
def getAssessmentProc (inputs : HealthInputs) (scope : AccessScope) (id : String) : OwnedProc :=
  findAssetProc scope id (.assessment assetNotFound) fun asset =>
    Proc.read .query (fun t => assessAsset inputs t.devices asset) >>= fun assessment =>
      commitProc [saveHealth assessment.1] (.assessment (.ok assessment.2))

def saveDevice (copy : DeviceEntity) : Write DeviceEntity String :=
  .save copy (·.deviceId = copy.deviceId)

/-- The device is saved and the asset assessed in one transaction, which sees the row that it has
saved. -/
def saveNodeProc (inputs : HealthInputs) (asset : AssetRow) (copy : DeviceEntity) : OwnedProc :=
  Proc.read .query
      (fun t => assessAsset inputs ((saveDevice copy).act DeviceEntity.id t.devices) asset) >>=
    fun assessment =>
      commitProc [.devices (saveDevice copy), saveHealth assessment.1]
        (.assessment (.ok assessment.2))

/-- The three calls on a node look the asset and the device up, and save the device. -/
def editNodeProc (inputs : HealthInputs) (userId assetId deviceId : String)
    (isNode : AssetRow → DeviceEntity → Bool) (edit : AssetRow → DeviceEntity → DeviceEntity) :
    OwnedProc :=
  findAssetProc (.user userId) assetId (.assessment assetNotFound) fun asset =>
    Proc.read .query
        (fun t => (deviceTable.findOne t.devices (.user userId) deviceId).filter (isNode asset)) >>=
      goOn (.assessment deviceNotFound) fun device => saveNodeProc inputs asset (edit asset device)

def attachNodeProc (inputs : HealthInputs) (userId assetId deviceId : String)
    (healthWeight : Option Rat) : OwnedProc :=
  editNodeProc inputs userId assetId deviceId (fun _ _ => true)
    fun asset => attachedTo asset.entity healthWeight

def updateNodeWeightProc (inputs : HealthInputs) (userId assetId deviceId : String)
    (healthWeight : Rat) : OwnedProc :=
  editNodeProc inputs userId assetId deviceId (fun asset device => device.assetId = some asset.id)
    fun _ device => { device with healthWeight := healthWeight }

def detachNodeProc (inputs : HealthInputs) (userId assetId deviceId : String) : OwnedProc :=
  editNodeProc inputs userId assetId deviceId (fun asset device => device.assetId = some asset.id)
    fun _ device => { device with assetId := none }

/-! ### Devices -/

def getUserDevicesProc (joinOrder : DeviceEntity → DeviceEntity → Bool) (scope : AccessScope)
    (order : Option Order) (page : PageOptions) : OwnedProc :=
  paginateProc (getUserDevices joinOrder scope order) id (·.devices) page .devices

def getDeviceProc (scope : AccessScope) (id : String) : OwnedProc :=
  findProc deviceTable (·.devices) scope id (.device deviceNotFound) fun entity =>
    pure (.device (.ok entity))

/-- The rest of `registerDevice`, after the look-up of the template. At the end it also deletes
the sighting of the device, if there is one, from the table of unclaimed devices. -/
def registerTemplated (id : String) (now : Date) (userId : String) (factoryId : Option String)
    (dto : RegisterDeviceDto) : Option DeviceTemplateEntity → OwnedProc
  | none => pure (.device (.fail .notFound "error.deviceTemplateNotFound"))
  | some template =>
    if template.isActive = false then
      pure (.device (.fail .badRequest "error.deviceTemplateInactive"))
    else
      Proc.read .query (fun t => t.devices.any (·.deviceId = dto.deviceId)) >>= fun
        | true => pure (.device (.fail .badRequest "error.deviceAlreadyRegistered"))
        | false =>
          let entity := createdDevice id now userId factoryId dto
          commitProc
            [.devices (.insert entity fun row => row.id = id ∨ row.deviceId = dto.deviceId)]
            (.device (.ok entity))

def registerDeviceProc (templates : List DeviceTemplateEntity) (id : String) (now : Date)
    (userId : String) (factoryId : Option String) (dto : RegisterDeviceDto) : OwnedProc :=
  registerTemplated id now userId factoryId dto (findTemplate templates dto.templateId)

def updateDeviceConfigProc (userId id : String) (dto : UpdateDeviceConfigDto) : OwnedProc :=
  findProc deviceTable (·.devices) (.user userId) id (.device deviceNotFound) fun device =>
    commitProc [.devices (saveDevice (applyConfigDto dto device))]
      (.device (.ok (applyConfigDto dto device)))

def deleteDeviceProc (userId id : String) : OwnedProc :=
  findProc deviceTable (·.devices) (.user userId) id (.done deviceNotFound) fun entity =>
    commitProc [.devices (.remove entity.id)] removed

/-! ### Dashboards -/

def getUserDashboardsProc (scope : AccessScope) : OwnedProc :=
  Proc.read .query fun t => .dashboards (DashboardEditor.getUserDashboards scope t.dashboards)

def getDashboardProc (scope : AccessScope) (id : String) : OwnedProc :=
  findProc dashboardTable (·.dashboards) scope id (.dashboard dashboardNotFound) fun entity =>
    pure (.dashboard (.ok entity))

def createDashboardProc (id userId : String) (factoryId : Option String) (dto : SaveDashboardDto) :
    OwnedProc :=
  let entity := createdDashboard id userId factoryId dto
  commitProc [.dashboards (.insert entity (·.id = id))] (.dashboard (.ok entity))

def updateDashboardProc (userId id : String) (dto : SaveDashboardDto) : OwnedProc :=
  findProc dashboardTable (·.dashboards) (.user userId) id (.dashboard dashboardNotFound)
    fun entity =>
      commitProc [.dashboards (.save (DashboardEditor.updatedDashboard dto entity) fun _ => false)]
        (.dashboard (.ok (DashboardEditor.updatedDashboard dto entity)))

def deleteDashboardProc (userId id : String) : OwnedProc :=
  findProc dashboardTable (·.dashboards) (.user userId) id (.done dashboardNotFound) fun entity =>
    commitProc [.dashboards (.remove entity.id)] removed

/-! ### Requests -/

inductive OwnedCall where
  | getAssets (order : Option Order) (page : PageOptions)
  | getAsset (id : String)
  | createAsset (id : String) (now : Date) (dto : CreateAssetDto)
  | updateAsset (id : String) (dto : UpdateAssetDto)
  | deleteAsset (id : String)
  | getAssetHealth (inputs : HealthInputs) (id : String)
  | attachNode (inputs : HealthInputs) (assetId deviceId : String) (healthWeight : Option Rat)
  | updateNodeWeight (inputs : HealthInputs) (assetId deviceId : String) (healthWeight : Rat)
  | detachNode (inputs : HealthInputs) (assetId deviceId : String)
  | getDevices (joinOrder : DeviceEntity → DeviceEntity → Bool) (order : Option Order)
      (page : PageOptions)
  | getDevice (id : String)
  | registerDevice (templates : List DeviceTemplateEntity) (id : String) (now : Date)
      (dto : RegisterDeviceDto)
  | updateDeviceConfig (id : String) (dto : UpdateDeviceConfigDto)
  | deleteDevice (id : String)
  | getDashboards
  | getDashboard (id : String)
  | createDashboard (id : String) (dto : SaveDashboardDto)
  | updateDashboard (id : String) (dto : SaveDashboardDto)
  | deleteDashboard (id : String)

namespace OwnedCall

/-- `@Auth` of the controllers lets guests through. -/
def forGuests : OwnedCall → Bool
  | getAssets .. | getAsset _ | getAssetHealth .. | getDevices .. | getDevice _ | getDashboards
  | getDashboard _ => true
  | createAsset .. | updateAsset .. | deleteAsset _ | attachNode .. | updateNodeWeight ..
  | detachNode .. | registerDevice .. | updateDeviceConfig .. | deleteDevice _
  | createDashboard .. | updateDashboard .. | deleteDashboard _ => false

def proc (user : UserEntity) : OwnedCall → OwnedProc
  | getAssets order page => getAssetsProc (scopeOf user) order page
  | getAsset id => getAssetProc (scopeOf user) id
  | createAsset id now dto => createAssetProc id now user.id user.factoryId dto
  | updateAsset id dto => updateAssetProc user.id id dto
  | deleteAsset id => deleteAssetProc user.id id
  | getAssetHealth inputs id => getAssessmentProc inputs (scopeOf user) id
  | attachNode inputs assetId deviceId healthWeight =>
    attachNodeProc inputs user.id assetId deviceId healthWeight
  | updateNodeWeight inputs assetId deviceId healthWeight =>
    updateNodeWeightProc inputs user.id assetId deviceId healthWeight
  | detachNode inputs assetId deviceId => detachNodeProc inputs user.id assetId deviceId
  | getDevices joinOrder order page => getUserDevicesProc joinOrder (scopeOf user) order page
  | getDevice id => getDeviceProc (scopeOf user) id
  | registerDevice templates id now dto =>
    registerDeviceProc templates id now user.id user.factoryId dto
  | updateDeviceConfig id dto => updateDeviceConfigProc user.id id dto
  | deleteDevice id => deleteDeviceProc user.id id
  | getDashboards => getUserDashboardsProc (scopeOf user)
  | getDashboard id => getDashboardProc (scopeOf user) id
  | createDashboard id dto => createDashboardProc id user.id user.factoryId dto
  | updateDashboard id dto => updateDashboardProc user.id id dto
  | deleteDashboard id => deleteDashboardProc user.id id

end OwnedCall

/-- A call with the account that makes it. -/
structure OwnedRequest where
  user : UserEntity
  call : OwnedCall

def OwnedRequest.proc (request : OwnedRequest) : OwnedProc :=
  if request.user.role = .guest ∧ request.call.forGuests = false then pure .forbidden
  else request.call.proc request.user

abbrev OwnedSys (ι : Type) := Sys ι OwnedTables OwnedStep OwnedAnswer

/-- Requests that have not begun. -/
def ownedRequests {ι : Type} (tables : OwnedTables) (requests : ι → OwnedRequest) : OwnedSys ι :=
  ⟨tables, fun i => (requests i).proc⟩

end AiotCloud
