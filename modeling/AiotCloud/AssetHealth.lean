import AiotCloud.Lib.Run
import AiotCloud.Lifecycle
import AiotCloud.OwnerAccess

/-!
# Health of an asset

`AssetHealthService`, which scores an asset by its age and by the devices attached to it, and
the calls that attach, detach and delete them. A call assesses the asset that it names.

1. `assessAsset_told`: an assessment has an index exactly if there are nodes.
2. `Fleet.Inv.step`, `Fleet.Inv.keepsNodes`: which calls keep that so.
3. `asset_health_iff`: along a run.
-/

namespace AiotCloud

inductive AssetHealthStatus where
  | healthy
  | warning
  | critical
  | unknown
deriving DecidableEq, Repr

/-- An asset with its creation time and its last assessment. -/
structure AssetRow where
  entity : AssetEntity
  createdAt : Date
  healthIndex : Option Int := none
  healthStatus : AssetHealthStatus := .unknown
  healthAssessedAt : Option Date := none
deriving DecidableEq, Repr

abbrev AssetRow.id (row : AssetRow) : String := row.entity.id

/-! ## Assessment -/

namespace AssetHealth

def ageWeight : Rat := 2 / 10
def connectivityWeight : Rat := 3 / 10
def telemetryWeight : Rat := 5 / 10

def statusScoreThresholds : List (AssetHealthStatus × Int) := [(.healthy, 80), (.warning, 50)]

structure AssetHealthNodeBreakdown where
  deviceId : String
  name : String
  status : DeviceStatus
  healthWeight : Rat
  breaches : Nat
  totalChecks : Nat
deriving DecidableEq, Repr

/-- A factor has the fields of a lifecycle factor. -/
abbrev AssetHealthFactor := DeviceLifecycleFactor

structure AssetHealthAssessmentDto where
  assetId : String
  status : AssetHealthStatus
  score : Option Int
  installedAt : Date
  expectedLifespanMonths : Int
  ageMonths : Rat
  remainingLifespanMonths : Rat
  factors : List AssetHealthFactor
  nodes : List AssetHealthNodeBreakdown
  assessedAt : Date
deriving DecidableEq, Repr

/-- What an assessment reads beside the asset and the devices. -/
structure HealthInputs where
  now : Date
  templates : List DeviceTemplateEntity := []
  records : List DeviceTelemetryEntity := []

def nodeBreakdown (inputs : HealthInputs) (node : DeviceEntity) : AssetHealthNodeBreakdown :=
  let counts := getTelemetryBreachCounts inputs.now
    (findTemplate inputs.templates node.templateId) inputs.records node
  { deviceId := node.id
    name := node.name
    status := node.status
    healthWeight := node.healthWeight
    breaches := counts.breaches
    totalChecks := counts.totalChecks }

/-- The sum over the nodes, each by its weight. -/
def weightedSum {α : Type} (weight value : α → Rat) (nodes : List α) : Rat :=
  (nodes.map fun node => value node * weight node).sum

/-- The mean of the nodes' scores, if any of them counts. -/
def connectivityScore (now : Date) (nodes : List DeviceEntity) : Int :=
  let total := (nodes.map (·.healthWeight)).sum
  let sum := weightedSum (·.healthWeight)
    (fun node => computeConnectivityScore node.status node.lastSeenAt now) nodes
  if 0 < total then jsRound (clamp (sum / total) 0 100) else 100

def telemetryScore (breakdown : List AssetHealthNodeBreakdown) : Int :=
  let breaches := weightedSum (·.healthWeight) (·.breaches) breakdown
  let checks := weightedSum (·.healthWeight) (·.totalChecks) breakdown
  if 0 < checks then jsRound (clamp (100 * (1 - breaches / checks)) 0 100) else 100

def computeFactors (inputs : HealthInputs) (nodes : List DeviceEntity) (ageMonths : Rat)
    (expectedLifespanMonths : Int) : List AssetHealthFactor × List AssetHealthNodeBreakdown :=
  let ageFactor : AssetHealthFactor :=
    { key := "age", label := "Asset age", weight := ageWeight
      score := computeAgeScore ageMonths expectedLifespanMonths }
  let connectivity (score : Int) : AssetHealthFactor :=
    { key := "connectivity", label := "Connectivity", weight := connectivityWeight, score := score }
  let telemetry (score : Int) : AssetHealthFactor :=
    { key := "telemetryHealth", label := "Telemetry health", weight := telemetryWeight
      score := score }
  if nodes = [] then ([ageFactor, connectivity 100, telemetry 100], [])
  else
    let breakdown := nodes.map (nodeBreakdown inputs)
    ([ageFactor, connectivity (connectivityScore inputs.now nodes),
      telemetry (telemetryScore breakdown)], breakdown)

def deriveStatus (nodeCount : Nat) : Option Int → AssetHealthStatus
  | none => .unknown
  | some score =>
    if nodeCount = 0 then .unknown
    else ((statusScoreThresholds.find? fun threshold => threshold.2 ≤ score).map (·.1)).getD
      .critical

/-- `find({ where: { assetId } })`. -/
def nodesOf (assetId : String) (devices : List DeviceEntity) : List DeviceEntity :=
  devices.filter (·.assetId = some assetId)

/-- The row after an assessment, and its answer. -/
def assessAsset (inputs : HealthInputs) (devices : List DeviceEntity) (row : AssetRow) :
    AssetRow × AssetHealthAssessmentDto :=
  let installedAt := row.entity.installedAt.getD row.createdAt
  let expectedLifespanMonths :=
    row.entity.expectedLifespanMonths.getD defaultExpectedLifespanMonths
  let ageMonths := (inputs.now - installedAt : Rat) / msPerDay / daysPerMonth
  let nodes := nodesOf row.id devices
  let (factors, breakdown) := computeFactors inputs nodes ageMonths expectedLifespanMonths
  let score := if nodes = [] then none else some (overallScore factors)
  let status := deriveStatus nodes.length score
  ({ row with healthIndex := score, healthStatus := status, healthAssessedAt := some inputs.now },
    { assetId := row.id
      status := status
      score := score
      installedAt := installedAt
      expectedLifespanMonths := expectedLifespanMonths
      ageMonths := roundTo (max 0 ageMonths) 1
      remainingLifespanMonths := roundTo (expectedLifespanMonths - ageMonths) 1
      factors := factors
      nodes := breakdown
      assessedAt := inputs.now })

end AssetHealth

/-! ## Calls -/

open AssetHealth

structure Fleet where
  assets : List AssetRow := []
  devices : List DeviceEntity := []

inductive AssetCall where
  | registerDevice (userId id : String) (factoryId : Option String) (now : Date)
      (templates : List DeviceTemplateEntity) (dto : RegisterDeviceDto)
  | createAsset (userId id : String) (factoryId : Option String) (now : Date)
      (dto : CreateAssetDto)
  | attachNode (inputs : HealthInputs) (userId assetId deviceId : String)
      (healthWeight : Option Rat)
  | updateNodeWeight (inputs : HealthInputs) (userId assetId deviceId : String)
      (healthWeight : Rat)
  | detachNode (inputs : HealthInputs) (userId assetId deviceId : String)
  | deleteDevice (userId id : String)
  | deleteAsset (userId id : String)
  | assessAllAssets (inputs : String → HealthInputs)

namespace Fleet

/-- `findOneBy({ id, userId })`. -/
def findAsset (s : Fleet) (userId id : String) : Option AssetRow :=
  s.assets.find? fun row => row.id = id ∧ row.entity.userId = userId

/-- `findOneBy({ id, userId, assetId })`. -/
def findNodeOf (s : Fleet) (userId id : String) (row : Option AssetRow) : Option DeviceEntity :=
  row.bind fun row => (findOwnedDevice s.devices userId id).bind (findNode row.entity)

/-- The device is written and the asset assessed. An error leaves both. -/
def saveNode (s : Fleet) (inputs : HealthInputs) (row : Option AssetRow)
    (device : Option DeviceEntity) (write : Except Failure Persist) : Fleet :=
  match row, device, write with
  | some row, some device, .ok write =>
    let devices := Keyed.modify DeviceEntity.id device.id (fun old => write.commit old) s.devices
    { assets :=
        Keyed.modify AssetRow.id row.id (fun old => (assessAsset inputs devices old).1) s.assets
      devices := devices }
  | _, _, _ => s

/-- The devices of a deleted asset, `ON DELETE SET NULL`. -/
def detachAll (assetId : String) (devices : List DeviceEntity) : List DeviceEntity :=
  devices.map fun device =>
    if device.assetId = some assetId then { device with assetId := none } else device

def step (s : Fleet) : AssetCall → Fleet
  | .registerDevice userId id factoryId now templates dto =>
    { s with devices := afterRegister id now userId factoryId dto templates s.devices }
  | .createAsset userId id factoryId now dto =>
    if ∀ row ∈ s.assets, row.id ≠ id then
      { s with
        assets :=
          s.assets ++ [{ entity := createdAsset id userId factoryId dto, createdAt := now }] }
    else s
  | .attachNode inputs userId assetId deviceId healthWeight =>
    let row := s.findAsset userId assetId
    let device := findOwnedDevice s.devices userId deviceId
    s.saveNode inputs row device
      (AiotCloud.attachNode healthWeight (row.map (·.entity)) device)
  | .updateNodeWeight inputs userId assetId deviceId healthWeight =>
    let row := s.findAsset userId assetId
    let device := s.findNodeOf userId deviceId row
    s.saveNode inputs row device
      (AiotCloud.updateNodeWeight healthWeight (row.map (·.entity)) device)
  | .detachNode inputs userId assetId deviceId =>
    let row := s.findAsset userId assetId
    let device := s.findNodeOf userId deviceId row
    s.saveNode inputs row device (AiotCloud.detachNode (row.map (·.entity)) device)
  | .deleteDevice userId id => { s with devices := afterDelete userId id s.devices }
  | .deleteAsset userId id =>
    match s.findAsset userId id with
    | none => s
    | some row =>
      { assets := Keyed.remove AssetRow.id row.id s.assets
        devices := detachAll row.id s.devices }
  | .assessAllAssets inputs =>
    { s with assets := s.assets.map fun row => (assessAsset (inputs row.id) s.devices row).1 }

end Fleet

/-! ## Told health -/

/-- Some device is attached to the asset. -/
def Attached (devices : List DeviceEntity) (assetId : String) : Prop :=
  ∃ device ∈ devices, device.assetId = some assetId

/-- Some device other than this one is. -/
def AttachedBeside (device : DeviceEntity) (devices : List DeviceEntity) (assetId : String) :
    Prop :=
  ∃ other ∈ devices, other.id ≠ device.id ∧ other.assetId = some assetId

/-- An index is missing if and only if the status is unknown, and if and only if no device is
attached. -/
structure HealthTold (devices : List DeviceEntity) (row : AssetRow) : Prop where
  status : row.healthIndex = none ↔ row.healthStatus = .unknown
  nodes : row.healthIndex = none ↔ ¬ Attached devices row.id

def Fleet.AllTold (s : Fleet) : Prop := ∀ row ∈ s.assets, HealthTold s.devices row

/-- With the keys, and with the reference of a device to its asset. -/
structure Fleet.Inv (s : Fleet) : Prop where
  told : s.AllTold
  assetKeys : Keyed.Distinct AssetRow.id s.assets
  deviceKeys : Keys s.devices
  references : ∀ device ∈ s.devices, ∀ assetId, device.assetId = some assetId →
    ∃ row ∈ s.assets, row.id = assetId

theorem nodesOf_eq_nil_iff {assetId : String} {devices : List DeviceEntity} :
    nodesOf assetId devices = [] ↔ ¬ Attached devices assetId := by
  simp [nodesOf, Attached, List.filter_eq_nil_iff]

theorem deriveStatus_eq_unknown_iff {nodeCount : Nat} {score : Option Int}
    (nodes : score ≠ none → nodeCount ≠ 0) :
    deriveStatus nodeCount score = .unknown ↔ score = none := by
  cases score with
  | none => simp [deriveStatus]
  | some score =>
    have counted := nodes (by simp)
    simp only [deriveStatus, counted, if_false, reduceCtorEq, iff_false]
    by_cases healthy : 80 ≤ score
    · simp [statusScoreThresholds, healthy]
    · by_cases warning : 50 ≤ score <;> simp [statusScoreThresholds, healthy, warning]

/-- An assessment has an index and a status exactly if there are nodes. -/
theorem assessAsset_told (inputs : HealthInputs) (devices : List DeviceEntity) (row : AssetRow) :
    HealthTold devices (assessAsset inputs devices row).1 := by
  constructor
  · show _ = none ↔ deriveStatus _ _ = .unknown
    rw [deriveStatus_eq_unknown_iff]
    · rfl
    · intro some
      rw [List.length_eq_zero_iff.ne]
      intro none
      exact some (if_pos none)
  · show (if nodesOf row.id devices = [] then none else some _) = none ↔ _
    rw [ite_eq_left_iff]
    simp [nodesOf_eq_nil_iff, assessAsset]

theorem HealthTold.congr {devices devices' : List DeviceEntity} {row : AssetRow}
    (h : HealthTold devices row) (same : Attached devices' row.id ↔ Attached devices row.id) :
    HealthTold devices' row :=
  ⟨h.status, h.nodes.trans (not_congr same.symm)⟩

/-! ## Steps -/

theorem attached_iff_beside {devices : List DeviceEntity} (keys : Keys devices)
    {device : DeviceEntity} (hdevice : device ∈ devices) {assetId : String} :
    Attached devices assetId ↔
      device.assetId = some assetId ∨ AttachedBeside device devices assetId := by
  constructor
  · rintro ⟨other, hother, attached⟩
    by_cases same : other.id = device.id
    · exact .inl (keys.ids.eq_of_key hother hdevice same ▸ attached)
    · exact .inr ⟨other, hother, same, attached⟩
  · rintro (attached | ⟨other, hother, -, attached⟩)
    · exact ⟨device, hdevice, attached⟩
    · exact ⟨other, hother, attached⟩

theorem attached_modify_iff {devices : List DeviceEntity} {device saved : DeviceEntity}
    (hdevice : device ∈ devices) {assetId : String} :
    Attached (Keyed.modify DeviceEntity.id device.id (fun _ => saved) devices) assetId ↔
      saved.assetId = some assetId ∨ AttachedBeside device devices assetId := by
  simp only [Attached, Keyed.mem_modify_iff, AttachedBeside]
  constructor
  · rintro ⟨other, ⟨old, -, -, rfl⟩ | ⟨hother, different⟩, attached⟩
    · exact .inl attached
    · exact .inr ⟨other, hother, different, attached⟩
  · rintro (attached | ⟨other, hother, different, attached⟩)
    · exact ⟨saved, .inl ⟨device, hdevice, rfl, rfl⟩, attached⟩
    · exact ⟨other, .inr ⟨hother, different⟩, attached⟩

theorem attached_remove_iff {devices : List DeviceEntity} {device : DeviceEntity}
    {assetId : String} :
    Attached (Keyed.remove DeviceEntity.id device.id devices) assetId ↔
      AttachedBeside device devices assetId := by
  simp only [Attached, Keyed.mem_remove_iff, AttachedBeside, and_assoc]

theorem attached_detachAll_iff {devices : List DeviceEntity} {deleted assetId : String} :
    Attached (Fleet.detachAll deleted devices) assetId ↔
      assetId ≠ deleted ∧ Attached devices assetId := by
  simp only [Attached, Fleet.detachAll, List.mem_map]
  constructor
  · rintro ⟨_, ⟨old, hold, rfl⟩, attached⟩
    split at attached
    · cases attached
    · next kept =>
      exact ⟨fun same => kept (same ▸ attached), old, hold, attached⟩
  · rintro ⟨other, old, hold, attached⟩
    have kept : ¬ old.assetId = some deleted := fun same =>
      other (Option.some_inj.mp (attached.symm.trans same))
    exact ⟨old, ⟨old, hold, if_neg kept⟩, attached⟩

namespace Fleet

variable {s : Fleet}

theorem findAsset_eq_some {userId id : String} {row : AssetRow}
    (h : s.findAsset userId id = some row) : row ∈ s.assets ∧ row.id = id := by
  have found := List.find?_some h
  simp only [decide_eq_true_eq] at found
  exact ⟨List.mem_of_find?_eq_some h, found.1⟩

theorem findNodeOf_eq_some {userId id : String} {row : AssetRow} {device : DeviceEntity}
    (h : s.findNodeOf userId id (some row) = some device) :
    findOwnedDevice s.devices userId id = some device ∧ device.assetId = some row.id := by
  have chained : (findOwnedDevice s.devices userId id).bind (findNode row.entity) = some device := h
  obtain ⟨owned, howned, found⟩ := Option.bind_eq_some_iff.mp chained
  unfold findNode at found
  split at found
  · next node =>
    cases found
    exact ⟨howned, node.2⟩
  · cases found

/-- A device is saved, attached to the assessed asset or to none, and no other asset loses its
last one. -/
theorem Inv.saveNode (h : s.Inv) (inputs : HealthInputs) {row : AssetRow} (hrow : row ∈ s.assets)
    {device saved : DeviceEntity} (hdevice : device ∈ s.devices) (id : saved.id = device.id)
    (deviceId : saved.deviceId = device.deviceId)
    (assetId : saved.assetId = some row.id ∨ saved.assetId = none)
    (leaves : ∀ other, device.assetId = some other → other ≠ row.id →
      AttachedBeside device s.devices other) :
    (s.saveNode inputs (some row) (some device) (.ok (.save saved))).Inv := by
  have owner {old : DeviceEntity} (hold : old ∈ s.devices) (same : old.id = device.id) :
      old = device := h.deviceKeys.ids.eq_of_key hold hdevice same
  refine ⟨?_, ?_, ?_, ?_⟩
  · intro r hr
    rcases Keyed.mem_modify_iff.mp hr with ⟨old, -, -, rfl⟩ | ⟨hr, different⟩
    · exact assessAsset_told _ _ _
    · refine (h.told r hr).congr ?_
      have elsewhere : saved.assetId ≠ some r.id := by
        intro same
        rcases assetId with attached | detached
        · exact different (Option.some_inj.mp (same.symm.trans attached))
        · rw [detached] at same
          cases same
      show Attached (Keyed.modify DeviceEntity.id device.id (fun _ => saved) s.devices) r.id ↔ _
      rw [attached_modify_iff hdevice, attached_iff_beside h.deviceKeys hdevice,
        or_iff_right elsewhere]
      exact ⟨.inr, fun attached => attached.elim (fun same => leaves r.id same different)
        fun beside => beside⟩
  · exact h.assetKeys.modify fun _ _ _ => rfl
  · refine h.deviceKeys.modify fun old hold same => ?_
    rw [owner hold same]
    exact ⟨id, deviceId⟩
  · intro d hd a attached
    have kept : ∃ r ∈ s.assets, r.id = a := by
      rcases Keyed.mem_modify_iff.mp hd with ⟨old, -, -, rfl⟩ | ⟨hd, -⟩
      · rcases assetId with here | detached
        · exact ⟨row, hrow, Option.some_inj.mp (here.symm.trans attached)⟩
        · rw [attached] at detached
          cases detached
      · exact h.references d hd a attached
    obtain ⟨r, hr, rfl⟩ := kept
    by_cases same : r.id = row.id
    · exact ⟨_, Keyed.mem_modify_iff.mpr (.inl ⟨r, hr, same, rfl⟩), rfl⟩
    · exact ⟨r, Keyed.mem_modify_iff.mpr (.inr ⟨hr, same⟩), rfl⟩

/-- The call takes the last device from no asset but the one that it names. -/
def KeepsNodes (s : Fleet) : AssetCall → Prop
  | .attachNode _ userId assetId deviceId _ =>
    ∀ row, s.findAsset userId assetId = some row →
      ∀ device, findOwnedDevice s.devices userId deviceId = some device →
        ∀ other, device.assetId = some other → other ≠ assetId →
          AttachedBeside device s.devices other
  | .deleteDevice userId id =>
    ∀ device, findOwnedDevice s.devices userId id = some device →
      ∀ other, device.assetId = some other → AttachedBeside device s.devices other
  | _ => True

theorem Inv.mem_owned (h : s.Inv) {userId id : String} {device : DeviceEntity}
    (found : findOwnedDevice s.devices userId id = some device) : device ∈ s.devices :=
  ((findInScope_eq_some_iff h.deviceKeys).mp found).1

theorem Inv.register (h : s.Inv) (userId id : String) (factoryId : Option String) (now : Date)
    (templates : List DeviceTemplateEntity) (dto : RegisterDeviceDto) :
    (s.step (.registerDevice userId id factoryId now templates dto)).Inv := by
  have keys := h.deviceKeys.afterRegister id now userId factoryId dto templates
  rcases afterRegister_cases id now userId factoryId dto templates s.devices with
    same | ⟨row, rfl, -, -, inserted⟩
  · show Inv { s with devices := afterRegister id now userId factoryId dto templates s.devices }
    rw [same]
    exact h
  · refine ⟨?_, h.assetKeys, keys, ?_⟩
    · intro r hr
      refine (h.told r hr).congr ?_
      show Attached (afterRegister id now userId factoryId dto templates s.devices) r.id ↔ _
      rw [inserted]
      simp [Attached, or_and_right, exists_or, createdDevice]
    · intro d hd a attached
      have hd : d ∈ afterRegister id now userId factoryId dto templates s.devices := hd
      rw [inserted] at hd
      rcases List.mem_append.mp hd with hd | hd
      · exact h.references d hd a attached
      · rw [List.mem_singleton.mp hd] at attached
        cases attached

theorem Inv.createAsset (h : s.Inv) (userId id : String) (factoryId : Option String) (now : Date)
    (dto : CreateAssetDto) : (s.step (.createAsset userId id factoryId now dto)).Inv := by
  by_cases fresh : ∀ row ∈ s.assets, row.id ≠ id
  · have inserted : s.step (.createAsset userId id factoryId now dto) = { s with
        assets :=
          s.assets ++ [{ entity := createdAsset id userId factoryId dto, createdAt := now }] } :=
      if_pos fresh
    rw [inserted]
    refine ⟨?_, h.assetKeys.concat fresh, h.deviceKeys, ?_⟩
    · intro r hr
      rcases List.mem_append.mp hr with hr | hr
      · exact h.told r hr
      · rw [List.mem_singleton.mp hr]
        refine ⟨by simp, iff_of_true rfl ?_⟩
        rintro ⟨device, hdevice, attached⟩
        obtain ⟨row, hrow, same⟩ := h.references device hdevice _ attached
        exact fresh row hrow same
    · intro d hd a attached
      obtain ⟨row, hrow, same⟩ := h.references d hd a attached
      exact ⟨row, List.mem_append_left _ hrow, same⟩
  · rw [show s.step (.createAsset userId id factoryId now dto) = s from if_neg fresh]
    exact h

theorem Inv.attachNode (h : s.Inv) (inputs : HealthInputs) (userId assetId deviceId : String)
    (healthWeight : Option Rat)
    (ok : s.KeepsNodes (.attachNode inputs userId assetId deviceId healthWeight)) :
    (s.step (.attachNode inputs userId assetId deviceId healthWeight)).Inv := by
  unfold step
  dsimp only
  cases hrow : s.findAsset userId assetId with
  | none => exact h
  | some row =>
    cases hdevice : findOwnedDevice s.devices userId deviceId with
    | none => exact h
    | some device =>
      obtain ⟨member, key⟩ := findAsset_eq_some hrow
      exact h.saveNode inputs member (h.mem_owned hdevice) rfl rfl (.inl rfl)
        fun other attached different =>
          ok row hrow device hdevice other attached (key ▸ different)

/-- A device that is saved as a node of the asset or as none of its nodes any more. -/
theorem Inv.saveOwn (h : s.Inv) (inputs : HealthInputs) {userId assetId deviceId : String}
    {row : AssetRow} (hrow : s.findAsset userId assetId = some row) {device saved : DeviceEntity}
    (hdevice : s.findNodeOf userId deviceId (some row) = some device) (id : saved.id = device.id)
    (physical : saved.deviceId = device.deviceId)
    (node : saved.assetId = some row.id ∨ saved.assetId = none) :
    (s.saveNode inputs (some row) (some device) (.ok (.save saved))).Inv := by
  obtain ⟨owned, attached⟩ := findNodeOf_eq_some hdevice
  exact h.saveNode inputs (findAsset_eq_some hrow).1 (h.mem_owned owned) id physical node
    fun other elsewhere different =>
      absurd (Option.some_inj.mp (elsewhere.symm.trans attached)) different

theorem Inv.updateNodeWeight (h : s.Inv) (inputs : HealthInputs)
    (userId assetId deviceId : String) (healthWeight : Rat) :
    (s.step (.updateNodeWeight inputs userId assetId deviceId healthWeight)).Inv := by
  unfold step
  dsimp only
  cases hrow : s.findAsset userId assetId with
  | none => exact h
  | some row =>
    cases hdevice : s.findNodeOf userId deviceId (some row) with
    | none => exact h
    | some device =>
      exact h.saveOwn inputs hrow hdevice rfl rfl (.inl (findNodeOf_eq_some hdevice).2)

theorem Inv.detachNode (h : s.Inv) (inputs : HealthInputs) (userId assetId deviceId : String) :
    (s.step (.detachNode inputs userId assetId deviceId)).Inv := by
  unfold step
  dsimp only
  cases hrow : s.findAsset userId assetId with
  | none => exact h
  | some row =>
    cases hdevice : s.findNodeOf userId deviceId (some row) with
    | none => exact h
    | some device => exact h.saveOwn inputs hrow hdevice rfl rfl (.inr rfl)

theorem Inv.deleteDevice (h : s.Inv) (userId id : String)
    (ok : s.KeepsNodes (.deleteDevice userId id)) : (s.step (.deleteDevice userId id)).Inv := by
  show Inv { s with devices := afterDelete userId id s.devices }
  cases hdevice : findOwnedDevice s.devices userId id with
  | none => rwa [afterDelete_of_none hdevice]
  | some device =>
    rw [afterDelete_of_some hdevice]
    refine ⟨?_, h.assetKeys, h.deviceKeys.remove device.id, ?_⟩
    · intro r hr
      refine (h.told r hr).congr ?_
      show Attached (Keyed.remove DeviceEntity.id device.id s.devices) r.id ↔ _
      rw [attached_remove_iff, attached_iff_beside h.deviceKeys (h.mem_owned hdevice)]
      exact ⟨.inr, fun attached => attached.elim (ok device hdevice r.id) fun beside => beside⟩
    · intro d hd a attached
      exact h.references d (Keyed.mem_remove_iff.mp hd).1 a attached

theorem detached_keys (deleted : String) (device : DeviceEntity) :
    let row := if device.assetId = some deleted then { device with assetId := none } else device
    row.id = device.id ∧ row.deviceId = device.deviceId := by
  dsimp only
  split <;> exact ⟨rfl, rfl⟩

theorem Inv.deleteAsset (h : s.Inv) (userId id : String) :
    (s.step (.deleteAsset userId id)).Inv := by
  unfold step
  dsimp only
  cases hrow : s.findAsset userId id with
  | none => exact h
  | some row =>
    refine ⟨?_, h.assetKeys.remove, ?_, ?_⟩
    · intro r hr
      obtain ⟨hr, different⟩ := Keyed.mem_remove_iff.mp hr
      refine (h.told r hr).congr ?_
      show Attached (detachAll row.id s.devices) r.id ↔ _
      rw [attached_detachAll_iff, and_iff_right different]
    · exact ⟨h.deviceKeys.ids.map fun d => (detached_keys row.id d).1,
        h.deviceKeys.deviceIds.map fun d => (detached_keys row.id d).2⟩
    · intro d hd a attached
      have kept : a ≠ row.id ∧ Attached s.devices a := attached_detachAll_iff.mp ⟨d, hd, attached⟩
      obtain ⟨different, device, hdevice, attached⟩ := kept
      obtain ⟨r, hr, rfl⟩ := h.references device hdevice a attached
      exact ⟨r, Keyed.mem_remove_iff.mpr ⟨hr, different⟩, rfl⟩

theorem Inv.assessAllAssets (h : s.Inv) (inputs : String → HealthInputs) :
    (s.step (.assessAllAssets inputs)).Inv := by
  refine ⟨?_, ?_, h.deviceKeys, ?_⟩
  · intro r hr
    obtain ⟨row, -, rfl⟩ := List.mem_map.mp hr
    exact assessAsset_told _ _ _
  · exact h.assetKeys.map fun _ => rfl
  · intro d hd a attached
    obtain ⟨row, hrow, same⟩ := h.references d hd a attached
    exact ⟨_, List.mem_map_of_mem hrow, same⟩

theorem Inv.step (h : s.Inv) (call : AssetCall) (ok : s.KeepsNodes call) : (s.step call).Inv := by
  cases call with
  | registerDevice userId id factoryId now templates dto =>
    exact h.register userId id factoryId now templates dto
  | createAsset userId id factoryId now dto => exact h.createAsset userId id factoryId now dto
  | attachNode inputs userId assetId deviceId healthWeight =>
    exact h.attachNode inputs userId assetId deviceId healthWeight ok
  | updateNodeWeight inputs userId assetId deviceId healthWeight =>
    exact h.updateNodeWeight inputs userId assetId deviceId healthWeight
  | detachNode inputs userId assetId deviceId =>
    exact h.detachNode inputs userId assetId deviceId
  | deleteDevice userId id => exact h.deleteDevice userId id ok
  | deleteAsset userId id => exact h.deleteAsset userId id
  | assessAllAssets inputs => exact h.assessAllAssets inputs

/-- An asset whose row a step leaves as it is, and which has a node before it, must have one
after it. -/
theorem Inv.attached_of_told (h : s.Inv) {s' : Fleet} (after : s'.AllTold) {row : AssetRow}
    (before : row ∈ s.assets) (left : row ∈ s'.assets) (attached : Attached s.devices row.id) :
    Attached s'.devices row.id := by
  by_contra empty
  exact (h.told row before).nodes.mp ((after row left).nodes.mpr empty) attached

/-- Where the last device leaves another asset, its index stays behind. -/
theorem Inv.keepsNodes (h : s.Inv) {call : AssetCall} (after : (s.step call).AllTold) :
    s.KeepsNodes call := by
  cases call with
  | attachNode inputs userId assetId deviceId healthWeight =>
    intro row hrow device hdevice other attached different
    obtain ⟨member, key⟩ := findAsset_eq_some hrow
    have hmem := h.mem_owned hdevice
    obtain ⟨left, hleft, rfl⟩ := h.references device hmem other attached
    unfold Fleet.step at after
    dsimp only at after
    rw [hrow, hdevice] at after
    have kept := h.attached_of_told after hleft
      (Keyed.mem_modify_iff.mpr (.inr ⟨hleft, key ▸ different⟩)) ⟨device, hmem, attached⟩
    refine ((attached_modify_iff hmem).mp kept).resolve_left fun same => different ?_
    rw [← key]
    exact (Option.some_inj.mp same).symm
  | deleteDevice userId id =>
    intro device hdevice other attached
    have hmem := h.mem_owned hdevice
    obtain ⟨left, hleft, rfl⟩ := h.references device hmem other attached
    have after : AllTold { s with devices := afterDelete userId id s.devices } := after
    rw [afterDelete_of_some hdevice] at after
    have kept := h.attached_of_told after hleft hleft ⟨device, hmem, attached⟩
    exact attached_remove_iff.mp kept
  | _ => trivial

theorem inv_empty : Inv {} where
  told _ h := absurd h List.not_mem_nil
  assetKeys := List.nodup_nil
  deviceKeys := ⟨List.nodup_nil, List.nodup_nil⟩
  references _ h := absurd h List.not_mem_nil

end Fleet

/-- The health of every asset is told after each call of a run from the empty database exactly
if no call takes the last device from an asset that it does not name. -/
theorem asset_health_iff (calls : List AssetCall) :
    (∀ pre, pre <+: calls → (Run.exec Fleet.step {} pre).AllTold) ↔
      Run.Meets Fleet.step Fleet.KeepsNodes {} calls := by
  have implies : ∀ s : Fleet, s.Inv → s.AllTold := fun s h => h.told
  exact Run.always_iff_meets implies (fun s call h ok => h.step call ok)
    (fun s call h after => h.keepsNodes after) Fleet.inv_empty calls

/-! ## A device that moves -/

def motorTemplate : DeviceTemplateEntity :=
  { id := "t1", name := "Sensor", type := .sensorNode, telemetrySchema := none
    actionSchema := none, isActive := true }

/-- One sensor is attached to an asset and then to another one. -/
def movedSensor : List AssetCall :=
  [.registerDevice "u1" "d1" none 0 [motorTemplate]
    { deviceId := "sensor-1", templateId := "t1", name := "Sensor", isActive := none },
    .createAsset "u1" "a1" none 0 { name := "Motor" },
    .createAsset "u1" "a2" none 0 { name := "Pump" },
    .attachNode { now := 0 } "u1" "a1" "d1" none,
    .attachNode { now := 0 } "u1" "a2" "d1" none]

/-- The asset that it left keeps its index. -/
theorem movedSensor_stale : ¬ (Run.exec Fleet.step {} movedSensor).AllTold := by
  intro told
  have stale : ∃ row ∈ (Run.exec Fleet.step {} movedSensor).assets, row.healthIndex ≠ none ∧
      ∀ device ∈ (Run.exec Fleet.step {} movedSensor).devices, device.assetId ≠ some row.id := by
    decide +kernel
  obtain ⟨row, hrow, index, nobody⟩ := stale
  exact index ((told row hrow).nodes.mpr fun ⟨device, hdevice, attached⟩ =>
    nobody device hdevice attached)

end AiotCloud
