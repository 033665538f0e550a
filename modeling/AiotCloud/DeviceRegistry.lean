import AiotCloud.BootConfig
import AiotCloud.Lib.Keyed

/-!
# Registered devices

The calls that insert, edit and remove the rows of `devices` and `device_templates`, and
the scope of rows an account may read. The database keeps the ids of devices and their
physical ids distinct (`Keys`).

* `Keys.concat`, `Keys.modify`, `Keys.remove`: the calls keep them so.
* `findInScope_eq_some_iff`: which row a call finds.
-/

namespace AiotCloud

/-! ## Access -/

inductive RoleType where
  | root
  | user
  | admin
  | guest
deriving DecidableEq, Repr

/-- The rows an account may read: a `where` clause, or `null`. -/
inductive AccessScope where
  | user (userId : String)
  | factory (factoryId : String)
  | unrestricted
deriving DecidableEq, Repr

/-- Of a user row, or of the claims of a token (`resolveScopeFromSocketData`). -/
def resolveAccessScope (userId : String) (role : RoleType) (factoryId : Option String) :
    AccessScope :=
  if role = .guest then .unrestricted
  else
    match factoryId.filter (· ≠ "") with
    | some factoryId => .factory factoryId
    | none => .user userId

def AccessScope.admits : AccessScope → DeviceEntity → Bool
  | .user userId, device => device.userId == userId
  | .factory factoryId, device => device.factoryId == some factoryId
  | .unrestricted, _ => true

/-- `findOne({ where: { id, ...scope } })`. -/
def findInScope (devices : List DeviceEntity) (scope : AccessScope) (id : String) :
    Option DeviceEntity :=
  devices.find? fun device => device.id = id ∧ scope.admits device

/-- `findOneBy({ id, userId })`. -/
def findOwnedDevice (devices : List DeviceEntity) (userId id : String) : Option DeviceEntity :=
  findInScope devices (.user userId) id

/-- `findOneBy({ deviceId })`. -/
def findByDeviceId (devices : List DeviceEntity) (deviceId : String) : Option DeviceEntity :=
  Keyed.find DeviceEntity.deviceId deviceId devices

/-- `findOneBy({ id })` on the templates, which is also how the `template` relation is
joined. -/
def findTemplate (templates : List DeviceTemplateEntity) (id : String) :
    Option DeviceTemplateEntity :=
  Keyed.find DeviceTemplateEntity.id id templates

/-! ## Registration -/

/-- The row that is inserted; the database generates `id`. -/
def createdDevice (id : String) (now : Date) (userId : String) (factoryId : Option String)
    (dto : RegisterDeviceDto) : DeviceEntity :=
  { id := id
    deviceId := dto.deviceId
    name := dto.name
    templateId := dto.templateId
    userId := userId
    factoryId := factoryId
    isActive := dto.isActive.getD true
    createdAt := now }

def registerDevice (id : String) (now : Date) (userId : String) (factoryId : Option String)
    (dto : RegisterDeviceDto) (templates : List DeviceTemplateEntity)
    (devices : List DeviceEntity) : ResponseCore DeviceEntity × Option DeviceEntity :=
  match findTemplate templates dto.templateId with
  | none => (.fail .notFound "error.deviceTemplateNotFound", none)
  | some template =>
    if template.isActive = false then (.fail .badRequest "error.deviceTemplateInactive", none)
    else
      match findByDeviceId devices dto.deviceId with
      | some _ => (.fail .badRequest "error.deviceAlreadyRegistered", none)
      | none =>
        let entity := createdDevice id now userId factoryId dto
        (.ok entity, some entity)

/-- The answer, and the id of the row that is removed. -/
def deleteDevice (userId id : String) (devices : List DeviceEntity) :
    ResponseCore Unit × Option String :=
  match findOwnedDevice devices userId id with
  | none => (.fail .notFound "error.deviceNotFound", none)
  | some entity => (⟨.success, none, "success"⟩, some entity.id)

/-! ## Templates -/

structure UpdateDeviceTemplateDto where
  name : Option String := none
  type : Option DeviceTemplateType := none
  telemetrySchema : Option (List TelemetryFieldDefinition) := none
  actionSchema : Option (List ActionFieldDefinition) := none
  isActive : Option Bool := none
deriving DecidableEq, Repr

/-- `Object.assign(entity, dto)`. -/
def applyTemplateDto (dto : UpdateDeviceTemplateDto) (entity : DeviceTemplateEntity) :
    DeviceTemplateEntity :=
  { entity with
    name := dto.name.getD entity.name
    type := dto.type.getD entity.type
    telemetrySchema := dto.telemetrySchema <|> entity.telemetrySchema
    actionSchema := dto.actionSchema <|> entity.actionSchema
    isActive := dto.isActive.getD entity.isActive }

def updateDeviceTemplate (id : String) (dto : UpdateDeviceTemplateDto)
    (templates : List DeviceTemplateEntity) :
    ResponseCore DeviceTemplateEntity × Option DeviceTemplateEntity :=
  match findTemplate templates id with
  | none => (.fail .notFound "error.deviceTemplateNotFound", none)
  | some entity => (.ok (applyTemplateDto dto entity), some (applyTemplateDto dto entity))

/-! ## Keys -/

/-- The primary key and the unique index of `devices`. -/
structure Keys (devices : List DeviceEntity) : Prop where
  ids : Keyed.Distinct DeviceEntity.id devices
  deviceIds : Keyed.Distinct DeviceEntity.deviceId devices

theorem findInScope_eq_some_iff {devices : List DeviceEntity} (keys : Keys devices)
    {scope : AccessScope} {id : String} {device : DeviceEntity} :
    findInScope devices scope id = some device ↔
      device ∈ devices ∧ device.id = id ∧ scope.admits device = true := by
  unfold findInScope
  constructor
  · intro h
    have found := List.find?_some h
    simp only [decide_eq_true_eq] at found
    exact ⟨List.mem_of_find?_eq_some h, found⟩
  · rintro ⟨hd, hid, admitted⟩
    cases hfind : devices.find? fun device => device.id = id ∧ scope.admits device with
    | none =>
      have absent := List.find?_eq_none.mp hfind device hd
      simp [hid, admitted] at absent
    | some other =>
      have found := List.find?_some hfind
      simp only [decide_eq_true_eq] at found
      rw [keys.ids.eq_of_key (List.mem_of_find?_eq_some hfind) hd (found.1.trans hid.symm)]

theorem findByDeviceId_eq_some_iff {devices : List DeviceEntity} (keys : Keys devices)
    {deviceId : String} {device : DeviceEntity} :
    findByDeviceId devices deviceId = some device ↔ device ∈ devices ∧ device.deviceId = deviceId :=
  keys.deviceIds.find_eq_some_iff

/-- Without a row, its physical id is free and the others are as before. -/
theorem findByDeviceId_remove {devices : List DeviceEntity} (keys : Keys devices)
    {device : DeviceEntity} (hdevice : device ∈ devices) (deviceId : String) :
    findByDeviceId (Keyed.remove DeviceEntity.id device.id devices) deviceId =
      if deviceId = device.deviceId then none else findByDeviceId devices deviceId := by
  split_ifs with h
  · refine Keyed.find_eq_none_iff.mpr fun row hrow same => ?_
    obtain ⟨hmem, hne⟩ := Keyed.mem_remove_iff.mp hrow
    exact hne (congrArg _ (keys.deviceIds.eq_of_key hmem hdevice (same.trans h)))
  · have distinct : Keyed.Distinct DeviceEntity.deviceId
        (Keyed.remove DeviceEntity.id device.id devices) :=
      List.Nodup.sublist (List.filter_sublist.map _) keys.deviceIds
    refine Option.ext fun row => ?_
    rw [findByDeviceId, distinct.find_eq_some_iff, findByDeviceId_eq_some_iff keys,
      Keyed.mem_remove_iff]
    constructor
    · rintro ⟨⟨hmem, -⟩, same⟩
      exact ⟨hmem, same⟩
    · rintro ⟨hmem, same⟩
      refine ⟨⟨hmem, fun hid => h ?_⟩, same⟩
      rw [← same, keys.ids.eq_of_key hmem hdevice hid]

theorem Keys.concat {devices : List DeviceEntity} (keys : Keys devices) {row : DeviceEntity}
    (id : ∀ d ∈ devices, d.id ≠ row.id) (deviceId : ∀ d ∈ devices, d.deviceId ≠ row.deviceId) :
    Keys (devices ++ [row]) :=
  ⟨keys.ids.concat id, keys.deviceIds.concat deviceId⟩

theorem Keys.remove {devices : List DeviceEntity} (keys : Keys devices) (id : String) :
    Keys (Keyed.remove DeviceEntity.id id devices) :=
  ⟨keys.ids.remove, List.Nodup.sublist (List.filter_sublist.map _) keys.deviceIds⟩

/-- A write that keeps both keys of its row. -/
theorem Keys.modify {devices : List DeviceEntity} (keys : Keys devices) {id : String}
    {f : DeviceEntity → DeviceEntity}
    (same : ∀ d ∈ devices, d.id = id → (f d).id = d.id ∧ (f d).deviceId = d.deviceId) :
    Keys (Keyed.modify DeviceEntity.id id f devices) := by
  refine ⟨keys.ids.modify fun d hd h => (same d hd h).1, ?_⟩
  unfold Keyed.Distinct
  rw [Keyed.map_modify fun d hd h => (same d hd h).2]
  exact keys.deviceIds

/-- A registration goes through only for a physical id that no row has. -/
theorem registerDevice_inserts {id userId : String} {now : Date} {factoryId : Option String}
    {dto : RegisterDeviceDto} {templates : List DeviceTemplateEntity}
    {devices : List DeviceEntity} {row : DeviceEntity}
    (h : (registerDevice id now userId factoryId dto templates devices).2 = some row) :
    row = createdDevice id now userId factoryId dto ∧
      ∀ d ∈ devices, d.deviceId ≠ row.deviceId := by
  unfold registerDevice at h
  cases htemplate : findTemplate templates dto.templateId with
  | none => simp [htemplate] at h
  | some template =>
    cases hactive : template.isActive with
    | false => simp [htemplate, hactive] at h
    | true =>
      cases hfound : findByDeviceId devices dto.deviceId with
      | some device => simp [htemplate, hactive, hfound] at h
      | none =>
        simp only [htemplate, hactive, hfound, Bool.true_eq_false, if_false, Option.some_inj] at h
        exact ⟨h.symm, fun d hd => h ▸ Keyed.find_eq_none_iff.mp hfound d hd⟩

/-! ## The rows after a call -/

/-- After `registerDevice`. A generated id is none that a row has. -/
def afterRegister (id : String) (now : Date) (userId : String) (factoryId : Option String)
    (dto : RegisterDeviceDto) (templates : List DeviceTemplateEntity)
    (devices : List DeviceEntity) : List DeviceEntity :=
  match (registerDevice id now userId factoryId dto templates devices).2 with
  | some row => if devices.any (·.id = id) then devices else devices ++ [row]
  | none => devices

/-- After `updateDeviceConfig`. -/
def afterUpdateConfig (userId id : String) (dto : UpdateDeviceConfigDto)
    (devices : List DeviceEntity) : List DeviceEntity :=
  match (updateDeviceConfig dto (findOwnedDevice devices userId id)).2.1 with
  | some write => Keyed.modify DeviceEntity.id id (fun row => write.commit row) devices
  | none => devices

/-- After `deleteDevice`. -/
def afterDelete (userId id : String) (devices : List DeviceEntity) : List DeviceEntity :=
  match (deleteDevice userId id devices).2 with
  | some key => Keyed.remove DeviceEntity.id key devices
  | none => devices

theorem afterRegister_cases (id : String) (now : Date) (userId : String)
    (factoryId : Option String) (dto : RegisterDeviceDto) (templates : List DeviceTemplateEntity)
    (devices : List DeviceEntity) :
    afterRegister id now userId factoryId dto templates devices = devices ∨
      ∃ row, row = createdDevice id now userId factoryId dto ∧ (∀ d ∈ devices, d.id ≠ row.id) ∧
        (∀ d ∈ devices, d.deviceId ≠ row.deviceId) ∧
        afterRegister id now userId factoryId dto templates devices = devices ++ [row] := by
  unfold afterRegister
  split
  · next row hrow =>
    obtain ⟨rfl, deviceId⟩ := registerDevice_inserts hrow
    split_ifs with taken
    · exact Or.inl rfl
    · refine Or.inr ⟨_, rfl, fun d hd hid => taken ?_, deviceId, rfl⟩
      exact List.any_eq_true.mpr ⟨d, hd, decide_eq_true hid⟩
  · exact Or.inl rfl

theorem afterRegister_of_none {id userId : String} {now : Date} {factoryId : Option String}
    {dto : RegisterDeviceDto} {templates : List DeviceTemplateEntity} {devices : List DeviceEntity}
    (h : (registerDevice id now userId factoryId dto templates devices).2 = none) :
    afterRegister id now userId factoryId dto templates devices = devices := by
  simp [afterRegister, h]

theorem afterRegister_of_some {id userId : String} {now : Date} {factoryId : Option String}
    {dto : RegisterDeviceDto} {templates : List DeviceTemplateEntity} {devices : List DeviceEntity}
    {row : DeviceEntity}
    (h : (registerDevice id now userId factoryId dto templates devices).2 = some row)
    (fresh : ∀ device ∈ devices, device.id ≠ id) :
    afterRegister id now userId factoryId dto templates devices = devices ++ [row] := by
  have untaken : (devices.any (·.id = id)) = false := by simpa using fresh
  simp [afterRegister, h, untaken]

theorem afterUpdateConfig_of_none {devices : List DeviceEntity} {userId id : String}
    (h : findOwnedDevice devices userId id = none) (dto : UpdateDeviceConfigDto) :
    afterUpdateConfig userId id dto devices = devices := by
  simp [afterUpdateConfig, h, updateDeviceConfig]

theorem afterUpdateConfig_of_some {devices : List DeviceEntity} {userId id : String}
    {device : DeviceEntity} (h : findOwnedDevice devices userId id = some device)
    (dto : UpdateDeviceConfigDto) : afterUpdateConfig userId id dto devices =
      Keyed.modify DeviceEntity.id id (fun _ => applyConfigDto dto device) devices := by
  simp [afterUpdateConfig, h, updateDeviceConfig]

theorem afterDelete_of_none {devices : List DeviceEntity} {userId id : String}
    (h : findOwnedDevice devices userId id = none) : afterDelete userId id devices = devices := by
  simp [afterDelete, h, deleteDevice]

theorem afterDelete_of_some {devices : List DeviceEntity} {userId id : String}
    {device : DeviceEntity} (h : findOwnedDevice devices userId id = some device) :
    afterDelete userId id devices = Keyed.remove DeviceEntity.id device.id devices := by
  simp [afterDelete, h, deleteDevice]

theorem Keys.afterRegister {devices : List DeviceEntity} (keys : Keys devices) (id : String)
    (now : Date) (userId : String) (factoryId : Option String) (dto : RegisterDeviceDto)
    (templates : List DeviceTemplateEntity) :
    Keys (afterRegister id now userId factoryId dto templates devices) := by
  rcases afterRegister_cases id now userId factoryId dto templates devices with same |
    ⟨row, -, fresh, deviceId, inserted⟩
  · rwa [same]
  · rw [inserted]
    exact keys.concat fresh deviceId

theorem Keys.afterUpdateConfig {devices : List DeviceEntity} (keys : Keys devices)
    (userId id : String) (dto : UpdateDeviceConfigDto) :
    Keys (afterUpdateConfig userId id dto devices) := by
  cases hfind : findOwnedDevice devices userId id with
  | none => rwa [afterUpdateConfig_of_none hfind]
  | some device =>
    obtain ⟨hdevice, rfl, -⟩ := (findInScope_eq_some_iff keys).mp hfind
    rw [afterUpdateConfig_of_some hfind]
    refine keys.modify fun d hd same => ?_
    rw [keys.ids.eq_of_key hd hdevice same]
    exact ⟨rfl, rfl⟩

theorem Keys.afterDelete {devices : List DeviceEntity} (keys : Keys devices) (userId id : String) :
    Keys (afterDelete userId id devices) := by
  cases hfind : findOwnedDevice devices userId id with
  | none => rwa [afterDelete_of_none hfind]
  | some device =>
    rw [afterDelete_of_some hfind]
    exact keys.remove device.id

end AiotCloud
