import AiotCloud.LoginNames
import AiotCloud.OwnerAccess

/-!
# References to factories

No foreign key backs a `factoryId`. An account gets one from the request that creates or
updates it, unchecked; a device, asset or dashboard copies the one of its account.
`deleteFactory` looks for accounts and devices of the factory.

1. `AccountCall.saved_factoryId`: the factory of a saved account.
2. `Referenced.step`, `keepsReferences_of_valid`: when a call keeps the references valid.
3. `references_valid_iff`: along a run.
-/

namespace AiotCloud

/-! ## `FactoryService` -/

structure FactoryEntity where
  id : String
  name : String
  address : Option String := none
  description : Option String := none
deriving DecidableEq, Repr

structure CreateFactoryDto where
  name : String
  address : Option String := none
  description : Option String := none
deriving DecidableEq, Repr

/-- The name has a unique index, and a generated id is none that a row has. The error when
the index refuses the row rolls the call back. -/
def createFactory (id failure : String) (dto : CreateFactoryDto) (factories : List FactoryEntity) :
    Except String (ResponseCore FactoryEntity) × List FactoryEntity :=
  let entity : FactoryEntity :=
    { id := id, name := dto.name, address := dto.address, description := dto.description }
  if ∀ factory ∈ factories, factory.id ≠ entity.id ∧ factory.name ≠ entity.name then
    (.ok (.ok entity), factories ++ [entity])
  else (.error failure, factories)

/-- The accounts and the devices are counted; assets and dashboards are not. -/
def deleteFactory (id : String) (users : List UserEntity) (devices : List DeviceEntity)
    (factories : List FactoryEntity) : ResponseCore Unit × List FactoryEntity :=
  match Keyed.find FactoryEntity.id id factories with
  | none => (.fail .notFound "error.factoryNotFound", factories)
  | some entity =>
    let userCount := users.countP (·.factoryId = some id)
    let deviceCount := devices.countP (·.factoryId = some id)
    if userCount > 0 ∨ deviceCount > 0 then (.fail .badRequest "error.factoryInUse", factories)
    else (⟨.success, none, "success"⟩, Keyed.remove FactoryEntity.id entity.id factories)

/-- A deletion goes through for a factory that no account and no device has. -/
theorem deleteFactory_cases (id : String) (users : List UserEntity) (devices : List DeviceEntity)
    (factories : List FactoryEntity) :
    ((∃ factory ∈ factories, factory.id = id) ∧ (∀ user ∈ users, user.factoryId ≠ some id) ∧
        (∀ device ∈ devices, device.factoryId ≠ some id) ∧
        (deleteFactory id users devices factories).2 =
          Keyed.remove FactoryEntity.id id factories) ∨
      (¬ ((∃ factory ∈ factories, factory.id = id) ∧
          (∀ user ∈ users, user.factoryId ≠ some id) ∧
          ∀ device ∈ devices, device.factoryId ≠ some id) ∧
        (deleteFactory id users devices factories).2 = factories) := by
  unfold deleteFactory
  cases hfind : Keyed.find FactoryEntity.id id factories with
  | none =>
    have missing := Keyed.find_eq_none_iff.mp hfind
    refine Or.inr ⟨?_, rfl⟩
    rintro ⟨⟨factory, hfactory, hid⟩, -⟩
    exact missing factory hfactory hid
  | some entity =>
    obtain ⟨hentity, hid⟩ := Keyed.mem_of_find hfind
    dsimp only
    split_ifs with used
    · refine Or.inr ⟨?_, rfl⟩
      rintro ⟨-, users, devices⟩
      rcases used with used | used
      · obtain ⟨user, huser, same⟩ := List.countP_pos_iff.mp used
        exact users user huser (of_decide_eq_true same)
      · obtain ⟨device, hdevice, same⟩ := List.countP_pos_iff.mp used
        exact devices device hdevice (of_decide_eq_true same)
    · simp only [gt_iff_lt, List.countP_pos_iff, not_or, not_exists, not_and,
        decide_eq_true_eq] at used
      exact Or.inl ⟨⟨entity, hentity, hid⟩, used.1, used.2, by rw [hid]⟩

/-! ## The factory of a saved account -/

/-- The factory, or `null`, that a request assigns. -/
def AccountCall.requestedFactory : AccountCall → Option (Option String)
  | .createUserByAdmin _ dto => dto.factoryId
  | .updateUser _ _ dto => dto.factoryId
  | _ => none

theorem updatedUser_factoryId {bcrypt : Bcrypt} {env : CallEnv} {dto : UpdateUserDto}
    {user row : UserEntity} (h : updatedUser bcrypt env dto user = some row) :
    row.factoryId = dto.factoryId.getD user.factoryId := by
  obtain ⟨saved, hsaved, rfl⟩ := updatedUser_eq_some h
  rw [subscribed_kept hsaved]
  rfl

theorem AccountCall.saved_factoryId (bcrypt : Bcrypt) {users : List UserEntity}
    {call : AccountCall} {row : UserEntity} (h : call.saved bcrypt users = some row) :
    ∃ old : Option String, (old = none ∨ ∃ user ∈ users, user.factoryId = old) ∧
      row.factoryId = call.requestedFactory.getD old := by
  cases call with
  | createUser env dto =>
    simp only [AccountCall.saved, Option.ite_none_right_eq_some, Option.some.injEq] at h
    obtain ⟨_, rfl⟩ := h
    exact ⟨none, Or.inl rfl, rfl⟩
  | createUserByAdmin env dto =>
    simp only [AccountCall.saved, Option.ite_none_right_eq_some, Option.some.injEq] at h
    obtain ⟨_, rfl⟩ := h
    exact ⟨none, Or.inl rfl, rfl⟩
  | initRootUser env rootPassword =>
    simp only [AccountCall.saved, Option.ite_none_right_eq_some, Option.some.injEq] at h
    obtain ⟨_, rfl⟩ := h
    exact ⟨none, Or.inl rfl, rfl⟩
  | updateUser env userId dto =>
    simp only [AccountCall.saved, Option.ite_none_left_eq_some, Option.filter_eq_some_iff,
      Option.bind_eq_some_iff] at h
    obtain ⟨_, ⟨user, hfind, hrow⟩, _⟩ := h
    exact ⟨user.factoryId, Or.inr ⟨user, (Keyed.mem_of_find hfind).1, rfl⟩,
      updatedUser_factoryId hrow⟩
  | verifyEmail env email token =>
    simp only [AccountCall.saved, Option.bind_eq_some_iff, Option.map_eq_some_iff] at h
    obtain ⟨user, hfind, settings, _, rfl⟩ := h
    exact ⟨user.factoryId, Or.inr ⟨user, (mem_of_findByUsernameOrEmail hfind).1, rfl⟩, rfl⟩

/-! ## Runs -/

structure FactoryWorld where
  factories : List FactoryEntity
  owners : OwnerWorld

inductive FactoryCall where
  | createFactory (id failure : String) (dto : CreateFactoryDto)
  | deleteFactory (id : String)
  | owner (call : OwnerCall)

namespace FactoryWorld

def step (bcrypt : Bcrypt) (w : FactoryWorld) : FactoryCall → FactoryWorld
  | .createFactory id failure dto =>
    { w with factories := (createFactory id failure dto w.factories).2 }
  | .deleteFactory id =>
    { w with factories := (deleteFactory id w.owners.users w.owners.devices w.factories).2 }
  | .owner call => { w with owners := w.owners.step bcrypt call }

def HasFactory (w : FactoryWorld) (id : String) : Prop := ∃ factory ∈ w.factories, factory.id = id

/-- Every `factoryId` names a factory. -/
structure ReferencesValid (w : FactoryWorld) : Prop where
  users : ∀ user ∈ w.owners.users, ∀ id ∈ user.factoryId, w.HasFactory id
  devices : ∀ device ∈ w.owners.devices, ∀ id ∈ device.factoryId, w.HasFactory id
  assets : ∀ asset ∈ w.owners.assets, ∀ id ∈ asset.factoryId, w.HasFactory id
  dashboards : ∀ dashboard ∈ w.owners.dashboards, ∀ id ∈ dashboard.factoryId, w.HasFactory id

/-- A factory that is deleted, since no account and no device has it, is on no asset and no
dashboard; a factory that is assigned to an account exists. -/
def KeepsReferences (bcrypt : Bcrypt) (w : FactoryWorld) : FactoryCall → Prop
  | .deleteFactory id => w.HasFactory id →
      (∀ user ∈ w.owners.users, user.factoryId ≠ some id) →
      (∀ device ∈ w.owners.devices, device.factoryId ≠ some id) →
      (∀ asset ∈ w.owners.assets, asset.factoryId ≠ some id) ∧
        ∀ dashboard ∈ w.owners.dashboards, dashboard.factoryId ≠ some id
  | .owner (.account call) => call.saved bcrypt w.owners.users ≠ none →
      ∀ id, call.requestedFactory = some (some id) → w.HasFactory id
  | _ => True

/-- The accounts have distinct keys and the references are valid. -/
structure Referenced (w : FactoryWorld) : Prop where
  users : UserKeys w.owners.users
  valid : w.ReferencesValid

variable {bcrypt : Bcrypt} {w : FactoryWorld}

theorem referencesValid_iff :
    w.ReferencesValid ↔ (∀ user ∈ w.owners.users, ∀ id ∈ user.factoryId, w.HasFactory id) ∧
      ∀ record ∈ w.owners.records, ∀ id ∈ record.factoryId, w.HasFactory id := by
  unfold OwnerWorld.records
  rw [List.forall_mem_append, List.forall_mem_append, List.forall_mem_map, List.forall_mem_map,
    List.forall_mem_map]
  exact ⟨fun h => ⟨h.users, ⟨h.devices, h.assets⟩, h.dashboards⟩,
    fun h => ⟨h.1, h.2.1.1, h.2.1.2, h.2.2⟩⟩

theorem hasFactory_createFactory {id failure : String} {dto : CreateFactoryDto} {factory : String}
    (h : w.HasFactory factory) :
    ({ w with factories := (createFactory id failure dto w.factories).2 } :
      FactoryWorld).HasFactory factory := by
  obtain ⟨entity, hentity, hid⟩ := h
  refine ⟨entity, ?_, hid⟩
  dsimp only [createFactory]
  split_ifs
  · exact List.mem_append_left _ hentity
  · exact hentity

theorem Referenced.createFactory (h : w.Referenced) (id failure : String)
    (dto : CreateFactoryDto) : (w.step bcrypt (.createFactory id failure dto)).Referenced where
  users := h.users
  valid :=
    { users := fun user huser id hid => hasFactory_createFactory (h.valid.users user huser id hid)
      devices := fun device hdevice id hid =>
        hasFactory_createFactory (h.valid.devices device hdevice id hid)
      assets := fun asset hasset id hid =>
        hasFactory_createFactory (h.valid.assets asset hasset id hid)
      dashboards := fun dashboard hdashboard id hid =>
        hasFactory_createFactory (h.valid.dashboards dashboard hdashboard id hid) }

/-- The references that are left are to factories that are left. -/
theorem Referenced.deleteFactory (h : w.Referenced) (id : String)
    (keeps : w.KeepsReferences bcrypt (.deleteFactory id)) :
    (w.step bcrypt (.deleteFactory id)).Referenced := by
  rcases deleteFactory_cases id w.owners.users w.owners.devices w.factories with
    ⟨exist, users, devices, removed⟩ | ⟨-, same⟩
  · obtain ⟨assets, dashboards⟩ := keeps exist users devices
    have stays : ∀ factory, w.HasFactory factory → factory ≠ id →
        (w.step bcrypt (.deleteFactory id)).HasFactory factory := by
      rintro _ ⟨entity, hentity, rfl⟩ hne
      refine ⟨entity, ?_, rfl⟩
      simp only [step, removed]
      exact Keyed.mem_remove_iff.mpr ⟨hentity, hne⟩
    refine ⟨h.users, ⟨?_, ?_, ?_, ?_⟩⟩
    · intro user huser factory hfactory
      refine stays factory (h.valid.users user huser factory hfactory) ?_
      rintro rfl
      exact users user huser hfactory
    · intro device hdevice factory hfactory
      refine stays factory (h.valid.devices device hdevice factory hfactory) ?_
      rintro rfl
      exact devices device hdevice hfactory
    · intro asset hasset factory hfactory
      refine stays factory (h.valid.assets asset hasset factory hfactory) ?_
      rintro rfl
      exact assets asset hasset hfactory
    · intro dashboard hdashboard factory hfactory
      refine stays factory (h.valid.dashboards dashboard hdashboard factory hfactory) ?_
      rintro rfl
      exact dashboards dashboard hdashboard hfactory
  · have unchanged : w.step bcrypt (.deleteFactory id) = w := by
      simp only [step, same]
    rwa [unchanged]

/-- A new record has the factory of its account. -/
theorem Referenced.create (h : w.Referenced) {call : OwnerCall}
    (creates : ∀ account, call ≠ .account account) : (w.step bcrypt (.owner call)).Referenced := by
  have users := w.owners.step_users bcrypt creates
  have valid := referencesValid_iff.mp h.valid
  refine ⟨users ▸ h.users, referencesValid_iff.mpr ⟨users ▸ valid.1, ?_⟩⟩
  intro record hrecord
  rcases w.owners.step_grown bcrypt call record hrecord with hrecord | ⟨user, huser, rfl⟩
  · exact valid.2 record hrecord
  · exact valid.1 user huser

theorem Referenced.account (h : w.Referenced) (call : AccountCall)
    (keeps : w.KeepsReferences bcrypt (.owner (.account call))) :
    (w.step bcrypt (.owner (.account call))).Referenced := by
  have leaves := leaves_after bcrypt h.users call
  refine ⟨h.users.leaves leaves, ⟨?_, h.valid.devices, h.valid.assets, h.valid.dashboards⟩⟩
  intro user huser id hid
  rcases leaves.mem_or_saved huser with huser | hsaved
  · exact h.valid.users user huser id hid
  · obtain ⟨old, hold, hrow⟩ := AccountCall.saved_factoryId bcrypt hsaved
    rw [hrow] at hid
    cases hrequest : call.requestedFactory with
    | some factory =>
      rw [hrequest] at hid
      exact keeps (by simp [hsaved]) id (hrequest.trans (congrArg some hid))
    | none =>
      rw [hrequest] at hid
      rcases hold with rfl | ⟨other, hother, rfl⟩
      · cases hid
      · exact h.valid.users other hother id hid

theorem Referenced.step (h : w.Referenced) (call : FactoryCall)
    (keeps : w.KeepsReferences bcrypt call) : (w.step bcrypt call).Referenced := by
  cases call with
  | createFactory id failure dto => exact h.createFactory id failure dto
  | deleteFactory id => exact h.deleteFactory id keeps
  | owner call =>
    cases call with
    | account call => exact h.account call keeps
    | registerDevice userId id now dto => exact h.create (by simp)
    | createAsset userId id dto => exact h.create (by simp)
    | createDashboard userId id dto => exact h.create (by simp)

theorem keepsReferences_of_valid (h : w.Referenced) (call : FactoryCall)
    (valid : (w.step bcrypt call).ReferencesValid) : w.KeepsReferences bcrypt call := by
  cases call with
  | createFactory id failure dto => trivial
  | deleteFactory id =>
    intro exist users devices
    rcases deleteFactory_cases id w.owners.users w.owners.devices w.factories with
      ⟨-, -, -, removed⟩ | ⟨stays, -⟩
    · have gone : ¬ (w.step bcrypt (.deleteFactory id)).HasFactory id := by
        rintro ⟨entity, hentity, hid⟩
        simp only [FactoryWorld.step, removed] at hentity
        exact (Keyed.mem_remove_iff.mp hentity).2 hid
      exact ⟨fun asset hasset hid => gone (valid.assets asset hasset id hid),
        fun dashboard hdashboard hid => gone (valid.dashboards dashboard hdashboard id hid)⟩
    · exact absurd ⟨exist, users, devices⟩ stays
  | owner call =>
    cases call with
    | account call =>
      intro goes id hrequest
      obtain ⟨row, hsaved⟩ := Option.ne_none_iff_exists'.mp goes
      obtain ⟨old, -, hrow⟩ := AccountCall.saved_factoryId bcrypt hsaved
      have leaves := leaves_after bcrypt h.users call
      rw [hsaved] at leaves
      refine valid.users row (leaves.mem_iff.mpr (Or.inl rfl)) id ?_
      rw [hrow, hrequest]
      rfl
    | registerDevice userId id now dto => trivial
    | createAsset userId id dto => trivial
    | createDashboard userId id dto => trivial

end FactoryWorld

open FactoryWorld in
/-- From the empty database, all references stay valid exactly when no factory is deleted that
an asset or a dashboard has, and none is assigned that does not exist. -/
theorem references_valid_iff (bcrypt : Bcrypt) (templates : List DeviceTemplateEntity)
    (calls : List FactoryCall) :
    (∀ pre, pre <+: calls → (Run.exec (FactoryWorld.step bcrypt)
        ⟨[], ⟨templates, [], [], [], []⟩⟩ pre).ReferencesValid) ↔
      Run.Meets (FactoryWorld.step bcrypt) (KeepsReferences bcrypt)
        ⟨[], ⟨templates, [], [], [], []⟩⟩ calls := by
  have start : Referenced ⟨[], ⟨templates, [], [], [], []⟩⟩ :=
    ⟨.nil, referencesValid_iff.mpr ⟨by simp, by simp [OwnerWorld.records]⟩⟩
  have implies : ∀ w : FactoryWorld, w.Referenced → w.ReferencesValid := fun w h => h.valid
  exact Run.always_iff_meets implies (fun w call h keeps => h.step call keeps)
    (fun w call h valid => keepsReferences_of_valid h call valid) start calls

/-! ### A factory with an asset -/

/-- An account of the factory creates an asset and leaves; then the factory is deleted. -/
def leavesFactory : List FactoryCall :=
  [.createFactory "f1" "" { name := "Plant" },
    .owner (.account (.createUserByAdmin (someEnv "u1")
      { username := "ann", password := "secret", factoryId := some (some "f1") })),
    .owner (.createAsset "u1" "pump" { name := "Pump" }),
    .owner (.account (.updateUser (someEnv "") "u1"
      { password := some "secret", factoryId := some none })),
    .deleteFactory "f1"]

theorem leavesFactory_dangles :
    ¬ (Run.exec (FactoryWorld.step plainBcrypt) ⟨[], ⟨[], [], [], [], []⟩⟩
      leavesFactory).ReferencesValid := by
  intro valid
  let w := Run.exec (FactoryWorld.step plainBcrypt) ⟨[], ⟨[], [], [], [], []⟩⟩ leavesFactory
  have asset : ∃ asset ∈ w.owners.assets, asset.factoryId = some "f1" := by decide
  obtain ⟨asset, hasset, hid⟩ := asset
  obtain ⟨factory, hfactory, -⟩ := valid.assets asset hasset "f1" hid
  exact absurd hfactory (List.eq_nil_iff_forall_not_mem.mp (by decide : w.factories = []) factory)

end AiotCloud
