import AiotCloud.Lib.Noninterference
import AiotCloud.OwnedCalls

/-!
# Factories apart

The assets, devices and dashboards of all factories are in the same tables. A call reads the rows
of the scope of its account and writes those of the account, under any interleaving with the calls
of others.

1. `OwnedStep.view_act_own`, `OwnedStep.view_act_other`: what a transaction does to the rows of a
   tenant.
2. `Granted.stays`: a call reads and writes rows of its tenant.
3. `factories_apart`: what a tenant has and what its calls answer does not depend on what is done
   for the others meanwhile.
-/

namespace AiotCloud

open AssetHealth Interleave Parted

/-! ## Tenants -/

/-- The factories of the accounts, and the tenants that the generated keys and the physical ids
are for. A tenant is a factory, or an account without one. -/
structure Tenancy where
  factoryOf : String → Option String
  issuedTo : String → AccessScope
  boughtBy : String → AccessScope

namespace Tenancy

variable (n : Tenancy)

def tenant (userId : String) : AccessScope := resolveAccessScope userId .user (n.factoryOf userId)

/-- A row has the factory of its account. -/
def ledger {ρ : Type} (table : OwnedTable ρ) (ok : ρ → Prop) : Ledger ρ String AccessScope where
  key := table.id
  owner row := n.tenant (table.ownership row).userId
  issuedTo := n.issuedTo
  ok row := (table.ownership row).factoryId = n.factoryOf (table.ownership row).userId ∧ ok row

def assets : Ledger AssetRow String AccessScope := n.ledger assetRowTable fun _ => True

/-- The physical id is one that the tenant bought, and the asset one of the tenant. -/
def devices : Ledger DeviceEntity String AccessScope :=
  n.ledger deviceTable fun device => n.boughtBy device.deviceId = n.tenant device.userId ∧
    ∀ assetId, device.assetId = some assetId → n.issuedTo assetId = n.tenant device.userId

def dashboards : Ledger DashboardEntity String AccessScope := n.ledger dashboardTable fun _ => True

structure Valid (t : OwnedTables) : Prop where
  assets : n.assets.Valid t.assets
  devices : n.devices.Valid t.devices
  dashboards : n.dashboards.Valid t.dashboards

/-- The rows of a tenant. -/
def view (me : AccessScope) (t : OwnedTables) : OwnedTables where
  assets := n.assets.part me t.assets
  devices := n.devices.part me t.devices
  dashboards := n.dashboards.part me t.dashboards

end Tenancy

/-- The statement is one of the tenant. -/
def OwnedWrite.Of (n : Tenancy) (me : AccessScope) : OwnedWrite → Prop
  | assets write => n.assets.Of me write
  | devices write => n.devices.Of me write
  | dashboards write => n.dashboards.Of me write

def OwnedStep.Of (n : Tenancy) (me : AccessScope) : OwnedStep → Prop
  | query => True
  | commit writes => ∀ write ∈ writes, write.Of n me

section Steps

variable {n : Tenancy} {me other : AccessScope} {t t' : OwnedTables}

theorem Tenancy.Valid.act (valid : n.Valid t) {write : OwnedWrite} (own : write.Of n me) :
    n.Valid (write.act t) := by
  cases write with
  | assets write => exact { valid with assets := Ledger.Valid.act valid.assets own }
  | devices write => exact { valid with devices := Ledger.Valid.act valid.devices own }
  | dashboards write => exact { valid with dashboards := Ledger.Valid.act valid.dashboards own }

theorem Tenancy.issued_reference {write : Write DeviceEntity String} (own : n.devices.Of me write)
    {assetId : String} (refers : OwnedWrite.reference write = some assetId) :
    n.issuedTo assetId = me := by
  cases write with
  | insert row clash | save row clash => exact (own.fair.ok.2.2 assetId refers).trans own.own
  | update | remove => cases refers

/-- Whether a statement of a tenant fails is up to the rows of the tenant. -/
theorem OwnedWrite.refused_view (valid : n.Valid t) {write : OwnedWrite} (own : write.Of n me) :
    write.refused t = write.refused (n.view me t) := by
  cases write with
  | assets write => exact Ledger.refused_own valid.assets own
  | dashboards write => exact Ledger.refused_own valid.dashboards own
  | devices write =>
    refine congrArg₂ (· || ·) (Ledger.refused_own valid.devices own) ?_
    cases refers : reference write with
    | none => rfl
    | some assetId =>
      have issued := Tenancy.issued_reference own refers
      refine congrArg not (Ledger.any_part valid.assets fun row fair same => ?_)
      rw [← issued, ← of_decide_eq_true same]
      exact fair.issued.symm

theorem OwnedWrite.view_act_own (valid : n.Valid t) {write : OwnedWrite} (own : write.Of n me) :
    n.view me (write.act t) = write.act (n.view me t) := by
  cases write with
  | assets write =>
    exact congrArg (fun rows => { n.view me t with assets := rows })
      (Ledger.part_act_own valid.assets own)
  | devices write =>
    exact congrArg (fun rows => { n.view me t with devices := rows })
      (Ledger.part_act_own valid.devices own)
  | dashboards write =>
    exact congrArg (fun rows => { n.view me t with dashboards := rows })
      (Ledger.part_act_own valid.dashboards own)

theorem OwnedWrite.view_act_other (valid : n.Valid t) {write : OwnedWrite} (own : write.Of n other)
    (hne : other ≠ me) : n.view me (write.act t) = n.view me t := by
  cases write with
  | assets write =>
    exact congrArg (fun rows => { n.view me t with assets := rows })
      (Ledger.part_act_other valid.assets own hne)
  | devices write =>
    exact congrArg (fun rows => { n.view me t with devices := rows })
      (Ledger.part_act_other valid.devices own hne)
  | dashboards write =>
    exact congrArg (fun rows => { n.view me t with dashboards := rows })
      (Ledger.part_act_other valid.dashboards own hne)

theorem Tenancy.Valid.foldl (valid : n.Valid t) {writes : List OwnedWrite}
    (own : ∀ write ∈ writes, write.Of n me) : n.Valid (writes.foldl OwnedWrite.act t) := by
  induction writes generalizing t with
  | nil => exact valid
  | cons write writes ih =>
    obtain ⟨first, rest⟩ := List.forall_mem_cons.mp own
    exact ih (valid.act first) rest

theorem OwnedWrite.view_foldl_own (valid : n.Valid t) {writes : List OwnedWrite}
    (own : ∀ write ∈ writes, write.Of n me) :
    n.view me (writes.foldl act t) = writes.foldl act (n.view me t) := by
  induction writes generalizing t with
  | nil => rfl
  | cons write writes ih =>
    obtain ⟨first, rest⟩ := List.forall_mem_cons.mp own
    rw [List.foldl_cons, List.foldl_cons, ih (valid.act first) rest, view_act_own valid first]

theorem OwnedWrite.view_foldl_other (valid : n.Valid t) {writes : List OwnedWrite}
    (own : ∀ write ∈ writes, write.Of n other) (hne : other ≠ me) :
    n.view me (writes.foldl act t) = n.view me t := by
  induction writes generalizing t with
  | nil => rfl
  | cons write writes ih =>
    obtain ⟨first, rest⟩ := List.forall_mem_cons.mp own
    rw [List.foldl_cons, ih (valid.act first) rest, view_act_other valid first hne]

namespace OwnedStep

theorem valid_act (valid : n.Valid t) {step : OwnedStep} (own : step.Of n me) :
    n.Valid (step.act t) := by
  cases step with
  | query => exact valid
  | commit writes =>
    simp only [act]
    split_ifs
    · exact valid
    · exact valid.foldl own

theorem refused_view (valid : n.Valid t) {step : OwnedStep} (own : step.Of n me) :
    step.refused t = step.refused (n.view me t) := by
  cases step with
  | query => rfl
  | commit writes =>
    unfold refused
    rw [Bool.eq_iff_iff, List.any_eq_true, List.any_eq_true]
    refine exists_congr fun write => and_congr_right fun hwrite => ?_
    rw [OwnedWrite.refused_view valid (own write hwrite)]

/-- A transaction of a tenant does to the rows of the tenant what it does to all of them. -/
theorem view_act_own (valid : n.Valid t) {step : OwnedStep} (own : step.Of n me) :
    n.view me (step.act t) = step.act (n.view me t) := by
  cases step with
  | query => rfl
  | commit writes =>
    have refused := refused_view valid own
    simp only [OwnedStep.refused] at refused
    simp only [act, ← refused]
    split_ifs
    · rfl
    · exact OwnedWrite.view_foldl_own valid own

/-- A transaction of another tenant does nothing to them. -/
theorem view_act_other (valid : n.Valid t) {step : OwnedStep} (own : step.Of n other)
    (hne : other ≠ me) : n.view me (step.act t) = n.view me t := by
  cases step with
  | query => rfl
  | commit writes =>
    simp only [act]
    split_ifs
    · rfl
    · exact OwnedWrite.view_foldl_other valid own hne

end OwnedStep

/-- The transactions of a tenant and those of the others. -/
theorem owned_confined (n : Tenancy) (me : AccessScope) :
    Confined OwnedStep.act (n.view me) n.Valid (OwnedStep.Of n me)
      (fun step => ∃ other, step.Of n other ∧ other ≠ me) where
  keeps t step := by
    rintro (own | ⟨other, own, -⟩) valid <;> exact OwnedStep.valid_act valid own
  own t t' step own valid valid' same := by
    rw [OwnedStep.view_act_own valid own, OwnedStep.view_act_own valid' own, same]
  other t step := by
    rintro ⟨other, own, hne⟩ valid
    exact OwnedStep.view_act_other valid own hne

end Steps

/-! ## Reads -/

/-- The scope has rows of the tenant only. -/
def Tenancy.Confines (n : Tenancy) (me scope : AccessScope) : Prop :=
  ∀ record : Ownership, record.factoryId = n.factoryOf record.userId →
    scope.admitsOwnership record = true → n.tenant record.userId = me

/-- The rows of the tables are those of a ledger. -/
structure Tenancy.Holds {ρ : Type} (n : Tenancy) (L : Ledger ρ String AccessScope)
    (rows : OwnedTables → List ρ) : Prop where
  valid : ∀ t, n.Valid t → L.Valid (rows t)
  view : ∀ me t, rows (n.view me t) = L.part me (rows t)

section Reads

variable {n : Tenancy} {me scope : AccessScope} {userId id : String} {t t' : OwnedTables}

theorem Tenancy.tenant_of_factory {factoryId : String} (filled : factoryId ≠ "")
    (h : n.factoryOf userId = some factoryId) : n.tenant userId = .factory factoryId := by
  simp [tenant, resolveAccessScope, h, Option.filter_some, filled]

theorem Tenancy.tenant_cases (n : Tenancy) (userId : String) :
    (∃ factoryId, factoryId ≠ "" ∧ n.tenant userId = .factory factoryId) ∨
      n.tenant userId = .user userId := by
  unfold tenant resolveAccessScope
  rw [if_neg nofun]
  cases h : (n.factoryOf userId).filter (· ≠ "") with
  | none => exact Or.inr rfl
  | some factoryId =>
    obtain ⟨-, filled⟩ := Option.filter_eq_some_iff.mp h
    exact Or.inl ⟨factoryId, of_decide_eq_true filled, rfl⟩

theorem confines_user : n.Confines (n.tenant userId) (.user userId) := by
  intro record _ admitted
  obtain rfl : record.userId = userId := by simpa [AccessScope.admitsOwnership] using admitted
  rfl

theorem confines_tenant : n.Confines (n.tenant userId) (n.tenant userId) := by
  intro record hfactory admitted
  rcases n.tenant_cases userId with ⟨factoryId, filled, h⟩ | h
  · rw [h] at admitted ⊢
    have same : record.factoryId = some factoryId := by
      simpa [AccessScope.admitsOwnership] using admitted
    exact Tenancy.tenant_of_factory filled (hfactory.symm.trans same)
  · rw [h] at admitted
    exact confines_user record hfactory admitted

namespace Tenancy

theorem assets_holds : n.Holds n.assets (·.assets) := ⟨fun _ valid => valid.assets, fun _ _ => rfl⟩

theorem devices_holds : n.Holds n.devices (·.devices) :=
  ⟨fun _ valid => valid.devices, fun _ _ => rfl⟩

theorem dashboards_holds : n.Holds n.dashboards (·.dashboards) :=
  ⟨fun _ valid => valid.dashboards, fun _ _ => rfl⟩

/-- A query whose result is up to the rows of the tenant. -/
theorem Holds.congr {ρ β : Type} {L : Ledger ρ String AccessScope} {rows : OwnedTables → List ρ}
    (holds : n.Holds L rows) (f : List ρ → β)
    (local' : ∀ rows, L.Valid rows → f rows = f (L.part me rows)) (valid : n.Valid t)
    (valid' : n.Valid t') (same : n.view me t = n.view me t') : f (rows t) = f (rows t') := by
  rw [local' _ (holds.valid t valid), local' _ (holds.valid t' valid'), ← holds.view, ← holds.view,
    same]

end Tenancy

/-- The processes of a tenant. -/
abbrev Tenancy.Stays (n : Tenancy) (me : AccessScope) (p : OwnedProc) : Prop :=
  p.Stays n.Valid (n.view me) (OwnedStep.Of n me)

theorem commitProc_stays {writes : List OwnedWrite} {answer : OwnedAnswer}
    (own : ∀ write ∈ writes, write.Of n me) : n.Stays me (commitProc writes answer) := by
  refine .last own fun t t' valid valid' same => ?_
  have step : OwnedStep.Of n me (.commit writes) := own
  rw [OwnedStep.refused_view valid step, OwnedStep.refused_view valid' step, same]

theorem commitProc_one_stays {write : OwnedWrite} {answer : OwnedAnswer} (own : write.Of n me) :
    n.Stays me (commitProc [write] answer) :=
  commitProc_stays (List.forall_mem_singleton.mpr own)

theorem commitProc_two_stays {write write' : OwnedWrite} {answer : OwnedAnswer}
    (own : write.Of n me) (own' : write'.Of n me) :
    n.Stays me (commitProc [write, write'] answer) :=
  commitProc_stays (List.forall_mem_cons.mpr ⟨own, List.forall_mem_singleton.mpr own'⟩)

section Table

variable {ρ : Type} {table : OwnedTable ρ} {ok : ρ → Prop} {rows : OwnedTables → List ρ}

theorem findProc_stays (holds : n.Holds (n.ledger table ok) rows) {missing : OwnedAnswer}
    {found : ρ → OwnedProc}
    (only : ∀ row, (n.ledger table ok).Fair row → table.id row = id →
      scope.admitsOwnership (table.ownership row) = true →
      n.tenant (table.ownership row).userId = me)
    (next : ∀ row, (n.ledger table ok).Fair row → n.tenant (table.ownership row).userId = me →
      scope.admitsOwnership (table.ownership row) = true → n.Stays me (found row)) :
    n.Stays me (findProc table rows scope id missing found) := by
  have own : ∀ row, (n.ledger table ok).Fair row →
      decide (table.id row = id ∧ scope.admitsOwnership (table.ownership row) = true) = true →
      n.tenant (table.ownership row).userId = me := by
    intro row fair h
    obtain ⟨hid, admitted⟩ := of_decide_eq_true h
    exact only row fair hid admitted
  refine .read trivial (fun t t' => holds.congr (table.findOne · scope id)
    fun rows valid => Ledger.find?_part valid own) fun t valid => ?_
  cases h : table.findOne (rows t) scope id with
  | none => exact .ret _
  | some row =>
    have fair := holds.valid t valid row (List.mem_of_find?_eq_some h)
    have met := List.find?_some h
    exact next row fair (own row fair met) (of_decide_eq_true met).2

theorem paginateProc_stays {α : Type} (holds : n.Holds (n.ledger table ok) rows)
    {query : SelectQueryBuilder α} {of : ρ → α}
    (only : ∀ row, (n.ledger table ok).Fair row → query.condition (of row) = true →
      n.tenant (table.ownership row).userId = me)
    (page : PageOptions) (answer : List ρ → PageMeta → OwnedAnswer) :
    n.Stays me (paginateProc query of rows page answer) := by
  have selects : ∀ rows, (n.ledger table ok).Valid rows →
      query.getMany of rows = query.getMany of ((n.ledger table ok).part me rows) := by
    intro rows valid
    unfold SelectQueryBuilder.getMany
    rw [Ledger.filter_part valid only]
  refine .read trivial
    (fun t t' => holds.congr (fun rows => (paginate page (query.getMany of rows)).1) ?_)
    fun _ _ => .read trivial
      (fun t t' => holds.congr (fun rows => (query.getMany of rows).length) ?_) fun _ _ => .ret _
  · exact fun rows valid => congrArg (fun selected => (paginate page selected).1)
      (selects rows valid)
  · exact fun rows valid => congrArg List.length (selects rows valid)

end Table

/-! ### Assets -/

theorem findAssetProc_stays {missing : OwnedAnswer} {found : AssetRow → OwnedProc}
    (confines : n.Confines me scope)
    (next : ∀ row, n.assets.Fair row → n.tenant row.entity.userId = me → n.Stays me (found row)) :
    n.Stays me (findAssetProc scope id missing found) :=
  findProc_stays Tenancy.assets_holds
    (fun row fair _ admitted => confines (assetRowTable.ownership row) fair.ok.1 admitted)
    fun row fair own _ => next row fair own

theorem getAssetsProc_stays (confines : n.Confines me scope) (order : Option Order)
    (page : PageOptions) : n.Stays me (getAssetsProc scope order page) := by
  refine paginateProc_stays Tenancy.assets_holds (fun row fair met => ?_) page _
  refine confines (assetRowTable.ownership row) fair.ok.1 ?_
  cases scope <;> exact met

theorem createAssetProc_stays (issued : n.issuedTo id = n.tenant userId) (now : Date)
    (dto : CreateAssetDto) :
    n.Stays (n.tenant userId) (createAssetProc id now userId (n.factoryOf userId) dto) := by
  have fair : n.assets.Fair
      { entity := createdAsset id userId (n.factoryOf userId) dto, createdAt := now } :=
    ⟨⟨rfl, trivial⟩, issued⟩
  exact commitProc_one_stays fair.stores

theorem updateAssetProc_stays (dto : UpdateAssetDto) :
    n.Stays (n.tenant userId) (updateAssetProc userId id dto) := by
  refine findAssetProc_stays confines_user fun row fair own => ?_
  have saved : n.assets.Fair (updatedAsset dto row) := ⟨fair.ok, fair.issued⟩
  exact own ▸ commitProc_one_stays saved.stores_free

theorem deleteAssetProc_stays : n.Stays (n.tenant userId) (deleteAssetProc userId id) := by
  refine findAssetProc_stays confines_user fun row fair own => ?_
  have issued : n.issuedTo row.id = n.tenant userId := fair.issued.trans own
  refine commitProc_two_stays issued fun device fair attached => ?_
  have mine : n.tenant device.userId = n.tenant userId :=
    (fair.ok.2.2 row.id (of_decide_eq_true attached)).symm.trans issued
  exact ⟨mine, ⟨⟨fair.ok.1, fair.ok.2.1, nofun⟩, fair.issued⟩, mine⟩

/-! ### Assessments -/

/-- An assessment depends on the nodes of the asset. -/
theorem assessAsset_congr {inputs : HealthInputs} {devices devices' : List DeviceEntity}
    {row : AssetRow} (same : nodesOf row.id devices = nodesOf row.id devices') :
    assessAsset inputs devices row = assessAsset inputs devices' row := by
  unfold assessAsset
  rw [same]

theorem nodesOf_part {devices : List DeviceEntity} (valid : n.devices.Valid devices)
    (issued : n.issuedTo id = me) : nodesOf id devices = nodesOf id (n.devices.part me devices) :=
  Ledger.filter_part valid fun _ fair attached =>
    (fair.ok.2.2 id (of_decide_eq_true attached)).symm.trans issued

theorem saveHealth_of {row : AssetRow} (issued : n.issuedTo row.id = me) (inputs : HealthInputs)
    (devices : List DeviceEntity) :
    (saveHealth (assessAsset inputs devices row).1).Of n me := by
  intro old fair same
  have key : old.id = row.id := of_decide_eq_true same
  have mine : n.tenant old.entity.userId = me := by
    rw [← issued, ← key]
    exact fair.issued.symm
  exact ⟨mine, ⟨fair.ok, fair.issued⟩, mine⟩

theorem getAssessment_found_stays {asset : AssetRow} (issued : n.issuedTo asset.id = me)
    (inputs : HealthInputs) :
    n.Stays me (Proc.read .query (fun t => assessAsset inputs t.devices asset) >>= fun assessment =>
      commitProc [saveHealth assessment.1] (.assessment (.ok assessment.2))) :=
  .read trivial
    (fun _ _ => Tenancy.devices_holds.congr (assessAsset inputs · asset) fun _ valid =>
      assessAsset_congr (nodesOf_part valid issued))
    fun t _ => commitProc_one_stays (saveHealth_of issued inputs t.devices)

theorem getAssessmentProc_stays (confines : n.Confines me scope) (inputs : HealthInputs) :
    n.Stays me (getAssessmentProc inputs scope id) :=
  findAssetProc_stays confines fun _ fair own =>
    getAssessment_found_stays (fair.issued.trans own) inputs

/-- A guest reads an asset of any tenant, and has its assessment stored. -/
theorem getAssessmentProc_unrestricted_stays (issued : n.issuedTo id = me)
    (inputs : HealthInputs) : n.Stays me (getAssessmentProc inputs .unrestricted id) := by
  refine findProc_stays Tenancy.assets_holds (fun row fair hid _ => ?_) fun row fair own _ =>
    getAssessment_found_stays (fair.issued.trans own) inputs
  rw [← issued, ← hid]
  exact fair.issued.symm

/-- The row of a device of the tenant is saved. -/
theorem saveDevice_of {copy : DeviceEntity} (fair : n.devices.Fair copy)
    (own : n.tenant copy.userId = me) : n.devices.Of me (saveDevice copy) := by
  refine ⟨fair, own, fun other fair' same => ?_⟩
  show n.tenant other.userId = me
  rw [← own, ← fair'.ok.2.1, of_decide_eq_true same]
  exact fair.ok.2.1

theorem saveNodeProc_stays {asset : AssetRow} {copy : DeviceEntity}
    (issued : n.issuedTo asset.id = me) (save : n.devices.Of me (saveDevice copy))
    (inputs : HealthInputs) : n.Stays me (saveNodeProc inputs asset copy) := by
  refine .read trivial (fun t t' => Tenancy.devices_holds.congr (fun devices =>
    assessAsset inputs ((saveDevice copy).act DeviceEntity.id devices) asset) fun rows valid => ?_)
    fun t _ => ?_
  · refine assessAsset_congr ((nodesOf_part (Ledger.Valid.act valid save) issued).trans ?_)
    exact congrArg (nodesOf asset.id) (Ledger.part_act_own valid save)
  · exact commitProc_two_stays save (saveHealth_of issued inputs _)

/-- An edit that leaves the device one of the tenant's. -/
theorem editNodeProc_stays {inputs : HealthInputs} {assetId deviceId : String}
    {isNode : AssetRow → DeviceEntity → Bool} {edit : AssetRow → DeviceEntity → DeviceEntity}
    (keeps : ∀ asset device, n.issuedTo asset.id = n.tenant userId → device.userId = userId →
      n.devices.Fair device → n.devices.Fair (edit asset device) ∧
        (edit asset device).userId = userId) :
    n.Stays (n.tenant userId) (editNodeProc inputs userId assetId deviceId isNode edit) := by
  refine findAssetProc_stays confines_user fun asset fair own => ?_
  have issued : n.issuedTo asset.id = n.tenant userId := fair.issued.trans own
  refine .read trivial (fun t t' => Tenancy.devices_holds.congr (fun devices =>
      (deviceTable.findOne devices (.user userId) deviceId).filter (isNode asset))
    fun rows valid => ?_) fun t valid => ?_
  · refine congrArg (Option.filter (isNode asset)) (Ledger.find?_part valid fun row fair met => ?_)
    exact confines_user (deviceTable.ownership row) fair.ok.1 (of_decide_eq_true met).2
  · cases h : (deviceTable.findOne t.devices (.user userId) deviceId).filter (isNode asset) with
    | none => exact .ret _
    | some device =>
      have found := (Option.filter_eq_some_iff.mp h).1
      have fair := valid.devices device (List.mem_of_find?_eq_some found)
      have met := List.find?_some found
      have mine : device.userId = userId := of_decide_eq_true (of_decide_eq_true met).2
      obtain ⟨saved, same⟩ := keeps asset device issued mine fair
      exact saveNodeProc_stays issued (saveDevice_of saved (congrArg n.tenant same)) inputs

theorem attachNodeProc_stays {inputs : HealthInputs} {assetId deviceId : String}
    {healthWeight : Option Rat} :
    n.Stays (n.tenant userId) (attachNodeProc inputs userId assetId deviceId healthWeight) := by
  refine editNodeProc_stays fun asset device issued mine fair => ⟨⟨⟨fair.ok.1, fair.ok.2.1, ?_⟩,
    fair.issued⟩, mine⟩
  intro attached h
  obtain rfl : asset.id = attached := Option.some.inj h
  exact issued.trans (congrArg n.tenant mine.symm)

theorem updateNodeWeightProc_stays {inputs : HealthInputs} {assetId deviceId : String}
    {healthWeight : Rat} :
    n.Stays (n.tenant userId) (updateNodeWeightProc inputs userId assetId deviceId healthWeight) :=
  editNodeProc_stays fun _ _ _ mine fair => ⟨⟨fair.ok, fair.issued⟩, mine⟩

theorem detachNodeProc_stays {inputs : HealthInputs} {assetId deviceId : String} :
    n.Stays (n.tenant userId) (detachNodeProc inputs userId assetId deviceId) :=
  editNodeProc_stays fun _ _ _ mine fair =>
    ⟨⟨⟨fair.ok.1, fair.ok.2.1, nofun⟩, fair.issued⟩, mine⟩

/-! ### Devices -/

theorem findDeviceProc_stays {missing : OwnedAnswer} {found : DeviceEntity → OwnedProc}
    (confines : n.Confines me scope)
    (next : ∀ row, n.devices.Fair row → n.tenant row.userId = me → n.Stays me (found row)) :
    n.Stays me (findProc deviceTable (·.devices) scope id missing found) :=
  findProc_stays Tenancy.devices_holds
    (fun row fair _ admitted => confines (deviceTable.ownership row) fair.ok.1 admitted)
    fun row fair own _ => next row fair own

theorem getUserDevicesProc_stays (confines : n.Confines me scope)
    (joinOrder : DeviceEntity → DeviceEntity → Bool) (order : Option Order) (page : PageOptions) :
    n.Stays me (getUserDevicesProc joinOrder scope order page) := by
  refine paginateProc_stays Tenancy.devices_holds (fun row fair met => ?_) page _
  refine confines (deviceTable.ownership row) fair.ok.1 ?_
  cases scope <;> exact met

theorem registerDeviceProc_stays {dto : RegisterDeviceDto}
    (issued : n.issuedTo id = n.tenant userId)
    (bought : n.boughtBy dto.deviceId = n.tenant userId) (templates : List DeviceTemplateEntity)
    (now : Date) :
    n.Stays (n.tenant userId)
      (registerDeviceProc templates id now userId (n.factoryOf userId) dto) := by
  have holder : ∀ row : DeviceEntity, n.devices.Fair row → row.deviceId = dto.deviceId →
      n.tenant row.userId = n.tenant userId := by
    intro row fair same
    rw [← bought, ← same]
    exact fair.ok.2.1.symm
  unfold registerDeviceProc
  cases findTemplate templates dto.templateId with
  | none => exact .ret _
  | some template =>
    simp only [registerTemplated]
    split_ifs
    · exact .ret _
    · refine .read trivial (fun _ _ => Tenancy.devices_holds.congr
        (fun devices => devices.any (·.deviceId = dto.deviceId)) fun rows valid =>
          Ledger.any_part valid fun row fair same => holder row fair (of_decide_eq_true same))
        fun t _ => ?_
      cases t.devices.any (·.deviceId = dto.deviceId) with
      | true => exact .ret _
      | false =>
        have stores : n.devices.Stores (n.tenant userId)
            (createdDevice id now userId (n.factoryOf userId) dto)
            (fun row => row.id = id ∨ row.deviceId = dto.deviceId) := by
          refine ⟨⟨⟨rfl, bought, nofun⟩, issued⟩, rfl, fun row fair clash => ?_⟩
          rcases of_decide_eq_true clash with same | same
          · rw [← issued, ← same]
            exact fair.issued.symm
          · exact holder row fair same
        exact commitProc_one_stays stores

theorem updateDeviceConfigProc_stays (dto : UpdateDeviceConfigDto) :
    n.Stays (n.tenant userId) (updateDeviceConfigProc userId id dto) :=
  findDeviceProc_stays confines_user fun device fair own =>
    have saved : n.devices.Fair (applyConfigDto dto device) := ⟨fair.ok, fair.issued⟩
    commitProc_one_stays (saveDevice_of saved own)

theorem deleteDeviceProc_stays : n.Stays (n.tenant userId) (deleteDeviceProc userId id) :=
  findDeviceProc_stays confines_user fun _ fair own => commitProc_one_stays (fair.issued.trans own)

/-! ### Dashboards -/

theorem findDashboardProc_stays {missing : OwnedAnswer} {found : DashboardEntity → OwnedProc}
    (confines : n.Confines me scope)
    (next : ∀ row, n.dashboards.Fair row → n.tenant row.userId = me → n.Stays me (found row)) :
    n.Stays me (findProc dashboardTable (·.dashboards) scope id missing found) :=
  findProc_stays Tenancy.dashboards_holds
    (fun row fair _ admitted => confines (dashboardTable.ownership row) fair.ok.1 admitted)
    fun row fair own _ => next row fair own

theorem getUserDashboardsProc_stays (confines : n.Confines me scope) :
    n.Stays me (getUserDashboardsProc scope) := by
  refine .last trivial fun _ _ => Tenancy.dashboards_holds.congr (fun rows =>
    OwnedAnswer.dashboards (DashboardEditor.getUserDashboards scope rows)) fun rows valid =>
      congrArg _ (Ledger.filter_part valid fun row fair admitted => ?_)
  exact confines (dashboardTable.ownership row) fair.ok.1 admitted

theorem createDashboardProc_stays (issued : n.issuedTo id = n.tenant userId)
    (dto : SaveDashboardDto) :
    n.Stays (n.tenant userId) (createDashboardProc id userId (n.factoryOf userId) dto) := by
  have fair : n.dashboards.Fair (createdDashboard id userId (n.factoryOf userId) dto) :=
    ⟨⟨rfl, trivial⟩, issued⟩
  exact commitProc_one_stays fair.stores

theorem updateDashboardProc_stays (dto : SaveDashboardDto) :
    n.Stays (n.tenant userId) (updateDashboardProc userId id dto) := by
  refine findDashboardProc_stays confines_user fun row fair own => ?_
  have saved : n.dashboards.Fair (DashboardEditor.updatedDashboard dto row) :=
    ⟨fair.ok, fair.issued⟩
  exact own ▸ commitProc_one_stays saved.stores_free

theorem deleteDashboardProc_stays : n.Stays (n.tenant userId) (deleteDashboardProc userId id) :=
  findDashboardProc_stays confines_user fun _ fair own =>
    commitProc_one_stays (fair.issued.trans own)

end Reads

/-! ## Tenants apart -/

/-- The keys that the call has generated, and the device it registers, are for its tenant. -/
def OwnedCall.Granted (n : Tenancy) (userId : String) : OwnedCall → Prop
  | createAsset id .. | createDashboard id _ => n.issuedTo id = n.tenant userId
  | registerDevice _ id _ dto =>
    n.issuedTo id = n.tenant userId ∧ n.boughtBy dto.deviceId = n.tenant userId
  | _ => True

namespace OwnedRequest

structure Granted (n : Tenancy) (request : OwnedRequest) : Prop where
  factory : request.user.factoryId = n.factoryOf request.user.id
  call : request.call.Granted n request.user.id

/-- Who the request is for. A guest has no rows, but the assessment that it asks for is stored
with the asset. -/
def tenant (n : Tenancy) (request : OwnedRequest) : AccessScope :=
  if request.user.role = .guest then
    match request.call with
    | .getAssetHealth _ id => n.issuedTo id
    | _ => .unrestricted
  else n.tenant request.user.id

variable {n : Tenancy} {request : OwnedRequest}

theorem Granted.scopeOf (granted : request.Granted n) (role : request.user.role ≠ .guest) :
    scopeOf request.user = n.tenant request.user.id := by
  unfold AiotCloud.scopeOf Tenancy.tenant resolveAccessScope
  rw [if_neg role, if_neg nofun, granted.factory]

/-- A call of an account reads and writes rows of its tenant. -/
theorem Granted.stays (granted : request.Granted n) (role : request.user.role ≠ .guest) :
    n.Stays (n.tenant request.user.id) request.proc := by
  obtain ⟨user, call⟩ := request
  have confines : n.Confines (n.tenant user.id) (AiotCloud.scopeOf user) := by
    rw [show AiotCloud.scopeOf user = _ from granted.scopeOf role]
    exact confines_tenant
  have factory : user.factoryId = n.factoryOf user.id := granted.factory
  have issued := granted.call
  unfold proc
  rw [if_neg fun h => role h.1]
  cases call with
  | getAssets order page => exact getAssetsProc_stays confines order page
  | getAsset id => exact findAssetProc_stays confines fun _ _ _ => .ret _
  | createAsset id now dto =>
    show n.Stays _ (createAssetProc id now user.id user.factoryId dto)
    exact factory ▸ createAssetProc_stays issued now dto
  | updateAsset id dto => exact updateAssetProc_stays dto
  | deleteAsset id => exact deleteAssetProc_stays
  | getAssetHealth inputs id => exact getAssessmentProc_stays confines inputs
  | attachNode inputs assetId deviceId healthWeight => exact attachNodeProc_stays
  | updateNodeWeight inputs assetId deviceId healthWeight => exact updateNodeWeightProc_stays
  | detachNode inputs assetId deviceId => exact detachNodeProc_stays
  | getDevices joinOrder order page => exact getUserDevicesProc_stays confines joinOrder order page
  | getDevice id => exact findDeviceProc_stays confines fun _ _ _ => .ret _
  | registerDevice templates id now dto =>
    show n.Stays _ (registerDeviceProc templates id now user.id user.factoryId dto)
    exact factory ▸ registerDeviceProc_stays issued.1 issued.2 templates now
  | updateDeviceConfig id dto => exact updateDeviceConfigProc_stays dto
  | deleteDevice id => exact deleteDeviceProc_stays
  | getDashboards => exact getUserDashboardsProc_stays confines
  | getDashboard id => exact findDashboardProc_stays confines fun _ _ _ => .ret _
  | createDashboard id dto =>
    show n.Stays _ (createDashboardProc id user.id user.factoryId dto)
    exact factory ▸ createDashboardProc_stays issued dto
  | updateDashboard id dto => exact updateDashboardProc_stays dto
  | deleteDashboard id => exact deleteDashboardProc_stays

end OwnedRequest

/-! ### Guests -/

/-- The process takes no step but queries. -/
abbrev ReadsOnly (p : OwnedProc) : Prop := p.Only fun step => step = .query

theorem findProc_readsOnly {ρ : Type} {table : OwnedTable ρ} {rows : OwnedTables → List ρ}
    {scope : AccessScope} {id : String} {missing : OwnedAnswer} {answer : ρ → OwnedAnswer} :
    ReadsOnly (findProc table rows scope id missing fun entity => pure (answer entity)) := by
  refine ⟨rfl, fun t => ?_⟩
  show ReadsOnly (goOn missing (fun entity => pure (answer entity))
    (table.findOne (rows t) scope id))
  cases table.findOne (rows t) scope id <;> trivial

theorem paginateProc_readsOnly {ρ α : Type} {query : SelectQueryBuilder α} {of : ρ → α}
    {table : OwnedTables → List ρ} {page : PageOptions} {answer : List ρ → PageMeta → OwnedAnswer} :
    ReadsOnly (paginateProc query of table page answer) :=
  ⟨rfl, fun _ => ⟨rfl, fun _ => trivial⟩⟩

namespace OwnedRequest

variable {n : Tenancy} {request : OwnedRequest}

/-- A guest asks for an assessment, or changes nothing. -/
theorem guest_cases (n : Tenancy) (role : request.user.role = .guest) :
    (∃ inputs id, request.call = .getAssetHealth inputs id ∧
        request.proc = getAssessmentProc inputs .unrestricted id) ∨
      request.tenant n = .unrestricted ∧ ReadsOnly request.proc := by
  obtain ⟨user, call⟩ := request
  have scope : scopeOf user = .unrestricted := if_pos role
  unfold proc tenant
  rw [if_pos role]
  cases call with
  | getAssetHealth inputs id =>
    refine Or.inl ⟨inputs, id, rfl, ?_⟩
    rw [if_neg fun h => by cases h.2]
    exact congrArg (getAssessmentProc inputs · id) scope
  | getAssets | getDevices =>
    rw [if_neg fun h => by cases h.2]
    exact Or.inr ⟨rfl, paginateProc_readsOnly⟩
  | getAsset | getDevice | getDashboard =>
    rw [if_neg fun h => by cases h.2]
    exact Or.inr ⟨rfl, findProc_readsOnly⟩
  | getDashboards =>
    rw [if_neg fun h => by cases h.2]
    exact Or.inr ⟨rfl, rfl, fun _ => trivial⟩
  | createAsset | updateAsset | deleteAsset | attachNode | updateNodeWeight | detachNode
  | registerDevice | updateDeviceConfig | deleteDevice | createDashboard | updateDashboard
  | deleteDashboard =>
    rw [if_pos ⟨role, rfl⟩]
    exact Or.inr ⟨rfl, trivial⟩

/-- Every request takes steps of its tenant. -/
theorem Granted.within (granted : request.Granted n) :
    request.proc.Within n.Valid (OwnedStep.Of n (request.tenant n)) := by
  by_cases role : request.user.role = .guest
  · rcases guest_cases n role with ⟨inputs, id, hcall, hproc⟩ | ⟨-, reads⟩
    · rw [hproc, tenant, if_pos role, hcall]
      exact (getAssessmentProc_unrestricted_stays rfl inputs).within
    · refine reads.within.mono fun step => ?_
      rintro rfl
      trivial
  · rw [tenant, if_neg role]
    exact (granted.stays role).within

/-- A request for a tenant sees the rows of the tenant. -/
theorem Granted.sees (granted : request.Granted n) {me : String}
    (own : request.tenant n = n.tenant me) : request.proc.Sees n.Valid (n.view (n.tenant me)) := by
  by_cases role : request.user.role = .guest
  · rcases guest_cases n role with ⟨inputs, id, hcall, hproc⟩ | ⟨none', -⟩
    · have issued : n.issuedTo id = n.tenant me := by
        rw [← own, tenant, if_pos role, hcall]
      exact hproc ▸ (getAssessmentProc_unrestricted_stays issued inputs).sees
    · rw [none'] at own
      rcases n.tenant_cases me with ⟨factoryId, -, h⟩ | h <;> rw [h] at own <;> cases own
  · rw [tenant, if_neg role] at own
    exact own ▸ (granted.stays role).sees

end OwnedRequest

section Apart

variable {ι : Type} {n : Tenancy} {me : String} {tables : OwnedTables}

/-- The requests for a tenant, and those for the others. -/
theorem ownedRequests_parties (valid : n.Valid tables) {requests : ι → OwnedRequest}
    (granted : ∀ i, (requests i).Granted n) {mine : ι → Prop}
    (own : ∀ i, mine i ↔ (requests i).tenant n = n.tenant me) :
    Sys.Parties (n.view (n.tenant me)) n.Valid (OwnedStep.Of n (n.tenant me))
      (fun step => ∃ other, step.Of n other ∧ other ≠ n.tenant me) mine
      (ownedRequests tables requests) where
  shared := valid
  sees i hi := (granted i).sees ((own i).mp hi)
  own i hi := (own i).mp hi ▸ (granted i).within
  other i hi := by
    refine (granted i).within.mono fun step hstep => ?_
    exact ⟨_, hstep, fun same => hi ((own i).mpr same)⟩

/-- Take two runs in which the requests for a tenant are the same, at the same turns, on the same
rows of the tenant. Whatever is requested for the others, by accounts of any role, the rows of the
tenant and the answers to its requests are the same. The accounts stay in their factories, a key
is generated once, and no tenant registers a device that another one bought. -/
theorem factories_apart [DecidableEq ι] {tables' : OwnedTables} (valid : n.Valid tables)
    (valid' : n.Valid tables')
    (same : n.view (n.tenant me) tables = n.view (n.tenant me) tables')
    {requests requests' : ι → OwnedRequest} (granted : ∀ i, (requests i).Granted n)
    (granted' : ∀ i, (requests' i).Granted n)
    (agree : ∀ i, (requests i).tenant n = n.tenant me ∨ (requests' i).tenant n = n.tenant me →
      requests i = requests' i)
    {sched sched' : List ι}
    (turns : sched.filter (fun i => (requests i).tenant n = n.tenant me) =
      sched'.filter (fun i => (requests i).tenant n = n.tenant me)) :
    let c := (ownedRequests tables requests).run OwnedStep.act sched
    let c' := (ownedRequests tables' requests').run OwnedStep.act sched'
    n.view (n.tenant me) c.shared = n.view (n.tenant me) c'.shared ∧
      ∀ i, (requests i).tenant n = n.tenant me →
        ∀ answer, c.Returned i answer ↔ c'.Returned i answer := by
  intro c c'
  have mine : ∀ i, (requests i).tenant n = n.tenant me ↔ (requests' i).tenant n = n.tenant me :=
    fun i => ⟨fun h => agree i (Or.inl h) ▸ h, fun h => (agree i (Or.inr h)).symm ▸ h⟩
  have start : Sys.Agree (n.view (n.tenant me)) (fun i => (requests i).tenant n = n.tenant me)
      (ownedRequests tables requests) (ownedRequests tables' requests') :=
    ⟨same, fun i hi => congrArg OwnedRequest.proc (agree i (Or.inl hi))⟩
  have final := start.run (ownedRequests_parties valid granted fun _ => Iff.rfl)
    (ownedRequests_parties valid' granted' mine) (owned_confined n (n.tenant me)) turns
  exact ⟨final.view, fun i hi => final.returned_iff hi⟩

/-- Accounts of two factories. -/
def twoTenants : Tenancy where
  factoryOf userId := if userId = "ann" then some "fa" else some "fb"
  issuedTo id := if id = "a1" then .factory "fa" else .factory "fb"
  boughtBy _ := .factory "fb"

/-- An asset in each. -/
def twoFactories : OwnedTables where
  assets :=
    [{ entity := { id := "a1", userId := "ann", factoryId := some "fa" }, createdAt := 0 },
      { entity := { id := "b1", userId := "ben", factoryId := some "fb" }, createdAt := 0 }]

/-- The one account lists its assets while the other makes some call. -/
def besideListing (call : OwnedCall) : Bool → OwnedRequest
  | true => ⟨{ id := "ann", username := "ann", factoryId := some "fa" }, .getAssets none {}⟩
  | false => ⟨{ id := "ben", username := "ben", factoryId := some "fb" }, call⟩

theorem factories_apart_two :
    let deleted := (ownedRequests twoFactories (besideListing (.deleteAsset "b1"))).run
      OwnedStep.act [false, true, false, true]
    let listed := (ownedRequests twoFactories (besideListing .getDashboards)).run
      OwnedStep.act [true, false, true]
    twoTenants.view (twoTenants.tenant "ann") deleted.shared =
      twoTenants.view (twoTenants.tenant "ann") listed.shared := by
  have valid : twoTenants.Valid twoFactories := by
    refine ⟨?_, List.forall_mem_nil _, List.forall_mem_nil _⟩
    refine List.forall_mem_cons.mpr ⟨⟨⟨?_, trivial⟩, ?_⟩, List.forall_mem_singleton.mpr
      ⟨⟨?_, trivial⟩, ?_⟩⟩
    all_goals decide +kernel
  refine (factories_apart valid valid rfl ?_ ?_ ?_ ?_).1
  · rintro (_ | _) <;> exact ⟨by decide +kernel, trivial⟩
  · rintro (_ | _) <;> exact ⟨by decide +kernel, trivial⟩
  · rintro (_ | _) h
    · exact absurd h (by decide +kernel)
    · rfl
  · decide +kernel

end Apart

end AiotCloud
