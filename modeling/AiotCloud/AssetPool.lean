import Mathlib.Algebra.Order.BigOperators.Group.List
import AiotCloud.AssetHealth
import AiotCloud.LifecycleScore

/-!
# The pool of an asset's nodes

The index of an asset is computed from the sums over its nodes, each by its weight.

1. `weightedSum_perm`, `weightedSum_mono`: the sums.
2. `asset_health_pool`: the index is a number from 0 to 100, whatever the order of the nodes, and
   wear of the asset or of its nodes does not raise it.
3. `weightless_nodes_iff`: a node of weight 0 does not count, unless no other one is left.
-/

namespace AiotCloud

open AssetHealth

/-! ## Weighted sums -/

section WeightedSum

variable {α : Type} {weight value : α → Rat} {nodes nodes' : List α}

@[simp] theorem weightedSum_nil : weightedSum weight value [] = 0 := rfl

@[simp] theorem weightedSum_cons (node : α) (nodes : List α) :
    weightedSum weight value (node :: nodes) =
      value node * weight node + weightedSum weight value nodes := rfl

theorem sum_weights : (nodes.map weight).sum = weightedSum weight (fun _ => 1) nodes := by
  simp only [weightedSum, one_mul]

theorem weightedSum_perm (h : nodes.Perm nodes') :
    weightedSum weight value nodes = weightedSum weight value nodes' := (h.map _).sum_eq

theorem weightedSum_congr {weight' value' : α → Rat}
    (h : List.Forall₂ (fun a b => value' b = value a ∧ weight' b = weight a) nodes nodes') :
    weightedSum weight' value' nodes' = weightedSum weight value nodes := by
  induction h with
  | nil => rfl
  | cons same _ ih => rw [weightedSum_cons, weightedSum_cons, same.1, same.2, ih]

theorem weightedSum_mono {weight' value' : α → Rat}
    (h : List.Forall₂ (fun a b => value' b ≤ value a ∧ weight' b = weight a) nodes nodes')
    (positive : ∀ node ∈ nodes, 0 ≤ weight node) :
    weightedSum weight' value' nodes' ≤ weightedSum weight value nodes := by
  induction h with
  | nil => exact le_refl _
  | @cons a b _ _ less _ ih =>
    rw [List.forall_mem_cons] at positive
    rw [weightedSum_cons, weightedSum_cons, less.2]
    exact add_le_add (mul_le_mul_of_nonneg_right less.1 positive.1) (ih positive.2)

/-- A node of weight 0 adds nothing, wherever it is. -/
theorem weightedSum_weightless {node : α} (weightless : weight node = 0)
    (h : nodes.Perm (node :: nodes')) :
    weightedSum weight value nodes' = weightedSum weight value nodes := by
  rw [weightedSum_perm h, weightedSum_cons, weightless, mul_zero, zero_add]

end WeightedSum
/-! ## Assessments of an asset -/

/-- What the assessment of an asset reads. -/
structure AssessedAsset where
  inputs : HealthInputs
  devices : List DeviceEntity
  row : AssetRow

namespace AssessedAsset

def nodes (a : AssessedAsset) : List DeviceEntity := nodesOf a.row.id a.devices

def saved (a : AssessedAsset) : AssetRow := (assessAsset a.inputs a.devices a.row).1

def installedAt (a : AssessedAsset) : Date := a.row.entity.installedAt.getD a.row.createdAt

def expectedLifespanMonths (a : AssessedAsset) : Int :=
  a.row.entity.expectedLifespanMonths.getD defaultExpectedLifespanMonths

def ageMonths (a : AssessedAsset) : Rat :=
  (a.inputs.now - a.installedAt : Rat) / msPerDay / daysPerMonth

/-- The factors where there are nodes. -/
def factors (a : AssessedAsset) : List AssetHealthFactor :=
  [{ key := "age", label := "Asset age", weight := AssetHealth.ageWeight
     score := computeAgeScore a.ageMonths a.expectedLifespanMonths },
   { key := "connectivity", label := "Connectivity", weight := AssetHealth.connectivityWeight
     score := connectivityScore a.inputs.now a.nodes },
   { key := "telemetryHealth", label := "Telemetry health", weight := AssetHealth.telemetryWeight
     score := telemetryScore (a.nodes.map (nodeBreakdown a.inputs)) }]

def score (a : AssessedAsset) : Int := overallScore a.factors

/-- An asset with nodes, none of which has a negative weight. -/
structure Assessable (a : AssessedAsset) : Prop where
  lifespan : ∀ months, a.row.entity.expectedLifespanMonths = some months → 0 < months
  nodes : a.nodes ≠ []
  weights : ∀ node ∈ a.nodes, 0 ≤ node.healthWeight

theorem saved_eq_of_nodes {a : AssessedAsset} (h : a.nodes ≠ []) :
    a.saved = { a.row with
      healthIndex := some a.score
      healthStatus := deriveStatus a.nodes.length (some a.score)
      healthAssessedAt := some a.inputs.now } := by
  have h' : nodesOf a.row.id a.devices ≠ [] := h
  simp only [saved, assessAsset, computeFactors, if_neg h']
  rfl

theorem saved_eq_of_no_nodes {a : AssessedAsset} (h : a.nodes = []) :
    a.saved = { a.row with
      healthIndex := none
      healthStatus := .unknown
      healthAssessedAt := some a.inputs.now } := by
  have h' : nodesOf a.row.id a.devices = [] := h
  simp only [saved, assessAsset, if_pos h']
  rfl

theorem Assessable.expectedLifespanMonths_pos {a : AssessedAsset} (h : a.Assessable) :
    0 < a.expectedLifespanMonths := by
  unfold expectedLifespanMonths
  cases months : a.row.entity.expectedLifespanMonths with
  | none => decide
  | some months' => exact h.lifespan months' months

/-! ### Bounds -/

theorem connectivityScore_bounds (now : Date) (nodes : List DeviceEntity) :
    0 ≤ connectivityScore now nodes ∧ connectivityScore now nodes ≤ 100 := by
  unfold connectivityScore
  dsimp only
  split
  · exact jsRound_clamp _
  · decide

theorem telemetryScore_bounds (breakdown : List AssetHealthNodeBreakdown) :
    0 ≤ telemetryScore breakdown ∧ telemetryScore breakdown ≤ 100 := by
  unfold telemetryScore
  dsimp only
  split
  · exact jsRound_clamp _
  · decide

theorem score_bounds (a : AssessedAsset) : 0 ≤ a.score ∧ a.score ≤ 100 := by
  refine overallScore_bounds_of_weights ?_ ?_ ?_
  · simp only [factors, List.forall_mem_cons, List.not_mem_nil, false_implies, implies_true,
      and_true]
    exact ⟨jsRound_clamp _, connectivityScore_bounds _ _, telemetryScore_bounds _⟩
  · norm_num [factors, AssetHealth.ageWeight, AssetHealth.connectivityWeight,
      AssetHealth.telemetryWeight]
  · norm_num [factors, AssetHealth.ageWeight, AssetHealth.connectivityWeight,
      AssetHealth.telemetryWeight]

/-! ### Other nodes with the same sums -/

/-- The same asset in another set of devices. -/
def withDevices (a : AssessedAsset) (devices : List DeviceEntity) : AssessedAsset :=
  { a with devices := devices }

/-- The index depends on the nodes through their sums only. -/
theorem score_withDevices {a : AssessedAsset} {devices : List DeviceEntity}
    (sums : ∀ value : DeviceEntity → Rat,
      weightedSum (·.healthWeight) value (a.withDevices devices).nodes =
        weightedSum (·.healthWeight) value a.nodes) :
    (a.withDevices devices).score = a.score := by
  have conn : connectivityScore a.inputs.now (a.withDevices devices).nodes =
      connectivityScore a.inputs.now a.nodes := by
    simp only [connectivityScore, sum_weights, sums]
  have breakdown (value : AssetHealthNodeBreakdown → Rat) :
      weightedSum (·.healthWeight) value
          ((a.withDevices devices).nodes.map (nodeBreakdown a.inputs)) =
        weightedSum (·.healthWeight) value (a.nodes.map (nodeBreakdown a.inputs)) := by
    have nodes := sums fun node => value (nodeBreakdown a.inputs node)
    simp only [weightedSum, List.map_map] at nodes ⊢
    exact nodes
  have tele : telemetryScore ((a.withDevices devices).nodes.map (nodeBreakdown a.inputs)) =
      telemetryScore (a.nodes.map (nodeBreakdown a.inputs)) := by
    simp only [telemetryScore, breakdown]
  have factors : (a.withDevices devices).factors = a.factors := by
    show [_, DeviceLifecycleFactor.mk _ _ (connectivityScore a.inputs.now _) _,
      DeviceLifecycleFactor.mk _ _ (telemetryScore (List.map (nodeBreakdown a.inputs) _)) _] = _
    rw [conn, tele]
    rfl
  rw [score, factors, score]

theorem deriveStatus_congr {count count' : Nat} (h : count = 0 ↔ count' = 0) (score : Option Int) :
    deriveStatus count score = deriveStatus count' score := by
  cases score with
  | none => rfl
  | some score => simp only [deriveStatus, h]

/-- With the same sums over some nodes, the assessment is the same. -/
theorem saved_withDevices {a : AssessedAsset} {devices : List DeviceEntity}
    (nodes : (a.withDevices devices).nodes = [] ↔ a.nodes = [])
    (score : (a.withDevices devices).score = a.score) :
    (a.withDevices devices).saved = a.saved := by
  by_cases empty : a.nodes = []
  · rw [saved_eq_of_no_nodes empty, saved_eq_of_no_nodes (nodes.mpr empty)]
    rfl
  · rw [saved_eq_of_nodes empty, saved_eq_of_nodes (nodes.not.mpr empty), score]
    have count := deriveStatus_congr
      (List.length_eq_zero_iff.trans (nodes.trans List.length_eq_zero_iff.symm)) (some a.score)
    rw [count]
    rfl

theorem saved_perm (a : AssessedAsset) {devices : List DeviceEntity}
    (h : a.devices.Perm devices) : (a.withDevices devices).saved = a.saved := by
  have nodes : (a.withDevices devices).nodes.Perm a.nodes := h.symm.filter _
  refine saved_withDevices ?_ (score_withDevices fun value => weightedSum_perm nodes)
  rw [← List.length_eq_zero_iff, nodes.length_eq, List.length_eq_zero_iff]

/-! ### Wear -/

/-- A node that is no better connected than another of the same weight and checks, and has no
fewer breaches. -/
structure NodeWorn (a b : AssessedAsset) (node node' : DeviceEntity) : Prop where
  healthWeight : node'.healthWeight = node.healthWeight
  connectivity : computeConnectivityScore node'.status node'.lastSeenAt b.inputs.now ≤
    computeConnectivityScore node.status node.lastSeenAt a.inputs.now
  totalChecks : (nodeBreakdown b.inputs node').totalChecks =
    (nodeBreakdown a.inputs node).totalChecks
  breaches : (nodeBreakdown a.inputs node).breaches ≤ (nodeBreakdown b.inputs node').breaches

/-- The second asset is older or has nodes that are worn. -/
structure Worn (a b : AssessedAsset) : Prop where
  lifespan : a.row.entity.expectedLifespanMonths = b.row.entity.expectedLifespanMonths
  older : a.ageMonths ≤ b.ageMonths
  nodes : List.Forall₂ (NodeWorn a b) a.nodes b.nodes

variable {a b : AssessedAsset}

theorem Worn.connectivityScore_le (worn : Worn a b)
    (weights : ∀ node ∈ a.nodes, 0 ≤ node.healthWeight) :
    connectivityScore b.inputs.now b.nodes ≤ connectivityScore a.inputs.now a.nodes := by
  have total : (b.nodes.map (·.healthWeight)).sum = (a.nodes.map (·.healthWeight)).sum := by
    rw [sum_weights, sum_weights]
    exact weightedSum_congr (worn.nodes.imp fun _ _ h => ⟨rfl, h.healthWeight⟩)
  have sum : weightedSum (·.healthWeight) (fun node =>
        (computeConnectivityScore node.status node.lastSeenAt b.inputs.now : Rat)) b.nodes ≤
      weightedSum (·.healthWeight) (fun node =>
        (computeConnectivityScore node.status node.lastSeenAt a.inputs.now : Rat)) a.nodes :=
    weightedSum_mono (worn.nodes.imp fun _ _ h =>
      ⟨by exact_mod_cast h.connectivity, h.healthWeight⟩) weights
  unfold connectivityScore
  dsimp only
  rw [total]
  split
  · next positive =>
    exact jsRound_mono (clamp_mono 0 100 (div_le_div_of_nonneg_right sum positive.le))
  · exact le_refl _

theorem Worn.telemetryScore_le (worn : Worn a b)
    (weights : ∀ node ∈ b.nodes, 0 ≤ node.healthWeight) :
    telemetryScore (b.nodes.map (nodeBreakdown b.inputs)) ≤
      telemetryScore (a.nodes.map (nodeBreakdown a.inputs)) := by
  have checks : weightedSum (·.healthWeight) (·.totalChecks : _ → Rat)
        (b.nodes.map (nodeBreakdown b.inputs)) =
      weightedSum (·.healthWeight) (·.totalChecks : _ → Rat)
        (a.nodes.map (nodeBreakdown a.inputs)) := by
    refine weightedSum_congr (List.forall₂_map_left_iff.mpr (List.forall₂_map_right_iff.mpr ?_))
    exact worn.nodes.imp fun _ _ h => ⟨by exact_mod_cast h.totalChecks, h.healthWeight⟩
  have breaches : weightedSum (·.healthWeight) (·.breaches : _ → Rat)
        (a.nodes.map (nodeBreakdown a.inputs)) ≤
      weightedSum (·.healthWeight) (·.breaches : _ → Rat)
        (b.nodes.map (nodeBreakdown b.inputs)) := by
    refine weightedSum_mono
      (List.forall₂_map_left_iff.mpr (List.forall₂_map_right_iff.mpr ?_)) ?_
    · exact worn.nodes.flip.imp fun _ _ h =>
        ⟨by exact_mod_cast h.breaches, h.healthWeight.symm⟩
    · intro node hnode
      obtain ⟨device, hdevice, rfl⟩ := List.mem_map.mp hnode
      exact weights device hdevice
  unfold telemetryScore
  dsimp only
  rw [checks]
  split
  · next positive => exact percent_mono (div_le_div_of_nonneg_right breaches positive.le)
  · exact le_refl _

theorem Worn.score_le (worn : Worn a b) (ha : a.Assessable) (hb : b.Assessable) :
    b.score ≤ a.score := by
  have months : b.expectedLifespanMonths = a.expectedLifespanMonths := by
    unfold expectedLifespanMonths
    rw [worn.lifespan]
  have age := computeAgeScore_antitone ha.expectedLifespanMonths_pos worn.older
  refine overallScore_antitone (.cons ⟨rfl, ?_, ?_⟩
    (.cons ⟨rfl, ?_, worn.connectivityScore_le ha.weights⟩
      (.cons ⟨rfl, ?_, worn.telemetryScore_le hb.weights⟩ .nil)))
  · norm_num [AssetHealth.ageWeight]
  · simpa only [months] using age
  · norm_num [AssetHealth.connectivityWeight]
  · norm_num [AssetHealth.telemetryWeight]

/-! ### Divisions -/

/-- The sum of the nodes' scores, where every division has to have a positive divisor. -/
def checkedConnectivitySum (now : Date) : List DeviceEntity → Option Rat
  | [] => some 0
  | node :: nodes => do
    let score ← checkedConnectivityScore node.status node.lastSeenAt now
    let sum ← checkedConnectivitySum now nodes
    return score * node.healthWeight + sum

def checkedConnectivity (now : Date) (nodes : List DeviceEntity) : Option Int := do
  let sum ← checkedConnectivitySum now nodes
  let total := (nodes.map (·.healthWeight)).sum
  if 0 < total then (divide sum total).map fun mean => jsRound (clamp mean 0 100) else some 100

def checkedTelemetry (breakdown : List AssetHealthNodeBreakdown) : Option Int :=
  let breaches := weightedSum (·.healthWeight) (·.breaches) breakdown
  let checks := weightedSum (·.healthWeight) (·.totalChecks) breakdown
  if 0 < checks then (divide breaches checks).map percent else some 100

def checkedScore (a : AssessedAsset) : Option Int := do
  let ageMonths ← checkedAgeMonths a.inputs.now a.installedAt
  let age ← checkedAgeScore ageMonths a.expectedLifespanMonths
  let connectivity ← checkedConnectivity a.inputs.now a.nodes
  let telemetry ← checkedTelemetry (a.nodes.map (nodeBreakdown a.inputs))
  return jsRound (0 + age * AssetHealth.ageWeight + connectivity * AssetHealth.connectivityWeight +
    telemetry * AssetHealth.telemetryWeight)

theorem checkedConnectivitySum_eq (now : Date) (nodes : List DeviceEntity) :
    checkedConnectivitySum now nodes = some (weightedSum (·.healthWeight) (fun node =>
      (computeConnectivityScore node.status node.lastSeenAt now : Rat)) nodes) := by
  induction nodes with
  | nil => rfl
  | cons node nodes ih =>
    rw [checkedConnectivitySum, ih, checkedConnectivityScore_eq]
    rfl

theorem checkedConnectivity_eq (now : Date) (nodes : List DeviceEntity) :
    checkedConnectivity now nodes = some (connectivityScore now nodes) := by
  rw [checkedConnectivity, checkedConnectivitySum_eq, Option.bind_eq_bind, Option.bind_some]
  unfold connectivityScore
  dsimp only
  split
  · next positive =>
    rw [divide_eq_some positive]
    rfl
  · rfl

theorem checkedTelemetry_eq (breakdown : List AssetHealthNodeBreakdown) :
    checkedTelemetry breakdown = some (telemetryScore breakdown) := by
  unfold checkedTelemetry telemetryScore
  dsimp only
  split
  · next positive =>
    rw [divide_eq_some positive]
    rfl
  · rfl

theorem checkedScore_eq (lifespan : 0 < a.expectedLifespanMonths) :
    a.checkedScore = some a.score := by
  simp only [checkedScore, checkedAgeMonths_eq, checkedAgeScore_eq lifespan,
    checkedConnectivity_eq, checkedTelemetry_eq, Option.bind_eq_bind, Option.bind_some]
  rfl

end AssessedAsset

/-- The index of an asset with nodes is an integer from 0 to 100 in whose computation every
divisor is positive. It is the same for every order of the nodes, and wear does not raise it. -/
theorem asset_health_pool {a b : AssessedAsset} (ha : a.Assessable) (hb : b.Assessable) :
    ∃ score score', a.saved.healthIndex = some score ∧ b.saved.healthIndex = some score' ∧
      (0 ≤ score ∧ score ≤ 100) ∧ (0 ≤ score' ∧ score' ≤ 100) ∧
      a.checkedScore = some score ∧ b.checkedScore = some score' ∧
      (∀ devices, a.devices.Perm devices → (a.withDevices devices).saved = a.saved) ∧
      (AssessedAsset.Worn a b → score' ≤ score) := by
  refine ⟨a.score, b.score, ?_, ?_, a.score_bounds, b.score_bounds, ?_, ?_, ?_, ?_⟩
  · rw [AssessedAsset.saved_eq_of_nodes ha.nodes]
  · rw [AssessedAsset.saved_eq_of_nodes hb.nodes]
  · exact AssessedAsset.checkedScore_eq ha.expectedLifespanMonths_pos
  · exact AssessedAsset.checkedScore_eq hb.expectedLifespanMonths_pos
  · exact fun devices h => a.saved_perm h
  · exact fun worn => worn.score_le ha hb

/-- A temperature and a vibration, each with an upper bound. -/
def windingTemplate : DeviceTemplateEntity :=
  { id := "t1", name := "Winding", type := .sensorNode
    telemetrySchema := some [⟨"temperature", "Temperature", none, none, some 80⟩,
      ⟨"vibration", "Vibration", none, none, some 5⟩]
    actionSchema := none, isActive := true }

/-- A motor with a silent node of weight 3, which has sent one sample, and one of weight 0. -/
def shakenMotor (now : Date) (temperature vibration : Rat) : AssessedAsset :=
  { inputs :=
      { now := now
        templates := [windingTemplate]
        records := [⟨"d1", .object [("temperature", .number temperature),
          ("vibration", .number vibration)], 0⟩] }
    devices :=
      [{ id := "d1", deviceId := "node-1", name := "Winding", templateId := "t1", userId := "u1"
         assetId := some "a1", healthWeight := 3, lastSeenAt := some 0 },
       { id := "d2", deviceId := "node-2", name := "Casing", templateId := "t1", userId := "u1"
         assetId := some "a1", healthWeight := 0, status := .online }]
    row := { entity := createdAsset "a1" "u1" none { name := "Motor" }, createdAt := 0 } }

section ShakenMotor

variable {now : Date} {temperature vibration : Rat}

theorem shakenMotor_assessable :
    (shakenMotor now temperature vibration).Assessable where
  lifespan := by simp [shakenMotor, createdAsset]
  nodes := by simp [shakenMotor, AssessedAsset.nodes, nodesOf, createdAsset]
  weights := by simp [shakenMotor, AssessedAsset.nodes, nodesOf, createdAsset]

/-- The sample is the winding's. -/
theorem shakenMotor_recent (inWindow : now ≤ 2592000000) :
    let inputs := (shakenMotor now temperature vibration).inputs
    recentTelemetry inputs.now "d1" inputs.records = inputs.records ∧
      recentTelemetry inputs.now "d2" inputs.records = [] := by
  simp [recentTelemetry, shakenMotor, telemetryAssessmentWindowDays,
    telemetryAssessmentSampleLimit, inWindow]

/-- Three days later the vibration is out of its band too. -/
theorem shakenMotor_worn :
    AssessedAsset.Worn (shakenMotor 0 90 4) (shakenMotor 259200000 90 6) where
  lifespan := rfl
  older := by
    norm_num [shakenMotor, AssessedAsset.ageMonths, AssessedAsset.installedAt, createdAsset,
      msPerDay, msPerHour, daysPerMonth]
  nodes := by
    obtain ⟨winding, casing⟩ := @shakenMotor_recent 0 90 4 (by decide)
    obtain ⟨winding', casing'⟩ := @shakenMotor_recent 259200000 90 6 (by decide)
    refine .cons ⟨rfl, by decide +kernel, ?_, ?_⟩ (.cons ⟨rfl, by decide +kernel, ?_, ?_⟩ .nil)
    · simp only [nodeBreakdown, getTelemetryBreachCounts, winding, winding']
      decide +kernel
    · simp only [nodeBreakdown, getTelemetryBreachCounts, winding, winding']
      decide +kernel
    · simp only [nodeBreakdown, getTelemetryBreachCounts, casing, casing']
      decide
    · simp only [nodeBreakdown, getTelemetryBreachCounts, casing, casing']
      decide

theorem asset_health_pool_shakenMotor :
    ∃ score score', (shakenMotor 0 90 4).saved.healthIndex = some score ∧
      (shakenMotor 259200000 90 6).saved.healthIndex = some score' ∧ score' ≤ score ∧
      ((shakenMotor 0 90 4).withDevices (shakenMotor 0 90 4).devices.reverse).saved =
        (shakenMotor 0 90 4).saved := by
  obtain ⟨score, score', before, after, -, -, -, -, orders, worn⟩ :=
    asset_health_pool shakenMotor_assessable shakenMotor_assessable
  exact ⟨score, score', before, after, worn shakenMotor_worn, orders _ (List.reverse_perm _).symm⟩

end ShakenMotor

/-! ## Nodes of weight 0 -/

namespace AssessedAsset

/-- A node of weight 0 does not count: the assessment is the same without it, and without any
other node there is no index. -/
structure IgnoresWeightless (a : AssessedAsset) : Prop where
  removed : ∀ before node after, a.devices = before ++ node :: after → node ∈ a.nodes →
    node.healthWeight = 0 →
      (a.withDevices (before ++ after)).saved.healthIndex = a.saved.healthIndex ∧
        (a.withDevices (before ++ after)).saved.healthStatus = a.saved.healthStatus
  excluded : (∀ node ∈ a.nodes, node.healthWeight = 0) →
    a.saved.healthIndex = none ∧ a.saved.healthStatus = .unknown

/-- The assessment looks at the number of the nodes before it looks at their weights. -/
theorem saved_without_weightless {a : AssessedAsset} {before after : List DeviceEntity}
    {node : DeviceEntity} (devices : a.devices = before ++ node :: after) (hnode : node ∈ a.nodes)
    (weightless : node.healthWeight = 0)
    (others : ∃ other ∈ a.nodes, other.healthWeight ≠ 0) :
    (a.withDevices (before ++ after)).saved = a.saved := by
  have attached : node.assetId = some a.row.id := by
    simpa using (List.mem_filter.mp hnode).2
  have nodes : a.nodes.Perm (node :: (a.withDevices (before ++ after)).nodes) := by
    have moved : a.devices.Perm (node :: (before ++ after)) :=
      devices ▸ List.perm_middle
    have kept := moved.filter fun device => decide (device.assetId = some a.row.id)
    rwa [List.filter_cons_of_pos (by simpa using attached)] at kept
  refine saved_withDevices ?_ (score_withDevices fun value =>
    weightedSum_weightless weightless nodes)
  obtain ⟨other, hother, counts⟩ := others
  have left : other ∈ (a.withDevices (before ++ after)).nodes := by
    refine (List.mem_cons.mp (nodes.mem_iff.mp hother)).resolve_left ?_
    rintro rfl
    exact counts weightless
  exact iff_of_false (List.ne_nil_of_mem left) (List.ne_nil_of_mem hother)

end AssessedAsset

/-- Nodes of weight 0 do not count exactly if there is no node or one of another weight. -/
theorem weightless_nodes_iff (a : AssessedAsset) :
    a.IgnoresWeightless ↔ a.nodes = [] ∨ ∃ node ∈ a.nodes, node.healthWeight ≠ 0 := by
  constructor
  · intro ignores
    by_contra! none
    obtain ⟨nodes, weightless⟩ := none
    have index := (ignores.excluded weightless).1
    rw [AssessedAsset.saved_eq_of_nodes nodes] at index
    cases index
  · rintro (empty | others)
    · refine ⟨fun before node after _ hnode => ?_, fun _ => ?_⟩
      · rw [empty] at hnode
        cases hnode
      · rw [AssessedAsset.saved_eq_of_no_nodes empty]
        exact ⟨rfl, rfl⟩
    · refine ⟨fun before node after devices hnode weightless => ?_, fun weightless => ?_⟩
      · rw [AssessedAsset.saved_without_weightless devices hnode weightless others]
        exact ⟨rfl, rfl⟩
      · obtain ⟨node, hnode, counts⟩ := others
        exact absurd (weightless node hnode) counts

/-- A new asset with one node. -/
def soleNode (healthWeight : Rat) : AssessedAsset :=
  { inputs := { now := 0 }
    devices :=
      [{ id := "d1", deviceId := "node-1", name := "Node", templateId := "t1", userId := "u1"
         assetId := some "a1", healthWeight := healthWeight }]
    row := { entity := createdAsset "a1" "u1" none { name := "Motor" }, createdAt := 0 } }

/-- An asset whose only node has weight 0 is assessed as healthy. -/
theorem soleNode_weightless_healthy :
    (soleNode 0).saved.healthStatus = .healthy ∧ ¬ (soleNode 0).IgnoresWeightless := by
  have healthy : (soleNode 0).saved.healthStatus = .healthy := by decide +kernel
  refine ⟨healthy, fun ignores => ?_⟩
  have unknown := (ignores.excluded (by decide +kernel)).2
  rw [healthy] at unknown
  cases unknown

end AiotCloud
