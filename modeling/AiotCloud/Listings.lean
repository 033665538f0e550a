import AiotCloud.Accounts
import AiotCloud.AssetNodes
import AiotCloud.Factories
import AiotCloud.Lib.Paging
import AiotCloud.Notifications
import AiotCloud.QueryBounds

/-!
# Listings

The six listings that are read page by page: what each selects and sorts by, and how
`paginate` cuts a page out of the answer. The numbers of a page are natural numbers here,
which the doubles of `PageOptionsDto` are too, as long as they are small.

1. `pages_partition_iff`: the pages hold every matching row once, whatever order the database
   gives to rows that tie, exactly if no two rows tie at a page border.
2. `users_partition_iff`: without an order, exactly if there is one page.
3. `devices_partition`: with an order that tells all rows apart, always.
-/

open JsNumber

namespace AiotCloud

/-! ## Pages -/

/-- The options of a request within the bounds. -/
structure PageOptions where
  page : Nat := 1
  take : Nat := 10
deriving DecidableEq, Repr

def PageOptions.skip (options : PageOptions) : Nat := (options.page - 1) * options.take

structure PageMeta where
  page : Nat
  take : Nat
  itemCount : Nat
  pageCount : Nat
  hasPreviousPage : Bool
  hasNextPage : Bool
deriving DecidableEq, Repr

def PageMeta.of (options : PageOptions) (itemCount : Nat) : PageMeta :=
  let pageCount := Paging.pageCount options.take itemCount
  { page := options.page
    take := options.take
    itemCount := itemCount
    pageCount := pageCount
    hasPreviousPage := 1 < options.page
    hasNextPage := options.page < pageCount }

/-- `paginate`, of the order in which the database answers. -/
def paginate {α : Type} (options : PageOptions) (answer : List α) : List α × PageMeta :=
  ((answer.drop options.skip).take options.take, PageMeta.of options answer.length)

/-- The pages one after the other, each from its own answer. -/
def readPages {α : Type} (options : PageOptions) (pages : Nat) (answers : Nat → List α) : List α :=
  (List.range pages).flatMap fun k => (paginate { options with page := k + 1 } (answers k)).1

def PageOptions.dto (options : PageOptions) : PageOptionsDto where
  page := .finite options.page
  take := .finite options.take

theorem PageOptions.dto_skip {options : PageOptions} (first : 1 ≤ options.page)
    (hpage : options.page < 2 ^ 53) (small : options.skip < 2 ^ 53) :
    options.dto.skip = .finite options.skip := by
  have pred : (Value.finite options.page).sub (.finite 1) = .finite (options.page - 1 : Nat) := by
    show round (options.page - 1) = _
    rw [← Nat.cast_pred first]
    exact round_natCast (by omega)
  show ((Value.finite options.page).sub (.finite 1)).mul (.finite options.take) = _
  rw [pred]
  show round ((options.page - 1 : Nat) * options.take) = _
  rw [← Nat.cast_mul]
  exact round_natCast small

theorem PageOptions.dto_pageCount {options : PageOptions} (positive : 1 ≤ options.take)
    (bounded : options.take ≤ 50) {itemCount : Nat} (small : itemCount < 2 ^ 53) :
    (PageMetaDto.of options.dto (double itemCount)).pageCount =
      .finite (PageMeta.of options itemCount).pageCount := by
  show ((double itemCount).div (.finite options.take)).ceil = _
  rw [double_natCast small]
  exact ceil_div_exact small positive (bounded.trans (by norm_num))

/-! ## Queries -/

/-- What the rows are selected and sorted by: whether a row may come before another one. -/
structure SelectQueryBuilder (α : Type) where
  condition : α → Bool := fun _ => true
  orderBy : α → α → Bool := fun _ _ => true

/-- Ascending where no order is given. -/
def byCreatedAt {α : Type} (createdAt : α → Date) : Option Order → α → α → Bool
  | some .desc, a, b => createdAt b ≤ createdAt a
  | _, a, b => createdAt a ≤ createdAt b

/-- By the one, and by the other where that one ties. -/
def thenBy {α : Type} (first second : α → α → Bool) (a b : α) : Bool :=
  first a b && (!first b a || second a b)

/-- An entity with its `createdAt`. -/
structure Created (α : Type) where
  entity : α
  createdAt : Date
deriving DecidableEq, Repr

structure InboxRow where
  id : String
  message : NotificationMessageEntity
  isRead : Bool := false
  createdAt : Date
deriving DecidableEq, Repr

/-- The tables, with their primary keys. -/
structure Tables where
  devices : List DeviceEntity := []
  assets : List (Created AssetEntity) := []
  factories : List (Created FactoryEntity) := []
  templates : List (Created DeviceTemplateEntity) := []
  users : List UserEntity := []
  messages : List InboxRow := []
  deviceKeys : Keyed.Distinct DeviceEntity.id devices := by simp [Keyed.Distinct]
  assetKeys : Keyed.Distinct (fun row : Created AssetEntity => row.entity.id) assets := by
    simp [Keyed.Distinct]
  factoryKeys : Keyed.Distinct (fun row : Created FactoryEntity => row.entity.id) factories := by
    simp [Keyed.Distinct]
  templateKeys :
    Keyed.Distinct (fun row : Created DeviceTemplateEntity => row.entity.id) templates := by
    simp [Keyed.Distinct]
  userKeys : Keyed.Distinct UserEntity.id users := by simp [Keyed.Distinct]
  messageKeys : Keyed.Distinct InboxRow.id messages := by simp [Keyed.Distinct]

/-- `joinOrder` is what a query that joins another table and is paginated sorts by last. -/
def getUserDevices (joinOrder : DeviceEntity → DeviceEntity → Bool) (scope : AccessScope)
    (order : Option Order) : SelectQueryBuilder DeviceEntity where
  condition := scope.admits
  orderBy := thenBy (byCreatedAt (·.createdAt) order) joinOrder

def getAssets (scope : AccessScope) (order : Option Order) :
    SelectQueryBuilder (Created AssetEntity) where
  condition row :=
    match scope with
    | .factory factoryId => row.entity.factoryId == some factoryId
    | .user userId => row.entity.userId == userId
    | .unrestricted => true
  orderBy := byCreatedAt (·.createdAt) order

def getFactories (order : Option Order) : SelectQueryBuilder (Created FactoryEntity) where
  orderBy := byCreatedAt (·.createdAt) order

def getDeviceTemplates (order : Option Order) :
    SelectQueryBuilder (Created DeviceTemplateEntity) where
  orderBy := byCreatedAt (·.createdAt) order

/-- The order of the options is not used. -/
def getUsers : SelectQueryBuilder UserEntity := {}

structure NotificationMessagesPageOptions where
  order : Order := .desc
  channel : Option NotificationChannelType := none
  isRead : Option Bool := none
deriving DecidableEq, Repr

def getMessages (userId : String) (options : NotificationMessagesPageOptions) :
    SelectQueryBuilder InboxRow where
  condition row :=
    row.message.userId == userId && options.channel.all (row.message.channel = ·) &&
      options.isRead.all (row.isRead = ·)
  orderBy := byCreatedAt (·.createdAt) options.order

/-- The listings of the API, each with its table. -/
inductive Listing (joinOrder : DeviceEntity → DeviceEntity → Bool) (tables : Tables) :
    {α : Type} → SelectQueryBuilder α → List α → Prop where
  | devices (scope : AccessScope) (order : Option Order) :
      Listing joinOrder tables (getUserDevices joinOrder scope order) tables.devices
  | assets (scope : AccessScope) (order : Option Order) :
      Listing joinOrder tables (getAssets scope order) tables.assets
  | factories (order : Option Order) :
      Listing joinOrder tables (getFactories order) tables.factories
  | templates (order : Option Order) :
      Listing joinOrder tables (getDeviceTemplates order) tables.templates
  | users : Listing joinOrder tables getUsers tables.users
  | messages (userId : String) (options : NotificationMessagesPageOptions) :
      Listing joinOrder tables (getMessages userId options) tables.messages

/-! ## Partition -/

/-- A total preorder, as the sort of a query is. -/
structure Sorts {α : Type} (orderBy : α → α → Bool) : Prop where
  trans : ∀ a b c, orderBy a b → orderBy b c → orderBy a c
  total : ∀ a b, orderBy a b || orderBy b a

/-- Whatever the database answers to each page, the pages hold every matching row once. -/
def Partitions {α : Type} (query : SelectQueryBuilder α) (rows : List α) (options : PageOptions) :
    Prop :=
  ∀ answers : Nat → List α,
    (∀ k, Paging.Arranged query.orderBy (rows.filter query.condition) (answers k)) →
    (readPages options (PageMeta.of options (rows.filter query.condition).length).pageCount
      answers).Perm (rows.filter query.condition)

theorem ascending_sorts {α : Type} (createdAt : α → Date) :
    Sorts fun a b => decide (createdAt a ≤ createdAt b) where
  trans a b c hab hbc := decide_eq_true ((of_decide_eq_true hab).trans (of_decide_eq_true hbc))
  total a b := by simpa using le_total (createdAt a) (createdAt b)

theorem byCreatedAt_sorts {α : Type} (createdAt : α → Date) (order : Option Order) :
    Sorts (byCreatedAt createdAt order) := by
  have ascending := ascending_sorts createdAt
  rcases order with _ | _ | _
  · exact ascending
  · exact ascending
  · exact ⟨fun a b c hab hbc => ascending.trans c b a hbc hab, fun a b => ascending.total b a⟩

theorem thenBy_sorts {α : Type} {first second : α → α → Bool} (h : Sorts first)
    (h' : Sorts second) : Sorts (thenBy first second) := by
  constructor
  · intro a b c hab hbc
    simp only [thenBy, Bool.and_eq_true, Bool.or_eq_true, Bool.not_eq_true'] at hab hbc ⊢
    refine ⟨h.trans a b c hab.1 hbc.1, ?_⟩
    cases back : first c a with
    | false => exact .inl rfl
    | true =>
      have hba : first b a = true := h.trans b c a hbc.1 back
      have hcb : first c b = true := h.trans c a b back hab.1
      refine .inr (h'.trans a b c (hab.2.resolve_left ?_) (hbc.2.resolve_left ?_))
      · rw [hba]; simp
      · rw [hcb]; simp
  · intro a b
    have either := h.total a b
    have either' := h'.total a b
    unfold thenBy
    cases hab : first a b <;> cases hba : first b a <;> simp_all

theorem readPages_eq {α : Type} (options : PageOptions) (n : Nat) (answers : Nat → List α) :
    readPages options n answers = Paging.pages options.take n answers := by
  unfold readPages Paging.pages
  congr 1

theorem partitions_iff {α : Type} {query : SelectQueryBuilder α} (sorts : Sorts query.orderBy)
    {rows : List α} (nodup : rows.Nodup) {options : PageOptions} (positive : 1 ≤ options.take) :
    Partitions query rows options ↔
      Paging.ApartAtBorders query.orderBy options.take (rows.filter query.condition) := by
  unfold Partitions
  simp only [readPages_eq]
  exact Paging.pages_perm_iff sorts.trans sorts.total (nodup.filter _) positive

section

variable {joinOrder : DeviceEntity → DeviceEntity → Bool} {tables : Tables}

theorem getUserDevices_sorts (join : Sorts joinOrder) (scope : AccessScope)
    (order : Option Order) : Sorts (getUserDevices joinOrder scope order).orderBy :=
  thenBy_sorts (byCreatedAt_sorts _ _) join

theorem getUsers_sorts : Sorts getUsers.orderBy := ⟨fun _ _ _ _ _ => rfl, fun _ _ => rfl⟩

theorem Listing.sorts (join : Sorts joinOrder) {α : Type} {query : SelectQueryBuilder α}
    {rows : List α} (listing : Listing joinOrder tables query rows) : Sorts query.orderBy := by
  cases listing with
  | devices scope order => exact getUserDevices_sorts join scope order
  | assets | factories | templates | messages => exact byCreatedAt_sorts _ _
  | users => exact getUsers_sorts

theorem Listing.nodup {α : Type} {query : SelectQueryBuilder α} {rows : List α}
    (listing : Listing joinOrder tables query rows) : rows.Nodup := by
  cases listing with
  | devices => exact tables.deviceKeys.of_map
  | assets => exact tables.assetKeys.of_map
  | factories => exact tables.factoryKeys.of_map
  | templates => exact tables.templateKeys.of_map
  | users => exact tables.userKeys.of_map
  | messages => exact tables.messageKeys.of_map

/-- The two sides of every page border must not tie. -/
theorem pages_partition_iff (join : Sorts joinOrder) {α : Type} {query : SelectQueryBuilder α}
    {rows : List α} (listing : Listing joinOrder tables query rows) {options : PageOptions}
    (positive : 1 ≤ options.take) :
    Partitions query rows options ↔
      Paging.ApartAtBorders query.orderBy options.take (rows.filter query.condition) :=
  partitions_iff (listing.sorts join) listing.nodup positive

theorem users_partition_iff {options : PageOptions} (positive : 1 ≤ options.take) :
    Partitions getUsers tables.users options ↔ tables.users.length ≤ options.take := by
  have everyone : tables.users.filter getUsers.condition = tables.users :=
    List.filter_eq_self.mpr fun _ _ => rfl
  rw [partitions_iff getUsers_sorts tables.userKeys.of_map positive, everyone]
  exact Paging.apartAtBorders_unordered (fun _ _ => rfl) positive

/-- Devices are also sorted by what a join adds. -/
theorem devices_partition (join : Sorts joinOrder)
    (separates : ∀ a b, joinOrder a b → joinOrder b a → a.id = b.id) (scope : AccessScope)
    (order : Option Order) {options : PageOptions} (positive : 1 ≤ options.take) :
    Partitions (getUserDevices joinOrder scope order) tables.devices options := by
  have sorts := getUserDevices_sorts join scope order
  have nodup : tables.devices.Nodup := tables.deviceKeys.of_map
  rw [partitions_iff sorts nodup positive]
  refine Paging.apartAtBorders_of_antisymm sorts.trans sorts.total ?_ (nodup.filter _)
  intro a ha b hb hab hba
  simp only [getUserDevices, thenBy, Bool.and_eq_true, Bool.or_eq_true, Bool.not_eq_true']
    at hab hba
  have same : a.id = b.id := separates a b
    (hab.2.resolve_left (by simp [hba.1])) (hba.2.resolve_left (by simp [hab.1]))
  exact List.inj_on_of_nodup_map tables.deviceKeys (List.mem_of_mem_filter ha)
    (List.mem_of_mem_filter hb) same

end

/-! ## Tied rows -/

def byId (a b : DeviceEntity) : Bool := a.id ≤ b.id

theorem byId_sorts : Sorts byId where
  trans _ _ _ hab hbc :=
    decide_eq_true (String.le_trans (of_decide_eq_true hab) (of_decide_eq_true hbc))
  total a b := by simpa [byId] using String.le_total a.id b.id

/-- Two factories that were created at the same time, and a later one. -/
def twinFactories : Tables where
  factories := [⟨{ id := "a", name := "A" }, 0⟩, ⟨{ id := "b", name := "B" }, 0⟩,
    ⟨{ id := "c", name := "C" }, 1⟩]

theorem pages_partition_iff_twinFactories :
    Partitions (getFactories none) twinFactories.factories { take := 2 } ↔
      Paging.ApartAtBorders (getFactories none).orderBy 2
        (twinFactories.factories.filter (getFactories none).condition) :=
  pages_partition_iff byId_sorts (.factories none) (by decide)

def twoUsers : Tables where
  users := [{ id := "a", username := "a" }, { id := "b", username := "b" }]

/-- Page 1 of one answer and page 2 of another show the same user. -/
theorem twoUsers_repeated : ¬ Partitions getUsers twoUsers.users { take := 1 } := by
  intro claim
  have perm := claim (fun k => if k = 0 then twoUsers.users else twoUsers.users.reverse) fun k => by
    have sorted (l : List UserEntity) : l.Pairwise fun a b => getUsers.orderBy a b = true :=
      List.pairwise_of_forall fun _ _ => rfl
    split
    · exact ⟨.refl _, sorted _⟩
    · exact ⟨List.reverse_perm _, sorted _⟩
  have once := perm.nodup_iff.mpr (twoUsers.userKeys.of_map.filter _)
  exact absurd once (by decide)

end AiotCloud
