import AiotCloud.DeviceMessages
import AiotCloud.DeviceRegistry
import AiotCloud.Lib.JsArithmetic

/-!
# Bounds of query parameters

`PageOptionsDto` and `DeviceTelemetryQueryDto`, as the decorators of `field.decorators.ts`
convert and check their parameters, the arithmetic of a page, and the history of a device.
The decorators are given `minimum` and `maximum`, which only the API documentation reads.

`query_bounds_iff`: what reaches the services is within the documented bounds exactly if
the request stayed within them by itself.
-/

open JsNumber

namespace AiotCloud

/-! ## Parameters -/

/-- A parameter of a query, or the list of its values where it is given more than once. -/
inductive QueryValue where
  | text (value : String)
  | texts (values : List String)
deriving DecidableEq, Repr

/-- `INumberFieldOptions`, and of `ApiPropertyOptions` what stands next to them. -/
structure NumberFieldOptions where
  min : Option Rat := none
  max : Option Rat := none
  int : Bool := false
  isPositive : Bool := false
  minimum : Option Rat := none
  maximum : Option Rat := none
  default : Option Rat := none
deriving DecidableEq, Repr

/-- `IsNumber({})`. -/
def isNumber : Value → Bool
  | .finite _ => true
  | _ => false

/-- The validators that `NumberField` adds. -/
def NumberField (options : NumberFieldOptions) (value : Value) : Bool :=
  (if options.int then value.isInteger else isNumber value) &&
    options.min.all (fun min => (Value.finite min).le value) &&
    options.max.all (fun max => value.le (.finite max)) &&
    (!options.isPositive || (Value.finite 0).lt value)

/-- What an optional number is converted to, if it is accepted: `undefined` passes, and an array
is no number. -/
def QueryValue.numberFieldOptional (options : NumberFieldOptions) :
    Option QueryValue → Option (Option Value)
  | none => some none
  | some (.texts _) => none
  | some (.text given) =>
    let value := number isJsSpace given.toList
    if NumberField options value then some (some value) else none

inductive Order where
  | asc
  | desc
deriving DecidableEq, Repr

/-- `EnumFieldOptional(() => Order)`. -/
def QueryValue.orderFieldOptional : Option QueryValue → Option (Option Order)
  | none => some none
  | some (.text "ASC") => some (some .asc)
  | some (.text "DESC") => some (some .desc)
  | some _ => none

/-- Of at least one character. -/
def QueryValue.stringFieldOptional : Option QueryValue → Option (Option String)
  | none => some none
  | some (.text given) => if given = "" then none else some (some given)
  | some (.texts _) => none

/-! ## Pages -/

structure PageQuery where
  order : Option QueryValue := none
  page : Option QueryValue := none
  take : Option QueryValue := none
  q : Option QueryValue := none
deriving DecidableEq, Repr

structure PageOptionsDto where
  order : Option Order := none
  page : Value := .finite 1
  take : Value := .finite 10
  q : Option String := none
deriving DecidableEq, Repr

namespace PageOptionsDto

def pageField : NumberFieldOptions := { minimum := some 1, default := some 1, int := true }

def takeField : NumberFieldOptions :=
  { minimum := some 1, maximum := some 50, default := some 10, int := true }

/-- The object that the validation pipe makes of a query that it accepts. -/
def ofQuery (query : PageQuery) : Option PageOptionsDto := do
  let order ← QueryValue.orderFieldOptional query.order
  let page ← QueryValue.numberFieldOptional pageField query.page
  let take ← QueryValue.numberFieldOptional takeField query.take
  let q ← QueryValue.stringFieldOptional query.q
  return { order, page := page.getD (.finite 1), take := take.getD (.finite 10), q }

def skip (options : PageOptionsDto) : Value := (options.page.sub (.finite 1)).mul options.take

end PageOptionsDto

structure PageMetaDto where
  page : Value
  take : Value
  itemCount : Value
  pageCount : Value
  hasPreviousPage : Bool
  hasNextPage : Bool
deriving DecidableEq, Repr

/-- The constructor. -/
def PageMetaDto.of (options : PageOptionsDto) (itemCount : Value) : PageMetaDto :=
  let pageCount := (itemCount.div options.take).ceil
  { page := options.page
    take := options.take
    itemCount := itemCount
    pageCount := pageCount
    hasPreviousPage := (Value.finite 1).lt options.page
    hasNextPage := options.page.lt pageCount }

/-! ## History -/

structure TelemetryQuery where
  limit : Option QueryValue := none
  fromTime : Option QueryValue := none
  toTime : Option QueryValue := none
deriving DecidableEq, Repr

structure DeviceTelemetryQueryDto where
  limit : Option Value
  fromTime : Option Date
  toTime : Option Date
deriving DecidableEq, Repr

section

/- `new Date(text)`, and what the repository of the telemetry answers to a condition, newest
first, with the number of rows to take. -/
variable (newDate : String → Option Date)
  (find : (DeviceTelemetryEntity → Bool) → Option Value →
    Except String (List DeviceTelemetryEntity))

def QueryValue.dateFieldOptional : Option QueryValue → Option (Option Date)
  | none => some none
  | some (.text given) => (newDate given).map some
  | some (.texts _) => none

namespace DeviceTelemetryQueryDto

def limitField : NumberFieldOptions :=
  { minimum := some 1, maximum := some 500, default := some 100, int := true }

/-- No initializer gives the default. -/
def ofQuery (query : TelemetryQuery) : Option DeviceTelemetryQueryDto := do
  let limit ← QueryValue.numberFieldOptional limitField query.limit
  let fromTime ← QueryValue.dateFieldOptional newDate query.fromTime
  let toTime ← QueryValue.dateFieldOptional newDate query.toTime
  return { limit, fromTime, toTime }

end DeviceTelemetryQueryDto

def getDeviceTelemetryHistory (devices : List DeviceEntity) (scope : AccessScope) (id : String)
    (query : DeviceTelemetryQueryDto) : Except String (List DeviceTelemetryEntity) :=
  match findInScope devices scope id with
  | none => .error "error.deviceNotFound"
  | some device =>
    (find (fun entity => entity.deviceId = device.id ∧
      query.fromTime.all (· ≤ entity.recordedAt) ∧ query.toTime.all (entity.recordedAt ≤ ·))
      query.limit).map List.reverse

end

/-! ## Bounds -/

/-- The conversion of a parameter that is given. -/
def QueryValue.toNumber : QueryValue → Value
  | .text given => number isJsSpace given.toList
  | .texts _ => .nan

/-- An accepted number is what the parameter is converted to, within its bounds or not. -/
theorem QueryValue.numberFieldOptional_eq {options : NumberFieldOptions}
    {given : Option QueryValue} {read : Option Value}
    (h : QueryValue.numberFieldOptional options given = some read) :
    read = given.map QueryValue.toNumber := by
  unfold numberFieldOptional at h
  split at h
  · cases h
    rfl
  · cases h
  · dsimp only at h
    split at h
    · cases h
      rfl
    · cases h

theorem QueryValue.numberFieldOptional_integer {options : NumberFieldOptions}
    (int : options.int = true) {given : Option QueryValue} {v : Value}
    (h : QueryValue.numberFieldOptional options given = some (some v)) :
    ∃ n : Int, v = .finite n := by
  unfold numberFieldOptional at h
  split at h
  · cases h
  · cases h
  · dsimp only at h
    split at h
    · next accepted =>
      cases h
      simp only [NumberField, int, if_true, Bool.and_eq_true] at accepted
      have integer := accepted.1.1.1
      revert integer
      generalize number isJsSpace _ = value
      cases value with
      | nan => simp [Value.isInteger]
      | infinite => simp [Value.isInteger]
      | finite q =>
        intro integer
        exact ⟨q.num, by rw [Rat.den_eq_one_iff _ |>.mp (of_decide_eq_true integer)]⟩
    · cases h

/-- A number of at least zero that is accepted as an integer, or left at a natural number. -/
theorem QueryValue.numberFieldOptional_natural {options : NumberFieldOptions}
    (int : options.int = true) {given : Option QueryValue} {read : Option Value} {n : Nat} {q : Rat}
    (h : QueryValue.numberFieldOptional options given = some read)
    (value : read.getD (.finite n) = .finite q) (nonneg : 0 ≤ q) : ∃ k : Nat, q = k := by
  cases read with
  | none => exact ⟨n, (Value.finite.inj value).symm⟩
  | some v =>
    obtain ⟨i, rfl⟩ := QueryValue.numberFieldOptional_integer int h
    obtain rfl := Value.finite.inj value
    lift i to Nat using by exact_mod_cast nonneg
    exact ⟨i, Int.cast_natCast i⟩

theorem QueryValue.toNumber_double {given : Option QueryValue} {p : Rat}
    (h : (given.map QueryValue.toNumber).getD (.finite 1) = .finite p) (positive : 0 < p) :
    ∃ q, double q = .finite p := by
  cases given with
  | none =>
    cases h
    exact ⟨1, by simpa using double_natCast (n := 1) (by norm_num)⟩
  | some value =>
    cases value with
    | text given => exact double_of_number h positive
    | texts => cases h

/-- What `PageOptionsDto` documents, and what the arithmetic of a page makes of it. -/
structure PageBounds (options : PageOptionsDto) (itemCount : Nat) : Prop where
  page : ∃ n : Nat, 1 ≤ n ∧ options.page = .finite n
  take : ∃ n : Nat, 1 ≤ n ∧ n ≤ 50 ∧ options.take = .finite n
  skip : ∃ n : Nat, options.skip = .finite n
  pageCount : ∃ n : Nat, (PageMetaDto.of options (double itemCount)).pageCount = .finite n

/-- What `DeviceTelemetryQueryDto` documents, and what it makes of the history of any device. -/
structure TelemetryBounds
    (find : (DeviceTelemetryEntity → Bool) → Option Value →
      Except String (List DeviceTelemetryEntity))
    (query : DeviceTelemetryQueryDto) : Prop where
  limit : ∃ n : Nat, 1 ≤ n ∧ n ≤ 500 ∧ query.limit = some (.finite n)
  history : ∀ devices scope id points,
    getDeviceTelemetryHistory find devices scope id query = .ok points → points.length ≤ 500

/-- The page and its size are at least one, the size is at most 50, and their product is below
the infinite. -/
def PageQuery.InBounds (query : PageQuery) : Prop :=
  ∃ page take : Rat, (query.page.map QueryValue.toNumber).getD (.finite 1) = .finite page ∧
    (query.take.map QueryValue.toNumber).getD (.finite 10) = .finite take ∧
    1 ≤ page ∧ 1 ≤ take ∧ take ≤ 50 ∧ page * take < overflowFrom

/-- A limit from 1 to 500 is given. -/
def TelemetryQuery.InBounds (query : TelemetryQuery) : Prop :=
  ∃ limit : Rat, query.limit.map QueryValue.toNumber = some (.finite limit) ∧
    1 ≤ limit ∧ limit ≤ 500

theorem PageOptionsDto.ofQuery_eq_some {query : PageQuery} {options : PageOptionsDto}
    (h : PageOptionsDto.ofQuery query = some options) :
    (∃ read, QueryValue.numberFieldOptional pageField query.page = some read ∧
      options.page = read.getD (.finite 1)) ∧
    ∃ read, QueryValue.numberFieldOptional takeField query.take = some read ∧
      options.take = read.getD (.finite 10) := by
  simp only [ofQuery, Option.bind_eq_bind, Option.bind_eq_some_iff, Option.pure_def,
    Option.some.injEq] at h
  obtain ⟨_, _, page, hpage, take, htake, _, _, rfl⟩ := h
  exact ⟨⟨page, hpage, rfl⟩, take, htake, rfl⟩

/-- What the page arithmetic needs of the two numbers, for any count that a database returns. -/
theorem pageBounds_iff {query : PageQuery} {options : PageOptionsDto}
    (h : PageOptionsDto.ofQuery query = some options) {itemCount : Nat}
    (counted : itemCount < 2 ^ 63) : PageBounds options itemCount ↔ query.InBounds := by
  obtain ⟨⟨page, hpage, page_eq⟩, take, htake, take_eq⟩ := PageOptionsDto.ofQuery_eq_some h
  have page_read := QueryValue.numberFieldOptional_eq hpage
  have take_read := QueryValue.numberFieldOptional_eq htake
  constructor
  · rintro ⟨⟨p, hp, hpage'⟩, ⟨t, ht, ht', htake'⟩, skip, -⟩
    have given : (query.page.map QueryValue.toNumber).getD (.finite 1) = .finite p := by
      rw [← page_read, ← page_eq, hpage']
    obtain ⟨q, hq⟩ := QueryValue.toNumber_double given (by exact_mod_cast hp)
    unfold PageOptionsDto.skip at skip
    rw [hpage', htake', pred_mul_natural hq hp (ht'.trans (by norm_num))] at skip
    exact ⟨p, t, given, by rw [← take_read, ← take_eq, htake'], by exact_mod_cast hp,
      by exact_mod_cast ht, by exact_mod_cast ht', skip⟩
  · rintro ⟨p, t, hp, ht, one, least, most, product⟩
    have positive : 0 < p := by linarith
    obtain ⟨q, hq⟩ := QueryValue.toNumber_double hp positive
    rw [← page_read] at hp
    rw [← take_read] at ht
    obtain ⟨p, rfl⟩ := QueryValue.numberFieldOptional_natural (n := 1) rfl hpage
      (by rw [Nat.cast_one, hp]) positive.le
    obtain ⟨t, rfl⟩ := QueryValue.numberFieldOptional_natural (n := 10) rfl htake
      (by rw [Nat.cast_ofNat, ht]) (by linarith)
    rw [hp] at page_eq
    rw [ht] at take_eq
    have one' : 1 ≤ p := by exact_mod_cast one
    have least' : 1 ≤ t := by exact_mod_cast least
    have most' : t ≤ 50 := by exact_mod_cast most
    refine ⟨⟨p, one', page_eq⟩, ⟨t, least', most', take_eq⟩, ?_, ?_⟩
    · unfold PageOptionsDto.skip
      rw [page_eq, take_eq]
      exact (pred_mul_natural hq one' (most'.trans (by norm_num))).mpr product
    · have bound : (itemCount : Rat) ≤ 2 ^ 63 := by exact_mod_cast counted.le
      obtain ⟨c, hc⟩ := double_natural_iff.mpr (lt_overflowFrom bound (by norm_num))
      have count : (c : Rat) ≤ 2 ^ 64 := (double_natural_le hc).trans (by linarith)
      show ∃ n : Nat, ((double itemCount).div options.take).ceil = .finite n
      rw [hc, take_eq]
      exact ceil_div_natural count least'

theorem DeviceTelemetryQueryDto.ofQuery_eq_some {newDate : String → Option Date}
    {query : TelemetryQuery} {dto : DeviceTelemetryQueryDto}
    (h : DeviceTelemetryQueryDto.ofQuery newDate query = some dto) :
    QueryValue.numberFieldOptional limitField query.limit = some dto.limit := by
  simp only [ofQuery, Option.bind_eq_bind, Option.bind_eq_some_iff, Option.pure_def,
    Option.some.injEq] at h
  obtain ⟨_, hlimit, _, _, _, _, rfl⟩ := h
  exact hlimit

section

variable {newDate : String → Option Date}
  {find : (DeviceTelemetryEntity → Bool) → Option Value →
    Except String (List DeviceTelemetryEntity)}

/-- A positive `take` is a limit on the rows. -/
def LimitsRows (find : (DeviceTelemetryEntity → Bool) → Option Value →
    Except String (List DeviceTelemetryEntity)) : Prop :=
  ∀ (filter : DeviceTelemetryEntity → Bool) (n : Nat) (rows : List DeviceTelemetryEntity),
    1 ≤ n → find filter (some (.finite n)) = .ok rows → rows.length ≤ n

theorem getDeviceTelemetryHistory_length (limits : LimitsRows find) {devices : List DeviceEntity}
    {scope : AccessScope} {id : String} {query : DeviceTelemetryQueryDto} {n : Nat} (hn : 1 ≤ n)
    (limit : query.limit = some (.finite n)) {points : List DeviceTelemetryEntity}
    (h : getDeviceTelemetryHistory find devices scope id query = .ok points) :
    points.length ≤ n := by
  unfold getDeviceTelemetryHistory at h
  split at h
  · cases h
  · rw [limit] at h
    cases answer : find _ (some (.finite (n : Rat))) with
    | error =>
      rw [answer] at h
      cases h
    | ok rows =>
      rw [answer] at h
      cases h
      rw [List.length_reverse]
      exact limits _ n rows hn answer

theorem telemetryBounds_iff (limits : LimitsRows find) {query : TelemetryQuery}
    {dto : DeviceTelemetryQueryDto} (h : DeviceTelemetryQueryDto.ofQuery newDate query = some dto) :
    TelemetryBounds find dto ↔ query.InBounds := by
  have hlimit := DeviceTelemetryQueryDto.ofQuery_eq_some h
  have read := QueryValue.numberFieldOptional_eq hlimit
  constructor
  · rintro ⟨⟨n, least, most, limit⟩, -⟩
    exact ⟨n, by rw [← read, limit], by exact_mod_cast least, by exact_mod_cast most⟩
  · rintro ⟨l, value, least, most⟩
    rw [← read] at value
    obtain ⟨n, rfl⟩ := QueryValue.numberFieldOptional_natural (n := 0) rfl hlimit
      (by rw [value]; rfl) (by linarith)
    have least' : 1 ≤ n := by exact_mod_cast least
    have most' : n ≤ 500 := by exact_mod_cast most
    exact ⟨⟨n, least', most', value⟩, fun devices scope id points found =>
      (getDeviceTelemetryHistory_length limits least' value found).trans most'⟩

/-- The services get values within the documented bounds exactly if the query is within them. -/
theorem query_bounds_iff (limits : LimitsRows find) :
    (∀ (query : PageQuery) (options : PageOptionsDto),
      PageOptionsDto.ofQuery query = some options →
        ∀ itemCount < 2 ^ 63, PageBounds options itemCount ↔ query.InBounds) ∧
    ∀ (query : TelemetryQuery) (dto : DeviceTelemetryQueryDto),
      DeviceTelemetryQueryDto.ofQuery newDate query = some dto →
        (TelemetryBounds find dto ↔ query.InBounds) :=
  ⟨fun _ _ h _ counted => pageBounds_iff h counted, fun _ _ h => telemetryBounds_iff limits h⟩

end

/-- The rows that a condition selects. No number, or zero, sets no limit. -/
def storedRows (rows : List DeviceTelemetryEntity) (filter : DeviceTelemetryEntity → Bool) :
    Option Value → Except String (List DeviceTelemetryEntity)
  | some (.finite n) =>
    if n < 0 then .error "LIMIT must not be negative"
    else if n = 0 then .ok (rows.filter filter)
    else .ok ((rows.filter filter).take n.num.toNat)
  | _ => .ok (rows.filter filter)

theorem storedRows_limits (rows : List DeviceTelemetryEntity) : LimitsRows (storedRows rows) := by
  intro filter n answer positive found
  have nonneg : ¬ (n : Rat) < 0 := not_lt.mpr n.cast_nonneg
  have nonzero : (n : Rat) ≠ 0 := by exact_mod_cast Nat.one_le_iff_ne_zero.mp positive
  simp only [storedRows, nonneg, nonzero, if_false, Except.ok.injEq] at found
  rw [← found, List.length_take]
  exact Nat.min_le_left _ _

/-- Page 2 of 20 rows each, and the last 100 points. -/
def secondPage : PageQuery := { page := some (.text "2"), take := some (.text "20") }

def lastHundred : TelemetryQuery := { limit := some (.text "100") }

theorem query_bounds_iff_secondPage :
    (PageBounds { page := .finite 2, take := .finite 20 } 45 ↔ secondPage.InBounds) ∧
    (TelemetryBounds (storedRows []) ⟨some (.finite 100), none, none⟩ ↔ lastHundred.InBounds) :=
  have bounds := @query_bounds_iff (fun _ => none) _ (storedRows_limits [])
  ⟨bounds.1 secondPage _ (by decide +kernel) 45 (by decide),
    bounds.2 lastHundred _ (by decide +kernel)⟩

/-- `?take=0` is accepted, and so is a history request without a limit. -/
theorem takeZero_accepted :
    (¬ ∀ (query : PageQuery) (options : PageOptionsDto),
      PageOptionsDto.ofQuery query = some options → ∀ itemCount, PageBounds options itemCount) ∧
    ¬ ∀ (query : TelemetryQuery) (dto : DeviceTelemetryQueryDto),
      DeviceTelemetryQueryDto.ofQuery (fun _ => none) query = some dto →
        TelemetryBounds (storedRows []) dto := by
  constructor
  · intro claim
    have zero : PageOptionsDto.ofQuery { take := some (.text "0") } =
        some { take := .finite 0 } := by
      decide +kernel
    obtain ⟨n, positive, -, take⟩ := (claim _ _ zero 0).take
    have : (0 : Rat) = n := Value.finite.inj take
    rw [← Nat.cast_zero, Nat.cast_inj] at this
    omega
  · intro claim
    obtain ⟨n, -, -, limit⟩ := (claim {} ⟨none, none, none⟩ rfl).limit
    cases limit

end AiotCloud
