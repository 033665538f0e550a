import AiotCloud.Lib.JsNumber
import Mathlib.Algebra.Order.Floor.Ring
import Mathlib.Tactic.FieldSimp
import Mathlib.Tactic.Linarith
import Mathlib.Tactic.Positivity
import Mathlib.Tactic.Ring

/-!
# Arithmetic of doubles

Subtraction, multiplication, division and the ceiling of JavaScript numbers, each the exact
result rounded to a double. A zero and an infinity have no sign here.

1. `double_infinite_iff`: a magnitude overflows from `2 ^ 1024 - 2 ^ 970` on.
2. `double_natural`: a natural number rounds to a natural number.
3. `pred_absorbed`: one less than a large double is rounded back to it.
-/

namespace JsNumber

def round (q : Rat) : Value := if q < 0 then (double (-q)).neg else double q

namespace Value

def sub : Value → Value → Value
  | .nan, _ | _, .nan => .nan
  | .finite p, .finite q => round (p - q)
  | _, _ => .infinite

def mul : Value → Value → Value
  | .nan, _ | _, .nan => .nan
  | .finite p, .finite q => round (p * q)
  | .infinite, .finite q | .finite q, .infinite => if q = 0 then .nan else .infinite
  | .infinite, .infinite => .infinite

def div : Value → Value → Value
  | .nan, _ | _, .nan => .nan
  | .finite p, .finite q =>
    if q = 0 then if p = 0 then .nan else .infinite else round (p / q)
  | .infinite, .finite _ => .infinite
  | .finite _, .infinite => .finite 0
  | .infinite, .infinite => .nan

/-- `Math.ceil`. -/
def ceil : Value → Value
  | .finite q => .finite ⌈q⌉
  | v => v

/-- `Number.isInteger`. -/
def isInteger : Value → Bool
  | .finite q => q.den = 1
  | _ => false

/-- Between finite numbers. -/
def lt : Value → Value → Bool
  | .finite p, .finite q => p < q
  | _, _ => false

def le : Value → Value → Bool
  | .finite p, .finite q => p ≤ q
  | _, _ => false

end Value

/-! ## The nearest integer -/

theorem floor_le_nearest (q : Rat) : ⌊q⌋ ≤ nearest q := by
  unfold nearest
  split <;> omega

theorem nearest_error (q : Rat) : |(nearest q : Rat) - q| ≤ 1 / 2 := by
  have low := Int.floor_le q
  have high := Int.lt_floor_add_one q
  unfold nearest
  split
  · next h =>
    have half : 1 ≤ 2 * (q - ⌊q⌋) := h.elim le_of_lt fun h => h.1.ge
    push_cast
    rw [abs_le]
    constructor <;> linarith
  · next h =>
    have half : 2 * (q - ⌊q⌋) ≤ 1 := not_lt.mp fun above => h (.inl above)
    rw [abs_le]
    constructor <;> linarith

theorem le_nearest {n : Int} {q : Rat} (h : (n : Rat) ≤ q) : n ≤ nearest q :=
  (Int.le_floor.mpr h).trans (floor_le_nearest q)

/-- Within half a unit of an integer, the boundary aside, lies no other nearest one. -/
theorem nearest_eq {n : Int} {q : Rat} (h : |q - n| < 1 / 2) : nearest q = n := by
  have error := nearest_error q
  rw [abs_le] at error
  rw [abs_lt] at h
  have above : ((nearest q : Int) : Rat) < (n + 1 : Int) := by
    push_cast
    linarith
  have below : ((n - 1 : Int) : Rat) < nearest q := by
    push_cast
    linarith
  have above' : nearest q < n + 1 := by exact_mod_cast above
  have below' : n - 1 < nearest q := by exact_mod_cast below
  omega

/-! ## Rounding to a double -/

/-- A magnitude rounded to the places that its double has, however large. -/
def rounded (q : Rat) : Rat := nearest (q / 2 ^ lastPlace q) * 2 ^ lastPlace q

theorem double_eq (q : Rat) :
    double q = if rounded q < 2 ^ 1024 then .finite (rounded q) else .infinite := rfl

theorem rounded_of_double {q r : Rat} (h : double q = .finite r) :
    r = rounded q ∧ rounded q < 2 ^ 1024 := by
  rw [double_eq] at h
  split at h
  · next fits => exact ⟨(Value.finite.inj h).symm, fits⟩
  · cases h

theorem lastPlace_eq {q : Rat} {j : Nat} (low : 2 ^ (52 + j) ≤ q) (high : q < 2 ^ (53 + j)) :
    lastPlace q = j := by
  have positive : 0 < q := lt_of_lt_of_le (by positivity) low
  have below : ((52 + j : Nat) : Int) ≤ Int.log 2 q :=
    (Int.zpow_le_iff_le_log one_lt_two positive).mp (by exact_mod_cast low)
  have above : Int.log 2 q < ((53 + j : Nat) : Int) :=
    (Int.lt_zpow_iff_log_lt one_lt_two positive).mp (by exact_mod_cast high)
  unfold lastPlace
  omega

/-- From `2 ^ 52` on a magnitude is rounded to an integer, in steps of a power of two. -/
theorem large_place {q : Rat} (h : 2 ^ 52 ≤ q) :
    ∃ j : Nat, lastPlace q = j ∧ 2 ^ (52 + j) ≤ q ∧ q < 2 ^ (53 + j) := by
  have positive : 0 < q := lt_of_lt_of_le (by positivity) h
  have log : ((52 : Nat) : Int) ≤ Int.log 2 q :=
    (Int.zpow_le_iff_le_log one_lt_two positive).mp (by exact_mod_cast h)
  obtain ⟨j, hj⟩ : ∃ j : Nat, Int.log 2 q = ((52 + j : Nat) : Int) :=
    ⟨(Int.log 2 q - 52).toNat, by omega⟩
  have low : 2 ^ (52 + j) ≤ q := by
    have below := Int.zpow_log_le_self (R := Rat) one_lt_two positive
    rw [hj] at below
    exact_mod_cast below
  have high : q < 2 ^ (53 + j) := by
    have above := Int.lt_zpow_succ_log_self (R := Rat) (b := 2) one_lt_two q
    rw [hj, show ((52 + j : Nat) : Int) + 1 = ((53 + j : Nat) : Int) by push_cast; ring] at above
    exact_mod_cast above
  exact ⟨j, lastPlace_eq low high, low, high⟩

theorem small_place {q : Rat} (h : q < 2 ^ 53) : lastPlace q ≤ 0 := by
  unfold lastPlace
  rcases le_or_gt q 0 with hq | hq
  · rw [Int.log_of_right_le_zero _ hq]
    omega
  · have log : Int.log 2 q < ((53 : Nat) : Int) :=
      (Int.lt_zpow_iff_log_lt one_lt_two hq).mp (by exact_mod_cast h)
    omega

theorem rounded_error (q : Rat) : |rounded q - q| ≤ 2 ^ lastPlace q / 2 := by
  have unit : (0 : Rat) < 2 ^ lastPlace q := zpow_pos two_pos _
  have scaled : rounded q - q = (nearest (q / 2 ^ lastPlace q) - q / 2 ^ lastPlace q) *
      2 ^ lastPlace q := by
    rw [sub_mul, div_mul_cancel₀ _ unit.ne']
    rfl
  rw [scaled, abs_mul, abs_of_pos unit]
  calc _ ≤ 1 / 2 * (2 : Rat) ^ lastPlace q :=
        mul_le_mul_of_nonneg_right (nearest_error _) unit.le
    _ = _ := by ring

theorem rounded_small {q : Rat} (h : q < 2 ^ 53) : rounded q ≤ q + 1 := by
  have error := (abs_le.mp (rounded_error q)).2
  have unit : (2 : Rat) ^ lastPlace q ≤ 1 := zpow_le_one_of_nonpos₀ one_le_two (small_place h)
  linarith

/-- Rounding a large magnitude keeps it within its power of two. -/
theorem rounded_large {q : Rat} {j : Nat} (place : lastPlace q = j) (low : 2 ^ (52 + j) ≤ q)
    (high : q < 2 ^ (53 + j)) :
    ∃ m : Nat, rounded q = m * 2 ^ j ∧ nearest (q / 2 ^ j) = m ∧ 2 ^ 52 ≤ m ∧ m ≤ 2 ^ 53 := by
  have unit : (0 : Rat) < 2 ^ j := by positivity
  have below : ((2 ^ 52 : Int) : Rat) ≤ q / 2 ^ j := by
    rw [le_div_iff₀ unit, Int.cast_pow, Int.cast_ofNat]
    rwa [← pow_add]
  have above : q / 2 ^ j < ((2 ^ 53 : Int) : Rat) := by
    rw [div_lt_iff₀ unit, Int.cast_pow, Int.cast_ofNat]
    rwa [← pow_add]
  have least := le_nearest below
  have most : nearest (q / 2 ^ j) < 2 ^ 53 + 1 := by
    have error := (abs_le.mp (nearest_error (q / 2 ^ j))).2
    have : ((nearest (q / 2 ^ j) : Int) : Rat) < ((2 ^ 53 + 1 : Int) : Rat) := by
      push_cast at above ⊢
      linarith
    exact_mod_cast this
  obtain ⟨m, hm⟩ := Int.eq_ofNat_of_zero_le ((by norm_num : (0 : Int) ≤ 2 ^ 52).trans least)
  rw [hm] at least most
  refine ⟨m, ?_, hm, by exact_mod_cast least, by omega⟩
  unfold rounded
  rw [place, zpow_natCast, hm, Int.cast_natCast]

/-- The least magnitude that is rounded to infinity. -/
def overflowFrom : Rat := 2 ^ 1024 - 2 ^ 970

theorem overflowFrom_bounds : (2 : Rat) ^ 1023 < overflowFrom ∧ overflowFrom < 2 ^ 1024 := by
  have unit : (0 : Rat) < 2 ^ 970 := by positivity
  have limit : (2 : Rat) ^ 1024 = 2 ^ 54 * 2 ^ 970 := by rw [← pow_add]
  have binade : (2 : Rat) ^ 1023 = 2 ^ 53 * 2 ^ 970 := by rw [← pow_add]
  unfold overflowFrom
  rw [limit, binade]
  generalize (2 : Rat) ^ 970 = place at unit ⊢
  constructor <;> linarith

/-- In the last binade the nearest place is out of range from half a place below the end. -/
theorem last_binade {q : Rat} (low : 2 ^ (52 + 971) ≤ q) (high : q < 2 ^ (53 + 971)) :
    rounded q < 2 ^ 1024 ↔ q < overflowFrom := by
  obtain ⟨m, value, hm, -, most⟩ := rounded_large (lastPlace_eq low high) low high
  have unit : (0 : Rat) < 2 ^ 971 := by positivity
  have limit : (2 : Rat) ^ 1024 = 2 ^ 53 * 2 ^ 971 := by rw [← pow_add]
  have half : overflowFrom = (2 ^ 53 - 1 / 2) * 2 ^ 971 := by
    unfold overflowFrom
    rw [sub_mul, ← limit, show (2 : Rat) ^ 971 = 2 * 2 ^ 970 from pow_succ' 2 970, ← mul_assoc,
      one_div, inv_mul_cancel₀ two_ne_zero, one_mul]
  rw [value, limit, mul_lt_mul_iff_left₀ unit, half, ← div_lt_iff₀ unit]
  have top : q / 2 ^ 971 < 2 ^ 53 := by
    rw [div_lt_iff₀ unit, ← limit]
    exact high
  generalize q / 2 ^ 971 = x at hm top ⊢
  constructor
  · intro h
    by_contra beyond
    rw [not_lt] at beyond
    have floor : ⌊x⌋ = 2 ^ 53 - 1 := by
      rw [Int.floor_eq_iff]
      push_cast
      constructor <;> linarith
    have up : nearest x = 2 ^ 53 := by
      unfold nearest
      rw [if_pos, floor]
      · norm_num
      · rw [floor]
        push_cast
        rcases beyond.eq_or_lt with equal | above
        · exact .inr ⟨by linarith, by norm_num⟩
        · exact .inl (by linarith)
    rw [hm] at up
    have : m = 2 ^ 53 := by exact_mod_cast up
    subst this
    norm_num at h
  · intro h
    have error := (abs_le.mp (nearest_error x)).2
    rw [hm, Int.cast_natCast] at error
    linarith

theorem double_infinite_iff {q : Rat} : double q = .infinite ↔ overflowFrom ≤ q := by
  rw [double_eq, ite_eq_right_iff]
  simp only [reduceCtorEq, imp_false]
  rw [← not_lt (a := q), not_iff_not]
  obtain ⟨wide, under⟩ := overflowFrom_bounds
  have ends : (2 : Rat) ^ 1023 < 2 ^ 1024 := wide.trans under
  rcases lt_or_ge q (2 ^ 53) with small | large
  · have fits : (2 : Rat) ^ 53 + 1 < 2 ^ 1023 :=
      lt_of_lt_of_le (by norm_num) (pow_le_pow_right₀ one_le_two (by norm_num : 54 ≤ 1023))
    have bound : q + 1 < 2 ^ 1023 := (add_lt_add_left small 1).trans fits
    have result : rounded q < 2 ^ 1023 := (rounded_small small).trans_lt bound
    exact iff_of_true (result.trans ends) (((lt_add_one q).trans bound).trans wide)
  · obtain ⟨j, place, low, high⟩ := large_place (le_trans (by norm_num) large)
    obtain ⟨m, value, -, least, most⟩ := rounded_large place low high
    rcases lt_trichotomy j 971 with below | rfl | above
    · have power : (2 : Rat) ^ (53 + j) ≤ 2 ^ 1023 :=
        pow_le_pow_right₀ one_le_two (by omega)
      have product : (m : Rat) * 2 ^ j ≤ 2 ^ (53 + j) := by
        rw [pow_add]
        exact mul_le_mul_of_nonneg_right (by exact_mod_cast most) (by positivity)
      rw [value]
      exact iff_of_true ((product.trans power).trans_lt ends) ((high.trans_le power).trans wide)
    · exact last_binade low high
    · have power : (2 : Rat) ^ 1024 ≤ 2 ^ (52 + j) :=
        pow_le_pow_right₀ one_le_two (by omega)
      have product : (2 : Rat) ^ (52 + j) ≤ m * 2 ^ j := by
        rw [pow_add]
        exact mul_le_mul_of_nonneg_right (by exact_mod_cast least) (by positivity)
      rw [value]
      exact iff_of_false (power.trans product).not_gt (under.le.trans (power.trans low)).not_gt

/-- A natural number is rounded to a natural number. -/
theorem double_natural {n : Nat} {r : Rat} (h : double n = .finite r) : ∃ k : Nat, r = k := by
  rcases lt_or_ge n (2 ^ 53) with small | large
  · rw [double_natCast small] at h
    exact ⟨n, (Value.finite.inj h).symm⟩
  · have wide : (2 : Rat) ^ 52 ≤ n := by exact_mod_cast le_trans (by norm_num) large
    obtain ⟨j, place, low, high⟩ := large_place wide
    obtain ⟨m, value, -⟩ := rounded_large place low high
    exact ⟨m * 2 ^ j, by rw [(rounded_of_double h).1, value]; push_cast; rfl⟩

theorem pred_rounded {m j : Nat} (least : 2 ^ 52 < m) (most : m ≤ 2 ^ 53) (hj : 2 ≤ j) :
    rounded (m * 2 ^ j - 1) = m * 2 ^ j := by
  have unit : (1 : Rat) ≤ 2 ^ j := one_le_pow₀ one_le_two
  have low : (2 : Rat) ^ (52 + j) ≤ m * 2 ^ j - 1 := by
    have step : ((2 : Rat) ^ 52 + 1) * 2 ^ j ≤ m * 2 ^ j :=
      mul_le_mul_of_nonneg_right (by exact_mod_cast least) (by positivity)
    rw [pow_add]
    linarith
  have high : (m : Rat) * 2 ^ j - 1 < 2 ^ (53 + j) := by
    have step : (m : Rat) * 2 ^ j ≤ 2 ^ 53 * 2 ^ j :=
      mul_le_mul_of_nonneg_right (by exact_mod_cast most) (by positivity)
    rw [pow_add]
    linarith
  have scaled : ((m : Rat) * 2 ^ j - 1) / 2 ^ j - (m : Int) = -(1 / 2 ^ j) := by
    rw [Int.cast_natCast, sub_div, mul_div_cancel_right₀ _ (by positivity)]
    ring
  have near : |((m : Rat) * 2 ^ j - 1) / 2 ^ j - (m : Int)| < 1 / 2 := by
    have quarter : (2 : Rat) ^ 2 ≤ 2 ^ j := pow_le_pow_right₀ one_le_two hj
    rw [scaled, abs_neg, abs_of_pos (by positivity)]
    exact one_div_lt_one_div_of_lt two_pos (by linarith)
  unfold rounded
  rw [lastPlace_eq low high, zpow_natCast, nearest_eq near, Int.cast_natCast]

/-- A double of this size is a multiple of eight, so one less is rounded back to it. -/
theorem pred_absorbed {q p : Rat} (h : double q = .finite p) (large : 2 ^ 56 ≤ p) :
    double (p - 1) = .finite p := by
  obtain ⟨rfl, range⟩ := rounded_of_double h
  have from_large : 2 ^ 53 ≤ q := by
    by_contra small
    rw [not_le] at small
    have := rounded_small small
    linarith
  obtain ⟨j, place, low, high⟩ := large_place (le_trans (by norm_num) from_large)
  obtain ⟨m, value, -, least, most⟩ := rounded_large place low high
  have steps : 2 ^ 56 ≤ m * 2 ^ j := by
    rw [value] at large
    exact_mod_cast large
  have unit : 2 ≤ j ∧ (m = 2 ^ 52 → 3 ≤ j) := by
    refine ⟨?_, ?_⟩
    · by_contra hj
      have : j = 0 ∨ j = 1 := by omega
      rcases this with rfl | rfl <;> omega
    · rintro rfl
      by_contra hj
      have : j = 0 ∨ j = 1 ∨ j = 2 := by omega
      rcases this with rfl | rfl | rfl <;> omega
  -- At a power of two the doubles below lie half as far apart.
  have pred : rounded (rounded q - 1) = rounded q := by
    rw [value]
    rcases least.eq_or_lt with rfl | above
    · obtain ⟨i, rfl⟩ : ∃ i, j = i + 1 := ⟨j - 1, by omega⟩
      have halved : ((2 ^ 52 : Nat) : Rat) * 2 ^ (i + 1) = (2 ^ 53 : Nat) * 2 ^ i := by
        push_cast
        ring
      rw [halved]
      exact pred_rounded (by norm_num) le_rfl (by omega)
    · exact pred_rounded above most unit.1
  rw [double_eq, pred, if_pos range]

/-- The result of rounding is at most half as much more. -/
theorem double_le {q r : Rat} (h : double q = .finite r) (hq : 1 ≤ q) : r ≤ 2 * q := by
  rw [(rounded_of_double h).1]
  rcases lt_or_ge q (2 ^ 53) with small | large
  · linarith [rounded_small small]
  · obtain ⟨j, place, low, -⟩ := large_place (le_trans (by norm_num) large)
    have error := (abs_le.mp (rounded_error q)).2
    have unit : (2 : Rat) ^ j ≤ 2 ^ (52 + j) := pow_le_pow_right₀ one_le_two (by omega)
    rw [place, zpow_natCast] at error
    linarith

/-! ## Results -/

theorem round_of_nonneg {q : Rat} (h : 0 ≤ q) : round q = double q :=
  if_neg (not_lt.mpr h)

theorem round_natCast {n : Nat} (h : n < 2 ^ 53) : round n = .finite n :=
  (round_of_nonneg n.cast_nonneg).trans (double_natCast h)

theorem rounded_nonneg {q : Rat} (h : 0 ≤ q) : 0 ≤ rounded q := by
  have unit : (0 : Rat) < 2 ^ lastPlace q := zpow_pos two_pos _
  have integer : (0 : Int) ≤ nearest (q / 2 ^ lastPlace q) :=
    le_nearest (by rw [Int.cast_zero]; exact div_nonneg h unit.le)
  exact mul_nonneg (by exact_mod_cast integer) unit.le

theorem double_nonneg {q r : Rat} (h : double q = .finite r) (hq : 0 ≤ q) : 0 ≤ r :=
  (rounded_of_double h).1 ▸ rounded_nonneg hq

theorem double_of_unsigned {cs : List Char} {p : Rat} (h : unsigned cs = .finite p) :
    ∃ q, 0 ≤ q ∧ double q = .finite p := by
  unfold unsigned at h
  dsimp only at h
  split at h
  · cases h
  · split at h
    · split at h
      · cases h
      · exact ⟨_, mul_nonneg (Nat.cast_nonneg _) (zpow_nonneg (by norm_num) _), h⟩
    · cases h

/-- A positive number that a literal stands for is a double. -/
theorem double_of_number {blank : Char → Bool} {text : List Char} {p : Rat}
    (h : number blank text = .finite p) (positive : 0 < p) : ∃ q, double q = .finite p := by
  unfold number at h
  dsimp only at h
  split at h
  · unfold inBase at h
    split at h
    · exact ⟨_, h⟩
    · cases h
  · split at h
    · exact absurd (Value.finite.inj h) positive.ne
    · unfold signed at h
      split at h
      · exact (double_of_unsigned h).imp fun _ => And.right
      · next cs _ =>
        -- A negated literal is not positive.
        cases value : unsigned cs with
        | nan => rw [value] at h; cases h
        | infinite => rw [value] at h; cases h
        | finite r =>
          rw [value] at h
          obtain ⟨q, hq, hr⟩ := double_of_unsigned value
          have := double_nonneg hr hq
          have : -r = p := Value.finite.inj h
          linarith
      · exact (double_of_unsigned h).imp fun _ => And.right

theorem double_ne_nan (q : Rat) : double q ≠ .nan := by
  rw [double_eq]
  split <;> simp

/-- A natural number that does not overflow is rounded to a natural number. -/
theorem double_natural_iff {n : Nat} :
    (∃ k : Nat, double n = .finite k) ↔ (n : Rat) < overflowFrom := by
  rw [← not_le, ← double_infinite_iff]
  constructor
  · rintro ⟨k, hk⟩ infinite
    rw [infinite] at hk
    cases hk
  · intro finite
    cases value : double n with
    | nan => exact absurd value (double_ne_nan _)
    | infinite => exact absurd value finite
    | finite r =>
      obtain ⟨k, rfl⟩ := double_natural value
      exact ⟨k, rfl⟩

theorem double_natural_le {n k : Nat} (h : double n = .finite k) : (k : Rat) ≤ 2 * n := by
  rcases Nat.eq_zero_or_pos n with rfl | positive
  · rw [double_natCast (by norm_num)] at h
    rw [← Value.finite.inj h]
    simp
  · exact double_le h (by exact_mod_cast positive)

theorem lt_overflowFrom {q : Rat} {k : Nat} (h : q ≤ 2 ^ k) (hk : k ≤ 1023) : q < overflowFrom :=
  (h.trans (pow_le_pow_right₀ one_le_two hk)).trans_lt overflowFrom_bounds.1

/-- One less than a positive integer, times a small one: an integer unless it overflows. -/
theorem pred_mul_natural {q : Rat} {p t : Nat} (h : double q = .finite p) (hp : 1 ≤ p)
    (ht : t ≤ 2 ^ 50) :
    (∃ k : Nat, ((Value.finite p).sub (.finite 1)).mul (.finite t) = .finite k) ↔
      (p * t : Rat) < overflowFrom := by
  have times : (t : Rat) ≤ 2 ^ 50 := by exact_mod_cast ht
  have mul (r : Nat) : (Value.finite r).mul (.finite t) = double ((r * t : Nat) : Rat) := by
    rw [Nat.cast_mul]
    exact round_of_nonneg (by positivity)
  have sub : (Value.finite p).sub (.finite 1) = double ((p - 1 : Nat) : Rat) := by
    rw [Nat.cast_pred hp]
    exact round_of_nonneg (by rw [← Nat.cast_pred hp]; exact Nat.cast_nonneg _)
  rw [sub]
  rcases lt_or_ge (p : Rat) (2 ^ 56) with small | large
  · have product (r : Nat) (hr : (r : Rat) ≤ 2 ^ 57) : (r * t : Rat) < overflowFrom := by
      refine lt_overflowFrom (k := 107) ?_ (by norm_num)
      calc (r * t : Rat) ≤ 2 ^ 57 * 2 ^ 50 := mul_le_mul hr times t.cast_nonneg (by positivity)
        _ = 2 ^ 107 := by norm_num
    have pred : ((p - 1 : Nat) : Rat) ≤ 2 ^ 56 := by
      rw [Nat.cast_pred hp]
      linarith
    obtain ⟨r, hr⟩ := double_natural_iff.mpr (lt_overflowFrom pred (by norm_num))
    have bound : (r : Rat) ≤ 2 ^ 57 := (double_natural_le hr).trans (by linarith)
    rw [hr, mul, double_natural_iff, Nat.cast_mul]
    exact iff_of_true (product r bound) (product p (by linarith))
  · rw [Nat.cast_pred hp, pred_absorbed h large, mul, double_natural_iff, Nat.cast_mul]

/-- A quotient of natural numbers is rounded up to a natural number. -/
theorem ceil_div_natural {c t : Nat} (hc : (c : Rat) ≤ 2 ^ 64) (ht : 1 ≤ t) :
    ∃ n : Nat, ((Value.finite c).div (.finite t)).ceil = .finite n := by
  have positive : (1 : Rat) ≤ t := by exact_mod_cast ht
  have nonneg : (0 : Rat) ≤ c / t := by positivity
  have quotient : (Value.finite c).div (.finite t) = double (c / t) := by
    show (if (t : Rat) = 0 then _ else _) = _
    rw [if_neg (by linarith), round_of_nonneg nonneg]
  rw [quotient]
  cases value : double (c / t) with
  | nan => exact absurd value (double_ne_nan _)
  | infinite =>
    have bound : (c / t : Rat) ≤ 2 ^ 64 := (div_le_self c.cast_nonneg positive).trans hc
    exact absurd (double_infinite_iff.mp value) (not_le.mpr (lt_overflowFrom bound (by norm_num)))
  | finite r =>
    obtain ⟨n, hn⟩ := Int.eq_ofNat_of_zero_le (Int.ceil_nonneg (double_nonneg value nonneg))
    exact ⟨n, by simp [Value.ceil, hn]⟩

/-- A magnitude below a small integer is not rounded past it. -/
theorem rounded_le_natCast {q : Rat} {n : Nat} (h : q ≤ n) (small : q < 2 ^ 53) :
    rounded q ≤ n := by
  obtain ⟨k, hk⟩ : ∃ k : Nat, lastPlace q = -(k : Int) :=
    ⟨(-lastPlace q).toNat, by have := small_place small; omega⟩
  have unit : (0 : Rat) < 2 ^ k := by positivity
  have scaled : q / 2 ^ lastPlace q = q * 2 ^ k := by
    rw [hk, zpow_neg, zpow_natCast, div_inv_eq_mul]
  have above : q * 2 ^ k ≤ ((n * 2 ^ k : Int) : Rat) := by
    push_cast
    exact mul_le_mul_of_nonneg_right h unit.le
  have integer : nearest (q * 2 ^ k) ≤ n * 2 ^ k := by
    have error := (abs_le.mp (nearest_error (q * 2 ^ k))).2
    have : ((nearest (q * 2 ^ k) : Int) : Rat) < ((n * 2 ^ k + 1 : Int) : Rat) := by
      push_cast at above ⊢
      linarith
    have : nearest (q * 2 ^ k) < n * 2 ^ k + 1 := by exact_mod_cast this
    omega
  unfold rounded
  rw [scaled, hk, zpow_neg, zpow_natCast, ← div_eq_mul_inv, div_le_iff₀ unit]
  exact_mod_cast integer

/-- Rounding moves a small quotient by less than its denominator's part of one. -/
theorem rounded_div_error {c t : Nat} (hc : 1 ≤ c) (small : c < 2 ^ 53) (ht : 1 ≤ t)
    (bounded : t ≤ 2 ^ 50) : |rounded (c / t) - c / t| < 1 / t := by
  have denominator : (0 : Rat) < t := by exact_mod_cast ht
  have positive : (0 : Rat) < c / t := div_pos (by exact_mod_cast hc) denominator
  refine (rounded_error _).trans_lt ?_
  rcases le_total (-1074) (Int.log 2 (c / t : Rat) - 52) with normal | tiny
  · have place : lastPlace (c / t : Rat) = Int.log 2 (c / t : Rat) - 52 := max_eq_left normal
    have power := Int.zpow_log_le_self (R := Rat) one_lt_two positive
    rw [Nat.cast_ofNat] at power
    rw [place, zpow_sub₀ two_ne_zero, div_div]
    have numerator : (c : Rat) < 2 ^ 53 := by exact_mod_cast small
    calc (2 : Rat) ^ Int.log 2 (c / t : Rat) / (2 ^ (52 : Int) * 2)
        ≤ c / t / (2 ^ (52 : Int) * 2) := div_le_div_of_nonneg_right power (by norm_num)
      _ = c / 2 ^ 53 * (1 / t) := by
          field_simp
      _ < 1 / t := by
          refine mul_lt_of_lt_one_left (one_div_pos.mpr denominator) ?_
          rwa [div_lt_one (by norm_num)]
  · have place : lastPlace (c / t : Rat) = -1074 := max_eq_right tiny
    rw [place]
    calc (2 : Rat) ^ (-1074 : Int) / 2 < 2 ^ (-1074 : Int) := half_lt_self (zpow_pos two_pos _)
      _ ≤ 2 ^ (-50 : Int) := zpow_le_zpow_right₀ one_le_two (by norm_num)
      _ = 1 / 2 ^ 50 := by norm_num
      _ ≤ 1 / t := one_div_le_one_div_of_le denominator (by exact_mod_cast bounded)

theorem ceil_rounded_div {c t : Nat} (small : c < 2 ^ 53) (ht : 1 ≤ t) (bounded : t ≤ 2 ^ 50) :
    ⌈rounded (c / t : Rat)⌉ = (((c + t - 1) / t : Nat) : Int) := by
  have denominator : (0 : Rat) < t := by exact_mod_cast ht
  have below : (c / t : Rat) < 2 ^ 53 :=
    (div_le_self c.cast_nonneg (by exact_mod_cast ht)).trans_lt (by exact_mod_cast small)
  have parts := Nat.div_add_mod (c + t - 1) t
  have rest := Nat.mod_lt (c + t - 1) ht
  generalize (c + t - 1) / t = n at parts ⊢
  have upper : (c / t : Rat) ≤ n := by
    rw [div_le_iff₀ denominator, mul_comm]
    have : c ≤ t * n := by omega
    exact_mod_cast this
  rw [Int.ceil_eq_iff, Int.cast_natCast]
  refine ⟨?_, rounded_le_natCast upper below⟩
  rcases Nat.eq_zero_or_pos c with rfl | positive
  · have none : n = 0 := by
      by_contra some
      have := Nat.le_mul_of_pos_right t (Nat.pos_of_ne_zero some)
      omega
    have := rounded_nonneg (q := (0 : Nat) / t) (by positivity)
    rw [none]
    push_cast at this ⊢
    linarith
  · have error := (abs_lt.mp (rounded_div_error positive small ht bounded)).1
    have lower : (n : Rat) - 1 + 1 / t ≤ c / t := by
      rw [le_div_iff₀ denominator, add_mul, div_mul_cancel₀ _ denominator.ne']
      have : t * n + 1 ≤ c + t := by omega
      have : (t * n + 1 : Rat) ≤ c + t := by exact_mod_cast this
      linarith
    linarith

/-- The ceiling of a small quotient is the exact one. -/
theorem ceil_div_exact {c t : Nat} (small : c < 2 ^ 53) (ht : 1 ≤ t) (bounded : t ≤ 2 ^ 50) :
    ((Value.finite c).div (.finite t)).ceil = .finite ((c + t - 1) / t : Nat) := by
  have positive : (1 : Rat) ≤ t := by exact_mod_cast ht
  have nonneg : (0 : Rat) ≤ c / t := by positivity
  have below : (c / t : Rat) < 2 ^ 53 :=
    (div_le_self c.cast_nonneg positive).trans_lt (by exact_mod_cast small)
  have quotient : (Value.finite c).div (.finite t) = .finite (rounded (c / t)) := by
    have finite : rounded (c / t : Rat) < 2 ^ 1024 := by
      have limited := mt double_infinite_iff.mp
        (not_le.mpr (lt_overflowFrom below.le (by norm_num)))
      by_contra infinite
      exact limited (by rw [double_eq, if_neg infinite])
    show (if (t : Rat) = 0 then _ else _) = _
    rw [if_neg (by linarith), round_of_nonneg nonneg, double_eq, if_pos finite]
  rw [quotient]
  show Value.finite ((⌈rounded (c / t : Rat)⌉ : Int) : Rat) = _
  rw [ceil_rounded_div small ht bounded, Int.cast_natCast]

end JsNumber
