import AiotCloud.Lib.TextItems
import Mathlib.Data.Int.Log
import Mathlib.Data.Rat.Floor

/-!
# Numbers read from text

The value that `Number` gives a text: of a decimal literal, of a literal in base 16, 8 or 2,
or of blanks alone, rounded to a double.

`number_digits`: a run of digits has its value, up to `2 ^ 53`.
-/

namespace JsNumber

/-- A number, with zero and infinity of either sign as one. -/
inductive Value where
  | nan
  | infinite
  | finite (q : Rat)
deriving DecidableEq, Repr

def Value.neg : Value → Value
  | .nan => .nan
  | .infinite => .infinite
  | .finite q => .finite (-q)

/-! ## Rounding -/

/-- The nearest integer, and of two the even one. -/
def nearest (q : Rat) : Int :=
  if 1 < 2 * (q - ⌊q⌋) ∨ (2 * (q - ⌊q⌋) = 1 ∧ ⌊q⌋ % 2 = 1) then ⌊q⌋ + 1 else ⌊q⌋

/-- The exponent of the last binary place that a double of this magnitude has. -/
def lastPlace (q : Rat) : Int := max (Int.log 2 q - 52) (-1074)

/-- The double nearest to a magnitude. -/
def double (q : Rat) : Value :=
  let rounded := (nearest (q / 2 ^ lastPlace q) : Rat) * 2 ^ lastPlace q
  if rounded < 2 ^ 1024 then .finite rounded else .infinite

theorem nearest_intCast (n : Int) : nearest n = n := by
  simp [nearest]

/-- A natural number below `2 ^ 53` is a double. -/
theorem double_natCast {n : Nat} (h : n < 2 ^ 53) : double n = .finite n := by
  have place : lastPlace n = ((Nat.log 2 n : Int) - 52) := by
    rw [lastPlace, Int.log_natCast]
    omega
  have small : Nat.log 2 n ≤ 52 := by
    by_cases hn : n = 0
    · simp [hn]
    · exact Nat.lt_succ_iff.mp (Nat.log_lt_of_lt_pow hn h)
  obtain ⟨k, hk⟩ : ∃ k : Nat, lastPlace n = -(k : Int) := ⟨52 - Nat.log 2 n, by omega⟩
  have scaled : (n : Rat) / 2 ^ lastPlace n = ((n * 2 ^ k : Int) : Rat) := by
    rw [hk, zpow_neg, div_inv_eq_mul, zpow_natCast]
    push_cast
    rfl
  have value : (nearest ((n : Rat) / 2 ^ lastPlace n) : Rat) * 2 ^ lastPlace n = n := by
    rw [scaled, nearest_intCast, ← scaled]
    exact div_mul_cancel₀ _ (zpow_ne_zero _ two_ne_zero)
  have bound : (n : Rat) < 2 ^ 1024 := by
    exact_mod_cast h.trans (Nat.pow_lt_pow_right (by decide) (by decide))
  unfold double
  rw [value, if_pos bound]

/-! ## Literals -/

/-- What follows the digits of a decimal literal: nothing, or an exponent. -/
def exponent : List Char → Option Int
  | [] => some 0
  | c :: cs =>
    let digits (ds : List Char) : Option Int :=
      if ds ≠ [] ∧ ds.all Char.isDigit then some (Nat.ofDigitChars 10 ds 0) else none
    if c = 'e' ∨ c = 'E' then
      match cs with
      | '+' :: ds => digits ds
      | '-' :: ds => (digits ds).map (-·)
      | ds => digits ds
    else none

/-- The digits after a point, and what follows them. -/
def fraction : List Char → List Char × List Char
  | '.' :: cs => cs.span Char.isDigit
  | cs => ([], cs)

/-- A decimal literal without a sign. -/
def unsigned (cs : List Char) : Value :=
  if cs = "Infinity".toList then .infinite else
    let (int, rest) := cs.span Char.isDigit
    let (frac, rest) := fraction rest
    match exponent rest with
    | some e =>
      if int ++ frac = [] then .nan
      else double (Nat.ofDigitChars 10 (int ++ frac) 0 * 10 ^ (e - frac.length))
    | none => .nan

def signed : List Char → Value
  | '+' :: cs => unsigned cs
  | '-' :: cs => (unsigned cs).neg
  | cs => unsigned cs

/-- The base that the letter after a zero stands for. -/
def radix (c : Char) : Option Nat :=
  if c = 'x' ∨ c = 'X' then some 16
  else if c = 'o' ∨ c = 'O' then some 8
  else if c = 'b' ∨ c = 'B' then some 2
  else none

def digitValue (c : Char) : Nat :=
  if c.isDigit then c.toNat - '0'.toNat
  else if 'a' ≤ c ∧ c ≤ 'f' then c.toNat - 'a'.toNat + 10
  else if 'A' ≤ c ∧ c ≤ 'F' then c.toNat - 'A'.toNat + 10
  else 16

/-- An integer in another base. -/
def inBase (base : Nat) (cs : List Char) : Value :=
  if cs ≠ [] ∧ cs.all (digitValue · < base) then
    double (cs.foldl (fun n c => base * n + digitValue c) 0 : Nat)
  else .nan

/-- The base and the digits of a literal in another base. -/
def nonDecimal : List Char → Option (Nat × List Char)
  | '0' :: c :: cs => (radix c).map (·, cs)
  | _ => none

/-- `Number(text)`. -/
def number (blank : Char → Bool) (text : List Char) : Value :=
  let cs := TextItems.trim blank text
  match nonDecimal cs with
  | some (base, ds) => inBase base ds
  | none => if cs = [] then .finite 0 else signed cs

/-! ## Runs of digits -/

theorem span_digits {cs : List Char} (h : ∀ c ∈ cs, c.isDigit = true) :
    cs.span Char.isDigit = (cs, []) := by
  rw [List.span_eq_takeWhile_dropWhile, List.takeWhile_eq_self_iff.mpr h,
    List.dropWhile_eq_nil_iff.mpr h]

theorem unsigned_digits {cs : List Char} (hne : cs ≠ []) (h : ∀ c ∈ cs, c.isDigit = true)
    (small : Nat.ofDigitChars 10 cs 0 < 2 ^ 53) :
    unsigned cs = .finite (Nat.ofDigitChars 10 cs 0) := by
  have word : cs ≠ "Infinity".toList := by
    rintro rfl
    exact absurd (h 'I' (by decide)) (by decide)
  unfold unsigned
  rw [if_neg word, span_digits h]
  simp [fraction, exponent, hne, double_natCast small]

/-- A digit is no sign. -/
theorem signed_cons {c : Char} (digit : c.isDigit = true) (cs : List Char) :
    signed (c :: cs) = unsigned (c :: cs) := by
  unfold signed
  split
  · next cs h =>
    cases h
    cases digit
  · next cs h =>
    cases h
    cases digit
  · rfl

theorem signed_digits {cs : List Char} (h : ∀ c ∈ cs, c.isDigit = true) :
    signed cs = unsigned cs := by
  cases cs with
  | nil => rfl
  | cons c cs => exact signed_cons (h c List.mem_cons_self) cs

/-- A digit is no letter of a base. -/
theorem radix_digit {c : Char} (digit : c.isDigit = true) : radix c = none := by
  have letter (x : Char) (hx : x.isDigit = false) : c ≠ x := by
    rintro rfl
    rw [digit] at hx
    cases hx
  simp [radix, letter]

theorem nonDecimal_cons (c : Char) {cs : List Char} (h : ∀ c' ∈ cs.head?, radix c' = none) :
    nonDecimal (c :: cs) = none := by
  unfold nonDecimal
  split
  · next c' cs same =>
    cases same
    rw [h c' rfl]
    rfl
  · rfl

theorem nonDecimal_digits {cs : List Char} (h : ∀ c ∈ cs, c.isDigit = true) :
    nonDecimal cs = none := by
  cases cs with
  | nil => rfl
  | cons c cs =>
    exact nonDecimal_cons c fun c' hc' => radix_digit (h c' (.tail _ (List.mem_of_mem_head? hc')))

/-- A run of digits has its decimal value. -/
theorem number_digits {blank : Char → Bool} {cs : List Char} (hne : cs ≠ [])
    (h : ∀ c ∈ cs, c.isDigit = true) (digits : ∀ c : Char, c.isDigit = true → blank c = false)
    (small : Nat.ofDigitChars 10 cs 0 < 2 ^ 53) :
    number blank cs = .finite (Nat.ofDigitChars 10 cs 0) := by
  have trimmed : TextItems.trim blank cs = cs :=
    TextItems.trim_eq_self_iff.mpr ⟨fun c hc => digits c (h c (List.mem_of_mem_head? hc)),
      fun c hc => digits c (h c (List.mem_of_mem_getLast? hc))⟩
  unfold number
  rw [trimmed]
  dsimp only
  rw [nonDecimal_digits h, if_neg hne, signed_digits h, unsigned_digits hne h small]

/-! ## Decimals -/

/-- A decimal without an exponent. -/
structure Decimal where
  negative : Bool
  int : List Char
  fraction : Option (List Char)
  int_digits : int ≠ [] ∧ ∀ c ∈ int, c.isDigit = true
  fraction_digits : ∀ ds ∈ fraction, ds ≠ [] ∧ ∀ c ∈ ds, c.isDigit = true

namespace Decimal

variable (d : Decimal)

/-- The point and what follows it. -/
def fractionText : List Char :=
  match d.fraction with
  | none => []
  | some ds => '.' :: ds

def magnitudeText : List Char := d.int ++ d.fractionText

def text : List Char := if d.negative then '-' :: d.magnitudeText else d.magnitudeText

/-- The double nearest to the decimal. -/
def value : Value :=
  let decimals := d.fraction.getD []
  let magnitude : Value :=
    double (Nat.ofDigitChars 10 (d.int ++ decimals) 0 / 10 ^ decimals.length)
  if d.negative then magnitude.neg else magnitude

theorem magnitudeText_eq_cons :
    ∃ c cs, c.isDigit = true ∧ d.magnitudeText = c :: cs := by
  obtain ⟨c, cs, hint⟩ := List.exists_cons_of_ne_nil d.int_digits.1
  refine ⟨c, cs ++ d.fractionText, d.int_digits.2 c (hint ▸ List.mem_cons_self), ?_⟩
  rw [magnitudeText, hint, List.cons_append]

/-- The last character is a digit. -/
theorem text_eq_append : ∃ cs c, c.isDigit = true ∧ d.text = cs ++ [c] := by
  suffices h : ∃ cs c, c.isDigit = true ∧ d.magnitudeText = cs ++ [c] by
    obtain ⟨cs, c, digit, hmagnitude⟩ := h
    unfold text
    split_ifs
    · exact ⟨'-' :: cs, c, digit, by rw [hmagnitude, List.cons_append]⟩
    · exact ⟨cs, c, digit, hmagnitude⟩
  have last {ds : List Char} (h : ds ≠ [] ∧ ∀ c ∈ ds, c.isDigit = true) :
      (ds.getLast h.1).isDigit = true := h.2 _ (List.getLast_mem h.1)
  unfold magnitudeText fractionText
  split
  · exact ⟨d.int.dropLast, _, last d.int_digits,
      by rw [List.append_nil, List.dropLast_append_getLast]⟩
  · next ds hds =>
    have digits := d.fraction_digits ds (by rw [hds]; rfl)
    exact ⟨d.int ++ '.' :: ds.dropLast, _, last digits,
      by rw [List.append_assoc, List.cons_append, List.dropLast_append_getLast]⟩

theorem span_fractionText :
    (d.int ++ d.fractionText).span Char.isDigit = (d.int, d.fractionText) := by
  have point : d.fractionText.takeWhile Char.isDigit = [] ∧
      d.fractionText.dropWhile Char.isDigit = d.fractionText := by
    unfold fractionText
    split <;> exact ⟨rfl, rfl⟩
  rw [List.span_eq_takeWhile_dropWhile, List.takeWhile_append_of_pos d.int_digits.2,
    List.dropWhile_append_of_pos d.int_digits.2, point.1, point.2, List.append_nil]

theorem unsigned_magnitudeText :
    unsigned d.magnitudeText =
      double (Nat.ofDigitChars 10 (d.int ++ d.fraction.getD []) 0 /
        10 ^ (d.fraction.getD []).length) := by
  have word : d.magnitudeText ≠ "Infinity".toList := by
    obtain ⟨c, cs, digit, hmagnitude⟩ := d.magnitudeText_eq_cons
    rw [hmagnitude]
    rintro h
    obtain ⟨rfl, -⟩ := List.cons_eq_cons.mp (h.trans (rfl : _ = 'I' :: "nfinity".toList))
    exact absurd digit (by decide)
  have decimals : JsNumber.fraction d.fractionText = (d.fraction.getD [], []) := by
    unfold fractionText
    split
    · next h => rw [h]; rfl
    · next ds h =>
      rw [h]
      exact span_digits (d.fraction_digits ds (by rw [h]; rfl)).2
  have present : d.int ++ d.fraction.getD [] ≠ [] := by
    simp [d.int_digits.1]
  unfold unsigned
  rw [if_neg word, magnitudeText, span_fractionText]
  dsimp only
  rw [decimals]
  dsimp only [exponent]
  rw [if_neg present, zero_sub, zpow_neg, zpow_natCast, div_eq_mul_inv]

theorem nonDecimal_text : nonDecimal d.text = none := by
  unfold text
  split_ifs
  · rfl
  · unfold magnitudeText
    obtain ⟨c, cs, hint⟩ := List.exists_cons_of_ne_nil d.int_digits.1
    rw [hint, List.cons_append]
    refine nonDecimal_cons c fun c' hc' => ?_
    cases cs with
    | nil =>
      -- A point is no letter of a base either.
      unfold fractionText at hc'
      split at hc'
      · cases hc'
      · cases hc'
        rfl
    | cons digit cs =>
      cases hc'
      exact radix_digit (d.int_digits.2 c' (by rw [hint]; exact .tail _ (.head _)))

/-- A decimal has its value. -/
theorem number_text {blank : Char → Bool} (solid : ∀ c : Char, c.isDigit = true → blank c = false)
    (minus : blank '-' = false) : number blank d.text = d.value := by
  obtain ⟨c, cs, digit, hmagnitude⟩ := d.magnitudeText_eq_cons
  obtain ⟨init, last, digit_last, htext⟩ := d.text_eq_append
  have front : ∀ c ∈ d.text.head?, blank c = false := by
    unfold text
    split_ifs
    · rintro _ ⟨⟩
      exact minus
    · rw [hmagnitude]
      rintro _ ⟨⟩
      exact solid c digit
  have trimmed : TextItems.trim blank d.text = d.text := by
    refine TextItems.trim_eq_self_iff.mpr ⟨front, ?_⟩
    rw [htext, List.getLast?_concat]
    rintro _ ⟨⟩
    exact solid last digit_last
  have present : d.text ≠ [] := by
    rw [htext]
    exact List.concat_ne_nil last init
  unfold number
  rw [trimmed]
  dsimp only
  rw [nonDecimal_text]
  dsimp only
  rw [if_neg present, value, ← unsigned_magnitudeText, text]
  split_ifs
  · rfl
  · rw [hmagnitude]
    exact signed_cons digit cs

end Decimal

example : number (· = ' ') " 0x1F ".toList = .finite 31 := by decide +kernel

example : number (· = ' ') "1.5e3".toList = .finite 1500 := by decide +kernel

end JsNumber
