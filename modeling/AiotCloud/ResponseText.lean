import AiotCloud.ApiClient
import AiotCloud.Constants
import AiotCloud.Lib.JsNumber
import AiotCloud.Lib.JsonSyntax
import Mathlib.Data.List.DropRight

/-!
# The text of a response

`parseJsonSafe` scans the text of a response, puts quotes around the integers that a double
cannot hold, and parses what comes out.

1. `scan_token`, `lex_scan_broken`: what becomes of one token.
2. `written_scan`: the tokens of the scanned text.
3. `safe_parse_iff`: when the response is read as it should be.
-/

namespace AiotCloud.ResponseText

open JsonSyntax Regex

/-! ## `parseJsonSafe` -/

mutual

/-- The scan outside string literals, `token` being what it has read of a number. -/
def scan (token : List Char) : List Char → List Char
  | [] => pushToken token none
  | c :: raw =>
    if c.isDigit then scan (token ++ [c]) raw
    else if c = '-' then pushToken token (some c) ++ scan [c] raw
    else if c = '"' then pushToken token (some c) ++ c :: copyString false raw
    else pushToken token (some c) ++ c :: scan [] raw

/-- The rest of a string literal. The character after a backslash is copied with it. -/
def copyString (escaped : Bool) : List Char → List Char
  | [] => []
  | c :: raw =>
    if escaped then c :: copyString false raw
    else if c = '\\' then c :: copyString true raw
    else if c = '"' then c :: scan [] raw
    else c :: copyString false raw

end

section

/- The double that a number is parsed to. -/
variable {ν : Type} (toNumber : List Char → ν)

/-- `JSON.parse`. -/
def jsonParse (raw : List Char) : Option (Value ν) :=
  (read raw).map (Tree.value fun n => .number (toNumber n.text))

def parseJsonSafe (raw : List Char) : Option (Value ν) := jsonParse toNumber (scan [] raw)

end

/-! ## Numbers -/

/-- There is no fraction and no exponent. -/
def isInteger (n : Number) : Bool := n.text.all fun c => c.isDigit || c = '-'

/-- The text without the sign. -/
def magnitude (n : Number) : List Char :=
  if n.text.head? = some '-' then n.text.tail else n.text

/-- An integer whose absolute value exceeds `2 ^ 53 - 1`. -/
def isBigInteger (n : Number) : Bool := isInteger n && decide (2 ^ 53 - 1 < bigInt (magnitude n))

/-- The last run of digits: of the exponent, else of the fraction, else of the integer. -/
def lastRun (n : Number) : List Char := n.text.rtakeWhile Char.isDigit

/-- A fraction or an exponent whose last run is beyond `2 ^ 53 - 1`. -/
def Broken (n : Number) : Prop := isInteger n = false ∧ 2 ^ 53 - 1 < bigInt (lastRun n)

instance (n : Number) : Decidable (Broken n) := inferInstanceAs (Decidable (_ ∧ _))

/-- What a number should be read as. -/
def exactNumber {ν : Type} (toNumber : List Char → ν) (n : Number) : Value ν :=
  if isBigInteger n then .string (n.text.map Char.toNat) else .number (toNumber n.text)

/-! ## The scan -/

@[simp] theorem pushToken_nil (next : Option Char) : pushToken [] next = [] := by
  simp [pushToken, unsafeInteger]

theorem scan_digits {ds : List Char} (hd : ∀ c ∈ ds, c.isDigit = true) (token raw : List Char) :
    scan token (ds ++ raw) = scan (token ++ ds) raw := by
  induction ds generalizing token with
  | nil => simp
  | cons c ds ih =>
    rw [List.cons_append, scan, if_pos (hd c List.mem_cons_self),
      ih fun x hx => hd x (.tail _ hx), List.append_assoc, List.singleton_append]

theorem scan_minus (token raw : List Char) :
    scan token ('-' :: raw) = pushToken token (some '-') ++ scan ['-'] raw := by
  rw [scan, if_neg (by decide), if_pos rfl]

/-- The characters that the scan copies outside numbers and strings. -/
def isPlain (c : Char) : Bool := !c.isDigit && c ≠ '-' && c ≠ '"'

theorem scan_plain {c : Char} (h : isPlain c = true) (token raw : List Char) :
    scan token (c :: raw) = pushToken token (some c) ++ c :: scan [] raw := by
  simp only [isPlain, Bool.and_eq_true, Bool.not_eq_true', decide_eq_true_eq] at h
  obtain ⟨⟨digit, minus⟩, quote⟩ := h
  rw [scan, if_neg (by rw [digit]; exact Bool.false_ne_true), if_neg minus, if_neg quote]

theorem scan_plains {cs : List Char} (h : ∀ c ∈ cs, isPlain c = true) (raw : List Char) :
    scan [] (cs ++ raw) = cs ++ scan [] raw := by
  induction cs with
  | nil => rfl
  | cons c cs ih =>
    rw [List.cons_append, scan_plain (h c List.mem_cons_self), pushToken_nil, List.nil_append,
      ih fun x hx => h x (.tail _ hx), List.cons_append]

/-- A number ends at what is no digit. -/
theorem scan_token_end {rest : List Char} (ends : Ends Char.isDigit rest) (token : List Char) :
    scan token rest = pushToken token rest.head? ++ scan [] rest := by
  cases rest with
  | nil => simp [scan]
  | cons c rest =>
    have digit := ends_cons.mp ends
    simp only [scan, digit, Bool.false_eq_true, if_false, List.head?_cons, pushToken_nil,
      List.nil_append]
    split_ifs <;> rfl

/-- A string is copied to its end. -/
theorem copyString_closed {escaped : Bool} {chars : List Char} (h : closed escaped chars = true)
    (raw : List Char) : copyString escaped (chars ++ '"' :: raw) = chars ++ '"' :: scan [] raw := by
  induction chars generalizing escaped with
  | nil =>
    obtain rfl : escaped = false := by simpa [closed] using h
    simp [copyString]
  | cons c chars ih =>
    cases escaped with
    | true =>
      rw [closed] at h
      simp [copyString, ih h]
    | false =>
      rw [closed] at h
      split_ifs at h with hc
      · simp [copyString, hc, ih h]
      · obtain ⟨quote, rest⟩ := Bool.and_eq_true_iff.mp h
        have quote : c ≠ '"' := by simpa using quote
        simp [copyString, hc, quote, ih rest]

theorem pushToken_head (c : Char) (token : List Char) (next : Option Char) :
    (pushToken (c :: token) next).head? = some c ∨
      (pushToken (c :: token) next).head? = some '"' := by
  unfold pushToken
  dsimp only
  split_ifs <;> simp

theorem scan_head (c : Char) (token raw : List Char) :
    (scan (c :: token) raw).head? = some c ∨ (scan (c :: token) raw).head? = some '"' := by
  induction raw generalizing token with
  | nil => exact pushToken_head c token none
  | cons c' raw ih =>
    have front (rest : List Char) :
        (pushToken (c :: token) (some c') ++ rest).head? = some c ∨
          (pushToken (c :: token) (some c') ++ rest).head? = some '"' := by
      rw [List.head?_append]
      rcases pushToken_head c token (some c') with h | h
      · exact .inl (by rw [h]; rfl)
      · exact .inr (by rw [h]; rfl)
    rw [scan]
    split_ifs
    · exact ih (token ++ [c'])
    · exact front _
    · exact front _
    · exact front _

/-- What ends a run goes on to end it in the scanned text. -/
theorem ends_scan {p : Char → Bool} (quote : p '"' = false) {raw : List Char} (ends : Ends p raw) :
    Ends p (scan [] raw) := by
  cases raw with
  | nil => simp [scan]
  | cons c raw =>
    have first := ends_cons.mp ends
    have either {text : List Char} (h : text.head? = some c ∨ text.head? = some '"') :
        Ends p text := by
      intro x hx
      rcases h with h | h <;> (rw [h] at hx; cases hx)
      · exact first
      · exact quote
    rw [scan]
    simp only [pushToken_nil, List.nil_append]
    split_ifs with digit minus quote'
    · exact either (scan_head c [] raw)
    · exact either (scan_head c [] raw)
    · exact ends_cons.mpr first
    · exact ends_cons.mpr first

/-! ## One number -/

/-- How the scan sees a number: its last run with a sign, and what is before it. -/
structure Cut (n : Number) where
  before : List Char
  sign : List Char
  run : List Char
  text : n.text = before ++ (sign ++ run)
  isSign : IsSign sign
  isDigits : IsDigits run
  /-- What is before the run ends in a point, in an `e` or in the sign of an exponent. -/
  broken_off : before = [] ∨ ∃ front c, before = front ++ [c] ∧ c.isDigit = false ∧ c ≠ '-'
  scanned : ∀ rest, Ends Char.isDigit rest →
    scan [] (n.text ++ rest) = before ++ (pushToken (sign ++ run) rest.head? ++ scan [] rest)

theorem isInt_digits {int : List Char} (h : IsInt int) : IsDigits int := by
  rcases h with rfl | ⟨c, ds, hc, hds, rfl⟩
  · exact ⟨List.cons_ne_nil _ _, List.all_eq_true.mp rfl⟩
  · exact ⟨List.cons_ne_nil _ _,
      List.forall_mem_cons.mpr ⟨(Bool.and_eq_true_iff.mp hc).1, hds⟩⟩

theorem scan_signed {sign ds : List Char} (hsign : IsSign sign) (hds : ∀ c ∈ ds, c.isDigit = true)
    (raw : List Char) : scan [] (sign ++ (ds ++ raw)) = scan (sign ++ ds) raw := by
  rcases hsign with rfl | rfl
  · rw [List.nil_append, scan_digits hds]
  · rw [List.singleton_append, scan_minus, pushToken_nil, List.nil_append, scan_digits hds]

/-- A token before a point or an exponent is copied. -/
theorem scan_float {c : Char} (h : isFloat (some c) = true) (token raw : List Char) :
    scan token (c :: raw) = token ++ c :: scan [] raw := by
  have plain : isPlain c = true := by
    have hc : c = '.' ∨ c = 'e' ∨ c = 'E' := by simpa [isFloat, or_assoc] using h
    rcases hc with rfl | rfl | rfl <;> rfl
  rw [scan_plain plain, pushToken_of_isFloat token h]

/-- The digits of the integer, with the fraction if there is one, before an exponent. -/
theorem scan_mantissa {sign int fraction : List Char} (hsign : IsSign sign) (hint : IsInt int)
    (hfraction : IsFraction fraction) {mark : Char} (hmark : isFloat (some mark) = true)
    (raw : List Char) :
    scan [] (sign ++ (int ++ (fraction ++ mark :: raw))) =
      sign ++ (int ++ (fraction ++ mark :: scan [] raw)) := by
  rw [scan_signed hsign (isInt_digits hint).2]
  rcases hfraction with rfl | ⟨ds, hds, rfl⟩
  · rw [List.nil_append, scan_float hmark, List.append_assoc, List.nil_append]
  · rw [List.cons_append, scan_float rfl, scan_digits hds.2, List.nil_append, scan_float hmark]
    simp

theorem nonempty_cut (n : Number) : Nonempty (Cut n) := by
  obtain ⟨sign, int, fraction, exponent, hsign, hint, hfraction, hexponent, htext⟩ :=
    isNumber_iff.mp n.valid
  have hdigits := isInt_digits hint
  rcases hexponent with rfl | ⟨mark, sign', ds, hmark, hsign', hds, rfl⟩
  · rcases hfraction with rfl | ⟨ds, hds, rfl⟩
    · simp only [List.append_nil] at htext
      refine ⟨⟨[], sign, int, htext, hsign, hdigits, .inl rfl, fun rest ends => ?_⟩⟩
      rw [htext, List.append_assoc, scan_signed hsign hdigits.2, scan_token_end ends]
      rfl
    · refine ⟨⟨sign ++ (int ++ ['.']), [], ds, by simp [htext], .inl rfl, hds,
        .inr ⟨sign ++ int, '.', by simp, rfl, by decide⟩, fun rest ends => ?_⟩⟩
      have point := scan_signed hsign hdigits.2 ('.' :: (ds ++ rest))
      rw [scan_float rfl, scan_digits hds.2, scan_token_end ends] at point
      simpa [htext] using point
  · have float : isFloat (some mark) = true := by rcases hmark with rfl | rfl <;> rfl
    have digit : mark.isDigit = false ∧ mark ≠ '-' := by
      rcases hmark with rfl | rfl <;> exact ⟨rfl, by decide⟩
    have mantissa (raw : List Char) := scan_mantissa hsign hint hfraction float raw
    rcases hsign' with rfl | rfl | rfl
    · refine ⟨⟨sign ++ (int ++ (fraction ++ [mark])), [], ds, by simp [htext], .inl rfl, hds,
        .inr ⟨sign ++ (int ++ fraction), mark, by simp, digit⟩, fun rest ends => ?_⟩⟩
      have tail := mantissa (ds ++ rest)
      rw [scan_digits hds.2, scan_token_end ends] at tail
      simpa [htext] using tail
    · refine ⟨⟨sign ++ (int ++ (fraction ++ [mark, '+'])), [], ds, by simp [htext], .inl rfl, hds,
        .inr ⟨sign ++ (int ++ (fraction ++ [mark])), '+', by simp, rfl, by decide⟩,
        fun rest ends => ?_⟩⟩
      have tail := mantissa ('+' :: (ds ++ rest))
      rw [scan_plain rfl, scan_digits hds.2, scan_token_end ends] at tail
      simpa [htext] using tail
    · refine ⟨⟨sign ++ (int ++ (fraction ++ [mark])), ['-'], ds, by simp [htext], .inr rfl, hds,
        .inr ⟨sign ++ (int ++ fraction), mark, by simp, digit⟩, fun rest ends => ?_⟩⟩
      have tail := mantissa ('-' :: (ds ++ rest))
      rw [scan_minus, scan_digits hds.2, scan_token_end ends] at tail
      simpa [htext] using tail

theorem bigInt_lt {ds : List Char} (h : ∀ c ∈ ds, c.isDigit = true) :
    bigInt ds < 10 ^ ds.length := by
  suffices run : ∀ n, ds.foldl (fun n c => 10 * n + (c.toNat - '0'.toNat)) n <
      (n + 1) * 10 ^ ds.length by
    have whole := run 0
    rwa [Nat.zero_add, Nat.one_mul] at whole
  induction ds with
  | nil =>
    intro n
    rw [List.foldl_nil, List.length_nil]
    omega
  | cons c ds ih =>
    intro n
    have digit : c.toNat ≤ 57 := (Char.isDigit_iff_toNat.mp (h c List.mem_cons_self)).2
    have zero : '0'.toNat = 48 := rfl
    have next : 10 * n + (c.toNat - '0'.toNat) + 1 ≤ (n + 1) * 10 := by omega
    calc ds.foldl (fun n c => 10 * n + (c.toNat - '0'.toNat)) (10 * n + (c.toNat - '0'.toNat))
        < (10 * n + (c.toNat - '0'.toNat) + 1) * 10 ^ ds.length :=
          ih (fun x hx => h x (.tail _ hx)) _
      _ ≤ (n + 1) * 10 * 10 ^ ds.length := Nat.mul_le_mul_right _ next
      _ = (n + 1) * 10 ^ (c :: ds).length := by rw [List.length_cons, Nat.mul_assoc, Nat.pow_succ']

/-- The length that is tested first is no condition of its own. -/
theorem unsafeInteger_iff {ds : List Char} (h : ∀ c ∈ ds, c.isDigit = true) :
    unsafeInteger ds = true ↔ 2 ^ 53 - 1 < bigInt ds := by
  have safe : MAX_SAFE = 2 ^ 53 - 1 := by decide
  rw [unsafeInteger, Bool.and_eq_true, decide_eq_true_eq, decide_eq_true_eq, safe]
  refine and_iff_right_of_imp fun big => ?_
  by_contra short
  have bound : bigInt ds < 10 ^ 15 :=
    (bigInt_lt h).trans_le (Nat.pow_le_pow_right (by decide) (by omega))
  omega

namespace Cut

variable {n : Number} (cut : Cut n)

theorem isInteger_iff : isInteger n = true ↔ cut.before = [] := by
  rw [isInteger, List.all_eq_true, cut.text]
  constructor
  · intro all
    rcases cut.broken_off with none | ⟨front, c, hbefore, digit, minus⟩
    · exact none
    · have wrong := all c (by rw [hbefore]; simp)
      simp [digit, minus] at wrong
  · intro none c hc
    rw [none, List.nil_append] at hc
    rcases List.mem_append.mp hc with h | h
    · rcases cut.isSign with sign | sign
      · rw [sign] at h
        cases h
      · rw [sign, List.mem_singleton] at h
        rw [h]
        rfl
    · rw [cut.isDigits.2 c h, Bool.true_or]

theorem magnitude_eq (integer : cut.before = []) : magnitude n = cut.run := by
  rw [magnitude, cut.text, integer, List.nil_append]
  rcases cut.isSign with sign | sign
  · rw [sign, List.nil_append]
    obtain ⟨c, ds, hrun⟩ := List.exists_cons_of_ne_nil cut.isDigits.1
    have digit := cut.isDigits.2 c (by rw [hrun]; exact List.mem_cons_self)
    rw [hrun, List.head?_cons, if_neg]
    rintro ⟨⟩
    cases digit
  · rw [sign]
    rfl

theorem lastRun_eq : lastRun n = cut.run := by
  have ends : Ends Char.isDigit (cut.before ++ cut.sign).reverse := by
    rcases cut.isSign with sign | sign
    · rw [sign, List.append_nil]
      rcases cut.broken_off with none | ⟨front, c, hbefore, digit, -⟩
      · rw [none]
        exact ends_nil
      · rw [hbefore, List.reverse_concat]
        exact ends_cons.mpr digit
    · rw [sign, List.reverse_concat]
      exact ends_cons.mpr rfl
  have run : ∀ c ∈ cut.run.reverse, c.isDigit = true :=
    fun c hc => cut.isDigits.2 c (List.mem_reverse.mp hc)
  have done : (cut.before ++ cut.sign).reverse.takeWhile Char.isDigit = [] := by
    cases hrest : (cut.before ++ cut.sign).reverse with
    | nil => rfl
    | cons c rest =>
      rw [hrest, ends_cons] at ends
      rw [List.takeWhile_cons, ends]
      rfl
  rw [lastRun, cut.text, ← List.append_assoc, List.rtakeWhile, List.reverse_append,
    List.takeWhile_append_of_pos run, done, List.append_nil, List.reverse_reverse]

theorem isBigInteger_iff :
    isBigInteger n = true ↔ cut.before = [] ∧ unsafeInteger cut.run = true := by
  rw [isBigInteger, Bool.and_eq_true, decide_eq_true_eq, cut.isInteger_iff,
    unsafeInteger_iff cut.isDigits.2]
  refine and_congr_right fun integer => ?_
  rw [cut.magnitude_eq integer]

theorem broken_iff : Broken n ↔ cut.before ≠ [] ∧ unsafeInteger cut.run = true := by
  rw [Broken, unsafeInteger_iff cut.isDigits.2, cut.lastRun_eq, ← Bool.not_eq_true,
    cut.isInteger_iff]

/-- The last run is pushed with quotes if it is too big. -/
theorem pushToken_eq {next : Option Char} (h : isFloat next = false) :
    pushToken (cut.sign ++ cut.run) next =
      if unsafeInteger cut.run = true then '"' :: (cut.sign ++ cut.run) ++ ['"']
      else cut.sign ++ cut.run := by
  have other : pushToken (cut.sign ++ cut.run) next = pushToken (cut.sign ++ cut.run) none := by
    unfold pushToken
    rw [h]
    rfl
  rw [other]
  exact pushToken_signed cut.isSign ⟨cut.run, cut.isDigits⟩

end Cut

/-! ## One token -/

/-- An integer is a string without escapes. -/
theorem unescape_plain {cs : List Char} (h : ∀ c ∈ cs, c.isDigit = true ∨ c = '-') :
    closed false cs = true ∧ unescape cs = some (cs.map Char.toNat) := by
  induction cs with
  | nil => exact ⟨rfl, rfl⟩
  | cons c cs ih =>
    obtain ⟨rest_closed, rest_units⟩ := ih fun x hx => h x (.tail _ hx)
    have bounds : 0x20 ≤ c.toNat ∧ c.toNat < 0x10000 := by
      rcases h c List.mem_cons_self with digit | rfl
      · have range : 48 ≤ c.toNat ∧ c.toNat ≤ 57 := Char.isDigit_iff_toNat.mp digit
        omega
      · decide
    have other (x : Char) (hx : x.isDigit = false) (minus : x ≠ '-') : c ≠ x := by
      rintro rfl
      rcases h c List.mem_cons_self with digit | rfl
      · rw [digit] at hx
        cases hx
      · exact minus rfl
    have slash := other '\\' rfl (by decide)
    have quote := other '"' rfl (by decide)
    constructor
    · rw [closed, if_neg slash, rest_closed, Bool.and_true]
      exact decide_eq_true quote
    · rw [unescape, if_neg, rest_units]
      · simp [codeUnits, bounds.2]
      · rintro (h | h | h)
        · exact slash h
        · exact quote h
        · omega
      · exact fun _ _ _ _ _ h _ => slash h
      · exact fun _ _ h _ => slash h

theorem isInteger_chars {n : Number} (h : isInteger n = true) :
    ∀ c ∈ n.text, c.isDigit = true ∨ c = '-' := by
  intro c hc
  simpa using List.all_eq_true.mp h c hc

/-- The string that a big integer becomes. -/
def literalBody (n : Number) (h : isInteger n = true) : Body where
  chars := n.text
  closed := (unescape_plain (isInteger_chars h)).1
  valid := by
    rw [(unescape_plain (isInteger_chars h)).2]
    rfl

def quoteLeaf : Leaf → Leaf
  | .num n =>
    if h : isBigInteger n = true then .str (literalBody n (Bool.and_eq_true_iff.mp h).1) else .num n
  | l => l

/-- A big integer becomes a string, and nothing else changes. -/
theorem value_quoteLeaf {ν : Type} (toNumber : List Char → ν) (l : Leaf) :
    (quoteLeaf l).value (fun n => .number (toNumber n.text)) = l.value (exactNumber toNumber) := by
  cases l with
  | word w => cases w <;> rfl
  | str body => rfl
  | num n =>
    rw [quoteLeaf, Leaf.value.eq_def (exactNumber toNumber)]
    dsimp only
    unfold exactNumber
    split_ifs with big
    · have units := (unescape_plain (isInteger_chars (Bool.and_eq_true_iff.mp big).1)).2
      simp only [Leaf.value, Body.units, literalBody, units, Option.get_some]
    · rfl

/-- What ends a number is no part of a number. -/
theorem number_ends {rest : List Char} (ends : Ends isNumberChar rest) :
    Ends Char.isDigit rest ∧ isFloat rest.head? = false := by
  cases rest with
  | nil => exact ⟨ends_nil, rfl⟩
  | cons c rest =>
    have other := ends_cons.mp ends
    simp only [isNumberChar, Bool.or_eq_false_iff, decide_eq_false_iff_not] at other
    refine ⟨ends_cons.mpr other.1.1.1.1.1, ?_⟩
    simp [isFloat, other]

theorem isPlain_word (w : Word) : ∀ c ∈ w.text, isPlain c = true := by
  cases w <;> exact List.all_eq_true.mp rfl

/-- The scan of a token that is not broken. -/
theorem scan_token (t : Token) {rest : List Char} (separated : t.Separated rest)
    (whole : ∀ n, t = .leaf (.num n) → ¬ Broken n) :
    scan [] (t.text ++ rest) = (t.map quoteLeaf).text ++ scan [] rest ∧
      (t.map quoteLeaf).Separated (scan [] rest) := by
  match t with
  | .mark m =>
    have plain : ∀ c ∈ [m.char], isPlain c = true := by
      intro c hc
      rw [List.mem_singleton.mp hc]
      cases m <;> rfl
    exact ⟨scan_plains plain rest, trivial⟩
  | .leaf (.word w) =>
    exact ⟨scan_plains (isPlain_word w) rest, ends_scan rfl separated⟩
  | .leaf (.str body) =>
    refine ⟨?_, trivial⟩
    have copied := copyString_closed body.closed rest
    simp [Token.map, quoteLeaf, Token.text, Leaf.text, scan, copied]
  | .leaf (.num n) =>
    obtain ⟨cut⟩ := nonempty_cut n
    obtain ⟨ends, float⟩ := number_ends separated
    have scanned := cut.scanned rest ends
    rw [cut.pushToken_eq float] at scanned
    by_cases big : isBigInteger n = true
    · obtain ⟨none, bad⟩ := cut.isBigInteger_iff.mp big
      have quoted : quoteLeaf (.num n) =
          .str (literalBody n (Bool.and_eq_true_iff.mp big).1) := dif_pos big
      rw [Token.map, quoted]
      refine ⟨?_, trivial⟩
      have htext := cut.text
      rw [none, List.nil_append] at htext
      rw [if_pos bad, none, ← htext, List.nil_append] at scanned
      simpa [Token.text, Leaf.text, literalBody] using scanned
    · have same : quoteLeaf (.num n) = .num n := dif_neg big
      rw [Token.map, same]
      refine ⟨?_, ends_scan rfl separated⟩
      have good : unsafeInteger cut.run ≠ true := by
        intro bad
        by_cases none : cut.before = []
        · exact big (cut.isBigInteger_iff.mpr ⟨none, bad⟩)
        · exact whole n rfl (cut.broken_iff.mpr ⟨none, bad⟩)
      rw [if_neg good, ← List.append_assoc, ← cut.text] at scanned
      exact scanned

/-- A number ends in a digit. -/
theorem isNumber_last {front : List Char} {c : Char} (h : isNumber (front ++ [c]) = true) :
    c.isDigit = true := by
  obtain ⟨cut⟩ := nonempty_cut ⟨front ++ [c], h⟩
  have last := congrArg List.getLast? cut.text
  have hne := cut.isDigits.1
  rw [List.getLast?_concat, List.getLast?_append_of_ne_nil _ (by simp [hne]),
    List.getLast?_append_of_ne_nil _ hne, List.getLast?_eq_some_getLast hne] at last
  rw [Option.some.inj last]
  exact cut.isDigits.2 _ (List.getLast_mem hne)

/-- A broken number leaves a number without its last digits. -/
theorem lex_scan_broken {n : Number} (broken : Broken n) {rest : List Char}
    (separated : Ends isNumberChar rest) : lex (scan [] (n.text ++ rest)) = none := by
  obtain ⟨cut⟩ := nonempty_cut n
  obtain ⟨ends, float⟩ := number_ends separated
  obtain ⟨some, bad⟩ := cut.broken_iff.mp broken
  obtain ⟨front, c, hbefore, digit, -⟩ := cut.broken_off.resolve_left some
  have invalid : isNumber cut.before = false := by
    rw [← Bool.not_eq_true]
    intro valid
    rw [hbefore] at valid
    rw [isNumber_last valid] at digit
    cases digit
  have chars : ∀ c ∈ cut.before, isNumberChar c = true := by
    intro c hc
    refine isNumberChar_of_mem n.valid c ?_
    rw [cut.text]
    exact List.mem_append_left _ hc
  obtain ⟨first, more, hfirst⟩ := List.exists_cons_of_ne_nil some
  have starts : start first = .some ([], .run .number [first]) := by
    obtain ⟨c, cs, htext, first_char⟩ := isNumber_front n.valid
    rw [cut.text, hfirst] at htext
    obtain ⟨rfl, -⟩ := List.cons_eq_cons.mp htext
    exact start_number first_char
  have done : Ends Run.number.admits
      ('"' :: (cut.sign ++ cut.run) ++ ['"'] ++ scan [] rest) := ends_cons.mpr rfl
  rw [cut.scanned rest ends, cut.pushToken_eq float, if_pos bad, hfirst, List.cons_append, lex_cons,
    starts]
  simp only [Option.bind_some, List.nil_append, Option.map_id']
  have goes_on : ∀ x ∈ more, Run.number.admits x = true :=
    fun x hx => chars x (hfirst ▸ .tail _ hx)
  rw [lexFrom_run goes_on done, List.singleton_append, ← hfirst, Run.token,
    dif_neg (by rw [invalid]; exact Bool.false_ne_true)]
  rfl

/-! ## All tokens -/

theorem isPlain_blank {c : Char} (h : isBlank c = true) : isPlain c = true := by
  simp only [isBlank, Bool.or_eq_true, decide_eq_true_eq] at h
  rcases h with ((rfl | rfl) | rfl) | rfl <;> rfl

theorem scan_blank {c : Char} (h : isBlank c = true) (raw : List Char) :
    scan [] (c :: raw) = c :: scan [] raw := by
  rw [scan_plain (isPlain_blank h), pushToken_nil, List.nil_append]

/-- Without a broken number the big integers are strings, and every other token is the same. -/
theorem written_scan {raw : List Char} {tokens : List Token} (written : Written raw tokens)
    (whole : ∀ n, .leaf (.num n) ∈ tokens → ¬ Broken n) :
    Written (scan [] raw) (tokens.map (Token.map quoteLeaf)) := by
  induction written with
  | nil => exact .nil
  | blank hc _ ih =>
    rw [scan_blank hc]
    exact .blank hc (ih whole)
  | token t separated _ ih =>
    obtain ⟨scanned, separated'⟩ := scan_token t separated
      fun n same => whole n (by rw [same]; exact List.mem_cons_self)
    rw [scanned, List.map_cons]
    exact .token _ separated' (ih fun n hn => whole n (.tail _ hn))

theorem lex_scan_eq_none {raw : List Char} {tokens : List Token} (written : Written raw tokens)
    {n : Number} (hn : .leaf (.num n) ∈ tokens) (broken : Broken n) : lex (scan [] raw) = none := by
  induction written with
  | nil => cases hn
  | blank hc _ ih => rw [scan_blank hc, lex_blank hc, ih hn]
  | token t separated _ ih =>
    by_cases here : ∃ n, t = .leaf (.num n) ∧ Broken n
    · obtain ⟨n, rfl, broken⟩ := here
      exact lex_scan_broken broken separated
    · obtain ⟨scanned, separated'⟩ := scan_token t separated
        fun n same broken => here ⟨n, same, broken⟩
      rcases List.mem_cons.mp hn with same | later
      · exact absurd ⟨n, same.symm, broken⟩ here
      · rw [scanned, lex_append _ separated', ih later, Option.map_none]

/-- A response is read with its big integers as strings, and everything else as it is, exactly if
no fraction and no exponent of it ends in a run of digits beyond `2 ^ 53 - 1`. -/
theorem safe_parse_iff {ν : Type} (toNumber : List Char → ν) {raw : List Char} {tree : Tree}
    (valid : read raw = some tree) :
    parseJsonSafe toNumber raw = some (tree.value (exactNumber toNumber)) ↔
      ∀ n, .leaf (.num n) ∈ tree.tokens → ¬ Broken n := by
  have written := read_eq_some_iff.mp valid
  unfold parseJsonSafe jsonParse
  constructor
  · intro parsed n hn broken
    have failed := lex_scan_eq_none written hn broken
    rw [JsonSyntax.read, failed] at parsed
    cases parsed
  · intro whole
    have scanned := written_scan written whole
    rw [← tokens_map (fun _ => rfl)] at scanned
    rw [read_eq_some_iff.mpr scanned, Option.map_some, value_map (value_quoteLeaf toNumber)]

/-- The sum of 0.1 and 0.2, as `JSON.stringify` prints it. -/
def sumText : List Char := "0.30000000000000004".toList

def sumNumber : Number := ⟨sumText, by decide +kernel⟩

theorem read_sumText : read sumText = some (.leaf (.num sumNumber)) := by
  have written : Written (sumText ++ []) [.leaf (.num sumNumber)] :=
    .token (.leaf (.num sumNumber)) ends_nil .nil
  rw [List.append_nil] at written
  exact read_eq_some_iff.mpr written

theorem sumText_unread :
    parseJsonSafe (JsNumber.number isJsSpace) sumText = none ∧
      read sumText = some (.leaf (.num sumNumber)) := by
  have failed : lex (scan [] sumText) = none := by decide +kernel
  refine ⟨?_, read_sumText⟩
  rw [parseJsonSafe, jsonParse, JsonSyntax.read, failed]
  rfl

theorem safe_parse_iff_sumText :
    parseJsonSafe (JsNumber.number isJsSpace) sumText =
        some ((Tree.leaf (.num sumNumber)).value (exactNumber (JsNumber.number isJsSpace))) ↔
      ∀ n, .leaf (.num n) ∈ (Tree.leaf (.num sumNumber)).tokens → ¬ Broken n :=
  safe_parse_iff (JsNumber.number isJsSpace) read_sumText

end AiotCloud.ResponseText
