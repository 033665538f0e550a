import AiotCloud.Lib.Fields

/-!
# What the dashboard's API client makes of a response

`parseJsonSafe` quotes the integers a double cannot hold before it parses, then every
object key is camelized. A response that does not parse is handed on as raw text.

Values are kept as the server prints them: printing and parsing are inverse but for the
numbers, which the quoting pass reads character by character.

1. `parseLiteral_eq`: what becomes of one number.
2. `parseJsonSafe_isSome_iff`: which responses parse.
3. `transformResponse_eq_self_iff`: which values arrive as they were sent.
-/

namespace AiotCloud

/-! ## JSON texts -/

/-- A run of digits: at least one. -/
abbrev Digits := { ds : List Char // ds ≠ [] ∧ ∀ c ∈ ds, c.isDigit }

def digits (ds : List Char) (h : (!ds.isEmpty && ds.all Char.isDigit) = true) : Digits :=
  ⟨ds, by simpa using h⟩

/-- A number as `JSON.stringify` prints it. -/
structure Literal where
  negative : Bool
  int : Digits
  fraction : Option Digits
  /-- Whether the exponent is negative, and its digits. -/
  exponent : Option (Bool × Digits)

def Literal.sign (l : Literal) : List Char := if l.negative then ['-'] else []

/-- The text of the number. -/
def Literal.text (l : Literal) : List Char :=
  l.sign ++ l.int.1 ++ (match l.fraction with | none => [] | some ds => '.' :: ds.1) ++
    match l.exponent with
    | none => []
    | some (negative, ds) => 'e' :: (if negative then '-' else '+') :: ds.1

/-- A JSON text as a tree: a number is kept as printed, an object is the list of its
fields. -/
inductive JsonText where
  | null
  | bool (b : Bool)
  | num (literal : Literal)
  | str (s : String)
  | arr (items : List JsonText)
  | obj (fields : List (String × JsonText))

namespace JsonText

/-- `value?.name`. -/
def get? (name : String) : JsonText → Option JsonText
  | obj fields => fields.lookup name
  | _ => none

/-- The fields of an object; `null` and `undefined` spread to none. -/
def entries : Option JsonText → List (String × JsonText)
  | some (obj fields) => fields
  | _ => []

/-- The items of an array. -/
def elements : Option JsonText → List JsonText
  | some (arr items) => items
  | _ => []

mutual

/-- The numbers of a value, at any depth. -/
def numbers : JsonText → List Literal
  | num l => [l]
  | arr items => numbersOfItems items
  | obj fields => numbersOfFields fields
  | _ => []

def numbersOfItems : List JsonText → List Literal
  | [] => []
  | j :: items => numbers j ++ numbersOfItems items

def numbersOfFields : List (String × JsonText) → List Literal
  | [] => []
  | (_, v) :: fields => numbers v ++ numbersOfFields fields

end

mutual

/-- The object keys of a value, at any depth. -/
def names : JsonText → List String
  | arr items => namesOfItems items
  | obj fields => namesOfFields fields
  | _ => []

def namesOfItems : List JsonText → List String
  | [] => []
  | j :: items => names j ++ namesOfItems items

def namesOfFields : List (String × JsonText) → List String
  | [] => []
  | (k, v) :: fields => k :: (names v ++ namesOfFields fields)

end

mutual

/-- No object of the value has a key twice. -/
def Distinct : JsonText → Prop
  | arr items => DistinctItems items
  | obj fields => (Fields.keys fields).Nodup ∧ DistinctFields fields
  | _ => True

def DistinctItems : List JsonText → Prop
  | [] => True
  | j :: items => Distinct j ∧ DistinctItems items

def DistinctFields : List (String × JsonText) → Prop
  | [] => True
  | (_, v) :: fields => Distinct v ∧ DistinctFields fields

end

end JsonText

/-! ## `parseJsonSafe` -/

/-- `BigInt(Number.MAX_SAFE_INTEGER)`. -/
def MAX_SAFE : Nat := 9007199254740991

/-- `BigInt(digits)`. -/
def bigInt (digits : List Char) : Nat :=
  digits.foldl (fun n c => 10 * n + (c.toNat - '0'.toNat)) 0

/-- Too long for a double: the test that decides about quoting. -/
def unsafeInteger (abs : List Char) : Bool := 15 < abs.length && MAX_SAFE < bigInt abs

def isFloat (next : Option Char) : Bool :=
  next = some '.' || next = some 'e' || next = some 'E'

/-- What is pushed for a number token, given the character after it. -/
def pushToken (token : List Char) (next : Option Char) : List Char :=
  let abs := if token.head? = some '-' then token.tail else token
  if !isFloat next && unsafeInteger abs then '"' :: token ++ ['"'] else token

/-- The scan of `parseJsonSafe` outside string literals, `token` being what it has read of
a number. String literals are copied as they are. -/
def quoteIntegers (token : List Char) : List Char → List Char
  | [] => pushToken token none
  | c :: raw =>
    if c.isDigit then quoteIntegers (token ++ [c]) raw
    else if c = '-' then pushToken token (some c) ++ quoteIntegers [c] raw
    else pushToken token (some c) ++ c :: quoteIntegers [] raw

/-- `JSON.parse` of a number's text after the scan. A quote in the middle of it is a syntax
error. -/
def parseLiteral (l : Literal) : Option JsonText :=
  let out := quoteIntegers [] l.text
  if out = l.text then some (.num l)
  else if out = '"' :: l.text ++ ['"'] then some (.str (String.ofList l.text))
  else none

mutual

/-- `none`: `JSON.parse` throws. -/
def parseJsonSafe : JsonText → Option JsonText
  | .num l => parseLiteral l
  | .arr items => (parseItems items).map .arr
  | .obj fields => (parseFields fields).map .obj
  | .null => some .null
  | .bool b => some (.bool b)
  | .str s => some (.str s)

def parseItems : List JsonText → Option (List JsonText)
  | [] => some []
  | j :: items => do
    let j ← parseJsonSafe j
    let items ← parseItems items
    return j :: items

def parseFields : List (String × JsonText) → Option (List (String × JsonText))
  | [] => some []
  | (k, v) :: fields => do
    let v ← parseJsonSafe v
    let fields ← parseFields fields
    return (k, v) :: fields

end

/-! ## One number -/

namespace Literal

variable (l : Literal)

/-- The last run of digits: of the exponent, else of the fraction, else of the integer. -/
def lastRun : List Char :=
  match l.exponent, l.fraction with
  | some (_, ds), _ => ds.1
  | none, some ds => ds.1
  | none, none => l.int.1

/-- A run before a `.` or an `e` is never quoted, so only the last one matters. -/
def Exact : Prop := unsafeInteger l.lastRun = false

/-- The scan quotes a part of the number only. -/
def Broken : Prop := unsafeInteger l.lastRun = true ∧ (l.fraction.isSome ∨ l.exponent.isSome)

instance : Decidable l.Exact := inferInstanceAs (Decidable (unsafeInteger l.lastRun = false))

instance : Decidable l.Broken :=
  inferInstanceAs
    (Decidable (unsafeInteger l.lastRun = true ∧ (l.fraction.isSome ∨ l.exponent.isSome)))

/-- The last run with its sign. -/
def lastToken : List Char :=
  match l.exponent, l.fraction with
  | some (negative, ds), _ => (if negative then ['-'] else []) ++ ds.1
  | none, some ds => ds.1
  | none, none => l.sign ++ l.int.1

/-- What stands before it. -/
def lead : List Char :=
  match l.exponent, l.fraction with
  | some (negative, _), some ds =>
    l.sign ++ l.int.1 ++ '.' :: ds.1 ++ 'e' :: if negative then [] else ['+']
  | some (negative, _), none => l.sign ++ l.int.1 ++ 'e' :: if negative then [] else ['+']
  | none, some _ => l.sign ++ l.int.1 ++ ['.']
  | none, none => []

theorem text_eq : l.text = l.lead ++ l.lastToken := by
  unfold text lead lastToken
  rcases l.exponent with _ | ⟨_ | _, _⟩ <;> cases l.fraction <;> simp

end Literal

theorem pushToken_of_isFloat (token : List Char) {c : Char} (h : isFloat (some c) = true) :
    pushToken token (some c) = token := by simp [pushToken, h]

/-- A token of a sign and digits is judged by its digits. -/
theorem pushToken_signed {sign : List Char} (hsign : sign = [] ∨ sign = ['-']) (ds : Digits) :
    pushToken (sign ++ ds.1) none =
      if unsafeInteger ds.1 = true then '"' :: (sign ++ ds.1) ++ ['"'] else sign ++ ds.1 := by
  obtain ⟨ds, hne, hd⟩ := ds
  have abs : (if (sign ++ ds).head? = some '-' then (sign ++ ds).tail else sign ++ ds) = ds := by
    rcases hsign with rfl | rfl
    · cases ds with
      | nil => exact absurd rfl hne
      | cons c ds =>
        have digit := hd c (by simp)
        have unsigned : c ≠ '-' := by
          rintro rfl
          exact absurd digit (by decide)
        simp [unsigned]
    · rfl
  simp only [pushToken, abs, isFloat]
  simp

/-- The scan reads a run of digits into the token. -/
theorem quoteIntegers_digits {ds : List Char} (hd : ∀ c ∈ ds, c.isDigit) (token raw : List Char) :
    quoteIntegers token (ds ++ raw) = quoteIntegers (token ++ ds) raw := by
  induction ds generalizing token with
  | nil => simp
  | cons c ds ih =>
    rw [List.cons_append, quoteIntegers, if_pos (hd c (by simp)),
      ih (fun x hx => hd x (by simp [hx]))]
    simp

theorem quoteIntegers_minus (raw : List Char) :
    quoteIntegers [] ('-' :: raw) = quoteIntegers ['-'] raw := by
  simp [quoteIntegers, pushToken, unsafeInteger]

theorem quoteIntegers_sign (l : Literal) (raw : List Char) :
    quoteIntegers [] (l.sign ++ raw) = quoteIntegers l.sign raw := by
  unfold Literal.sign
  split
  · exact quoteIntegers_minus raw
  · rfl

/-- A token before a `.` or an `e` is pushed as it is. -/
theorem quoteIntegers_float (token raw : List Char) {c : Char} (h : isFloat (some c) = true) :
    quoteIntegers token (c :: raw) = token ++ c :: quoteIntegers [] raw := by
  have hc : c = '.' ∨ c = 'e' ∨ c = 'E' := by simpa [isFloat, or_assoc] using h
  have digit : c.isDigit = false := by rcases hc with rfl | rfl | rfl <;> decide
  have minus : c ≠ '-' := by rcases hc with rfl | rfl | rfl <;> decide
  rw [quoteIntegers, if_neg (by simp [digit]), if_neg minus, pushToken_of_isFloat token h]

theorem quoteIntegers_plus (raw : List Char) :
    quoteIntegers [] ('+' :: raw) = '+' :: quoteIntegers [] raw := by
  simp [quoteIntegers, pushToken, unsafeInteger, show Char.isDigit '+' = false by decide]

theorem quoteIntegers_run (token : List Char) (ds : Digits) :
    quoteIntegers token ds.1 = pushToken (token ++ ds.1) none := by
  have read := quoteIntegers_digits ds.2.2 token []
  rwa [List.append_nil] at read

/-- The scan copies a number up to its last run. -/
theorem quoteIntegers_text (l : Literal) :
    quoteIntegers [] l.text = l.lead ++ pushToken l.lastToken none := by
  have exponentRun : ∀ (negative : Bool) (ds : Digits),
      quoteIntegers [] ((if negative then '-' else '+') :: ds.1) =
        (if negative then [] else ['+']) ++
          pushToken ((if negative then ['-'] else []) ++ ds.1) none := by
    intro negative ds
    cases negative with
    | true => simp [quoteIntegers_minus, quoteIntegers_run]
    | false => simp [quoteIntegers_plus, quoteIntegers_run]
  have point : isFloat (some '.') = true := rfl
  have e : isFloat (some 'e') = true := rfl
  unfold Literal.text Literal.lead Literal.lastToken
  rw [List.append_assoc, List.append_assoc, quoteIntegers_sign]
  cases l.exponent with
  | none =>
    cases l.fraction with
    | none => simp [quoteIntegers_run]
    | some fraction =>
      simp [quoteIntegers_digits l.int.2.2, quoteIntegers_float _ _ point, quoteIntegers_run]
  | some exponent =>
    obtain ⟨negative, ds⟩ := exponent
    cases l.fraction with
    | none =>
      simp [quoteIntegers_digits l.int.2.2, quoteIntegers_float _ _ e, exponentRun]
    | some fraction =>
      simp [quoteIntegers_digits l.int.2.2, quoteIntegers_digits fraction.2.2,
        quoteIntegers_float _ _ point, quoteIntegers_float _ _ e, exponentRun]

theorem pushToken_lastToken (l : Literal) :
    pushToken l.lastToken none =
      if unsafeInteger l.lastRun = true then '"' :: l.lastToken ++ ['"'] else l.lastToken := by
  have unsigned : ∀ ds : Digits, pushToken ds.1 none =
      if unsafeInteger ds.1 = true then '"' :: ds.1 ++ ['"'] else ds.1 :=
    pushToken_signed (Or.inl rfl)
  unfold Literal.lastToken Literal.lastRun
  cases l.exponent with
  | none =>
    cases l.fraction with
    | none => exact pushToken_signed (by unfold Literal.sign; cases l.negative <;> simp) l.int
    | some fraction => exact unsigned fraction
  | some exponent =>
    obtain ⟨negative, ds⟩ := exponent
    exact pushToken_signed (by cases negative <;> simp) ds

/-- The text before the last run, when there is some, does not begin with a quote. -/
theorem Literal.head?_lead (l : Literal) : l.lead.head? ≠ some '"' := by
  have start : ∀ rest, (l.sign ++ l.int.1 ++ rest).head? ≠ some '"' := by
    intro rest
    obtain ⟨ds, hne, hd⟩ := l.int
    cases ds with
    | nil => exact absurd rfl hne
    | cons c ds =>
      have digit := hd c (by simp)
      have unquoted : c ≠ '"' := by
        rintro rfl
        exact absurd digit (by decide)
      unfold Literal.sign
      cases l.negative <;> simp [unquoted]
  unfold Literal.lead
  rcases l.exponent with _ | ⟨negative, ds⟩ <;> cases l.fraction
  · simp
  · exact start _
  · exact start _
  · show (l.sign ++ l.int.1 ++ '.' :: _ ++ _).head? ≠ _
    rw [List.append_assoc]
    exact start _

theorem Literal.lead_eq_nil_iff (l : Literal) :
    l.lead = [] ↔ ¬ (l.fraction.isSome ∨ l.exponent.isSome) := by
  unfold Literal.lead
  rcases l.exponent with _ | ⟨negative, ds⟩ <;> cases l.fraction <;> simp

/-- An exact number parses to itself, another integer to a string, and a fraction or an
exponent that is quoted does not parse. -/
theorem parseLiteral_eq (l : Literal) :
    parseLiteral l =
      if unsafeInteger l.lastRun = false then some (.num l)
      else if l.fraction.isSome ∨ l.exponent.isSome then none
      else some (.str (String.ofList l.text)) := by
  have out := quoteIntegers_text l
  rw [pushToken_lastToken] at out
  unfold parseLiteral
  rw [out]
  cases hu : unsafeInteger l.lastRun with
  | false => simp [l.text_eq]
  | true =>
    have longer : l.lead ++ ('"' :: l.lastToken ++ ['"']) ≠ l.text := by
      intro h
      have := congrArg List.length h
      rw [l.text_eq] at this
      simp only [List.length_append, List.length_cons, List.length_nil] at this
      omega
    by_cases parts : l.fraction.isSome ∨ l.exponent.isSome
    · have inside : l.lead ++ ('"' :: l.lastToken ++ ['"']) ≠ '"' :: l.text ++ ['"'] := by
        intro h
        cases hlead : l.lead with
        | nil => exact l.lead_eq_nil_iff.mp hlead parts
        | cons c rest =>
          rw [hlead] at h
          refine l.head?_lead ?_
          rw [hlead]
          exact congrArg some (List.cons.inj h).1
      simp only [if_true, if_neg longer, if_neg inside, if_pos parts, reduceCtorEq, if_false]
    · have whole := l.lead_eq_nil_iff.mpr parts
      have same := l.text_eq
      rw [whole, List.nil_append] at same
      rw [whole, List.nil_append] at longer
      rw [same] at longer
      simp only [if_true, whole, List.nil_append, same, if_neg longer, if_neg parts, reduceCtorEq,
        if_false]

/-- 0.30000000000000004 does not parse: its fraction is quoted. -/
example : (parseLiteral ⟨false, digits ['0'] rfl,
    some (digits "30000000000000004".toList rfl), none⟩).isNone := by decide

/-! ## `camelizeKeys` -/

/-- A camelCase word, as all the field names of the DTOs are. -/
def CamelCase (s : String) : Bool := s.toList.all Char.isAlphanum && s.toList.head?.any Char.isLower

/-- What the code relies on of `humps.camelize`: a camelCase word is left alone, and what
comes out is left alone the next time. -/
structure Humps (camelize : String → String) : Prop where
  idempotent : ∀ s, camelize (camelize s) = camelize s
  camelCase : ∀ s, CamelCase s → camelize s = s

variable (camelize : String → String)

mutual

/-- `humps.camelizeKeys`. -/
def camelizeKeys : JsonText → JsonText
  | .arr items => .arr (camelizeItems items)
  | .obj fields => .obj (Fields.rename camelize (camelizeFields fields))
  | .null => .null
  | .bool b => .bool b
  | .num l => .num l
  | .str s => .str s

def camelizeItems : List JsonText → List JsonText
  | [] => []
  | j :: items => camelizeKeys j :: camelizeItems items

/-- The fields with their values camelized. -/
def camelizeFields : List (String × JsonText) → List (String × JsonText)
  | [] => []
  | (k, v) :: fields => (k, camelizeKeys v) :: camelizeFields fields

end

/-- `none`: the raw text is returned. -/
def transformResponse (body : JsonText) : Option JsonText :=
  (parseJsonSafe body).map (camelizeKeys camelize)

/-! ## Which responses parse -/

theorem parseLiteral_isSome_iff (l : Literal) : (parseLiteral l).isSome ↔ ¬ l.Broken := by
  rw [parseLiteral_eq]
  unfold Literal.Broken
  cases unsafeInteger l.lastRun with
  | false => simp
  | true => by_cases parts : l.fraction.isSome ∨ l.exponent.isSome <;> simp [parts]

namespace JsonText

variable {l : Literal} {k : String}

theorem mem_numbersOfItems {items : List JsonText} :
    l ∈ numbersOfItems items ↔ ∃ j ∈ items, l ∈ j.numbers := by
  induction items with
  | nil => simp [numbersOfItems]
  | cons j items ih => simp [numbersOfItems, ih]

theorem mem_numbersOfFields {fields : List (String × JsonText)} :
    l ∈ numbersOfFields fields ↔ ∃ p ∈ fields, l ∈ p.2.numbers := by
  induction fields with
  | nil => simp [numbersOfFields]
  | cons p fields ih => simp [numbersOfFields, ih]

theorem mem_namesOfItems {items : List JsonText} :
    k ∈ namesOfItems items ↔ ∃ j ∈ items, k ∈ j.names := by
  induction items with
  | nil => simp [namesOfItems]
  | cons j items ih => simp [namesOfItems, ih]

theorem mem_namesOfFields {fields : List (String × JsonText)} :
    k ∈ namesOfFields fields ↔ k ∈ Fields.keys fields ∨ ∃ p ∈ fields, k ∈ p.2.names := by
  induction fields with
  | nil => simp [namesOfFields, Fields.keys]
  | cons p fields ih =>
    rw [namesOfFields, List.mem_cons, List.mem_append, ih, List.exists_mem_cons_iff, Fields.keys,
      Fields.keys, List.map_cons, List.mem_cons]
    tauto

theorem distinctFields_iff {fields : List (String × JsonText)} :
    DistinctFields fields ↔ ∀ p ∈ fields, p.2.Distinct := by
  induction fields with
  | nil => simp [DistinctFields]
  | cons p fields ih => simp [DistinctFields, ih]

/-- No number of the value is quoted in part. -/
def Readable (j : JsonText) : Prop := ∀ l ∈ j.numbers, ¬ l.Broken

instance (j : JsonText) : Decidable j.Readable :=
  inferInstanceAs (Decidable (∀ l ∈ j.numbers, ¬ l.Broken))

theorem readable_arr_iff {items : List JsonText} :
    (arr items).Readable ↔ ∀ j ∈ items, j.Readable := by
  constructor
  · intro h j hj l hl
    exact h l (mem_numbersOfItems.mpr ⟨j, hj, hl⟩)
  · intro h l hl
    obtain ⟨j, hj, hl⟩ := mem_numbersOfItems.mp hl
    exact h j hj l hl

theorem readable_obj_iff {fields : List (String × JsonText)} :
    (obj fields).Readable ↔ ∀ p ∈ fields, p.2.Readable := by
  constructor
  · intro h p hp l hl
    exact h l (mem_numbersOfFields.mpr ⟨p, hp, hl⟩)
  · intro h l hl
    obtain ⟨p, hp, hl⟩ := mem_numbersOfFields.mp hl
    exact h p hp l hl

theorem Readable.field {fields : List (String × JsonText)} (h : (obj fields).Readable)
    {name : String} {v : JsonText} (hv : (name, v) ∈ fields) : v.Readable :=
  readable_obj_iff.mp h (name, v) hv

theorem Readable.item {items : List JsonText} (h : (arr items).Readable) {j : JsonText}
    (hj : j ∈ items) : j.Readable :=
  readable_arr_iff.mp h j hj

end JsonText

mutual

theorem parseJsonSafe_isSome_iff : ∀ j : JsonText, (parseJsonSafe j).isSome ↔ j.Readable
  | .null | .bool _ | .str _ => by
    simp [parseJsonSafe, JsonText.Readable, JsonText.numbers]
  | .num l => by
    simpa [parseJsonSafe, JsonText.Readable, JsonText.numbers] using parseLiteral_isSome_iff l
  | .arr items => by
    rw [JsonText.readable_arr_iff, ← parseItems_isSome_iff items, parseJsonSafe, Option.isSome_map]
  | .obj fields => by
    rw [JsonText.readable_obj_iff, ← parseFields_isSome_iff fields, parseJsonSafe,
      Option.isSome_map]

theorem parseItems_isSome_iff :
    ∀ items : List JsonText, (parseItems items).isSome ↔ ∀ j ∈ items, j.Readable
  | [] => by simp [parseItems]
  | j :: items => by
    have head := parseJsonSafe_isSome_iff j
    have rest := parseItems_isSome_iff items
    rw [List.forall_mem_cons, ← head, ← rest, parseItems]
    cases parseJsonSafe j <;> cases parseItems items <;> simp

theorem parseFields_isSome_iff :
    ∀ fields : List (String × JsonText), (parseFields fields).isSome ↔ ∀ p ∈ fields, p.2.Readable
  | [] => by simp [parseFields]
  | (k, v) :: fields => by
    have head := parseJsonSafe_isSome_iff v
    have rest := parseFields_isSome_iff fields
    rw [List.forall_mem_cons, ← head, ← rest, parseFields]
    cases parseJsonSafe v <;> cases parseFields fields <;> simp

end

/-! ## Which values arrive as they were sent -/

theorem keys_parseFields {fields parsed : List (String × JsonText)}
    (h : parseFields fields = some parsed) : Fields.keys parsed = Fields.keys fields := by
  induction fields generalizing parsed with
  | nil =>
    obtain rfl : [] = parsed := Option.some.inj h
    rfl
  | cons p fields ih =>
    simp only [parseFields, Option.bind_eq_bind, Option.bind_eq_some_iff] at h
    obtain ⟨v, -, rest, hrest, h⟩ := h
    obtain rfl : _ = parsed := Option.some.inj h
    exact congrArg (p.1 :: ·) (ih hrest)

variable {camelize}

theorem keys_camelizeFields (fields : List (String × JsonText)) :
    Fields.keys (camelizeFields camelize fields) = Fields.keys fields := by
  induction fields with
  | nil => rfl
  | cons p fields ih => exact congrArg (p.1 :: ·) ih

/-- The fields of an object before their keys are rewritten. -/
def transformFields (camelize : String → String) (fields : List (String × JsonText)) :
    Option (List (String × JsonText)) :=
  (parseFields fields).map (camelizeFields camelize)

theorem keys_transformFields {fields arrived : List (String × JsonText)}
    (h : transformFields camelize fields = some arrived) :
    Fields.keys arrived = Fields.keys fields := by
  obtain ⟨parsed, hparsed, rfl⟩ := Option.map_eq_some_iff.mp h
  rw [keys_camelizeFields, keys_parseFields hparsed]

/-- The items that come out are what the items become. -/
theorem transformItems_map {items arrived : List JsonText}
    (h : (parseItems items).map (camelizeItems camelize) = some arrived) :
    items.map (transformResponse camelize) = arrived.map some := by
  induction items generalizing arrived with
  | nil =>
    obtain rfl : [] = arrived := Option.some.inj h
    rfl
  | cons j items ih =>
    obtain ⟨parsed, hparsed, rfl⟩ := Option.map_eq_some_iff.mp h
    simp only [parseItems, Option.bind_eq_bind, Option.bind_eq_some_iff] at hparsed
    obtain ⟨j', hj', rest, hrest, hparsed⟩ := hparsed
    obtain rfl : _ = parsed := Option.some.inj hparsed
    have tail := ih (congrArg (Option.map (camelizeItems camelize)) hrest)
    rw [List.map_cons, tail, transformResponse, hj']
    rfl

theorem transformResponse_isSome_iff (camelize : String → String) (j : JsonText) :
    (transformResponse camelize j).isSome ↔ j.Readable := by
  rw [← parseJsonSafe_isSome_iff, transformResponse, Option.isSome_map]

/-- The items of an array are what they become. -/
theorem elements_transformResponse (camelize : String → String) {items : List JsonText}
    (h : (JsonText.arr items).Readable) :
    (JsonText.elements (transformResponse camelize (.arr items))).map some =
      items.map (transformResponse camelize) := by
  rw [← transformResponse_isSome_iff camelize, transformResponse, parseJsonSafe] at h
  rw [transformResponse, parseJsonSafe]
  cases hparsed : parseItems items with
  | none => rw [hparsed] at h; cases h
  | some parsed => exact (transformItems_map (congrArg (Option.map _) hparsed)).symm

theorem getElem?_transformResponse {items : List JsonText} (h : (JsonText.arr items).Readable)
    (i : Nat) :
    (JsonText.elements (transformResponse camelize (.arr items)))[i]? =
      items[i]?.bind (transformResponse camelize) := by
  have at_i := congrArg (·[i]?) (elements_transformResponse camelize h)
  simp only [List.getElem?_map] at at_i
  generalize (JsonText.elements (transformResponse camelize (.arr items)))[i]? = element at at_i ⊢
  cases element <;> cases hitem : items[i]? <;> simp_all

theorem transformResponse_obj (fields : List (String × JsonText)) :
    transformResponse camelize (.obj fields) =
      (transformFields camelize fields).map fun arrived =>
        .obj (Fields.rename camelize arrived) := by
  simp only [transformResponse, transformFields, parseJsonSafe, Option.map_map]
  rfl

theorem transformFields_cons (k : String) (v : JsonText) (fields : List (String × JsonText)) :
    transformFields camelize ((k, v) :: fields) =
      (transformResponse camelize v).bind fun v' =>
        (transformFields camelize fields).map ((k, v') :: ·) := by
  unfold transformFields transformResponse
  rw [parseFields]
  cases parseJsonSafe v <;> cases parseFields fields <;> rfl

theorem lookup_transformFields {fields arrived : List (String × JsonText)}
    (h : transformFields camelize fields = some arrived) (k : String) :
    arrived.lookup k = (fields.lookup k).bind (transformResponse camelize) := by
  induction fields generalizing arrived with
  | nil =>
    obtain rfl : [] = arrived := Option.some.inj h
    rfl
  | cons p fields ih =>
    obtain ⟨k', v⟩ := p
    rw [transformFields_cons, Option.bind_eq_some_iff] at h
    obtain ⟨v', hv', h⟩ := h
    obtain ⟨rest, hrest, rfl⟩ := Option.map_eq_some_iff.mp h
    rw [Fields.lookup_cons, Fields.lookup_cons, ih hrest]
    split_ifs
    · exact hv'.symm
    · rfl

/-- Of an object whose keys are left, each field is what its value becomes. -/
theorem get?_transformResponse {fields : List (String × JsonText)} {received : JsonText}
    (nodup : (Fields.keys fields).Nodup) (fixed : ∀ k ∈ Fields.keys fields, camelize k = k)
    (h : transformResponse camelize (.obj fields) = some received) (name : String) :
    received.get? name = (fields.lookup name).bind (transformResponse camelize) := by
  rw [transformResponse_obj, Option.map_eq_some_iff] at h
  obtain ⟨arrived, harrived, rfl⟩ := h
  have keys := keys_transformFields harrived
  rw [Fields.rename_of_fixed (keys ▸ nodup) (keys ▸ fixed)]
  exact lookup_transformFields harrived name

/-- Every key is left by `camelize` and no number is quoted. -/
structure JsonText.Plain (camelize : String → String) (j : JsonText) : Prop where
  names : ∀ k ∈ j.names, camelize k = k
  numbers : ∀ l ∈ j.numbers, l.Exact

theorem plain_obj_iff {fields : List (String × JsonText)} :
    (JsonText.obj fields).Plain camelize ↔
      (∀ k ∈ Fields.keys fields, camelize k = k) ∧ ∀ p ∈ fields, p.2.Plain camelize := by
  constructor
  · rintro ⟨names, numbers⟩
    refine ⟨fun k hk => names k (JsonText.mem_namesOfFields.mpr (Or.inl hk)), fun p hp => ?_⟩
    exact ⟨fun k hk => names k (JsonText.mem_namesOfFields.mpr (Or.inr ⟨p, hp, hk⟩)),
      fun l hl => numbers l (JsonText.mem_numbersOfFields.mpr ⟨p, hp, hl⟩)⟩
  · rintro ⟨keys, values⟩
    refine ⟨fun k hk => ?_, fun l hl => ?_⟩
    · rcases JsonText.mem_namesOfFields.mp hk with hk | ⟨p, hp, hk⟩
      · exact keys k hk
      · exact (values p hp).names k hk
    · obtain ⟨p, hp, hl⟩ := JsonText.mem_numbersOfFields.mp hl
      exact (values p hp).numbers l hl

theorem plain_arr_iff {items : List JsonText} :
    (JsonText.arr items).Plain camelize ↔ ∀ j ∈ items, j.Plain camelize := by
  constructor
  · rintro ⟨names, numbers⟩ j hj
    exact ⟨fun k hk => names k (JsonText.mem_namesOfItems.mpr ⟨j, hj, hk⟩),
      fun l hl => numbers l (JsonText.mem_numbersOfItems.mpr ⟨j, hj, hl⟩)⟩
  · intro values
    refine ⟨fun k hk => ?_, fun l hl => ?_⟩
    · obtain ⟨j, hj, hk⟩ := JsonText.mem_namesOfItems.mp hk
      exact (values j hj).names k hk
    · obtain ⟨j, hj, hl⟩ := JsonText.mem_numbersOfItems.mp hl
      exact (values j hj).numbers l hl

/-- An object whose values arrive as they were sent arrives so if its keys are left. -/
theorem transform_obj_iff (humps : Humps camelize) {fields : List (String × JsonText)}
    (nodup : (Fields.keys fields).Nodup) :
    transformResponse camelize (.obj fields) = some (.obj fields) ↔
      (∀ k ∈ Fields.keys fields, camelize k = k) ∧
        transformFields camelize fields = some fields := by
  rw [transformResponse_obj, Option.map_eq_some_iff]
  constructor
  · rintro ⟨arrived, harrived, h⟩
    have same : Fields.rename camelize arrived = fields := JsonText.obj.inj h
    have fixed : ∀ k ∈ Fields.keys fields, camelize k = k := by
      intro k hk
      rw [← same] at hk
      exact Fields.fixed_of_mem_keys_rename humps.idempotent hk
    have keys := keys_transformFields harrived
    rw [Fields.rename_of_fixed (keys ▸ nodup) (keys ▸ fixed)] at same
    exact ⟨fixed, same ▸ harrived⟩
  · rintro ⟨fixed, values⟩
    exact ⟨fields, values, congrArg JsonText.obj (Fields.rename_of_fixed nodup fixed)⟩

theorem parseLiteral_eq_self_iff (l : Literal) : parseLiteral l = some (.num l) ↔ l.Exact := by
  rw [parseLiteral_eq]
  unfold Literal.Exact
  cases unsafeInteger l.lastRun with
  | false => simp
  | true => by_cases parts : l.fraction.isSome ∨ l.exponent.isSome <;> simp [parts]

mutual

theorem transformResponse_eq_self_iff (humps : Humps camelize) :
    ∀ j : JsonText, j.Distinct → (transformResponse camelize j = some j ↔ j.Plain camelize)
  | .null, _ | .bool _, _ | .str _, _ => by
    refine iff_of_true rfl ⟨?_, ?_⟩ <;> simp [JsonText.names, JsonText.numbers]
  | .num l, _ => by
    have plain : (JsonText.num l).Plain camelize ↔ l.Exact :=
      ⟨fun h => h.numbers l (by simp [JsonText.numbers]),
        fun h => ⟨by simp [JsonText.names], by simpa [JsonText.numbers] using h⟩⟩
    rw [plain, ← parseLiteral_eq_self_iff, transformResponse, parseJsonSafe]
    rw [parseLiteral_eq]
    split_ifs <;> simp [camelizeKeys]
  | .arr items, distinct => by
    have each := transformItems_eq_self_iff humps items distinct
    rw [plain_arr_iff, ← each, transformResponse, parseJsonSafe, Option.map_map]
    cases parseItems items <;> simp [camelizeKeys]
  | .obj fields, distinct => by
    have each := transformFields_eq_self_iff humps fields distinct.2
    rw [plain_obj_iff, ← each]
    exact transform_obj_iff humps distinct.1

theorem transformItems_eq_self_iff (humps : Humps camelize) :
    ∀ items : List JsonText, JsonText.DistinctItems items →
      ((parseItems items).map (camelizeItems camelize) = some items ↔
        ∀ j ∈ items, j.Plain camelize)
  | [], _ => by simp [parseItems, camelizeItems]
  | j :: items, distinct => by
    have head := transformResponse_eq_self_iff humps j distinct.1
    have rest := transformItems_eq_self_iff humps items distinct.2
    rw [List.forall_mem_cons, ← head, ← rest, parseItems, transformResponse]
    cases parseJsonSafe j <;> cases parseItems items <;> simp [camelizeItems]

theorem transformFields_eq_self_iff (humps : Humps camelize) :
    ∀ fields : List (String × JsonText), JsonText.DistinctFields fields →
      (transformFields camelize fields = some fields ↔ ∀ p ∈ fields, p.2.Plain camelize)
  | [], _ => by simp [transformFields, parseFields, camelizeFields]
  | (k, v) :: fields, distinct => by
    have head := transformResponse_eq_self_iff humps v distinct.1
    have rest := transformFields_eq_self_iff humps fields distinct.2
    rw [List.forall_mem_cons, ← head, ← rest, transformFields_cons]
    cases transformResponse camelize v <;> cases transformFields camelize fields <;> simp

end

end AiotCloud
