import AiotCloud.Lib.Fields
import AiotCloud.Lib.Regex

/-!
# JSON texts

A text is cut into tokens by a machine that reads it character by character, and a machine with
a stack reads the tokens as a tree. Every tree has a value, once its numbers have one.

1. `lex_eq_some_iff`: the tokens of a text.
2. `parse_eq_some_iff`: the tree of a list of tokens.
3. `read_eq_some_iff`: the tree of a text.
-/

namespace JsonSyntax

open Regex

/-! ## Numbers -/

def isNonzeroDigit (c : Char) : Bool := c.isDigit && c ≠ '0'

def isExponentMark (c : Char) : Bool := c = 'e' || c = 'E'

def isExponentSign (c : Char) : Bool := c = '+' || c = '-'

def signPattern : Pattern Char := opt (word ['-'])

def intPattern : Pattern Char :=
  .alt (word ['0']) (.seq (.one isNonzeroDigit) (.many true Char.isDigit))

def fractionPattern : Pattern Char := opt (.seq (word ['.']) (plus true Char.isDigit))

def exponentPattern : Pattern Char :=
  opt (.seq (.one isExponentMark) (.seq (opt (.one isExponentSign)) (plus true Char.isDigit)))

/-- `-?(0|[1-9]\d*)(\.\d+)?([eE][+-]?\d+)?` -/
def numberRegex : List (Segment Char) :=
  [group signPattern, group intPattern, group fractionPattern, group exponentPattern]

def isNumber (text : List Char) : Bool := (exec numberRegex text).isSome

def IsDigits (ds : List Char) : Prop := ds ≠ [] ∧ ∀ c ∈ ds, c.isDigit = true

def IsSign (sign : List Char) : Prop := sign = [] ∨ sign = ['-']

def IsInt (int : List Char) : Prop :=
  int = ['0'] ∨ ∃ c ds, isNonzeroDigit c = true ∧ (∀ d ∈ ds, d.isDigit = true) ∧ int = c :: ds

def IsFraction (fraction : List Char) : Prop :=
  fraction = [] ∨ ∃ ds, IsDigits ds ∧ fraction = '.' :: ds

def IsExponent (exponent : List Char) : Prop :=
  exponent = [] ∨ ∃ mark sign ds, (mark = 'e' ∨ mark = 'E') ∧
    (sign = [] ∨ sign = ['+'] ∨ sign = ['-']) ∧ IsDigits ds ∧ exponent = mark :: (sign ++ ds)

theorem signPattern_matches {text : List Char} : signPattern.Matches text ↔ IsSign text := by
  rw [signPattern, opt_matches, word_matches, or_comm]
  rfl

theorem intPattern_matches {text : List Char} : intPattern.Matches text ↔ IsInt text := by
  rw [intPattern, Pattern.Matches, word_matches]
  refine or_congr_right ⟨?_, ?_⟩
  · rintro ⟨_, ds, ⟨c, hc, rfl⟩, hds, rfl⟩
    exact ⟨c, ds, hc, hds, rfl⟩
  · rintro ⟨c, ds, hc, hds, rfl⟩
    exact ⟨[c], ds, ⟨c, hc, rfl⟩, hds, rfl⟩

theorem fractionPattern_matches {text : List Char} :
    fractionPattern.Matches text ↔ IsFraction text := by
  rw [fractionPattern, opt_matches, or_comm]
  refine or_congr_right ⟨?_, ?_⟩
  · rintro ⟨_, ds, hpoint, hds, rfl⟩
    exact ⟨ds, plus_matches.mp hds, by rw [word_matches.mp hpoint]; rfl⟩
  · rintro ⟨ds, hds, rfl⟩
    exact ⟨['.'], ds, word_matches.mpr rfl, plus_matches.mpr hds, rfl⟩

theorem exponentPattern_matches {text : List Char} :
    exponentPattern.Matches text ↔ IsExponent text := by
  rw [exponentPattern, opt_matches, or_comm]
  refine or_congr_right ⟨?_, ?_⟩
  · rintro ⟨_, _, ⟨mark, hmark, rfl⟩, ⟨sign, ds, hsign, hds, rfl⟩, rfl⟩
    refine ⟨mark, sign, ds, by simpa [isExponentMark] using hmark, ?_, plus_matches.mp hds, rfl⟩
    rcases hsign with ⟨c, hc, rfl⟩ | rfl
    · exact .inr (by simpa [isExponentSign] using hc)
    · exact .inl rfl
  · rintro ⟨mark, sign, ds, hmark, hsign, hds, rfl⟩
    refine ⟨[mark], sign ++ ds, ⟨mark, by simpa [isExponentMark] using hmark, rfl⟩,
      ⟨sign, ds, ?_, plus_matches.mpr hds, rfl⟩, rfl⟩
    rcases hsign with rfl | rfl | rfl
    · exact .inr rfl
    · exact .inl ⟨'+', rfl, rfl⟩
    · exact .inl ⟨'-', rfl, rfl⟩

/-- The parts of a number. -/
theorem isNumber_iff {text : List Char} :
    isNumber text = true ↔ ∃ sign int fraction exponent, IsSign sign ∧ IsInt int ∧
      IsFraction fraction ∧ IsExponent exponent ∧
      text = sign ++ (int ++ (fraction ++ exponent)) := by
  rw [isNumber, exec_isSome_iff]
  simp only [numberRegex, fits_cons, fits_nil, group, signPattern_matches, intPattern_matches,
    fractionPattern_matches, exponentPattern_matches]
  constructor
  · rintro ⟨_, ⟨sign, _, s, ⟨int, _, i, ⟨fraction, _, f, ⟨exponent, _, e, rfl, rfl⟩, rfl⟩, rfl⟩,
      rfl⟩, rfl⟩
    exact ⟨sign, int, fraction, exponent, s, i, f, e, by simp⟩
  · rintro ⟨sign, int, fraction, exponent, s, i, f, e, rfl⟩
    exact ⟨_, ⟨sign, _, s, ⟨int, _, i, ⟨fraction, _, f, ⟨exponent, _, e, rfl, rfl⟩, rfl⟩, rfl⟩,
      rfl⟩, by simp⟩

structure Number where
  text : List Char
  valid : isNumber text = true
deriving DecidableEq

/-! ## Strings -/

def hexValue (c : Char) : Option Nat :=
  if c.isDigit then some (c.toNat - '0'.toNat)
  else if 'a' ≤ c ∧ c ≤ 'f' then some (c.toNat - 'a'.toNat + 10)
  else if 'A' ≤ c ∧ c ≤ 'F' then some (c.toNat - 'A'.toNat + 10)
  else none

/-- The code units of a character. -/
def codeUnits (c : Char) : List Nat :=
  if c.toNat < 0x10000 then [c.toNat]
  else [0xd800 + (c.toNat - 0x10000) / 0x400, 0xdc00 + (c.toNat - 0x10000) % 0x400]

/-- The character that is escaped by a letter or itself. -/
def simpleEscape (c : Char) : Option Nat :=
  if c = '"' ∨ c = '\\' ∨ c = '/' then some c.toNat
  else if c = 'b' then some 8
  else if c = 'f' then some 12
  else if c = 'n' then some 10
  else if c = 'r' then some 13
  else if c = 't' then some 9
  else none

/-- The code units of a string. -/
def unescape : List Char → Option (List Nat)
  | [] => some []
  | '\\' :: 'u' :: a :: b :: c :: d :: rest => do
    let a ← hexValue a
    let b ← hexValue b
    let c ← hexValue c
    let d ← hexValue d
    let units ← unescape rest
    return (4096 * a + 256 * b + 16 * c + d) :: units
  | '\\' :: c :: rest => do
    let unit ← simpleEscape c
    let units ← unescape rest
    return unit :: units
  | c :: rest =>
    if c = '\\' ∨ c = '"' ∨ c.toNat < 0x20 then none
    else (unescape rest).map (codeUnits c ++ ·)

/-- No quote of the characters ends the string; `escaped`: the first one is escaped. -/
def closed : Bool → List Char → Bool
  | escaped, [] => !escaped
  | true, _ :: cs => closed false cs
  | false, c :: cs => if c = '\\' then closed true cs else c ≠ '"' && closed false cs

/-- What stands between the quotes. -/
structure Body where
  chars : List Char
  closed : closed false chars = true
  valid : (unescape chars).isSome = true
deriving DecidableEq

def Body.units (body : Body) : List Nat := (unescape body.chars).get body.valid

/-! ## Tokens -/

def isBlank (c : Char) : Bool := c = ' ' || c = '\t' || c = '\n' || c = '\r'

inductive Mark where
  | beginArray
  | endArray
  | beginObject
  | endObject
  | colon
  | comma
deriving DecidableEq

def Mark.char : Mark → Char
  | beginArray => '['
  | endArray => ']'
  | beginObject => '\x7b'
  | endObject => '\x7d'
  | colon => ':'
  | comma => ','

def markOf (c : Char) : Option Mark :=
  [Mark.beginArray, .endArray, .beginObject, .endObject, .colon, .comma].find? (·.char = c)

inductive Word where
  | null
  | true
  | false
deriving DecidableEq

def Word.text : Word → List Char
  | null => ['n', 'u', 'l', 'l']
  | true => ['t', 'r', 'u', 'e']
  | false => ['f', 'a', 'l', 's', 'e']

inductive Leaf where
  | word (w : Word)
  | str (body : Body)
  | num (number : Number)
deriving DecidableEq

inductive Token where
  | mark (m : Mark)
  | leaf (l : Leaf)
deriving DecidableEq

def Leaf.text : Leaf → List Char
  | word w => w.text
  | str body => '"' :: (body.chars ++ ['"'])
  | num number => number.text

def Token.text : Token → List Char
  | mark m => [m.char]
  | leaf l => l.text

def isLetter (c : Char) : Bool := c.isLower

def isNumberChar (c : Char) : Bool :=
  c.isDigit || c = '-' || c = '+' || c = '.' || c = 'e' || c = 'E'

/-- What follows the token is no continuation of it. -/
def Token.Separated : Token → List Char → Prop
  | leaf (.word _), rest => Ends isLetter rest
  | leaf (.num _), rest => Ends isNumberChar rest
  | _, _ => True

/-- The text has the tokens, with blanks between them. -/
inductive Written : List Char → List Token → Prop
  | nil : Written [] []
  | blank {c : Char} {raw : List Char} {tokens : List Token} :
      isBlank c = true → Written raw tokens → Written (c :: raw) tokens
  | token {raw : List Char} {tokens : List Token} (t : Token) :
      t.Separated raw → Written raw tokens → Written (t.text ++ raw) (t :: tokens)

/-! ## The lexer -/

/-- The tokens that end where they do not go on. -/
inductive Run where
  | number
  | word
deriving DecidableEq

def Run.admits : Run → Char → Bool
  | number => isNumberChar
  | word => isLetter

def Run.token : Run → List Char → Option Token
  | number, text =>
    if valid : isNumber text = true then some (.leaf (.num ⟨text, valid⟩)) else none
  | word, text =>
    ([Word.null, .true, .false].find? (·.text = text)).map fun w => .leaf (.word w)

/-- What has been read of a token. -/
inductive LexState where
  | between
  | run (kind : Run) (read : List Char)
  | string (escaped : Bool) (read : List Char)
deriving DecidableEq

def stringToken (chars : List Char) : Option Token :=
  if h : closed false chars = true ∧ (unescape chars).isSome = true then
    some (.leaf (.str ⟨chars, h.1, h.2⟩))
  else none

/-- The character after a token. -/
def start (c : Char) : Option (List Token × LexState) :=
  if isBlank c then some ([], .between)
  else if c = '"' then some ([], .string false [])
  else if c = '-' ∨ c.isDigit then some ([], .run .number [c])
  else if isLetter c then some ([], .run .word [c])
  else (markOf c).map fun m => ([.mark m], .between)

def lexStep : LexState → Char → Option (List Token × LexState)
  | .between, c => start c
  | .run kind read, c =>
    if kind.admits c then some ([], .run kind (read ++ [c]))
    else (kind.token read).bind fun t => (start c).map fun (ts, s) => (t :: ts, s)
  | .string true read, c => some ([], .string false (read ++ [c]))
  | .string false read, c =>
    if c = '\\' then some ([], .string true (read ++ [c]))
    else if c = '"' then (stringToken read).map fun t => ([t], .between)
    else some ([], .string false (read ++ [c]))

def finish : LexState → Option (List Token)
  | .between => some []
  | .run kind read => (kind.token read).map ([·])
  | .string _ _ => none

def lexFrom (s : LexState) : List Char → Option (List Token)
  | [] => finish s
  | c :: raw => (lexStep s c).bind fun (ts, s) => (lexFrom s raw).map (ts ++ ·)

def lex (raw : List Char) : Option (List Token) := lexFrom .between raw

theorem lex_cons (c : Char) (raw : List Char) :
    lex (c :: raw) = (start c).bind fun (ts, s) => (lexFrom s raw).map (ts ++ ·) := rfl

theorem lex_blank {c : Char} (h : isBlank c = true) (raw : List Char) :
    lex (c :: raw) = lex raw := by
  rw [lex_cons, start, if_pos h]
  simp [lex]

/-- A number or word is read on for as long as it goes on. -/
theorem lexFrom_run {kind : Run} {more rest : List Char} (hmore : ∀ c ∈ more, kind.admits c = true)
    (ends : Ends kind.admits rest) (read : List Char) :
    lexFrom (.run kind read) (more ++ rest) =
      (kind.token (read ++ more)).bind fun t => (lex rest).map (t :: ·) := by
  induction more generalizing read with
  | nil =>
    rw [List.append_nil, List.nil_append]
    cases rest with
    | nil => exact Option.map_eq_bind
    | cons c rest =>
      have other := ends_cons.mp ends
      simp only [lexFrom, lexStep, other, Bool.false_eq_true, if_false, lex_cons]
      cases kind.token read with
      | none => rfl
      | some t =>
        cases start c with
        | none => rfl
        | some next => simp [Function.comp_def]
  | cons c more ih =>
    have continued := hmore c List.mem_cons_self
    rw [List.cons_append, lexFrom, lexStep, if_pos continued]
    simp [ih fun c hc => hmore c (.tail _ hc)]

/-- A character of a string is read on, unless it is the quote that ends it. -/
theorem lexStep_string (escaped : Bool) (c : Char) :
    (∃ escaped', (∀ read, lexStep (.string escaped read) c =
        some ([], .string escaped' (read ++ [c]))) ∧
      ∀ more, closed escaped (c :: more) = closed escaped' more) ∨
    escaped = false ∧ c = '"' := by
  cases escaped with
  | true => exact .inl ⟨false, fun _ => rfl, fun _ => rfl⟩
  | false =>
    by_cases slash : c = '\\'
    · exact .inl ⟨true, fun _ => if_pos slash, fun _ => if_pos slash⟩
    by_cases quote : c = '"'
    · exact .inr ⟨rfl, quote⟩
    · refine .inl ⟨false, fun read => ?_, fun more => ?_⟩
      · rw [lexStep, if_neg slash, if_neg quote]
      · rw [closed, if_neg slash, decide_eq_true quote, Bool.true_and]

/-- A string is read to the quote that ends it. -/
theorem lexFrom_string {escaped : Bool} {more : List Char} (h : closed escaped more = true)
    (rest read : List Char) :
    lexFrom (.string escaped read) (more ++ '"' :: rest) =
      (stringToken (read ++ more)).bind fun t => (lex rest).map (t :: ·) := by
  induction more generalizing escaped read with
  | nil =>
    obtain rfl : escaped = false := by simpa [closed] using h
    simp only [List.nil_append, List.append_nil, lexFrom, lexStep]
    cases stringToken read <;> simp [lex]
  | cons c more ih =>
    rcases lexStep_string escaped c with ⟨escaped', step, rest_closed⟩ | ⟨rfl, rfl⟩
    · rw [rest_closed] at h
      simp [lexFrom, step, ih h]
    · cases h

theorem exists_closed {escaped : Bool} {raw read : List Char} {tokens : List Token}
    (h : lexFrom (.string escaped read) raw = some tokens) :
    ∃ more rest, raw = more ++ '"' :: rest ∧ closed escaped more = true := by
  induction raw generalizing escaped read tokens with
  | nil => cases h
  | cons c raw ih =>
    rcases lexStep_string escaped c with ⟨escaped', step, rest_closed⟩ | ⟨rfl, rfl⟩
    · rw [lexFrom, step] at h
      obtain ⟨tokens', found, -⟩ := Option.map_eq_some_iff.mp h
      obtain ⟨more, rest, rfl, hmore⟩ := ih found
      exact ⟨c :: more, rest, rfl, by rw [rest_closed, hmore]⟩
    · exact ⟨[], raw, rfl, rfl⟩

/-! ## Tokens of a text -/

theorem isNumberChar_of_isDigit {c : Char} (h : c.isDigit = true) : isNumberChar c = true := by
  rw [isNumberChar, h]
  rfl

theorem isNumberChar_of_mem {text : List Char} (h : isNumber text = true) :
    ∀ c ∈ text, isNumberChar c = true := by
  obtain ⟨sign, int, fraction, exponent, hsign, hint, hfraction, hexponent, rfl⟩ :=
    isNumber_iff.mp h
  have digits {ds : List Char} (hds : ∀ d ∈ ds, d.isDigit = true) :
      ∀ d ∈ ds, isNumberChar d = true := fun d hd => isNumberChar_of_isDigit (hds d hd)
  have single {c : Char} (hc : isNumberChar c = true) : ∀ d ∈ [c], isNumberChar d = true :=
    fun d hd => (List.mem_singleton.mp hd).symm ▸ hc
  simp only [List.forall_mem_append]
  refine ⟨?_, ?_, ?_, ?_⟩
  · rcases hsign with rfl | rfl
    · nofun
    · exact single rfl
  · rcases hint with rfl | ⟨c, ds, hc, hds, rfl⟩
    · exact single rfl
    · exact digits (List.forall_mem_cons.mpr ⟨(Bool.and_eq_true_iff.mp hc).1, hds⟩)
  · rcases hfraction with rfl | ⟨ds, hds, rfl⟩
    · nofun
    · exact List.forall_mem_cons.mpr ⟨rfl, digits hds.2⟩
  · rcases hexponent with rfl | ⟨mark, sign, ds, hmark, hsign, hds, rfl⟩
    · nofun
    · refine List.forall_mem_cons.mpr ⟨?_, List.forall_mem_append.mpr ⟨?_, digits hds.2⟩⟩
      · rcases hmark with rfl | rfl <;> rfl
      · rcases hsign with rfl | rfl | rfl
        · nofun
        · exact single rfl
        · exact single rfl

/-- A number starts with its sign or a digit. -/
theorem isNumber_front {text : List Char} (h : isNumber text = true) :
    ∃ c cs, text = c :: cs ∧ (c = '-' ∨ c.isDigit = true) := by
  obtain ⟨sign, int, fraction, exponent, hsign, hint, -, -, rfl⟩ := isNumber_iff.mp h
  rcases hsign with rfl | rfl
  · rcases hint with rfl | ⟨c, ds, hc, -, rfl⟩
    · exact ⟨_, _, rfl, .inr rfl⟩
    · exact ⟨_, _, rfl, .inr (Bool.and_eq_true_iff.mp hc).1⟩
  · exact ⟨_, _, rfl, .inl rfl⟩

theorem start_number {c : Char} (h : c = '-' ∨ c.isDigit = true) :
    start c = some ([], .run .number [c]) := by
  have blank : isBlank c = false := by
    cases hc : isBlank c with
    | false => rfl
    | true =>
      simp only [isBlank, Bool.or_eq_true, decide_eq_true_eq] at hc
      rcases hc with ((rfl | rfl) | rfl) | rfl <;> rcases h with h | h <;> cases h
  have quote : c ≠ '"' := by
    rintro rfl
    rcases h with h | h <;> cases h
  rw [start, blank, if_neg Bool.false_ne_true, if_neg quote, if_pos h]

/-- A token that is not continued is read. -/
theorem lex_append (t : Token) {rest : List Char} (separated : t.Separated rest) :
    lex (t.text ++ rest) = (lex rest).map (t :: ·) := by
  match t with
  | .mark m =>
    have starts : start m.char = some ([.mark m], .between) := by cases m <;> rfl
    rw [Token.text, List.singleton_append, lex_cons, starts]
    rfl
  | .leaf (.word w) =>
    obtain ⟨c, more, htext, starts, hmore⟩ : ∃ c more, w.text = c :: more ∧
        start c = some ([], .run .word [c]) ∧ ∀ d ∈ more, Run.word.admits d = true := by
      cases w
      · exact ⟨'n', ['u', 'l', 'l'], rfl, rfl, List.all_eq_true.mp rfl⟩
      · exact ⟨'t', ['r', 'u', 'e'], rfl, rfl, List.all_eq_true.mp rfl⟩
      · exact ⟨'f', ['a', 'l', 's', 'e'], rfl, rfl, List.all_eq_true.mp rfl⟩
    have found : Run.word.token w.text = some (.leaf (.word w)) := by cases w <;> rfl
    rw [Token.text, Leaf.text, htext, List.cons_append, lex_cons, starts]
    simp only [Option.bind_some, List.nil_append, Option.map_id']
    rw [lexFrom_run hmore separated, List.singleton_append, ← htext, found, Option.bind_some]
  | .leaf (.str body) =>
    have found : stringToken body.chars = some (.leaf (.str body)) :=
      dif_pos ⟨body.closed, body.valid⟩
    have starts : start '"' = some ([], .string false []) := rfl
    rw [Token.text, Leaf.text, List.cons_append, List.append_assoc, List.singleton_append, lex_cons,
      starts]
    simp only [Option.bind_some, List.nil_append, Option.map_id']
    rw [lexFrom_string body.closed, List.nil_append, found, Option.bind_some]
  | .leaf (.num n) =>
    obtain ⟨c, more, htext, first⟩ := isNumber_front n.valid
    have chars := isNumberChar_of_mem n.valid
    have found : Run.number.token n.text = some (.leaf (.num n)) := dif_pos n.valid
    rw [Token.text, Leaf.text, htext, List.cons_append, lex_cons, start_number first]
    simp only [Option.bind_some, List.nil_append, Option.map_id']
    have hmore : ∀ d ∈ more, Run.number.admits d = true :=
      fun d hd => chars d (htext ▸ .tail _ hd)
    rw [lexFrom_run hmore separated, List.singleton_append, ← htext, found, Option.bind_some]

theorem lex_of_written {raw : List Char} {tokens : List Token} (h : Written raw tokens) :
    lex raw = some tokens := by
  induction h with
  | nil => rfl
  | blank hc _ ih => rw [lex_blank hc, ih]
  | token t separated _ ih => rw [lex_append t separated, ih, Option.map_some]

theorem Run.text_of_token {kind : Run} {text : List Char} {t : Token}
    (h : kind.token text = some t) :
    t.text = text ∧ ∀ rest, Ends kind.admits rest → t.Separated rest := by
  cases kind with
  | number =>
    simp only [Run.token] at h
    split_ifs at h
    obtain rfl := Option.some.inj h
    exact ⟨rfl, fun _ ends => ends⟩
  | word =>
    obtain ⟨w, found, rfl⟩ := Option.map_eq_some_iff.mp h
    exact ⟨by simpa [Token.text, Leaf.text] using List.find?_some found, fun _ ends => ends⟩

theorem ends_dropWhile {α : Type} (p : α → Bool) (cs : List α) : Ends p (cs.dropWhile p) :=
  fun c h => by
    have first := List.head?_dropWhile_not p cs
    rw [h] at first
    simpa using first

/-- The text starts with a token. -/
def HasToken (raw : List Char) : Prop :=
  ∃ (t : Token) (rest : List Char),
    t.text ++ rest = raw ∧ rest.length < raw.length ∧ t.Separated rest

/-- A number or word that is read is the run of its characters. -/
theorem token_of_run {c : Char} {raw : List Char} {tokens : List Token} {kind : Run}
    (starts : start c = some ([], .run kind [c])) (h : lex (c :: raw) = some tokens) :
    HasToken (c :: raw) := by
  have goes_on : ∀ d ∈ raw.takeWhile kind.admits, kind.admits d = true :=
    List.all_eq_true.mp List.all_takeWhile
  have ends := ends_dropWhile kind.admits raw
  rw [lex_cons, starts, ← List.takeWhile_append_dropWhile (p := kind.admits) (l := raw)] at h
  simp only [Option.bind_some, List.nil_append, Option.map_id'] at h
  rw [lexFrom_run goes_on ends] at h
  obtain ⟨t, token, -⟩ := Option.bind_eq_some_iff.mp h
  obtain ⟨text, separated⟩ := Run.text_of_token token
  refine ⟨t, _, ?_, Nat.lt_succ_of_le (List.dropWhile_suffix kind.admits).length_le,
    separated _ ends⟩
  rw [text, List.cons_append, List.nil_append, List.cons_append, List.takeWhile_append_dropWhile]

theorem token_of_string {raw : List Char} {tokens : List Token}
    (h : lex ('"' :: raw) = some tokens) : HasToken ('"' :: raw) := by
  rw [lex_cons] at h
  obtain ⟨_, string, -⟩ := Option.map_eq_some_iff.mp h
  obtain ⟨more, rest, rfl, hclosed⟩ := exists_closed string
  rw [lexFrom_string hclosed, List.nil_append] at string
  obtain ⟨t, token, -⟩ := Option.bind_eq_some_iff.mp string
  unfold stringToken at token
  split_ifs at token with valid
  have whole : (Token.leaf (.str ⟨more, valid.1, valid.2⟩)).text ++ rest =
      '"' :: (more ++ '"' :: rest) := by
    simp [Token.text, Leaf.text]
  refine ⟨_, rest, whole, ?_, trivial⟩
  rw [List.length_cons, List.length_append, List.length_cons]
  omega

/-- What is read of a text that does not start with a blank starts with a token. -/
theorem exists_token {c : Char} {raw : List Char} {tokens : List Token}
    (solid : isBlank c ≠ true) (h : lex (c :: raw) = some tokens) : HasToken (c :: raw) := by
  by_cases quote : c = '"'
  · subst quote
    exact token_of_string h
  by_cases number : c = '-' ∨ c.isDigit = true
  · exact token_of_run (start_number number) h
  by_cases letter : isLetter c = true
  · have starts : start c = some ([], .run .word [c]) := by
      rw [start, if_neg solid, if_neg quote, if_neg number, if_pos letter]
    exact token_of_run starts h
  have starts : start c = (markOf c).map fun m => ([.mark m], .between) := by
    rw [start, if_neg solid, if_neg quote, if_neg number, if_neg letter]
  rw [lex_cons, starts] at h
  obtain ⟨_, hmark, -⟩ := Option.bind_eq_some_iff.mp h
  obtain ⟨m, found, -⟩ := Option.map_eq_some_iff.mp hmark
  have char : m.char = c := by simpa using List.find?_some found
  exact ⟨.mark m, raw, by rw [Token.text, char]; rfl, Nat.lt_succ_self _, trivial⟩

/-- The tokens of a text are the ones it is written with. -/
theorem written_of_lex {raw : List Char} {tokens : List Token} (h : lex raw = some tokens) :
    Written raw tokens := by
  induction hlength : raw.length using Nat.strongRecOn generalizing raw tokens with
  | ind n ih =>
    subst hlength
    cases raw with
    | nil =>
      obtain rfl := Option.some.inj h
      exact .nil
    | cons c raw =>
      by_cases blank : isBlank c = true
      · rw [lex_blank blank] at h
        exact .blank blank (ih _ (Nat.lt_succ_self _) h rfl)
      · obtain ⟨t, rest, whole, shorter, separated⟩ := exists_token blank h
        rw [← whole, lex_append t separated] at h
        obtain ⟨others, found, rfl⟩ := Option.map_eq_some_iff.mp h
        rw [← whole]
        exact .token t separated (ih _ shorter found rfl)

theorem lex_eq_some_iff {raw : List Char} {tokens : List Token} :
    lex raw = some tokens ↔ Written raw tokens := ⟨written_of_lex, lex_of_written⟩

/-! ## Trees -/

/-- An object is the list of its fields as they are written. -/
inductive Tree where
  | leaf (l : Leaf)
  | arr (items : List Tree)
  | obj (fields : List (Body × Tree))

mutual

def Tree.tokens : Tree → List Token
  | .leaf l => [.leaf l]
  | .arr items => .mark .beginArray :: (itemTokens items ++ [.mark .endArray])
  | .obj fields => .mark .beginObject :: (fieldTokens fields ++ [.mark .endObject])

/-- The items with commas between them. -/
def itemTokens : List Tree → List Token
  | [] => []
  | [item] => item.tokens
  | item :: items => item.tokens ++ .mark .comma :: itemTokens items

def fieldTokens : List (Body × Tree) → List Token
  | [] => []
  | [(key, value)] => .leaf (.str key) :: .mark .colon :: value.tokens
  | (key, value) :: fields =>
    .leaf (.str key) :: .mark .colon :: (value.tokens ++ .mark .comma :: fieldTokens fields)

end

/-! ## The parser -/

/-- What is open around a value: an array with its items before, or an object with its fields
before and the key of the value. -/
inductive Frame where
  | arr (before : List Tree)
  | obj (before : List (Body × Tree)) (key : Body)

/-- What the machine expects: a value; a value or the end of an array; a key or the end of an
object; a key; the colon after a key; or what follows a value. -/
inductive ParseState where
  | value (stack : List Frame)
  | items (stack : List Frame)
  | fields (stack : List Frame)
  | key (before : List (Body × Tree)) (stack : List Frame)
  | colon (before : List (Body × Tree)) (key : Body) (stack : List Frame)
  | done (tree : Tree) (stack : List Frame)

def parseValue (stack : List Frame) : Token → Option ParseState
  | .leaf l => some (.done (.leaf l) stack)
  | .mark .beginArray => some (.items stack)
  | .mark .beginObject => some (.fields stack)
  | _ => none

def parseStep : ParseState → Token → Option ParseState
  | .value stack, t => parseValue stack t
  | .items stack, .mark .endArray => some (.done (.arr []) stack)
  | .items stack, t => parseValue (.arr [] :: stack) t
  | .fields stack, .mark .endObject => some (.done (.obj []) stack)
  | .fields stack, .leaf (.str key) => some (.colon [] key stack)
  | .key before stack, .leaf (.str key) => some (.colon before key stack)
  | .colon before key stack, .mark .colon => some (.value (.obj before key :: stack))
  | .done tree (.arr before :: stack), .mark .comma =>
    some (.value (.arr (before ++ [tree]) :: stack))
  | .done tree (.arr before :: stack), .mark .endArray =>
    some (.done (.arr (before ++ [tree])) stack)
  | .done tree (.obj before key :: stack), .mark .comma =>
    some (.key (before ++ [(key, tree)]) stack)
  | .done tree (.obj before key :: stack), .mark .endObject =>
    some (.done (.obj (before ++ [(key, tree)])) stack)
  | _, _ => none

def parseFrom : ParseState → List Token → Option Tree
  | .done tree [], [] => some tree
  | _, [] => none
  | s, t :: tokens => (parseStep s t).bind fun s => parseFrom s tokens

def parse (tokens : List Token) : Option Tree := parseFrom (.value []) tokens

/-! ## The tokens that have been read -/

/-- The items with a comma after each. -/
def itemsBefore (items : List Tree) : List Token :=
  items.flatMap fun item => item.tokens ++ [.mark .comma]

def fieldsBefore (fields : List (Body × Tree)) : List Token :=
  fields.flatMap fun (key, value) =>
    .leaf (.str key) :: .mark .colon :: (value.tokens ++ [.mark .comma])

theorem itemTokens_append (before : List Tree) (item : Tree) (items : List Tree) :
    itemTokens (before ++ item :: items) = itemsBefore before ++ itemTokens (item :: items) := by
  induction before with
  | nil => rfl
  | cons first before ih =>
    have more : before ++ item :: items ≠ [] := List.append_ne_nil_of_right_ne_nil _ (by simp)
    rw [List.cons_append, itemTokens.eq_3 _ _ more, ih]
    simp [itemsBefore]

theorem fieldTokens_append (before : List (Body × Tree)) (field : Body × Tree)
    (fields : List (Body × Tree)) :
    fieldTokens (before ++ field :: fields) =
      fieldsBefore before ++ fieldTokens (field :: fields) := by
  induction before with
  | nil => rfl
  | cons first before ih =>
    have more : before ++ field :: fields ≠ [] := List.append_ne_nil_of_right_ne_nil _ (by simp)
    rw [List.cons_append, fieldTokens.eq_3 _ _ _ more, ih]
    simp [fieldsBefore]

def Frame.tokens : Frame → List Token
  | arr before => .mark .beginArray :: itemsBefore before
  | obj before key =>
    .mark .beginObject :: (fieldsBefore before ++ [.leaf (.str key), .mark .colon])

def stackTokens (stack : List Frame) : List Token := stack.reverse.flatMap Frame.tokens

@[simp] theorem stackTokens_cons (frame : Frame) (stack : List Frame) :
    stackTokens (frame :: stack) = stackTokens stack ++ frame.tokens := by
  simp [stackTokens]

/-- The tokens that have led to a state. -/
def ParseState.consumed : ParseState → List Token
  | value stack => stackTokens stack
  | items stack => stackTokens stack ++ [.mark .beginArray]
  | fields stack => stackTokens stack ++ [.mark .beginObject]
  | key before stack => stackTokens stack ++ .mark .beginObject :: fieldsBefore before
  | colon before name stack =>
    stackTokens stack ++ .mark .beginObject :: (fieldsBefore before ++ [.leaf (.str name)])
  | done tree stack => stackTokens stack ++ tree.tokens

theorem consumed_parseStep {s s' : ParseState} {t : Token} (h : parseStep s t = some s') :
    s'.consumed = s.consumed ++ [t] := by
  have value {stack : List Frame} {t : Token} {s' : ParseState}
      (h : parseValue stack t = some s') : s'.consumed = stackTokens stack ++ [t] := by
    unfold parseValue at h
    split at h <;> cases h <;> simp [ParseState.consumed, Tree.tokens]
  have item (before : List Tree) (tree : Tree) :
      itemTokens (before ++ [tree]) = itemsBefore before ++ tree.tokens :=
    itemTokens_append before tree []
  have field (before : List (Body × Tree)) (key : Body) (tree : Tree) :
      fieldTokens (before ++ [(key, tree)]) =
        fieldsBefore before ++ .leaf (.str key) :: .mark .colon :: tree.tokens :=
    fieldTokens_append before (key, tree) []
  unfold parseStep at h
  split at h
  case h_1 => exact value h
  case h_3 =>
    rw [value h]
    simp [ParseState.consumed, Frame.tokens, itemsBefore]
  all_goals cases h
  all_goals
    simp [ParseState.consumed, Frame.tokens, Tree.tokens, item, field, itemTokens, fieldTokens,
      itemsBefore, fieldsBefore]

theorem consumed_parseFrom {s : ParseState} {tokens : List Token} {tree : Tree}
    (h : parseFrom s tokens = some tree) : s.consumed ++ tokens = tree.tokens := by
  induction tokens generalizing s with
  | nil =>
    unfold parseFrom at h
    split at h
    · cases h
      simp [ParseState.consumed, stackTokens]
    · cases h
    · next h' => cases h'
  | cons t tokens ih =>
    obtain ⟨s', step, rest⟩ := Option.bind_eq_some_iff.mp (by simpa [parseFrom] using h)
    rw [← ih rest, consumed_parseStep step, List.append_assoc, List.singleton_append]

/-! ## Every tree is read -/

/-- No item starts with the end of an array. -/
theorem itemTokens_front (item : Tree) (items : List Tree) :
    ∃ t tokens, itemTokens (item :: items) = t :: tokens ∧ t ≠ .mark .endArray := by
  obtain ⟨t, tokens, front, other⟩ : ∃ t tokens, item.tokens = t :: tokens ∧
      t ≠ .mark .endArray := by
    cases item <;> exact ⟨_, _, rfl, nofun⟩
  cases items with
  | nil => exact ⟨t, tokens, front, other⟩
  | cons next items => exact ⟨t, _, by rw [itemTokens, front, List.cons_append]; simp, other⟩

theorem parseFrom_cons {s s' : ParseState} {t : Token} (h : parseStep s t = some s')
    (tokens : List Token) : parseFrom s (t :: tokens) = parseFrom s' tokens := by
  simp [parseFrom, h]

mutual

theorem parseFrom_value (stack : List Frame) (rest : List Token) : ∀ tree : Tree,
    parseFrom (.value stack) (tree.tokens ++ rest) = parseFrom (.done tree stack) rest
  | .leaf l => by
    rw [Tree.tokens, List.singleton_append]
    exact parseFrom_cons rfl rest
  | .arr [] => by
    rw [Tree.tokens, itemTokens, List.nil_append, List.cons_append, List.singleton_append,
      parseFrom_cons rfl]
    exact parseFrom_cons rfl rest
  | .arr (item :: items) => by
    have first : parseFrom (.items stack)
        (itemTokens (item :: items) ++ .mark .endArray :: rest) =
        parseFrom (.value (.arr [] :: stack))
          (itemTokens (item :: items) ++ .mark .endArray :: rest) := by
      obtain ⟨t, tokens, front, other⟩ := itemTokens_front item items
      rw [front, List.cons_append, parseFrom, parseFrom, parseStep.eq_3 _ _ other]
      rfl
    rw [Tree.tokens, List.cons_append, List.append_assoc, List.singleton_append,
      parseFrom_cons rfl, first]
    exact parseFrom_items stack rest [] (item :: items) (List.cons_ne_nil _ _)
  | .obj [] => by
    rw [Tree.tokens, fieldTokens, List.nil_append, List.cons_append, List.singleton_append,
      parseFrom_cons rfl]
    exact parseFrom_cons rfl rest
  | .obj ((key, value) :: fields) => by
    have first : parseFrom (.fields stack)
        (fieldTokens ((key, value) :: fields) ++ .mark .endObject :: rest) =
        parseFrom (.key [] stack)
          (fieldTokens ((key, value) :: fields) ++ .mark .endObject :: rest) := by
      cases fields <;> rfl
    rw [Tree.tokens, List.cons_append, List.append_assoc, List.singleton_append,
      parseFrom_cons rfl, first]
    exact parseFrom_fields stack rest [] ((key, value) :: fields) (List.cons_ne_nil _ _)

theorem parseFrom_items (stack : List Frame) (rest : List Token) (before : List Tree) :
    ∀ items : List Tree, items ≠ [] →
      parseFrom (.value (.arr before :: stack)) (itemTokens items ++ .mark .endArray :: rest) =
        parseFrom (.done (.arr (before ++ items)) stack) rest
  | [], h => absurd rfl h
  | [item], _ => by
    rw [itemTokens, parseFrom_value _ _ item]
    exact parseFrom_cons rfl rest
  | item :: next :: items, _ => by
    have more := parseFrom_items stack rest (before ++ [item]) (next :: items)
      (List.cons_ne_nil _ _)
    rw [List.append_assoc, List.singleton_append] at more
    rw [itemTokens, List.append_assoc, parseFrom_value _ _ item, List.cons_append,
      parseFrom_cons rfl, more]
    exact List.cons_ne_nil _ _

theorem parseFrom_fields (stack : List Frame) (rest : List Token) (before : List (Body × Tree)) :
    ∀ fields : List (Body × Tree), fields ≠ [] →
      parseFrom (.key before stack) (fieldTokens fields ++ .mark .endObject :: rest) =
        parseFrom (.done (.obj (before ++ fields)) stack) rest
  | [], h => absurd rfl h
  | [(key, value)], _ => by
    rw [fieldTokens, List.cons_append, parseFrom_cons rfl, List.cons_append, parseFrom_cons rfl,
      parseFrom_value _ _ value]
    exact parseFrom_cons rfl rest
  | (key, value) :: next :: fields, _ => by
    have more := parseFrom_fields stack rest (before ++ [(key, value)]) (next :: fields)
      (List.cons_ne_nil _ _)
    rw [List.append_assoc, List.singleton_append] at more
    rw [fieldTokens, List.cons_append, parseFrom_cons rfl, List.cons_append, parseFrom_cons rfl,
      List.append_assoc, parseFrom_value _ _ value, List.cons_append, parseFrom_cons rfl, more]
    exact List.cons_ne_nil _ _

end

/-- The trees are read from their tokens and from nothing else. -/
theorem parse_eq_some_iff {tokens : List Token} {tree : Tree} :
    parse tokens = some tree ↔ tree.tokens = tokens := by
  constructor
  · intro h
    exact (consumed_parseFrom h).symm
  · rintro rfl
    have whole := parseFrom_value [] [] tree
    rw [List.append_nil] at whole
    rw [parse, whole]
    rfl

/-- The tree of a text. -/
def read (raw : List Char) : Option Tree := (lex raw).bind parse

theorem read_eq_some_iff {raw : List Char} {tree : Tree} :
    read raw = some tree ↔ Written raw tree.tokens := by
  unfold read
  rw [Option.bind_eq_some_iff]
  simp only [lex_eq_some_iff, parse_eq_some_iff]
  constructor
  · rintro ⟨_, written, rfl⟩
    exact written
  · intro written
    exact ⟨_, written, rfl⟩

/-! ## Values -/

/-- The values of a text, with numbers of type `ν`; a string is its code units. -/
inductive Value (ν : Type) where
  | null
  | bool (b : Bool)
  | number (n : ν)
  | string (units : List Nat)
  | array (items : List (Value ν))
  | object (fields : List (List Nat × Value ν))

section

variable {ν : Type} (number : Number → Value ν)

def Leaf.value : Leaf → Value ν
  | word .null => .null
  | word .true => .bool true
  | word .false => .bool false
  | str body => .string body.units
  | num n => number n

mutual

/-- The value of a tree, given those of its numbers. The last of the fields with a key counts. -/
def Tree.value : Tree → Value ν
  | .leaf l => l.value number
  | .arr items => .array (itemValues items)
  | .obj fields => .object (Fields.build (fieldValues fields))

def itemValues : List Tree → List (Value ν)
  | [] => []
  | item :: items => item.value :: itemValues items

def fieldValues : List (Body × Tree) → List (List Nat × Value ν)
  | [] => []
  | (key, value) :: fields => (key.units, value.value) :: fieldValues fields

end

end

section

variable (f : Leaf → Leaf)

mutual

/-- The tree with other leaves. -/
def Tree.map : Tree → Tree
  | .leaf l => .leaf (f l)
  | .arr items => .arr (mapItems items)
  | .obj fields => .obj (mapFields fields)

def mapItems : List Tree → List Tree
  | [] => []
  | item :: items => item.map :: mapItems items

def mapFields : List (Body × Tree) → List (Body × Tree)
  | [] => []
  | (key, value) :: fields => (key, value.map) :: mapFields fields

end

def Token.map : Token → Token
  | mark m => .mark m
  | leaf l => .leaf (f l)

variable {f}

mutual

theorem tokens_map (keys : ∀ body, f (.str body) = .str body) :
    ∀ tree : Tree, (tree.map f).tokens = tree.tokens.map (Token.map f)
  | .leaf l => rfl
  | .arr items => by
    simp [Tree.map, Tree.tokens, itemTokens_map keys items, Token.map]
  | .obj fields => by
    simp [Tree.map, Tree.tokens, fieldTokens_map keys fields, Token.map]

theorem itemTokens_map (keys : ∀ body, f (.str body) = .str body) : ∀ items : List Tree,
    itemTokens (mapItems f items) = (itemTokens items).map (Token.map f)
  | [] => rfl
  | [item] => by
    simp [mapItems, itemTokens, tokens_map keys item]
  | item :: next :: items => by
    have more := itemTokens_map keys (next :: items)
    rw [mapItems] at more
    simp [mapItems, itemTokens, tokens_map keys item, more, Token.map]

theorem fieldTokens_map (keys : ∀ body, f (.str body) = .str body) :
    ∀ fields : List (Body × Tree),
    fieldTokens (mapFields f fields) = (fieldTokens fields).map (Token.map f)
  | [] => rfl
  | [(key, value)] => by
    simp [mapFields, fieldTokens, tokens_map keys value, Token.map, keys]
  | (key, value) :: (key', value') :: fields => by
    have more := fieldTokens_map keys ((key', value') :: fields)
    rw [mapFields] at more
    simp [mapFields, fieldTokens, tokens_map keys value, more, Token.map, keys]

end

variable {ν : Type} {number number' : Number → Value ν}

mutual

/-- Other leaves with the same values. -/
theorem value_map (values : ∀ l, (f l).value number = l.value number') :
    ∀ tree : Tree, (tree.map f).value number = tree.value number'
  | .leaf l => values l
  | .arr items => congrArg Value.array (itemValues_map values items)
  | .obj fields => congrArg (Value.object ∘ Fields.build) (fieldValues_map values fields)

theorem itemValues_map (values : ∀ l, (f l).value number = l.value number') :
    ∀ items : List Tree,
    itemValues number (mapItems f items) = itemValues number' items
  | [] => rfl
  | item :: items => congrArg₂ List.cons (value_map values item) (itemValues_map values items)

theorem fieldValues_map (values : ∀ l, (f l).value number = l.value number') :
    ∀ fields : List (Body × Tree),
    fieldValues number (mapFields f fields) = fieldValues number' fields
  | [] => rfl
  | (key, value) :: fields => by
    rw [mapFields, fieldValues, fieldValues, value_map values value, fieldValues_map values fields]

end

end

end JsonSyntax
