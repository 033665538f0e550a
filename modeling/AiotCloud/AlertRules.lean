import AiotCloud.Ingress
import AiotCloud.Lib.JsNumber
import AiotCloud.Lib.Regex

/-!
# The rules of alerts

`parseAlertPayload` reads the rule of an alert as a fixed threshold with an action, and if that
fails as the result of the gateway's anomaly detector. Both forms are read by regular expressions
in which a lazy field stands next to operators that share their first characters.

1. `exec_alertRule`, `exec_anomalyRule`: what is captured in a text of the form.
2. `alert_rules_read_back`: both forms, and the payload.
-/

open JsNumber

namespace AiotCloud.Ingress

open Regex

/-! ## Reading a rule -/

/-- `text.slice(0, i)` and `text.slice(i + 1)` for `i = text.indexOf(separator)`, unless it
is `-1`. -/
def cutAt (separator : Char) (text : List Char) : Option (List Char × List Char) :=
  (text.idxOf? separator).map fun i => (text.take i, text.drop (i + 1))

structure ChannelStateMessage where
  key : String
  value : String
deriving DecidableEq, Repr

def parseChannelStateMessage : Json → Option ChannelStateMessage
  | .string message =>
    match cutAt '=' message.toList with
    | none | some ([], _) => none
    | some (front, back) =>
      let key := jsTrim (String.ofList front)
      let value := jsTrim (String.ofList back)
      if key ≠ "" ∧ value ≠ "" then some ⟨key, value⟩ else none
  | _ => none

/-- `-?\d+(?:\.\d+)?` -/
def decimalPattern : Pattern Char :=
  .seq (opt (word ['-'])) (.seq (plus true Char.isDigit)
    (opt (.seq (word ['.']) (plus true Char.isDigit))))

/-- `[<>=!]` -/
def isOperatorChar (c : Char) : Bool := c = '<' || c = '>' || c = '=' || c = '!'

/-- `>=|<=|==|!=|>|<` -/
def operatorPattern : Pattern Char :=
  .alt (word ['>', '=']) (.alt (word ['<', '=']) (.alt (word ['=', '='])
    (.alt (word ['!', '=']) (.alt (word ['>']) (word ['<'])))))

/-- `/^([^.]+)\.([^<>=!]+?)\s*(>=|<=|==|!=|>|<)\s*(-?\d+(?:\.\d+)?)$/` -/
def alertRuleRegex : List (Segment Char) :=
  [group (plus true (· ≠ '.')), skip (word ['.']), group (plus false (!isOperatorChar ·)),
    skip (.many true isJsSpace), group operatorPattern, skip (.many true isJsSpace),
    group decimalPattern]

/-- `/^([^.]+)\.(\S+)\s+z=(…)\s*\(mean=(…),\s*stddev=(…)\)$/`, each time with a decimal. -/
def anomalyRuleRegex : List (Segment Char) :=
  [group (plus true (· ≠ '.')), skip (word ['.']), group (plus true (!isJsSpace ·)),
    skip (plus true isJsSpace), skip (word ['z', '=']), group decimalPattern,
    skip (.many true isJsSpace), skip (word ['(', 'm', 'e', 'a', 'n', '=']), group decimalPattern,
    skip (word [',']), skip (.many true isJsSpace), skip (word ['s', 't', 'd', 'd', 'e', 'v', '=']),
    group decimalPattern, skip (word [')'])]

structure ParsedAlertRule where
  metric : String
  field : String
  operator : String
  threshold : Value
  action : Option ChannelStateMessage
deriving DecidableEq, Repr

structure ParsedAnomalyRule where
  metric : String
  field : String
  z : Value
  mean : Value
  stdDev : Value
deriving DecidableEq, Repr

/-- The action of a rule: the keyword `none` and a text of another shape are no action. -/
def parseAction (actionText : Option String) : Option ChannelStateMessage :=
  match actionText with
  | some text =>
    if text ≠ "" ∧ jsToLowerCase text ≠ "none" then parseChannelStateMessage (.string text)
    else none
  | none => none

/-- `condition` and `actionText`. -/
def splitRule (rule : String) : List Char × Option String :=
  match cutAt ':' rule.toList with
  | none => (rule.toList, none)
  | some (condition, action) => (condition, some (jsTrim (String.ofList action)))

def parseAlertRule (rule : String) : Option ParsedAlertRule :=
  let (condition, actionText) := splitRule rule
  match Regex.exec alertRuleRegex (TextItems.trim isJsSpace condition) with
  | some [metric, field, operator, threshold] =>
    let threshold := number isJsSpace threshold
    if threshold = .nan then none
    else some
      { metric := String.ofList metric
        field := String.ofList field
        operator := String.ofList operator
        threshold := threshold
        action := parseAction actionText }
  | _ => none

def parseAnomalyRule (rule : String) : Option ParsedAnomalyRule :=
  match Regex.exec anomalyRuleRegex (TextItems.trim isJsSpace rule.toList) with
  | some [metric, field, z, mean, stdDev] =>
    let z := number isJsSpace z
    let mean := number isJsSpace mean
    let stdDev := number isJsSpace stdDev
    if z = .nan ∨ mean = .nan ∨ stdDev = .nan then none
    else some
      { metric := String.ofList metric
        field := String.ofList field
        z := z
        mean := mean
        stdDev := stdDev }
  | _ => none

/-! ## Payloads -/

structure AlertPayload where
  message : String
  channels : Option (List NotificationChannelType)
deriving DecidableEq, Repr

/-- How values are written into a message. -/
structure AlertTexts where
  /-- `${readingRecord?.[field] ?? '?'}` -/
  reading : Option Json → String → Js String
  number : Value → String
  /-- `toFixed(2)` -/
  toFixed : Value → String

/-- The trimmed text of a string that is not blank. -/
def nonBlank : Option Json → Option String
  | some (.string text) => if jsTrim text = "" then none else some (jsTrim text)
  | _ => none

def channelOf : Json → Option NotificationChannelType
  | .string "ZALO" => some .zalo
  | .string "WEB_PUSH" => some .webPush
  | _ => none

/-- The channels that exist, unless there are none. -/
def resolvedChannels : Option Json → Option (List NotificationChannelType)
  | some (.array channels) =>
    let validChannels := channels.filterMap channelOf
    if validChannels = [] then none else some validChannels
  | _ => none

def readingRecord : Option Json → Option Json
  | some (.object fields) => some (.object fields)
  | some (.array items) => some (.array items)
  | _ => none

def metricLabel (metric : Option Json) (parsed : String) : String :=
  match metric with
  | some (.string label) => if label = "" then parsed else label
  | _ => parsed

variable (texts : AlertTexts) (payload : Json)

/-- The message of a fixed threshold. -/
def renderAlertRule (parsed : ParsedAlertRule) : Js (Option AlertPayload) := do
  let value ← texts.reading (readingRecord (field "reading" payload)) parsed.field
  let actionText :=
    match parsed.action with
    | some action => " → " ++ action.key ++ "=" ++ action.value
    | none => ""
  return some
    { message := metricLabel (field "metric" payload) parsed.metric ++ "." ++ parsed.field ++
        " = " ++ value ++ " (quy tắc: " ++ parsed.field ++ " " ++ parsed.operator ++ " " ++
        texts.number parsed.threshold ++ ")" ++ actionText
      channels := resolvedChannels (field "channels" payload) }

/-- The message of an anomaly. -/
def renderAnomalyRule (parsed : ParsedAnomalyRule) : Js (Option AlertPayload) := do
  let value ← texts.reading (readingRecord (field "reading" payload)) parsed.field
  return some
    { message := metricLabel (field "metric" payload) parsed.metric ++ "." ++ parsed.field ++
        " = " ++ value ++ " bất thường (z=" ++ texts.toFixed parsed.z ++ ", trung bình=" ++
        texts.number parsed.mean ++ ", độ lệch chuẩn=" ++ texts.number parsed.stdDev ++ ")"
      channels := resolvedChannels (field "channels" payload) }

/-- A value without fields has neither a message nor a rule. -/
def parseAlertPayload : Js (Option AlertPayload) :=
  match nonBlank (field "message" payload) with
  | some message =>
    .ok (some ⟨message, resolvedChannels (field "channels" payload)⟩)
  | none =>
    match nonBlank (field "rule" payload) with
    | none => .ok none
    | some trimmedRule =>
      match parseAlertRule trimmedRule with
      | some parsed => renderAlertRule texts payload parsed
      | none =>
        match parseAnomalyRule trimmedRule with
        | some parsed => renderAnomalyRule texts payload parsed
        | none => .ok none

/-! ## Patterns -/

/-- The characters of a decimal. -/
def isDecimalChar (c : Char) : Bool := c.isDigit || c = '-' || c = '.'

theorem decimalPattern_matches {text : List Char} :
    decimalPattern.Matches text ↔ ∃ d : Decimal, d.text = text := by
  constructor
  · rintro ⟨sign, _, hsign, ⟨int, fraction, hint, hfraction, rfl⟩, rfl⟩
    obtain ⟨negative, rfl⟩ : ∃ negative : Bool, sign = if negative then ['-'] else [] := by
      rcases opt_matches.mp hsign with h | rfl
      · exact ⟨true, word_matches.mp h⟩
      · exact ⟨false, rfl⟩
    rcases opt_matches.mp hfraction with ⟨_, ds, hpoint, hds, rfl⟩ | rfl
    · rw [word_matches.mp hpoint]
      refine ⟨⟨negative, int, some ds, plus_matches.mp hint, ?_⟩, ?_⟩
      · rintro _ ⟨⟩
        exact plus_matches.mp hds
      · cases negative <;> rfl
    · refine ⟨⟨negative, int, none, plus_matches.mp hint, nofun⟩, ?_⟩
      cases negative <;> rfl
  · rintro ⟨d, rfl⟩
    have sign : (opt (word ['-'])).Matches (if d.negative then ['-'] else []) := by
      split_ifs
      · exact .inl (word_matches.mpr rfl)
      · exact .inr rfl
    refine ⟨_, _, sign, ⟨d.int, d.fractionText, plus_matches.mpr d.int_digits, ?_, rfl⟩, ?_⟩
    · unfold Decimal.fractionText
      split
      · exact .inr rfl
      · next ds h =>
        exact .inl ⟨['.'], ds, word_matches.mpr rfl,
          plus_matches.mpr (d.fraction_digits ds (by rw [h]; rfl)), rfl⟩
    · unfold Decimal.text Decimal.magnitudeText
      split_ifs <;> rfl

theorem isDecimalChar_of_mem {d : Decimal} {c : Char} (h : c ∈ d.text) :
    isDecimalChar c = true := by
  have digit {c : Char} (h : c.isDigit = true) : isDecimalChar c = true := by
    rw [isDecimalChar, h]
    rfl
  have magnitude : ∀ c ∈ d.magnitudeText, isDecimalChar c = true := by
    intro c hc
    rcases List.mem_append.mp hc with hint | hfraction
    · exact digit (d.int_digits.2 c hint)
    · unfold Decimal.fractionText at hfraction
      split at hfraction
      · cases hfraction
      · next ds hds =>
        rcases List.mem_cons.mp hfraction with rfl | hmem
        · rfl
        · exact digit ((d.fraction_digits ds (by rw [hds]; rfl)).2 c hmem)
  unfold Decimal.text at h
  split_ifs at h
  · rcases List.mem_cons.mp h with rfl | h
    · rfl
    · exact magnitude c h
  · exact magnitude c h

/-- A decimal is read up to the character that ends it. -/
theorem decimal_unique {d d' : Decimal} {rest rest' : List Char} (ends : Ends isDecimalChar rest)
    (ends' : Ends isDecimalChar rest') (same : d'.text ++ rest' = d.text ++ rest) :
    d'.text = d.text ∧ rest' = rest :=
  run_unique (fun _ => isDecimalChar_of_mem) (fun _ => isDecimalChar_of_mem) ends' ends same

inductive RuleOperator where
  | ge
  | le
  | eq
  | ne
  | gt
  | lt
deriving DecidableEq, Repr

def RuleOperator.text : RuleOperator → List Char
  | ge => ['>', '=']
  | le => ['<', '=']
  | eq => ['=', '=']
  | ne => ['!', '=']
  | gt => ['>']
  | lt => ['<']

theorem operatorPattern_matches {text : List Char} :
    operatorPattern.Matches text ↔ ∃ operator : RuleOperator, operator.text = text := by
  simp only [operatorPattern, Pattern.Matches, word_matches]
  constructor
  · rintro (rfl | rfl | rfl | rfl | rfl | rfl)
    exacts [⟨.ge, rfl⟩, ⟨.le, rfl⟩, ⟨.eq, rfl⟩, ⟨.ne, rfl⟩, ⟨.gt, rfl⟩, ⟨.lt, rfl⟩]
  · rintro ⟨operator, rfl⟩
    cases operator <;> simp [RuleOperator.text]

/-! ## Rules as they are written -/

/-- The metric that a rule starts with. -/
structure RuleMetric where
  text : List Char
  ne_nil : text ≠ []
  unseparated : ∀ c ∈ text, c ≠ '.' ∧ c ≠ ':'
  front : Ends isJsSpace text

/-- The action `<key>=<value>`. -/
structure ChannelAssignment where
  key : List Char
  value : List Char
  key_clean : TextItems.Clean isJsSpace '=' key
  value_ne : value ≠ []
  value_trimmed : TextItems.trim isJsSpace value = value

inductive RuleAction where
  | keyword
  | assign (assignment : ChannelAssignment)

def RuleAction.text : RuleAction → List Char
  | keyword => "none".toList
  | assign assignment => assignment.key ++ '=' :: assignment.value

def RuleAction.parsed : RuleAction → Option ChannelStateMessage
  | keyword => none
  | assign assignment => some ⟨String.ofList assignment.key, String.ofList assignment.value⟩

/-- A rule `<metric>.<field><op><threshold>[:<action>]`. -/
structure AlertRule where
  metric : RuleMetric
  field : List Char
  operator : RuleOperator
  threshold : Decimal
  action : Option RuleAction
  field_ne : field ≠ []
  field_chars : ∀ c ∈ field, isOperatorChar c = false ∧ c ≠ ':'
  field_trimmed : TextItems.trim isJsSpace field = field

namespace AlertRule

variable (rule : AlertRule)

def condition : List Char :=
  rule.metric.text ++ '.' :: (rule.field ++ (rule.operator.text ++ rule.threshold.text))

def chars : List Char :=
  match rule.action with
  | none => rule.condition
  | some action => rule.condition ++ ':' :: action.text

def text : String := String.ofList rule.chars

def parsed : ParsedAlertRule where
  metric := String.ofList rule.metric.text
  field := String.ofList rule.field
  operator := String.ofList rule.operator.text
  threshold := rule.threshold.value
  action := rule.action.bind RuleAction.parsed

end AlertRule

/-- A rule `<metric>.<field> z=<z> (mean=<mean>, stddev=<stddev>)`. -/
structure AnomalyRule where
  metric : RuleMetric
  field : List Char
  z : Decimal
  mean : Decimal
  stdDev : Decimal
  field_ne : field ≠ []
  field_chars : ∀ c ∈ field, isJsSpace c = false ∧ c ≠ ':'

namespace AnomalyRule

variable (rule : AnomalyRule)

/-- What follows the field. -/
def statistics : List Char :=
  ' ' :: (['z', '='] ++ (rule.z.text ++ ' ' :: (['(', 'm', 'e', 'a', 'n', '='] ++ (rule.mean.text ++
    ',' :: ' ' :: (['s', 't', 'd', 'd', 'e', 'v', '='] ++ (rule.stdDev.text ++ [')']))))))

def chars : List Char := rule.metric.text ++ '.' :: (rule.field ++ rule.statistics)

def text : String := String.ofList rule.chars

def parsed : ParsedAnomalyRule where
  metric := String.ofList rule.metric.text
  field := String.ofList rule.field
  z := rule.z.value
  mean := rule.mean.value
  stdDev := rule.stdDev.value

end AnomalyRule

/-! ## Unambiguous texts -/

theorem RuleMetric.unique (metric : RuleMetric) {text rest rest' : List Char}
    (h : (plus true (fun c : Char => decide (c ≠ '.'))).Matches text)
    (same : text ++ '.' :: rest' = metric.text ++ '.' :: rest) :
    text = metric.text ∧ rest' = rest := by
  obtain ⟨rfl, tails⟩ := run_unique (plus_matches.mp h).2
    (fun c hc => decide_eq_true (metric.unseparated c hc).1) (ends_cons.mpr rfl)
    (ends_cons.mpr rfl) same
  exact ⟨rfl, (List.cons_eq_cons.mp tails).2⟩

theorem isOperatorChar_of_mem {operator : RuleOperator} {c : Char} (h : c ∈ operator.text) :
    isOperatorChar c = true := by
  have all : ∀ operator : RuleOperator, operator.text.all isOperatorChar = true := by
    rintro (_ | _ | _ | _ | _ | _) <;> rfl
  exact List.all_eq_true.mp (all operator) c h

theorem RuleOperator.front (operator : RuleOperator) (rest : List Char) :
    Ends (!isOperatorChar ·) (operator.text ++ rest) := by
  cases operator <;> exact ends_cons.mpr rfl

theorem isOperatorChar_iff {c : Char} :
    isOperatorChar c = true ↔ c = '<' ∨ c = '>' ∨ c = '=' ∨ c = '!' := by
  simp [isOperatorChar, or_assoc]

theorem not_isOperatorChar_of_blank {c : Char} (h : isJsSpace c = true) :
    isOperatorChar c = false := by
  rw [← Bool.not_eq_true, isOperatorChar_iff]
  rintro (rfl | rfl | rfl | rfl) <;> cases h

theorem not_isOperatorChar_digit (c : Char) (h : c.isDigit) : isOperatorChar c = false := by
  rw [← Bool.not_eq_true, isOperatorChar_iff]
  rintro (rfl | rfl | rfl | rfl) <;> cases h

/-- A decimal starts with a digit or its sign. -/
theorem decimal_front (d : Decimal) {p : Char → Bool} (digit : ∀ c : Char, c.isDigit → p c = false)
    (minus : p '-' = false) : Ends p d.text := by
  obtain ⟨c, cs, hc, hmagnitude⟩ := d.magnitudeText_eq_cons
  unfold Decimal.text
  split_ifs
  · exact ends_cons.mpr minus
  · rw [hmagnitude]
    exact ends_cons.mpr (digit c hc)

/-- No blanks end a trimmed text. -/
theorem blanks_eq_nil {text front blanks : List Char}
    (trimmed : TextItems.trim isJsSpace text = text) (h : ∀ c ∈ blanks, isJsSpace c = true)
    (same : front ++ blanks = text) : blanks = [] := by
  by_contra hne
  have last := List.getLast?_eq_some_getLast hne
  have solid := (TextItems.trim_eq_self_iff.mp trimmed).2 (blanks.getLast hne)
    (by rw [← same, List.getLast?_append_of_ne_nil _ hne, last]; rfl)
  rw [h _ (List.getLast_mem hne)] at solid
  cases solid

theorem RuleMetric.matches (metric : RuleMetric) :
    (plus true (fun c : Char => decide (c ≠ '.'))).Matches metric.text :=
  plus_matches.mpr ⟨metric.ne_nil, fun c hc => decide_eq_true (metric.unseparated c hc).1⟩

/-- What the expression for fixed thresholds matches. -/
theorem fits_alertRule {pieces : List (List Char)} :
    Fits alertRuleRegex pieces ↔ ∃ metric field blanks blanks', ∃ operator : RuleOperator,
      ∃ threshold : Decimal, (plus true (fun c : Char => decide (c ≠ '.'))).Matches metric ∧
        (field ≠ [] ∧ ∀ c ∈ field, isOperatorChar c = false) ∧
        (∀ c ∈ blanks, isJsSpace c = true) ∧ (∀ c ∈ blanks', isJsSpace c = true) ∧
        pieces = [metric, ['.'], field, blanks, operator.text, blanks', threshold.text] := by
  simp only [alertRuleRegex, fits_cons, fits_nil, group, skip, word_matches, plus_matches,
    operatorPattern_matches, decimalPattern_matches, Pattern.Matches, Bool.not_eq_true']
  constructor
  · rintro ⟨metric, _, hmetric, ⟨_, _, rfl, ⟨field, _, hfield, ⟨blanks, _, hblanks,
      ⟨_, _, ⟨operator, rfl⟩, ⟨blanks', _, hblanks', ⟨_, _, ⟨threshold, rfl⟩, rfl, rfl⟩, rfl⟩,
      rfl⟩, rfl⟩, rfl⟩, rfl⟩, rfl⟩
    exact ⟨metric, field, blanks, blanks', operator, threshold, hmetric, hfield, hblanks, hblanks',
      rfl⟩
  · rintro ⟨metric, field, blanks, blanks', operator, threshold, hmetric, hfield, hblanks,
      hblanks', rfl⟩
    exact ⟨metric, _, hmetric, ⟨_, _, rfl, ⟨field, _, hfield, ⟨blanks, _, hblanks,
      ⟨_, _, ⟨operator, rfl⟩, ⟨blanks', _, hblanks', ⟨_, _, ⟨threshold, rfl⟩, rfl, rfl⟩, rfl⟩,
      rfl⟩, rfl⟩, rfl⟩, rfl⟩, rfl⟩

theorem exec_alertRule (rule : AlertRule) :
    Regex.exec alertRuleRegex rule.condition =
      some [rule.metric.text, rule.field, rule.operator.text, rule.threshold.text] := by
  have whole : [rule.metric.text, ['.'], rule.field, [], rule.operator.text, [],
      rule.threshold.text].flatten = rule.condition := by
    simp [AlertRule.condition]
  rw [← whole]
  refine exec_of_unique ?_ fun others fits same => ?_
  · exact fits_alertRule.mpr ⟨_, _, [], [], _, _, rule.metric.matches,
      ⟨rule.field_ne, fun c hc => (rule.field_chars c hc).1⟩, nofun, nofun, rfl⟩
  · obtain ⟨metric, field, blanks, blanks', operator, threshold, hmetric, hfield, hblanks,
      hblanks', rfl⟩ := fits_alertRule.mp fits
    simp only [List.flatten_cons, List.flatten_nil, List.append_nil, List.nil_append,
      List.singleton_append] at same
    obtain ⟨rfl, conditions⟩ := rule.metric.unique hmetric same
    -- The field and the blanks are the run before the operator.
    have run : ∀ c ∈ field ++ blanks, (!isOperatorChar c) = true := by
      intro c hc
      rw [Bool.not_eq_true']
      rcases List.mem_append.mp hc with h | h
      · exact hfield.2 c h
      · exact not_isOperatorChar_of_blank (hblanks c h)
    rw [← List.append_assoc] at conditions
    obtain ⟨fields, comparisons⟩ := run_unique run
      (fun c hc => by rw [(rule.field_chars c hc).1]; rfl) (operator.front _)
      (rule.operator.front _) conditions
    obtain rfl := blanks_eq_nil rule.field_trimmed hblanks fields
    rw [List.append_nil] at fields
    obtain ⟨operators, numbers⟩ := run_unique (fun _ => isOperatorChar_of_mem)
      (fun _ => isOperatorChar_of_mem)
      (ends_append (fun c hc => not_isOperatorChar_of_blank (hblanks' c hc))
        (decimal_front threshold not_isOperatorChar_digit rfl))
      (decimal_front rule.threshold not_isOperatorChar_digit rfl) comparisons
    obtain ⟨rfl, thresholds⟩ := run_unique (v := []) hblanks' nofun
      (decimal_front threshold not_blank_digit rfl)
      (decimal_front rule.threshold not_blank_digit rfl) numbers
    rw [fields, operators, thresholds]

/-- What the expression for anomalies matches. -/
theorem fits_anomalyRule {pieces : List (List Char)} :
    Fits anomalyRuleRegex pieces ↔ ∃ metric field blanks blanks' blanks'',
      ∃ z mean stdDev : Decimal,
      (plus true (fun c : Char => decide (c ≠ '.'))).Matches metric ∧
        (field ≠ [] ∧ ∀ c ∈ field, isJsSpace c = false) ∧
        (blanks ≠ [] ∧ ∀ c ∈ blanks, isJsSpace c = true) ∧
        (∀ c ∈ blanks', isJsSpace c = true) ∧ (∀ c ∈ blanks'', isJsSpace c = true) ∧
        pieces = [metric, ['.'], field, blanks, ['z', '='], z.text, blanks',
          ['(', 'm', 'e', 'a', 'n', '='], mean.text, [','], blanks'',
          ['s', 't', 'd', 'd', 'e', 'v', '='], stdDev.text, [')']] := by
  simp only [anomalyRuleRegex, fits_cons, fits_nil, group, skip, word_matches, plus_matches,
    decimalPattern_matches, Pattern.Matches, Bool.not_eq_true']
  constructor
  · rintro ⟨metric, _, hmetric, ⟨_, _, rfl, ⟨field, _, hfield, ⟨blanks, _, hblanks, ⟨_, _, rfl,
      ⟨_, _, ⟨z, rfl⟩, ⟨blanks', _, hblanks', ⟨_, _, rfl, ⟨_, _, ⟨mean, rfl⟩, ⟨_, _, rfl,
      ⟨blanks'', _, hblanks'', ⟨_, _, rfl, ⟨_, _, ⟨stdDev, rfl⟩, ⟨_, _, rfl, rfl, rfl⟩, rfl⟩, rfl⟩,
      rfl⟩, rfl⟩, rfl⟩, rfl⟩, rfl⟩, rfl⟩, rfl⟩, rfl⟩, rfl⟩, rfl⟩, rfl⟩
    exact ⟨metric, field, blanks, blanks', blanks'', z, mean, stdDev, hmetric, hfield, hblanks,
      hblanks', hblanks'', rfl⟩
  · rintro ⟨metric, field, blanks, blanks', blanks'', z, mean, stdDev, hmetric, hfield, hblanks,
      hblanks', hblanks'', rfl⟩
    exact ⟨metric, _, hmetric, ⟨_, _, rfl, ⟨field, _, hfield, ⟨blanks, _, hblanks, ⟨_, _, rfl,
      ⟨_, _, ⟨z, rfl⟩, ⟨blanks', _, hblanks', ⟨_, _, rfl, ⟨_, _, ⟨mean, rfl⟩, ⟨_, _, rfl,
      ⟨blanks'', _, hblanks'', ⟨_, _, rfl, ⟨_, _, ⟨stdDev, rfl⟩, ⟨_, _, rfl, rfl, rfl⟩, rfl⟩, rfl⟩,
      rfl⟩, rfl⟩, rfl⟩, rfl⟩, rfl⟩, rfl⟩, rfl⟩, rfl⟩, rfl⟩, rfl⟩, rfl⟩

theorem not_isDecimalChar_of_blank {c : Char} (h : isJsSpace c = true) :
    isDecimalChar c = false := by
  have digit : c.isDigit = false := by
    rw [← Bool.not_eq_true]
    intro digit
    rw [not_blank_digit c digit] at h
    cases h
  simp only [isDecimalChar, Bool.or_eq_false_iff, decide_eq_false_iff_not]
  refine ⟨⟨digit, ?_⟩, ?_⟩ <;> (rintro rfl; cases h)

/-- The field ends at the first blank, and so does each number at what is no part of it. -/
theorem exec_anomalyRule (rule : AnomalyRule) :
    Regex.exec anomalyRuleRegex rule.chars =
      some [rule.metric.text, rule.field, rule.z.text, rule.mean.text, rule.stdDev.text] := by
  have whole : [rule.metric.text, ['.'], rule.field, [' '], ['z', '='], rule.z.text, [' '],
      ['(', 'm', 'e', 'a', 'n', '='], rule.mean.text, [','], [' '],
      ['s', 't', 'd', 'd', 'e', 'v', '='], rule.stdDev.text, [')']].flatten = rule.chars := by
    simp only [List.flatten_cons, List.flatten_nil, List.append_nil, List.singleton_append]
    rfl
  have space : ∀ c ∈ [' '], isJsSpace c = true := by
    intro c hc
    rw [List.mem_singleton.mp hc]
    rfl
  rw [← whole]
  refine exec_of_unique ?_ fun others fits same => ?_
  · exact fits_anomalyRule.mpr ⟨_, _, _, _, _, _, _, _, rule.metric.matches,
      ⟨rule.field_ne, fun c hc => (rule.field_chars c hc).1⟩, ⟨by simp, space⟩, space, space, rfl⟩
  · obtain ⟨metric, field, blanks, blanks', blanks'', z, mean, stdDev, hmetric, hfield, hblanks,
      hblanks', hblanks'', rfl⟩ := fits_anomalyRule.mp fits
    rw [whole] at same
    simp only [List.flatten_cons, List.flatten_nil, List.append_nil, List.singleton_append] at same
    obtain ⟨rfl, afterMetric⟩ := rule.metric.unique hmetric same
    obtain ⟨rfl, afterField⟩ := run_unique (p := (!isJsSpace ·))
      (fun c hc => by rw [hfield.2 c hc]; rfl)
      (fun c hc => by rw [(rule.field_chars c hc).1]; rfl)
      (ends_append_of_ne_nil hblanks.1 (fun c hc => by rw [hblanks.2 c hc]; rfl) _)
      (ends_cons.mpr rfl) afterMetric
    obtain ⟨rfl, afterBlanks⟩ := run_unique (v := [' ']) hblanks.2 space (ends_cons.mpr rfl)
      (ends_cons.mpr rfl) afterField
    obtain ⟨hz, afterZ⟩ := decimal_unique (ends_cons.mpr rfl)
      (ends_append (fun c hc => not_isDecimalChar_of_blank (hblanks' c hc)) (ends_cons.mpr rfl))
      ((List.append_right_inj ['z', '=']).mp afterBlanks)
    obtain ⟨rfl, beforeMean⟩ := run_unique (v := [' ']) hblanks' space (ends_cons.mpr rfl)
      (ends_cons.mpr rfl) afterZ
    obtain ⟨hmean, afterMean⟩ := decimal_unique (ends_cons.mpr rfl) (ends_cons.mpr rfl)
      ((List.append_right_inj ['(', 'm', 'e', 'a', 'n', '=']).mp beforeMean)
    obtain ⟨rfl, beforeStdDev⟩ := run_unique (v := [' ']) hblanks'' space (ends_cons.mpr rfl)
      (ends_cons.mpr rfl) (List.cons_eq_cons.mp afterMean).2
    obtain ⟨hstdDev, -⟩ := decimal_unique (ends_cons.mpr rfl) (ends_cons.mpr rfl)
      ((List.append_right_inj ['s', 't', 'd', 'd', 'e', 'v', '=']).mp beforeStdDev)
    rw [hz, hmean, hstdDev]

/-! ## Reading the texts -/

theorem cutAt_append {separator : Char} {front : List Char} (back : List Char)
    (h : ∀ c ∈ front, c ≠ separator) :
    cutAt separator (front ++ separator :: back) = some (front, back) := by
  suffices index : (front ++ separator :: back).idxOf? separator = some front.length by
    rw [cutAt, index, Option.map_some, List.take_left, ← List.drop_drop, List.drop_left]
    rfl
  induction front with
  | nil => simp [List.idxOf?_cons]
  | cons c front ih =>
    rw [List.cons_append, List.idxOf?_cons, if_neg (by simpa using h c List.mem_cons_self),
      ih fun c hc => h c (.tail _ hc)]
    rfl

theorem cutAt_eq_none {separator : Char} {text : List Char} (h : ∀ c ∈ text, c ≠ separator) :
    cutAt separator text = none := by
  rw [cutAt, List.idxOf?_eq_none_iff.mpr fun found => h separator found rfl]
  rfl

/-- No blank ends the text. -/
def Solid (text : List Char) : Prop := ∀ c ∈ text.getLast?, isJsSpace c = false

theorem solid_append {text : List Char} (hne : text ≠ []) (h : Solid text) (front : List Char) :
    Solid (front ++ text) := by
  unfold Solid
  rwa [List.getLast?_append_of_ne_nil _ hne]

theorem RuleMetric.trim_append (metric : RuleMetric) {rest : List Char} (hne : rest ≠ [])
    (h : Solid rest) : TextItems.trim isJsSpace (metric.text ++ rest) = metric.text ++ rest := by
  refine TextItems.trim_eq_self_iff.mpr ⟨?_, solid_append hne h _⟩
  obtain ⟨c, cs, hmetric⟩ := List.exists_cons_of_ne_nil metric.ne_nil
  have front := metric.front
  rw [hmetric] at front ⊢
  exact front

theorem decimal_solid (d : Decimal) : d.text ≠ [] ∧ Solid d.text := by
  obtain ⟨init, last, digit, htext⟩ := d.text_eq_append
  rw [htext]
  refine ⟨List.concat_ne_nil last init, ?_⟩
  unfold Solid
  rw [List.getLast?_concat]
  rintro _ ⟨⟩
  exact not_blank_digit last digit

/-- A decimal is a number. -/
theorem decimal_value (d : Decimal) :
    number isJsSpace d.text = d.value ∧ d.value ≠ .nan := by
  refine ⟨d.number_text not_blank_digit rfl, ?_⟩
  unfold Decimal.value double
  dsimp only
  split_ifs <;> nofun

theorem isDecimalChar_ne_colon {d : Decimal} {c : Char} (h : c ∈ d.text) : c ≠ ':' := by
  rintro rfl
  cases isDecimalChar_of_mem h

/-- The metric and the field have no colon. -/
theorem RuleMetric.unseparated_append (metric : RuleMetric) {field rest : List Char}
    (hfield : ∀ c ∈ field, c ≠ ':') (hrest : ∀ c ∈ rest, c ≠ ':') :
    ∀ c ∈ metric.text ++ '.' :: (field ++ rest), c ≠ ':' := by
  intro c hc
  rcases List.mem_append.mp hc with h | h
  · exact (metric.unseparated c h).2
  rcases List.mem_cons.mp h with rfl | h
  · decide
  rcases List.mem_append.mp h with h | h
  · exact hfield c h
  · exact hrest c h

theorem condition_unseparated (rule : AlertRule) : ∀ c ∈ rule.condition, c ≠ ':' := by
  refine rule.metric.unseparated_append (fun c hc => (rule.field_chars c hc).2) fun c hc => ?_
  rcases List.mem_append.mp hc with h | h
  · rintro rfl
    cases isOperatorChar_of_mem h
  · exact isDecimalChar_ne_colon h

theorem splitRule_text (rule : AlertRule) :
    splitRule rule.text =
      (rule.condition, rule.action.map fun action => jsTrim (String.ofList action.text)) := by
  unfold splitRule AlertRule.text AlertRule.chars
  rw [String.toList_ofList]
  cases rule.action with
  | none =>
    dsimp only
    rw [cutAt_eq_none (condition_unseparated rule)]
    rfl
  | some action =>
    dsimp only
    rw [cutAt_append _ (condition_unseparated rule)]
    rfl

theorem RuleAction.trim_text (action : RuleAction) :
    TextItems.trim isJsSpace action.text = action.text := by
  cases action with
  | keyword => decide +kernel
  | assign assignment =>
    obtain ⟨c, cs, hkey⟩ := List.exists_cons_of_ne_nil assignment.key_clean.nonempty
    have front := (TextItems.trim_eq_self_iff.mp assignment.key_clean.trimmed).1
    have back := (TextItems.trim_eq_self_iff.mp assignment.value_trimmed).2
    rw [RuleAction.text, TextItems.trim_eq_self_iff]
    refine ⟨?_, solid_append (List.cons_ne_nil _ _) ?_ _⟩
    · rw [hkey] at front ⊢
      exact front
    · exact solid_append assignment.value_ne back ['=']

theorem RuleAction.text_ne_nil (action : RuleAction) : action.text ≠ [] := by
  cases action with
  | keyword => decide +kernel
  | assign assignment => exact List.append_ne_nil_of_right_ne_nil _ (List.cons_ne_nil _ _)

theorem parseChannelStateMessage_text (assignment : ChannelAssignment) :
    parseChannelStateMessage (.string (String.ofList (RuleAction.assign assignment).text)) =
      (RuleAction.assign assignment).parsed := by
  have cut : cutAt '=' (RuleAction.assign assignment).text =
      some (assignment.key, assignment.value) :=
    cutAt_append _ fun c hc => ne_of_mem_of_not_mem hc assignment.key_clean.unseparated
  have key : jsTrim (String.ofList assignment.key) = String.ofList assignment.key := by
    rw [jsTrim, String.toList_ofList]
    exact congrArg String.ofList assignment.key_clean.trimmed
  have value : jsTrim (String.ofList assignment.value) = String.ofList assignment.value := by
    rw [jsTrim, String.toList_ofList]
    exact congrArg String.ofList assignment.value_trimmed
  have present {text : List Char} (h : text ≠ []) : String.ofList text ≠ "" := by
    simpa using h
  unfold parseChannelStateMessage
  dsimp only
  rw [String.toList_ofList, cut]
  split
  · next h => cases h
  · next h => exact absurd (Prod.mk.inj (Option.some.inj h)).1 assignment.key_clean.nonempty
  · next h =>
    obtain ⟨rfl, rfl⟩ := Prod.mk.inj (Option.some.inj h)
    rw [key, value, if_pos ⟨present assignment.key_clean.nonempty, present assignment.value_ne⟩]
    rfl

theorem parseAction_text (action : Option RuleAction) :
    parseAction (action.map fun action => jsTrim (String.ofList action.text)) =
      action.bind RuleAction.parsed := by
  cases action with
  | none => rfl
  | some action =>
    have trimmed : jsTrim (String.ofList action.text) = String.ofList action.text := by
      rw [jsTrim, String.toList_ofList]
      exact congrArg String.ofList action.trim_text
    rw [Option.map_some, trimmed, Option.bind_some]
    cases action with
    | keyword => decide +kernel
    | assign assignment =>
      have word : jsToLowerCase (String.ofList (RuleAction.assign assignment).text) ≠ "none" := by
        intro h
        have equals : '=' ∈ (RuleAction.assign assignment).text.map Char.toLower :=
          List.mem_map.mpr ⟨'=', List.mem_append_right _ List.mem_cons_self, rfl⟩
        have lower := congrArg String.toList h
        rw [jsToLowerCase, String.toList_ofList, String.toList_ofList] at lower
        rw [lower] at equals
        exact absurd equals (by decide +kernel)
      have present : String.ofList (RuleAction.assign assignment).text ≠ "" := by
        simp [RuleAction.text]
      unfold parseAction
      dsimp only
      rw [if_pos ⟨present, word⟩, parseChannelStateMessage_text]

theorem AlertRule.trim_condition (rule : AlertRule) :
    TextItems.trim isJsSpace rule.condition = rule.condition := by
  obtain ⟨present, solid⟩ := decimal_solid rule.threshold
  refine rule.metric.trim_append (List.cons_ne_nil _ _) ?_
  rw [← List.append_assoc, ← List.cons_append]
  exact solid_append present solid _

theorem parseAlertRule_text (rule : AlertRule) : parseAlertRule rule.text = some rule.parsed := by
  obtain ⟨value, present⟩ := decimal_value rule.threshold
  unfold parseAlertRule
  rw [splitRule_text]
  dsimp only
  rw [rule.trim_condition, exec_alertRule]
  dsimp only
  rw [value, if_neg present, parseAction_text]
  rfl

theorem AnomalyRule.chars_eq_concat (rule : AnomalyRule) :
    ∃ front, rule.chars = rule.metric.text ++ ('.' :: front ++ [')']) := by
  refine ⟨rule.field ++ ' ' :: (['z', '='] ++ (rule.z.text ++ ' ' ::
    (['(', 'm', 'e', 'a', 'n', '='] ++ (rule.mean.text ++ ',' :: ' ' ::
      (['s', 't', 'd', 'd', 'e', 'v', '='] ++ rule.stdDev.text))))), ?_⟩
  simp only [AnomalyRule.chars, AnomalyRule.statistics, List.append_assoc, List.cons_append]

theorem AnomalyRule.trim_chars (rule : AnomalyRule) :
    TextItems.trim isJsSpace rule.chars = rule.chars := by
  obtain ⟨front, hchars⟩ := rule.chars_eq_concat
  rw [hchars]
  refine rule.metric.trim_append (List.cons_ne_nil _ _) ?_
  refine solid_append (List.cons_ne_nil _ _) ?_ _
  rintro _ ⟨⟩
  rfl

theorem parseAnomalyRule_text (rule : AnomalyRule) :
    parseAnomalyRule rule.text = some rule.parsed := by
  have value (d : Decimal) := (decimal_value d).1
  have present (d : Decimal) := (decimal_value d).2
  unfold parseAnomalyRule
  rw [AnomalyRule.text, String.toList_ofList, rule.trim_chars, exec_anomalyRule]
  dsimp only
  rw [value, value, value, if_neg]
  · rfl
  · rintro (h | h | h) <;> exact present _ h

theorem AnomalyRule.chars_unseparated (rule : AnomalyRule) : ∀ c ∈ rule.chars, c ≠ ':' := by
  refine rule.metric.unseparated_append (fun c hc => (rule.field_chars c hc).2) ?_
  rintro _ h rfl
  have decimal (d : Decimal) : ':' ∉ d.text := fun h => isDecimalChar_ne_colon h rfl
  simp [AnomalyRule.statistics, decimal] at h

/-- The text does not end in a digit. -/
theorem parseAlertRule_anomaly (rule : AnomalyRule) : parseAlertRule rule.text = none := by
  have split : splitRule rule.text = (rule.chars, none) := by
    unfold splitRule
    rw [AnomalyRule.text, String.toList_ofList, cutAt_eq_none rule.chars_unseparated]
  have rejected : Regex.exec alertRuleRegex rule.chars = none := by
    rw [exec_eq_none_iff]
    intro pieces fits same
    obtain ⟨metric, field, blanks, blanks', operator, threshold, -, -, -, -, rfl⟩ :=
      fits_alertRule.mp fits
    obtain ⟨front, hchars⟩ := rule.chars_eq_concat
    obtain ⟨init, last, digit, hthreshold⟩ := threshold.text_eq_append
    have ending := congrArg List.getLast? same
    rw [hchars, hthreshold] at ending
    simp only [List.flatten_cons, List.flatten_nil, List.append_nil, ← List.append_assoc,
      List.getLast?_concat] at ending
    obtain rfl := Option.some.inj ending
    cases digit
  unfold parseAlertRule
  rw [split]
  dsimp only
  rw [rule.trim_chars, rejected]

/-! ## Payloads with a rule -/

/-- The payload has the rule and no message of its own. -/
def Fires (payload : Json) (rule : String) : Prop :=
  nonBlank (field "message" payload) = none ∧ field "rule" payload = some (.string rule)

theorem AlertRule.trim_text (rule : AlertRule) :
    TextItems.trim isJsSpace rule.chars = rule.chars := by
  unfold AlertRule.chars
  split
  · exact rule.trim_condition
  · next action _ =>
    have back := (TextItems.trim_eq_self_iff.mp action.trim_text).2
    rw [AlertRule.condition, List.append_assoc]
    refine rule.metric.trim_append (List.cons_ne_nil _ _) (solid_append (List.cons_ne_nil _ _) ?_ _)
    exact solid_append action.text_ne_nil back [':']

theorem AlertRule.chars_ne_nil (rule : AlertRule) : rule.chars ≠ [] := by
  unfold AlertRule.chars
  split <;> simp [AlertRule.condition]

theorem AnomalyRule.chars_ne_nil (rule : AnomalyRule) : rule.chars ≠ [] := by
  simp [AnomalyRule.chars]

theorem nonBlank_text {text : List Char} (trimmed : TextItems.trim isJsSpace text = text)
    (hne : text ≠ []) :
    nonBlank (some (.string (String.ofList text))) = some (String.ofList text) := by
  have same : jsTrim (String.ofList text) = String.ofList text := by
    rw [jsTrim, String.toList_ofList]
    exact congrArg String.ofList trimmed
  have present : String.ofList text ≠ "" := by simpa using hne
  unfold nonBlank
  dsimp only
  rw [same, if_neg present]

/-- A rule of either form is read as what it is, alone and in a payload. -/
theorem alert_rules_read_back :
    (∀ rule : AlertRule,
      parseAlertRule rule.text = some rule.parsed ∧
      ∀ payload, Fires payload rule.text →
        parseAlertPayload texts payload = renderAlertRule texts payload rule.parsed) ∧
    ∀ rule : AnomalyRule,
      parseAlertRule rule.text = none ∧ parseAnomalyRule rule.text = some rule.parsed ∧
      ∀ payload, Fires payload rule.text →
        parseAlertPayload texts payload = renderAnomalyRule texts payload rule.parsed := by
  constructor
  · intro rule
    refine ⟨parseAlertRule_text rule, fun payload ⟨message, given⟩ => ?_⟩
    have present : nonBlank (field "rule" payload) = some rule.text := by
      rw [given]
      exact nonBlank_text rule.trim_text rule.chars_ne_nil
    unfold parseAlertPayload
    rw [message]
    dsimp only
    rw [present]
    dsimp only
    rw [parseAlertRule_text]
  · intro rule
    have rejected := parseAlertRule_anomaly rule
    have read := parseAnomalyRule_text rule
    refine ⟨rejected, read, fun payload ⟨message, given⟩ => ?_⟩
    have present : nonBlank (field "rule" payload) = some rule.text := by
      rw [given]
      exact nonBlank_text rule.trim_chars rule.chars_ne_nil
    unfold parseAlertPayload
    rw [message]
    dsimp only
    rw [present]
    dsimp only
    rw [rejected]
    dsimp only
    rw [read]

/-- `sensor.apms>10:relay2=ON` -/
def apmsRule : AlertRule where
  metric := ⟨['s', 'e', 'n', 's', 'o', 'r'], by simp, by simp, ends_cons.mpr rfl⟩
  field := ['a', 'p', 'm', 's']
  operator := .gt
  threshold := ⟨false, ['1', '0'], none, ⟨by simp, List.all_eq_true.mp rfl⟩, nofun⟩
  action := some (.assign ⟨['r', 'e', 'l', 'a', 'y', '2'], ['O', 'N'], by decide +kernel, by simp,
    by decide +kernel⟩)
  field_ne := by simp
  field_chars := by simp [isOperatorChar]
  field_trimmed := by decide +kernel

/-- Two decimals. -/
def hundredths (negative : Bool) (int tenth hundredth : Char)
    (digits : [int, tenth, hundredth].all Char.isDigit = true) : Decimal where
  negative := negative
  int := [int]
  fraction := some [tenth, hundredth]
  int_digits := by
    simp only [List.all_cons, Bool.and_eq_true] at digits
    simpa using digits.1
  fraction_digits := by
    rintro _ ⟨⟩
    simp only [List.all_cons, Bool.and_eq_true] at digits
    simpa using ⟨digits.2.1, digits.2.2.1⟩

/-- `telemetry.motorCurrent z=-3.48 (mean=0.49, stddev=0.11)` -/
def motorAnomaly : AnomalyRule where
  metric := ⟨['t', 'e', 'l', 'e', 'm', 'e', 't', 'r', 'y'], by simp, by simp, ends_cons.mpr rfl⟩
  field := ['m', 'o', 't', 'o', 'r', 'C', 'u', 'r', 'r', 'e', 'n', 't']
  z := hundredths true '3' '4' '8' rfl
  mean := hundredths false '0' '4' '9' rfl
  stdDev := hundredths false '0' '1' '1' rfl
  field_ne := by simp
  field_chars := by simp [isJsSpace]

example : apmsRule.text = "sensor.apms>10:relay2=ON" := by decide +kernel

example : motorAnomaly.text = "telemetry.motorCurrent z=-3.48 (mean=0.49, stddev=0.11)" := by
  decide +kernel

def plainTexts : AlertTexts := ⟨fun _ _ => .ok "?", fun _ => "", fun _ => ""⟩

theorem alert_rules_read_back_apms :
    parseAlertPayload plainTexts (.object [("rule", .string apmsRule.text)]) =
        renderAlertRule plainTexts (.object [("rule", .string apmsRule.text)]) apmsRule.parsed ∧
      parseAlertPayload plainTexts (.object [("rule", .string motorAnomaly.text)]) =
        renderAnomalyRule plainTexts (.object [("rule", .string motorAnomaly.text)])
          motorAnomaly.parsed :=
  ⟨((alert_rules_read_back plainTexts).1 apmsRule).2 _ ⟨rfl, rfl⟩,
    ((alert_rules_read_back plainTexts).2 motorAnomaly).2.2 _ ⟨rfl, rfl⟩⟩

end AiotCloud.Ingress
