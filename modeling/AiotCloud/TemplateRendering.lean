import AiotCloud.Lib.Occurrences
import AiotCloud.Notifications
import Mathlib.Tactic.Ring

/-!
# What a template makes of a message

`renderTemplate` hands the message to `replaceAll` as a replacement, in which a dollar sign
may begin a pattern.

1. `renderTemplate_eq`: the parts of the template, with what the message stands for in each
   gap.
2. `getSubstitution_eq`: a replacement is read piece by piece.
3. `render_verbatim_iff`: when the message is put in as it is.
-/

namespace AiotCloud

open Occurrences

/-! ## The gaps of a template -/

section Replace

variable {search : List Char} (replacement : List Char)

theorem replaceFrom_skip (before text : List Char) (skip : Nat) :
    replaceFrom search replacement before skip text =
      replaceFrom search replacement (before ++ text.take skip) 0 (text.drop skip) := by
  induction text generalizing before skip with
  | nil => simp [replaceFrom]
  | cons c text ih =>
    cases skip with
    | zero => simp
    | succ skip => rw [replaceFrom, ih]; simp

theorem replaceFrom_found (hsearch : search ≠ []) (before rest : List Char) :
    replaceFrom search replacement before 0 (search ++ rest) =
      getSubstitution search before rest replacement ++
        replaceFrom search replacement (before ++ search) 0 rest := by
  obtain ⟨c, cs, rfl⟩ := List.exists_cons_of_ne_nil hsearch
  have here : c :: cs <+: c :: (cs ++ rest) := ⟨rest, rfl⟩
  rw [List.cons_append, replaceFrom]
  simp only [if_pos here]
  rw [replaceFrom_skip]
  simp

theorem replaceFrom_eq (hsearch : search ≠ []) (before text : List Char) :
    replaceFrom search replacement before 0 text =
      fill search (fun before after => getSubstitution search before after replacement) before
        (parts search text) := by
  induction text using induction_on hsearch generalizing before with
  | nil => rfl
  | found rest ih =>
    obtain ⟨part, others, hparts⟩ := exists_parts hsearch rest
    have joined := intercalate_parts hsearch rest
    rw [replaceFrom_found replacement hsearch, ih, parts_found hsearch]
    rw [hparts] at joined ⊢
    rw [fill, joined, List.append_nil, List.nil_append]
  | other c text other ih =>
    obtain ⟨part, others, hparts⟩ := exists_parts hsearch text
    rw [replaceFrom, parts_other other, hparts, List.modifyHead_cons, fill_cons, ← hparts, ← ih]
    simp only [if_neg other]

end Replace

theorem messagePlaceholder_ne_nil : messagePlaceholder.toList ≠ [] := by decide

/-- The parts of a template between the placeholders. -/
def segments (template : String) : List (List Char) :=
  parts messagePlaceholder.toList template.toList

/-- What the message stands for in a gap of a template. -/
def messageIn (message : String) (before after : List Char) : List Char :=
  getSubstitution messagePlaceholder.toList before after message.toList

theorem renderTemplate_eq (template message : String) :
    (renderTemplate template message).toList =
      fill messagePlaceholder.toList (messageIn message) [] (segments template) := by
  rw [renderTemplate, String.toList_ofList, replaceFrom_eq _ messagePlaceholder_ne_nil, segments]
  rfl

/-! ## The pieces of a replacement -/

inductive ReplacementPiece where
  | char (c : Char)
  | dollar
  | matched
  | before
  | after
deriving DecidableEq

namespace ReplacementPiece

/-- The piece as it is written. -/
def written : ReplacementPiece → List Char
  | char c => [c]
  | dollar => ['$', '$']
  | matched => ['$', '&']
  | before => ['$', Char.ofNat 96]
  | after => ['$', Char.ofNat 39]

/-- What the piece stands for. -/
def stands (search left right : List Char) : ReplacementPiece → List Char
  | char c => [c]
  | dollar => ['$']
  | matched => search
  | before => left
  | after => right

end ReplacementPiece

open ReplacementPiece

/-- The piece that a character makes with a dollar sign before it. -/
def patternOf (c : Char) : Option ReplacementPiece :=
  if c = '$' then some .dollar
  else if c = '&' then some .matched
  else if c.toNat = 96 then some .before
  else if c.toNat = 39 then some .after
  else none

def replacementPieces : List Char → List ReplacementPiece
  | '$' :: c :: cs =>
    match patternOf c with
    | some piece => piece :: replacementPieces cs
    | none => .char '$' :: replacementPieces (c :: cs)
  | c :: cs => .char c :: replacementPieces cs
  | [] => []

theorem patternOf_eq_some {c : Char} {piece : ReplacementPiece} (h : patternOf c = some piece) :
    piece.written = ['$', c] ∧ ∀ c', piece ≠ .char c' := by
  unfold patternOf at h
  split_ifs at h with dollar amp backquote quote <;> obtain rfl := Option.some.inj h
  · exact ⟨by rw [dollar]; rfl, by simp⟩
  · exact ⟨by rw [amp]; rfl, by simp⟩
  · exact ⟨by rw [written, ← backquote, Char.ofNat_toNat], by simp⟩
  · exact ⟨by rw [written, ← Char.ofNat_toNat c, quote], by simp⟩

/-- The pieces spell the replacement. -/
theorem written_pieces (replacement : List Char) :
    (replacementPieces replacement).flatMap written = replacement := by
  fun_induction replacementPieces replacement with
  | case1 c cs piece hpiece ih =>
    rw [List.flatMap_cons, ih, (patternOf_eq_some hpiece).1, List.cons_append,
      List.singleton_append]
  | case2 c cs _ ih => rw [List.flatMap_cons, ih]; rfl
  | case3 c cs _ ih => rw [List.flatMap_cons, ih]; rfl
  | case4 => rfl

theorem getSubstitution_eq (search left right replacement : List Char) :
    getSubstitution search left right replacement =
      (replacementPieces replacement).flatMap (stands search left right) := by
  fun_induction replacementPieces replacement with
  | case1 c cs piece hpiece ih =>
    rw [List.flatMap_cons, ← ih, getSubstitution]
    unfold patternOf at hpiece
    split_ifs at hpiece ⊢ <;> obtain rfl := Option.some.inj hpiece <;> rfl
  | case2 c cs hpiece ih =>
    rw [List.flatMap_cons, ← ih, getSubstitution]
    unfold patternOf at hpiece
    split_ifs at hpiece ⊢
    rfl
  | case3 c cs other ih => rw [List.flatMap_cons, ← ih, getSubstitution] <;> simp_all [stands]
  | case4 => rfl

/-! ### Sizes -/

section Sizes

variable (search left right : List Char) (pieces : List ReplacementPiece)

/-- A character of no pattern is counted in what the pieces stand for. -/
theorem count_stands {c : Char} (plain : ∀ piece, (∀ c', piece ≠ .char c') → c ∉ written piece) :
    (pieces.flatMap (stands search left right)).count c =
      (pieces.flatMap written).count c + (pieces.count .matched * search.count c +
        pieces.count .before * left.count c + pieces.count .after * right.count c) := by
  have dollar : c ≠ '$' := fun h => plain .dollar (by simp) (by simp [written, h])
  induction pieces with
  | nil => simp
  | cons piece pieces ih =>
    rw [List.flatMap_cons, List.flatMap_cons, List.count_append, List.count_append, ih]
    cases piece with
    | char c' => simp [stands, written]; ring
    | dollar =>
      have absent := List.count_eq_zero_of_not_mem (plain .dollar (by simp))
      simp [stands, absent, dollar.symm]
    | matched =>
      have absent := List.count_eq_zero_of_not_mem (plain .matched (by simp))
      simp [stands, absent]; ring
    | before =>
      have absent := List.count_eq_zero_of_not_mem (plain .before (by simp))
      simp [stands, absent]; ring
    | after =>
      have absent := List.count_eq_zero_of_not_mem (plain .after (by simp))
      simp [stands, absent]; ring

variable {pieces}

theorem length_stands (matched : .matched ∉ pieces) (before : .before ∉ pieces)
    (after : .after ∉ pieces) :
    (pieces.flatMap (stands search left right)).length + pieces.count .dollar =
      (pieces.flatMap written).length := by
  induction pieces with
  | nil => rfl
  | cons piece pieces ih =>
    simp only [List.mem_cons, not_or] at matched before after
    have rest := ih matched.2 before.2 after.2
    rw [List.flatMap_cons, List.flatMap_cons, List.length_append, List.length_append, ← rest]
    cases piece with
    | char c => simp [stands, written]; omega
    | dollar => simp [stands, written]; omega
    | matched => exact absurd rfl matched.1
    | before => exact absurd rfl before.1
    | after => exact absurd rfl after.1

end Sizes

/-! ### Patterns -/

/-- No dollar sign of the message has `$`, `&`, a backquote or a quote after it. -/
def PatternFree (message : String) : Prop :=
  ∀ c, (patternOf c).isSome = true → ¬ ['$', c] <:+: message.toList

theorem mem_replacementPieces {piece : ReplacementPiece} {replacement : List Char}
    (h : piece ∈ replacementPieces replacement) :
    (∃ c, piece = .char c) ∨ ∃ c, patternOf c = some piece ∧ ['$', c] <:+: replacement := by
  fun_induction replacementPieces replacement with
  | case1 c cs first hfirst ih =>
    rcases List.mem_cons.mp h with rfl | h
    · exact .inr ⟨c, hfirst, ⟨[], cs, rfl⟩⟩
    · exact (ih h).imp_right fun ⟨c', hc', here⟩ =>
        ⟨c', hc', (here.trans (List.suffix_cons _ _).isInfix).trans
          (List.suffix_cons _ _).isInfix⟩
  | case2 c cs none ih =>
    rcases List.mem_cons.mp h with rfl | h
    · exact .inl ⟨'$', rfl⟩
    · exact (ih h).imp_right fun ⟨c', hc', here⟩ =>
        ⟨c', hc', here.trans (List.suffix_cons _ _).isInfix⟩
  | case3 c cs other ih =>
    rcases List.mem_cons.mp h with rfl | h
    · exact .inl ⟨c, rfl⟩
    · exact (ih h).imp_right fun ⟨c', hc', here⟩ =>
        ⟨c', hc', here.trans (List.suffix_cons _ _).isInfix⟩
  | case4 => cases h

/-- A pattern in the replacement is a piece, or ends one. -/
theorem exists_pattern {c : Char} (special : (patternOf c).isSome = true)
    {replacement : List Char} (here : ['$', c] <:+: replacement) :
    ∃ piece ∈ replacementPieces replacement, ∀ c', piece ≠ .char c' := by
  fun_induction replacementPieces replacement with
  | case1 c' cs piece hpiece ih =>
    exact ⟨piece, List.mem_cons_self, (patternOf_eq_some hpiece).2⟩
  | case2 c' cs none ih =>
    rcases List.infix_cons_iff.mp here with front | here
    · obtain rfl : c = c' := by simpa using front
      simp [none] at special
    · obtain ⟨piece, hmem, hpiece⟩ := ih here
      exact ⟨piece, .tail _ hmem, hpiece⟩
  | case3 c' cs other ih =>
    rcases List.infix_cons_iff.mp here with front | here
    · obtain ⟨rest, hrest⟩ := front
      obtain ⟨hdollar, hrest⟩ := List.cons.inj hrest
      exact absurd hrest.symm (other c rest hdollar.symm)
    · obtain ⟨piece, hmem, hpiece⟩ := ih here
      exact ⟨piece, .tail _ hmem, hpiece⟩
  | case4 => simp at here

theorem patternFree_iff {message : String} :
    PatternFree message ↔ ∀ piece ∈ replacementPieces message.toList, ∃ c, piece = .char c := by
  constructor
  · intro free piece hmem
    rcases mem_replacementPieces hmem with char | ⟨c, hpiece, here⟩
    · exact char
    · exact absurd here (free c (by simp [hpiece]))
  · intro chars c special here
    obtain ⟨piece, hmem, hpiece⟩ := exists_pattern special here
    obtain ⟨c', rfl⟩ := chars piece hmem
    exact hpiece c' rfl

theorem getSubstitution_of_patternFree {message : String} (free : PatternFree message)
    (search left right : List Char) :
    getSubstitution search left right message.toList = message.toList := by
  have same : ∀ piece ∈ replacementPieces message.toList,
      stands search left right piece = written piece := by
    intro piece hmem
    obtain ⟨c, rfl⟩ := patternFree_iff.mp free piece hmem
    rfl
  rw [getSubstitution_eq, List.flatMap_congr same, written_pieces]

/-! ## Verbatim -/

/-- The parts of the template, joined by the message. -/
def verbatim (template message : String) : List Char :=
  message.toList.intercalate (segments template)

theorem brace_plain (piece : ReplacementPiece) (h : ∀ c, piece ≠ .char c) :
    '\x7b' ∉ written piece := by
  cases piece with
  | char c => exact absurd rfl (h c)
  | _ => decide

/-- The braces that a message gets in a gap, beyond its own. -/
theorem count_messageIn (message : String) (before after : List Char) :
    (messageIn message before after).count '\x7b' =
      message.toList.count '\x7b' + ((replacementPieces message.toList).count .matched * 2 +
        (replacementPieces message.toList).count .before * before.count '\x7b' +
        (replacementPieces message.toList).count .after * after.count '\x7b') := by
  have braces : messagePlaceholder.toList.count '\x7b' = 2 := by decide
  have h := count_stands messagePlaceholder.toList before after
    (replacementPieces message.toList) brace_plain
  rwa [written_pieces, ← getSubstitution_eq, braces] at h

theorem length_messageIn {message : String}
    (matched : .matched ∉ replacementPieces message.toList)
    (left : .before ∉ replacementPieces message.toList)
    (right : .after ∉ replacementPieces message.toList) (before after : List Char) :
    (messageIn message before after).length +
      (replacementPieces message.toList).count .dollar = message.toList.length := by
  have h := length_stands messagePlaceholder.toList before after matched left right
  rwa [written_pieces, ← getSubstitution_eq] at h

/-- A template with two gaps shows that a message without patterns only is put in as it is:
what is before the second gap and after the first one has braces, and two dollar signs make
one. -/
theorem patternFree_of_two {message : String} {first second third : List Char}
    {others : List (List Char)}
    (same : fill messagePlaceholder.toList (messageIn message) []
        (first :: second :: third :: others) =
      message.toList.intercalate (first :: second :: third :: others)) :
    PatternFree message := by
  have counts := @eq_of_measure _ _ (fun text => (text.count '\x7b' : Int)) (messageIn message)
    message.toList (fun a b => by simp) (fun before after => by rw [count_messageIn]; omega) _ _
    (congrArg (fun text => (text.count '\x7b' : Int)) same)
  simp only [gaps, List.forall_mem_cons, Nat.cast_inj, count_messageIn] at counts
  obtain ⟨atFirst, atSecond, -⟩ := counts
  have braces : messagePlaceholder.toList.count '\x7b' = 2 := by decide
  rw [List.intercalate_cons_cons] at atFirst
  simp only [List.count_append, braces] at atFirst atSecond
  have matched : (replacementPieces message.toList).count .matched = 0 := by omega
  have after : (replacementPieces message.toList).count .after = 0 := by
    by_contra hne
    have := Nat.le_mul_of_pos_left
      (second.count '\x7b' + 2 +
        (messagePlaceholder.toList.intercalate (third :: others)).count '\x7b')
      (Nat.pos_of_ne_zero hne)
    omega
  have before : (replacementPieces message.toList).count .before = 0 := by
    by_contra hne
    have := Nat.le_mul_of_pos_left
      (List.count '\x7b' [] + first.count '\x7b' + 2 + second.count '\x7b')
      (Nat.pos_of_ne_zero hne)
    omega
  rw [List.count_eq_zero] at matched after before
  have lengths := @eq_of_measure _ _ (fun text => -(text.length : Int)) (messageIn message)
    message.toList (fun a b => by simp; omega)
    (fun left right => by have := length_messageIn matched before after left right; omega) _ _
    (congrArg (fun text => -(text.length : Int)) same)
  simp only [gaps, List.forall_mem_cons] at lengths
  have dollar : (replacementPieces message.toList).count .dollar = 0 := by
    have := length_messageIn matched before after ([] ++ first)
      (messagePlaceholder.toList.intercalate (second :: third :: others))
    omega
  rw [List.count_eq_zero] at dollar
  refine patternFree_iff.mpr fun piece hmem => ?_
  cases piece with
  | char c => exact ⟨c, rfl⟩
  | dollar => exact absurd hmem dollar
  | matched => exact absurd hmem matched
  | before => exact absurd hmem before
  | after => exact absurd hmem after

/-- The template is rendered with the message in place of each placeholder, and if it has one,
the message is found in the text that the sender and the history get. -/
structure RenderedVerbatim (template message : String) : Prop where
  rendered : (renderTemplate template message).toList = verbatim template message
  sent : messagePlaceholder.toList <:+: template.toList →
    ∀ (request : WarningRequest) (config : NotificationConfigEntity),
      request.message = message → config.messageTemplate = some template →
        ∃ text : String, message.toList <:+: text.toList ∧
          (∀ t, sendTo t request config = send t config text) ∧
          ∀ run, (attemptRow request config run).message = text

theorem RenderedVerbatim.of_rendered {template message : String}
    (rendered : (renderTemplate template message).toList = verbatim template message) :
    RenderedVerbatim template message := by
  refine ⟨rendered, fun here request config hmessage htemplate => ?_⟩
  have truthy : template ≠ "" := by
    rintro rfl
    exact messagePlaceholder_ne_nil (List.infix_nil.mp here)
  have text : renderedMessage config request.message = renderTemplate template message := by
    simp [renderedMessage, htemplate, hmessage, Option.filter_some, truthy]
  refine ⟨renderTemplate template message, ?_, fun t => ?_, fun run => text⟩
  · obtain ⟨first, second, rest, hsegments⟩ := exists_two_parts messagePlaceholder_ne_nil here
    rw [rendered, verbatim, segments, hsegments, List.intercalate_cons_cons]
    exact ⟨first, message.toList.intercalate (second :: rest), rfl⟩
  · rw [sendTo, text]

/-- A message is rendered verbatim exactly when the template has no placeholder, no dollar
sign of the message begins a pattern, or between the text before and after the only
placeholder the patterns spell the message. -/
theorem render_verbatim_iff (template message : String) :
    RenderedVerbatim template message ↔
      ¬ messagePlaceholder.toList <:+: template.toList ∨ PatternFree message ∨
        ∃ before after, segments template = [before, after] ∧
          messageIn message before after = message.toList := by
  constructor
  · rintro ⟨rendered, -⟩
    rw [renderTemplate_eq, verbatim] at rendered
    by_cases here : messagePlaceholder.toList <:+: template.toList
    · obtain ⟨first, second, rest, hsegments⟩ := exists_two_parts messagePlaceholder_ne_nil here
      refine .inr ?_
      rw [segments, hsegments] at rendered ⊢
      cases rest with
      | nil => exact .inr ⟨first, second, rfl, by simpa [fill] using rendered⟩
      | cons third rest => exact .inl (patternFree_of_two rendered)
    · exact .inl here
  · intro h
    refine .of_rendered ?_
    rw [renderTemplate_eq, verbatim]
    rcases h with absent | free | ⟨before, after, hsegments, same⟩
    · rw [segments, parts_of_absent messagePlaceholder_ne_nil absent]
      simp [fill]
    · rw [← fill_const messagePlaceholder.toList message.toList []]
      congr 1
      funext before after
      exact getSubstitution_of_patternFree free _ before after
    · rw [hsegments]
      simpa [fill] using same

/-- The message of a device that is named after a department. -/
theorem departmentAlert_changed :
    ¬ RenderedVerbatim "Alert: \x7b\x7bmessage\x7d\x7d" "R$&D: temperature = 41" := by
  intro verbatim
  exact absurd verbatim.rendered (by decide)

end AiotCloud
