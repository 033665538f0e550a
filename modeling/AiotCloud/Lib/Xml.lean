import Mathlib.Data.List.Nodup

/-!
# XML 1.0 documents

A reader of documents made of elements, attributes, text and references, with no comment, no
processing instruction, no CDATA section and no document type, and a writer that escapes what
it is given.

1. `read`: line ends are normalized first; then the characters are read one by one, over the
   stack of the elements that are open.
2. `Markup`: an element as it is written, and `Markup.node`, what is read of it.
3. `read_write`: a document that is written is read back, with its line ends and the blanks
   of its attribute values normalized, just when all its characters are allowed.
-/

namespace Xml

abbrev Text := List Char

/-! ## Characters -/

def within (ranges : List (Nat × Nat)) (c : Char) : Bool :=
  ranges.any fun range => range.1 ≤ c.toNat && c.toNat ≤ range.2

/-- The characters that a document may have. -/
def isChar : Char → Bool :=
  within [(0x9, 0xA), (0xD, 0xD), (0x20, 0xD7FF), (0xE000, 0xFFFD), (0x10000, 0x10FFFF)]

def isBlank (c : Char) : Bool := c = ' ' || c = '\t' || c = '\n' || c = '\r'

def isNameStart : Char → Bool :=
  within [(0x3A, 0x3A), (0x41, 0x5A), (0x5F, 0x5F), (0x61, 0x7A), (0xC0, 0xD6), (0xD8, 0xF6),
    (0xF8, 0x2FF), (0x370, 0x37D), (0x37F, 0x1FFF), (0x200C, 0x200D), (0x2070, 0x218F),
    (0x2C00, 0x2FEF), (0x3001, 0xD7FF), (0xF900, 0xFDCF), (0xFDF0, 0xFFFD), (0x10000, 0xEFFFF)]

def isNameChar (c : Char) : Bool :=
  isNameStart c || within [(0x2D, 0x2E), (0x30, 0x39), (0xB7, 0xB7), (0x300, 0x36F),
    (0x203F, 0x2040)] c

def isName : Text → Bool
  | [] => false
  | c :: name => isNameStart c && name.all isNameChar

/-- Each line end, of one character or two, becomes a line feed. -/
def lineEnds : Text → Text
  | [] => []
  | '\r' :: '\n' :: text => '\n' :: lineEnds text
  | '\r' :: text => '\n' :: lineEnds text
  | c :: text => c :: lineEnds text

/-- A blank in an attribute value is read as a space. -/
def spaceOf (c : Char) : Char := if isBlank c then ' ' else c

/-! ## References -/

def digitOf (c : Char) : Option Nat :=
  if '0' ≤ c ∧ c ≤ '9' then some (c.toNat - 0x30)
  else if 'a' ≤ c ∧ c ≤ 'f' then some (c.toNat - 0x57)
  else if 'A' ≤ c ∧ c ≤ 'F' then some (c.toNat - 0x37)
  else none

/-- The character of a number; it must be one that a document may have. -/
def charOf (base : Nat) (digits : Text) : Option Char := do
  let number ← digits.foldlM (fun number c => do
    let digit ← digitOf c
    if digit < base then some (number * base + digit) else none) 0
  if digits ≠ [] ∧ number.isValidChar ∧ isChar (Char.ofNat number) then
    some (Char.ofNat number) else none

/-- The character that a reference stands for, by what is between `&` and `;`. -/
def resolve : Text → Option Char
  | ['a', 'm', 'p'] => some '&'
  | ['l', 't'] => some '<'
  | ['g', 't'] => some '>'
  | ['q', 'u', 'o', 't'] => some '"'
  | ['a', 'p', 'o', 's'] => some (Char.ofNat 0x27)
  | '#' :: 'x' :: digits => charOf 16 digits
  | '#' :: digits => charOf 10 digits
  | _ => none

/-! ## The reader -/

inductive Node where
  | char (c : Char)
  | element (name : Text) (attributes : List (Text × Text)) (children : List Node)

/-- A tag that is being read, or an element that is open with what was read of its content. -/
structure Frame where
  name : Text
  attributes : List (Text × Text)
  children : List Node

def Frame.add (frame : Frame) (nodes : List Node) : Frame :=
  { frame with children := frame.children ++ nodes }

def Frame.set (frame : Frame) (attributes : List (Text × Text)) : Frame :=
  { frame with attributes := frame.attributes ++ attributes }

def Frame.node (frame : Frame) : Node := .element frame.name frame.attributes frame.children

/-- What is being read. `quote` is the quotation mark of an attribute value, and `spaced` says
that a blank was read before an attribute. -/
inductive Mode where
  /-- Text, after so many square brackets. -/
  | content (brackets : Nat)
  | reference (name : Text)
  | tagStart
  | tagName (name : Text)
  | inTag (tag : Frame) (spaced : Bool)
  | attributeName (tag : Frame) (name : Text)
  | afterAttributeName (tag : Frame) (name : Text)
  | beforeValue (tag : Frame) (name : Text)
  | value (tag : Frame) (name : Text) (quote : Char) (text : Text)
  | valueReference (tag : Frame) (name : Text) (quote : Char) (text reference : Text)
  | slash (tag : Frame)
  | endName (name : Text)
  | afterEndName (name : Text)

/-- The innermost open element, those around it, and what is being read. -/
structure State where
  top : Frame
  below : List Frame
  mode : Mode

/-- The document itself is the outermost frame. -/
def start : State := ⟨⟨[], [], []⟩, [], .content 0⟩

def State.to (s : State) (mode : Mode) : State := { s with mode }

/-- A node is read into the innermost element. -/
def State.add (s : State) (nodes : List Node) (mode : Mode) : State :=
  { s with top := s.top.add nodes, mode }

def State.open (s : State) (tag : Frame) : State := ⟨tag, s.top :: s.below, .content 0⟩

/-- The end tag must have the name of the innermost element. -/
def State.close (s : State) (name : Text) : Option State :=
  match s.below with
  | [] => none
  | parent :: below =>
    if name = s.top.name then some ⟨parent.add [s.top.node], below, .content 0⟩ else none

/-- A character within a tag, where an attribute, or the end of the tag, may come. -/
def State.stepTag (s : State) (tag : Frame) (spaced : Bool) (c : Char) : Option State :=
  if isBlank c then some (s.to (.inTag tag true))
  else if c = '/' then some (s.to (.slash tag))
  else if c = '>' then some (s.open tag)
  else if spaced && isNameStart c then some (s.to (.attributeName tag [c]))
  else none

/-- An attribute is read to its end; no other of the tag has its name. -/
def State.addAttribute (s : State) (tag : Frame) (name text : Text) : Option State :=
  if name ∈ tag.attributes.map (·.1) then none
  else some (s.to (.inTag (tag.set [(name, text)]) false))

def State.step (s : State) (c : Char) : Option State :=
  match s.mode with
  | .content brackets =>
    if c = '<' then some (s.to .tagStart)
    else if c = '&' then if s.below.isEmpty then none else some (s.to (.reference []))
    else if c = '>' ∧ 2 ≤ brackets then none
    else some (s.add [.char c] (.content (if c = ']' then brackets + 1 else 0)))
  | .reference name =>
    if c = ';' then (resolve name).map fun c => s.add [.char c] (.content 0)
    else some (s.to (.reference (name ++ [c])))
  | .tagStart =>
    if c = '/' then some (s.to (.endName []))
    else if isNameStart c then some (s.to (.tagName [c]))
    else none
  | .tagName name =>
    if isNameChar c then some (s.to (.tagName (name ++ [c])))
    else s.stepTag ⟨name, [], []⟩ false c
  | .inTag tag spaced => s.stepTag tag spaced c
  | .attributeName tag name =>
    if isNameChar c then some (s.to (.attributeName tag (name ++ [c])))
    else if c = '=' then some (s.to (.beforeValue tag name))
    else if isBlank c then some (s.to (.afterAttributeName tag name))
    else none
  | .afterAttributeName tag name =>
    if c = '=' then some (s.to (.beforeValue tag name))
    else if isBlank c then some s
    else none
  | .beforeValue tag name =>
    if c = '"' ∨ c = Char.ofNat 0x27 then some (s.to (.value tag name c []))
    else if isBlank c then some s
    else none
  | .value tag name quote text =>
    if c = quote then s.addAttribute tag name text
    else if c = '<' then none
    else if c = '&' then some (s.to (.valueReference tag name quote text []))
    else some (s.to (.value tag name quote (text ++ [spaceOf c])))
  | .valueReference tag name quote text reference =>
    if c = ';' then (resolve reference).map fun c => s.to (.value tag name quote (text ++ [c]))
    else some (s.to (.valueReference tag name quote text (reference ++ [c])))
  | .slash tag => if c = '>' then some (s.add [tag.node] (.content 0)) else none
  | .endName name =>
    if c = '>' then s.close name
    else if isBlank c then some (s.to (.afterEndName name))
    else some (s.to (.endName (name ++ [c])))
  | .afterEndName name =>
    if c = '>' then s.close name
    else if isBlank c then some s
    else none

def State.run (s : State) (text : Text) : Option State := text.foldlM State.step s

def Node.isElement : Node → Bool
  | char _ => false
  | element .. => true

def Node.attributes : Node → List (Text × Text)
  | char _ => []
  | element _ attributes _ => attributes

def Node.children : Node → List Node
  | char _ => []
  | element _ _ children => children

def Node.hasName (name : Text) : Node → Bool
  | char _ => false
  | element own .. => own = name

/-- The elements with a name in an element. -/
def Node.elements (name : Text) (node : Node) : List Node := node.children.filter (·.hasName name)

/-- The text directly in an element. -/
def Node.text (node : Node) : Text :=
  node.children.filterMap fun | .char c => some c | .element .. => none

/-- The element of a document, with only blanks around it. -/
def rootOf (nodes : List Node) : Option Node :=
  match nodes.filter Node.isElement with
  | [root] =>
    if nodes.all (fun | .char c => isBlank c | .element .. => true) then some root else none
  | _ => none

def State.document (s : State) : Option Node :=
  match s.below, s.mode with
  | [], .content _ => rootOf s.top.children
  | _, _ => none

def declaration : Text := "<?xml version=\"1.0\" encoding=\"UTF-8\"?>".toList

def withoutDeclaration (text : Text) : Text :=
  if declaration <+: text then text.drop declaration.length else text

/-- The root of the document that a text is, if it is one. -/
def read (text : Text) : Option Node :=
  if text.all isChar then (start.run (lineEnds (withoutDeclaration text))).bind State.document
  else none

/-! ## The writer -/

def escapeChar (c : Char) : Text :=
  if c = '&' then "&amp;".toList
  else if c = '<' then "&lt;".toList
  else if c = '>' then "&gt;".toList
  else if c = '"' then "&quot;".toList
  else if c = Char.ofNat 0x27 then "&apos;".toList
  else [c]

def escape (text : Text) : Text := text.flatMap escapeChar

mutual
/-- An element as it is written: by one tag, or with its content between two. -/
inductive Markup where
  | empty (name : Text) (attributes : List (Text × Text))
  | element (name : Text) (attributes : List (Text × Text)) (content : Content)

/-- Elements, with the text before each of them and the text after the last. -/
inductive Content where
  | last (text : Text)
  | more (text : Text) (child : Markup) (rest : Content)
end

def writeAttributes (attributes : List (Text × Text)) : Text :=
  attributes.flatMap fun (name, text) => ' ' :: (name ++ '=' :: '"' :: (escape text ++ ['"']))

mutual
/-- What follows the first `<`. -/
def Markup.writeTail : Markup → Text
  | .empty name attributes => name ++ (writeAttributes attributes ++ [' ', '/', '>'])
  | .element name attributes content =>
    name ++ (writeAttributes attributes ++ '>' :: (content.write ++ '<' :: '/' :: (name ++ ['>'])))

def Content.write : Content → Text
  | .last text => escape text
  | .more text child rest => escape text ++ '<' :: (child.writeTail ++ rest.write)
end

def Markup.write (markup : Markup) : Text := '<' :: markup.writeTail

/-- Elements on lines of their own, each after a line feed and its indentation. -/
def lines (indent : Text) : List Markup → Text → Content
  | [], last => .last last
  | child :: rest, last => .more ('\n' :: indent) child (lines indent rest last)

/-- Lines with a line feed before and after them; without any, an empty line is left. -/
def block (indent : Text) (items : List Markup) (last : Text) : Content :=
  match items with
  | [] => .last ('\n' :: '\n' :: last)
  | items => lines indent items ('\n' :: last)

/-- The value of an attribute as it is read. -/
def valueOf (text : Text) : Text := (lineEnds text).map spaceOf

def readAttributes (attributes : List (Text × Text)) : List (Text × Text) :=
  attributes.map fun (name, text) => (name, valueOf text)

/-- Each attribute has a name, and no two have the same. -/
structure Named (attributes : List (Text × Text)) : Prop where
  names : ∀ key ∈ attributes.map (·.1), isName key = true
  distinct : (attributes.map (·.1)).Nodup

mutual
def Markup.WellNamed : Markup → Prop
  | .empty name attributes => isName name = true ∧ Named attributes
  | .element name attributes content => isName name = true ∧ Named attributes ∧ content.WellNamed

def Content.WellNamed : Content → Prop
  | .last _ => True
  | .more _ child rest => child.WellNamed ∧ rest.WellNamed
end

mutual
/-- The texts that are written in an element. -/
def Markup.texts : Markup → List Text
  | .empty _ attributes => attributes.map (·.2)
  | .element _ attributes content => attributes.map (·.2) ++ content.texts

def Content.texts : Content → List Text
  | .last text => [text]
  | .more text child rest => text :: (child.texts ++ rest.texts)
end

mutual
def Markup.node : Markup → Node
  | .empty name attributes => .element name (readAttributes attributes) []
  | .element name attributes content =>
    .element name (readAttributes attributes) content.nodes

def Content.nodes : Content → List Node
  | .last text => (lineEnds text).map .char
  | .more text child rest => (lineEnds text).map .char ++ child.node :: rest.nodes
end

/-! ## Reading what is written -/

/-- A text is read on from a state. -/
def State.feed (s : State) (text : Text) : Option State := s.run (lineEnds text)

theorem lineEnds_cons {c : Char} (text : Text) (h : c ≠ '\r') :
    lineEnds (c :: text) = c :: lineEnds text := by
  rw [lineEnds]
  · rintro rest rfl
    exact absurd rfl h
  · rintro rfl
    exact absurd rfl h

theorem feed_cons {c : Char} (s : State) (text : Text) (h : c ≠ '\r') :
    s.feed (c :: text) = (s.step c).bind (·.feed text) := by
  rw [State.feed, lineEnds_cons text h, State.run, List.foldlM_cons]
  rfl

/-- A line end of one character is read as a line feed, and so is one of two. -/
theorem feed_return (s : State) {text : Text} (h : text.head? ≠ some '\n') :
    s.feed ('\r' :: text) = s.feed ('\n' :: text) := by
  have next : lineEnds ('\r' :: text) = '\n' :: lineEnds text := by
    rw [lineEnds]
    rintro rest rfl
    exact h rfl
  rw [State.feed, State.feed, next, lineEnds_cons text (by decide)]

theorem feed_return_newline (s : State) (text : Text) :
    s.feed ('\r' :: '\n' :: text) = s.feed ('\n' :: text) := by
  rw [State.feed, State.feed, lineEnds, lineEnds_cons text (by decide)]

/-- A reader that takes in each of some characters takes in a text of them. -/
theorem feed_collect {p : Char → Prop} (collected : Text → State)
    (collect : ∀ before c rest, p c →
      (collected before).feed (c :: rest) = (collected (before ++ [c])).feed rest)
    (text before rest : Text) (h : ∀ c ∈ text, p c) :
    (collected before).feed (text ++ rest) = (collected (before ++ text)).feed rest := by
  induction text generalizing before with
  | nil => rw [List.append_nil, List.nil_append]
  | cons c text ih =>
    rw [List.cons_append, collect _ _ _ (h c List.mem_cons_self),
      ih _ fun c hc => h c (List.mem_cons_of_mem _ hc), List.append_assoc]
    rfl

/-! ### Escaped text -/

theorem escape_cons (c : Char) (text : Text) : escape (c :: text) = escapeChar c ++ escape text :=
  List.flatMap_cons

/-- The characters that are not written as they are. -/
def specials : Text := ['&', '<', '>', '"', Char.ofNat 0x27]

theorem escapeChar_of_not_mem {c : Char} (h : c ∉ specials) : escapeChar c = [c] := by
  simp only [specials, List.mem_cons, List.not_mem_nil, or_false, not_or] at h
  obtain ⟨hamp, hlt, hgt, hquot, hapos⟩ := h
  rw [escapeChar, if_neg hamp, if_neg hlt, if_neg hgt, if_neg hquot, if_neg hapos]

/-- The others are written as references, which are resolved to them. -/
theorem escapeChar_of_mem {c : Char} (h : c ∈ specials) :
    ∃ name, escapeChar c = '&' :: (name ++ [';']) ∧ resolve name = some c ∧
      ∀ x ∈ name, x ≠ ';' ∧ x ≠ '\r' := by
  simp only [specials, List.mem_cons, List.not_mem_nil, or_false] at h
  rcases h with rfl | rfl | rfl | rfl | rfl
  · exact ⟨['a', 'm', 'p'], rfl, rfl, by simp⟩
  · exact ⟨['l', 't'], rfl, rfl, by simp⟩
  · exact ⟨['g', 't'], rfl, rfl, by simp⟩
  · exact ⟨['q', 'u', 'o', 't'], rfl, rfl, by simp⟩
  · exact ⟨['a', 'p', 'o', 's'], rfl, rfl, by simp⟩

/-- Only a line feed is written with a line feed first. -/
theorem head_escape {text rest : Text} (htext : text.head? ≠ some '\n')
    (hrest : rest.head? ≠ some '\n') : (escape text ++ rest).head? ≠ some '\n' := by
  cases text with
  | nil => exact hrest
  | cons c text =>
    rw [escape_cons]
    by_cases special : c ∈ specials
    · obtain ⟨name, written, -⟩ := escapeChar_of_mem special
      rw [written, List.cons_append, List.cons_append, List.head?_cons]
      decide
    · rw [escapeChar_of_not_mem special]
      exact htext

/-- A reader of escaped text: it takes in a character that is written as it is, and one that a
reference stands for. -/
structure Absorbs (absorbed : Text → State) : Prop where
  literal : ∀ before c rest, c ∉ specials → c ≠ '\r' →
    (absorbed before).feed (c :: rest) = (absorbed (before ++ [c])).feed rest
  reference : ∀ before c name rest, c ∈ specials → resolve name = some c →
    (∀ x ∈ name, x ≠ ';' ∧ x ≠ '\r') →
      (absorbed before).feed ('&' :: (name ++ ';' :: rest)) = (absorbed (before ++ [c])).feed rest

theorem Absorbs.feed_escapeChar {absorbed : Text → State} (h : Absorbs absorbed) (before : Text)
    {c : Char} (rest : Text) (hc : c ≠ '\r') :
    (absorbed before).feed (escapeChar c ++ rest) = (absorbed (before ++ [c])).feed rest := by
  by_cases special : c ∈ specials
  · obtain ⟨name, written, hname, plain⟩ := escapeChar_of_mem special
    rw [written, List.cons_append, List.append_assoc]
    exact h.reference before c name rest special hname plain
  · rw [escapeChar_of_not_mem special]
    exact h.literal before c rest special hc

/-- Such a reader takes in a text with its line ends normalized. -/
theorem Absorbs.feed_escape {absorbed : Text → State} (h : Absorbs absorbed)
    (text before rest : Text) (hrest : rest.head? ≠ some '\n') :
    (absorbed before).feed (escape text ++ rest) =
      (absorbed (before ++ lineEnds text)).feed rest := by
  have newline : ∀ before rest, (absorbed before).feed ('\n' :: rest) =
      (absorbed (before ++ ['\n'])).feed rest :=
    fun before rest => h.literal before '\n' rest (by decide) (by decide)
  induction text using lineEnds.induct generalizing before with
  | case1 =>
    rw [lineEnds, List.append_nil]
    rfl
  | case2 text ih =>
    have written : escape ('\r' :: '\n' :: text) ++ rest =
        '\r' :: '\n' :: (escape text ++ rest) := rfl
    rw [written, feed_return_newline, newline, ih, lineEnds, List.append_assoc]
    rfl
  | case3 text hnext ih =>
    have written : escape ('\r' :: text) ++ rest = '\r' :: (escape text ++ rest) := rfl
    have next : (escape text ++ rest).head? ≠ some '\n' := by
      refine head_escape (fun first => ?_) hrest
      obtain ⟨tail, rfl⟩ := List.head?_eq_some_iff.mp first
      exact hnext tail rfl
    rw [written, feed_return _ next, newline, ih, lineEnds, List.append_assoc]
    · rfl
    · exact hnext
  | case4 c text hpair hreturn ih =>
    have plain : c ≠ '\r' := fun h => hreturn h
    rw [escape_cons, List.append_assoc, h.feed_escapeChar _ _ plain, ih, lineEnds_cons text plain,
      List.append_assoc]
    rfl

/-! ### Text -/

@[simp] theorem Frame.add_nil (frame : Frame) : frame.add [] = frame := by
  simp [Frame.add]

@[simp] theorem Frame.add_add (frame : Frame) (nodes nodes' : List Node) :
    (frame.add nodes).add nodes' = frame.add (nodes ++ nodes') := by
  simp [Frame.add]

section

variable (top parent : Frame) (below : List Frame)

/-- A reference to a character is read as the character. -/
theorem feed_reference {name : Text} {c : Char} (n : Nat) (rest : Text)
    (hc : resolve name = some c) (plain : ∀ x ∈ name, x ≠ ';' ∧ x ≠ '\r') :
    State.feed ⟨top, parent :: below, .content n⟩ ('&' :: (name ++ ';' :: rest)) =
      State.feed ⟨top.add [.char c], parent :: below, .content 0⟩ rest := by
  have named := feed_collect (fun before => ⟨top, parent :: below, .reference before⟩)
    (fun before x rest hx => by
      simp [feed_cons _ _ hx.2, State.step, hx.1, State.to]) name [] (';' :: rest) plain
  rw [feed_cons _ _ (by decide)]
  exact named.trans (by simp [feed_cons, State.step, hc, State.add])

theorem feed_text (n : Nat) (text rest : Text) :
    State.feed ⟨top, parent :: below, .content n⟩ (escape text ++ '<' :: rest) =
      State.feed ⟨top.add ((lineEnds text).map .char), parent :: below, .tagStart⟩ rest := by
  let absorbed (before : Text) : State :=
    ⟨top.add (before.map .char), parent :: below,
      .content (before.foldl (fun n c => if c = ']' then n + 1 else 0) n)⟩
  have absorbs : Absorbs absorbed := by
    constructor
    · intro before c rest special hc
      simp only [specials, List.mem_cons, List.not_mem_nil, or_false, not_or] at special
      rw [feed_cons _ _ hc]
      simp [absorbed, State.step, special, State.add]
    · intro before c name rest special hname plain
      have bracket : c ≠ ']' := by
        rintro rfl
        exact absurd special (by decide)
      exact (feed_reference _ parent below _ rest hname plain).trans (by simp [absorbed, bracket])
  have taken := absorbs.feed_escape text [] ('<' :: rest) (by simp)
  simp only [absorbed, List.map_nil, Frame.add_nil, List.foldl_nil, List.nil_append] at taken
  rw [taken, feed_cons _ _ (by decide)]
  rfl

end

/-! ### Tags -/

theorem ne_of_isNameChar {c d : Char} (hc : isNameChar c = true) (hd : isNameChar d = false) :
    c ≠ d := by
  rintro rfl
  rw [hc] at hd
  cases hd

theorem isNameChar_of_isNameStart {c : Char} (h : isNameStart c = true) :
    isNameChar c = true := by
  rw [isNameChar, h, Bool.true_or]

theorem isBlank_of_isNameChar {c : Char} (h : isNameChar c = true) : isBlank c = false := by
  have hspace := ne_of_isNameChar h (by decide : isNameChar ' ' = false)
  have htab := ne_of_isNameChar h (by decide : isNameChar '\t' = false)
  have hnewline := ne_of_isNameChar h (by decide : isNameChar '\n' = false)
  have hreturn := ne_of_isNameChar h (by decide : isNameChar '\r' = false)
  simp [isBlank, hspace, htab, hnewline, hreturn]

theorem isName_cons {c : Char} {name : Text} (h : isName (c :: name) = true) :
    isNameStart c = true ∧ ∀ d ∈ name, isNameChar d = true := by
  rw [isName, Bool.and_eq_true, List.all_eq_true] at h
  exact h

theorem stepTag_name (s : State) (tag : Frame) {c : Char} (h : isNameStart c = true) :
    s.stepTag tag true c = some (s.to (.attributeName tag [c])) := by
  have hchar := isNameChar_of_isNameStart h
  have hslash := ne_of_isNameChar hchar (by decide : isNameChar '/' = false)
  have hend := ne_of_isNameChar hchar (by decide : isNameChar '>' = false)
  simp [State.stepTag, isBlank_of_isNameChar hchar, hslash, hend, h]

section

variable (top : Frame) (below : List Frame) (tag : Frame)

theorem feed_valueReference (key text : Text) {name : Text} {c : Char} (rest : Text)
    (hc : resolve name = some c) (plain : ∀ x ∈ name, x ≠ ';' ∧ x ≠ '\r') :
    State.feed ⟨top, below, .value tag key '"' text⟩ ('&' :: (name ++ ';' :: rest)) =
      State.feed ⟨top, below, .value tag key '"' (text ++ [c])⟩ rest := by
  have named := feed_collect
    (fun before => ⟨top, below, .valueReference tag key '"' text before⟩)
    (fun before x rest hx => by
      simp [feed_cons _ _ hx.2, State.step, hx.1, State.to]) name [] (';' :: rest) plain
  rw [feed_cons _ _ (by decide)]
  exact named.trans (by simp [feed_cons, State.step, hc, State.to])

theorem feed_value (key text rest : Text) (new : key ∉ tag.attributes.map (·.1)) :
    State.feed ⟨top, below, .value tag key '"' []⟩ (escape text ++ '"' :: rest) =
      State.feed ⟨top, below, .inTag (tag.set [(key, valueOf text)]) false⟩ rest := by
  let absorbed (before : Text) : State :=
    ⟨top, below, .value tag key '"' (before.map spaceOf)⟩
  have absorbs : Absorbs absorbed := by
    constructor
    · intro before c rest special hc
      simp only [specials, List.mem_cons, List.not_mem_nil, or_false, not_or] at special
      rw [feed_cons _ _ hc]
      simp [absorbed, State.step, special, State.to]
    · intro before c name rest special hname plain
      have same : spaceOf c = c := by
        have solid : ∀ c ∈ specials, isBlank c = false := by simp [specials, isBlank]
        rw [spaceOf, solid c special]
        rfl
      exact (feed_valueReference top below tag _ _ rest hname plain).trans
        (by simp [absorbed, same])
  have taken := absorbs.feed_escape text [] ('"' :: rest) (by simp)
  refine taken.trans ?_
  rw [feed_cons _ _ (by decide)]
  simp [absorbed, State.step, State.addAttribute, new, State.to, valueOf]

theorem feed_attribute {key : Text} (text rest : Text) (hkey : isName key = true)
    (new : key ∉ tag.attributes.map (·.1)) :
    State.feed ⟨top, below, .inTag tag false⟩
        (' ' :: (key ++ '=' :: '"' :: (escape text ++ '"' :: rest))) =
      State.feed ⟨top, below, .inTag (tag.set [(key, valueOf text)]) false⟩ rest := by
  cases key with
  | nil => cases hkey
  | cons c name =>
    obtain ⟨hc, hchars⟩ := isName_cons hkey
    have hchar := isNameChar_of_isNameStart hc
    have named := feed_collect (fun before => ⟨top, below, .attributeName tag before⟩)
      (fun before x rest (hx : isNameChar x = true) => by
        simp [feed_cons _ _ (ne_of_isNameChar hx (by decide)), State.step, hx, State.to])
      name [c] ('=' :: '"' :: (escape text ++ '"' :: rest)) hchars
    have first : State.step ⟨top, below, .inTag tag true⟩ c =
        some ⟨top, below, .attributeName tag [c]⟩ :=
      stepTag_name ⟨top, below, .inTag tag true⟩ tag hc
    have opened := feed_value top below tag (c :: name) text rest new
    rw [feed_cons _ _ (by decide), List.cons_append]
    show State.feed ⟨top, below, .inTag tag true⟩ _ = _
    rw [feed_cons _ _ (ne_of_isNameChar hchar (by decide)), first, Option.bind_some, named,
      feed_cons _ _ (by decide), ← opened]
    show State.feed ⟨top, below, .beforeValue tag _⟩ _ = _
    rw [feed_cons _ _ (by decide)]
    rfl

theorem feed_attributes {attributes : List (Text × Text)} (rest : Text)
    (names : ∀ key ∈ attributes.map (·.1), isName key = true)
    (new : (tag.attributes.map (·.1) ++ attributes.map (·.1)).Nodup) :
    State.feed ⟨top, below, .inTag tag false⟩ (writeAttributes attributes ++ rest) =
      State.feed ⟨top, below, .inTag (tag.set (readAttributes attributes)) false⟩ rest := by
  induction attributes generalizing tag with
  | nil => simp [writeAttributes, readAttributes, Frame.set]
  | cons pair attributes ih =>
    obtain ⟨key, text⟩ := pair
    have hkey : key ∉ tag.attributes.map (·.1) := fun h =>
      (List.nodup_append.mp new).2.2 key h key (by simp) rfl
    have written : writeAttributes ((key, text) :: attributes) ++ rest =
        ' ' :: (key ++ '=' :: '"' :: (escape text ++ '"' ::
          (writeAttributes attributes ++ rest))) := by
      simp [writeAttributes]
    rw [written, feed_attribute top below tag text _ (names key List.mem_cons_self) hkey,
      ih (tag.set [(key, valueOf text)])
        (fun key h => names key (List.mem_cons_of_mem _ h)) (by simpa [Frame.set] using new)]
    simp [readAttributes, Frame.set]

end

/-! ### Elements -/

section

variable {name : Text} {attributes : List (Text × Text)}

/-- A start tag is read up to the character after its attributes. -/
theorem feed_tag (top : Frame) (below : List Frame) {c : Char} (rest : Text)
    (hname : isName name = true) (named : Named attributes) (hc : c = ' ' ∨ c = '>') :
    State.feed ⟨top, below, .tagStart⟩ (name ++ (writeAttributes attributes ++ c :: rest)) =
      State.feed ⟨top, below, .inTag ⟨name, readAttributes attributes, []⟩ false⟩ (c :: rest) := by
  have next : ∀ d tail, d = ' ' ∨ d = '>' →
      State.feed ⟨top, below, .tagStart⟩ (name ++ d :: tail) =
        State.feed ⟨top, below, .inTag ⟨name, [], []⟩ false⟩ (d :: tail) := by
    intro d tail hd
    cases name with
    | nil => cases hname
    | cons e name =>
      obtain ⟨he, hchars⟩ := isName_cons hname
      have hchar := isNameChar_of_isNameStart he
      have collected := feed_collect (fun before => ⟨top, below, .tagName before⟩)
        (fun before x rest (hx : isNameChar x = true) => by
          simp [feed_cons _ _ (ne_of_isNameChar hx (by decide)), State.step, hx, State.to])
        name [e] (d :: tail) hchars
      have hslash := ne_of_isNameChar hchar (by decide : isNameChar '/' = false)
      rw [List.cons_append, feed_cons _ _ (ne_of_isNameChar hchar (by decide))]
      simp only [State.step, if_neg hslash, if_pos he, Option.bind_some, State.to]
      rw [collected]
      rcases hd with rfl | rfl
      · rw [feed_cons _ _ (by decide), feed_cons _ _ (by decide)]
        rfl
      · rw [feed_cons _ _ (by decide), feed_cons _ _ (by decide)]
        rfl
  cases attributes with
  | nil => exact next c rest hc
  | cons pair attributes =>
    have written : writeAttributes (pair :: attributes) ++ c :: rest =
        ' ' :: (pair.1 ++ '=' :: '"' :: (escape pair.2 ++ '"' ::
          (writeAttributes attributes ++ c :: rest))) := by
      simp [writeAttributes]
    have read := feed_attributes top below ⟨name, [], []⟩ (c :: rest) named.names
      (by simpa using named.distinct)
    rw [written] at read
    rw [written, next _ _ (.inl rfl), read]
    rfl

/-- An end tag closes the element that has its name. -/
theorem feed_endTag (attributes : List (Text × Text)) (children : List Node) (parent : Frame)
    (below : List Frame) (rest : Text) (hname : isName name = true) :
    State.feed ⟨⟨name, attributes, children⟩, parent :: below, .tagStart⟩
        ('/' :: (name ++ '>' :: rest)) =
      State.feed ⟨parent.add [.element name attributes children], below, .content 0⟩ rest := by
  have chars : ∀ d ∈ name, isNameChar d = true := by
    cases name with
    | nil => cases hname
    | cons c name =>
      obtain ⟨hc, hchars⟩ := isName_cons hname
      exact List.forall_mem_cons.mpr ⟨isNameChar_of_isNameStart hc, hchars⟩
  have collected := feed_collect
    (fun before => ⟨⟨name, attributes, children⟩, parent :: below, .endName before⟩)
    (fun before x rest (hx : isNameChar x = true) => by
      have hend := ne_of_isNameChar hx (by decide : isNameChar '>' = false)
      simp [feed_cons _ _ (ne_of_isNameChar hx (by decide)), State.step, hend,
        isBlank_of_isNameChar hx, State.to])
    name [] ('>' :: rest) chars
  rw [feed_cons _ _ (by decide)]
  refine collected.trans ?_
  rw [feed_cons _ _ (by decide)]
  simp [State.step, State.close, Frame.node]

end

mutual
theorem feed_markup (markup : Markup) (h : markup.WellNamed) (top : Frame) (below : List Frame)
    (rest : Text) :
    State.feed ⟨top, below, .tagStart⟩ (markup.writeTail ++ rest) =
      State.feed ⟨top.add [markup.node], below, .content 0⟩ rest := by
  cases markup with
  | empty name attributes =>
    have tag := feed_tag top below ('/' :: '>' :: rest) h.1 h.2 (.inl rfl)
    have closed : State.feed ⟨top, below, .inTag ⟨name, readAttributes attributes, []⟩ false⟩
        (' ' :: '/' :: '>' :: rest) =
        State.feed ⟨top.add [.element name (readAttributes attributes) []], below,
          .content 0⟩ rest := by
      rw [feed_cons _ _ (by decide)]
      show State.feed _ ('/' :: '>' :: rest) = _
      rw [feed_cons _ _ (by decide)]
      show State.feed _ ('>' :: rest) = _
      rw [feed_cons _ _ (by decide)]
      rfl
    simpa [Markup.writeTail, Markup.node] using tag.trans closed
  | element name attributes content =>
    have tag := feed_tag top below (content.write ++ '<' :: '/' :: (name ++ '>' :: rest))
      h.1 h.2.1 (.inr rfl)
    have inside := feed_content content h.2.2 ⟨name, readAttributes attributes, []⟩ top below 0
      ('/' :: (name ++ '>' :: rest))
    have closed := feed_endTag (readAttributes attributes) content.nodes top below rest h.1
    have opened : State.feed ⟨top, below, .inTag ⟨name, readAttributes attributes, []⟩ false⟩
        ('>' :: (content.write ++ '<' :: '/' :: (name ++ '>' :: rest))) =
        State.feed ⟨⟨name, readAttributes attributes, []⟩, top :: below, .content 0⟩
          (content.write ++ '<' :: '/' :: (name ++ '>' :: rest)) := by
      rw [feed_cons _ _ (by decide)]
      rfl
    simpa [Markup.writeTail, Markup.node] using
      tag.trans (opened.trans (inside.trans closed))

theorem feed_content (content : Content) (h : content.WellNamed) (top parent : Frame)
    (below : List Frame) (n : Nat) (rest : Text) :
    State.feed ⟨top, parent :: below, .content n⟩ (content.write ++ '<' :: rest) =
      State.feed ⟨top.add content.nodes, parent :: below, .tagStart⟩ rest := by
  cases content with
  | last text => exact feed_text top parent below n text rest
  | more text child content =>
    have before := feed_text top parent below n text
      (child.writeTail ++ (content.write ++ '<' :: rest))
    have inner := feed_markup child h.1 (top.add ((lineEnds text).map .char)) (parent :: below)
      (content.write ++ '<' :: rest)
    have after := feed_content content h.2
      ((top.add ((lineEnds text).map .char)).add [child.node]) parent below 0 rest
    simpa [Content.write, Content.nodes] using before.trans (inner.trans after)
end

/-! ## Documents -/

/-- The characters of a text are allowed in a document. -/
def Allowed (text : Text) : Prop := ∀ c ∈ text, isChar c = true

@[simp] theorem allowed_append {text text' : Text} :
    Allowed (text ++ text') ↔ Allowed text ∧ Allowed text' := List.forall_mem_append

@[simp] theorem allowed_cons {c : Char} {text : Text} :
    Allowed (c :: text) ↔ isChar c = true ∧ Allowed text := List.forall_mem_cons

@[simp] theorem allowed_nil : Allowed [] := fun _ h => nomatch h

theorem isChar_of_isNameChar {c : Char} (h : isNameChar c = true) : isChar c = true := by
  simp only [isNameChar, isNameStart, within, List.any_cons, List.any_nil, Bool.or_eq_true,
    Bool.and_eq_true, decide_eq_true_eq, Bool.or_false] at h
  simp only [isChar, within, List.any_cons, List.any_nil, Bool.or_eq_true, Bool.and_eq_true,
    decide_eq_true_eq, Bool.or_false]
  omega

theorem allowed_name {name : Text} (h : isName name = true) : Allowed name := by
  cases name with
  | nil => cases h
  | cons c name =>
    obtain ⟨hc, hchars⟩ := isName_cons h
    exact allowed_cons.mpr ⟨isChar_of_isNameChar (isNameChar_of_isNameStart hc),
      fun d hd => isChar_of_isNameChar (hchars d hd)⟩

/-- To escape a text makes no character of it allowed. -/
theorem allowed_escape {text : Text} : Allowed (escape text) ↔ Allowed text := by
  induction text with
  | nil => rfl
  | cons c text ih =>
    have hc : Allowed (escapeChar c) ↔ isChar c = true := by
      by_cases special : c ∈ specials
      · have written : specials.all (fun c => (escapeChar c).all isChar && isChar c) = true := by
          decide
        have both := Bool.and_eq_true_iff.mp (List.all_eq_true.mp written c special)
        exact iff_of_true (List.all_eq_true.mp both.1) both.2
      · rw [escapeChar_of_not_mem special]
        simp
    rw [escape_cons, allowed_append, allowed_cons, hc, ih]

theorem allowed_attributes {attributes : List (Text × Text)} (h : Named attributes) :
    Allowed (writeAttributes attributes) ↔ ∀ text ∈ attributes.map (·.2), Allowed text := by
  have names := h.names
  clear h
  induction attributes with
  | nil => simp [writeAttributes]
  | cons pair attributes ih =>
    have hname := allowed_name (names pair.1 List.mem_cons_self)
    have hrest : Allowed (writeAttributes attributes) ↔
        ∀ text ∈ attributes.map (·.2), Allowed text :=
      ih fun key h => names key (List.mem_cons_of_mem _ h)
    have marks : isChar ' ' = true ∧ isChar '=' = true ∧ isChar '"' = true := by decide
    rw [List.map_cons, List.forall_mem_cons, ← hrest]
    simp [writeAttributes, allowed_escape, hname, marks]

mutual
theorem allowed_writeTail (markup : Markup) (h : markup.WellNamed) :
    Allowed markup.writeTail ↔ ∀ text ∈ markup.texts, Allowed text := by
  have marks : isChar ' ' = true ∧ isChar '/' = true ∧ isChar '>' = true ∧ isChar '<' = true := by
    decide
  cases markup with
  | empty name attributes =>
    simp [Markup.writeTail, Markup.texts, allowed_name h.1, allowed_attributes h.2, marks]
  | element name attributes content =>
    have inside := allowed_content content h.2.2
    rw [Markup.texts, List.forall_mem_append, ← inside, ← allowed_attributes h.2.1]
    simp [Markup.writeTail, allowed_name h.1, marks]

theorem allowed_content (content : Content) (h : content.WellNamed) :
    Allowed content.write ↔ ∀ text ∈ content.texts, Allowed text := by
  cases content with
  | last text => simp [Content.write, Content.texts, allowed_escape]
  | more text child rest =>
    have mark : isChar '<' = true := by decide
    rw [Content.texts, List.forall_mem_cons, List.forall_mem_append,
      ← allowed_writeTail child h.1, ← allowed_content rest h.2]
    simp [Content.write, allowed_escape, mark]
end

/-- A document as it is written: a declaration, and the root on lines of its own. -/
def writeDocument (root : Markup) : Text := declaration ++ '\n' :: (root.write ++ ['\n'])

theorem allowed_writeDocument {root : Markup} (h : root.WellNamed) :
    Allowed (writeDocument root) ↔ ∀ text ∈ root.texts, Allowed text := by
  have declared : Allowed declaration := List.all_eq_true.mp (by decide)
  have marks : isChar '\n' = true ∧ isChar '<' = true := by decide
  rw [← allowed_writeTail root h]
  simp [writeDocument, Markup.write, declared, marks]

/-- What is read of a document that was written. -/
theorem read_write {root : Markup} (h : root.WellNamed)
    (allowed : ∀ text ∈ root.texts, Allowed text) :
    read (writeDocument root) = some root.node := by
  have all : (writeDocument root).all isChar = true :=
    List.all_eq_true.mpr ((allowed_writeDocument h).mpr allowed)
  have body : withoutDeclaration (writeDocument root) =
      '\n' :: '<' :: (root.writeTail ++ ['\n']) := by
    rw [withoutDeclaration, writeDocument, if_pos (List.prefix_append _ _), List.drop_left]
    rfl
  have element := feed_markup root h ⟨[], [], [.char '\n']⟩ [] ['\n']
  have last : State.feed ⟨Frame.add ⟨[], [], [.char '\n']⟩ [root.node], [], .content 0⟩ ['\n'] =
      some ⟨⟨[], [], [.char '\n', root.node, .char '\n']⟩, [], .content 0⟩ := rfl
  have fed : start.feed ('\n' :: '<' :: (root.writeTail ++ ['\n'])) =
      some ⟨⟨[], [], [.char '\n', root.node, .char '\n']⟩, [], .content 0⟩ := by
    rw [feed_cons _ _ (by decide)]
    show State.feed ⟨⟨[], [], [.char '\n']⟩, [], .content 0⟩ _ = _
    rw [feed_cons _ _ (by decide), ← last, ← element]
    rfl
  rw [read, if_pos all, body]
  show (start.feed _).bind _ = _
  rw [fed]
  cases root with
  | empty name attributes => rfl
  | element name attributes content => rfl

/-- A text with a character that is not allowed is not a document. -/
theorem allowed_of_read {text : Text} {root : Node} (h : read text = some root) :
    Allowed text := by
  rw [read] at h
  split at h
  · exact List.all_eq_true.mp ‹_›
  · cases h

/-! ## Lines -/

def Markup.name : Markup → Text
  | .empty name _ => name
  | .element name _ _ => name

theorem filter_chars (name text : Text) :
    (text.map Node.char).filter (·.hasName name) = [] := by
  induction text with
  | nil => rfl
  | cons c text ih => exact ih

section

variable {name indent last : Text} {items : List Markup}

theorem wellNamed_lines (h : ∀ item ∈ items, item.WellNamed) :
    (lines indent items last).WellNamed := by
  induction items with
  | nil => trivial
  | cons item items ih =>
    exact ⟨h item List.mem_cons_self, ih fun child hc => h child (List.mem_cons_of_mem _ hc)⟩

theorem wellNamed_block (h : ∀ item ∈ items, item.WellNamed) :
    (block indent items last).WellNamed := by
  cases items with
  | nil => trivial
  | cons item items => exact wellNamed_lines h

theorem hasName_node (item : Markup) : item.node.hasName name = decide (item.name = name) := by
  cases item <;> rfl

/-- The elements of some lines are found by their name. -/
theorem elements_lines : (lines indent items last).nodes.filter (·.hasName name) =
    (items.filter (·.name = name)).map Markup.node := by
  induction items with
  | nil => exact filter_chars name (lineEnds last)
  | cons item items ih =>
    rw [lines, Content.nodes, List.filter_append, filter_chars, List.nil_append,
      List.filter_cons, List.filter_cons, hasName_node, ih]
    split <;> rfl

theorem elements_block : (block indent items last).nodes.filter (·.hasName name) =
    (items.filter (·.name = name)).map Markup.node := by
  cases items with
  | nil => exact filter_chars name _
  | cons item items => exact elements_lines

/-- All elements of a block are found where they have one name. -/
theorem elements_node {parent : Text} {attributes : List (Text × Text)}
    (h : ∀ item ∈ items, item.name = name) :
    (Markup.element parent attributes (block indent items last)).node.elements name =
      items.map Markup.node := by
  have all : items.filter (·.name = name) = items :=
    List.filter_eq_self.mpr fun item hitem => decide_eq_true (h item hitem)
  exact (elements_block).trans (by rw [all])

theorem allowed_texts_lines (hindent : Allowed indent) (hlast : Allowed last) :
    (∀ text ∈ (lines indent items last).texts, Allowed text) ↔
      ∀ item ∈ items, ∀ text ∈ item.texts, Allowed text := by
  have mark : isChar '\n' = true := by decide
  induction items with
  | nil => simpa [lines, Content.texts] using hlast
  | cons item items ih =>
    have rest : (∀ text ∈ (lines indent items last).texts, Allowed text) ↔
        ∀ item ∈ items, ∀ text ∈ item.texts, Allowed text := ih
    rw [lines, Content.texts, List.forall_mem_cons, List.forall_mem_append, rest,
      List.forall_mem_cons]
    simp [hindent, mark]

theorem allowed_texts_block (hindent : Allowed indent) (hlast : Allowed last) :
    (∀ text ∈ (block indent items last).texts, Allowed text) ↔
      ∀ item ∈ items, ∀ text ∈ item.texts, Allowed text := by
  have mark : isChar '\n' = true := by decide
  cases items with
  | nil => simpa [block, Content.texts, mark] using hlast
  | cons item items => exact allowed_texts_lines hindent (by simp [mark, hlast])

theorem write_lines (hindent : escape indent = indent) (hlast : escape last = last) :
    (lines indent items last).write =
      items.flatMap (fun item => '\n' :: (indent ++ item.write)) ++ last := by
  induction items with
  | nil => exact hlast
  | cons item items ih =>
    have before : escape ('\n' :: indent) = '\n' :: indent := by
      rw [escape_cons, hindent]
      rfl
    simp [lines, Content.write, before, ih, Markup.write]

/-- A block is written as its lines, joined by line feeds. -/
theorem write_block (hindent : escape indent = indent) (hlast : escape last = last) :
    (block indent items last).write =
      '\n' :: (['\n'].intercalate (items.map fun item => indent ++ item.write) ++
        '\n' :: last) := by
  have hend : escape ('\n' :: last) = '\n' :: last := by
    rw [escape_cons, hlast]
    rfl
  cases items with
  | nil =>
    show escape ('\n' :: '\n' :: last) = _
    rw [escape_cons, hend]
    rfl
  | cons item items =>
    show (lines indent (item :: items) ('\n' :: last)).write = _
    rw [write_lines hindent hend]
    induction items generalizing item with
    | nil => simp
    | cons next items ih =>
      rw [List.flatMap_cons, List.append_assoc, ih next]
      simp

end

/-! ## What is read as it was written -/

theorem return_not_mem_lineEnds (text : Text) : '\r' ∉ lineEnds text := by
  induction text using lineEnds.induct with
  | case1 => exact List.not_mem_nil
  | case2 text ih =>
    rw [lineEnds]
    exact List.not_mem_cons_of_ne_of_not_mem (by decide) ih
  | case3 text hnext ih =>
    rw [lineEnds]
    · exact List.not_mem_cons_of_ne_of_not_mem (by decide) ih
    · exact hnext
  | case4 c text hpair hreturn ih =>
    have plain : c ≠ '\r' := fun h => hreturn h
    rw [lineEnds_cons text plain]
    exact List.not_mem_cons_of_ne_of_not_mem plain.symm ih

/-- The line ends of a text are kept just when none has a carriage return. -/
theorem lineEnds_eq_self_iff {text : Text} : lineEnds text = text ↔ '\r' ∉ text := by
  constructor
  · intro h
    rw [← h]
    exact return_not_mem_lineEnds text
  · intro h
    induction text with
    | nil => rw [lineEnds]
    | cons c text ih =>
      rw [List.mem_cons, not_or] at h
      rw [lineEnds_cons text (Ne.symm h.1), ih h.2]

/-- An attribute value is kept just when a space is the only blank in it. -/
theorem valueOf_eq_self_iff {text : Text} :
    valueOf text = text ↔ ∀ c ∈ text, isBlank c = true → c = ' ' := by
  have spaced : ∀ c, isBlank (spaceOf c) = true → spaceOf c = ' ' := by
    intro c h
    rw [spaceOf] at h ⊢
    split
    · rfl
    · rw [if_neg ‹_›] at h
      exact absurd h ‹_›
  constructor
  · intro h c hc
    rw [← h] at hc
    obtain ⟨d, -, rfl⟩ := List.mem_map.mp hc
    exact spaced d
  · intro h
    have hreturn : '\r' ∉ text := fun hmem => absurd (h _ hmem rfl) (by decide)
    rw [valueOf, lineEnds_eq_self_iff.mpr hreturn]
    refine (List.map_congr_left fun c hc => ?_).trans (List.map_id text)
    rw [spaceOf]
    split
    · exact (h c hc ‹_›).symm
    · rfl

end Xml
