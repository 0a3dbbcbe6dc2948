/- # Agreement.Proofs.Render.Reader: reading markup back

Markup is a tree of elements with quoted attributes. This module says how a tree is written and
gives a reader of its own, one step for each character, with a stack of the elements that are open.
The reader is strict: a closing tag names the element that is open, attributes are quoted and named
once, and the five special characters stand in text and in values as entities only. What is written
from a well formed tree reads back as that tree.
-/
import Agreement.Render.Markup
import Mathlib.Data.List.Chain

namespace Agreement.Markup

/-! ## Trees -/

/-- An attribute: its name and its value before escaping. -/
abbrev Attribute := String × String

/-- A piece of markup. -/
inductive Node
  | text (s : String)
  | element (name : String) (attributes : List Attribute) (children : List Node)
  /-- An element that has neither content nor a closing tag. -/
  | void (name : String) (attributes : List Attribute)

/-- Whether a node is text. -/
def Node.isText : Node → Bool
  | .text _ => true
  | _ => false

/-- An attribute, with the space before it. -/
def writeAttribute (a : Attribute) : List Char :=
  ' ' :: (a.1.toList ++ '=' :: '"' :: (escape a.2.toList ++ ['"']))

/-- An opening tag. -/
def openTag (name : String) (attributes : List Attribute) : List Char :=
  '<' :: (name.toList ++ (attributes.flatMap writeAttribute ++ ['>']))

/-- A closing tag. -/
def closeTag (name : String) : List Char := '<' :: '/' :: (name.toList ++ ['>'])

mutual

/-- The text of a node. -/
def Node.write : Node → List Char
  | .text s => escape s.toList
  | .element name attributes children =>
    openTag name attributes ++ (writeAll children ++ closeTag name)
  | .void name attributes => openTag name attributes

/-- The text of nodes in order. -/
def writeAll : List Node → List Char
  | [] => []
  | node :: rest => node.write ++ writeAll rest

end

/-! ## The reader -/

/-- The names of the elements without a closing tag. -/
def voidNames : List String :=
  ["area", "base", "br", "col", "embed", "hr", "img", "input", "link", "meta", "source", "track",
    "wbr"]

/-- Whether a character can stand in a name. -/
def isNameChar (c : Char) : Bool := c.isAlphanum || c == '-'

/-- The characters that stand in text and in values as entities. -/
def isSpecial (c : Char) : Bool := c == '&' || c == '<' || c == '>' || c == '"' || c == '\''

/-- The character of an entity. -/
def entity? : String → Option Char
  | "amp" => some '&'
  | "lt" => some '<'
  | "gt" => some '>'
  | "quot" => some '"'
  | "#39" => some '\''
  | _ => none

/-- What the reader stands in. -/
inductive Mode
  | content
  /-- The name of an opening tag. -/
  | opening (name : String)
  /-- The name of a closing tag. -/
  | closing (name : String)
  /-- An opening tag after its name or one of its attributes. -/
  | tag (name : String) (attributes : List Attribute)
  /-- The name of an attribute. -/
  | attribute (name : String) (attributes : List Attribute) (key : String)
  /-- Before the quote that opens a value. -/
  | quote (name : String) (attributes : List Attribute) (key : String)
  | value (name : String) (attributes : List Attribute) (key value : String)
  /-- An entity in content or in a value. -/
  | entity (inside : Mode) (name : String)

/-- An element that is open, with the nodes before it on its level, the last one first. -/
structure Frame where
  name : String
  attributes : List Attribute
  before : List Node

/-- The state of the reader: its mode, the nodes that it has on the innermost level, the last one
first, and the elements that are open, the innermost first. -/
structure Reader where
  mode : Mode
  level : List Node
  stack : List Frame

/-- The nodes of a level with a character after them, which goes on a text that is last. -/
def addChar (c : Char) : List Node → List Node
  | .text s :: rest => .text (s.push c) :: rest
  | level => .text (String.singleton c) :: level

namespace Reader

/-- Takes a character of content or of a value. -/
def take (r : Reader) (c : Char) : Option Reader :=
  match r.mode with
  | .content => some { r with level := addChar c r.level }
  | .value name attributes key value =>
    some { r with mode := .value name attributes key (value.push c) }
  | _ => none

/-- Takes an opening tag. -/
def enter (r : Reader) (name : String) (attributes : List Attribute) : Reader :=
  if name ∈ voidNames then ⟨.content, .void name attributes :: r.level, r.stack⟩
  else ⟨.content, [], ⟨name, attributes, r.level⟩ :: r.stack⟩

/-- Takes a closing tag, which must name the innermost open element. -/
def leave (r : Reader) (name : String) : Option Reader :=
  match r.stack with
  | frame :: stack =>
    if frame.name = name then
      some ⟨.content, .element name frame.attributes r.level.reverse :: frame.before, stack⟩
    else none
  | [] => none

/-- Takes what comes after the name or an attribute of an opening tag. -/
def afterPart (r : Reader) (name : String) (attributes : List Attribute) (c : Char) :
    Option Reader :=
  if c = ' ' then some { r with mode := .attribute name attributes "" }
  else if c = '>' then some (r.enter name attributes)
  else none

/-- Reads one character. -/
def step (r : Reader) (c : Char) : Option Reader :=
  match r.mode with
  | .content =>
    if c = '<' then some { r with mode := .opening "" }
    else if c = '&' then some { r with mode := .entity .content "" }
    else if isSpecial c then none
    else r.take c
  | .opening name =>
    if isNameChar c then some { r with mode := .opening (name.push c) }
    -- a slash right after the bracket makes it a closing tag
    else if name = "" then if c = '/' then some { r with mode := .closing "" } else none
    else r.afterPart name [] c
  | .closing name =>
    if isNameChar c then some { r with mode := .closing (name.push c) }
    else if c = '>' then r.leave name
    else none
  | .tag name attributes => r.afterPart name attributes c
  | .attribute name attributes key =>
    if isNameChar c then some { r with mode := .attribute name attributes (key.push c) }
    else if c = '=' ∧ key ≠ "" ∧ key ∉ attributes.map (·.1) then
      some { r with mode := .quote name attributes key }
    else none
  | .quote name attributes key =>
    if c = '"' then some { r with mode := .value name attributes key "" } else none
  | .value name attributes key value =>
    if c = '"' then some { r with mode := .tag name (attributes ++ [(key, value)]) }
    else if c = '&' then some { r with mode := .entity r.mode "" }
    else if isSpecial c then none
    else r.take c
  | .entity inside name =>
    if c = ';' then (entity? name).bind { r with mode := inside }.take
    else some { r with mode := .entity inside (name.push c) }

/-- Reads a text. -/
def run (r : Reader) (text : List Char) : Option Reader := text.foldlM step r

end Reader

/-- The tree of a text in which every element is closed. -/
def read (text : List Char) : Option (List Node) :=
  match Reader.run ⟨.content, [], []⟩ text with
  | some ⟨.content, level, []⟩ => some level.reverse
  | _ => none

/-! ## Well formed trees -/

/-- Whether a text is a name: it holds something, and name characters alone. -/
def isName (s : String) : Bool := s != "" && s.toList.all isNameChar

theorem ne_empty_of_isName {s : String} (h : isName s = true) : s ≠ "" := by
  simp only [isName, Bool.and_eq_true, bne_iff_ne] at h
  exact h.1

theorem isNameChar_of_isName {s : String} (h : isName s = true) :
    ∀ c ∈ s.toList, isNameChar c = true := by
  simp only [isName, Bool.and_eq_true] at h
  exact List.all_eq_true.mp h.2

/-- Every attribute has a name, and no two have the same. -/
structure AreAttributes (attributes : List Attribute) : Prop where
  names : ∀ a ∈ attributes, isName a.1 = true
  distinct : (attributes.map (·.1)).Nodup

/-- No two texts stand side by side. -/
def AreApart (nodes : List Node) : Prop := nodes.IsChain fun a b => ¬ (a.isText ∧ b.isText)

/-- A tree that can be read back: names are names, texts hold something and stand apart, and
exactly the elements without content have no closing tag. -/
inductive Node.WellFormed : Node → Prop
  | text {s : String} : s ≠ "" → WellFormed (.text s)
  | element {name : String} {attributes : List Attribute} {children : List Node} :
      isName name = true → name ∉ voidNames → AreAttributes attributes →
      (∀ node ∈ children, node.WellFormed) → AreApart children →
      WellFormed (.element name attributes children)
  | void {name : String} {attributes : List Attribute} :
      isName name = true → name ∈ voidNames → AreAttributes attributes →
      WellFormed (.void name attributes)

/-! ## What the reader does with a part of a text -/

namespace Reader

theorem run_cons (r : Reader) (c : Char) (text : List Char) :
    run r (c :: text) = (step r c).bind (run · text) := rfl

theorem run_append (r : Reader) (a b : List Char) :
    run r (a ++ b) = (run r a).bind (run · b) := List.foldlM_append

/-- Reading goes on where it has come to. -/
theorem run_append_of {r next : Reader} {a : List Char} (h : run r a = some next)
    (b : List Char) : run r (a ++ b) = run next b := by
  rw [run_append, h, Option.bind_some]

theorem push_append (s : String) (c : Char) (text : List Char) :
    s.push c ++ String.ofList text = s ++ String.ofList (c :: text) := by
  rw [← String.toList_inj]
  simp

section Parts

variable {level : List Node} {stack : List Frame}

/-- A mode that collects name characters collects a name. -/
theorem run_name (mode : String → Mode) (collects : ∀ t c, isNameChar c = true →
      step ⟨mode t, level, stack⟩ c = some ⟨mode (t.push c), level, stack⟩)
    {name : String} (valid : isName name = true) :
    run ⟨mode "", level, stack⟩ name.toList = some ⟨mode name, level, stack⟩ := by
  have from_text (text : List Char) (t : String) (chars : ∀ c ∈ text, isNameChar c = true) :
      run ⟨mode t, level, stack⟩ text = some ⟨mode (t ++ String.ofList text), level, stack⟩ := by
    induction text generalizing t with
    | nil => simp [run]
    | cons c text ih =>
        obtain ⟨first, rest⟩ := List.forall_mem_cons.mp chars
        rw [run_cons, collects t c first, Option.bind_some, ih _ rest, push_append]
  have whole := from_text name.toList "" (isNameChar_of_isName valid)
  rwa [String.ofList_toList, String.empty_append] at whole

/-! ### Characters and entities -/

/-- The modes in which text is read. -/
inductive TakesText : Mode → Prop
  | content : TakesText .content
  | value (name : String) (attributes : List Attribute) (key value : String) :
      TakesText (.value name attributes key value)

theorem step_of_not_special {r : Reader} (takes : TakesText r.mode) {c : Char}
    (plain : isSpecial c = false) : step r c = r.take c := by
  obtain ⟨mode, level, stack⟩ := r
  simp only [isSpecial, Bool.or_eq_false_iff, beq_eq_false_iff_ne] at plain
  obtain ⟨⟨⟨⟨amp, lt⟩, gt⟩, quot⟩, apos⟩ := plain
  cases takes <;> simp [step, isSpecial, amp, lt, gt, quot, apos]

theorem step_ampersand {r : Reader} (takes : TakesText r.mode) :
    step r '&' = some { r with mode := .entity r.mode "" } := by
  obtain ⟨mode, level, stack⟩ := r
  cases takes <;> rfl

/-- An entity is read as its character. -/
theorem run_entity {r : Reader} (takes : TakesText r.mode) {name : List Char} {c : Char}
    (known : entity? (String.ofList name) = some c) (unended : ';' ∉ name) :
    run r ('&' :: (name ++ [';'])) = r.take c := by
  have collects (text : List Char) (t : String) (absent : ';' ∉ text) :
      run { r with mode := .entity r.mode t } text =
        some { r with mode := .entity r.mode (t ++ String.ofList text) } := by
    induction text generalizing t with
    | nil => simp [run]
    | cons d text ih =>
        have other : d ≠ ';' := fun same => absent (same ▸ List.mem_cons_self)
        have later : ';' ∉ text := fun h => absent (List.mem_cons_of_mem d h)
        have pushed : step { r with mode := .entity r.mode t } d =
            some { r with mode := .entity r.mode (t.push d) } := if_neg other
        rw [run_cons, pushed, Option.bind_some, ih _ later, push_append]
  have name_read := collects name "" unended
  rw [String.empty_append] at name_read
  rw [run_cons, step_ampersand takes, Option.bind_some, run_append_of name_read, run_cons]
  -- the semicolon goes back to the mode in which the entity started
  have ends : step { r with mode := .entity r.mode (String.ofList name) } ';' =
      (entity? (String.ofList name)).bind r.take := rfl
  rw [ends, known, Option.bind_some]
  cases r.take c <;> rfl

/-- A character is read as itself, however it is written. -/
theorem run_escapeChar {r : Reader} (takes : TakesText r.mode) (c : Char) :
    run r (escapeChar c) = r.take c := by
  unfold escapeChar
  split
  · next same => rw [same]; exact @run_entity r takes "amp".toList '&' rfl (by decide)
  · split
    · next same => rw [same]; exact @run_entity r takes "lt".toList '<' rfl (by decide)
    · split
      · next same => rw [same]; exact @run_entity r takes "gt".toList '>' rfl (by decide)
      · split
        · next same => rw [same]; exact @run_entity r takes "quot".toList '"' rfl (by decide)
        · split
          · next same => rw [same]; exact @run_entity r takes "#39".toList '\'' rfl (by decide)
          · next amp lt gt quot apos =>
              have plain : isSpecial c = false := by simp [isSpecial, amp, lt, gt, quot, apos]
              rw [run_cons, step_of_not_special takes plain]
              cases r.take c <;> rfl

/-! ### Texts and values -/

/-- A level with a text after its nodes. -/
def addText (level : List Node) (text : List Char) : List Node :=
  text.foldl (fun level c => addChar c level) level

theorem addText_text (s : String) (rest : List Node) (text : List Char) :
    addText (.text s :: rest) text = .text (s ++ String.ofList text) :: rest := by
  induction text generalizing s with
  | nil => simp [addText]
  | cons c text ih =>
      rw [← push_append]
      exact ih (s.push c)

/-- A text after something else is a node. -/
theorem addText_of_not_text {s : String} (nonempty : s ≠ "")
    (apart : ∀ node ∈ level.head?, node.isText = false) :
    addText level s.toList = .text s :: level := by
  obtain ⟨c, text, chars⟩ : ∃ c text, s.toList = c :: text := by
    refine List.exists_cons_of_ne_nil fun empty => nonempty ?_
    rwa [String.toList_eq_nil_iff] at empty
  have first : addChar c level = .text (String.singleton c) :: level := by
    unfold addChar
    split
    · next t rest =>
        have := apart _ rfl
        cases this
    · rfl
  have whole : String.singleton c ++ String.ofList text = s := by
    rw [← String.toList_inj, chars]
    simp
  rw [chars, addText, List.foldl_cons, first, ← whole]
  exact addText_text _ _ _

theorem run_escape_content (text : List Char) :
    run ⟨.content, level, stack⟩ (escape text) = some ⟨.content, addText level text, stack⟩ := by
  induction text generalizing level with
  | nil => rfl
  | cons c text ih =>
      have one : run ⟨.content, level, stack⟩ (escapeChar c) =
          some ⟨.content, addChar c level, stack⟩ := run_escapeChar .content c
      rw [escape, List.flatMap_cons, run_append_of one]
      exact ih

theorem run_escape_value (name : String) (attributes : List Attribute) (key value : String)
    (text : List Char) :
    run ⟨.value name attributes key value, level, stack⟩ (escape text) =
      some ⟨.value name attributes key (value ++ String.ofList text), level, stack⟩ := by
  induction text generalizing value with
  | nil => simp [escape, run]
  | cons c text ih =>
      have one : run ⟨.value name attributes key value, level, stack⟩ (escapeChar c) =
          some ⟨.value name attributes key (value.push c), level, stack⟩ :=
        run_escapeChar (.value name attributes key value) c
      rw [escape, List.flatMap_cons, run_append_of one, ← push_append]
      exact ih _

/-! ### Tags -/

/-- An attribute is read if no attribute before it has its name. -/
theorem run_attribute {name : String} {attributes : List Attribute} {a : Attribute}
    (valid : isName a.1 = true) (new : a.1 ∉ attributes.map (·.1)) :
    run ⟨.tag name attributes, level, stack⟩ (writeAttribute a) =
      some ⟨.tag name (attributes ++ [a]), level, stack⟩ := by
  obtain ⟨key, value⟩ := a
  have space : step ⟨.tag name attributes, level, stack⟩ ' ' =
      some ⟨.attribute name attributes "", level, stack⟩ := rfl
  have key_read : run ⟨.attribute name attributes "", level, stack⟩ key.toList =
      some ⟨.attribute name attributes key, level, stack⟩ :=
    run_name (.attribute name attributes) (fun t c ok => if_pos ok) valid
  have equals : step ⟨.attribute name attributes key, level, stack⟩ '=' =
      some ⟨.quote name attributes key, level, stack⟩ := by
    have name_ends : isNameChar '=' = false := by decide
    simp only [step, name_ends, Bool.false_eq_true, if_false, true_and]
    exact if_pos ⟨ne_empty_of_isName valid, new⟩
  have opens : step ⟨.quote name attributes key, level, stack⟩ '"' =
      some ⟨.value name attributes key "", level, stack⟩ := rfl
  have value_read := @run_escape_value level stack name attributes key "" value.toList
  rw [String.ofList_toList, String.empty_append] at value_read
  have closes : step ⟨.value name attributes key value, level, stack⟩ '"' =
      some ⟨.tag name (attributes ++ [(key, value)]), level, stack⟩ := rfl
  rw [writeAttribute, run_cons, space, Option.bind_some, run_append_of key_read, run_cons, equals,
    Option.bind_some, run_cons, opens, Option.bind_some, run_append_of value_read, run_cons, closes]
  rfl

theorem run_attributes {name : String} {done attributes : List Attribute}
    (valid : AreAttributes (done ++ attributes)) :
    run ⟨.tag name done, level, stack⟩ (attributes.flatMap writeAttribute) =
      some ⟨.tag name (done ++ attributes), level, stack⟩ := by
  induction attributes generalizing done with
  | nil => simp [run]
  | cons a attributes ih =>
      have new : a.1 ∉ done.map (·.1) := by
        have distinct := valid.distinct
        rw [List.map_append, List.map_cons, List.nodup_append] at distinct
        intro member
        exact distinct.2.2 _ member _ List.mem_cons_self rfl
      have one := @run_attribute level stack name done a (valid.names a (by simp)) new
      rw [List.flatMap_cons, run_append_of one, ih (by simpa using valid)]
      simp

/-- After its name an opening tag goes on as after an attribute. -/
theorem run_opening {name : String} (valid : isName name = true) {c : Char}
    (ends : isNameChar c = false) (text : List Char) :
    run ⟨.opening name, level, stack⟩ (c :: text) =
      run ⟨.tag name [], level, stack⟩ (c :: text) := by
  have same : step ⟨.opening name, level, stack⟩ c = step ⟨.tag name [], level, stack⟩ c := by
    simp only [step, ends]
    exact if_neg (ne_empty_of_isName valid)
  rw [run_cons, run_cons, same]

/-- An opening tag is read. -/
theorem run_openTag {name : String} {attributes : List Attribute} (valid : isName name = true)
    (areAttributes : AreAttributes attributes) :
    run ⟨.content, level, stack⟩ (openTag name attributes) =
      some (enter ⟨.content, level, stack⟩ name attributes) := by
  have opens : step ⟨.content, level, stack⟩ '<' = some ⟨.opening "", level, stack⟩ := rfl
  have name_read : run ⟨.opening "", level, stack⟩ name.toList =
      some ⟨.opening name, level, stack⟩ :=
    run_name .opening (fun t c ok => if_pos ok) valid
  have attributes_read := @run_attributes level stack name [] attributes areAttributes
  have ends : step ⟨.tag name attributes, level, stack⟩ '>' =
      some (enter ⟨.content, level, stack⟩ name attributes) := rfl
  have rest_read : run ⟨.tag name [], level, stack⟩
      (attributes.flatMap writeAttribute ++ ['>']) =
        some (enter ⟨.content, level, stack⟩ name attributes) := by
    rw [run_append_of attributes_read, List.nil_append, run_cons, ends]
    rfl
  rw [openTag, run_cons, opens, Option.bind_some, run_append_of name_read, ← rest_read]
  -- what follows the name is a space or the end of the tag
  cases attributes with
  | nil => exact run_opening valid (by decide) _
  | cons a attributes => exact run_opening valid (by decide) _

/-- A closing tag is read if it names the innermost open element. -/
theorem run_closeTag {name : String} (valid : isName name = true) (attributes : List Attribute)
    (before : List Node) :
    run ⟨.content, level, ⟨name, attributes, before⟩ :: stack⟩ (closeTag name) =
      some ⟨.content, .element name attributes level.reverse :: before, stack⟩ := by
  have opens : step ⟨.content, level, ⟨name, attributes, before⟩ :: stack⟩ '<' =
      some ⟨.opening "", level, ⟨name, attributes, before⟩ :: stack⟩ := rfl
  have slash : step ⟨.opening "", level, ⟨name, attributes, before⟩ :: stack⟩ '/' =
      some ⟨.closing "", level, ⟨name, attributes, before⟩ :: stack⟩ := rfl
  have name_read : run ⟨.closing "", level, ⟨name, attributes, before⟩ :: stack⟩ name.toList =
      some ⟨.closing name, level, ⟨name, attributes, before⟩ :: stack⟩ :=
    run_name .closing (fun t c ok => if_pos ok) valid
  have ends : step ⟨.closing name, level, ⟨name, attributes, before⟩ :: stack⟩ '>' =
      some ⟨.content, .element name attributes level.reverse :: before, stack⟩ := by
    have name_ends : isNameChar '>' = false := by decide
    simp only [step, name_ends, leave]
    simp
  rw [closeTag, run_cons, opens, Option.bind_some, run_cons, slash, Option.bind_some,
    run_append_of name_read, run_cons, ends]
  rfl

/-! ### Trees -/

/-- Nodes in order are read if each of them is. -/
theorem run_writeAll {nodes : List Node} (apart : AreApart nodes)
    (each : ∀ node ∈ nodes, ∀ level stack, (node.isText = true →
        ∀ last ∈ level.head?, last.isText = false) →
      run ⟨.content, level, stack⟩ node.write = some ⟨.content, node :: level, stack⟩)
    (before : ∀ node ∈ nodes.head?, node.isText = true →
      ∀ last ∈ level.head?, last.isText = false) :
    run ⟨.content, level, stack⟩ (writeAll nodes) =
      some ⟨.content, nodes.reverse ++ level, stack⟩ := by
  induction nodes generalizing level with
  | nil => rfl
  | cons node nodes ih =>
      have one := each node List.mem_cons_self level stack (before node rfl)
      obtain ⟨beside, apart⟩ := List.isChain_cons.mp apart
      have before_rest : ∀ next ∈ nodes.head?, next.isText = true →
          ∀ last ∈ (node :: level).head?, last.isText = false := by
        intro next hnext text last hlast
        obtain rfl : node = last := Option.some.inj hlast
        simpa [text] using beside next hnext
      have rest := ih apart (fun next h => each next (List.mem_cons_of_mem node h)) before_rest
      rw [writeAll, run_append_of one, rest, List.reverse_cons, List.append_assoc]
      rfl

/-- A well formed node is read as itself. -/
theorem run_write {node : Node} (h : node.WellFormed) (level : List Node) (stack : List Frame)
    (apart : node.isText = true → ∀ last ∈ level.head?, last.isText = false) :
    run ⟨.content, level, stack⟩ node.write = some ⟨.content, node :: level, stack⟩ := by
  -- the children of an element are read on a level of their own, which its closing tag takes up
  induction h generalizing level stack with
  | @text s nonempty =>
      rw [Node.write, run_escape_content, addText_of_not_text nonempty (apart rfl)]
  | @element name attributes children valid closed areAttributes _ apart_children ih =>
      have entered : enter ⟨.content, level, stack⟩ name attributes =
          ⟨.content, [], ⟨name, attributes, level⟩ :: stack⟩ := if_neg closed
      have opened := @run_openTag level stack name attributes valid areAttributes
      rw [entered] at opened
      have inside := @run_writeAll [] (⟨name, attributes, level⟩ :: stack) children apart_children
        ih (by simp)
      rw [Node.write, run_append_of opened, run_append_of inside, run_closeTag valid,
        List.append_nil, List.reverse_reverse]
  | @void name attributes valid unclosed areAttributes =>
      have entered : enter ⟨.content, level, stack⟩ name attributes =
          ⟨.content, .void name attributes :: level, stack⟩ := if_pos unclosed
      rw [Node.write, run_openTag valid areAttributes, entered]

end Parts

end Reader

/-- **What is written from a well formed tree reads back as that tree.** -/
theorem read_writeAll {nodes : List Node} (each : ∀ node ∈ nodes, node.WellFormed)
    (apart : AreApart nodes) : read (writeAll nodes) = some nodes := by
  have whole := @Reader.run_writeAll [] [] nodes apart
    (fun node h => Reader.run_write (each node h)) (by simp)
  rw [read, whole, List.append_nil]
  dsimp only
  rw [List.reverse_reverse]

/-- A special character that is not escaped is refused, in a value as in text. -/
example : (read "<p title=\"a<b\">c</p>".toList).isNone = true := by decide +kernel

end Agreement.Markup
