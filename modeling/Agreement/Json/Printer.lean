/- # Agreement.Json.Printer: writing JSON text

There are two layouts: on one line, and indented by two spaces a level. They differ only in the
gaps before members and after colons, so one recursion writes both. Text is written raw except for
quotes, backslashes and control characters; a measure without a finite value is written as `null`.
-/
import Agreement.Json.Value

namespace Agreement.Json

/-- How JSON text is laid out. -/
inductive Layout
  | compact
  | pretty
  deriving DecidableEq, Repr

/-- The gap before a member or a closing bracket at a depth. -/
def Layout.gap : Layout → (depth : Nat) → List Char
  | .compact, _ => []
  | .pretty, depth => '\n' :: List.replicate (2 * depth) ' '

/-- The gap after the colon of a member. -/
def Layout.space : Layout → List Char
  | .compact => []
  | .pretty => [' ']

/-- A hexadecimal digit, in lower case. -/
def hexDigit (n : Nat) : Char := if n < 10 then Char.ofNat (48 + n) else Char.ofNat (87 + n)

/-- One character inside quotes. -/
def escape (c : Char) : List Char :=
  if c = '"' then ['\\', '"']
  else if c = '\\' then ['\\', '\\']
  else if c = '\x08' then ['\\', 'b']
  else if c = '\x0C' then ['\\', 'f']
  else if c = '\n' then ['\\', 'n']
  else if c = '\r' then ['\\', 'r']
  else if c = '\t' then ['\\', 't']
  else if c.toNat < 0x20 then
    ['\\', 'u', '0', '0', hexDigit (c.toNat / 16), hexDigit (c.toNat % 16)]
  else [c]

/-- A text in quotes. -/
def quote (s : List Char) : List Char := '"' :: s.flatMap escape ++ ['"']

mutual

/-- The text of a value whose first line starts at a depth. -/
def write (layout : Layout) (depth : Nat) : Json → List Char
  | null => ['n', 'u', 'l', 'l']
  | bool true => ['t', 'r', 'u', 'e']
  | bool false => ['f', 'a', 'l', 's', 'e']
  | count n => Number.digitsOf n
  | measure x => if x.isFinite then x.savedText else ['n', 'u', 'l', 'l']
  | string s => quote s.toList
  | array [] => ['[', ']']
  | array (item :: items) =>
    '[' :: layout.gap (depth + 1) ++ write layout (depth + 1) item ++
      writeItems layout (depth + 1) items ++ layout.gap depth ++ [']']
  | object [] => ['\x7b', '\x7d']
  | object (member :: members) =>
    '\x7b' :: layout.gap (depth + 1) ++ writeMember layout (depth + 1) member ++
      writeMembers layout (depth + 1) members ++ layout.gap depth ++ ['\x7d']

/-- The items after the first one, each with the comma before it. -/
def writeItems (layout : Layout) (depth : Nat) : List Json → List Char
  | [] => []
  | item :: items =>
    ',' :: layout.gap depth ++ write layout depth item ++ writeItems layout depth items

/-- One member of an object. -/
def writeMember (layout : Layout) (depth : Nat) : String × Json → List Char
  | (name, value) => quote name.toList ++ ':' :: layout.space ++ write layout depth value

/-- The members after the first one, each with the comma before it. -/
def writeMembers (layout : Layout) (depth : Nat) : List (String × Json) → List Char
  | [] => []
  | member :: members =>
    ',' :: layout.gap depth ++ writeMember layout depth member ++
      writeMembers layout depth members

end

/-- The JSON text of a value. -/
def text (layout : Layout) (j : Json) : String := String.ofList (write layout 0 j)

end Agreement.Json
