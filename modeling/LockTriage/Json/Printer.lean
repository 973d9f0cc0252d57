import LockTriage.Json.Number
import LockTriage.Text.Bytes

/-!
Writing JSON: compact, for what is stored and compared, and indented by two
spaces a level, for reports and the manifest. Quotes, backslashes and control
characters are escaped, and everything else is written as it is.
-/

namespace LockTriage.Json

def escape (c : Char) : List Char :=
  if c = '"' then ['\\', '"']
  else if c = '\\' then ['\\', '\\']
  else if c = '\x08' then ['\\', 'b']
  else if c = '\t' then ['\\', 't']
  else if c = '\n' then ['\\', 'n']
  else if c = '\x0c' then ['\\', 'f']
  else if c = '\r' then ['\\', 'r']
  else if c.toNat < 0x20 then
    ['\\', 'u', '0', '0', Bytes.hexDigit (c.toNat / 16), Bytes.hexDigit (c.toNat % 16)]
  else [c]

def quote (s : String) : List Char := '"' :: (s.toList.flatMap escape ++ ['"'])

mutual

/-- The text of a document without white space. -/
def compact : Json → List Char
  | .null => ['n', 'u', 'l', 'l']
  | .bool true => ['t', 'r', 'u', 'e']
  | .bool false => ['f', 'a', 'l', 's', 'e']
  | .number n => n.text
  | .text s => quote s
  | .list items => '[' :: (compactItems items ++ [']'])
  | .object members => '\x7b' :: (compactMembers members ++ ['\x7d'])

/-- The items of a list with commas between them. -/
def compactItems : List Json → List Char
  | [] => []
  | [item] => compact item
  | item :: rest => compact item ++ ',' :: compactItems rest

/-- The members of an object with commas between them. -/
def compactMembers : List (String × Json) → List Char
  | [] => []
  | [(name, value)] => quote name ++ ':' :: compact value
  | (name, value) :: rest => quote name ++ ':' :: (compact value ++ ',' :: compactMembers rest)

end

def newLine (level : Nat) : List Char := '\n' :: List.replicate (2 * level) ' '

mutual

/-- The text of a document with one item or member a line. Empty lists and
objects stay on one line. -/
def indented (level : Nat) : Json → List Char
  | .list [] => ['[', ']']
  | .list (item :: rest) =>
      '[' :: (newLine (level + 1) ++ indented (level + 1) item ++
        indentedItems (level + 1) rest ++ newLine level ++ [']'])
  | .object [] => ['\x7b', '\x7d']
  | .object ((name, value) :: rest) =>
      '\x7b' :: (newLine (level + 1) ++ quote name ++ [':', ' '] ++
        indented (level + 1) value ++ indentedMembers (level + 1) rest ++
        newLine level ++ ['\x7d'])
  | .null => ['n', 'u', 'l', 'l']
  | .bool true => ['t', 'r', 'u', 'e']
  | .bool false => ['f', 'a', 'l', 's', 'e']
  | .number n => n.text
  | .text s => quote s

/-- The items after the first one. -/
def indentedItems (level : Nat) : List Json → List Char
  | [] => []
  | item :: rest =>
      ',' :: (newLine level ++ indented level item ++ indentedItems level rest)

/-- The members after the first one. -/
def indentedMembers (level : Nat) : List (String × Json) → List Char
  | [] => []
  | (name, value) :: rest =>
      ',' :: (newLine level ++ quote name ++ [':', ' '] ++ indented level value ++
        indentedMembers level rest)

end

def render (j : Json) : String := String.ofList j.compact

def pretty (j : Json) : String := String.ofList (j.indented 0)

end LockTriage.Json
