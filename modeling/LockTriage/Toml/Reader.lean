import LockTriage.Toml.Node
import LockTriage.Toml.Number

/-!
TOML keys and values. Lists and inline tables may be nested only so deep, which
also bounds the recursion of the reader.
-/

namespace LockTriage.Toml

/-- A name without quotes is made of these. -/
def isBare (c : Char) : Bool := c.isAlphanum || c = '_' || c = '-'

/-- One name of a key, bare or in quotes. -/
def name : Reader String
  | '"' :: rest => (basicString rest).map fun (t, rest) => (String.ofList t, rest)
  | '\'' :: rest => (literalString rest).map fun (t, rest) => (String.ofList t, rest)
  | cs =>
      match cs.takeWhile isBare with
      | [] => none
      | found => some (String.ofList found, cs.dropWhile isBare)

/-- The names of a key with points between them. -/
def names (cs : List Char) : Option (List String × List Char) :=
  match name (skipSpaces cs) with
  | none => none
  | some (first, rest) =>
      match skipSpaces rest with
      | '.' :: more =>
          if more.length < cs.length then
            (names more).map fun (others, rest) => (first :: others, rest)
          else none
      | after => some ([first], after)
termination_by cs.length

/-- Values and keys may be nested less deep than this. -/
def nestingLimit : Nat := 80

/-- A key, as the names before the last one and the last one. -/
def key : Reader (List String × String) := fun cs => do
  let (found, rest) ← names cs
  let last ← found.getLast?
  if nestingLimit ≤ found.length then none else some ((found.dropLast, last), rest)

def keyValue (value : Reader Value) : Reader ((List String × String) × Value) := fun cs => do
  let (k, rest) ← key cs
  let rest ← exactly '=' rest
  let (v, rest) ← value (skipSpaces rest)
  some ((k, v), rest)

/-- The rest of a list after its opening bracket. A comma may follow the last item. -/
def arrayItems (value : Reader Value) (cs : List Char) : Option (List Value × List Char) :=
  match skipLines? false cs with
  | none => none
  | some (']' :: rest) => some ([], rest)
  | some start =>
      match value start with
      | none => none
      | some (item, rest) =>
          match skipLines? false rest with
          | some (']' :: more) => some ([item], more)
          | some (',' :: more) =>
              if more.length < cs.length then
                (arrayItems value more).map fun (items, rest) => (item :: items, rest)
              else none
          | _ => none
termination_by cs.length

/-- The members of an inline table after its opening brace. They stand on one
line, and no comma follows the last one. -/
def inlineMembers (value : Reader Value) (cs : List Char) :
    Option (List ((List String × String) × Value) × List Char) :=
  match keyValue value cs with
  | none => none
  | some (m, rest) =>
      match skipSpaces rest with
      | '\x7d' :: more => some ([m], more)
      | ',' :: more =>
          if more.length < cs.length then
            (inlineMembers value more).map fun (ms, rest) => (m :: ms, rest)
          else none
      | _ => none
termination_by cs.length

def inlineTable? (members : List ((List String × String) × Value)) : Option Value :=
  let entries := members.foldlM (fun entries ((outer, k), v) =>
    Node.within .dotted (Node.assign outer.isEmpty k v) outer .header entries) []
  entries.map fun entries => .table (Node.finishAll entries)

/-- A value that holds no other values. -/
def scalar : Reader Value
  | 't' :: 'r' :: 'u' :: 'e' :: rest => some (.boolean true, rest)
  | 'f' :: 'a' :: 'l' :: 's' :: 'e' :: rest => some (.boolean false, rest)
  | '"' :: rest => (string ('"' :: rest)).map fun (t, rest) => (.string t, rest)
  | '\'' :: rest => (string ('\'' :: rest)).map fun (t, rest) => (.string t, rest)
  | cs => numeral cs

/-- A value in which lists and inline tables are nested at most `depth` deep. -/
def value : Nat → Reader Value
  | 0, cs => scalar cs
  | depth + 1, cs =>
      match cs with
      | '[' :: rest =>
          (arrayItems (value depth) rest).map fun (items, rest) => (.array items, rest)
      | '\x7b' :: rest =>
          match skipSpaces rest with
          | '\x7d' :: more => some (.table [], more)
          | start => do
              let (members, rest) ← inlineMembers (value depth) start
              let table ← inlineTable? members
              some (table, rest)
      | _ => scalar cs

end LockTriage.Toml
