import LockTriage.Json.Token

/-!
JSON text as it is written: the members of an object in their order, repeated
ones included, strings undecoded, and numbers out of range as no number. The
tree is built from the tokens by one pass over them with the open lists and
objects on a stack.
-/

namespace LockTriage.Json

inductive Raw
  | null
  | bool (value : Bool)
  | number (value : Option JsonNumber)
  | text (units : List StringUnit)
  | list (items : List Raw)
  | object (members : List (List StringUnit × Raw))
  deriving Repr

namespace Raw

/-- A list or object that is still open, with what it holds so far, latest
first. An open object waits for the value of a member. -/
inductive Open
  | list (items : List Raw)
  | object (members : List (List StringUnit × Raw)) (name : List StringUnit)
  deriving Repr

/-- What is read so far. The lists and objects on the stack stand innermost
first. -/
inductive Reading
  /-- A value has to follow. -/
  | value (stack : List Open)
  /-- The first item of the innermost list, or its end, has to follow. -/
  | firstItem (stack : List Open)
  /-- The first member of an object, or its end, has to follow. -/
  | firstName (stack : List Open)
  /-- A member of an object has to follow. -/
  | name (members : List (List StringUnit × Raw)) (stack : List Open)
  /-- The colon after a name has to follow. -/
  | colon (members : List (List StringUnit × Raw)) (name : List StringUnit)
      (stack : List Open)
  /-- A value is complete. -/
  | complete (value : Raw) (stack : List Open)
  deriving Repr

/-- Read the first token of a value. -/
def begin (stack : List Open) : Token → Option Reading
  | .null => some (.complete .null stack)
  | .bool b => some (.complete (.bool b) stack)
  | .number n => some (.complete (.number n) stack)
  | .string units => some (.complete (.text units) stack)
  | .openList => some (.firstItem (.list [] :: stack))
  | .openObject => some (.firstName stack)
  | _ => none

def continue? (value : Raw) : List Open → Token → Option Reading
  | .list items :: stack, .comma => some (.value (.list (value :: items) :: stack))
  | .list items :: stack, .closeList =>
      some (.complete (.list (value :: items).reverse) stack)
  | .object members name :: stack, .comma => some (.name ((name, value) :: members) stack)
  | .object members name :: stack, .closeObject =>
      some (.complete (.object ((name, value) :: members).reverse) stack)
  | _, _ => none

def step : Reading → Token → Option Reading
  | .value stack, token => begin stack token
  | .firstItem (.list items :: stack), .closeList =>
      some (.complete (.list items.reverse) stack)
  | .firstItem stack, token => begin stack token
  | .firstName stack, .closeObject => some (.complete (.object []) stack)
  | .firstName stack, .string name => some (.colon [] name stack)
  | .firstName _, _ => none
  | .name members stack, .string name => some (.colon members name stack)
  | .name _ _, _ => none
  | .colon members name stack, .colon => some (.value (.object members name :: stack))
  | .colon _ _ _, _ => none
  | .complete done stack, token => continue? done stack token

/-- The document that has been read, if nothing is open. -/
def Reading.result? : Reading → Option Raw
  | .complete done [] => some done
  | _ => none

def ofTokens? (tokens : List Token) : Option Raw :=
  (tokens.foldlM step (.value [])).bind Reading.result?

def ofText? (cs : List Char) : Option Raw := (tokens? cs).bind ofTokens?

def string? (units : List StringUnit) : Option String :=
  (decodeUnits? units).map String.ofList

mutual

/-- The value of a document as written, in which lists and objects are nested at
most `depth` deep. A later member replaces an earlier one of the same name. -/
def value? (depth : Nat) : Raw → Option Json
  | .null => some .null
  | .bool b => some (.bool b)
  | .number n => n.map .number
  | .text units => (string? units).map .text
  | .list items =>
      match depth with
      | 0 => none
      | d + 1 => (items? d items).map .list
  | .object members =>
      match depth with
      | 0 => none
      | d + 1 => (members? d [] members).map .object

def items? (depth : Nat) : List Raw → Option (List Json)
  | [] => some []
  | item :: rest =>
      match value? depth item, items? depth rest with
      | some v, some vs => some (v :: vs)
      | _, _ => none

/-- The values of some members, put in place among those before them. -/
def members? (depth : Nat) (before : List (String × Json)) :
    List (List StringUnit × Raw) → Option (List (String × Json))
  | [] => some before
  | (units, item) :: rest =>
      match string? units, value? depth item with
      | some name, some v => members? depth (setMember name v before) rest
      | _, _ => none

end

end Raw

/-- How deep lists and objects may be nested in a document. -/
def depthLimit : Nat := 127

def parse? (s : String) : Option Json :=
  (Raw.ofText? s.toList).bind (Raw.value? depthLimit)

end LockTriage.Json
