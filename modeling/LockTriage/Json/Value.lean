/-!
JSON documents. Explorers answer in JSON, cached answers are kept as JSON text,
and reports are written as JSON.
-/

namespace LockTriage

/-- A decimal that is not written as a whole number: a sign, digits without
trailing zeros, and the power of ten that they are multiplied by. -/
structure Decimal where
  negative : Bool
  digits : Nat
  exponent : Int
  deriving DecidableEq, Repr

/-- A JSON number. Whole numbers that fit in 64 bits, signed or unsigned, are
kept exactly; every other number is kept as the decimal that it is. -/
inductive JsonNumber
  | whole (value : Int)
  | decimal (value : Decimal)
  deriving DecidableEq, Repr

/-- A JSON document. The members of an object stand in the order in which they
are printed; a document that was read has them in byte order, each once. -/
inductive Json
  | null
  | bool (value : Bool)
  | number (value : JsonNumber)
  | text (value : String)
  | list (items : List Json)
  | object (members : List (String × Json))
  deriving Repr

namespace Json

def nat (n : Nat) : Json := .number (.whole n)

def get? (name : String) : Json → Option Json
  | .object members => members.lookup name
  | _ => none

def text? : Json → Option String
  | .text s => some s
  | _ => none

/-- Put a member in its place by byte order of the names. A later member
replaces an earlier one of the same name. -/
def setMember (name : String) (value : Json) :
    List (String × Json) → List (String × Json)
  | [] => [(name, value)]
  | (n, v) :: rest =>
      if name = n then (name, value) :: rest
      else if name < n then (name, value) :: (n, v) :: rest
      else (n, v) :: setMember name value rest

end Json

end LockTriage
