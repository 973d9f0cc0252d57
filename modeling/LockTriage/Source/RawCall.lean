import LockTriage.Source.Balanced
import LockTriage.Text.Blank

/-!
Low-level calls: `raw_call`, white space, and an opening parenthesis. A site
keeps the balanced argument text, or the rest of the source when the
parenthesis never closes.
-/

namespace LockTriage.RawCall

def marker : String := "raw_call"

/-- A call and its argument text, from the opening parenthesis on. -/
structure Site where
  offset : Nat
  argument : String
  deriving DecidableEq, Repr

/-- The text from the opening parenthesis on, if the text starts with a call. -/
def leading? (text : List Char) : Option (List Char) :=
  match Text.after? marker.toList text with
  | none => none
  | some rest =>
      match rest.dropWhile Text.isBlank with
      | '(' :: inner => some ('(' :: inner)
      | _ => none

/-- The call sites of a text that starts at byte `offset`. A call cannot start
inside the name of another one, so every offset is tried. -/
def sitesFrom (offset : Nat) : List Char → List Site
  | [] => []
  | c :: rest =>
      let later := sitesFrom (offset + c.utf8Size) rest
      match leading? (c :: rest) with
      | none => later
      | some args => ⟨offset, String.ofList (Balanced.leadingOrRest '(' ')' args)⟩ :: later

/-- Every call site of a source, from left to right, calls inside the arguments
of other calls included. -/
def sites (source : String) : List Site := sitesFrom 0 source.toList

end LockTriage.RawCall
