import LockTriage.Domain.Direction
import LockTriage.Domain.Joining
import LockTriage.Domain.Mapping
import LockTriage.Domain.Punycode
import LockTriage.Text.Search

/-!
Domain names in all scripts, and how they are written in ASCII: label by label, a
label with other characters as `xn--` and its Punycode form.
-/

namespace LockTriage.Domain

structure Label where
  /-- The label as it is shown. -/
  shown : List Char
  /-- The label in ASCII. -/
  ascii : List Char
  deriving DecidableEq, Repr

namespace Label

def sign : List Char := "xn--".toList

/-- The longest label that is written in Punycode, in characters. -/
def longestShown : Nat := 1000

/-- The longest Punycode form that is read, in characters. -/
def longestCode : Nat := 2000

/-- A label that is worth a Punycode form: it cannot be written in ASCII, its
characters stand for themselves and are composed, and it does not look like such a
form. -/
def isEncodable (shown : List Char) : Bool :=
  !shown.all Punycode.isBasic && shown.all isPlain && Normal.form shown = shown &&
    !Text.startsWith sign shown

def ofCode? (code : List Char) : Option Label :=
  if longestCode < code.length || !code.all Punycode.isBasic then none
  else
    match Punycode.decode? code with
    | none => none
    | some shown => if isEncodable shown then some ⟨shown, sign ++ code⟩ else none

/-- Write a label in ASCII. -/
def ofShown? (shown : List Char) : Option Label :=
  if shown.all Punycode.isBasic then some ⟨shown, shown⟩
  else if longestShown < shown.length then none
  else some ⟨shown, sign ++ Punycode.encode shown⟩

/-- Read a label in either form. -/
def parse? (text : List Char) : Option Label :=
  match Text.after? sign text with
  | some code => ofCode? code
  | none => ofShown? text

/-- Marks and joiners of the label are where they may be. -/
def fits (label : Label) : Bool := !startsWithMark label.shown && joinersFit [] label.shown

def directions (label : Label) : List Direction := label.shown.map Direction.of

end Label

/-- The labels keep to one direction each, if that matters in the name. -/
def directionsFit (labels : List Label) : Bool :=
  let directions := labels.map Label.directions
  !directions.any Direction.matters || directions.all Direction.isLabel

def labels? (name : List Char) : Option (List Label) := do
  let mapped ← name.mapM mapped?
  (Text.pieces '.' (Normal.form mapped.flatten)).mapM Label.parse?

/-- A domain name in ASCII and in small letters, if the text is one. -/
def ascii? (name : List Char) : Option (List Char) :=
  match labels? name with
  | none => none
  | some labels =>
      if labels.all Label.fits && directionsFit labels then
        some (['.'].intercalate (labels.map Label.ascii))
      else none

end LockTriage.Domain
