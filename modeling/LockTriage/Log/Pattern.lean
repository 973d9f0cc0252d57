import LockTriage.Text.Digits
import LockTriage.Text.Letter

/-!
The patterns that a filter may hold for values: regular expressions with groups,
classes, repetitions and flags, but without a repetition by count, for which a
filter has no closing brace, and without bounds of words. No note is chosen by the
value of a pattern; what counts is whether it can be read.
-/

namespace LockTriage.Pattern

inductive Token
  /-- A character without a backslash, which may have a meaning of its own. -/
  | symbol (c : Char)
  /-- A character after a backslash, or one that is given by its code. -/
  | char (c : Char)
  /-- One of a set of characters. -/
  | set
  /-- The start or the end of the text. -/
  | place
  deriving DecidableEq, Repr

/-- The character with a code in hexadecimal. -/
def coded? (digits : List Char) : Option Char :=
  match Text.number? 16 digits with
  | some n => if n < 0xD800 || (0xDFFF < n && n < 0x110000) then some (Char.ofNat n) else none
  | none => none

/-- What a letter or sign stands for after a backslash. -/
def escaped? (c : Char) : Option Token :=
  if "dDsSwW".toList.contains c then some .set
  else if "Az".toList.contains c then some .place
  else if "aftnrv".toList.contains c then some (.char c)
  else if c.toNat < 0x80 && !c.isAlphanum && c ≠ '<' && c ≠ '>' then some (.char c)
  else none

def tokens? : List Char → Option (List Token)
  | [] => some []
  | '\\' :: 'x' :: a :: b :: rest => do some (.char (← coded? [a, b]) :: (← tokens? rest))
  | '\\' :: 'u' :: a :: b :: c :: d :: rest => do
      some (.char (← coded? [a, b, c, d]) :: (← tokens? rest))
  | '\\' :: 'U' :: a :: b :: c :: d :: e :: f :: g :: h :: rest => do
      some (.char (← coded? [a, b, c, d, e, f, g, h]) :: (← tokens? rest))
  | '\\' :: 'p' :: c :: rest => if isCategory c then (tokens? rest).map (.set :: ·) else none
  | '\\' :: 'P' :: c :: rest => if isCategory c then (tokens? rest).map (.set :: ·) else none
  | '\\' :: c :: rest => do some ((← escaped? c) :: (← tokens? rest))
  | c :: rest => if c = '\\' then none else (tokens? rest).map (.symbol c :: ·)
where
  /-- The general categories of characters by their first letters. -/
  isCategory (c : Char) : Bool := "CLMNPSZ".toList.contains c.toUpper

inductive Place
  /-- The flag says whether there is something that a repetition can repeat. -/
  | body (repeatable : Bool)
  /-- After a repetition, which a question mark makes reluctant. -/
  | repeated
  /-- After the parenthesis that opens a group, and after a question mark there. -/
  | opened
  | asked
  /-- After the letter that announces a name. -/
  | announced
  /-- In the name of a group, of which the characters so far stand last first. -/
  | name (sofar : List Char)
  /-- Among flags: the ones so far, and whether the last sign turned them off. -/
  | flags (sofar : List Char) (off dangling : Bool)
  /-- At the start of a class: it may still be negated, or only hyphens have been read. -/
  | classStart
  | classNegated
  | classHyphens
  /-- Between items of a class. -/
  | classBody
  /-- After a sign in a class that is an operator if it is doubled. -/
  | classSign (c : Char)
  /-- After an item of a class, with the character that it is. -/
  | classItem (c : Option Char)
  /-- After an item and a hyphen. -/
  | classHyphen (c : Option Char)
  deriving DecidableEq, Repr

structure Reading where
  place : Place
  /-- The groups and the classes that are open. -/
  groups : Nat
  classes : Nat
  /-- The names of groups. -/
  names : List (List Char)
  deriving DecidableEq, Repr

namespace Reading

/-- Nothing has been read. -/
def start : Reading := ⟨.body false, 0, 0, []⟩

def goTo (r : Reading) (place : Place) : Option Reading := some { r with place := place }

def closeClass (r : Reading) : Option Reading :=
  if r.classes = 1 then some { r with classes := 0, place := .body true }
  else some { r with classes := r.classes - 1, place := .classBody }

/-- Read a token between items of a class. -/
def inClass (r : Reading) : Token → Option Reading
  | .symbol '[' => some { r with classes := r.classes + 1, place := .classStart }
  | .symbol ']' => r.closeClass
  | .symbol c =>
      if c = '&' || c = '-' || c = '~' then r.goTo (.classSign c) else r.goTo (.classItem (some c))
  | .char c => r.goTo (.classItem (some c))
  | .set => r.goTo (.classItem none)
  | .place => none

def afterItem (r : Reading) (item : Option Char) : Token → Option Reading
  | .symbol '-' => r.goTo (.classHyphen item)
  | token => r.inClass token

def closeRange (r : Reading) (first : Option Char) : Token → Option Reading
  | .symbol c => bounded first c
  | .char c => bounded first c
  | _ => none
where
  bounded (first : Option Char) (last : Char) : Option Reading :=
    match first with
    | some first => if first ≤ last then r.goTo .classBody else none
    | none => none

/-- Read a token outside of classes and heads of groups. -/
def inBody (r : Reading) (repeatable : Bool) : Token → Option Reading
  | .symbol '(' => r.goTo .opened
  | .symbol ')' =>
      if r.groups = 0 then none else some { r with groups := r.groups - 1, place := .body true }
  | .symbol '[' => some { r with classes := 1, place := .classStart }
  | .symbol '|' => r.goTo (.body false)
  | .symbol '\x7b' => none
  | .symbol c =>
      if c = '*' || c = '+' || c = '?' then (if repeatable then r.goTo .repeated else none)
      else r.goTo (.body true)
  | _ => r.goTo (.body true)

def openGroup (r : Reading) : Reading := { r with groups := r.groups + 1, place := .body false }

def inName (r : Reading) (sofar : List Char) : Token → Option Reading
  | .symbol '>' =>
      if sofar.isEmpty || r.names.contains sofar then none
      else some { r.openGroup with names := sofar :: r.names }
  | .symbol c =>
      let isLetter := c = '_' || (Text.isAlphanumeric c && (!sofar.isEmpty || !c.isDigit))
      if isLetter || (!sofar.isEmpty && ".[]".toList.contains c) then
        r.goTo (.name (c :: sofar))
      else none
  | _ => none

/-- Read a token among flags. Each flag is given once, and after a minus sign there
is at least one. -/
def inFlags (r : Reading) (sofar : List Char) (off dangling : Bool) : Token → Option Reading
  | .symbol ':' => if dangling then none else some r.openGroup
  | .symbol ')' => if dangling || sofar.isEmpty then none else r.goTo (.body false)
  | .symbol '-' => if off then none else r.goTo (.flags sofar true true)
  | .symbol c =>
      if "imsUuRx".toList.contains c && !sofar.contains c then
        r.goTo (.flags (c :: sofar) off false)
      else none
  | _ => none

def next (r : Reading) (token : Token) : Option Reading :=
  match r.place with
  | .body repeatable => r.inBody repeatable token
  | .repeated => if token = .symbol '?' then r.goTo (.body true) else r.inBody true token
  | .opened =>
      if token = .symbol '?' then r.goTo .asked else r.openGroup.inBody false token
  | .asked =>
      if token = .symbol 'P' then r.goTo .announced
      else if token = .symbol '<' then r.goTo (.name [])
      else r.inFlags [] false false token
  | .announced => if token = .symbol '<' then r.goTo (.name []) else none
  | .name sofar => r.inName sofar token
  | .flags sofar off dangling => r.inFlags sofar off dangling token
  | .classStart =>
      if token = .symbol '^' then r.goTo .classNegated else atStart token
  | .classNegated => atStart token
  | .classHyphens => if token = .symbol '-' then some r else r.inClass token
  | .classBody => r.inClass token
  | .classSign c =>
      if token = .symbol c then r.goTo .classBody else r.afterItem (some c) token
  | .classItem item => r.afterItem item token
  | .classHyphen item =>
      if token = .symbol ']' then r.closeClass
      else if token = .symbol '-' then r.goTo .classBody
      else r.closeRange item token
where
  atStart (token : Token) : Option Reading :=
    if token = .symbol '-' then r.goTo .classHyphens
    else if token = .symbol ']' then r.goTo .classBody
    else r.inClass token

/-- Nothing is open, and nothing is missing. -/
def isComplete (r : Reading) : Bool :=
  match r.place with
  | .body _ => r.groups = 0
  | .repeated => r.groups = 0
  | _ => false

end Reading

def isReadable (text : List Char) : Bool :=
  match tokens? text with
  | none => false
  | some ts => (ts.foldlM Reading.next Reading.start).any Reading.isComplete

end LockTriage.Pattern
