import LockTriage.Log.Note
import LockTriage.Log.Pattern
import LockTriage.Text.Search
import LockTriage.Text.Split

/-!
Which notes are shown. A filter is a list of directives, each of which gives a
limit to the notes of some targets, or to those of them that carry a value of some
name. The most particular directive that is about a note decides on it, and a note
that no directive is about is not shown.

A directive may also name a scope of the program or the value of a field in one.
This program has no scopes, so such a directive has to be readable, but it shows
nothing.
-/

namespace LockTriage

structure Directive where
  /-- What the target of the notes starts with. -/
  target : String
  /-- The name of a value that the notes carry; none if they need not carry any. -/
  value : Option String
  /-- The least important level that is shown; none if nothing is. -/
  limit : Option Level
  deriving DecidableEq, Repr

structure Filter where
  directives : List Directive
  deriving DecidableEq, Repr

/-- The note carries a value of a name. Its message counts as one. -/
def Note.carries (n : Note) (name : String) : Bool :=
  name = "message" || n.values.any fun v => v.1 = name

namespace Directive

def isAbout (d : Directive) (n : Note) : Bool :=
  Text.startsWith d.target.toList n.target.toList && d.value.all n.carries

/-- Of two directives about one note, the first is at least as particular: the
longer target counts first, then a value, then the order of the names. -/
def atLeast (d e : Directive) : Bool :=
  if d.target.length ≠ e.target.length then e.target.length < d.target.length
  else
    match d.value, e.value with
    | _, none => true
    | none, some _ => false
    | some v, some w => w ≤ v

/-- A limit by its number, or by its name in any case. -/
def limit? (s : List Char) : Option (Option Level) :=
  let digits := match s with
    | '+' :: rest => rest
    | all => all
  if digits.all Char.isDigit && !digits.isEmpty then
    match Text.number? 10 digits with
    | some 0 => some none
    | some 1 => some (some .error)
    | some 2 => some (some .warn)
    | some 3 => some (some .info)
    | some 4 => some (some .debug)
    | some 5 => some (some .trace)
    | _ => none
  else
    match String.ofList (s.map Char.toLower) with
    | "off" => some none
    | "error" => some (some .error)
    | "warn" => some (some .warn)
    | "info" => some (some .info)
    | "debug" => some (some .debug)
    | "trace" => some (some .trace)
    | _ => none

/-- A directive starts with a letter, a digit or one of these signs, or with the
bracket of a scope. -/
def isStart (c : Char) : Bool := "[-:_".toList.contains c || Text.isAlphanumeric c

/-- A decimal number without a sign, perhaps with a fraction and an exponent. -/
def isDecimal (text : List Char) : Bool :=
  let whole := text.takeWhile Char.isDigit
  let (fraction, rest) := match text.dropWhile Char.isDigit with
    | '.' :: more => (more.takeWhile Char.isDigit, more.dropWhile Char.isDigit)
    | rest => ([], rest)
  !(whole ++ fraction).isEmpty &&
    match rest with
    | [] => true
    | e :: '+' :: digits => isExponent e digits
    | e :: '-' :: digits => isExponent e digits
    | e :: digits => isExponent e digits
where
  isExponent (e : Char) (digits : List Char) : Bool :=
    (e = 'e' || e = 'E') && !digits.isEmpty && digits.all Char.isDigit

/-- What a value is compared with: a number with a plus sign, or a pattern. Other
numbers are patterns too. -/
def isComparable (text : List Char) : Bool :=
  match text with
  | '+' :: number =>
      isDecimal number ||
        ["inf", "infinity", "nan"].contains (String.ofList (number.map Char.toLower))
  | _ => Pattern.isReadable text

structure Scope where
  /-- The directive counts in a scope of some name, or by the value of a field only. -/
  demanding : Bool
  /-- The name of a value. -/
  value : Option String
  deriving DecidableEq, Repr

/-- Read a scope after its opening bracket: a name, a field in braces, or both.
What follows the closing bracket is returned. -/
def scope? (text : List Char) : Option (Scope × List Char) :=
  let name := text.takeWhile fun c => c ≠ ']' && c ≠ '\x7b'
  match text.dropWhile fun c => c ≠ ']' && c ≠ '\x7b' with
  | '\x7b' :: inside =>
      let field := inside.takeWhile (· ≠ '\x7d')
      match field.isEmpty, inside.dropWhile (· ≠ '\x7d') with
      | false, '\x7d' :: ']' :: rest =>
          match Text.pieces '=' field with
          | value :: compared :: _ =>
              if isComparable compared then some (⟨true, some (String.ofList value)⟩, rest)
              else none
          | _ => some (⟨!name.isEmpty, some (String.ofList field)⟩, rest)
      | _, _ => none
  | _ :: rest => some (⟨true, none⟩, rest)
  | [] => none

/-- The limit at the end of a directive. Without one everything is shown. -/
def end? : List Char → Option (Option Level)
  | [] => some (some .trace)
  | ['='] => some (some .trace)
  | '=' :: level => limit? level
  | _ => none

/-- The parts of a directive: a target, its scope, and how it ends. -/
structure Parts where
  target : List Char
  scope : Option Scope
  ending : List Char
  deriving DecidableEq, Repr

def Parts.parse? (text : List Char) : Option Parts :=
  if !text.head?.any isStart then none
  else
    let target := text.takeWhile fun c => c ≠ '=' && c ≠ '['
    match text.dropWhile fun c => c ≠ '=' && c ≠ '[' with
    | '[' :: inside => (scope? inside).map fun (scope, rest) => ⟨target, some scope, rest⟩
    | rest => some ⟨target, none, rest⟩

/-- The directive that parts without white space around them make; none if it
shows nothing in a program without scopes. -/
def ofParts? (p : Parts) : Option (Option Directive) :=
  match p.scope, p.ending with
  | none, [] =>
      some (some (match limit? p.target with
        | some limit => ⟨"", none, limit⟩
        | none => ⟨String.ofList p.target, none, some .trace⟩))
  | none, ending =>
      (end? ending).map fun limit => some ⟨String.ofList p.target, none, limit⟩
  | some scope, ending =>
      (end? ending).map fun limit =>
        if scope.demanding then none
        else some ⟨String.ofList p.target, scope.value, limit⟩

/-- Read a directive; none inside if it shows nothing. White space around a
directive belongs to it: in front it spoils the target, behind it spoils a target
that it follows, and a limit is spoilt by either. -/
def parse? (text : List Char) : Option (Option Directive) :=
  let trimmed := Text.trim text
  match Parts.parse? trimmed with
  | none => none
  | some parts =>
      if trimmed = text then ofParts? parts
      else if !parts.ending.isEmpty then none
      else if text.head?.any Text.isBlank || parts.scope.isNone then some none
      else ofParts? parts

end Directive

namespace Filter

def upTo (level : Level) : Filter := ⟨[⟨"", none, some level⟩]⟩

/-- The filter that a text describes. Directives are separated by commas, and
without any only errors are shown. -/
def parse? (s : String) : Option Filter :=
  let written := (Text.pieces ',' s.toList).filter fun t => !t.isEmpty
  if written.isEmpty then some (upTo .error)
  else (written.mapM Directive.parse?).map fun found => ⟨found.filterMap id⟩

/-- The directive that decides on a note. Of two that are equally particular the
later one counts. -/
def deciding? (f : Filter) (n : Note) : Option Directive :=
  f.directives.foldl (fun best d =>
    if !d.isAbout n then best
    else
      match best with
      | some b => if d.atLeast b then some d else best
      | none => some d) none

/-- A note is shown. -/
def shows (f : Filter) (n : Note) : Bool :=
  match (f.deciding? n).bind Directive.limit with
  | some limit => n.level.rank ≤ limit.rank
  | none => false

end Filter

/-- The line of a note. It carries no time of day. -/
def Note.line (n : Note) : String := s!"{n.level.name} {n.target}: {n.text}"

end LockTriage
