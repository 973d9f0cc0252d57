import LockTriage.Domain.MappingTable
import LockTriage.Text.CodeSet

/-!
The first step in reading a domain name: characters that only dress up a name are
dropped, and others are replaced by those that they stand for, capital letters by
small ones among them.
-/

namespace LockTriage.Domain

structure Replacement where
  span : CodeSpan
  /-- The distance between two characters that the replacement is for. -/
  step : Nat
  target : List Nat
  /-- The target moves along with the character. -/
  moves : Bool
  deriving DecidableEq, Repr

namespace Replacement

def covers (r : Replacement) (c : Char) : Bool :=
  r.span.contains c && (c.toNat - r.span.first) % r.step = 0

def apply (r : Replacement) (c : Char) : List Char :=
  r.target.map fun t => Char.ofNat (if r.moves then t + (c.toNat - r.span.first) else t)

/-- The span at the start of an entry, with its step, and whether the target moves. -/
def spanOf? (text : List Char) : Option (CodeSpan × Nat × Bool) :=
  if text.contains '/' then (CodeSpan.parse? '/' text).map fun s => (s, 2, true)
  else if text.contains '~' then (CodeSpan.parse? '~' text).map fun s => (s, 1, false)
  else (CodeSpan.parse? '-' text).map fun s => (s, 1, true)

/-- The replacement that an entry of the table describes. -/
def parse? (text : List Char) : Option Replacement := do
  let (left, right) ← Text.cutFirst? ':' text
  let (span, step, moves) ← spanOf? left
  let target ← (Text.pieces '.' right).mapM (Text.number? 16)
  some ⟨span, step, target, moves⟩

end Replacement

/-- The characters that are dropped. -/
def ignored : CodeSet := CodeSet.ofLines Table.ignored

/-- The characters that a name may be written with. -/
def known : CodeSet := CodeSet.ofLines Table.known

def replacements : List Replacement :=
  (Table.replacements.flatMap (Text.splitAt ' ')).filterMap fun t => Replacement.parse? t.toList

def replacement? (c : Char) : Option Replacement := replacements.find? fun r => r.covers c

/-- What a character of a name stands for, if a name may be written with it. -/
def mapped? (c : Char) : Option (List Char) :=
  if ignored.contains c then some []
  else
    match replacement? c with
    | some r => some (r.apply c)
    | none => if known.contains c then some [c] else none

def isPlain (c : Char) : Bool :=
  known.contains c && !ignored.contains c && (replacement? c).isNone

end LockTriage.Domain
