import LockTriage.Text.Digits
import LockTriage.Text.Split

/-!
Sets of characters, given by the spans of code points that they fill. Tables of
such sets are written as lines of spans in hexadecimal: `41-5A` is a span, and
`5F` is a span of one code point.
-/

namespace LockTriage

/-- The code points from one to another, both included. -/
structure CodeSpan where
  first : Nat
  last : Nat
  deriving DecidableEq, Repr

namespace CodeSpan

def contains (s : CodeSpan) (c : Char) : Bool := s.first ≤ c.toNat && c.toNat ≤ s.last

/-- The span that a table writes, where `sep` stands between its ends. -/
def parse? (sep : Char) (text : List Char) : Option CodeSpan :=
  match Text.cutFirst? sep text with
  | none => (Text.number? 16 text).map fun n => ⟨n, n⟩
  | some (first, last) => do some ⟨← Text.number? 16 first, ← Text.number? 16 last⟩

end CodeSpan

structure CodeSet where
  spans : List CodeSpan
  deriving DecidableEq, Repr

namespace CodeSet

def contains (s : CodeSet) (c : Char) : Bool := s.spans.any fun span => span.contains c

def ofLines (lines : List String) : CodeSet :=
  ⟨(lines.flatMap (Text.splitAt ' ')).filterMap fun t => CodeSpan.parse? '-' t.toList⟩

end CodeSet

end LockTriage
