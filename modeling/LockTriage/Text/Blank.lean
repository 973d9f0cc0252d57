/-!
White space and trimming. Exports, key lists, version lists and network names
are all trimmed of the same characters, those with the Unicode property
`White_Space`, and the pattern that finds calls skips exactly these too.
-/

namespace LockTriage.Text

/-- The characters with the Unicode property `White_Space`. -/
def isBlank (c : Char) : Bool :=
  let n := c.toNat
  (0x09 ≤ n && n ≤ 0x0D) || n == 0x20 || n == 0x85 || n == 0xA0 || n == 0x1680 ||
    (0x2000 ≤ n && n ≤ 0x200A) || n == 0x2028 || n == 0x2029 || n == 0x202F ||
    n == 0x205F || n == 0x3000

/-- Remove from both ends every character that `p` accepts, as often as it occurs. -/
def trimWhere (p : Char → Bool) (cs : List Char) : List Char :=
  ((cs.dropWhile p).reverse.dropWhile p).reverse

/-- Remove white space from both ends. -/
def trim (cs : List Char) : List Char := trimWhere isBlank cs

/-- `trim` on strings. -/
def trimmed (s : String) : String := String.ofList (trim s.toList)

/-- Nothing but white space. -/
def blank (s : String) : Bool := s.toList.all isBlank

end LockTriage.Text
