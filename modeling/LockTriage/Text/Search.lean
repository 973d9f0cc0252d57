/-!
Looking for fixed text, and byte positions. Offsets count the bytes of the
UTF-8 form, as everywhere in reports.
-/

namespace LockTriage.Text

/-- What follows `needle` if the text starts with it. -/
def after? : List Char → List Char → Option (List Char)
  | [], text => some text
  | _ :: _, [] => none
  | n :: needle, c :: text => if n = c then after? needle text else none

def startsWith (needle text : List Char) : Bool := (after? needle text).isSome

/-- `needle` occurs somewhere in the text. The empty needle occurs in every text. -/
def occursIn (needle : List Char) : List Char → Bool
  | [] => needle.isEmpty
  | c :: text => startsWith needle (c :: text) || occursIn needle text

def contains (s needle : String) : Bool := occursIn needle.toList s.toList

/-- Number of bytes of the UTF-8 form. -/
def byteLength : List Char → Nat
  | [] => 0
  | c :: cs => c.utf8Size + byteLength cs

/-- The text from a byte offset on, if the offset is at the start of a
character or at the end of the text. -/
def fromByte? : Nat → List Char → Option (List Char)
  | 0, cs => some cs
  | _ + 1, [] => none
  | n + 1, c :: cs => if c.utf8Size ≤ n + 1 then fromByte? (n + 1 - c.utf8Size) cs else none

/-- The text up to a byte offset, if the offset is at the start of a character
or at the end of the text. -/
def upToByte? : Nat → List Char → Option (List Char)
  | 0, _ => some []
  | _ + 1, [] => none
  | n + 1, c :: cs =>
      if c.utf8Size ≤ n + 1 then (upToByte? (n + 1 - c.utf8Size) cs).map (c :: ·) else none

/-- The text between two byte offsets, if both cut it between characters. -/
def between? (start stop : Nat) (text : List Char) : Option (List Char) :=
  if start ≤ stop then (fromByte? start text).bind (upToByte? (stop - start)) else none

end LockTriage.Text
