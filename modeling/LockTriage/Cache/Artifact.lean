import LockTriage.Text.Bytes

/-!
The file of a cached answer: the text of its key, then the answer as JSON text.
Each of them is the number of its bytes, in eight bytes with the lowest first,
and then its UTF-8 form. What follows the second text is ignored.
-/

namespace LockTriage

structure Artifact where
  key : String
  body : String
  deriving DecidableEq, Repr

namespace Artifact

/-- A number in `count` bytes, the lowest first. -/
def littleEndian : Nat → Nat → Bytes
  | 0, _ => []
  | count + 1, n => UInt8.ofNat n :: littleEndian count (n / 256)

/-- The number that bytes stand for, the lowest first. -/
def ofLittleEndian : Bytes → Nat
  | [] => 0
  | b :: rest => b.toNat + 256 * ofLittleEndian rest

/-- A text behind the number of its bytes. -/
def frame (s : String) : Bytes := littleEndian 8 s.utf8ByteSize ++ Bytes.ofText s

/-- The text at the start of some bytes, and what follows it. -/
def unframe? (b : Bytes) : Option (String × Bytes) :=
  let body := b.drop 8
  let size := ofLittleEndian (b.take 8)
  if b.length < 8 || body.length < size then none
  else (Bytes.text? (body.take size)).map fun text => (text, body.drop size)

/-- The bytes of an artifact. -/
def encode (a : Artifact) : Bytes := frame a.key ++ frame a.body

/-- The artifact at the start of some bytes. -/
def decode? (b : Bytes) : Option Artifact := do
  let (key, rest) ← unframe? b
  let (body, _) ← unframe? rest
  some ⟨key, body⟩

end Artifact

end LockTriage
