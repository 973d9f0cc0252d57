import LockTriage.Digest
import LockTriage.Network

/-!
What a cached answer is filed under.
-/

namespace LockTriage

structure CacheKey where
  network : Network
  address : String
  deriving DecidableEq, Repr

namespace CacheKey

/-- The text of a key. Network names have no colon, so no two keys share a text. -/
def text (k : CacheKey) : String := s!"{k.network.name}:{k.address}"

/-- The digest of a key's text, in hexadecimal. -/
def hash (k : CacheKey) : String := Bytes.hex (Digest.sha256 (Bytes.ofText k.text))

/-- The name of the file that holds a key's answer. It shows only the start of
the digest, so two keys may share it. -/
def artifactName (k : CacheKey) : String :=
  String.ofList (k.hash.toList.take 16) ++ ".bin"

end CacheKey

end LockTriage
