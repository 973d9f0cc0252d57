import LockTriage.Assoc
import LockTriage.ScanError
import LockTriage.Text.Split

/-!
API keys. Every network draws from a pool of its own, round robin, so the keys
of a pool share the requests evenly.
-/

namespace LockTriage

/-- The keys of one network and the position of the next one to draw. -/
structure KeyPool where
  keys : List String
  cursor : Nat
  cursor_lt : cursor < keys.length
  deriving DecidableEq, Repr

namespace KeyPool

/-- A pool of some keys; there is none of no keys. -/
def ofList? (keys : List String) : Option KeyPool :=
  if h : 0 < keys.length then some ⟨keys, 0, h⟩ else none

/-- The pool of a list separated by commas. Blank entries are dropped. -/
def parse? (raw : String) : Option KeyPool :=
  ofList? (((Text.splitAt ',' raw).map Text.trimmed).filter fun k => !k.isEmpty)

def size (p : KeyPool) : Nat := p.keys.length

/-- The next key, and the pool that draws the one after it. -/
def draw (p : KeyPool) : String × KeyPool :=
  (p.keys.get ⟨p.cursor, p.cursor_lt⟩,
    ⟨p.keys, (p.cursor + 1) % p.keys.length,
      Nat.mod_lt _ (Nat.lt_of_le_of_lt (Nat.zero_le _) p.cursor_lt)⟩)

end KeyPool

/-- At most one pool a network. -/
structure KeyRing where
  pools : List (Network × KeyPool)
  deriving DecidableEq, Repr

namespace KeyRing

/-- No pools. -/
def empty : KeyRing := ⟨[]⟩

/-- The pool of a network. -/
def pool? (r : KeyRing) (network : Network) : Option KeyPool :=
  Assoc.get? network r.pools

/-- Give a network a pool, in place of the one it had. -/
def insert (r : KeyRing) (network : Network) (pool : KeyPool) : KeyRing :=
  ⟨Assoc.set network pool r.pools⟩

/-- A network has a pool. -/
def contains (r : KeyRing) (network : Network) : Bool := (r.pool? network).isSome

/-- Draw the next key of a network. -/
def draw? (r : KeyRing) (network : Network) : Option (String × KeyRing) :=
  (r.pool? network).map fun pool =>
    let (key, next) := pool.draw
    (key, r.insert network next)

/-- The pools of some networks, each read from the variable of its network. The
first network whose variable is missing or holds no key is the error. -/
def ofVariables (lookup : String → Option String) (networks : List Network) :
    Except ScanError KeyRing :=
  networks.foldlM (fun ring network =>
    match (lookup network.keyVariable).bind KeyPool.parse? with
    | none => .error (.missingKeys network)
    | some pool => .ok (ring.insert network pool)) empty

end KeyRing

end LockTriage
