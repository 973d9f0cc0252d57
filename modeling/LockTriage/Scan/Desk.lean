import LockTriage.Cache.Basic
import LockTriage.Explorer.Query
import LockTriage.KeyRing
import LockTriage.Scan.Outcome

/-!
The state of a scan, and the trace of what it did. Requests, observed outcomes
and notes are kept in one trace, in the order in which they happened.
-/

namespace LockTriage

inductive Event
  | noted (note : Note)
  | asked (query : Query)
  | judged (record : Record) (outcome : Outcome)
  deriving DecidableEq, Repr

/-- What a scan works on: files, cached answers, keys, and the explorers. -/
structure Desk (σ : Type) where
  files : FileTree
  cache : Cache
  keys : KeyRing
  explorer : σ
  /-- What has happened, earliest first. -/
  trace : List Event

namespace Desk

variable {σ : Type}

def happened (d : Desk σ) (events : List Event) : Desk σ := { d with trace := d.trace ++ events }

def noting (d : Desk σ) (notes : List Note) : Desk σ := d.happened (notes.map .noted)

end Desk

namespace Event

def queries (events : List Event) : List Query :=
  events.filterMap fun
    | asked q => some q
    | _ => none

/-- The outcomes among some events, with their records. -/
def outcomes (events : List Event) : List (Record × Outcome) :=
  events.filterMap fun
    | judged r o => some (r, o)
    | _ => none

end Event

end LockTriage
