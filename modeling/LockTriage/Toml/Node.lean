import LockTriage.Assoc
import LockTriage.Toml.Value

/-!
Tables that are being read, and the rules on what may be added to them. A header
opens a table once, nothing is given a value twice, and dotted keys add only to
tables that dotted keys have made.
-/

namespace LockTriage.Toml

inductive Origin
  /-- By a header of its own. -/
  | header
  /-- By a header for a table inside it. -/
  | implied
  /-- By a dotted key. -/
  | dotted
  deriving DecidableEq, Repr

/-- What a name stands for in a document that is being read. -/
inductive Node
  | value (v : Value)
  | table (origin : Origin) (entries : List (String × Node))
  /-- Tables under one name, each opened by a header in double brackets. -/
  | tables (elements : List (List (String × Node)))

abbrev Nodes := List (String × Node)

/-- Change the table that some names lead to. Tables that are missing on the way
are made, and of several tables under one name the last is meant. Dotted keys do
not lead into a table with a header of its own. -/
def Node.within (made : Origin) (change : Origin → Nodes → Option Nodes) :
    List String → Origin → Nodes → Option Nodes
  | [], here, entries => change here entries
  | outer :: rest, _, entries =>
      match Assoc.get? outer entries with
      | none =>
          (Node.within made change rest made []).map fun inner =>
            Assoc.set outer (.table made inner) entries
      | some (.value _) => none
      | some (.table origin inner) =>
          if made = .dotted && origin = .header then none
          else
            (Node.within made change rest origin inner).map fun inner =>
              Assoc.set outer (.table origin inner) entries
      | some (.tables elements) =>
          match elements.getLast? with
          | none => none
          | some last =>
              (Node.within made change rest .header last).map fun inner =>
                Assoc.set outer (.tables (elements.dropLast ++ [inner])) entries

/-- Give a name a value. The table is the current one, or it was made by dotted keys. -/
def Node.assign (isCurrent : Bool) (k : String) (v : Value) (here : Origin) (entries : Nodes) :
    Option Nodes :=
  if !isCurrent && here ≠ .dotted then none
  else
    match Assoc.get? k entries with
    | none => some (Assoc.set k (.value v) entries)
    | some _ => none

/-- Open a table. It may be there already only because a header named a table inside it. -/
def Node.openTable (k : String) (entries : Nodes) : Option Nodes :=
  match Assoc.get? k entries with
  | none => some (Assoc.set k (.table .header []) entries)
  | some (.table .implied inner) => some (Assoc.set k (.table .header inner) entries)
  | some _ => none

def Node.openElement (k : String) (entries : Nodes) : Option Nodes :=
  match Assoc.get? k entries with
  | none => some (Assoc.set k (.tables [[]]) entries)
  | some (.tables elements) => some (Assoc.set k (.tables (elements ++ [[]])) entries)
  | some _ => none

mutual

def Node.finish : Node → Value
  | .value v => v
  | .table _ entries => .table (Node.finishAll entries)
  | .tables elements => .array (Node.finishEach elements)

def Node.finishAll : List (String × Node) → List (String × Value)
  | [] => []
  | (k, n) :: rest => (k, n.finish) :: Node.finishAll rest

def Node.finishEach : List (List (String × Node)) → List Value
  | [] => []
  | entries :: rest => .table (Node.finishAll entries) :: Node.finishEach rest

end

end LockTriage.Toml
