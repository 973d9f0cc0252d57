import LockTriage.Toml.Reader

/-!
TOML documents: lines that give a key a value, and headers that say to which
table the following lines belong.
-/

namespace LockTriage.Toml

/-- A document that is being read: its entries, and the names of the current table. -/
structure Draft where
  entries : Nodes
  current : List String

namespace Draft

def assign (d : Draft) (k : List String × String) (v : Value) : Option Draft :=
  let change := Node.within .dotted (Node.assign k.1.isEmpty k.2 v) k.1
  (Node.within .implied change d.current .header d.entries).map ({ d with entries := · })

def header (d : Draft) (k : List String × String) : Option Draft :=
  (Node.within .implied (fun _ entries => Node.openTable k.2 entries) k.1 .header d.entries).map
    (⟨·, k.1 ++ [k.2]⟩)

def element (d : Draft) (k : List String × String) : Option Draft :=
  (Node.within .implied (fun _ entries => Node.openElement k.2 entries) k.1 .header d.entries).map
    (⟨·, k.1 ++ [k.2]⟩)

end Draft

/-- A key between brackets, the opening ones of which have been read. -/
def bracketed (closing : List Char) : Reader (List String × String) := fun cs => do
  let (k, rest) ← key cs
  let rest ← closing.foldlM (fun cs c => exactly c cs) rest
  some (k, rest)

/-- Read one line that is neither blank nor a comment. -/
def line (d : Draft) : Reader Draft
  | '[' :: '[' :: cs => do
      let (k, rest) ← bracketed [']', ']'] cs
      some (← d.element k, rest)
  | '[' :: cs => do
      let (k, rest) ← bracketed [']'] cs
      some (← d.header k, rest)
  | cs => do
      let ((k, v), rest) ← keyValue (value (nestingLimit - 1)) cs
      some (← d.assign k v, rest)

def lines (d : Draft) (cs : List Char) : Option Draft :=
  match skipSpaces cs with
  | [] => some d
  | c :: rest =>
      if c = '#' || c = '\r' || c = '\n' then
        match restOfLine? (c :: rest) with
        | none => none
        | some more => if more.length < cs.length then lines d more else none
      else
        match line d (c :: rest) with
        | none => none
        | some (d, rest) =>
            match restOfLine? rest with
            | none => none
            | some more => if more.length < cs.length then lines d more else none
termination_by cs.length

/-- The entries of a document. A byte order mark in front of it is dropped. -/
def parse? (text : String) : Option (List (String × Value)) :=
  let cs :=
    match text.toList with
    | '\uFEFF' :: rest => rest
    | cs => cs
  (lines ⟨[], []⟩ cs).map fun d => Node.finishAll d.entries

end LockTriage.Toml
