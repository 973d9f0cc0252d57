import LockTriage.Text.Search

/-!
Balanced spans. From an opening delimiter at a byte offset, the span runs to
the closing delimiter that closes the last open pair, so it covers the outermost
pair and everything nested in it. Delimiters inside string literals count too.
A span is read from the start of a text by counting the open pairs, and from a
byte offset on with a stack of them, which also says from where to where it goes.
-/

namespace LockTriage.Balanced

/-- Why no span starts at an offset. -/
inductive Failure
  | notAnOpener (index : Nat)
  | neverClosed (index depth : Nat)
  deriving DecidableEq, Repr

def Failure.message : Failure → String
  | .notAnOpener index => s!"no opening delimiter at byte {index}"
  | .neverClosed index depth =>
      s!"delimiter opened at byte {index} is never closed ({depth} still open at end of text)"

/-- The shortest beginning of the text that closes `depth` pairs which are
already open, or the number of pairs open at the end of the text. A character
that is both delimiters always opens. -/
def closing (opener closer : Char) (depth : Nat) : List Char → Except Nat (List Char)
  | [] => .error depth
  | c :: cs =>
      if c = opener then (closing opener closer (depth + 1) cs).map (c :: ·)
      else if c = closer then
        if depth ≤ 1 then .ok [c] else (closing opener closer (depth - 1) cs).map (c :: ·)
      else (closing opener closer depth cs).map (c :: ·)

/-- The balanced span at the start of a text, or the number of pairs open at
the end. The text is meant to start with the opening delimiter. -/
def leading (opener closer : Char) (text : List Char) : Except Nat (List Char) :=
  closing opener closer 0 text

/-! ### By byte offsets -/

/-- How far a scan for a span has come. -/
structure Scan where
  /-- Where the openers stand that are not closed yet, the innermost first. -/
  opened : List Nat
  /-- From where to where the pair goes that was closed last. -/
  closed : Option (Nat × Nat)
  deriving DecidableEq, Repr

namespace Scan

def push (s : Scan) (offset : Nat) : Scan := { s with opened := offset :: s.opened }

/-- Close the innermost open pair, if there is one. -/
def pop (s : Scan) (stop : Nat) : Scan :=
  match s.opened with
  | [] => s
  | start :: outer => ⟨outer, some (start, stop)⟩

end Scan

/-- Read a text that starts at byte `offset`, up to the closing delimiter that
leaves nothing open. -/
def scan (opener closer : Char) (s : Scan) (offset : Nat) : List Char → Scan
  | [] => s
  | c :: rest =>
      let next := offset + c.utf8Size
      if c = opener then scan opener closer (s.push offset) next rest
      else if c = closer then
        if (s.pop next).opened.isEmpty then s.pop next
        else scan opener closer (s.pop next) next rest
      else scan opener closer s next rest

/-- From where to where the balanced span goes that starts at a byte offset. -/
def locate (opener closer : Char) (text : List Char) (index : Nat) :
    Except Failure (Nat × Nat) :=
  match Text.fromByte? index text with
  | some (c :: rest) =>
      if c = opener then
        let s := scan opener closer ⟨[], none⟩ index (c :: rest)
        match s.closed, s.opened with
        | some bounds, [] => .ok bounds
        | _, opened => .error (.neverClosed index opened.length)
      else .error (.notAnOpener index)
  | _ => .error (.notAnOpener index)

/-- The balanced span that starts at a byte offset. What is located can always
be cut out, so nothing stands for a failing cut here. -/
def span (opener closer : Char) (text : List Char) (index : Nat) :
    Except Failure (List Char) :=
  (locate opener closer text index).map fun bounds =>
    (Text.between? bounds.1 bounds.2 text).getD []

/-! ### In place of a failure -/

/-- The span at the start of a text; all of the text if it never closes. -/
def leadingOrRest (opener closer : Char) (text : List Char) : List Char :=
  match leading opener closer text with
  | .ok found => found
  | .error _ => text

end LockTriage.Balanced
