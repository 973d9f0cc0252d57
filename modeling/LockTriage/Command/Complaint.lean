import LockTriage.ScanError
import LockTriage.Settings.Load

/-!
How a run that fails says so: what failed, and below it the causes, the outermost
first.
-/

namespace LockTriage

/-- What failed, and why. -/
structure Complaint where
  message : String
  causes : List String
  deriving DecidableEq, Repr

namespace Complaint

def ofError (e : ScanError) : Complaint := ⟨e.message, e.cause?.toList⟩

def ofSettings (e : SettingsError) : Complaint := ⟨e.message, e.cause?.toList⟩

/-- The complaint about a file operation that is its own context. -/
def ofFault (f : Fault) : Complaint := ⟨f.message, []⟩

def within (c : Complaint) (message : String) : Complaint := ⟨message, c.message :: c.causes⟩

def indentedBy (indent text : String) : String :=
  s!"\n{indent}".intercalate (Text.splitAt '\n' text)

/-- The causes with their numbers. -/
def numbered : List String → Nat → String
  | [], _ => ""
  | cause :: rest, n =>
      let number := String.ofList (List.replicate (5 - (toString n).length) ' ') ++ toString n
      let shown := indentedBy "       " cause
      s!"\n{number}: {shown}" ++ numbered rest (n + 1)

/-- The text of a complaint. Causes are numbered if there are several. -/
def text (c : Complaint) : String :=
  match c.causes with
  | [] => s!"Error: {c.message}\n"
  | [cause] =>
      let shown := indentedBy "    " cause
      s!"Error: {c.message}\n\nCaused by:\n    {shown}\n"
  | causes => s!"Error: {c.message}\n\nCaused by:{numbered causes 0}\n"

end Complaint

end LockTriage
