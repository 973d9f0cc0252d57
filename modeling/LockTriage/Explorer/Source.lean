import LockTriage.Explorer.Malformed
import LockTriage.Json.Value
import LockTriage.Text.Split

/-!
The verified source in an explorer's answer. It stands in the first entry of the
answer's result, next to the version of the compiler that was used.
-/

namespace LockTriage

/-- The verified source of a contract, with the answer in which it stood. -/
structure VerifiedSource where
  source : String
  /-- The bare version, such as `0.3.0` out of `vyper:0.3.0`. -/
  compilerVersion : String
  response : Json
  deriving Repr

namespace VerifiedSource

/-- The bare version in a compound one: what follows the last colon. -/
def bareVersion (compound : String) : String :=
  String.ofList (Text.trim (Text.afterLast ':' compound.toList))

/-- A text among the members of the first result. -/
def field (first : Json) (name : String) : Except Malformation String :=
  match (first.get? name).bind Json.text? with
  | some text => .ok text
  | none => .error (.missingField name)

/-- The first result of an answer. A text in place of the results is the
explorer's own report of an error. -/
def firstResult (response : Json) : Except Malformation Json :=
  match response.get? "result" with
  | some (.list (first :: _)) => .ok first
  | some (.list []) => .error .emptyResult
  | some (.text result) =>
      .error (.refused (((response.get? "message").bind Json.text?).getD "") result)
  | some _ => .error .resultNotAList
  | none => .error .missingResult

def ofResponse (response : Json) : Except Malformation VerifiedSource := do
  let first ← firstResult response
  let source ← field first "SourceCode"
  let version ← field first "CompilerVersion"
  .ok ⟨source, bareVersion version, response⟩

end VerifiedSource

end LockTriage
