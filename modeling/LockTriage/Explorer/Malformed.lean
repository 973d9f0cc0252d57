import LockTriage.Text.Blank

/-!
Why an explorer's answer cannot be used.
-/

namespace LockTriage

inductive Malformation
  | emptyResult
  | resultNotAList
  | missingResult
  /-- The result is a text, with which explorers report errors. -/
  | refused (message result : String)
  | missingField (name : String)
  deriving DecidableEq, Repr

/-- The reason in words. A refusal gives the two texts of the explorer. -/
def Malformation.reason : Malformation → String
  | .emptyResult => "empty result list"
  | .resultNotAList => "`result` is not a list"
  | .missingResult => "missing `result`"
  | .refused message result => Text.trimmed s!"{message} {result}"
  | .missingField name => s!"missing `{name}`"

/-- Why a request brought no usable answer. -/
inductive RequestFault
  /-- The endpoint is no address of a web server. -/
  | badAddress
  /-- No answer came back. -/
  | unsent
  /-- The answer is not a JSON document. -/
  | undecodable
  deriving DecidableEq, Repr

def RequestFault.message : RequestFault → String
  | .badAddress => "builder error"
  | .unsent => "error sending request"
  | .undecodable => "error decoding response body"

end LockTriage
