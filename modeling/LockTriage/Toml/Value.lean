/-!
TOML values. The settings use texts, booleans, lists and tables; numbers, dates
and times are read so that they are known to be well-formed.
-/

namespace LockTriage.Toml

/-- A value. Floats, dates and times are kept as they are written. -/
inductive Value
  | string (text : String)
  | integer (value : Int)
  | float (written : String)
  | boolean (value : Bool)
  | dateTime (written : String)
  | array (items : List Value)
  | table (entries : List (String × Value))
  deriving Repr

end LockTriage.Toml
