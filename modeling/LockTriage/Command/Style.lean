import LockTriage.Text.Search

/-!
Styled text on terminals. A styled text stands between the code of its style and
a reset. A reset inside it is followed by the code again, so that the style holds
to its end.
-/

namespace LockTriage

/-- How a piece of text is shown. -/
inductive Style
  | bold
  | boldUnderlined
  | dimmed
  | boldRed
  | boldGreen
  | yellow
  | green
  deriving DecidableEq, Repr

namespace Style

def parameters : Style → String
  | bold => "1"
  | boldUnderlined => "1;4"
  | dimmed => "2"
  | boldRed => "1;31"
  | boldGreen => "1;32"
  | yellow => "33"
  | green => "32"

def code (s : Style) : List Char := '\x1b' :: '[' :: (s.parameters.toList ++ ['m'])

def reset : List Char := ['\x1b', '[', '0', 'm']

def resuming (code : List Char) : List Char → List Char
  | '\x1b' :: '[' :: '0' :: 'm' :: rest => reset ++ code ++ resuming code rest
  | c :: rest => c :: resuming code rest
  | [] => []

/-- A text in a style, if styles are shown at all. -/
def paint (s : Style) (shown : Bool) (text : String) : String :=
  if shown then String.ofList (s.code ++ resuming s.code text.toList ++ reset) else text

end Style

/-- Styles are shown on a terminal that is not asked to do without them, and
wherever they are forced. -/
def showsStyles (environment : String → Option String) (terminal : Bool) : Bool :=
  if (environment "CLICOLOR_FORCE").any (· ≠ "0") then true
  else if (environment "NO_COLOR").isSome then false
  else terminal && (environment "CLICOLOR").all (· ≠ "0")

end LockTriage
