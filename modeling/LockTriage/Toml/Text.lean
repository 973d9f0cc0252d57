import LockTriage.Text.Bytes

/-!
The characters of a TOML document: white space, comments, line ends, and the
four kinds of strings. A reader takes the text it is given and returns what it
found and what follows.
-/

namespace LockTriage.Toml

/-- A reader of a part of a document. It fails where that part is malformed. -/
abbrev Reader (α : Type) := List Char → Option (α × List Char)

/-- The white space inside a line. -/
def isSpace (c : Char) : Bool := c = ' ' || c = '\t'

def skipSpaces (cs : List Char) : List Char := cs.dropWhile isSpace

/-- A character that may stand for itself: not a control character, except the tab. -/
def isPlain (c : Char) : Bool := c = '\t' || (0x20 ≤ c.toNat && c.toNat ≠ 0x7F)

def newLine? : List Char → Option (List Char)
  | '\n' :: rest => some rest
  | '\r' :: '\n' :: rest => some rest
  | _ => none

/-- Drop white space, a comment, and the line end or the end of the text. -/
def restOfLine? (cs : List Char) : Option (List Char) :=
  let spaces := skipSpaces cs
  let after :=
    match spaces with
    | '#' :: comment => comment.dropWhile isPlain
    | other => other
  if after.isEmpty then some [] else newLine? after

/-- Drop white space, line ends and comments. A comment has to end in a line end. -/
def skipLines? (inComment : Bool) : List Char → Option (List Char)
  | [] => if inComment then none else some []
  | '\n' :: rest => skipLines? false rest
  | '\r' :: '\n' :: rest => skipLines? false rest
  | c :: rest =>
      if inComment then if isPlain c then skipLines? true rest else none
      else if isSpace c then skipLines? false rest
      else if c = '#' then skipLines? true rest
      else if c = '\r' then none
      else some (c :: rest)

/-- The number that hexadecimal digits of either case stand for. -/
def hexNumber? (ds : List Char) : Option Nat :=
  ds.foldlM (fun n d => (Bytes.hexValue? d).map fun v => 16 * n + v) 0

/-- The character with a number that is written in hexadecimal digits. -/
def hexChar? (ds : List Char) : Option Char :=
  (hexNumber? ds).bind fun n => if n.isValidChar then some (Char.ofNat n) else none

/-- The character that a letter stands for after a backslash. -/
def escaped? : Char → Option Char
  | 'b' => some '\x08'
  | 't' => some '\t'
  | 'n' => some '\n'
  | 'f' => some '\x0c'
  | 'r' => some '\r'
  | '"' => some '"'
  | '\\' => some '\\'
  | _ => none

/-- Put a character in front of what a reader finds. -/
def prepend (c : Char) : Option (List Char × List Char) → Option (List Char × List Char) :=
  Option.map fun (found, rest) => (c :: found, rest)

def basicString : Reader (List Char)
  | [] => none
  | '"' :: rest => some ([], rest)
  | '\\' :: 'u' :: a :: b :: c :: d :: rest =>
      (hexChar? [a, b, c, d]).bind fun e => prepend e (basicString rest)
  | '\\' :: 'U' :: a :: b :: c :: d :: e :: f :: g :: h :: rest =>
      (hexChar? [a, b, c, d, e, f, g, h]).bind fun e => prepend e (basicString rest)
  | '\\' :: e :: rest => (escaped? e).bind fun e => prepend e (basicString rest)
  | c :: rest => if isPlain c && c ≠ '\\' then prepend c (basicString rest) else none

/-- A backslash at the end of a line: only white space stands between it and the
line end. -/
def endsLine (cs : List Char) : Bool := (newLine? (skipSpaces cs)).isSome

/-- The rest of a string in three double quotes. Up to two further quotes before
the closing ones belong to the string. After a backslash at the end of a line,
white space and line ends are dropped. -/
def basicLines (dropping : Bool) : Reader (List Char)
  | [] => none
  | '"' :: '"' :: '"' :: '"' :: '"' :: rest => some (['"', '"'], rest)
  | '"' :: '"' :: '"' :: '"' :: rest => some (['"'], rest)
  | '"' :: '"' :: '"' :: rest => some ([], rest)
  | '\r' :: '\n' :: rest =>
      if dropping then basicLines true rest else prepend '\n' (basicLines false rest)
  | '\n' :: rest => if dropping then basicLines true rest else prepend '\n' (basicLines false rest)
  | '\\' :: 'u' :: a :: b :: c :: d :: rest =>
      (hexChar? [a, b, c, d]).bind fun e => prepend e (basicLines false rest)
  | '\\' :: 'U' :: a :: b :: c :: d :: e :: f :: g :: h :: rest =>
      (hexChar? [a, b, c, d, e, f, g, h]).bind fun e => prepend e (basicLines false rest)
  | '\\' :: e :: rest =>
      if endsLine (e :: rest) then basicLines true (e :: rest)
      else (escaped? e).bind fun e => prepend e (basicLines false rest)
  | c :: rest =>
      if dropping && isSpace c then basicLines true rest
      else if isPlain c && c ≠ '\\' then prepend c (basicLines false rest)
      else none

def literalString : Reader (List Char)
  | [] => none
  | '\'' :: rest => some ([], rest)
  | c :: rest => if isPlain c then prepend c (literalString rest) else none

def literalLines : Reader (List Char)
  | [] => none
  | '\'' :: '\'' :: '\'' :: '\'' :: '\'' :: rest => some (['\'', '\''], rest)
  | '\'' :: '\'' :: '\'' :: '\'' :: rest => some (['\''], rest)
  | '\'' :: '\'' :: '\'' :: rest => some ([], rest)
  | '\r' :: '\n' :: rest => prepend '\n' (literalLines rest)
  | c :: rest =>
      if isPlain c || c = '\n' then prepend c (literalLines rest) else none

/-- Drop a line end, if there is one. -/
def skipNewLine (cs : List Char) : List Char := (newLine? cs).getD cs

/-- A string of any kind. A line end right after three quotes is dropped. -/
def string : Reader String := fun cs =>
  let found :=
    match cs with
    | '"' :: '"' :: '"' :: rest => basicLines false (skipNewLine rest)
    | '\'' :: '\'' :: '\'' :: rest => literalLines (skipNewLine rest)
    | '"' :: rest => basicString rest
    | '\'' :: rest => literalString rest
    | _ => none
  found.map fun (text, rest) => (String.ofList text, rest)

end LockTriage.Toml
