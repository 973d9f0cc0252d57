import LockTriage.Text.Split

/-!
Reading the arguments of one level of a command line: options, operands, and the
name of a subcommand. An option is given at most once at a level, except for
lists, and two hyphens alone end the options.
-/

namespace LockTriage.Arguments

inductive Kind
  | flag
  /-- A path, which may not be empty. -/
  | path
  /-- One of some words. -/
  | word (choices : List String)
  /-- Texts separated by commas. Such an option may be repeated. -/
  | list
  /-- Ends the reading in favour of a help text. -/
  | help
  /-- Ends the reading in favour of the version. -/
  | version
  deriving DecidableEq, Repr

structure Rule where
  long : String
  short : Option Char
  kind : Kind
  deriving DecidableEq, Repr

structure Grammar where
  rules : List Rule
  /-- The most operands. -/
  operands : Nat
  subcommands : List String
  deriving DecidableEq, Repr

inductive Stop
  | misuse
  | help
  | version
  deriving DecidableEq, Repr

structure Given where
  /-- The values of each option that has been given; a flag has none. -/
  options : List (String × List String)
  operands : List String
  deriving DecidableEq, Repr

/-- Nothing has been given. -/
def Given.nothing : Given := ⟨[], []⟩

namespace Given

/-- The values of an option, if it has been given. -/
def values? (g : Given) (long : String) : Option (List String) := g.options.lookup long

def has (g : Given) (long : String) : Bool := (g.values? long).isSome

def value? (g : Given) (long : String) : Option String := (g.values? long).bind List.head?

/-- Give an option some values, which follow those it has already. -/
def append (g : Given) (long : String) (values : List String) : Given :=
  { g with
    options := g.options.filter (·.1 ≠ long) ++ [(long, (g.values? long).getD [] ++ values)] }

/-- Read an option that takes no value. -/
def mark (g : Given) (rule : Rule) : Except Stop Given :=
  match rule.kind with
  | .help => .error .help
  | .version => .error .version
  | _ => if g.has rule.long then .error .misuse else .ok (g.append rule.long [])

def take (g : Given) (rule : Rule) (value : String) : Except Stop Given :=
  let accepted :=
    match rule.kind with
    | .path => !value.isEmpty && !g.has rule.long
    | .word choices => choices.contains value && !g.has rule.long
    | .list => true
    | _ => false
  if accepted then
    .ok (g.append rule.long (if rule.kind = .list then Text.splitAt ',' value else [value]))
  else .error .misuse

end Given

def Kind.takesValue : Kind → Bool
  | flag => false
  | path => true
  | word _ => true
  | list => true
  | help => false
  | version => false

/-- Read the letters after a hyphen. What follows the letter of an option with a
value is its value, with or without an equals sign; if nothing follows, the value
is the next argument, and the option is returned. -/
def letters (grammar : Grammar) (given : Given) :
    List Char → Except Stop (Given × Option Rule)
  | [] => .ok (given, none)
  | c :: rest =>
      match grammar.rules.find? fun r => r.short == some c with
      | none => .error .misuse
      | some rule =>
          if rule.kind.takesValue then
            match rest with
            | [] => .ok (given, some rule)
            | '=' :: value =>
                (given.take rule (String.ofList value)).map fun given => (given, none)
            | value => (given.take rule (String.ofList value)).map fun given => (given, none)
          else
            match given.mark rule with
            | .error stop => .error stop
            | .ok given => letters grammar given rest

/-- Read the text after two hyphens: a name, or a name and a value. -/
def word (grammar : Grammar) (given : Given) (text : List Char) :
    Except Stop (Given × Option Rule) :=
  let (name, value?) :=
    match Text.cutFirst? '=' text with
    | none => (text, none)
    | some (name, value) => (name, some (String.ofList value))
  match grammar.rules.find? fun r => r.long == String.ofList name with
  | none => .error .misuse
  | some rule =>
      match rule.kind.takesValue, value? with
      | true, none => .ok (given, some rule)
      | true, some value => (given.take rule value).map fun given => (given, none)
      | false, none => (given.mark rule).map fun given => (given, none)
      | false, some _ => .error .misuse

def operand (grammar : Grammar) (given : Given) (text : String) : Except Stop Given :=
  if given.operands.length < grammar.operands && !text.isEmpty then
    .ok { given with operands := given.operands ++ [text] }
  else .error .misuse

/-- Read arguments up to the name of a subcommand, which is returned with the
arguments after it. An option that waits for its value is not followed by another
option, and after two hyphens alone every argument is an operand. -/
def read (grammar : Grammar) (given : Given) (waiting : Option Rule) (plain : Bool) :
    List String → Except Stop (Given × Option (String × List String))
  | [] => if waiting.isSome then .error .misuse else .ok (given, none)
  | argument :: rest =>
      if plain then
        match operand grammar given argument with
        | .error stop => .error stop
        | .ok given => read grammar given none true rest
      else
        match argument.toList, waiting with
        | ['-', '-'], none => read grammar given none true rest
        | '-' :: '-' :: text, none =>
            match word grammar given text with
            | .error stop => .error stop
            | .ok (given, waiting) => read grammar given waiting false rest
        | '-' :: c :: text, none =>
            match letters grammar given (c :: text) with
            | .error stop => .error stop
            | .ok (given, waiting) => read grammar given waiting false rest
        | '-' :: _ :: _, some _ => .error .misuse
        | _, some rule =>
            match given.take rule argument with
            | .error stop => .error stop
            | .ok given => read grammar given none false rest
        | _, none =>
            if grammar.subcommands.contains argument then .ok (given, some (argument, rest))
            else
              match operand grammar given argument with
              | .error stop => .error stop
              | .ok given => read grammar given none false rest

end LockTriage.Arguments
