import PipeQuery.Check
import PipeQuery.Manual.Tutorial
import PipeQuery.Query.Validation

/-! The command line: from arguments to a command, and from a command and the standard input to
what is written. Options may stand before and behind the other arguments of a command; two
hyphens end them. -/

namespace PipeQuery.CommandLine

/-! ### Commands -/

/-- The commands with one argument, or none. -/
inductive Command
  | check (query : String) (input : Option String) (syntaxOnly : Bool) (form : Check.Form)
  | validate (query : String)
  | format (query : String)
  | detect (text : String)
  | docs
  | doc (category : String)
  | onboard
deriving DecidableEq, Repr

/-- What the arguments ask for. -/
inductive Request
  | run (command : Command) (verbosity : Nat)
  | version
  | help
  | misuse
deriving DecidableEq, Repr

/-- The commands by their shape: their options and how many arguments they take. -/
inductive Verb
  | check | validate | fmt | detect | docs | doc | onboard
deriving DecidableEq, Repr

def Verb.ofName? (name : String) : Option Verb :=
  [("check", Verb.check), ("validate", .validate), ("fmt", .fmt), ("detect", .detect),
   ("docs", .docs), ("doc", .doc), ("onboard", .onboard)].lookup name

/-- A command takes one argument besides its options, or none. -/
def Verb.takesArgument : Verb → Bool
  | .docs | .onboard => false
  | _ => true

/-! ### Options -/

/-- The options of all commands. -/
inductive Flag
  | verbose | version | help | input | pretty | syntaxOnly | output
deriving DecidableEq, Repr

/-- The option takes a value. -/
def Flag.takesValue : Flag → Bool
  | .input | .output => true
  | _ => false

def Flag.ofLong? (verb : Option Verb) (name : String) : Option Flag :=
  if name = "verbose" then some .verbose
  else if name = "help" then some .help
  else if name = "version" && verb.isNone then some .version
  else if verb = some .check then
    [("input", Flag.input), ("pretty", .pretty), ("syntax-only", .syntaxOnly),
     ("output", .output)].lookup name
  else none

def Flag.ofShort? (verb : Option Verb) (c : Char) : Option Flag :=
  if c = 'v' then some .verbose
  else if c = 'h' then some .help
  else if c = 'V' && verb.isNone then some .version
  else if verb = some .check then
    [('i', Flag.input), ('p', .pretty), ('o', .output)].lookup c
  else none

/-- What was read of the arguments. -/
structure Progress where
  verb : Option Verb
  verbosity : Nat
  argument : Option String
  input : Option String
  output : Option String
  pretty : Bool
  syntaxOnly : Bool

/-- What a flag without a value does. All but the one for more records may stand once. -/
inductive Effect
  | proceed (p : Progress)
  | stop (r : Request)

def Progress.set (p : Progress) : Flag → Effect
  | .verbose => .proceed { p with verbosity := p.verbosity + 1 }
  | .version => .stop .version
  | .help => .stop .help
  | .pretty => if p.pretty then .stop .misuse else .proceed { p with pretty := true }
  | .syntaxOnly => if p.syntaxOnly then .stop .misuse else .proceed { p with syntaxOnly := true }
  | _ => .stop .misuse

/-- Gives an option its value, which it may be given once. -/
def Progress.setValue (p : Progress) (value : String) : Flag → Effect
  | .input => if p.input.isSome then .stop .misuse else .proceed { p with input := some value }
  | .output =>
    if p.output.isSome || !(value = "json" || value = "table") then .stop .misuse
    else .proceed { p with output := some value }
  | _ => .stop .misuse

/-- Takes an argument that is no option: first the command, then its own one. -/
def Progress.setArgument (p : Progress) (value : String) : Effect :=
  match p.verb with
  | none => .stop .misuse
  | some verb =>
    if verb.takesArgument && p.argument.isNone then .proceed { p with argument := some value }
    else .stop .misuse

/-- The value of an option without the equals sign that may stand before it. -/
def attached (cs : List Char) : String :=
  match cs with
  | '=' :: cs => String.ofList cs
  | cs => String.ofList cs

/-- What a group of one-letter options leaves to be done: nothing, or to find the value of the
last one. -/
inductive Letters
  | done (p : Progress)
  | needsValue (p : Progress) (flag : Flag)
  | stop (r : Request)

/-- Takes one-letter options. One with a value takes what follows its letter. -/
def letters (p : Progress) : List Char → Letters
  | [] => .done p
  | c :: cs =>
    match Flag.ofShort? p.verb c with
    | none => .stop .misuse
    | some flag =>
      if flag.takesValue then
        if cs.isEmpty then .needsValue p flag
        else
          match p.setValue (attached cs) flag with
          | .proceed p => .done p
          | .stop r => .stop r
      else
        match p.set flag with
        | .proceed p => letters p cs
        | .stop r => .stop r

/-- Takes an option by its name; its value may follow an equals sign. -/
def long (p : Progress) (cs : List Char) : Letters :=
  let name := String.ofList (cs.takeWhile (· ≠ '='))
  match Flag.ofLong? p.verb name with
  | none => .stop .misuse
  | some flag =>
    match cs.dropWhile (· ≠ '=') with
    | [] =>
      if flag.takesValue then .needsValue p flag
      else
        match p.set flag with
        | .proceed p => .done p
        | .stop r => .stop r
    | _ :: value =>
      if flag.takesValue then
        match p.setValue (String.ofList value) flag with
        | .proceed p => .done p
        | .stop r => .stop r
      else .stop .misuse

/-- The command of complete arguments. -/
def Progress.request (p : Progress) : Request :=
  let command : Option Command :=
    match p.verb, p.argument with
    | some .check, some query =>
      let form : Check.Form :=
        if p.output = some "table" then .grid else if p.pretty then .prettyJson else .json
      some (.check query p.input p.syntaxOnly form)
    | some .validate, some query => some (.validate query)
    | some .fmt, some query => some (.format query)
    | some .detect, some text => some (.detect text)
    | some .docs, _ => some .docs
    | some .doc, some category => some (.doc category)
    | some .onboard, _ => some .onboard
    | _, _ => none
  match command with
  | some c => .run c p.verbosity
  | none => .misuse

/-- Takes arguments behind two hyphens, none of which is an option. -/
def plain (p : Progress) : List String → Request
  | [] => p.request
  | a :: rest =>
    match p.setArgument a with
    | .proceed p => plain p rest
    | .stop r => r

/-- Asks for help on a command, or on all of them. -/
def helpOn : List String → Request
  | [] => .help
  | [name] => if (Verb.ofName? name).isSome || name = "help" then .help else .misuse
  | _ => .misuse

/-- Takes all arguments. A value of its own must not look like an option; a single hyphen does
not. -/
def read (p : Progress) : List String → Request
  | [] => p.request
  | a :: rest =>
    match a.toList with
    | ['-', '-'] => plain p rest
    | '-' :: '-' :: cs => follow (long p cs) rest
    | '-' :: c :: cs => follow (letters p (c :: cs)) rest
    | _ =>
      if p.verb.isNone then
        match Verb.ofName? a with
        | some verb => read { p with verb } rest
        | none => if a = "help" then helpOn rest else .misuse
      else
        match p.setArgument a with
        | .proceed p => read p rest
        | .stop r => r
where
  /-- Goes on behind an option. -/
  follow (step : Letters) (rest : List String) : Request :=
    match step, rest with
    | .stop r, _ => r
    | .done p, rest => read p rest
    | .needsValue _ _, [] => .misuse
    | .needsValue p flag, value :: rest =>
      match value.toList with
      | '-' :: _ :: _ => .misuse
      | _ =>
        match p.setValue value flag with
        | .proceed p => read p rest
        | .stop r => r

/-- What the arguments ask for. -/
def request (args : List String) : Request := read ⟨none, 0, none, none, none, false, false⟩ args

/-! ### Answers -/

/-- The exit code, the texts for both outputs, and the records of a run. -/
structure Answer where
  code : Nat
  output : String
  errors : String
  records : List Log.Record

def Answer.ok (output : String) (records : List Log.Record) : Answer := ⟨0, output, "", records⟩

def Answer.failure (errors : String) (records : List Log.Record) : Answer :=
  ⟨1, "", errors ++ "\n", records⟩

/-- The text with a line feed at its end, if it has none. -/
def closeLine (text : String) : String :=
  if text.toList.getLast? = some '\n' then text else text ++ "\n"

/-- The command reads the standard input. -/
def Command.readsInput : Command → Bool
  | .check _ input syntaxOnly _ => input.isNone && !syntaxOnly
  | _ => false

/-- Runs a command, where `stdin` is the standard input, or nothing if it is no text. -/
def Command.answer (stdin : Option String) (command : Command) : Answer :=
  match command with
  | .check query input syntaxOnly form =>
    if command.readsInput && stdin.isNone then
      .failure (CommandError.input "stream did not contain valid UTF-8").text []
    else
      let input := if command.readsInput then stdin else input
      let records := Check.records query input syntaxOnly
      match Check.run query input syntaxOnly with
      | .ok .syntaxValid => .ok "Syntax is valid\n" records
      | .ok (.result t) => .ok (closeLine (Check.render form t)) records
      | .error e => .failure e.text records
  | .validate query =>
    match syntaxError? query with
    | none => .ok "valid\n" (Log.parsing query)
    | some e => .failure e.text (Log.parsing query)
  | .format query => .ok (PipeQuery.format query ++ "\n") (Log.formatting query)
  | .detect text => .ok (if looksLikeQuery text then "true\n" else "false\n") []
  | .docs => .ok Manual.overview []
  | .doc category =>
    match Manual.page category with
    | .ok page => .ok page []
    | .error e => .failure e.text []
  | .onboard => .ok Manual.tutorial []

/-- The version that the program tells. -/
def versionLine : String := "mcpql 0.1.0\n"

/-- How the program is called. -/
def usage : String :=
  lines [
    "Usage: mcpql [-v]... <COMMAND>",
    "",
    "  check <QUERY> [-i JSON] [-p] [--syntax-only] [-o json|table]",
    "  validate <QUERY>",
    "  fmt <QUERY>",
    "  detect <TEXT>",
    "  docs",
    "  doc <CATEGORY>",
    "  onboard"]

/-- The answer to a request. -/
def Request.answer (stdin : Option String) : Request → Answer
  | .run command _ => command.answer stdin
  | .version => .ok versionLine []
  | .help => .ok usage []
  | .misuse => ⟨2, "", usage, []⟩

/-- The request reads the standard input. -/
def Request.readsInput : Request → Bool
  | .run command _ => command.readsInput
  | _ => false

/-- The lines of the records that a request wants to see. -/
def Request.recordLines (r : Request) (records : List Log.Record) : String :=
  match r with
  | .run _ verbosity =>
    lines <| (records.filter fun x => x.level.verbosity ≤ verbosity).map fun x =>
      s!"[{x.level.name} {x.source.name}] {x.message}"
  | _ => ""

end PipeQuery.CommandLine
