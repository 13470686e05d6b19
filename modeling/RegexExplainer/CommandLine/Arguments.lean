import RegexExplainer.CommandLine.Config
import RegexExplainer.Text.Terminal

/- The argument parser that runs. -/
namespace RegexExplainer

def ColorWhen.ofName? (t : Text) : Option ColorWhen :=
  if t = "always".toList then some always
  else if t = "never".toList then some never
  else if t = "auto".toList then some auto
  else none

inductive SwitchOption
  | explainOnly | help | version
deriving DecidableEq

def ValuedOption.usage : ValuedOption → Text
  | file => "--file <PATH>".toList
  | color => "--color <COLOR>".toList

def SwitchOption.usage : SwitchOption → Text
  | explainOnly => "--explain-only".toList
  | help => "--help".toList
  | version => "--version".toList

inductive ArgumentError
  | helpAsked
  | versionAsked
  | missingValue (o : ValuedOption)
  | invalidColor (value : Text)
  | repeated (usage : Text)
  | valueNotTaken (o : SwitchOption) (value : Text)
  | unknown (argument : Text)
deriving DecidableEq

namespace ArgumentError

def versionText : Text := "greg 0.1.0\n".toList

def helpText : Text :=
  ("Explain a regular expression token by token and show what it matches\n" ++
    "\n" ++
    "Usage: greg [OPTIONS] [PATTERNS]...\n" ++
    "\n" ++
    "Arguments:\n" ++
    "  [PATTERNS]...  Patterns to explain, each run against the same content\n" ++
    "\n" ++
    "Options:\n" ++
    "  -f, --file <PATH>    Read content from this file instead of standard input\n" ++
    "      --color <COLOR>  When to colour the output [default: auto] " ++
    "[possible values: always, never, auto]\n" ++
    "      --explain-only   Only print the pattern breakdown, not the highlighted content\n" ++
    "  -h, --help           Print help\n" ++
    "  -V, --version        Print version\n").toList

/-- Help and version are asked for, all else is a fault. -/
def isRequest : ArgumentError → Bool
  | helpAsked => true
  | versionAsked => true
  | _ => false

/-- The words of an error around what it quotes of the command line. -/
structure Wording where
  before : Text
  quoted : Text
  after : Text
deriving DecidableEq

def wording : ArgumentError → Wording
  | helpAsked => ⟨helpText, [], []⟩
  | versionAsked => ⟨versionText, [], []⟩
  | missingValue o =>
    ⟨"error: a value is required for '".toList ++ o.usage ++ "' but none was supplied\n".toList,
      [], []⟩
  | invalidColor value =>
    ⟨"error: invalid value '".toList, value, "' for '".toList ++ ValuedOption.color.usage ++
      "'\n".toList⟩
  | repeated usage =>
    ⟨"error: the argument '".toList ++ usage ++ "' cannot be used multiple times\n".toList, [], []⟩
  | valueNotTaken o value =>
    ⟨"error: unexpected value '".toList, value, "' for '".toList ++ o.usage ++
      "' found; no more were expected\n".toList⟩
  | unknown argument =>
    ⟨"error: unexpected argument '".toList, argument, "' found\n".toList⟩

/-- The error as a text, without the control sequences of what it quotes. -/
def message? (e : ArgumentError) : Option Text :=
  e.wording.quoted.plain?.map fun quoted => e.wording.before ++ quoted ++ e.wording.after

/-- The error as a stream shows it. -/
def printed (e : ArgumentError) : Text :=
  e.wording.before ++ e.wording.quoted.streamed ++ e.wording.after

/-- Help and version are output, faults are not. -/
def complete (e : ArgumentError) : Completion :=
  if e.isRequest then ⟨0, e.printed, []⟩ else ⟨2, [], e.printed⟩

end ArgumentError

/-- What was read so far, patterns last first. A valued option first waits for its value; a value
given apart is taken only when the next argument comes. -/
structure ArgumentState where
  patterns : List Text
  file : Option Text
  color : Option ColorWhen
  explainOnly : Bool
  waiting : Option ValuedOption
  held : Option (ValuedOption × Text)
deriving DecidableEq

namespace ArgumentState

def initial : ArgumentState := ⟨[], none, none, false, none, none⟩

def toMatches (s : ArgumentState) : ArgumentMatches :=
  ⟨s.patterns.reverse, s.file, s.color, s.explainOnly⟩

/-- Gives an option its value, once. -/
def take (s : ArgumentState) : ValuedOption → Text → Except ArgumentError ArgumentState
  | .file, value =>
    if s.file.isSome then .error (.repeated ValuedOption.file.usage)
    else if value.isEmpty then .error (.missingValue .file)
    else .ok { s with file := some value }
  | .color, value =>
    if s.color.isSome then .error (.repeated ValuedOption.color.usage)
    else if value.isEmpty then .error (.missingValue .color)
    else match ColorWhen.ofName? value with
      | some color => .ok { s with color := some color }
      | none => .error (.invalidColor value)

/-- Finishes the option before. -/
def settle (s : ArgumentState) : Except ArgumentError ArgumentState :=
  match s.waiting, s.held with
  | some o, _ => .error (.missingValue o)
  | none, some (o, value) => take { s with held := none } o value
  | none, none => .ok s

/-- An argument that is no option: the value of the option before, or a pattern. -/
def plain (s : ArgumentState) (a : Text) : Except ArgumentError ArgumentState :=
  match s.waiting with
  | some o => .ok { s with waiting := none, held := some (o, a) }
  | none => do
    let s ← s.settle
    return { s with patterns := a :: s.patterns }

def valued (s : ArgumentState) (o : ValuedOption) :
    Option Text → Except ArgumentError ArgumentState
  | some value => do (← s.settle).take o value
  | none => do return { ← s.settle with waiting := some o }

def switch (s : ArgumentState) (o : SwitchOption) : Except ArgumentError ArgumentState := do
  let s ← s.settle
  match o with
  | .explainOnly =>
    if s.explainOnly then .error (.repeated o.usage) else return { s with explainOnly := true }
  | .help => .error .helpAsked
  | .version => .error .versionAsked

inductive OptionName
  | valued (o : ValuedOption)
  | switch (o : SwitchOption)
deriving DecidableEq

def longOptions : List (String × OptionName) :=
  [("file", .valued .file), ("color", .valued .color), ("explain-only", .switch .explainOnly),
    ("help", .switch .help), ("version", .switch .version)]

def shortOptions : List (Char × OptionName) :=
  [('f', .valued .file), ('h', .switch .help), ('V', .switch .version)]

/-- What follows two hyphens: a name, and a value after an equals sign. -/
def long (s : ArgumentState) (t : Text) : Except ArgumentError ArgumentState :=
  let name := t.takeWhile (· != '=')
  let value := (t.dropWhile (· != '=')).tail?
  match longOptions.lookup (String.ofList name) with
  | none => .error (.unknown ('-' :: '-' :: name))
  | some (.valued o) => s.valued o value
  | some (.switch o) =>
    match value with
    | some value => .error (.valueNotTaken o value)
    | none => s.switch o

/-- The value right after the letter of an option, with or without an equals sign. -/
def attached? : Text → Option Text
  | [] => none
  | '=' :: value => some value
  | value => some value

/-- What follows one hyphen: letters, the last of which may have a value. -/
def short (s : ArgumentState) : Text → Except ArgumentError ArgumentState
  | [] => .ok s
  | c :: t =>
    match shortOptions.lookup c with
    | none => .error (.unknown ['-', c])
    | some (.valued o) => s.valued o (attached? t)
    | some (.switch o) => do short (← s.switch o) t

/-- Reads the arguments in order. After two hyphens alone there are no more options; they are no
value either. -/
def readAll (s : ArgumentState) (optionsOver : Bool) :
    List Text → Except ArgumentError ArgumentState
  | [] => s.settle
  | a :: args =>
    if optionsOver then do (← s.plain a).readAll true args
    else match a with
      | ['-', '-'] =>
        match s.waiting with
        | some o => .error (.missingValue o)
        | none => s.readAll true args
      | '-' :: '-' :: t => do (← s.long t).readAll false args
      | '-' :: c :: t => do (← s.short (c :: t)).readAll false args
      | a => do (← s.plain a).readAll false args

instance parser : ArgumentParser where
  Error := ArgumentError
  parse args := (initial.readAll false args.tail).map toMatches
  complete := ArgumentError.complete

end ArgumentState

end RegexExplainer
