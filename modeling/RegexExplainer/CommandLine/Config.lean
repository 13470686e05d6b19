import RegexExplainer.Text.Basic

/- What a command line asks for. What tells its arguments apart is an argument parser, of which
nothing is known here but what can be asked of it. -/
namespace RegexExplainer

inductive ColorWhen
  | always | never | auto
deriving DecidableEq

/-- Whether to colour, given whether the output is a terminal. -/
def ColorWhen.useColor (terminal : Bool) : ColorWhen → Bool
  | always => true
  | never => false
  | auto => terminal

/-- The options that take a value. -/
inductive ValuedOption
  | file | color
deriving DecidableEq

/-- What the arguments of a command line give: the patterns, and of the options those that are
there. -/
structure ArgumentMatches where
  patterns : List Text
  file : Option Text
  color : Option ColorWhen
  explainOnly : Bool
deriving DecidableEq

/-- How a run of the command ends. -/
structure Completion where
  exitCode : Nat
  output : Text
  errors : Text
deriving DecidableEq

/-- What reads a command line that begins with the name of the command, and completes a run whose
command line it cannot read. -/
class ArgumentParser where
  Error : Type
  parse : List Text → Except Error ArgumentMatches
  complete : Error → Completion

structure Config where
  patterns : List Text
  file : Option Text
  color : ColorWhen
  explainOnly : Bool
deriving DecidableEq

namespace Config

/-- Without a word about the colour the output decides. -/
def ofMatches (m : ArgumentMatches) : Config :=
  ⟨m.patterns, m.file, m.color.getD .auto, m.explainOnly⟩

def parse [ArgumentParser] (args : List Text) : Except ArgumentParser.Error Config :=
  (ArgumentParser.parse args).map ofMatches

end Config

end RegexExplainer
