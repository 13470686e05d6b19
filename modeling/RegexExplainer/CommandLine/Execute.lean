import RegexExplainer.CommandLine.Arguments
import RegexExplainer.Regex.Compile
import RegexExplainer.Report

/- A run of the command as a function of what it can see, of the engine and of the argument parser.
Those that run come with it. -/
namespace RegexExplainer

/-- The arguments with the name of the command, what a path holds if it can be read, what is piped
in, and whether the output is a terminal. -/
structure Surroundings where
  args : List Text
  readFile : Text → Option (List UInt8)
  input : List UInt8
  terminal : Bool

namespace Completion

def unreadable (path : Text) : Completion :=
  ⟨1, [], "Error: failed to read ".toList ++ path ++ ['\n']⟩

def ofReport (r : Report) : Completion := ⟨r.outcome.exitCode, r.output, []⟩

end Completion

/-- The content: that of the named file, or what is piped in. -/
def Config.content (c : Config) (s : Surroundings) : Except Text Text :=
  match c.file with
  | none => .ok (Text.decode s.input)
  | some path =>
    match s.readFile path with
    | some bytes => .ok (Text.decode bytes)
    | none => .error path

def Config.renderOptions (c : Config) (terminal : Bool) : RenderOptions :=
  ⟨c.color.useColor terminal, c.explainOnly⟩

def execute [Engine] [ArgumentParser] (s : Surroundings) : Completion :=
  match Config.parse s.args with
  | .error e => ArgumentParser.complete e
  | .ok c =>
    match c.content s with
    | .error path => .unreadable path
    | .ok content => .ofReport (report c.patterns content (c.renderOptions s.terminal))

end RegexExplainer
