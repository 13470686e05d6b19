import RegexExplainer.Session

/- The printed form of a snapshot, with or without colour, and the report on several patterns, one
after the other. -/
namespace RegexExplainer

def escapeCode (parameters : String) : Text := '\x1b' :: '[' :: parameters.toList ++ ['m']

def Kind.color : Kind → Text
  | .literal => escapeCode "90"
  | .escape => escapeCode "32"
  | .metaChar | .alternation => escapeCode "95"
  | .groupOpen | .groupOpenNonCapturing | .groupClose => escapeCode "96"
  | .quantifier | .quantifierRange => escapeCode "38;5;208"

def matchColor : Text := escapeCode "01;31"

def errorColor : Text := escapeCode "31"

def colorReset : Text := escapeCode ""

def colorize (useColor : Bool) (color text : Text) : Text :=
  if useColor then color ++ text ++ colorReset else text

structure RenderOptions where
  useColor : Bool
  explainOnly : Bool
deriving DecidableEq

def line (t : Text) : Text := t ++ ['\n']

def placeholder : Text := "Enter a pattern to see explanation".toList

def Token.render (useColor : Bool) (t : Token) : Text :=
  line (List.replicate (2 * t.depth) ' ' ++ colorize useColor t.kind.color t.text ++
    ": ".toList ++ t.explanation)

def Run.render (useColor : Bool) (r : Run) : Text :=
  if r.highlighted then colorize useColor matchColor r.text else r.text

/-- Ends the last line, if it has no end. -/
def endLine (t : Text) : Text := if t.getLast? = some '\n' then t else line t

namespace Snapshot

def explanationPane (s : Snapshot) (useColor : Bool) : Text :=
  line "pattern explanation".toList ++
    match s.error with
    | some message =>
      line (colorize useColor errorColor ("Invalid regex: ".toList ++ message))
    | none =>
      if s.tokens.isEmpty then line placeholder else s.tokens.flatMap (Token.render useColor)

/-- The content under its title, after what was written before. -/
def withContentPane (s : Snapshot) (useColor : Bool) (before : Text) : Text :=
  endLine (before ++ "\ncontent\n".toList ++ s.runs.flatMap (Run.render useColor))

def captureEntry (group : Nat) (values : List Text) : Text :=
  line ("Group ".toList ++ Text.decimal group ++ [':']) ++ values.flatMap fun v => line ('\t' :: v)

def capturePane (s : Snapshot) : Text :=
  if s.showsCaptures then
    "\ncapture\n".toList ++ s.captures.flatMap fun (group, values) => captureEntry group values
  else []

def footer (s : Snapshot) : Text :=
  if s.error.isNone && !s.tokens.isEmpty then
    line ("\nTotal matches: ".toList ++ Text.decimal s.matchCount)
  else []

def render (s : Snapshot) (o : RenderOptions) : Text :=
  let explained := s.explanationPane o.useColor
  (if o.explainOnly then explained else s.withContentPane o.useColor explained) ++
    s.capturePane ++ s.footer

end Snapshot

inductive Outcome
  | matched | unmatched | invalid
deriving DecidableEq

def Outcome.exitCode : Outcome → Nat
  | matched => 0
  | unmatched => 1
  | invalid => 2

structure Report where
  outcome : Outcome
  output : Text
deriving DecidableEq

/-- What was seen so far: an invalid pattern outweighs a match. -/
structure ReportState where
  session : Session
  anyMatched : Bool
  anyInvalid : Bool
deriving DecidableEq

namespace ReportState

def start (content : Text) : ReportState := ⟨.start content, false, false⟩

def next [Engine] (s : ReportState) (pattern : Text) : ReportState :=
  let session := s.session.setPattern pattern
  ⟨session, s.anyMatched || 0 < session.snapshot.matchCount,
    s.anyInvalid || session.snapshot.error.isSome⟩

def outcome (s : ReportState) : Outcome :=
  if s.anyInvalid then .invalid else if s.anyMatched then .matched else .unmatched

/-- The sections of the patterns, with an empty line before each but the first. -/
def reportFrom [Engine] (o : RenderOptions) (s : ReportState) (first : Bool) : List Text → Report
  | [] => ⟨s.outcome, []⟩
  | p :: ps =>
    let s := s.next p
    let page := s.session.snapshot.render o
    let rest := reportFrom o s false ps
    ⟨rest.outcome, (if first then [] else ['\n']) ++ page ++ rest.output⟩

end ReportState

def report [Engine] (patterns : List Text) (content : Text) (o : RenderOptions) : Report :=
  match patterns with
  | [] => ⟨.unmatched, (Session.start content).snapshot.render o⟩
  | ps => (ReportState.start content).reportFrom o true ps

end RegexExplainer
