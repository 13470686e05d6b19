import RegexExplainer.Evaluation
import RegexExplainer.Token.Annotate

/- All that there is to show about a pattern and a content: the content cut into plain and
highlighted runs, the snapshot of the two, and a session in which they change over time. -/
namespace RegexExplainer

structure Run where
  text : Text
  highlighted : Bool
deriving DecidableEq

namespace Run

def plain (t : Text) : Run := ⟨t, false⟩

def marked (t : Text) : Run := ⟨t, true⟩

/-- A plain run, unless it would be empty. -/
def gap (t : Text) : List Run := if t.isEmpty then [] else [plain t]

end Run

/-- The runs from byte `cursor` on. A span is cut off at the cursor and at the end of the text, and
one that is then empty or cuts a character is passed over. -/
def runsFrom (content : Text) (cursor : Nat) : List Span → List Run
  | [] => Run.gap ((content.from? cursor).getD [])
  | s :: spans =>
    let start := max s.start cursor
    let stop := min s.stop content.size
    if stop ≤ start then runsFrom content cursor spans
    else
      match content.slice? cursor start, content.slice? start stop with
      | some before, some hit => Run.gap before ++ .marked hit :: runsFrom content stop spans
      | _, _ => runsFrom content cursor spans

/-- An empty text is one empty run. -/
def highlight (content : Text) (spans : List Span) : List Run :=
  match runsFrom content 0 spans with
  | [] => [.plain content]
  | runs => runs

/-- Here `error` is the message for a pattern that does not compile. -/
structure Snapshot where
  tokens : List Token
  matched : List Span
  captures : CaptureSet
  hasCaptureGroups : Bool
  runs : List Run
  error : Option Text
deriving DecidableEq

namespace Snapshot

/-- Nothing is matched. -/
def plain (content : Text) (tokens : List Token) (error : Option Text) : Snapshot :=
  ⟨tokens, [], [], false, highlight content [], error⟩

def matchCount (s : Snapshot) : Nat := s.matched.length

def showsCaptures (s : Snapshot) : Bool := s.hasCaptureGroups && !s.captures.isEmpty

/-- The empty pattern matches nothing. -/
def compute [Engine] (pattern content : Text) : Snapshot :=
  if pattern.isEmpty then plain content [] none
  else match evaluate pattern content with
    | .ok e =>
      ⟨annotate pattern, e.matched, e.captures, e.hasCaptureGroups, highlight content e.matched,
        none⟩
    | .error e => plain content (annotate pattern) (some e.message)

end Snapshot

structure Session where
  content : Text
  pattern : Text
  snapshot : Snapshot
deriving DecidableEq

namespace Session

def start (content : Text) : Session := ⟨content, [], .plain content [] none⟩

def setPattern [Engine] (s : Session) (pattern : Text) : Session :=
  { s with pattern, snapshot := .compute pattern s.content }

def setContent [Engine] (s : Session) (content : Text) : Session :=
  { s with content, snapshot := .compute s.pattern content }

end Session

/-- A session with a kept copy to go back to. -/
structure Workspace where
  session : Session
  kept : Option Session
deriving DecidableEq

inductive Step
  | setPattern (pattern : Text)
  | setContent (content : Text)
  | keep
  | goBack
deriving DecidableEq

namespace Workspace

def start (content : Text) : Workspace := ⟨.start content, none⟩

def perform [Engine] (w : Workspace) : Step → Workspace
  | .setPattern pattern => { w with session := w.session.setPattern pattern }
  | .setContent content => { w with session := w.session.setContent content }
  | .keep => { w with kept := some w.session }
  | .goBack => { w with session := w.kept.getD w.session }

def performAll [Engine] (w : Workspace) (steps : List Step) : Workspace := steps.foldl perform w

end Workspace

end RegexExplainer
