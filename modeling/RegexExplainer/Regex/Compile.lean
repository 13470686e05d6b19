import RegexExplainer.Evaluation
import RegexExplainer.Expression.Beginning
import RegexExplainer.Expression.Elaborate
import RegexExplainer.Expression.Footprint
import RegexExplainer.Pattern.Parse
import RegexExplainer.Program.Search

/- The engine that runs: from the text of a pattern to what finds its matches. -/
namespace RegexExplainer

/-- A program, and how many capturing groups it tells apart. -/
structure Regex where
  program : Program
  groupCount : Nat
deriving DecidableEq

namespace Found

def span (f : Found) : Span := ⟨f.start.offset, f.stop.offset⟩

/-- A group captured what lies between its last two saves. -/
def groupText (f : Found) (t : Text) (group : Nat) : Option Text := do
  let start ← f.saves.lookup (2 * group)
  let stop ← f.saves.lookup (2 * group + 1)
  t.slice? start stop

def toMatch (f : Found) (t : Text) (groupCount : Nat) : Match :=
  ⟨f.span, (List.range groupCount).map fun k => f.groupText t (k + 1)⟩

end Found

def Expression.ofPattern (pattern : Text) : Except Pattern.Fault Expression := do
  let tree ← Pattern.parse pattern
  Pattern.checkDepth tree
  let (e, _) ← tree.elaborate .initial
  return e

namespace Regex

inductive Refusal
  | malformed (pattern : Text) (fault : Pattern.Fault)
  | tooLarge
deriving DecidableEq

def Refusal.toError : Refusal → CompileError
  | malformed pattern fault => ⟨Pattern.Diagnostic.report fault pattern⟩
  | tooLarge =>
    ⟨"Compiled regex exceeds size limit of ".toList ++ Text.decimal Expression.footprintLimit ++
      " bytes.".toList⟩

def ofExpression (e : Expression) : Regex := ⟨.ofExpression e, e.lastGroup⟩

/-- What is too large for a machine may still be a choice between a few texts. -/
def ofPattern (pattern : Text) : Except Refusal Regex :=
  match Expression.ofPattern pattern with
  | .error fault => .error (.malformed pattern fault)
  | .ok e =>
    if e.fits then .ok (ofExpression e)
    else match e.texts? with
      | some texts => .ok (ofExpression (.ofTexts texts))
      | none => .error .tooLarge

def compile (pattern : Text) : Except CompileError Regex := (ofPattern pattern).mapError (·.toError)

/-- All matches in a text. -/
def findAll (re : Regex) (t : Text) : List Match :=
  (re.program.all t).map fun f => f.toMatch t re.groupCount

instance engine : Engine where
  Compiled := Regex
  compile := compile
  find re t := (re.findAll t).map Match.span
  captures := findAll
  groupCount := groupCount

/-- The evaluation by a regex that was compiled before. -/
def evaluate (re : Regex) (pattern content : Text) : Evaluation :=
  evaluateCompiled re pattern content

end Regex

end RegexExplainer
