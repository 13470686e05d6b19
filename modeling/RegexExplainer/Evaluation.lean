import RegexExplainer.Text.Basic

/- What a pattern matches and captures in a text. What compiles the pattern and finds its matches is
an engine, of which nothing is known here but what can be asked of it. -/
namespace RegexExplainer

/-- A match in a text: where it lies, and what each group captured, from group one on. -/
structure Match where
  span : Span
  groups : List (Option Text)
deriving DecidableEq

/-- Why a pattern does not compile, in the words of the engine. -/
structure CompileError where
  message : Text
deriving DecidableEq

/-- What compiles patterns, and finds in a text the matches of what it compiled: their spans alone, or
with what their groups captured. It tells how many groups there are, the whole match not counted. -/
class Engine where
  Compiled : Type
  compile : Text → Except CompileError Compiled
  find : Compiled → Text → List Span
  captures : Compiled → Text → List Match
  groupCount : Compiled → Nat

/-- The distinct values that each group captured, by ascending group, in the order first seen. -/
abbrev CaptureSet := List (Nat × List Text)

namespace CaptureSet

/-- Changes the values of a group, from none when it has no entry. -/
def alter (group : Nat) (f : List Text → List Text) : CaptureSet → CaptureSet
  | [] => [(group, f [])]
  | (g, values) :: s =>
    if group < g then (group, f []) :: (g, values) :: s
    else if group = g then (g, f values) :: s
    else (g, values) :: alter group f s

def record (s : CaptureSet) (group : Nat) (value : Text) : CaptureSet :=
  s.alter group fun values => if value ∈ values then values else values ++ [value]

/-- A later entry of a group takes the place of an earlier one. -/
def ofEntries (entries : List (Nat × List Text)) : CaptureSet :=
  entries.foldl (fun s (group, values) => s.alter group fun _ => values) []

/-- A group that took no part in a match counts as empty. -/
def recordMatch (s : CaptureSet) (m : Match) : CaptureSet :=
  (m.groups.zipIdx 1).foldl (fun s (value, group) => s.record group (value.getD [])) s

def ofMatches (ms : List Match) : CaptureSet := ms.foldl recordMatch []

end CaptureSet

structure Evaluation where
  matched : List Span
  captures : CaptureSet
  hasCaptureGroups : Bool
deriving DecidableEq

/-- Opening parentheses seen so far that no backslash escapes, and whether the next character is
escaped. -/
structure OpenCount where
  opens : Nat
  escaped : Bool
deriving DecidableEq

namespace OpenCount

def none : OpenCount := ⟨0, false⟩

def read (n : OpenCount) (c : Char) : OpenCount :=
  if n.escaped then { n with escaped := false }
  else if c = '\\' then { n with escaped := true }
  else if c = '(' then { n with opens := n.opens + 1 }
  else n

def ofText (t : Text) : OpenCount := t.foldl read none

end OpenCount

/-- Number of places where `(?:` stands. -/
def countNonCapturing : Text → Nat
  | [] => 0
  | c :: t => (if ['(', '?', ':'].isPrefixOf (c :: t) then 1 else 0) + countNonCapturing t

/-- A guess from the text alone whether a pattern captures. -/
def hasCaptureGroups (pattern : Text) : Bool :=
  countNonCapturing pattern < (OpenCount.ofText pattern).opens

section Engine

variable [Engine]

/-- Matches by a compiled pattern, with the guess made on a text. -/
def evaluateCompiled (re : Engine.Compiled) (pattern content : Text) : Evaluation :=
  let captures :=
    if hasCaptureGroups pattern then CaptureSet.ofMatches (Engine.captures re content) else []
  ⟨Engine.find re content, captures, hasCaptureGroups pattern⟩

def evaluate (pattern content : Text) : Except CompileError Evaluation := do
  let re ← Engine.compile pattern
  return evaluateCompiled re pattern content

end Engine

end RegexExplainer
