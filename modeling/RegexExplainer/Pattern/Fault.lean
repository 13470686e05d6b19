import RegexExplainer.Text.Basic

/- What can be wrong with a pattern, where in its text, and how it is told: the pattern is printed
with the faulty regions underlined. -/
namespace RegexExplainer.Pattern

/-- A byte offset with its line and its column in characters, both counted from one. -/
structure Position where
  offset : Nat
  line : Nat
  column : Nat
deriving DecidableEq

namespace Position

def origin : Position := ⟨0, 1, 1⟩

/-- The position after `c`. -/
def advance (p : Position) (c : Char) : Position :=
  if c = '\n' then ⟨p.offset + c.utf8Size, p.line + 1, 1⟩
  else ⟨p.offset + c.utf8Size, p.line, p.column + 1⟩

end Position

/-- What lies between two positions. -/
structure Region where
  start : Position
  stop : Position
deriving DecidableEq

namespace Region

def point (p : Position) : Region := ⟨p, p⟩

def onOneLine (r : Region) : Bool := r.start.line == r.stop.line

/-- Order of start, then of end. -/
def precedes (r s : Region) : Bool :=
  r.start.offset < s.start.offset ||
    (r.start.offset == s.start.offset && r.stop.offset ≤ s.stop.offset)

end Region

/-- Deepest nesting of groups, repetitions, classes, branches and sequences. -/
def nestLimit : Nat := 250

inductive Cause
  | classEscapeInvalid
  | classRangeInvalid
  | classRangeLiteral
  | classUnclosed
  | decimalInvalid
  | hexEmpty
  | hexInvalid
  | hexInvalidDigit
  | escapeIncomplete
  | escapeUnrecognized
  | flagDanglingNegation
  | flagDuplicate
  | flagRepeatedNegation
  | flagMissing
  | flagUnrecognized
  | groupNameDuplicate
  | groupNameEmpty
  | groupNameInvalid
  | groupNameUnclosed
  | groupUnclosed
  | groupUnopened
  | nestLimitExceeded
  | repetitionRangeInvalid
  | repetitionDecimalEmpty
  | repetitionUnclosed
  | repetitionMissing
  | wordBoundaryUnclosed
  | wordBoundaryUnrecognized
  | wordBoundaryIncomplete
  | propertySyntax
  | backreference
  | lookAround
  | unicodeNotAllowed
  | invalidUtf8
  | propertyUnknown
  | propertyValueUnknown
deriving DecidableEq

def Cause.message : Cause → String
  | classEscapeInvalid => "invalid escape sequence found in character class"
  | classRangeInvalid => "invalid character class range, the start must be <= the end"
  | classRangeLiteral => "invalid range boundary, must be a literal"
  | classUnclosed => "unclosed character class"
  | decimalInvalid => "decimal literal invalid"
  | hexEmpty => "hexadecimal literal empty"
  | hexInvalid => "hexadecimal literal is not a Unicode scalar value"
  | hexInvalidDigit => "invalid hexadecimal digit"
  | escapeIncomplete => "incomplete escape sequence, reached end of pattern prematurely"
  | escapeUnrecognized => "unrecognized escape sequence"
  | flagDanglingNegation => "dangling flag negation operator"
  | flagDuplicate => "duplicate flag"
  | flagRepeatedNegation => "flag negation operator repeated"
  | flagMissing => "expected flag but got end of regex"
  | flagUnrecognized => "unrecognized flag"
  | groupNameDuplicate => "duplicate capture group name"
  | groupNameEmpty => "empty capture group name"
  | groupNameInvalid => "invalid capture group character"
  | groupNameUnclosed => "unclosed capture group name"
  | groupUnclosed => "unclosed group"
  | groupUnopened => "unopened group"
  | nestLimitExceeded =>
    "exceed the maximum number of nested parentheses/brackets (" ++ toString nestLimit ++ ")"
  | repetitionRangeInvalid => "invalid repetition count range, the start must be <= the end"
  | repetitionDecimalEmpty => "repetition quantifier expects a valid decimal"
  | repetitionUnclosed => "unclosed counted repetition"
  | repetitionMissing => "repetition operator missing expression"
  | wordBoundaryUnclosed =>
    "special word boundary assertion is either unclosed or contains an invalid character"
  | wordBoundaryUnrecognized =>
    "unrecognized special word boundary assertion, valid choices are: " ++
      "start, end, start-half or end-half"
  | wordBoundaryIncomplete =>
    "found either the beginning of a special word boundary or a bounded repetition on a \\b " ++
      "with an opening brace, but no closing brace"
  | propertySyntax => "invalid Unicode character class"
  | backreference => "backreferences are not supported"
  | lookAround => "look-around, including look-ahead and look-behind, is not supported"
  | unicodeNotAllowed => "Unicode not allowed here"
  | invalidUtf8 => "pattern can match invalid UTF-8"
  | propertyUnknown => "Unicode property not found"
  | propertyValueUnknown => "Unicode property value not found"

/-- A cause, the region it lies in, and an earlier region it refers to. -/
structure Fault where
  cause : Cause
  region : Region
  earlier : Option Region
deriving DecidableEq

/-- A carriage return before a line feed belongs to the end of the line. -/
def lineOfReversed : Text → Text
  | '\r' :: line => line.reverse
  | line => line.reverse

def linesFrom (reversed : Text) : Text → List Text
  | [] => if reversed.isEmpty then [] else [reversed.reverse]
  | c :: rest =>
    if c = '\n' then lineOfReversed reversed :: linesFrom [] rest
    else linesFrom (c :: reversed) rest

/-- The lines without their ends. A line feed at the very end begins no line. -/
def lines (t : Text) : List Text := linesFrom [] t

def spaces (n : Nat) : Text := List.replicate n ' '

namespace Diagnostic

/-- Width of the line numbers. Only a pattern of several lines has them, and a region can lie on
the line that a final line feed opens. -/
def numberWidth (pattern : Text) : Nat :=
  let count := (lines pattern).length + if pattern.getLast? = some '\n' then 1 else 0
  if count ≤ 1 then 0 else (Text.decimal count).length

def margin (width number : Nat) : Text :=
  if width = 0 then spaces 4
  else spaces (width - (Text.decimal number).length) ++ Text.decimal number ++ ": ".toList

/-- One mark per character of each region, at least one; `column` is the first one free. -/
def marksFrom (column : Nat) : List Region → Text
  | [] => []
  | r :: rs =>
    let width := max 1 (r.stop.column - r.start.column)
    spaces (r.start.column - column) ++ List.replicate width '^' ++
      marksFrom (max column r.start.column + width) rs

def markLine (width : Nat) (regions : List Region) : Text :=
  if regions.isEmpty then []
  else spaces (if width = 0 then 4 else width + 2) ++ marksFrom 1 regions ++ ['\n']

def regions (f : Fault) : List Region :=
  match f.earlier with
  | none => [f.region]
  | some e => if e.precedes f.region then [e, f.region] else [f.region, e]

def body (pattern : Text) (regions : List Region) : Text :=
  let width := numberWidth pattern
  ((lines pattern).zipIdx 1).flatMap fun (line, number) =>
    margin width number ++ line ++ ['\n'] ++
      markLine width (regions.filter fun r => r.onOneLine && r.start.line == number)

def extent (r : Region) : Text :=
  "on line ".toList ++ Text.decimal r.start.line ++ " (column ".toList ++
    Text.decimal r.start.column ++ ") through line ".toList ++ Text.decimal r.stop.line ++
    " (column ".toList ++ Text.decimal (r.stop.column - 1) ++ ")\n".toList

/-- A pattern that holds a line feed is set between rules, and the regions over several lines are
told in words. -/
def report (f : Fault) (pattern : Text) : Text :=
  let rule := List.replicate 79 '~' ++ ['\n']
  let picture := body pattern (regions f)
  "regex parse error:\n".toList ++
    (if '\n' ∈ pattern then
      rule ++ picture ++ rule ++ ((regions f).filter (!·.onOneLine)).flatMap extent
    else picture) ++
    "error: ".toList ++ f.cause.message.toList

end Diagnostic

end RegexExplainer.Pattern
