import RegexExplainer.Token.Bounds

/- Pieces of a pattern with what they mean, and the explained tokens made of them, with their place
and nesting depth. -/
namespace RegexExplainer

inductive Kind
  | literal | escape | metaChar | groupOpen | groupOpenNonCapturing | groupClose | quantifier
  | quantifierRange | alternation
deriving DecidableEq

structure Lexeme where
  kind : Kind
  text : Text
  explanation : Text
deriving DecidableEq

def isMetaChar (c : Char) : Bool :=
  c == '^' || c == '$' || c == '.' || c == '[' || c == ']' || c == '|'

def isQuantifierChar (c : Char) : Bool := c == '*' || c == '+' || c == '?'

/-- What a backslash before `c` stands for. -/
def escapeExplanation (c : Char) : Text :=
  match c with
  | 'd' => "match any digit [0-9]".toList
  | 'D' => "match any non-digit".toList
  | 'w' => "match any word character [a-zA-Z0-9_]".toList
  | 'W' => "match any non-word character".toList
  | 's' => "match any whitespace character (space, tab, newline)".toList
  | 'S' => "match any non-whitespace character".toList
  | 'b' => "match a word boundary".toList
  | 'B' => "match a non-word boundary".toList
  | 'A' => "match start of string".toList
  | 'z' => "match end of string".toList
  | 't' => "match tab character".toList
  | 'n' => "match newline character".toList
  | 'r' => "match carriage return".toList
  | c => "escaped character '".toList ++ [c, '\'']

def literalExplanation : Text := "match this character literally".toList

def metaExplanation (c : Char) : Text :=
  match c with
  | '^' => "match start of line".toList
  | '$' => "match end of line".toList
  | '.' => "match any character except newline".toList
  | '[' => "start character class".toList
  | ']' => "end character class".toList
  | _ => literalExplanation

def quantifierExplanation (c : Char) : Text :=
  match c with
  | '*' => "match the preceding token zero or more times".toList
  | '+' => "match the preceding token one or more times".toList
  | '?' => "match the preceding token zero or one time".toList
  | _ => literalExplanation

namespace Lexeme

def literal (text : Text) : Lexeme := ⟨.literal, text, literalExplanation⟩

def length (l : Lexeme) : Nat := l.text.size

/-- Whether a group that opens right before `rest` captures nothing. -/
def opensNonCapturing (rest : Text) : Bool := ['?', ':'].isPrefixOf rest

/-- The piece at the start of a text, where braces are plain characters. -/
def first : Text → Lexeme
  | [] => literal []
  | ['\\'] => literal ['\\']
  | '\\' :: c :: _ => ⟨.escape, ['\\', c], escapeExplanation c⟩
  | '(' :: rest =>
    if opensNonCapturing rest then
      ⟨.groupOpenNonCapturing, ['('], "start non-capturing group".toList⟩
    else ⟨.groupOpen, ['('], "start capturing group".toList⟩
  | ')' :: _ => ⟨.groupClose, [')'], "end group".toList⟩
  | '|' :: _ => ⟨.alternation, ['|'], "alternation (OR)".toList⟩
  | c :: _ =>
    if isMetaChar c then ⟨.metaChar, [c], metaExplanation c⟩
    else if isQuantifierChar c then ⟨.quantifier, [c], quantifierExplanation c⟩
    else literal [c]

/-- The piece at a byte offset, unless that lies inside a character or outside the text. -/
def classify? (pattern : Text) (offset : Nat) : Option Lexeme := (pattern.from? offset).map first

/-- The piece at the start of a text; an opening brace may begin a range quantifier. -/
def next : Text → Lexeme
  | '\x7b' :: rest =>
    match (Bounds.content? rest).bind fun c => (Bounds.parse? c).map fun b => (c, b) with
    | some (content, bounds) =>
      ⟨.quantifierRange, '\x7b' :: content ++ ['\x7d'], bounds.explanation⟩
    | none => literal ['\x7b']
  | t => first t

theorem length_text_first_pos {t : Text} (h : t ≠ []) : 0 < (first t).text.length := by
  unfold first literal
  split <;> first | contradiction | (repeat' split) <;> simp

theorem length_text_next_pos {t : Text} (h : t ≠ []) : 0 < (next t).text.length := by
  unfold next literal
  split
  · split <;> simp
  · exact length_text_first_pos h

/-- The pieces of a whole pattern. -/
def all (t : Text) : List Lexeme :=
  if h : t = [] then []
  else
    have : t.length - (next t).text.length < t.length :=
      Nat.sub_lt (List.length_pos_iff.2 h) (length_text_next_pos h)
    next t :: all (t.drop (next t).text.length)
termination_by t.length

end Lexeme

/-- Whether the parenthesis at a byte offset opens a group that captures nothing, unless no offset
comes after it. -/
def opensNonCapturingAt? (pattern : Text) (offset : Nat) : Option Bool :=
  (Text.offsetAfter? offset).map fun next => (pattern.from? next).any Lexeme.opensNonCapturing

structure Token where
  span : Span
  text : Text
  kind : Kind
  depth : Nat
  explanation : Text
deriving DecidableEq

/-- Depth counts open capturing groups. A closer without an opener changes nothing. -/
def Kind.depthAfter (depth : Nat) : Kind → Nat
  | .groupOpen => depth + 1
  | .groupClose => depth - 1
  | _ => depth

/-- An opening parenthesis lies outside its group, as does the closing one. -/
def Kind.shownDepth (depth : Nat) : Kind → Nat
  | .groupOpen => depth
  | k => k.depthAfter depth

namespace Token

def ofLexeme (offset depth : Nat) (l : Lexeme) : Token :=
  ⟨⟨offset, offset + l.length⟩, l.text, l.kind, l.kind.shownDepth depth, l.explanation⟩

/-- Tokens of consecutive pieces, from a byte offset and a depth on. -/
def placeFrom (offset depth : Nat) : List Lexeme → List Token
  | [] => []
  | l :: ls => ofLexeme offset depth l :: placeFrom (offset + l.length) (l.kind.depthAfter depth) ls

def position (t : Token) : Nat := t.span.start

def length (t : Token) : Nat := t.span.stop - t.span.start

def isEmpty (t : Token) : Bool := t.span.start == t.span.stop

end Token

def annotate (pattern : Text) : List Token := Token.placeFrom 0 0 (Lexeme.all pattern)

/-- The depth after all tokens of a pattern. -/
def finalDepth (pattern : Text) : Nat :=
  (Lexeme.all pattern).foldl (fun depth l => l.kind.depthAfter depth) 0

end RegexExplainer
