import RegexExplainer.CharSet
import RegexExplainer.Pattern.Fault
import RegexExplainer.Unicode.Property

/- Patterns as trees, each node with the region it was read from. -/
namespace RegexExplainer.Pattern

/-- A literal character; `byte` marks one written by exactly two hexadecimal digits. -/
structure Literal where
  region : Region
  char : Char
  byte : Bool
deriving DecidableEq

inductive Assertion
  | lineStart | lineEnd | textStart | textEnd | word | notWord | wordStart | wordEnd
  | wordStartHalf | wordEndHalf
deriving DecidableEq

inductive Perl
  | digit | space | word
deriving DecidableEq

/-- What can be written alone, outside or inside a bracket expression. -/
inductive Atom
  | literal (l : Literal)
  | dot (region : Region)
  | assertion (region : Region) (a : Assertion)
  | property (region : Region) (query : Unicode.PropertyQuery) (negated : Bool)
  | perl (region : Region) (cls : Perl) (negated : Bool)
deriving DecidableEq

def Atom.region : Atom → Region
  | literal l => l.region
  | dot r => r
  | assertion r _ => r
  | property r _ _ => r
  | perl r _ _ => r

inductive SetOperation
  | intersection | difference | symmetricDifference
deriving DecidableEq

inductive ClassTree
  | empty (region : Region)
  | literal (l : Literal)
  | range (region : Region) (first last : Literal)
  | posix (region : Region) (cls : Posix) (negated : Bool)
  | property (region : Region) (query : Unicode.PropertyQuery) (negated : Bool)
  | perl (region : Region) (cls : Perl) (negated : Bool)
  | bracket (region : Region) (negated : Bool) (inner : ClassTree)
  | union (region : Region) (items : List ClassTree)
  | binary (region : Region) (op : SetOperation) (left right : ClassTree)

def ClassTree.region : ClassTree → Region
  | empty r => r
  | literal l => l.region
  | range r _ _ => r
  | posix r _ _ => r
  | property r _ _ => r
  | perl r _ _ => r
  | bracket r _ _ => r
  | union r _ => r
  | binary r _ _ _ => r

inductive Flag
  | caseInsensitive | multiLine | dotMatchesNewLine | swapGreed | unicode | crlf | ignoreSpace
deriving DecidableEq

abbrev FlagChanges := List (Flag × Bool)

inductive GroupKind
  | capture (index : Nat)
  | plain (changes : FlagChanges)
deriving DecidableEq

inductive Tree
  | empty (region : Region)
  | flags (region : Region) (changes : FlagChanges)
  | atom (a : Atom)
  | bracket (region : Region) (negated : Bool) (inner : ClassTree)
  | repetition (region : Region) (min : Nat) (max : Option Nat) (greedy : Bool) (sub : Tree)
  | group (region : Region) (kind : GroupKind) (sub : Tree)
  | alternation (region : Region) (branches : List Tree)
  | concat (region : Region) (parts : List Tree)

namespace Tree

def region : Tree → Region
  | empty r => r
  | flags r _ => r
  | atom a => a.region
  | bracket r _ _ => r
  | repetition r _ _ _ _ => r
  | group r _ _ => r
  | alternation r _ => r
  | concat r _ => r

def ofParts (region : Region) : List Tree → Tree
  | [] => empty region
  | [t] => t
  | ts => concat region ts

def ofBranches (region : Region) : List Tree → Tree
  | [] => empty region
  | [t] => t
  | ts => alternation region ts

end Tree

end RegexExplainer.Pattern
