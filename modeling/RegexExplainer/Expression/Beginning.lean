import RegexExplainer.Expression.Basic
import RegexExplainer.Text.Basic

/- How the matches of an expression begin, as a short list of texts. Where these are all there is
to match, they can be looked for without a machine. -/
namespace RegexExplainer

/-- Bytes that a match begins with. They may be the whole of it. -/
structure Beginning where
  bytes : List UInt8
  whole : Bool
deriving DecidableEq

namespace Beginning

def nothing : Beginning := ⟨[], true⟩

def ofChar (c : Char) : Beginning := ⟨String.utf8EncodeChar c, true⟩

/-- The same beginning, of a match that may go on. -/
def unfinished (b : Beginning) : Beginning := ⟨b.bytes, false⟩

def append (b c : Beginning) : Beginning := ⟨b.bytes ++ c.bytes, c.whole⟩

def cut (n : Nat) (b : Beginning) : Beginning :=
  if b.bytes.length ≤ n then b else ⟨b.bytes.take n, false⟩

/-- Takes equal neighbours together. -/
def mergeFrom (b : Beginning) : List Beginning → List Beginning
  | [] => [b]
  | c :: rest =>
    if b.bytes = c.bytes then mergeFrom ⟨b.bytes, b.whole && c.whole⟩ rest
    else b :: mergeFrom c rest

def merge : List Beginning → List Beginning
  | [] => []
  | b :: rest => mergeFrom b rest

/-- Leaves out what begins with a preferred beginning, as that is always found first. -/
def unshadowed (bs : List Beginning) : List Beginning :=
  let shadows (kept : List Beginning) (b : Beginning) :=
    kept.any fun k => k.bytes.isPrefixOf b.bytes
  bs.foldl (fun kept b => if shadows kept b then kept else kept ++ [b]) []

def sharedStart : List Beginning → List UInt8
  | [] => []
  | b :: rest => rest.foldl (fun s c => commonStart s c.bytes) b.bytes

end Beginning

/-- The beginnings in order of preference, or none when there are too many to list. -/
abbrev Beginnings := Option (List Beginning)

namespace Beginnings

def mostTexts : Nat := 250

def mostBytes : Nat := 100

def mostChars : Nat := 10

def mostRounds : Nat := 10

/-- Bytes that are kept of each text when a list grows too long. -/
def keptBytes : Nat := 4

def nothing : Beginnings := some [.nothing]

def never : Beginnings := some []

/-- Matches that may go on. -/
def unfinished (s : Beginnings) : Beginnings := s.map fun bs => bs.map Beginning.unfinished

def ofSet (s : CharSet) : Beginnings :=
  let sizes := s.intervals.map fun i => i.last + 1 - i.first
  if sizes.foldl (· + ·) 0 ≤ mostChars then
    some (s.intervals.flatMap fun i =>
      (List.range (i.last + 1 - i.first)).map fun k => .ofChar (Char.ofNat (i.first + k)))
  else none

/-- One after the other. Only what is whole goes on. -/
def follow (s t : Beginnings) : Beginnings :=
  s.bind fun bs =>
    if bs.all fun b => !b.whole then some bs
    else
      match t.filter fun cs => bs.length * cs.length ≤ mostTexts with
      | none => if bs.any fun b => b.bytes.isEmpty then none else some (bs.map .unfinished)
      | some cs =>
        let all := bs.flatMap fun b => if b.whole then cs.map b.append else [b]
        some ((Beginning.merge all).map (.cut mostBytes))

/-- One or the other, the first preferred. -/
def join (s t : Beginnings) : Beginnings :=
  s.bind fun bs => t.bind fun cs =>
    if bs.length + cs.length ≤ mostTexts then some (Beginning.merge (bs ++ cs))
    else
      let bs := Beginning.merge (bs.map (.cut keptBytes))
      let cs := Beginning.merge (cs.map (.cut keptBytes))
      if bs.length + cs.length ≤ mostTexts then some (Beginning.merge (bs ++ cs)) else none

def rounds (n : Nat) (s : Beginnings) : Beginnings :=
  let all := (List.replicate (min n mostRounds) s).foldl follow nothing
  if n ≤ mostRounds then all else all.unfinished

def repeated (least : Nat) (most : Option Nat) (greedy : Bool) (s : Beginnings) : Beginnings :=
  if least = 0 then
    let s := if most = some 1 then s else s.unfinished
    if greedy then s.join nothing else nothing.join s
  else
    match most with
    | none => s.unfinished
    | some most => if most ≤ least then s.rounds least else (s.rounds least).unfinished

end Beginnings

/-- Whether an expression comes after what was read before it, or is a branch beside it. -/
inductive Placement
  | after | beside
deriving DecidableEq

def Placement.combine : Placement → Beginnings → Beginnings → Beginnings
  | after => .follow
  | beside => .join

namespace Expression

/-- The beginnings of an expression, combined with those of what was read before. -/
def beginningsWith (p : Placement) (s : Beginnings) : Expression → Beginnings
  | empty => p.combine s .nothing
  | char _ set => p.combine s (.ofSet set)
  | look _ => p.combine s .nothing
  | capture _ e => p.combine s (e.beginningsWith .after .nothing)
  | seq e f =>
    match p with
    | .after => f.beginningsWith .after (e.beginningsWith .after s)
    | .beside => s.join (f.beginningsWith .after (e.beginningsWith .after .nothing))
  | alt e f =>
    match p with
    | .after => s.follow (f.beginningsWith .beside (e.beginningsWith .beside .never))
    | .beside => f.beginningsWith .beside (e.beginningsWith .beside s)
  | repetition least most greedy e =>
    p.combine s ((e.beginningsWith .after .nothing).repeated least most greedy)

def beginnings (e : Expression) : Beginnings := e.beginningsWith .after .nothing

/-- Whether there are neither groups nor tests of a place. -/
def isPlain : Expression → Bool
  | empty => true
  | char _ _ => true
  | look _ => false
  | capture _ _ => false
  | seq e f => e.isPlain && f.isPlain
  | alt e f => e.isPlain && f.isPlain
  | repetition _ _ _ e => e.isPlain

end Expression

namespace Beginning

/-- Bytes of ASCII that are seldom seen in texts. -/
def isRare (b : UInt8) : Bool :=
  b ≤ 0x7F && !"\n\r (),-./0129:_abcdefghilmnoprstuvxy|".toList.contains (Char.ofNat b.toNat)

/-- How far texts are shortened while there are more than a number of them. -/
def shortenings : List (Nat × Nat) := [(5, 10), (4, 10), (3, 64), (2, 64), (1, 10)]

def shortened : List (Nat × Nat) → List Beginning → List Beginning
  | [], bs => bs
  | (kept, most) :: rest, bs =>
    if bs.length ≤ most then bs else shortened rest (unshadowed (bs.map (cut kept)))

/-- Most short beginnings that are looked for at once. -/
def mostAtOnce : Nat := 64

/-- Most texts that are looked for as fast as what they begin with. -/
def mostFast : Nat := 16

/-- What is looked for. That is what all texts begin with, when it is long, or when it is short and
its first byte is seldom seen; else, for many texts, short beginnings, if these are neither too many
nor too short; else the texts. -/
def sought (count : Nat) (bs : List Beginning) : List Beginning :=
  let start := sharedStart bs
  let isFast := bs.length ≤ mostFast && bs.all fun b => b.whole
  if 1 < count && 1 ≤ start.length && start.length ≤ 3 && start.head?.any isRare then bs.map (cut 1)
  else if 4 < start.length || (1 < start.length && !isFast) then bs.map (cut start.length)
  else
    let short := shortened shortenings bs
    if (short.any fun b => b.bytes.length ≤ 2) || mostAtOnce < short.length then bs else short

end Beginning

/-- The texts that an expression matches, when it is they that are looked for. -/
def Expression.texts? (e : Expression) : Option (List Text) := do
  guard e.isPlain
  let all ← e.beginnings
  guard (all.all fun b => !b.bytes.isEmpty)
  let sought := Beginning.sought all.length (Beginning.unshadowed all)
  guard (!sought.isEmpty && sought.all fun b => b.whole)
  return sought.map fun b => Text.decode b.bytes

/-- A choice between texts. -/
def Expression.ofTexts (texts : List Text) : Expression :=
  .ofBranches (texts.map fun t => .ofParts (t.map fun c => .ofSet .unicode (.singleton c)))

end RegexExplainer
