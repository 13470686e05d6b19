import RegexExplainer.Expression.Basic

/- Programs for matching, and how an expression becomes one. -/
namespace RegexExplainer

/-- Each instruction names the ones that come after it. -/
inductive Instruction
  | char (set : CharSet) (next : Nat)
  | look (l : Look) (next : Nat)
  | save (slot : Nat) (next : Nat)
  | split (first second : Nat)
  | jump (next : Nat)
  | accept
deriving DecidableEq

structure Program where
  code : Array Instruction
deriving DecidableEq

/-- Greedy repetitions try another round first. -/
def Instruction.round (greedy : Bool) (again exit : Nat) : Instruction :=
  if greedy then split again exit else split exit again

namespace Expression

/-- Number of instructions. -/
def codeSize : Expression → Nat
  | empty => 1
  | char _ _ => 1
  | look _ => 1
  | capture _ e => e.codeSize + 2
  | seq e f => e.codeSize + f.codeSize
  | alt e f => e.codeSize + f.codeSize + 1
  | repetition 0 none _ e => e.codeSize + if e.consumes then 1 else 2
  | repetition (least + 1) none _ e => (least + 1) * e.codeSize + 1
  | repetition least (some most) _ e =>
    least * e.codeSize + (most - least) * (e.codeSize + 1) + 1

/-- Code that stands at `base` and goes on at `next` after a match. A loop over what may be empty
tests for another round at its end, so that the first round keeps its preference. -/
def emit : Expression → Nat → Nat → List Instruction
  | empty, _, next => [.jump next]
  | char _ s, _, next => [.char s next]
  | look l, _, next => [.look l next]
  | capture i e, base, next =>
    let stop := base + 1 + e.codeSize
    .save (2 * i) (base + 1) :: e.emit (base + 1) stop ++ [.save (2 * i + 1) next]
  | seq e f, base, next =>
    let middle := base + e.codeSize
    e.emit base middle ++ f.emit middle next
  | alt e f, base, next =>
    let second := base + 1 + e.codeSize
    .split (base + 1) second :: e.emit (base + 1) next ++ f.emit second next
  | repetition 0 none greedy e, base, next =>
    let round := Instruction.round greedy (base + 1) next
    if e.consumes then round :: e.emit (base + 1) base
    else round :: e.emit (base + 1) (base + 1 + e.codeSize) ++ [round]
  | repetition (least + 1) none greedy e, base, next =>
    let size := e.codeSize
    let last := base + least * size
    (List.range (least + 1)).flatMap (fun k =>
      e.emit (base + k * size) (base + (k + 1) * size)) ++ [.round greedy last next]
  | repetition least (some most) greedy e, base, next =>
    let size := e.codeSize
    let middle := base + least * size
    (List.range least).flatMap (fun k =>
      e.emit (base + k * size) (base + (k + 1) * size)) ++
    (List.range (most - least)).flatMap (fun k =>
      let round := middle + k * (size + 1)
      .round greedy (round + 1) next :: e.emit (round + 1) (round + 1 + size)) ++
    [.jump next]

theorem length_flatMap_range {n size : Nat} {f : Nat → List Instruction}
    (h : ∀ k, (f k).length = size) : ((List.range n).flatMap f).length = n * size := by
  induction n with
  | zero => simp
  | succ n ih => simp [List.range_succ, h, ih, Nat.succ_mul]

@[simp] theorem length_emit (e : Expression) (base next : Nat) :
    (e.emit base next).length = e.codeSize := by
  fun_induction emit e base next with
  | case1 | case2 | case3 => rfl
  | case4 i e base next stop ih => simp [codeSize, ih]
  | case5 e f base next middle ihe ihf => simp [codeSize, ihe, ihf]
  | case6 e f base next second ihe ihf => simp [codeSize, ihe, ihf]
  | case7 greedy e base next round h ih => simp [codeSize, h, ih]
  | case8 greedy e base next round h ih => simp [codeSize, h, ih]
  | case9 base next least greedy e size last ih =>
    simp [codeSize, length_flatMap_range ih, size]
  | case10 least most greedy e base next size middle ih ihr =>
    have h : ∀ k, (Instruction.round greedy (middle + k * (size + 1) + 1) next ::
        e.emit (middle + k * (size + 1) + 1) (middle + k * (size + 1) + 1 + size)).length =
        e.codeSize + 1 := by
      intro k
      simp [ihr]
    rw [codeSize, List.length_append, List.length_append, length_flatMap_range ih,
      length_flatMap_range h]
    rfl

end Expression

def Program.ofExpression (e : Expression) : Program :=
  ⟨(e.emit 0 e.codeSize ++ [Instruction.accept]).toArray⟩

end RegexExplainer
