import Mathlib.Data.List.Perm.Basic
import RegexExplainer.Proofs.CommandLine.Grammar

/- Options may stand anywhere among the patterns before two hyphens alone: where they stand and
which comes first does not change how a command line is read. -/
namespace RegexExplainer

/-- Whether a value is an argument of its own or follows an equals sign. -/
inductive Spelling
  | apart | attached
deriving DecidableEq

/-- What the command line says before two hyphens alone. -/
inductive Item
  | pattern (p : Text)
  | valued (o : ValuedOption) (spelling : Spelling) (value : Text)
  | explainOnly
deriving DecidableEq

namespace Item

/-- The item as arguments. -/
def words : Item → List Text
  | pattern p => [p]
  | valued o .apart value => ['-' :: '-' :: o.name, value]
  | valued o .attached value => ['-' :: '-' :: (o.name ++ '=' :: value)]
  | explainOnly => ["--explain-only".toList]

def pattern? : Item → Option Text
  | pattern p => some p
  | _ => none

theorem pattern?_eq_some_iff {i : Item} {p : Text} : i.pattern? = some p ↔ i = pattern p := by
  cases i with
  | pattern q => simp [pattern?]
  | valued o spelling value => simp [pattern?]
  | explainOnly => simp [pattern?]

end Item

/-- Which options a command line gives, each at most once, and how it spells them. -/
structure Choice where
  file : Option (Spelling × Text)
  color : Option (Spelling × ColorWhen)
  explainOnly : Bool
deriving DecidableEq

namespace Choice

variable {o : Choice} {i : Item}

def items (o : Choice) : List Item :=
  (o.file.map fun v => Item.valued .file v.1 v.2).toList ++
    (o.color.map fun v => Item.valued .color v.1 v.2.name).toList ++
    if o.explainOnly then [.explainOnly] else []

/-- A file has a name, and one that is not taken for an option. -/
structure Readable (o : Choice) : Prop where
  ne_nil : ∀ v ∈ o.file, v.2 ≠ []
  unhyphenated : ∀ v ∈ o.file, v.2.Unhyphenated

/-- What is said by some patterns and a choice of options. -/
def said (ps : List Text) (o : Choice) : ArgumentMatches :=
  ⟨ps, o.file.map Prod.snd, o.color.map Prod.snd, o.explainOnly⟩

theorem said_of_items_eq_nil (h : o.items = []) (ps : List Text) :
    said ps o = ⟨ps, none, none, false⟩ := by
  simp only [items, List.append_eq_nil_iff, Option.toList_eq_nil_iff, Option.map_eq_none_iff,
    ite_eq_right_iff, List.cons_ne_nil, imp_false, Bool.not_eq_true] at h
  obtain ⟨⟨hfile, hcolor⟩, hexplain⟩ := h
  simp [said, hfile, hcolor, hexplain]

variable [ArgumentParser]

theorem parse_valued (h : ArgumentParser.Documented) {name value : Text} {option : ValuedOption}
    {args : List Text} {m m' : ArgumentMatches} (hvalue : value.Unhyphenated)
    (hgives : option.Gives value m m') (hparse : ArgumentParser.parse (name :: args) = .ok m)
    (spelling : Spelling) :
    ArgumentParser.parse (name :: ((Item.valued option spelling value).words ++ args)) =
      .ok m' := by
  cases spelling with
  | apart => exact h.apart hvalue hgives hparse
  | attached => exact h.attached hvalue hgives hparse

/-- What is left of a choice when one of its options is given first. -/
structure Given (o : Choice) (i : Item) (o' : Choice) : Prop where
  items : o.items.Perm (i :: o'.items)
  readable : o'.Readable
  parse : ∀ {name args ps}, ArgumentParser.parse (name :: args) = .ok (said ps o') →
    ArgumentParser.parse (name :: (i.words ++ args)) = .ok (said ps o)

/-- The step: any option of a choice can be given first. -/
theorem exists_given (h : ArgumentParser.Documented) (ho : o.Readable) (hi : i ∈ o.items) :
    ∃ o', o.Given i o' := by
  simp only [items, List.mem_append, Option.mem_toList, Option.map_eq_some_iff] at hi
  rcases hi with (⟨v, hv, rfl⟩ | ⟨v, hv, rfl⟩) | hi
  · refine ⟨{ o with file := none }, ?_, ⟨nofun, nofun⟩, ?_⟩
    · rw [items, hv]
      exact .refl _
    · intro name args ps hparse
      have hgives := ValuedOption.Gives.file (m := said ps { o with file := none })
        (ho.ne_nil v hv) rfl
      rw [parse_valued h (ho.unhyphenated v hv) hgives hparse]
      simp [said, hv]
  · refine ⟨{ o with color := none }, ?_, ⟨ho.ne_nil, ho.unhyphenated⟩, ?_⟩
    · rw [items, items, hv, List.append_assoc, List.append_assoc]
      exact List.perm_middle
    · intro name args ps hparse
      have hgives := ValuedOption.Gives.color (w := v.2) (m := said ps { o with color := none }) rfl
      rw [parse_valued h v.2.unhyphenated_name hgives hparse]
      simp [said, hv]
  · cases hgiven : o.explainOnly with
    | false =>
        rw [hgiven] at hi
        exact absurd hi List.not_mem_nil
    | true =>
        rw [hgiven] at hi
        obtain rfl := List.mem_singleton.mp hi
        refine ⟨{ o with explainOnly := false }, ?_, ⟨ho.ne_nil, ho.unhyphenated⟩, ?_⟩
        · rw [items, items, hgiven, if_pos rfl, if_neg Bool.false_ne_true, List.append_nil]
          exact List.perm_append_singleton _ _
        · intro name args ps hparse
          refine (h.flag rfl hparse).trans ?_
          simp [said, hgiven]

end Choice

/-- Patterns in their order with options anywhere between them. -/
structure Interleaved (ps : List Text) (o : Choice) (items : List Item) : Prop where
  patterns : items.filterMap Item.pattern? = ps
  options : (items.filter fun i => i.pattern?.isNone).Perm o.items

namespace Interleaved

variable {ps : List Text} {o : Choice} {items : List Item}

theorem of_pattern {p : Text} (h : Interleaved ps o (.pattern p :: items)) :
    ∃ ps', ps = p :: ps' ∧ Interleaved ps' o items :=
  ⟨items.filterMap Item.pattern?, h.patterns.symm, rfl, h.options⟩

theorem of_option {i : Item} (hi : i.pattern? = none) (h : Interleaved ps o (i :: items)) :
    i ∈ o.items ∧ ∀ o' : Choice, o.items.Perm (i :: o'.items) → Interleaved ps o' items := by
  have hoptions := h.options
  rw [List.filter_cons_of_pos (by rw [hi]; rfl)] at hoptions
  refine ⟨hoptions.mem_iff.mp (List.mem_cons_self), ?_⟩
  intro o' ho'
  refine ⟨?_, (hoptions.trans ho').cons_inv⟩
  rw [← h.patterns, List.filterMap_cons_none hi]

/-- The run: the arguments of an interleaving say its patterns and its choice, whatever its order. -/
theorem parse [ArgumentParser] (hparser : ArgumentParser.Documented) (h : Interleaved ps o items)
    (hps : ∀ p ∈ ps, p.Unhyphenated) (ho : o.Readable) (name : Text) (further : List Text) :
    ArgumentParser.parse (name :: (items.flatMap Item.words ++ ['-', '-'] :: further)) =
      .ok (o.said (ps ++ further)) := by
  induction items generalizing ps o with
  | nil =>
      have hitems : o.items = [] := h.options.nil_eq.symm
      rw [← h.patterns, Choice.said_of_items_eq_nil hitems]
      exact hparser.escape name further
  | cons i items ih =>
      rw [List.flatMap_cons, List.append_assoc]
      cases hi : i.pattern? with
      | some p =>
          obtain rfl := Item.pattern?_eq_some_iff.mp hi
          obtain ⟨ps', rfl, hrest⟩ := h.of_pattern
          obtain ⟨hp, hps'⟩ := List.forall_mem_cons.mp hps
          exact hparser.positional hp (ih hrest hps' ho)
      | none =>
          obtain ⟨hmem, hleave⟩ := h.of_option hi
          obtain ⟨o', hgiven⟩ := Choice.exists_given hparser ho hmem
          exact hgiven.parse (ih (hleave o' hgiven.items) hps hgiven.readable)

end Interleaved

/-- Two hyphens alone end what may be an option, and nothing before them depends on where the options
stand: the configuration has the patterns of both sides in order and as they are written, and what
the options say. -/
theorem Config.parse_interleaved [ArgumentParser] (hparser : ArgumentParser.Documented)
    {ps : List Text} {o : Choice} {items : List Item} (h : Interleaved ps o items)
    (hps : ∀ p ∈ ps, p.Unhyphenated) (ho : o.Readable) (name : Text) (further : List Text) :
    Config.parse (name :: (items.flatMap Item.words ++ ['-', '-'] :: further)) =
      .ok ⟨ps ++ further, o.file.map Prod.snd, (o.color.map Prod.snd).getD .auto,
        o.explainOnly⟩ := by
  rw [Config.parse, h.parse hparser hps ho]
  rfl

/-- All options, one of each spelling. -/
def everyOption : Choice :=
  ⟨some (.attached, ['a', '=', 'b']), some (.apart, .never), true⟩

/-- An empty pattern first, and between the others the options, last to first. -/
def optionsBetween : List Item :=
  [.pattern [], .explainOnly, .valued .color .apart ColorWhen.never.name, .pattern ['x'],
    .valued .file .attached ['a', '=', 'b'], .pattern ['y']]

theorem Config.parse_interleaved_optionsBetween :
    Interleaved [[], ['x'], ['y']] everyOption optionsBetween ∧
      (∀ p ∈ [[], ['x'], ['y']], Text.Unhyphenated p) ∧ everyOption.Readable ∧
      Config.parse (["greg", "", "--explain-only", "--color", "never", "x", "--file=a=b", "y",
          "--", "--x", ""].map String.toList) =
        .ok ⟨["", "x", "y", "--x", ""].map String.toList, some "a=b".toList, .never, true⟩ := by
  have hinterleaved : Interleaved [[], ['x'], ['y']] everyOption optionsBetween :=
    ⟨rfl, by decide⟩
  have hps : ∀ p ∈ [[], ['x'], ['y']], Text.Unhyphenated p := by decide
  have hreadable : everyOption.Readable := by
    constructor
    · rintro v ⟨rfl⟩
      exact List.cons_ne_nil _ _
    · rintro v ⟨rfl⟩
      decide
  exact ⟨hinterleaved, hps, hreadable, Config.parse_interleaved ArgumentState.documented
    hinterleaved hps hreadable "greg".toList [['-', '-', 'x'], []]⟩

end RegexExplainer
