import Mathlib.Data.List.Basic
import RegexExplainer.CommandLine.Arguments

/- The grammar of the command line, as it is assumed of the argument parser: how a command line is
read that has one item more in front. The reader that runs follows it, since what comes first changes
nothing but the patterns and options that are given. -/
namespace RegexExplainer

def ColorWhen.name : ColorWhen → Text
  | always => "always".toList
  | never => "never".toList
  | auto => "auto".toList

def ValuedOption.name : ValuedOption → Text
  | file => "file".toList
  | color => "color".toList

/-- No hyphen in front: a pattern, or a value that may stand apart. -/
def Text.Unhyphenated (t : Text) : Prop := t.head? ≠ some '-'

instance (t : Text) : Decidable t.Unhyphenated := inferInstanceAs (Decidable (_ ≠ _))

theorem ColorWhen.unhyphenated_name (c : ColorWhen) : c.name.Unhyphenated := by
  cases c <;> decide

/-- An option that was not given yet is given a value that it takes. -/
inductive ValuedOption.Gives : ValuedOption → Text → ArgumentMatches → ArgumentMatches → Prop
  | file {path : Text} {m : ArgumentMatches} : path ≠ [] → m.file = none →
      Gives file path m { m with file := some path }
  | color {w : ColorWhen} {m : ArgumentMatches} : m.color = none →
      Gives color w.name m { m with color := some w }

/-- The grammar of the command line: what an item in front adds to what the rest gives. -/
structure ArgumentParser.Documented [ArgumentParser] : Prop where
  /-- Two hyphens alone end the options: all that follows is positional. -/
  escape : ∀ name further,
    ArgumentParser.parse (name :: ['-', '-'] :: further) = .ok ⟨further, none, none, false⟩
  /-- An argument without a hyphen in front that is no value is positional. -/
  positional : ∀ {name p args m}, Text.Unhyphenated p →
    ArgumentParser.parse (name :: args) = .ok m →
    ArgumentParser.parse (name :: p :: args) = .ok { m with patterns := p :: m.patterns }
  /-- The value of an option may be the next argument. -/
  apart : ∀ {name o value args m m'}, Text.Unhyphenated value → ValuedOption.Gives o value m m' →
    ArgumentParser.parse (name :: args) = .ok m →
    ArgumentParser.parse (name :: ('-' :: '-' :: o.name) :: value :: args) = .ok m'
  /-- It may also follow an equals sign. -/
  attached : ∀ {name o value args m m'}, Text.Unhyphenated value →
    ValuedOption.Gives o value m m' → ArgumentParser.parse (name :: args) = .ok m →
    ArgumentParser.parse (name :: ('-' :: '-' :: (o.name ++ '=' :: value)) :: args) = .ok m'
  /-- A flag takes no value, and is given once. -/
  flag : ∀ {name args m}, m.explainOnly = false → ArgumentParser.parse (name :: args) = .ok m →
    ArgumentParser.parse (name :: "--explain-only".toList :: args) =
      .ok { m with explainOnly := true }

theorem ColorWhen.ofName?_name (c : ColorWhen) : ofName? c.name = some c := by
  cases c <;> rfl

theorem ColorWhen.name_ne_nil (c : ColorWhen) : c.name ≠ [] := by
  cases c <;> exact List.cons_ne_nil _ _

theorem ValuedOption.name_ne_nil (o : ValuedOption) : o.name ≠ [] := by
  cases o <;> exact List.cons_ne_nil _ _

namespace ArgumentState

variable {s u : ArgumentState} {f g : ArgumentState → Except ArgumentError ArgumentState}

/-- The state with what was given in front of it. -/
def onto (s : ArgumentState) (given : ArgumentMatches) : ArgumentState :=
  { s with
    patterns := s.patterns ++ given.patterns.reverse
    file := s.file.or given.file
    color := s.color.or given.color
    explainOnly := s.explainOnly || given.explainOnly }

/-- No option is given that was given in front. -/
structure Clear (given : ArgumentMatches) (s : ArgumentState) : Prop where
  file : given.file.isSome → s.file = none
  color : given.color.isSome → s.color = none
  explainOnly : given.explainOnly = true → s.explainOnly = false

/-- What comes out is the same with something given in front. -/
structure Framed (f : ArgumentState → Except ArgumentError ArgumentState) : Prop where
  onto : ∀ {given s s'}, f s = .ok s' → Clear given s' →
    Clear given s ∧ f (s.onto given) = .ok (s'.onto given)

theorem Framed.ok : Framed .ok := by
  constructor
  intro given s s' h hclear
  cases h
  exact ⟨hclear, rfl⟩

theorem Framed.error (e : ArgumentError) : Framed fun _ => .error e :=
  ⟨fun h _ => nomatch h⟩

theorem Framed.bind (hf : Framed f) (hg : Framed g) : Framed fun s => f s >>= g := by
  constructor
  intro given s s' h hclear
  cases hs : f s with
  | error e =>
      simp only [hs] at h
      exact nomatch h
  | ok s₁ =>
      simp only [hs] at h
      obtain ⟨hclear₁, hlater⟩ := hg.onto h hclear
      obtain ⟨hclear₀, hfirst⟩ := hf.onto hs hclear₁
      refine ⟨hclear₀, ?_⟩
      simp only [hfirst]
      exact hlater

/-- An option is given a value, and was not given one before. -/
inductive Takes (s : ArgumentState) : ValuedOption → Text → ArgumentState → Prop
  | file {path : Text} : s.file = none → path ≠ [] → Takes s .file path { s with file := some path }
  | color {value : Text} {w : ColorWhen} : s.color = none → value ≠ [] →
      ColorWhen.ofName? value = some w → Takes s .color value { s with color := some w }

theorem take_eq_ok_iff {o : ValuedOption} {value : Text} :
    s.take o value = .ok u ↔ s.Takes o value u := by
  constructor
  · intro h
    cases o with
    | file =>
        simp only [take] at h
        split_ifs at h with hfile hempty
        obtain rfl := Except.ok.inj h
        exact .file (Option.not_isSome_iff_eq_none.mp hfile) (mt List.isEmpty_iff.mpr hempty)
    | color =>
        simp only [take] at h
        split_ifs at h with hcolor hempty
        cases hname : ColorWhen.ofName? value with
        | none => simp [hname] at h
        | some w =>
            simp only [hname] at h
            obtain rfl := Except.ok.inj h
            exact .color (Option.not_isSome_iff_eq_none.mp hcolor) (mt List.isEmpty_iff.mpr hempty)
              hname
  · intro h
    cases h with
    | file hfile hpath => simp [take, hfile, hpath]
    | color hcolor hvalue hname => simp [take, hcolor, hvalue, hname]

theorem framed_take (o : ValuedOption) (value : Text) : Framed fun s => s.take o value := by
  constructor
  intro given s s' h hclear
  simp only [take_eq_ok_iff] at h ⊢
  cases h with
  | file hfile hpath =>
      have hgiven : given.file = none := by
        by_contra hne
        exact nomatch hclear.file (Option.isSome_iff_ne_none.mpr hne)
      have honto : (s.onto given).file = none := by simp [onto, hfile, hgiven]
      exact ⟨⟨fun _ => hfile, hclear.color, hclear.explainOnly⟩, .file honto hpath⟩
  | color hcolor hvalue hname =>
      have hgiven : given.color = none := by
        by_contra hne
        exact nomatch hclear.color (Option.isSome_iff_ne_none.mpr hne)
      have honto : (s.onto given).color = none := by simp [onto, hcolor, hgiven]
      exact ⟨⟨hclear.file, fun _ => hcolor, hclear.explainOnly⟩, .color honto hvalue hname⟩

section Settle

variable {o : ValuedOption} {value a : Text}

theorem settle_of_waiting (h : s.waiting = some o) : s.settle = .error (.missingValue o) := by
  rw [settle, h]

theorem settle_of_held (h : s.waiting = none) (hheld : s.held = some (o, value)) :
    s.settle = take { s with held := none } o value := by
  rw [settle, h, hheld]

theorem settle_of_idle (h : s.waiting = none) (hheld : s.held = none) : s.settle = .ok s := by
  rw [settle, h, hheld]

theorem plain_of_waiting (h : s.waiting = some o) :
    s.plain a = .ok { s with waiting := none, held := some (o, a) } := by
  rw [plain, h]

theorem plain_of_not_waiting (h : s.waiting = none) :
    s.plain a = s.settle >>= fun s => .ok { s with patterns := a :: s.patterns } := by
  rw [plain, h]
  rfl

end Settle

theorem framed_settle : Framed settle := by
  constructor
  intro given s s' h hclear
  cases hwaiting : s.waiting with
  | some o =>
      rw [settle_of_waiting hwaiting] at h
      exact nomatch h
  | none =>
      have honto : (s.onto given).waiting = none := hwaiting
      cases hheld : s.held with
      | none =>
          have honto' : (s.onto given).held = none := hheld
          rw [settle_of_idle hwaiting hheld] at h
          rw [settle_of_idle honto honto']
          exact Framed.ok.onto h hclear
      | some held =>
          have honto' : (s.onto given).held = some (held.1, held.2) := hheld
          rw [settle_of_held hwaiting hheld] at h
          rw [settle_of_held honto honto']
          obtain ⟨hclear', htake⟩ := (framed_take held.1 held.2).onto h hclear
          exact ⟨⟨hclear'.file, hclear'.color, hclear'.explainOnly⟩, htake⟩

/-- Everything before is settled, or will be as soon as anything follows. -/
structure Reached (s u : ArgumentState) : Prop where
  waiting : s.waiting = none
  settle : s.settle = .ok u

theorem Reached.of_idle (hwaiting : u.waiting = none) (hheld : u.held = none) : Reached u u :=
  ⟨hwaiting, settle_of_idle hwaiting hheld⟩

theorem Reached.idle (h : Reached s u) : u.waiting = none ∧ u.held = none := by
  have hsettle := h.settle
  cases hheld : s.held with
  | none =>
      obtain rfl := Except.ok.inj ((settle_of_idle h.waiting hheld).symm.trans hsettle)
      exact ⟨h.waiting, hheld⟩
  | some held =>
      obtain ⟨o, value⟩ := held
      rw [settle_of_held h.waiting hheld, take_eq_ok_iff] at hsettle
      cases hsettle with
      | file => exact ⟨h.waiting, rfl⟩
      | color => exact ⟨h.waiting, rfl⟩

/-- What is settled stays so. -/
theorem Reached.refl (h : Reached s u) : Reached u u := .of_idle h.idle.1 h.idle.2

/-- How an argument is read: alike with something given in front, and alike whether what came before
it is settled or is going to be. -/
structure Reads (f : ArgumentState → Except ArgumentError ArgumentState) : Prop where
  framed : Framed f
  settles : ∀ {s u}, Reached s u → f s = f u

theorem Reads.error (e : ArgumentError) : Reads fun _ => .error e := ⟨.error e, fun _ => rfl⟩

theorem Reads.bind (hf : Reads f) (hg : Framed g) : Reads fun s => f s >>= g :=
  ⟨hf.framed.bind hg, fun h => congrArg (· >>= g) (hf.settles h)⟩

theorem reads_settle : Reads settle := ⟨framed_settle, fun h => h.settle.trans h.refl.settle.symm⟩

theorem reads_plain (a : Text) : Reads fun s => s.plain a := by
  have hpush : Reads fun s => s.settle >>= fun s => .ok { s with patterns := a :: s.patterns } := by
    refine reads_settle.bind ⟨?_⟩
    intro given s s' h hclear
    cases h
    exact ⟨⟨hclear.file, hclear.color, hclear.explainOnly⟩, rfl⟩
  constructor
  case framed =>
    constructor
    intro given s s' h hclear
    cases hwaiting : s.waiting with
    | none =>
        have honto : (s.onto given).waiting = none := hwaiting
        rw [plain_of_not_waiting hwaiting] at h
        rw [plain_of_not_waiting honto]
        exact hpush.framed.onto h hclear
    | some o =>
        have honto : (s.onto given).waiting = some o := hwaiting
        rw [plain_of_waiting hwaiting] at h
        rw [plain_of_waiting honto]
        cases h
        exact ⟨⟨hclear.file, hclear.color, hclear.explainOnly⟩, rfl⟩
  case settles =>
    intro s u h
    rw [plain_of_not_waiting h.waiting, plain_of_not_waiting h.refl.waiting]
    exact hpush.settles h

theorem reads_valued (o : ValuedOption) (value : Option Text) :
    Reads fun s => s.valued o value := by
  cases value with
  | some value => exact reads_settle.bind (framed_take o value)
  | none =>
      refine reads_settle.bind ⟨?_⟩
      intro given s s' h hclear
      cases h
      exact ⟨⟨hclear.file, hclear.color, hclear.explainOnly⟩, rfl⟩

theorem reads_switch (o : SwitchOption) : Reads fun s => s.switch o := by
  refine reads_settle.bind ?_
  cases o with
  | help => exact .error .helpAsked
  | version => exact .error .versionAsked
  | explainOnly =>
      constructor
      intro given s s' h hclear
      dsimp only at h ⊢
      split_ifs at h with hexplain
      cases h
      have hgiven : given.explainOnly = false := by
        by_contra hne
        exact nomatch hclear.explainOnly (eq_true_of_ne_false hne)
      have hexplain' : s.explainOnly = false := eq_false_of_ne_true hexplain
      refine ⟨⟨hclear.file, hclear.color, fun _ => hexplain'⟩, ?_⟩
      simp [onto, hexplain', hgiven]
      rfl

theorem reads_long (t : Text) : Reads fun s => s.long t := by
  unfold long
  dsimp only
  split
  · exact .error _
  · exact reads_valued _ _
  · split
    · exact .error _
    · exact reads_switch _

theorem framed_short (t : Text) : Framed fun s => s.short t := by
  induction t with
  | nil => exact .ok
  | cons c t ih =>
      unfold short
      split
      · exact .error _
      · exact (reads_valued _ _).framed
      · exact (reads_switch _).framed.bind ih

theorem reads_short (c : Char) (t : Text) : Reads fun s => s.short (c :: t) := by
  unfold short
  split
  · exact .error _
  · exact reads_valued _ _
  · exact (reads_switch _).bind (framed_short t)

section ReadAll

variable {a : Text} {args : List Text}

theorem readAll_hyphens (h : s.waiting = none) (args : List Text) :
    s.readAll false (['-', '-'] :: args) = s.readAll true args := by
  rw [readAll, if_neg Bool.false_ne_true, h]

theorem readAll_hyphens_of_waiting {o : ValuedOption} (h : s.waiting = some o)
    (args : List Text) : s.readAll false (['-', '-'] :: args) = .error (.missingValue o) := by
  rw [readAll, if_neg Bool.false_ne_true, h]

theorem readAll_plain (ha : a.Unhyphenated) :
    s.readAll false (a :: args) = s.plain a >>= fun s => s.readAll false args := by
  have hne : ∀ t, a ≠ '-' :: t := by
    rintro t rfl
    exact ha rfl
  rw [readAll, if_neg Bool.false_ne_true]
  · exact hne ['-']
  · exact fun t => hne ('-' :: t)
  · exact fun c t => hne (c :: t)

theorem readAll_long (ha : a ≠ []) :
    s.readAll false (('-' :: '-' :: a) :: args) = s.long a >>= fun s => s.readAll false args := by
  obtain ⟨c, t, rfl⟩ := List.exists_cons_of_ne_nil ha
  rfl

theorem readAll_short {c : Char} {t : Text} (hc : c ≠ '-') :
    s.readAll false (('-' :: c :: t) :: args) =
      s.short (c :: t) >>= fun s => s.readAll false args := by
  rw [readAll, if_neg Bool.false_ne_true]
  · exact fun h _ => hc h
  · exact hc

/-- But for two hyphens alone, an argument is read by itself. -/
theorem exists_reads (ha : a ≠ ['-', '-']) :
    ∃ f, Reads f ∧ ∀ s args, readAll s false (a :: args) = f s >>= fun s => s.readAll false args := by
  by_cases hplain : a.Unhyphenated
  · exact ⟨_, reads_plain a, fun _ _ => readAll_plain hplain⟩
  · obtain ⟨t, rfl⟩ := List.head?_eq_some_iff.mp (not_not.mp hplain)
    cases t with
    | nil => exact ⟨_, reads_plain ['-'], fun _ _ => rfl⟩
    | cons c t =>
        by_cases hc : c = '-'
        · subst hc
          have ht : t ≠ [] := by
            rintro rfl
            exact ha rfl
          exact ⟨_, reads_long t, fun _ _ => readAll_long ht⟩
        · exact ⟨_, reads_short c t, fun _ _ => readAll_short hc⟩

end ReadAll

theorem framed_readAll (optionsOver : Bool) (args : List Text) :
    Framed fun s => s.readAll optionsOver args := by
  induction args generalizing optionsOver with
  | nil => exact framed_settle
  | cons a args ih =>
      cases optionsOver with
      | true => exact (reads_plain a).framed.bind (ih true)
      | false =>
          by_cases ha : a = ['-', '-']
          · subst ha
            constructor
            intro given s s' h hclear
            cases hwaiting : s.waiting with
            | some o =>
                rw [readAll_hyphens_of_waiting hwaiting] at h
                exact nomatch h
            | none =>
                have honto : (s.onto given).waiting = none := hwaiting
                rw [readAll_hyphens hwaiting] at h
                rw [readAll_hyphens honto]
                exact (ih true).onto h hclear
          · obtain ⟨f, hf, hread⟩ := exists_reads ha
            simp only [hread]
            exact hf.framed.bind (ih false)

theorem Reached.readAll_eq (h : Reached s u) (optionsOver : Bool) (args : List Text) :
    s.readAll optionsOver args = u.readAll optionsOver args := by
  induction args generalizing optionsOver with
  | nil => exact reads_settle.settles h
  | cons a args ih =>
      cases optionsOver with
      | true => exact ((reads_plain a).bind (framed_readAll true args)).settles h
      | false =>
          by_cases ha : a = ['-', '-']
          · subst ha
            rw [readAll_hyphens h.waiting, readAll_hyphens h.refl.waiting]
            exact ih true
          · obtain ⟨f, hf, hread⟩ := exists_reads ha
            rw [hread, hread, hf.settles h]

/-- All that follows two hyphens alone is a pattern. -/
theorem Reached.readAll_further (h : Reached s u) (further : List Text) :
    s.readAll true further = .ok { u with patterns := further.reverse ++ u.patterns } := by
  induction further generalizing s u with
  | nil => exact h.settle
  | cons p further ih =>
      have hread : s.readAll true (p :: further) =
          s.plain p >>= fun s => s.readAll true further := rfl
      have hnext : Reached { u with patterns := p :: u.patterns }
          { u with patterns := p :: u.patterns } := .of_idle h.idle.1 h.idle.2
      rw [hread, plain_of_not_waiting h.waiting, h.settle]
      refine (ih hnext).trans ?_
      rw [List.reverse_cons, List.append_assoc]
      rfl

section Documented

variable {o : ValuedOption} {value : Text} {name : Text} {args : List Text} {m m' : ArgumentMatches}

theorem long_apart (o : ValuedOption) : s.long o.name = s.valued o none := by
  cases o <;> rfl

theorem long_attached (o : ValuedOption) (value : Text) :
    s.long (o.name ++ '=' :: value) = s.valued o (some value) := by
  cases o <;> rfl

/-- A command line that can be read can be read with something given in front. -/
theorem map_readAll_onto (given : ArgumentMatches)
    (h : ArgumentParser.parse (name :: args) = .ok m)
    (hclear : ∀ s, s.toMatches = m → Clear given s)
    (hmatches : ∀ s : ArgumentState, s.toMatches = m → (s.onto given).toMatches = m') :
    ((initial.onto given).readAll false args).map toMatches = .ok m' := by
  change (initial.readAll false args).map toMatches = .ok m at h
  cases hread : initial.readAll false args with
  | error e =>
      rw [hread] at h
      exact nomatch h
  | ok s =>
      rw [hread] at h
      have hs : s.toMatches = m := Except.ok.inj h
      rw [((framed_readAll false args).onto hread (hclear s hs)).2]
      exact congrArg _ (hmatches s hs)

/-- What an option gives at the start. -/
theorem exists_given (h : o.Gives value m m') :
    ∃ given, initial.take o value = .ok (initial.onto given) ∧
      (∀ s, s.toMatches = m → Clear given s) ∧
      ∀ s : ArgumentState, s.toMatches = m → (s.onto given).toMatches = m' := by
  cases h with
  | file hpath hnone =>
      refine ⟨⟨[], some value, none, false⟩, take_eq_ok_iff.mpr (.file rfl hpath), ?_, ?_⟩
      · intro s hs
        subst hs
        exact ⟨fun _ => hnone, nofun, nofun⟩
      · intro s hs
        subst hs
        have hfile : s.file = none := hnone
        simp [toMatches, onto, hfile]
  | @color w _ hnone =>
      refine ⟨⟨[], none, some w, false⟩,
        take_eq_ok_iff.mpr (.color rfl w.name_ne_nil w.ofName?_name), ?_, ?_⟩
      · intro s hs
        subst hs
        exact ⟨nofun, fun _ => hnone, nofun⟩
      · intro s hs
        subst hs
        have hcolor : s.color = none := hnone
        simp [toMatches, onto, hcolor]

theorem documented : ArgumentParser.Documented where
  escape name further := by
    change (initial.readAll false (['-', '-'] :: further)).map toMatches = _
    rw [readAll_hyphens rfl, (Reached.of_idle rfl rfl).readAll_further]
    simp [Except.map, toMatches, initial]
  positional := by
    intro name p args m hp h
    change (initial.readAll false (p :: args)).map toMatches = _
    rw [readAll_plain hp]
    refine map_readAll_onto ⟨[p], none, none, false⟩ h ?_ ?_
    · intro s hs
      exact ⟨nofun, nofun, nofun⟩
    · intro s hs
      subst hs
      simp [toMatches, onto]
  apart := by
    intro name o value args m m' hvalue hgives h
    obtain ⟨given, htake, hclear, hmatches⟩ := exists_given hgives
    -- the value is held and taken only with what follows
    have hreached : Reached { initial with held := some (o, value) } (initial.onto given) :=
      ⟨rfl, htake⟩
    change (initial.readAll false (_ :: value :: args)).map toMatches = _
    rw [readAll_long o.name_ne_nil, long_apart]
    change (readAll { initial with waiting := some o } false (value :: args)).map toMatches = _
    rw [readAll_plain hvalue]
    change (readAll { initial with held := some (o, value) } false args).map toMatches = _
    rw [hreached.readAll_eq]
    exact map_readAll_onto given h hclear hmatches
  attached := by
    intro name o value args m m' _ hgives h
    obtain ⟨given, htake, hclear, hmatches⟩ := exists_given hgives
    change (initial.readAll false (_ :: args)).map toMatches = _
    rw [readAll_long (by simp), long_attached]
    change (initial.take o value >>= fun s => s.readAll false args).map toMatches = _
    rw [htake]
    exact map_readAll_onto given h hclear hmatches
  flag := by
    intro name args m hnone h
    refine map_readAll_onto ⟨[], none, none, true⟩ h ?_ ?_
    · intro s hs
      subst hs
      exact ⟨nofun, nofun, fun _ => hnone⟩
    · intro s hs
      subst hs
      simp [toMatches, onto]

end Documented

end ArgumentState

end RegexExplainer
