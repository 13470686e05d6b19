import RegexExplainer.Proofs.Engine.Search
import RegexExplainer.Proofs.Program.Run
import RegexExplainer.Regex.Compile

/- The engine that runs searches from where its last match ended, for the match that starts first,
and reports the same matches with and without what their groups captured. -/
namespace RegexExplainer

namespace Place

variable {t : Text} {p q r : Place}

/-- A place of a text is a cut of it. -/
theorem Reaches.isCut (h : (start t).Reaches p) : t.IsCut p.offset := by
  obtain ⟨before, hrest, hoffset, -⟩ := h
  exact ⟨before, p.rest, hrest, hoffset.trans (Nat.zero_add _)⟩

/-- Of two places behind a third the one with the smaller offset comes first. -/
theorem Reaches.of_offset_le (hp : r.Reaches p) (hq : r.Reaches q) (hle : p.offset ≤ q.offset) :
    p.Reaches q := by
  obtain ⟨u, hu, hpo, hpb⟩ := hp
  obtain ⟨v, hv, hqo, hqb⟩ := hq
  have hprefix : ∃ x, v = u ++ x ∧ p.rest = x ++ q.rest := by
    rcases List.append_eq_append_iff.mp (hu.symm.trans hv) with hx | ⟨x, rfl, hx⟩
    · exact hx
    · have hnil : x = [] := by
        by_contra hne
        have hpos := Text.size_pos hne
        rw [Text.size_append] at hpo
        omega
      subst hnil
      exact ⟨[], by simp, hx.symm⟩
  obtain ⟨x, rfl, hx⟩ := hprefix
  refine ⟨x, hx, by rw [hqo, hpo, Text.size_append, Nat.add_assoc], ?_⟩
  rw [hqb, hpb, List.getLast?_append, Option.or_assoc]

theorem Reaches.eq_of_offset (h : p.Reaches q) (hoffset : q.offset = p.offset) : p = q := by
  obtain ⟨t, hrest, ho, hbefore⟩ := h
  have hnil : t = [] := by
    by_contra hne
    have hpos := Text.size_pos hne
    omega
  subst hnil
  cases p
  cases q
  simp_all

/-- What comes after a place is the place itself or comes after the next one. -/
theorem Reaches.eq_or_next {b : Option Char} {n : Nat} {c : Char} {rest : Text}
    (h : Reaches ⟨b, n, c :: rest⟩ q) :
    q = ⟨b, n, c :: rest⟩ ∨ Reaches ⟨some c, n + c.utf8Size, rest⟩ q := by
  obtain ⟨t, hrest, hoffset, hbefore⟩ := id h
  cases t with
  | nil => exact .inl (h.eq_of_offset hoffset).symm
  | cons d t =>
      obtain ⟨rfl, htail⟩ := List.cons.inj hrest
      refine .inr ⟨t, htail, ?_, ?_⟩
      · rw [hoffset, Text.size_cons, Nat.add_assoc]
      · rw [hbefore]
        cases t using List.reverseRecOn with
        | nil => rfl
        | append_singleton t e =>
            rw [← List.cons_append, List.getLast?_concat, List.getLast?_concat]
            rfl

/-- The place of a text at an offset between its characters. -/
def at? (t : Text) (n : Nat) : Option Place :=
  (t.splitAt? n).map fun (before, rest) => ⟨before.getLast?, n, rest⟩

theorem at?_eq_some_iff {n : Nat} : at? t n = some p ↔ (start t).Reaches p ∧ p.offset = n := by
  simp only [at?, Option.map_eq_some_iff, Prod.exists, Text.splitAt?_eq_some_iff]
  constructor
  · rintro ⟨before, rest, ⟨ht, rfl⟩, rfl⟩
    exact ⟨⟨before, ht, (Nat.zero_add _).symm, Option.or_none.symm⟩, rfl⟩
  · rintro ⟨⟨before, ht, hoffset, hbefore⟩, rfl⟩
    refine ⟨before, p.rest, ⟨ht, hoffset.trans (Nat.zero_add _)⟩, ?_⟩
    cases p
    simp_all [start]

theorem at?_offset (h : (start t).Reaches p) : at? t p.offset = some p :=
  at?_eq_some_iff.mpr ⟨h, rfl⟩

theorem exists_of_isCut {n : Nat} (h : t.IsCut n) : ∃ p, (start t).Reaches p ∧ p.offset = n := by
  obtain ⟨before, rest, rfl, rfl⟩ := h
  exact ⟨⟨before.getLast?, before.size, rest⟩,
    ⟨before, rfl, (Nat.zero_add _).symm, Option.or_none.symm⟩, rfl⟩

/-- The next place is at the cut one character on. -/
theorem cutAfter?_offset (h : (start t).Reaches p) :
    t.cutAfter? p.offset = p.next?.map Place.offset := by
  obtain ⟨before, ht, hoffset, -⟩ := h
  change t = before ++ p.rest at ht
  change p.offset = 0 + before.size at hoffset
  rw [Nat.zero_add] at hoffset
  unfold next?
  cases hrest : p.rest with
  | nil =>
      rw [hrest, List.append_nil] at ht
      subst ht
      unfold Text.cutAfter?
      rw [hoffset, show t.from? t.size = some [] from Text.from?_eq_some_iff.mpr ⟨t, by simp, rfl⟩]
      rfl
  | cons c rest =>
      rw [ht, hrest, hoffset, Text.cutAfter?_append]
      rfl

end Place

namespace Program

/-- A search that begins between where another one began and the match that was found there finds
that match too. -/
theorem search_of_reaches {p : Program} {place q : Place} {f : Found}
    (h : p.search place = some f) (hq : place.Reaches q) (hf : q.Reaches f.start) :
    p.search q = some f := by
  obtain ⟨before, offset, rest⟩ := place
  induction rest generalizing before offset with
  | nil =>
      have heq : q = ⟨before, offset, []⟩ := by
        obtain ⟨t, hrest, hoffset, -⟩ := id hq
        obtain ⟨rfl, -⟩ := List.append_eq_nil_iff.mp hrest.symm
        exact (hq.eq_of_offset hoffset).symm
      rwa [heq]
  | cons c rest ih =>
      rcases hq.eq_or_next with rfl | hnext
      · exact h
      · unfold search at h
        rw [searchFrom] at h
        split at h
        · next stop saves hmatch =>
            cases h
            have hoffset := Nat.le_antisymm hf.offset_le hq.offset_le
            rw [← hq.eq_of_offset hoffset]
            unfold search
            rw [searchFrom, hmatch]
        · exact ih _ _ h hnext

end Program

namespace Regex

variable {re : Regex} {t : Text} {n : Nat} {s : Span}

/-- The match that starts first at or after an offset of a text. -/
def search? (re : Regex) (t : Text) (n : Nat) : Option Span :=
  (Place.at? t n).bind fun place => (re.program.search place).map Found.span

theorem search?_offset {place : Place} (h : (Place.start t).Reaches place) :
    re.search? t place.offset = (re.program.search place).map Found.span := by
  rw [search?, Place.at?_offset h]
  rfl

theorem search?_eq_some_iff : re.search? t n = some s ↔
    ∃ place f, (Place.start t).Reaches place ∧ place.offset = n ∧
      re.program.search place = some f ∧ f.span = s := by
  constructor
  · intro h
    obtain ⟨place, hplace, h⟩ := Option.bind_eq_some_iff.mp h
    obtain ⟨f, hf, hspan⟩ := Option.map_eq_some_iff.mp h
    obtain ⟨hreaches, hoffset⟩ := Place.at?_eq_some_iff.mp hplace
    exact ⟨place, f, hreaches, hoffset, hf, hspan⟩
  · rintro ⟨place, f, hreaches, rfl, hf, rfl⟩
    rw [search?_offset hreaches, hf]
    rfl

theorem leftmostFirst_search? (re : Regex) (t : Text) : LeftmostFirst t (re.search? t) := by
  constructor
  case le_start =>
    intro n s _ h
    obtain ⟨place, f, -, rfl, hf, rfl⟩ := search?_eq_some_iff.mp h
    exact (Program.reaches_of_search hf).1.offset_le
  case start_le_stop =>
    intro n s _ h
    obtain ⟨place, f, -, -, hf, rfl⟩ := search?_eq_some_iff.mp h
    exact (Program.reaches_of_search hf).2.offset_le
  case isCut =>
    intro n s _ h
    obtain ⟨place, f, hplace, -, hf, rfl⟩ := search?_eq_some_iff.mp h
    obtain ⟨hstart, hstop⟩ := Program.reaches_of_search hf
    have hin := hplace.trans hstart
    exact ⟨hin.isCut, (hin.trans hstop).isCut⟩
  case again =>
    intro n n' s _ h hn' hle hle'
    obtain ⟨place, f, hplace, rfl, hf, rfl⟩ := search?_eq_some_iff.mp h
    obtain ⟨q, hq, rfl⟩ := Place.exists_of_isCut hn'
    have hin := hplace.trans (Program.reaches_of_search hf).1
    have hsearch :=
      Program.search_of_reaches hf (hplace.of_offset_le hq hle) (hq.of_offset_le hin hle')
    exact search?_eq_some_iff.mpr ⟨q, f, hq, rfl, hsearch, rfl⟩

theorem next?_search? {stop : Place} (h : (Place.start t).Reaches stop) :
    Span.next? t (re.search? t) (some stop.offset) = (re.program.after? stop).map Found.span := by
  unfold Span.next? Program.after?
  rw [Option.getD_some, search?_offset h]
  cases re.program.search stop with
  | none => rfl
  | some f =>
      change (if some stop.offset = some f.stop.offset then _ else _) = _
      by_cases hempty : f.stop.offset = stop.offset
      · rw [if_pos (congrArg some hempty.symm)]
        change (t.cutAfter? f.stop.offset).bind _ = Option.map Found.span (if _ then _ else _)
        rw [if_pos hempty, hempty, Place.cutAfter?_offset h]
        cases hnext : stop.next? with
        | none => rfl
        | some q => exact search?_offset (h.trans (Place.reaches_of_next? hnext).1)
      · rw [if_neg fun heq => hempty (Option.some.inj heq).symm]
        change _ = Option.map Found.span (if _ then _ else _)
        rw [if_neg hempty]
        rfl

theorem iterates_allAfter (stop : Place) (h : (Place.start t).Reaches stop) :
    Span.Iterates t (re.search? t) (some stop.offset)
      ((re.program.allAfter stop).map Found.span) := by
  revert h
  refine Program.allAfter_induction (motive := fun stop fs => (Place.start t).Reaches stop →
    Span.Iterates t (re.search? t) (some stop.offset) (fs.map Found.span)) ?_ ?_ stop
  · intro stop hafter h
    exact (next?_search? h).trans (congrArg _ hafter)
  · intro stop f hafter ih h
    obtain ⟨hstart, hstop, -⟩ := Program.reaches_of_after? hafter
    exact ⟨(next?_search? h).trans (congrArg _ hafter), ih (h.trans (hstart.trans hstop))⟩

theorem map_span_findAll (re : Regex) (t : Text) :
    (re.findAll t).map Match.span = (re.program.all t).map Found.span :=
  List.map_map

theorem iterates_findAll (re : Regex) (t : Text) :
    Span.Iterates t (re.search? t) none ((re.findAll t).map Match.span) := by
  have hfirst : Span.next? t (re.search? t) none =
      (re.program.search (.start t)).map Found.span := by
    have hsearch : re.search? t 0 = _ := search?_offset (Place.Reaches.refl (.start t))
    unfold Span.next?
    rw [Option.getD_none, hsearch]
    cases re.program.search (.start t) with
    | none => rfl
    | some f => rfl
  rw [map_span_findAll]
  unfold Program.all
  cases hsearch : re.program.search (.start t) with
  | none => exact hfirst.trans (congrArg _ hsearch)
  | some f =>
      obtain ⟨hstart, hstop⟩ := Program.reaches_of_search hsearch
      exact ⟨hfirst.trans (congrArg _ hsearch), iterates_allAfter f.stop (hstart.trans hstop)⟩

theorem searches : Engine.Searches search? := ⟨leftmostFirst_search?, iterates_findAll⟩

theorem agreesInOrder : Engine.AgreesInOrder where
  span_captures _ _ := rfl
  length_groups re t m hm := by
    obtain ⟨f, -, rfl⟩ := List.mem_map.mp hm
    exact (List.length_map _).trans List.length_range
  orderedFrom_find := searches.orderedFrom_find

end Regex

end RegexExplainer
