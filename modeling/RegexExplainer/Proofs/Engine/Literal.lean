import RegexExplainer.Proofs.Engine.Search
import RegexExplainer.Proofs.Text.Occurrence
import RegexExplainer.Proofs.Token.Quoted

/- What is assumed of an engine about characters that stand for themselves. Patterns of such
characters then find the leftmost occurrences of what they spell. -/
namespace RegexExplainer

open Lexeme (Literals isOrdinary)
open Text (isSpecial)

section Engine

variable [Engine]

/-- The engine takes such characters for themselves. That a pattern admits what lies in a text
between two offsets means that it can match there, and a search finds the first place where it can
match anything. -/
structure Engine.MatchesLiterally (search : Engine.Compiled → Text → Nat → Option Span)
    (admits : Text → Text → Nat → Nat → Prop) : Prop extends Engine.Searches search where
  /-- The empty pattern matches between characters. -/
  empty : ∀ t start stop, admits [] t start stop ↔ t.slice? start stop = some []
  /-- An ordinary character matches itself, and the rest of the pattern what comes after it. -/
  ordinary : ∀ {c p w} t start stop, isOrdinary c = true → Spells p w →
    (admits (c :: p) t start stop ↔
      ∃ middle, t.slice? start middle = some [c] ∧ admits p t middle stop)
  /-- So does a special character after a backslash. -/
  escaped : ∀ {c p w} t start stop, isSpecial c = true → Spells p w →
    (admits ('\\' :: c :: p) t start stop ↔
      ∃ middle, t.slice? start middle = some [c] ∧ admits p t middle stop)
  /-- What a search finds is a match. -/
  admits_of_search : ∀ {p w re t n s}, w ≠ [] → Spells p w → Engine.compile p = .ok re →
    t.IsCut n → search re t n = some s → admits p t s.start s.stop
  /-- A search finds a match if there is one, and none that starts later than another. -/
  search_of_admits : ∀ {p w re t n start stop}, w ≠ [] → Spells p w → Engine.compile p = .ok re →
    t.IsCut n → n ≤ start → admits p t start stop → ∃ s, search re t n = some s ∧ s.start ≤ start

/-- Besides, a backslash and an opening brace never stand for themselves. -/
structure Engine.ReservesSyntax (search : Engine.Compiled → Text → Nat → Option Span)
    (admits : Text → Text → Nat → Nat → Prop) : Prop
    extends Engine.MatchesLiterally search admits where
  /-- A backslash that ends a pattern escapes nothing, and the pattern is malformed. -/
  backslash : ∀ {w re}, (∀ c ∈ w, isOrdinary c = true) → Engine.compile (w ++ ['\\']) ≠ .ok re
  /-- An opening brace tells how often to repeat what comes before it, or else the pattern is
  malformed. Where all other characters are ordinary, none that is repeated is such a brace. -/
  brace : ∀ {p re t n s hit}, Literals p → Engine.compile p = .ok re → t.IsCut n →
    search re t n = some s → t.slice? s.start s.stop = some hit → '\x7b' ∉ hit

namespace Engine.MatchesLiterally

variable {search : Engine.Compiled → Text → Nat → Option Span}
  {admits : Text → Text → Nat → Nat → Prop} {p w : Text} {re : Engine.Compiled}

theorem admits_iff (h : MatchesLiterally search admits) (hp : Spells p w) (t : Text)
    (start stop : Nat) : admits p t start stop ↔ t.slice? start stop = some w := by
  induction hp generalizing start with
  | nil => exact h.empty t start stop
  | @ordinary c p w hc hp ih =>
      rw [h.ordinary t start stop hc hp, Text.slice?_cons_iff]
      simp only [ih]
  | @escaped c p w hc hp ih =>
      rw [h.escaped t start stop hc hp, Text.slice?_cons_iff]
      simp only [ih]

theorem firstFrom_search (h : MatchesLiterally search admits) (hw : w ≠ []) (hp : Spells p w)
    (hre : Engine.compile p = .ok re) {t : Text} {n : Nat} (hn : t.IsCut n) :
    Text.FirstFrom w t n (search re t n) := by
  have hfirst : ∀ start, n ≤ start → Text.OccursAt w t start →
      ∃ s, search re t n = some s ∧ s.start ≤ start := by
    intro start hle hat
    exact h.search_of_admits hw hp hre hn hle ((h.admits_iff hp t start _).mpr hat)
  cases hsearch : search re t n with
  | none =>
      intro start hle hat
      obtain ⟨s, hs, -⟩ := hfirst start hle hat
      exact nomatch hsearch.symm.trans hs
  | some s =>
      have hslice := (h.admits_iff hp t _ _).mp (h.admits_of_search hw hp hre hn hsearch)
      obtain ⟨before, after, ht, hstart, hstop⟩ := Text.slice?_eq_some_iff.mp hslice
      refine ⟨(h.leftmostFirst re t).le_start hn hsearch, ?_, hstop, ?_⟩
      · exact Text.occursAt_iff.mpr ⟨before, after, ht, hstart⟩
      · intro start hle hat
        obtain ⟨s', hs', hle'⟩ := hfirst start hle hat
        obtain rfl := Option.some.inj (hsearch.symm.trans hs')
        exact hle'

end Engine.MatchesLiterally

end Engine

namespace Text

variable {w t : Text} {search : Nat → Option Span}

/-- A match that is not empty is never passed over. -/
theorem next?_of_firstFrom (hw : w ≠ []) {last : Option Nat}
    (h : FirstFrom w t (last.getD 0) (search (last.getD 0))) :
    Span.next? t search last = search (last.getD 0) := by
  unfold Span.next?
  cases hsearch : search (last.getD 0) with
  | none => rfl
  | some s =>
      rw [hsearch] at h
      obtain ⟨hle, -, hstop, -⟩ := h
      have hpos := size_pos hw
      refine if_neg ?_
      rintro rfl
      rw [Option.getD_some] at hle
      omega

theorem leftmostFrom_of_iterates (hw : w ≠ []) (h : ∀ n, t.IsCut n → FirstFrom w t n (search n))
    {last : Option Nat} {spans : List Span} (hspans : Span.Iterates t search last spans)
    (hlast : t.IsCut (last.getD 0)) : LeftmostFrom w t (last.getD 0) spans := by
  induction spans generalizing last with
  | nil =>
      have hfirst := h _ hlast
      rw [← next?_of_firstFrom hw hfirst, hspans] at hfirst
      exact hfirst
  | cons s spans ih =>
      obtain ⟨hnext, hrest⟩ := hspans
      have hfirst := h _ hlast
      rw [← next?_of_firstFrom hw hfirst, hnext] at hfirst
      obtain ⟨-, hat, hstop, -⟩ := id hfirst
      have hcut : t.IsCut s.stop := hstop ▸ isCut_of_slice? hat
      exact ⟨hfirst, ih hrest hcut⟩

end Text

/-- A pattern that spells a text finds the leftmost occurrences of the text that do not overlap. -/
theorem Engine.MatchesLiterally.leftmost_find [Engine]
    {search : Engine.Compiled → Text → Nat → Option Span}
    {admits : Text → Text → Nat → Nat → Prop} (h : MatchesLiterally search admits) {p w : Text}
    (hw : w ≠ []) (hp : Spells p w) {re : Engine.Compiled} (hre : Engine.compile p = .ok re)
    (t : Text) : Text.Leftmost w t (Engine.find re t) :=
  Text.leftmostFrom_of_iterates hw (fun _ => h.firstFrom_search hw hp hre) (h.iterates re t)
    (Text.isCut_zero t)

end RegexExplainer
