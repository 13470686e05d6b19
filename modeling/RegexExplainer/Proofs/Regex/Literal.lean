import RegexExplainer.Proofs.Engine.Literal
import RegexExplainer.Proofs.Program.Literal
import RegexExplainer.Proofs.Regex.Search

/- The engine that runs takes ordinary characters, and special ones after a backslash, for themselves.
A backslash alone and an opening brace it never does. -/
namespace RegexExplainer

open Lexeme (Literals isOrdinary)
open Text (isSpecial)

/-- The program of an expression tests for the characters of its sets only. -/
theorem not_readsChar_ofExpression {e : Expression} {c : Char}
    (h : e.AllSets fun s => s.contains c = false) : ¬ (Program.ofExpression e).ReadsChar c := by
  rintro ⟨s, next, hmem, hc⟩
  change _ ∈ (e.emit 0 e.codeSize ++ [Instruction.accept]).toArray at hmem
  rw [List.mem_toArray] at hmem
  rcases List.mem_append.mp hmem with hmem | hmem
  · exact Bool.false_ne_true ((h.of_mem_emit hmem).symm.trans hc)
  · cases List.mem_singleton.mp hmem

namespace Regex

variable {re : Regex} {p t w : Text} {c : Char} {n : Nat} {s : Span}

/-- The characters of a pattern, without the backslashes that stand before some. -/
def spelled : Text → Text
  | '\\' :: c :: p => c :: spelled p
  | c :: p => c :: spelled p
  | [] => []

theorem spelled_ordinary (hc : isOrdinary c = true) (p : Text) :
    spelled (c :: p) = c :: spelled p := by
  rw [spelled]
  rintro _ _ rfl _
  exact absurd hc (by decide)

theorem spelled_eq (h : Spells p w) : spelled p = w := by
  induction h with
  | nil => rfl
  | ordinary hc _ ih => rw [spelled_ordinary hc, ih]
  | escaped _ _ ih => rw [spelled, ih]

/-- That the characters of a pattern lie between two offsets. -/
def Admits (p t : Text) (start stop : Nat) : Prop := t.slice? start stop = some (spelled p)

theorem firstFrom_search? (hw : w ≠ []) (hp : Spells p w) (hre : compile p = .ok re)
    (hn : t.IsCut n) : Text.FirstFrom w t n (re.search? t n) := by
  obtain ⟨place, hplace, rfl⟩ := Place.exists_of_isCut hn
  rw [search?_offset hplace, compile_spells hp hre]
  obtain ⟨read, ht, hoffset, -⟩ := hplace
  have hsize : place.offset = read.size := hoffset.trans (Nat.zero_add _)
  have hfirst := Program.firstFrom_searchFrom hw read place.rest place.before
  rw [← hsize] at hfirst
  change t = read ++ place.rest at ht
  rw [ht]
  exact hfirst

theorem matchesLiterally : Engine.MatchesLiterally search? Admits where
  toSearches := searches
  empty _ _ _ := Iff.rfl
  ordinary := by
    intro c p w t start stop hc _
    unfold Admits
    rw [spelled_ordinary hc]
    exact Text.slice?_cons_iff
  escaped _ _ _ _ _ := Text.slice?_cons_iff
  admits_of_search := by
    intro p w re t n s hw hp hre hn hsearch
    have hfirst := firstFrom_search? hw hp hre hn
    rw [hsearch] at hfirst
    obtain ⟨-, hat, hstop, -⟩ := hfirst
    rw [Admits, spelled_eq hp, hstop]
    exact hat
  search_of_admits := by
    intro p w re t n start stop hw hp hre hn hle hadmits
    rw [Admits, spelled_eq hp] at hadmits
    obtain ⟨before, after, ht, hstart, -⟩ := Text.slice?_eq_some_iff.mp hadmits
    have hat : Text.OccursAt w t start := Text.occursAt_iff.mpr ⟨before, after, ht, hstart⟩
    have hfirst := firstFrom_search? hw hp hre hn
    cases hsearch : re.search? t n with
    | none =>
        rw [hsearch] at hfirst
        exact absurd hat (hfirst start hle)
    | some s =>
        rw [hsearch] at hfirst
        exact ⟨s, rfl, hfirst.2.2.2 start hle hat⟩

theorem compile_backslash (h : Spells p w) : compile (p ++ ['\\']) ≠ .ok re := by
  intro hcompile
  obtain ⟨e, he, -⟩ := compile_ok hcompile
  obtain ⟨tree, _, htree, -⟩ := ofPattern_ok he
  exact Pattern.parse_backslash h tree htree

/-- Every character of a match is one that the program tests for. -/
theorem readsChar_of_search? {hit : Text} (h : re.search? t n = some s)
    (hhit : t.slice? s.start s.stop = some hit) : ∀ c ∈ hit, re.program.ReadsChar c := by
  obtain ⟨place, f, hplace, -, hf, rfl⟩ := search?_eq_some_iff.mp h
  obtain ⟨before, hbefore, hstart, -⟩ := hplace.trans (Program.reaches_of_search hf).1
  obtain ⟨passed, hrest, hstop, hall⟩ := Program.passes_of_search hf
  have ht : t = before ++ (passed ++ f.stop.rest) := hbefore.trans (congrArg _ hrest)
  have hpassed : t.slice? f.start.offset f.stop.offset = some passed := by
    rw [hstop, ht, hstart.trans (Nat.zero_add _)]
    exact Text.slice?_append before passed f.stop.rest
  obtain rfl := Option.some.inj (hhit.symm.trans hpassed)
  exact hall

theorem reservesSyntax : Engine.ReservesSyntax search? Admits where
  toMatchesLiterally := matchesLiterally
  backslash hw := compile_backslash (spells_self hw)
  brace := by
    intro p re t n s hit hliterals hcompile _ hsearch hhit hmem
    obtain ⟨e, hsets, rfl⟩ := compile_repeats hliterals hcompile
    exact not_readsChar_ofExpression hsets (readsChar_of_search? hsearch hhit _ hmem)

end Regex

end RegexExplainer
