import EntitySearch.Proofs.TermFolding
import EntitySearch.Query.Assembly

/-! The normal forms of search terms: the texts of which normalizing leaves every single character
as it is. -/
namespace EntitySearch

theorem mem_of_lookup_eq_some {α β : Type} [BEq α] [LawfulBEq α] {items : List (α × β)} {key : α}
    {value : β} (h : items.lookup key = some value) : (key, value) ∈ items := by
  obtain ⟨before, after, hItems, _⟩ := List.lookup_eq_some_iff.mp h
  rw [hItems]
  exact List.mem_append_right _ List.mem_cons_self

namespace Term

open EntitySearch.Unicode

/-- A character that lower-casing and every step of folding leave alone. -/
structure Stable (c : Char) : Prop where
  unmarked : isMark c = false
  whole : decompose c = [c]
  lower : lowercaseChar c = [c]
  plain : spellings.lookup c = none

instance (c : Char) : Decidable (Stable c) :=
  decidable_of_iff (isMark c = false ∧ decompose c = [c] ∧ lowercaseChar c = [c] ∧
      spellings.lookup c = none)
    ⟨fun ⟨unmarked, whole, lower, plain⟩ => ⟨unmarked, whole, lower, plain⟩,
      fun h => ⟨h.unmarked, h.whole, h.lower, h.plain⟩⟩

/-- A stable character folds to itself. -/
theorem Stable.foldChar {c : Char} (h : Stable c) : foldChar c = [c] := by
  rw [foldChar_of_unmarked h.unmarked h.whole, spell, h.plain, Option.getD_none]

/-- Checked on the table of plain spellings, for the letters in lower case. -/
theorem spellings_stable : ∀ entry ∈ spellings, lowercaseChar entry.1 = [entry.1] →
    ∀ c ∈ entry.2, Stable c := by
  have hEntries : spellings.all (fun entry => lowercaseChar entry.1 != [entry.1] ||
      entry.2.all fun c => decide (Stable c)) = true := by rfl
  intro entry hEntry hLower
  have hStable := List.all_eq_true.mp hEntries entry hEntry
  simpa [hLower] using hStable

/-- The spelling of a character in lower case is stable, if it is no mark and has no
decomposition. -/
theorem stable_of_mem_spell {c d : Char} (hUnmarked : isMark c = false)
    (hWhole : decompose c = [c]) (hLower : lowercaseChar c = [c]) (hd : d ∈ spell c) :
    Stable d := by
  rw [spell] at hd
  cases hPlain : spellings.lookup c with
  | none =>
      rw [hPlain, Option.getD_none, List.mem_singleton] at hd
      rw [hd]
      exact ⟨hUnmarked, hWhole, hLower, hPlain⟩
  | some spelling =>
      rw [hPlain, Option.getD_some] at hd
      exact spellings_stable _ (mem_of_lookup_eq_some hPlain) hLower d hd

/-- A character in lower case folds to stable characters, since decomposition preserves lower
case. -/
theorem stable_of_mem_foldChar {c d : Char} (hLower : lowercaseChar c = [c])
    (hd : d ∈ foldChar c) : Stable d := by
  obtain ⟨part, hPart, hd⟩ := List.mem_flatMap.mp hd
  obtain ⟨hPart, hUnmarked⟩ := List.mem_filter.mp hPart
  exact stable_of_mem_spell (by simpa using hUnmarked) (decompose_closed c part hPart)
    (lowercaseChar_of_mem_decompose hLower hPart) hd

/-- The two steps on lists of characters: lower case first, then folding. -/
theorem toList_normalize (term : String) :
    (normalize term).toList = foldChars (lowercase term.toList) := by
  rw [normalize, asciiFold, String.toList_ofList, String.toList_ofList]

/-- A normal form has stable characters only, for every term. -/
theorem stable_of_mem_normalize (term : String) : ∀ c ∈ (normalize term).toList, Stable c := by
  intro c hc
  rw [toList_normalize, foldChars_eq_flatMap] at hc
  obtain ⟨d, hd, hc⟩ := List.mem_flatMap.mp hc
  exact stable_of_mem_foldChar (lowercaseFrom_closed [] term.toList d hd) hc

/-- Stable texts are fixed. Small sigmas of either form are stable. -/
theorem normalize_of_stable {term : String} (h : ∀ c ∈ term.toList, Stable c) :
    normalize term = term := by
  rw [normalize, lowercase, lowercaseFrom_eq_self fun c hc => (h c hc).lower, String.ofList_toList,
    asciiFold, foldChars_eq_flatMap, flatMap_eq_self fun c hc => (h c hc).foldChar,
    String.ofList_toList]

/-- The normal forms are exactly the texts of stable characters. -/
theorem normalize_eq_self_iff {term : String} :
    normalize term = term ↔ ∀ c ∈ term.toList, Stable c := by
  constructor
  · intro h
    rw [← h]
    exact stable_of_mem_normalize term
  · exact normalize_of_stable

theorem normalize_normalize (term : String) : normalize (normalize term) = normalize term :=
  normalize_of_stable (stable_of_mem_normalize term)

end Term

theorem compileText_normalize (config : EntityConfig) (term : String) :
    compileText config (some (Term.normalize term)) = compileText config (some term) := by
  rw [compileText, compileText, Term.normalize_normalize]

/-- A request depends on its text only through the clauses compiled from it. -/
theorem Registry.assemble_withText {registry : Registry} {entity : String} {filters : FilterSet}
    {options : SearchOptions} {s t : String}
    (h : ∀ config, compileText config (some s) = compileText config (some t)) :
    registry.assemble entity filters (options.withText s) =
      registry.assemble entity filters (options.withText t) := by
  simp only [assemble, SearchOptions.withText, SearchOptions.filters, h, Option.map_some]

namespace Term

/-- Normalization is idempotent with the texts of stable characters as its image and fixed points.
It can be decided character by character, and a request for a term is the request for its normal
form. -/
theorem normalize_normal_form (term : String) :
    (∀ c ∈ (normalize term).toList, Stable c) ∧
    ((∀ c ∈ term.toList, Stable c) → normalize term = term) ∧
    normalize (normalize term) = normalize term ∧
    (isNormalized term = true ↔ ∀ c ∈ term.toList, Stable c) ∧
    ∀ (registry : Registry) (entity : String) (filters : FilterSet) (options : SearchOptions),
      registry.assemble entity filters (options.withText (normalize term)) =
        registry.assemble entity filters (options.withText term) := by
  refine ⟨stable_of_mem_normalize term, normalize_of_stable, normalize_normalize term, ?_, ?_⟩
  · rw [isNormalized, beq_iff_eq]
    exact normalize_eq_self_iff
  · intro registry entity filters options
    exact Registry.assemble_withText fun config => compileText_normalize config term

/-- A word with a final sigma is a normal form, that of its accented capitals. -/
theorem normal_form_odos :
    (∀ c ∈ "οδος".toList, Stable c) ∧ normalize "οδος" = "οδος" ∧ normalize "ΌΔΟΣ" = "οδος" := by
  have hStable : ∀ c ∈ "οδος".toList, Stable c := by
    have hAll : ("οδος".toList.all fun c => decide (Stable c)) = true := by rfl
    simpa only [List.all_eq_true, decide_eq_true_eq] using hAll
  exact ⟨hStable, (normalize_normal_form "οδος").2.1 hStable, by rfl⟩

end Term

end EntitySearch
