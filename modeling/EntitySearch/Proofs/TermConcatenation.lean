import EntitySearch.Proofs.SigmaContext
import EntitySearch.Proofs.TermFolding

/-! Terms put together from pieces. Folding goes piece by piece wherever a text is cut, although
taking it apart does not; lower-casing does where no capital sigma looks across the cut, and always
at a blank. -/
namespace EntitySearch

namespace Unicode

/-- A character that counts and is uncased separates contexts: lower-casing distributes over it,
capital sigmas on both sides included. -/
theorem lowercase_cut {c : Char} (h : firstCase? [c] = some false) (xs ys : List Char) :
    lowercase (xs ++ c :: ys) = lowercase xs ++ (lowercaseChar c ++ lowercase ys) := by
  have hSigma : c ≠ 'Σ' := by
    rintro rfl
    exact absurd h (by decide)
  have hBlind : ∀ cs, facesLetter (c :: cs) = facesLetter [] := by
    intro cs
    rw [facesLetter_eq, firstCase?_cons, h]
    rfl
  rw [lowercase, lowercaseFrom_append, lowercaseAmid_congr (hBlind ys), lowercaseAmid_nil,
    lowercaseFrom, if_neg hSigma, lowercaseFrom_congr (hBlind _)]
  rfl

/-- Without capital sigma lower-casing acts character by character. -/
theorem lowercase_of_not_mem {cs : List Char} (h : 'Σ' ∉ cs) :
    lowercase cs = cs.flatMap lowercaseChar := by
  rw [lowercase, ← lowercaseAmid_nil, lowercaseAmid_of_not_mem h]

end Unicode

namespace Term

open EntitySearch.Unicode

/-- Folding distributes over concatenation at every cut, also between a letter and its marks.
Decomposition with reordering does not. -/
theorem asciiFold_append (s t : String) : asciiFold (s ++ t) = asciiFold s ++ asciiFold t := by
  rw [asciiFold, asciiFold, asciiFold, String.toList_append, foldChars_append, String.ofList_append]

/-- Normalization distributes over concatenation if neither part has a capital sigma. -/
theorem normalize_append_of_not_mem {s t : String} (h : 'Σ' ∉ (s ++ t).toList) :
    normalize (s ++ t) = normalize s ++ normalize t := by
  rw [String.toList_append, List.mem_append, not_or] at h
  rw [normalize, normalize, normalize, String.toList_append,
    lowercase_of_not_mem (mt List.mem_append.mp (not_or.mpr h)), lowercase_of_not_mem h.1,
    lowercase_of_not_mem h.2, List.flatMap_append, String.ofList_append, asciiFold_append]

/-- A prefix of a string is completed by some string. -/
theorem exists_append_of_prefix {s t : String} (h : s.toList <+: t.toList) : ∃ u, t = s ++ u := by
  obtain ⟨rest, hRest⟩ := h
  refine ⟨String.ofList rest, ?_⟩
  rw [← String.toList_inj, String.toList_append, String.toList_ofList, hRest]

/-- Normalization distributes over a space without any condition on the parts. -/
theorem normalize_append_space (s t : String) :
    normalize (s ++ " " ++ t) = normalize s ++ " " ++ normalize t := by
  have hBlank : asciiFold (String.ofList (lowercaseChar ' ')) = " " := by rfl
  have hCut : (s ++ " " ++ t).toList = s.toList ++ ' ' :: t.toList := by
    rw [String.toList_append, String.toList_append, List.append_assoc]
    rfl
  rw [normalize, hCut, lowercase_cut (by rfl), String.ofList_append, String.ofList_append,
    asciiFold_append, asciiFold_append, hBlank, String.append_assoc]
  rfl

theorem normalize_empty : normalize "" = "" := by
  rfl

/-- Words joined by blanks are normalized separately. An empty list gives the empty text. -/
theorem normalize_intercalate (words : List String) :
    normalize (" ".intercalate words) = " ".intercalate (words.map normalize) := by
  induction words with
  | nil => exact normalize_empty
  | cons word rest ih =>
      cases rest with
      | nil => simp only [List.map_cons, List.map_nil, String.intercalate_singleton]
      | cons next rest =>
          rw [String.intercalate_cons_cons, normalize_append_space, ih, List.map_cons,
            List.map_cons, List.map_cons, String.intercalate_cons_cons]

/-- Folding distributes over every cut, although canonical decomposition does not. Without capital
sigma normalization distributes as well, so a prefix of such a term has a prefix of its normal
form. -/
theorem cut_anywhere :
    (∀ s t : String, asciiFold (s ++ t) = asciiFold s ++ asciiFold t) ∧
    (∃ xs ys, nfd (xs ++ ys) ≠ nfd xs ++ nfd ys) ∧
    (∀ s t : String, 'Σ' ∉ (s ++ t).toList →
      normalize (s ++ t) = normalize s ++ normalize t) ∧
    ∀ typed word : String, typed.toList <+: word.toList → 'Σ' ∉ word.toList →
      (normalize typed).toList <+: (normalize word).toList := by
  refine ⟨asciiFold_append, ⟨['e', '\u0301'], ['\u0323'], by decide⟩,
    fun s t => normalize_append_of_not_mem, ?_⟩
  intro typed word hTyped hSigma
  obtain ⟨rest, rfl⟩ := exists_append_of_prefix hTyped
  rw [normalize_append_of_not_mem hSigma, String.toList_append]
  exact List.prefix_append _ _

/-- A prefix that ends at a letter, before the accents of this letter, is normalized to a prefix. -/
theorem typed_before_accents :
    "CAFE".toList <+: "CAFE\u0301\u0323S".toList ∧ 'Σ' ∉ "CAFE\u0301\u0323S".toList ∧
      (normalize "CAFE").toList <+: (normalize "CAFE\u0301\u0323S").toList ∧
      normalize "CAFE\u0301\u0323S" = normalize "CAFE" ++ normalize "\u0301\u0323S" ∧
      normalize "CAFE\u0301\u0323S" = "cafes" := by
  have hTyped : "CAFE".toList <+: "CAFE\u0301\u0323S".toList := ⟨"\u0301\u0323S".toList, by decide⟩
  have hSigma : 'Σ' ∉ "CAFE\u0301\u0323S".toList := by decide
  obtain ⟨_, _, hParts, hBeginnings⟩ := cut_anywhere
  refine ⟨hTyped, hSigma, hBeginnings _ _ hTyped hSigma, ?_, by rfl⟩
  exact hParts "CAFE" "\u0301\u0323S" hSigma

end Term

end EntitySearch
