import EntitySearch.Proofs.CharacterProperties
import EntitySearch.Term

/-! Folding a text character by character. Canonical order moves only marks, and marks are dropped,
so what a text folds to is what its characters fold to, one after the other. -/
namespace EntitySearch

namespace Unicode

section Reorder

variable {p : Nat × Char → Bool} {x : Nat × Char}

/-- Under a filter that drops the characters of nonzero class, insertion leaves the order as it
was. -/
theorem filter_settle (hMoves : 0 < x.1 → p x = false) (ys : List (Nat × Char)) :
    (settle x ys).filter p = (x :: ys).filter p := by
  induction ys with
  | nil => rfl
  | cons y rest ih =>
      rw [settle]
      split
      · rename_i hBehind
        rw [Bool.and_eq_true, decide_eq_true_eq, decide_eq_true_eq] at hBehind
        have hDropped := hMoves (Nat.lt_trans hBehind.1 hBehind.2)
        rw [List.filter_cons, ih, List.filter_cons_of_neg (by simp [hDropped]),
          List.filter_cons_of_neg (by simp [hDropped]), List.filter_cons]
      · rfl

/-- Canonical ordering preserves the subsequence of characters of class zero. -/
theorem filter_reorder {q : Char → Bool} (hMoves : ∀ c, combiningClass c ≠ 0 → q c = false)
    (cs : List Char) : (reorder cs).filter q = cs.filter q := by
  have hPairs : ∀ cs : List Char,
      ((cs.map fun c => (combiningClass c, c)).foldr settle []).filter (q ∘ Prod.snd) =
        (cs.map fun c => (combiningClass c, c)).filter (q ∘ Prod.snd) := by
    intro cs
    induction cs with
    | nil => rfl
    | cons c rest ih =>
        rw [List.map_cons, List.foldr_cons,
          filter_settle fun hClass => hMoves c (Nat.pos_iff_ne_zero.mp hClass),
          List.filter_cons, ih, ← List.filter_cons]
  rw [reorder, List.filter_map, hPairs, ← List.filter_map, List.map_map]
  exact congrArg (List.filter q) (List.map_id cs)

/-- Without its marks the decomposed form is the plain decomposition: reordering affects marks
only. -/
theorem filter_nfd (cs : List Char) :
    (nfd cs).filter (!isMark ·) = (cs.flatMap decompose).filter (!isMark ·) := by
  apply filter_reorder
  intro c hClass
  rw [isMark_of_combiningClass hClass]
  rfl

end Reorder

/-- Lower-casing gives characters in lower case only, in every context. -/
theorem lowercaseFrom_closed (before cs : List Char) :
    ∀ c ∈ lowercaseFrom before cs, lowercaseChar c = [c] := by
  induction cs generalizing before with
  | nil => simp [lowercaseFrom]
  | cons c rest ih =>
      intro d hd
      rw [lowercaseFrom, List.mem_append] at hd
      rcases hd with hd | hd
      · split at hd
        · rw [List.mem_singleton, lowercaseSigma] at hd
          split at hd
          · rw [hd]
            rfl
          · rw [hd]
            rfl
        · exact lowercaseChar_closed c d hd
      · exact ih (c :: before) d hd

/-- A text in lower case is fixed by lower-casing, in every context. -/
theorem lowercaseFrom_eq_self {cs : List Char} (h : ∀ c ∈ cs, lowercaseChar c = [c])
    (before : List Char) : lowercaseFrom before cs = cs := by
  induction cs generalizing before with
  | nil => rfl
  | cons c rest ih =>
      obtain ⟨hLower, hRest⟩ := List.forall_mem_cons.mp h
      have hSigma : c ≠ 'Σ' := by
        rintro rfl
        exact absurd hLower (by decide)
      rw [lowercaseFrom, if_neg hSigma, hLower, ih hRest, List.singleton_append]

end Unicode

namespace Term

open EntitySearch.Unicode

/-- Folding of a single character. -/
def foldChar (c : Char) : List Char :=
  ((decompose c).filter (!isMark ·)).flatMap spell

/-- Folding acts character by character. Reordering of marks never shows in the result. -/
theorem foldChars_eq_flatMap (cs : List Char) : foldChars cs = cs.flatMap foldChar := by
  rw [foldChars, filter_nfd, List.filter_flatMap, List.flatMap_assoc]
  rfl

/-- Folding a character agrees with folding its decomposition. -/
theorem flatMap_foldChar_decompose (c : Char) : (decompose c).flatMap foldChar = foldChar c := by
  rw [← foldChars_eq_flatMap, foldChars, filter_nfd, flatMap_eq_self (decompose_closed c), foldChar]

theorem foldChar_of_isMark {c : Char} (hMark : isMark c = true) (hWhole : decompose c = [c]) :
    foldChar c = [] := by
  rw [foldChar, hWhole, List.filter_cons_of_neg (by simp [hMark])]
  rfl

theorem foldChar_of_unmarked {c : Char} (hUnmarked : isMark c = false)
    (hWhole : decompose c = [c]) : foldChar c = spell c := by
  rw [foldChar, hWhole, List.filter_cons_of_pos (by simp [hUnmarked]), List.filter_nil,
    List.flatMap_singleton]

theorem foldChars_append (xs ys : List Char) :
    foldChars (xs ++ ys) = foldChars xs ++ foldChars ys := by
  rw [foldChars_eq_flatMap, foldChars_eq_flatMap, foldChars_eq_flatMap, List.flatMap_append]

end Term

end EntitySearch
