import EntitySearch.Proofs.SigmaContext
import EntitySearch.Proofs.TermNormalForm

/-! Terms that differ only in accents, or in how accents are encoded, have the same normal form. Two
pieces of text are interchangeable when they may stand for one another anywhere in a term; taking a
character apart, putting marks in order and dropping marks without room of their own all give
interchangeable pieces. -/
namespace EntitySearch

namespace Term

open EntitySearch.Unicode

/-- Two pieces of text that lower-casing and folding never tell apart, in any surroundings. -/
def Interchangeable (xs ys : List Char) : Prop :=
  ∀ before after, foldChars (lowercase (before ++ xs ++ after)) =
    foldChars (lowercase (before ++ ys ++ after))

namespace Interchangeable

variable {xs ys zs : List Char}

theorem refl (xs : List Char) : Interchangeable xs xs :=
  fun _ _ => rfl

theorem symm (h : Interchangeable xs ys) : Interchangeable ys xs :=
  fun before after => (h before after).symm

/-- Interchangeability composes. With `refl` and `symm` it is an equivalence of pieces of text. -/
theorem trans (h : Interchangeable xs ys) (h' : Interchangeable ys zs) : Interchangeable xs zs :=
  fun before after => (h before after).trans (h' before after)

/-- The context of a piece may be extended on the left, since `Interchangeable` speaks of every
context. -/
theorem append_left (h : Interchangeable xs ys) (zs : List Char) :
    Interchangeable (zs ++ xs) (zs ++ ys) := by
  intro before after
  have hMoved := h (before ++ zs) after
  simp only [List.append_assoc] at hMoved ⊢
  exact hMoved

/-- The context may be extended on the right as well. Together with `append_left` and `trans`, a
text is rewritten piece by piece. -/
theorem append_right (h : Interchangeable xs ys) (zs : List Char) :
    Interchangeable (xs ++ zs) (ys ++ zs) := by
  intro before after
  have hMoved := h before (zs ++ after)
  simp only [List.append_assoc] at hMoved ⊢
  exact hMoved

/-- The empty context gives equal normal forms. The converse is not claimed: terms with one normal
form need not be interchangeable inside a longer term. -/
theorem normalize_eq {s t : String} (h : Interchangeable s.toList t.toList) :
    normalize s = normalize t := by
  have hWhole := h [] []
  rw [List.nil_append, List.nil_append, List.append_nil, List.append_nil] at hWhole
  rw [← String.toList_inj, toList_normalize, toList_normalize, hWhole]

end Interchangeable

/-- A piece without capital sigma is lower-cased character by character. Its surroundings depend on
it only through the context that it gives to a capital sigma on either side. -/
theorem lowercase_around {xs : List Char} (h : 'Σ' ∉ xs) (before after : List Char) :
    lowercase (before ++ xs ++ after) = lowercaseAmid [] (xs ++ after) before ++
      (xs.flatMap lowercaseChar ++ lowercaseFrom (xs.reverse ++ (before.reverse ++ [])) after) := by
  rw [lowercase, List.append_assoc, lowercaseFrom_append, lowercaseFrom_append,
    lowercaseAmid_of_not_mem h]

/-- Pieces without capital sigma are interchangeable when they agree as context from both sides and
their folded lower-case forms are equal. No assumption is made on the surroundings. -/
theorem interchangeable_of_alike {xs ys : List Char} (hx : 'Σ' ∉ xs) (hy : 'Σ' ∉ ys)
    (hLooks : LooksLike xs ys)
    (hFolded : foldChars (xs.flatMap lowercaseChar) = foldChars (ys.flatMap lowercaseChar)) :
    Interchangeable xs ys := by
  intro before after
  have hBefore : facesLetter (xs ++ after) = facesLetter (ys ++ after) :=
    facesLetter_congr (hLooks.append (.refl after)).ahead
  have hAfter : facesLetter (xs.reverse ++ (before.reverse ++ [])) =
      facesLetter (ys.reverse ++ (before.reverse ++ [])) :=
    facesLetter_congr (by rw [firstCase?_append, firstCase?_append ys.reverse, hLooks.behind])
  rw [lowercase_around hx, lowercase_around hy, lowercaseAmid_congr hBefore,
    lowercaseFrom_congr hAfter]
  simp only [foldChars_append, hFolded]

/-- A character is interchangeable with its canonical decomposition. This includes characters that
lower-casing maps to several, and Hangul syllables. -/
theorem interchangeable_decompose (c : Char) : Interchangeable [c] (decompose c) := by
  by_cases hSigma : c = 'Σ'
  · have hWhole : decompose 'Σ' = ['Σ'] := by rfl
    rw [hSigma, hWhole]
    exact .refl _
  · apply interchangeable_of_alike
    · simpa using Ne.symm hSigma
    · exact sigma_not_mem_decompose hSigma
    · exact (looksLike_decompose c).symm
    · rcases flatMap_lowercaseChar_decompose c with hWhole | hParts
      · rw [hWhole]
      · rw [hParts, List.flatMap_singleton, foldChars, foldChars, filter_nfd, filter_nfd,
          flatMap_decompose_closed]

/-- Induction on the text: every character may be decomposed in place, before any reordering of
marks. -/
theorem interchangeable_flatMap_decompose (cs : List Char) :
    Interchangeable cs (cs.flatMap decompose) := by
  induction cs with
  | nil => exact .refl []
  | cons c rest ih =>
      rw [List.flatMap_cons]
      exact ((interchangeable_decompose c).append_right rest).trans (ih.append_left (decompose c))

/-- Folding drops every mark that has no decomposition of its own. -/
theorem foldChars_marks {cs : List Char} (h : ∀ c ∈ cs, isMark c = true ∧ decompose c = [c]) :
    foldChars cs = [] := by
  rw [foldChars_eq_flatMap, List.flatMap_eq_nil_iff]
  intro c hc
  obtain ⟨hMark, hWhole⟩ := h c hc
  exact foldChar_of_isMark hMark hWhole

/-- Capital sigma is a letter, so texts of marks never run into the rule for final sigma. -/
theorem ne_sigma_of_isMark {c : Char} (h : isMark c = true) : 'Σ' ≠ c := by
  rintro rfl
  exact absurd h (by decide)

/-- Two adjacent marks may be exchanged, whatever their combining classes are. This requires both to
be without decomposition. -/
theorem interchangeable_swap {a b : Char} (ha : isMark a = true) (hb : isMark b = true)
    (haWhole : decompose a = [a]) (hbWhole : decompose b = [b]) :
    Interchangeable [a, b] [b, a] := by
  have hLook : firstCase? [a, b] = firstCase? [b, a] := by
    rw [firstCase?_cons a [b], firstCase?_cons b [a]]
    rcases firstCase?_of_isMark ha with haCase | haCase
    · rw [haCase, Option.none_or, Option.or_none]
    · rcases firstCase?_of_isMark hb with hbCase | hbCase
      · rw [haCase, hbCase, Option.none_or, Option.or_none]
      · rw [haCase, hbCase]
  apply interchangeable_of_alike
  · simp [ne_sigma_of_isMark, ha, hb]
  · simp [ne_sigma_of_isMark, ha, hb]
  · exact ⟨hLook, hLook.symm⟩
  · rw [flatMap_eq_self (by simp [lowercaseChar_of_isMark, ha, hb]),
      flatMap_eq_self (by simp [lowercaseChar_of_isMark, ha, hb]),
      foldChars_marks (by simp [ha, hb, haWhole, hbWhole]),
      foldChars_marks (by simp [ha, hb, haWhole, hbWhole])]

/-- A nonspacing or enclosing mark may be left out. Spacing marks are excluded, since they end the
context of a sigma. -/
theorem interchangeable_nil {c : Char} (hMark : isUnspacedMark c = true)
    (hWhole : decompose c = [c]) : Interchangeable [c] [] := by
  have hAnyMark : isMark c = true := by rw [isMark, hMark, Bool.true_or]
  have hLook := firstCase?_of_isUnspacedMark hMark
  apply interchangeable_of_alike
  · simpa using ne_sigma_of_isMark hAnyMark
  · exact List.not_mem_nil
  · exact ⟨hLook, hLook⟩
  · rw [List.flatMap_singleton, lowercaseChar_of_isMark hAnyMark,
      foldChars_marks (by simp [hAnyMark, hWhole])]
    rfl

/-- Only marks have a nonzero class, and none of the characters has a decomposition left. -/
def Movable (x : Nat × Char) : Prop :=
  (0 < x.1 → isMark x.2 = true) ∧ decompose x.2 = [x.2]

/-- Step of the canonical ordering: inserting one character among those already ordered only
exchanges marks. -/
theorem interchangeable_settle {x : Nat × Char} (hx : Movable x) {ys : List (Nat × Char)}
    (hys : ∀ y ∈ ys, Movable y) :
    Interchangeable (x.2 :: ys.map Prod.snd) ((settle x ys).map Prod.snd) := by
  induction ys with
  | nil => exact .refl _
  | cons y rest ih =>
      obtain ⟨hy, hRest⟩ := List.forall_mem_cons.mp hys
      rw [settle]
      split
      · rename_i hBehind
        rw [Bool.and_eq_true, decide_eq_true_eq, decide_eq_true_eq] at hBehind
        have hSwap : Interchangeable [x.2, y.2] [y.2, x.2] :=
          interchangeable_swap (hx.1 (Nat.lt_trans hBehind.1 hBehind.2)) (hy.1 hBehind.1) hx.2 hy.2
        exact (hSwap.append_right (rest.map Prod.snd)).trans ((ih hRest).append_left [y.2])
      · exact .refl _

/-- One insertion of the canonical ordering neither adds nor changes a character. -/
theorem forall_mem_settle {P : Nat × Char → Prop} {x : Nat × Char} (hx : P x)
    {ys : List (Nat × Char)} (hys : ∀ y ∈ ys, P y) : ∀ y ∈ settle x ys, P y := by
  induction ys with
  | nil => simpa [settle] using hx
  | cons y rest ih =>
      obtain ⟨hy, hRest⟩ := List.forall_mem_cons.mp hys
      rw [settle]
      split
      · exact List.forall_mem_cons.mpr ⟨hy, ih hRest⟩
      · exact List.forall_mem_cons.mpr ⟨hx, hys⟩

/-- Run lemma for `forall_mem_settle`, over the whole canonical ordering. -/
theorem forall_mem_settled {P : Nat × Char → Prop} {cs : List Char}
    (h : ∀ c ∈ cs, P (combiningClass c, c)) :
    ∀ y ∈ (cs.map fun c => (combiningClass c, c)).foldr settle [], P y := by
  induction cs with
  | nil => simp
  | cons c rest ih =>
      obtain ⟨hc, hRest⟩ := List.forall_mem_cons.mp h
      exact forall_mem_settle hc (ih hRest)

/-- A text of characters without decomposition is interchangeable with its canonical ordering. -/
theorem interchangeable_reorder {cs : List Char} (h : ∀ c ∈ cs, decompose c = [c]) :
    Interchangeable cs (reorder cs) := by
  induction cs with
  | nil => exact .refl []
  | cons c rest ih =>
      have hMovable : ∀ d ∈ c :: rest, Movable (combiningClass d, d) := fun d hd =>
        ⟨fun hClass => isMark_of_combiningClass (Nat.pos_iff_ne_zero.mp hClass), h d hd⟩
      obtain ⟨hc, hRest⟩ := List.forall_mem_cons.mp hMovable
      have hSettle := interchangeable_settle hc (forall_mem_settled hRest)
      exact ((ih fun d hd => h d (List.mem_cons_of_mem c hd)).append_left [c]).trans hSettle

/-- In a text of characters without decomposition all nonspacing and enclosing marks may be left out
at once. -/
theorem interchangeable_filter {cs : List Char} (h : ∀ c ∈ cs, decompose c = [c]) :
    Interchangeable cs (cs.filter (!isUnspacedMark ·)) := by
  induction cs with
  | nil => exact .refl []
  | cons c rest ih =>
      obtain ⟨hWhole, hRest⟩ := List.forall_mem_cons.mp h
      cases hMark : isUnspacedMark c with
      | true =>
          rw [List.filter_cons_of_neg (by simp [hMark])]
          exact ((interchangeable_nil hMark hWhole).append_right rest).trans (ih hRest)
      | false =>
          rw [List.filter_cons_of_pos (by simp [hMark])]
          exact (ih hRest).append_left [c]

/-- Full decomposition is reached in one pass: no character of the result has a decomposition
left. -/
theorem decompose_of_mem_flatMap {cs : List Char} :
    ∀ d ∈ cs.flatMap decompose, decompose d = [d] := by
  intro d hd
  obtain ⟨c, _, hd⟩ := List.mem_flatMap.mp hd
  exact decompose_closed c d hd

/-- Reordering moves characters without changing them, so the decomposed form has no character with
a decomposition either. -/
theorem decompose_of_mem_nfd {cs : List Char} : ∀ d ∈ nfd cs, decompose d = [d] := by
  rw [nfd, reorder, List.forall_mem_map]
  exact forall_mem_settled (P := fun y => decompose y.2 = [y.2]) decompose_of_mem_flatMap

/-- Canonical decomposition without its nonspacing and enclosing marks. Spacing marks are kept. -/
def unaccented (cs : List Char) : List Char :=
  (nfd cs).filter (!isUnspacedMark ·)

/-- A text is interchangeable with its canonical decomposition, ordering included. -/
theorem interchangeable_nfd (cs : List Char) : Interchangeable cs (nfd cs) :=
  (interchangeable_flatMap_decompose cs).trans (interchangeable_reorder decompose_of_mem_flatMap)

/-- A text is interchangeable with its decomposition less the nonspacing and enclosing marks. -/
theorem interchangeable_unaccented (cs : List Char) : Interchangeable cs (unaccented cs) :=
  (interchangeable_nfd cs).trans (interchangeable_filter decompose_of_mem_nfd)

/-- Composed and decomposed spellings have one normal form. Nothing is assumed about the text. -/
theorem normalize_nfd (term : String) :
    normalize (String.ofList (nfd term.toList)) = normalize term := by
  apply Interchangeable.normalize_eq
  rw [String.toList_ofList]
  exact (interchangeable_nfd term.toList).symm

/-- Nonspacing and enclosing marks never affect the normal form. -/
theorem normalize_unaccented (term : String) :
    normalize (String.ofList (unaccented term.toList)) = normalize term := by
  apply Interchangeable.normalize_eq
  rw [String.toList_ofList]
  exact (interchangeable_unaccented term.toList).symm

/-- Terms with equal canonical decompositions, up to nonspacing and enclosing marks, have equal
normal forms. They compile to equal clauses, and a request for one of them is a request for the
other. -/
theorem normalize_eq_of_unaccented_eq {s t : String}
    (h : unaccented s.toList = unaccented t.toList) :
    normalize s = normalize t ∧
    (∀ config, compileText config (some s) = compileText config (some t)) ∧
    ∀ (registry : Registry) (entity : String) (filters : FilterSet) (options : SearchOptions),
      registry.assemble entity filters (options.withText s) =
        registry.assemble entity filters (options.withText t) := by
  have hNormalize : normalize s = normalize t := by
    rw [← normalize_unaccented s, h, normalize_unaccented]
  have hClauses : ∀ config, compileText config (some s) = compileText config (some t) := by
    intro config
    rw [compileText, compileText, hNormalize]
  exact ⟨hNormalize, hClauses, fun _ _ _ _ => Registry.assemble_withText hClauses⟩

/-- A final sigma stays final with composed or separate accents on either side, in any order. -/
theorem normalize_accents_around_sigma :
    unaccented "ΟΔΌΣ".toList = unaccented "ΟΔΟ\u0323\u0301Σ\u0345\u0301".toList ∧
      normalize "ΟΔΌΣ" = normalize "ΟΔΟ\u0323\u0301Σ\u0345\u0301" ∧
      normalize "ΟΔΌΣ" = "οδος" := by
  have hSame : unaccented "ΟΔΌΣ".toList = unaccented "ΟΔΟ\u0323\u0301Σ\u0345\u0301".toList := by
    have hComposed : unaccented "ΟΔΌΣ".toList = "ΟΔΟΣ".toList := by rfl
    rw [hComposed]
    rfl
  exact ⟨hSame, (normalize_eq_of_unaccented_eq hSame).1, by rfl⟩

end Term

end EntitySearch
