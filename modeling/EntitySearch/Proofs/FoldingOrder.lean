import EntitySearch.Proofs.EastAsianText
import EntitySearch.Proofs.SigmaContext

/-! The order of folding and lower-casing. Character by character they come to the same in either
order. A capital sigma takes its form from its neighbours, though, and these may look different once
they are folded. So the two orders differ in the form of some sigmas and in nothing else. -/
namespace EntitySearch

namespace Unicode

/-- Span of all images of a row. With a stride it also contains other code points. -/
def LowercaseRun.images (run : LowercaseRun) : Span :=
  ⟨run.image, run.image + (run.last - run.first)⟩

end Unicode

namespace Term

open EntitySearch.Unicode

section Images

/-- Facts about lower-case images: they are characters and neither marks nor Hangul syllables, and
they have a decomposition or a plain spelling only if their sources do. -/
structure ImageFacts : Prop where
  valid : lowercaseRuns.rows.all (fun run => run.images.last.blt 0xD800 ||
    Nat.blt 0xDFFF run.images.first && run.images.last.blt 0x110000) = true
  unspaced : lowercaseRuns.rows.all (fun run => unspacedMarks.avoids id run.images) = true
  spacing : lowercaseRuns.rows.all (fun run => spacingMarks.avoids id run.images) = true
  hangul : lowercaseRuns.rows.all (fun run => Span.apart ⟨0xAC00, 0xD7A3⟩ run.images) = true
  parted : lowercaseRuns.rows.all (fun run =>
    (List.range (run.last + 1 - run.first)).all fun k => k % run.stride != 0 ||
      (listedParts? (run.image + k)).isNone ||
        decompose (Char.ofNat (run.first + k)) != [Char.ofNat (run.first + k)]) = true
  spelled : spellings.all (fun entry => lowercaseRuns.rows.all fun run =>
    !run.images.contains entry.1.toNat || (entry.1.toNat - run.image) % run.stride != 0 ||
      (spellings.lookup (Char.ofNat (run.first + (entry.1.toNat - run.image)))).isSome) = true

/-- Six checks over all rows of the table of lower case, each by the kernel. -/
theorem imageFacts : ImageFacts where
  valid := by decide +kernel
  unspaced := by decide +kernel
  spacing := by decide +kernel
  hangul := by decide +kernel
  parted := by decide +kernel
  spelled := by decide +kernel

variable {run : LowercaseRun} {k : Nat}

/-- The images of a row lie within its span of images, whatever its stride is. -/
theorem images_bounds (hk : k < run.last + 1 - run.first) :
    run.images.first ≤ run.image + k ∧ run.image + k ≤ run.images.last := by
  have hStep : k ≤ run.last - run.first := by omega
  exact ⟨Nat.le_add_right _ _, Nat.add_le_add_left hStep _⟩

/-- Images are never surrogates, so the character of an image has its code. -/
theorem toNat_image (hRun : run ∈ lowercaseRuns.rows) (hk : k < run.last + 1 - run.first) :
    (Char.ofNat (run.image + k)).toNat = run.image + k := by
  have hValid := List.all_eq_true.mp imageFacts.valid run hRun
  obtain ⟨hFirst, hLast⟩ := images_bounds hk
  rw [Bool.or_eq_true, Bool.and_eq_true, Nat.blt_eq, Nat.blt_eq, Nat.blt_eq] at hValid
  have hChar : (run.image + k).isValidChar := by
    rw [Nat.isValidChar]
    omega
  rw [Char.ofNat, dif_pos hChar]
  rfl

/-- If a character has no decomposition, neither has its image. Only offsets on the stride of the
row are images. -/
theorem decompose_image (hRun : run ∈ lowercaseRuns.rows) (hk : k < run.last + 1 - run.first)
    (hStride : k % run.stride = 0)
    (hWhole : decompose (Char.ofNat (run.first + k)) = [Char.ofNat (run.first + k)]) :
    decompose (Char.ofNat (run.image + k)) = [Char.ofNat (run.image + k)] := by
  obtain ⟨hFirst, hLast⟩ := images_bounds hk
  apply decompose_eq_self
  · have hApart := List.all_eq_true.mp imageFacts.hangul run hRun
    have hOutside := Span.not_contains_of_apart hApart hFirst hLast
    rw [← Bool.not_eq_true, Span.contains, Bool.and_eq_true, Nat.ble_eq, Nat.ble_eq] at hOutside
    rw [toNat_image hRun hk, hangulParts?, if_neg]
    rwa [Bool.and_eq_true, decide_eq_true_eq, decide_eq_true_eq]
  · have hRow := List.all_eq_true.mp imageFacts.parted run hRun
    have hParted := List.all_eq_true.mp hRow k (List.mem_range.mpr hk)
    rw [toNat_image hRun hk]
    simpa [hStride, hWhole] using hParted

/-- A character without plain spelling has an image without one. -/
theorem lookup_image (hRun : run ∈ lowercaseRuns.rows) (hk : k < run.last + 1 - run.first)
    (hStride : k % run.stride = 0)
    (hPlain : spellings.lookup (Char.ofNat (run.first + k)) = none) :
    spellings.lookup (Char.ofNat (run.image + k)) = none := by
  cases hFound : spellings.lookup (Char.ofNat (run.image + k)) with
  | none => rfl
  | some spelling =>
      have hEntry := List.all_eq_true.mp imageFacts.spelled _ (mem_of_lookup_eq_some hFound)
      have hSpelled := List.all_eq_true.mp hEntry run hRun
      obtain ⟨hFirst, hLast⟩ := images_bounds hk
      have hInside : run.images.contains (run.image + k) = true := by
        simp [Span.contains, hFirst, hLast]
      rw [toNat_image hRun hk, hInside, Nat.add_sub_cancel_left, hStride, hPlain] at hSpelled
      cases hSpelled

/-- The lower case of a character without decomposition and plain spelling is stable, provided the
character is no mark. -/
theorem stable_of_mem_lowercaseChar {c d : Char} (hUnmarked : isMark c = false)
    (hWhole : decompose c = [c]) (hPlain : spellings.lookup c = none) (hd : d ∈ lowercaseChar c) :
    Stable d := by
  have hLower := lowercaseChar_closed c d hd
  obtain hSelf | rfl | ⟨run, hRun, k, hk, hStride, hCode, hImage⟩ := lowercaseChar_cases c
  · rw [hSelf, List.mem_singleton] at hd
    rw [hd] at hLower ⊢
    exact ⟨hUnmarked, hWhole, hLower, hPlain⟩
  · -- The dotted capital has parts.
    exact absurd hWhole (by decide)
  · rw [hImage, List.mem_singleton] at hd
    rw [← Char.ofNat_toNat c, hCode] at hWhole hPlain
    obtain ⟨hFirst, hLast⟩ := images_bounds hk
    rw [← toNat_image hRun hk] at hFirst hLast
    rw [hd] at hLower ⊢
    exact {
      unmarked := isMark_of_avoids (List.all_eq_true.mp imageFacts.unspaced run hRun)
        (List.all_eq_true.mp imageFacts.spacing run hRun) hFirst hLast
      whole := decompose_image hRun hk hStride hWhole
      lower := hLower
      plain := lookup_image hRun hk hStride hPlain }

end Images

section Characters

/-- The three ways a character without decomposition is folded: dropped as a mark, kept, or replaced
by its plain spelling. -/
theorem foldChar_cases {c : Char} (hWhole : decompose c = [c]) :
    (isMark c = true ∧ foldChar c = []) ∨
    (isMark c = false ∧ spellings.lookup c = none ∧ foldChar c = [c]) ∨
    ∃ entry ∈ spellings, entry.1 = c ∧ foldChar c = entry.2 := by
  cases hMark : isMark c with
  | true => exact .inl ⟨rfl, foldChar_of_isMark hMark hWhole⟩
  | false =>
      rw [foldChar_of_unmarked hMark hWhole, spell]
      cases hPlain : spellings.lookup c with
      | none => exact .inr (.inl ⟨rfl, rfl, Option.getD_none⟩)
      | some spelling =>
          exact .inr (.inr ⟨_, mem_of_lookup_eq_some hPlain, rfl, Option.getD_some⟩)

/-- Lower-casing commutes with plain spelling, and no plain spelling contains a capital sigma. -/
structure SpellingFacts : Prop where
  lowercase : spellings.all (fun entry =>
    entry.2.flatMap lowercaseChar == (lowercaseChar entry.1).flatMap foldChar) = true
  sigma : spellings.all (fun entry => !entry.2.contains 'Σ') = true

theorem spellingFacts : SpellingFacts where
  lowercase := by decide +kernel
  sigma := by decide +kernel

/-- Folding and lower-casing commute on single characters without decomposition. -/
theorem lowercaseChar_foldChar_of_whole {c : Char} (hWhole : decompose c = [c]) :
    (foldChar c).flatMap lowercaseChar = (lowercaseChar c).flatMap foldChar := by
  obtain ⟨hMark, hFold⟩ | ⟨hUnmarked, hPlain, hFold⟩ | ⟨entry, hEntry, rfl, hFold⟩ :=
    foldChar_cases hWhole
  · rw [lowercaseChar_of_isMark hMark, List.flatMap_singleton, hFold, List.flatMap_nil]
  · rw [hFold, List.flatMap_singleton]
    refine (flatMap_eq_self fun d hd => ?_).symm
    exact (stable_of_mem_lowercaseChar hUnmarked hWhole hPlain hd).foldChar
  · rw [hFold]
    exact eq_of_beq (List.all_eq_true.mp spellingFacts.lowercase entry hEntry)

/-- They commute on every single character. The rule for capital sigma looks at neighbours and is
not part of this. -/
theorem lowercaseChar_foldChar (c : Char) :
    (foldChar c).flatMap lowercaseChar = (lowercaseChar c).flatMap foldChar := by
  rcases flatMap_lowercaseChar_decompose c with hWhole | hParts
  · exact lowercaseChar_foldChar_of_whole hWhole
  · calc (foldChar c).flatMap lowercaseChar
        = ((decompose c).flatMap foldChar).flatMap lowercaseChar := by
          rw [flatMap_foldChar_decompose]
      _ = (decompose c).flatMap fun d => (foldChar d).flatMap lowercaseChar := List.flatMap_assoc
      _ = (decompose c).flatMap fun d => (lowercaseChar d).flatMap foldChar :=
          List.flatMap_congr fun d hd => lowercaseChar_foldChar_of_whole (decompose_closed c d hd)
      _ = ((decompose c).flatMap lowercaseChar).flatMap foldChar := List.flatMap_assoc.symm
      _ = ((lowercaseChar c).flatMap decompose).flatMap foldChar := by rw [hParts]
      _ = (lowercaseChar c).flatMap fun d => (decompose d).flatMap foldChar := List.flatMap_assoc
      _ = (lowercaseChar c).flatMap foldChar :=
          List.flatMap_congr fun d _ => flatMap_foldChar_decompose d

/-- Folding produces a capital sigma only from a capital sigma, so the places where the rule applies
are those of the text. -/
theorem sigma_not_mem_foldChar {c : Char} (h : c ≠ 'Σ') : 'Σ' ∉ foldChar c := by
  rw [← flatMap_foldChar_decompose, List.mem_flatMap]
  rintro ⟨part, hPart, hSigma⟩
  obtain ⟨_, hFold⟩ | ⟨_, _, hFold⟩ | ⟨entry, hEntry, _, hFold⟩ :=
    foldChar_cases (decompose_closed c part hPart)
  · rw [hFold] at hSigma
    exact List.not_mem_nil hSigma
  · rw [hFold, List.mem_singleton] at hSigma
    rw [← hSigma] at hPart
    exact sigma_not_mem_decompose h hPart
  · have hFree := List.all_eq_true.mp spellingFacts.sigma entry hEntry
    rw [hFold] at hSigma
    rw [List.contains_iff_mem.mpr hSigma] at hFree
    cases hFree

end Characters

section Sigmas

def foldThenLowercase (term : String) : String :=
  String.ofList (lowercase (asciiFold term).toList)

/-- Renders the rest of a text whose part `before` has been read: characters are folded and
lower-cased one by one, except that a capital sigma is left to a rule about what stands on its two
sides. -/
def renderFrom (form : List Char → List Char → Char) (before : List Char) : List Char → List Char
  | [] => []
  | c :: rest =>
    (if c = 'Σ' then [form before rest] else (lowercaseChar c).flatMap foldChar) ++
      renderFrom form (before ++ [c]) rest

def sigmaInPlace (before after : List Char) : Char :=
  lowercaseSigma before.reverse after

def sigmaFolded (before after : List Char) : Char :=
  lowercaseSigma (foldChars before).reverse (foldChars after)

/-- Both forms of small sigma are stable. -/
theorem foldChars_lowercaseSigma (before after : List Char) :
    foldChars [lowercaseSigma before after] = [lowercaseSigma before after] := by
  rw [lowercaseSigma]
  split
  · rfl
  · rfl

/-- Lower-casing first: characters fold one by one and each sigma is decided among its neighbours as
they stand. -/
theorem foldChars_lowercaseFrom (before cs : List Char) :
    foldChars (lowercaseFrom before.reverse cs) = renderFrom sigmaInPlace before cs := by
  induction cs generalizing before with
  | nil => rfl
  | cons c rest ih =>
      have hRest := ih (before ++ [c])
      rw [List.reverse_append, List.reverse_singleton, List.singleton_append] at hRest
      rw [lowercaseFrom, foldChars_append, hRest, renderFrom]
      split
      · rw [foldChars_lowercaseSigma, sigmaInPlace]
      · rw [foldChars_eq_flatMap]

/-- Folding first: characters come out the same, and each sigma is decided among its folded
neighbours. -/
theorem lowercaseFrom_foldChars (before cs : List Char) :
    lowercaseFrom (foldChars before).reverse (foldChars cs) = renderFrom sigmaFolded before cs := by
  induction cs generalizing before with
  | nil => rfl
  | cons c rest ih =>
      have hCons : foldChars (c :: rest) = foldChar c ++ foldChars rest := by
        rw [foldChars_eq_flatMap, foldChars_eq_flatMap, List.flatMap_cons]
      have hRead : (foldChars (before ++ [c])).reverse =
          (foldChar c).reverse ++ (foldChars before).reverse := by
        rw [foldChars_append, foldChars_eq_flatMap [c], List.flatMap_singleton, List.reverse_append]
      -- What `c` folds to has no capital sigma, unless it is one: its neighbours do not matter.
      rw [hCons, lowercaseFrom_append, ← hRead, ih, renderFrom]
      split
      · rename_i hSigma
        have hFold : foldChar 'Σ' = ['Σ'] := by rfl
        rw [hSigma, hFold, lowercaseAmid, lowercaseAmid, if_pos rfl, List.append_nil,
          List.nil_append, sigmaFolded]
      · rename_i hOther
        rw [lowercaseAmid_of_not_mem (sigma_not_mem_foldChar hOther), lowercaseChar_foldChar]

/-- The normal form as an instance of the common renderer. -/
theorem toList_normalize_eq_renderFrom (term : String) :
    (normalize term).toList = renderFrom sigmaInPlace [] term.toList := by
  rw [toList_normalize]
  exact foldChars_lowercaseFrom [] term.toList

/-- The other order as an instance of the same renderer, with the other rule for sigma. -/
theorem toList_foldThenLowercase (term : String) :
    (foldThenLowercase term).toList = renderFrom sigmaFolded [] term.toList := by
  rw [foldThenLowercase, asciiFold, String.toList_ofList, String.toList_ofList]
  exact lowercaseFrom_foldChars [] term.toList

/-- Quantifying over the places of a character in a list unfolds into its head and the places in its
tail. -/
theorem forall_split_cons {x c : Char} {rest : List Char} {P : List Char → List Char → Prop} :
    (∀ xs ys, c :: rest = xs ++ x :: ys → P xs ys) ↔
      (c = x → P [] rest) ∧ ∀ xs ys, rest = xs ++ x :: ys → P (c :: xs) ys := by
  constructor
  · intro h
    refine ⟨?_, fun xs ys hSplit => h (c :: xs) ys (congrArg (c :: ·) hSplit)⟩
    rintro rfl
    exact h [] rest rfl
  · rintro ⟨hHead, hRest⟩ xs ys hSplit
    cases xs with
    | nil =>
        obtain ⟨hHere, rfl⟩ := List.cons.inj hSplit
        exact hHead hHere
    | cons y xs =>
        obtain ⟨rfl, hLater⟩ := List.cons.inj hSplit
        exact hRest xs ys hLater

/-- Two rules render one text exactly when they agree at every capital sigma in it. No agreement
elsewhere is needed. -/
theorem renderFrom_eq_iff {form form' : List Char → List Char → Char} {before cs : List Char} :
    renderFrom form before cs = renderFrom form' before cs ↔
      ∀ xs ys, cs = xs ++ 'Σ' :: ys → form (before ++ xs) ys = form' (before ++ xs) ys := by
  induction cs generalizing before with
  | nil => simp [renderFrom]
  | cons c rest ih =>
      rw [renderFrom, renderFrom, forall_split_cons]
      split
      · rename_i hSigma
        rw [List.singleton_append, List.singleton_append, List.cons.injEq, ih]
        simp [hSigma]
      · rename_i hOther
        rw [List.append_right_inj, ih]
        simp [hOther]

/-- Identifies the two forms of small sigma. -/
def regularSigma (c : Char) : Char :=
  if c = 'ς' then 'σ' else c

/-- Regular sigma is the common value of the two forms. -/
theorem regularSigma_lowercaseSigma (before after : List Char) :
    regularSigma (lowercaseSigma before after) = 'σ' := by
  rw [lowercaseSigma]
  split
  · rfl
  · rfl

/-- Any two rules render the same text up to the form of sigma. This needs no assumption on the
neighbours. -/
theorem map_regularSigma_renderFrom {form form' : List Char → List Char → Char}
    (hForms : ∀ before after,
      regularSigma (form before after) = regularSigma (form' before after))
    (before cs : List Char) :
    (renderFrom form before cs).map regularSigma =
      (renderFrom form' before cs).map regularSigma := by
  induction cs generalizing before with
  | nil => rfl
  | cons c rest ih =>
      rw [renderFrom, renderFrom, List.map_append, List.map_append, ih]
      split
      · rw [List.map_singleton, List.map_singleton, hForms]
      · rfl

end Sigmas

section Neighbours

/-- Characters that end the search for a letter as they stand, but not once folded: spacing marks,
which are dropped, and the two marks that become apostrophes. -/
def Disturbs (c : Char) : Prop :=
  spacingMarks.covers c = true ∨ c = '\u201A' ∨ c = '\u2032'

instance (c : Char) : Decidable (Disturbs c) :=
  inferInstanceAs (Decidable (_ ∨ _ ∨ _))

/-- Every other character with a spelling or a decomposition looks to a search as it does folded,
unless one of its parts disturbs. -/
structure NeighbourFacts : Prop where
  spelled : spellings.all (fun entry =>
    decide (Disturbs entry.1) || decide (LooksLike entry.2 [entry.1])) = true
  parted : decompositionRows.all (fun row =>
    row.parts.all (fun part => !decide (Disturbs (Char.ofNat part))) ||
      (decide (Disturbs (Char.ofNat row.code)) ||
        decide (LooksLike (foldChar (Char.ofNat row.code)) [Char.ofNat row.code]))) = true

/-- Checked on all spellings and all rows of decompositions by the kernel. -/
theorem neighbourFacts : NeighbourFacts where
  spelled := by decide +kernel
  parted := by decide +kernel

/-- A character without decomposition that does not disturb looks the same folded. -/
theorem looksLike_foldChar_of_whole {c : Char} (hWhole : decompose c = [c]) (h : ¬ Disturbs c) :
    LooksLike (foldChar c) [c] := by
  obtain ⟨hMark, hFold⟩ | ⟨_, _, hFold⟩ | ⟨entry, hEntry, rfl, hFold⟩ := foldChar_cases hWhole
  · have hUnspaced : isUnspacedMark c = true := by
      rw [isMark, Bool.or_eq_true] at hMark
      exact hMark.resolve_right fun hSpacing => h (.inl hSpacing)
    have hPassed := firstCase?_of_isUnspacedMark hUnspaced
    rw [hFold]
    exact ⟨hPassed.symm, hPassed.symm⟩
  · rw [hFold]
    exact .refl [c]
  · have hSpelled := List.all_eq_true.mp neighbourFacts.spelled entry hEntry
    rw [Bool.or_eq_true, decide_eq_true_eq, decide_eq_true_eq] at hSpelled
    rw [hFold]
    exact hSpelled.resolve_left h

/-- The same for every character, decomposed ones included. -/
theorem looksLike_foldChar {c : Char} (h : ¬ Disturbs c) : LooksLike (foldChar c) [c] := by
  cases hHangul : hangulParts? c.toNat with
  | some letters =>
      have hParts : decompose c = letters.map Char.ofNat := by
        rw [decompose, hHangul, Option.some_or]
      rw [foldChar_of_hangulParts? hHangul, ← hParts]
      exact looksLike_decompose c
  | none =>
      cases hListed : listedParts? c.toNat with
      | none => exact looksLike_foldChar_of_whole (decompose_eq_self hHangul hListed) h
      | some parts =>
          have hRow := List.all_eq_true.mp neighbourFacts.parted _ (mem_decompositionRows hListed)
          rw [Bool.or_eq_true, Bool.or_eq_true, decide_eq_true_eq, decide_eq_true_eq,
            Char.ofNat_toNat] at hRow
          -- A part may disturb although the whole does not; such rows have been checked one by one.
          rcases hRow with hCalm | hDisturbs | hLooks
          · have hParts : ∀ d ∈ decompose c, LooksLike (foldChar d) [d] := by
              intro d hd
              refine looksLike_foldChar_of_whole (decompose_closed c d hd) ?_
              rw [decompose, hHangul, hListed, Option.none_or] at hd
              obtain ⟨part, hPart, rfl⟩ := List.mem_map.mp hd
              simpa using List.all_eq_true.mp hCalm part hPart
            rw [← flatMap_foldChar_decompose]
            exact (LooksLike.flatMap hParts).trans (looksLike_decompose c)
          · exact absurd hDisturbs h
          · exact hLooks

/-- Folding a text without disturbing characters changes nothing that the search for a letter
sees. -/
theorem looksLike_foldChars {cs : List Char} (h : ∀ c ∈ cs, ¬ Disturbs c) :
    LooksLike (foldChars cs) cs := by
  rw [foldChars_eq_flatMap]
  exact .flatMap fun c hc => looksLike_foldChar (h c hc)

/-- Without disturbing characters on either side both rules give a sigma the same form. -/
theorem sigmaFolded_eq_sigmaInPlace {before after : List Char}
    (hBefore : ∀ c ∈ before, ¬ Disturbs c) (hAfter : ∀ c ∈ after, ¬ Disturbs c) :
    sigmaFolded before after = sigmaInPlace before after := by
  rw [sigmaFolded, sigmaInPlace, lowercaseSigma, lowercaseSigma,
    facesLetter_congr (looksLike_foldChars hBefore).behind,
    facesLetter_congr (looksLike_foldChars hAfter).ahead]

end Neighbours

/-- The two orders agree on a term exactly when the rules agree at each of its capital sigmas. -/
theorem foldThenLowercase_eq_normalize_iff {term : String} :
    foldThenLowercase term = normalize term ↔
      ∀ before after, term.toList = before ++ 'Σ' :: after →
        sigmaFolded before after = sigmaInPlace before after := by
  rw [← String.toList_inj, toList_foldThenLowercase, toList_normalize_eq_renderFrom,
    renderFrom_eq_iff]
  rfl

/-- The two orders agree up to the forms of sigma. They agree exactly when every capital sigma has
one form among its neighbours and among its folded neighbours, in particular for terms without
capital sigma or without a disturbing character. -/
theorem fold_before_lowercase (term : String) :
    (foldThenLowercase term).toList.map regularSigma = (normalize term).toList.map regularSigma ∧
    (foldThenLowercase term = normalize term ↔
      ∀ before after, term.toList = before ++ 'Σ' :: after →
        sigmaFolded before after = sigmaInPlace before after) ∧
    ('Σ' ∉ term.toList ∨ (∀ c ∈ term.toList, ¬ Disturbs c) →
      foldThenLowercase term = normalize term) := by
  refine ⟨?_, foldThenLowercase_eq_normalize_iff, ?_⟩
  · rw [toList_foldThenLowercase, toList_normalize_eq_renderFrom]
    apply map_regularSigma_renderFrom
    intro before after
    rw [sigmaFolded, sigmaInPlace, regularSigma_lowercaseSigma, regularSigma_lowercaseSigma]
  · intro hCalm
    rw [foldThenLowercase_eq_normalize_iff]
    intro before after hSplit
    rw [hSplit] at hCalm
    rcases hCalm with hNone | hCalm
    · exact absurd (List.mem_append_right before List.mem_cons_self) hNone
    · apply sigmaFolded_eq_sigmaInPlace
      · exact fun c hc => hCalm c (List.mem_append_left _ hc)
      · exact fun c hc => hCalm c (List.mem_append_right _ (List.mem_cons_of_mem _ hc))

/-- A final sigma inside typographic quotation marks, with its accent written separately, comes out
final in both orders. -/
theorem quoted_word_either_order :
    (∀ c ∈ "‘Ο\u0301ΔΟΣ’".toList, ¬ Disturbs c) ∧
      foldThenLowercase "‘Ο\u0301ΔΟΣ’" = normalize "‘Ο\u0301ΔΟΣ’" ∧
      normalize "‘Ο\u0301ΔΟΣ’" = "'οδος'" := by
  have hCalm : ∀ c ∈ "‘Ο\u0301ΔΟΣ’".toList, ¬ Disturbs c := by
    have hAll : ("‘Ο\u0301ΔΟΣ’".toList.all fun c => decide (¬ Disturbs c)) = true := by rfl
    simpa only [List.all_eq_true, decide_eq_true_eq] using hAll
  exact ⟨hCalm, (fold_before_lowercase "‘Ο\u0301ΔΟΣ’").2.2 (.inr hCalm), by rfl⟩

/-- A low quotation mark ends the context of a sigma, and the apostrophe it folds to does not: the
two orders differ in the form of the sigma. -/
theorem orders_differ_behind_low_quotation_mark :
    normalize "Α\u201AΣ" = "α'σ" ∧ foldThenLowercase "Α\u201AΣ" = "α'ς" ∧
      ¬ ∀ term, foldThenLowercase term = normalize term := by
  have hNormal : normalize "Α\u201AΣ" = "α'σ" := by rfl
  have hFolded : foldThenLowercase "Α\u201AΣ" = "α'ς" := by rfl
  refine ⟨hNormal, hFolded, fun hAll => ?_⟩
  have hSame := hAll "Α\u201AΣ"
  rw [hNormal, hFolded] at hSame
  exact absurd hSame (by decide)

end Term

end EntitySearch
