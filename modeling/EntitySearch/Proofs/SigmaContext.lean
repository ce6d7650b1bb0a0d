import EntitySearch.Proofs.CharacterProperties

/-! What a capital sigma sees of the text around it: to either side only whether the nearest
character that counts is a letter with case. So a part of a text acts on its surroundings through
its two ends alone, and a character acts like its canonical parts. -/
namespace EntitySearch

namespace Unicode

section Sigma

/-- Case of the first character that counts in the search for a letter, if any does. -/
def firstCase? (cs : List Char) : Option Bool :=
  (cs.find? (!isCaseIgnorable ·)).map isCased

/-- The search reads from left to right and stops at the first character that counts. -/
theorem firstCase?_append (xs ys : List Char) :
    firstCase? (xs ++ ys) = (firstCase? xs).or (firstCase? ys) := by
  rw [firstCase?, List.find?_append]
  cases hFound : xs.find? (!isCaseIgnorable ·) with
  | none => simp [firstCase?, hFound]
  | some c => simp [firstCase?, hFound]

theorem firstCase?_cons (c : Char) (cs : List Char) :
    firstCase? (c :: cs) = (firstCase? [c]).or (firstCase? cs) :=
  firstCase?_append [c] cs

/-- Facing a letter is finding case at the first character that counts. A text without such a
character faces none. -/
theorem facesLetter_eq (cs : List Char) : facesLetter cs = (firstCase? cs).getD false := by
  induction cs with
  | nil => rfl
  | cons c rest ih =>
      cases hIgnored : isCaseIgnorable c with
      | true =>
          rw [facesLetter, List.dropWhile_cons_of_pos hIgnored, ← facesLetter, ih, firstCase?,
            firstCase?, List.find?_cons_of_neg (by simp [hIgnored])]
      | false =>
          rw [facesLetter, List.dropWhile_cons_of_neg (by simp [hIgnored]), firstCase?,
            List.find?_cons_of_pos (by simp [hIgnored])]
          rfl

/-- Lower case of a part of a text between two others. The text before it is read backwards. -/
def lowercaseAmid (before after : List Char) : List Char → List Char
  | [] => []
  | c :: rest =>
    (if c = 'Σ' then [lowercaseSigma before (rest ++ after)] else lowercaseChar c) ++
      lowercaseAmid (c :: before) after rest

/-- Lower-casing a concatenation lower-cases each part in the context of the other. -/
theorem lowercaseFrom_append (before xs ys : List Char) :
    lowercaseFrom before (xs ++ ys) =
      lowercaseAmid before ys xs ++ lowercaseFrom (xs.reverse ++ before) ys := by
  induction xs generalizing before with
  | nil => rfl
  | cons c rest ih =>
      rw [List.cons_append, lowercaseFrom, lowercaseAmid, ih, List.append_assoc,
        List.reverse_cons, List.append_assoc, List.singleton_append]

theorem facesLetter_congr {xs ys : List Char} (h : firstCase? xs = firstCase? ys) :
    facesLetter xs = facesLetter ys := by
  rw [facesLetter_eq, facesLetter_eq, h]

/-- The search passes a prefix exactly when nothing in it counts. -/
theorem facesLetter_append {ys ys' : List Char} (h : facesLetter ys = facesLetter ys')
    (xs : List Char) : facesLetter (xs ++ ys) = facesLetter (xs ++ ys') := by
  rw [facesLetter_eq ys, facesLetter_eq ys'] at h
  rw [facesLetter_eq, facesLetter_eq, firstCase?_append, firstCase?_append]
  cases firstCase? xs with
  | none => exact h
  | some cased => rfl

/-- The text behind a part matters only through whether it faces a letter. -/
theorem lowercaseAmid_congr {after after' : List Char} (h : facesLetter after = facesLetter after')
    (before xs : List Char) : lowercaseAmid before after xs = lowercaseAmid before after' xs := by
  induction xs generalizing before with
  | nil => rfl
  | cons c rest ih =>
      rw [lowercaseAmid, lowercaseAmid, ih, lowercaseSigma, lowercaseSigma,
        facesLetter_append h rest]

/-- The text before a part matters only through whether it faces a letter, read backwards. -/
theorem lowercaseFrom_congr {before before' : List Char}
    (h : facesLetter before = facesLetter before') (cs : List Char) :
    lowercaseFrom before cs = lowercaseFrom before' cs := by
  induction cs generalizing before before' with
  | nil => rfl
  | cons c rest ih =>
      have hNext : facesLetter (c :: before) = facesLetter (c :: before') :=
        facesLetter_append h [c]
      rw [lowercaseFrom, lowercaseFrom, ih hNext, lowercaseSigma, lowercaseSigma, h]

theorem lowercaseAmid_nil (before xs : List Char) :
    lowercaseAmid before [] xs = lowercaseFrom before xs := by
  have hWhole := lowercaseFrom_append before xs []
  rw [List.append_nil, lowercaseFrom, List.append_nil] at hWhole
  exact hWhole.symm

/-- Without capital sigma the context is irrelevant. -/
theorem lowercaseAmid_of_not_mem {xs : List Char} (h : 'Σ' ∉ xs) (before after : List Char) :
    lowercaseAmid before after xs = xs.flatMap lowercaseChar := by
  induction xs generalizing before with
  | nil => rfl
  | cons c rest ih =>
      rw [List.mem_cons, not_or] at h
      rw [lowercaseAmid, if_neg (Ne.symm h.1), ih h.2, List.flatMap_cons]

/-- Equal context from either side, for searches that begin before or behind the pieces. -/
structure LooksLike (xs ys : List Char) : Prop where
  ahead : firstCase? xs = firstCase? ys
  behind : firstCase? xs.reverse = firstCase? ys.reverse

instance (xs ys : List Char) : Decidable (LooksLike xs ys) :=
  decidable_of_iff (firstCase? xs = firstCase? ys ∧ firstCase? xs.reverse = firstCase? ys.reverse)
    ⟨fun ⟨ahead, behind⟩ => ⟨ahead, behind⟩, fun h => ⟨h.ahead, h.behind⟩⟩

namespace LooksLike

variable {xs ys zs us : List Char}

theorem refl (xs : List Char) : LooksLike xs xs :=
  ⟨rfl, rfl⟩

theorem symm (h : LooksLike xs ys) : LooksLike ys xs :=
  ⟨h.ahead.symm, h.behind.symm⟩

theorem trans (h : LooksLike xs ys) (h' : LooksLike ys zs) : LooksLike xs zs :=
  ⟨h.ahead.trans h'.ahead, h.behind.trans h'.behind⟩

/-- Looking alike is a congruence for concatenation, from either side. -/
theorem append (h : LooksLike xs ys) (h' : LooksLike zs us) :
    LooksLike (xs ++ zs) (ys ++ us) where
  ahead := by rw [firstCase?_append, firstCase?_append, h.ahead, h'.ahead]
  behind := by
    rw [List.reverse_append, List.reverse_append, firstCase?_append, firstCase?_append, h.behind,
      h'.behind]

/-- Replacing each character by a text that looks like it gives a text that looks alike. -/
theorem flatMap {f : Char → List Char} {cs : List Char} (h : ∀ c ∈ cs, LooksLike (f c) [c]) :
    LooksLike (cs.flatMap f) cs := by
  induction cs with
  | nil => exact refl []
  | cons c rest ih =>
      obtain ⟨hc, hRest⟩ := List.forall_mem_cons.mp h
      exact hc.append (ih hRest)

end LooksLike

end Sigma

section Parts

/-- Facts checked on all rows: a decomposition looks like its character from both sides, and none
contains a capital sigma. -/
structure PartFacts : Prop where
  firstCase : decompositionRows.all (fun row =>
    isQuiet row.code && row.parts.all isQuiet ||
      firstCase? (row.parts.map Char.ofNat) == firstCase? [Char.ofNat row.code] &&
        firstCase? (row.parts.map Char.ofNat).reverse == firstCase? [Char.ofNat row.code]) = true
  sigma : decompositionRows.all (fun row => !(row.parts.map Char.ofNat).contains 'Σ') = true

/-- Checked on all rows of the table of decompositions by the kernel. -/
theorem partFacts : PartFacts where
  firstCase := by decide +kernel
  sigma := by decide +kernel

theorem firstCase?_of_isQuiet {cs : List Char} (hNonempty : cs ≠ [])
    (h : ∀ c ∈ cs, isQuiet c.toNat = true) : firstCase? cs = some false := by
  obtain ⟨c, rest, rfl⟩ := List.exists_cons_of_ne_nil hNonempty
  have hQuiet := h c List.mem_cons_self
  rw [firstCase?, List.find?_cons_of_pos (by simp [isCaseIgnorable_of_isQuiet hQuiet]),
    Option.map_some, isCased_of_isQuiet hQuiet]

/-- A character and its decomposition look alike from both sides, Hangul syllables included. -/
theorem looksLike_decompose (c : Char) : LooksLike (decompose c) [c] := by
  have hQuiet : isQuiet c.toNat = true → (∀ d ∈ decompose c, isQuiet d.toNat = true) →
      LooksLike (decompose c) [c] := by
    intro hChar hParts
    have hCase := firstCase?_of_isQuiet (List.cons_ne_nil c []) (by simpa using hChar)
    constructor
    · rw [firstCase?_of_isQuiet (decompose_ne_nil c) hParts, hCase]
    · rw [firstCase?_of_isQuiet (mt List.reverse_eq_nil_iff.mp (decompose_ne_nil c))
        fun d hd => hParts d (List.mem_reverse.mp hd), List.reverse_singleton, hCase]
  obtain hSelf | ⟨hChar, hLetters⟩ | ⟨row, hRow, hCode, hParts⟩ := decompose_cases c
  · rw [hSelf]
    exact .refl [c]
  · exact hQuiet hChar fun d hd => (hLetters d hd).1
  · have hRow := List.all_eq_true.mp partFacts.firstCase row hRow
    rw [Bool.or_eq_true, Bool.and_eq_true, Bool.and_eq_true] at hRow
    rcases hRow with ⟨hChar, hAll⟩ | ⟨hAhead, hBehind⟩
    · refine hQuiet (hCode ▸ hChar) ?_
      rw [hParts, List.forall_mem_map]
      intro part hPart
      have hPart := List.all_eq_true.mp hAll part hPart
      rwa [toNat_ofNat_of_isQuiet hPart]
    · rw [hCode, Char.ofNat_toNat] at hAhead hBehind
      rw [hParts]
      exact ⟨eq_of_beq hAhead, eq_of_beq hBehind⟩

/-- Capital sigma occurs in no decomposition but its own. -/
theorem sigma_not_mem_decompose {c : Char} (h : c ≠ 'Σ') : 'Σ' ∉ decompose c := by
  intro hSigma
  obtain hSelf | ⟨_, hLetters⟩ | ⟨row, hRow, _, hParts⟩ := decompose_cases c
  · rw [hSelf, List.mem_singleton] at hSigma
    exact h hSigma.symm
  · exact absurd (hLetters 'Σ' hSigma).1 (by decide)
  · have hRow := List.all_eq_true.mp partFacts.sigma row hRow
    rw [hParts] at hSigma
    rw [List.contains_iff_mem.mpr hSigma] at hRow
    cases hRow

theorem firstCase?_of_isUnspacedMark {c : Char} (h : isUnspacedMark c = true) :
    firstCase? [c] = none := by
  rw [firstCase?, List.find?_cons_of_neg (by simp [isCaseIgnorable_of_isUnspacedMark h])]
  rfl

/-- A mark does not count, or it counts as uncased. -/
theorem firstCase?_of_isMark {c : Char} (h : isMark c = true) :
    firstCase? [c] = none ∨ firstCase? [c] = some false := by
  cases hIgnored : isCaseIgnorable c with
  | true =>
      left
      rw [firstCase?, List.find?_cons_of_neg (by simp [hIgnored])]
      rfl
  | false =>
      right
      rw [firstCase?, List.find?_cons_of_pos (by simp [hIgnored]), Option.map_some,
        isCased_of_isMark h hIgnored]

end Parts

end Unicode

end EntitySearch
