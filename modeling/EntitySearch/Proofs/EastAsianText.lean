import EntitySearch.Proofs.TermNormalForm
import Mathlib.Data.List.Basic

/-! What becomes of ideographs, kana and Hangul when a text is folded. They have no plain
counterparts, but some of them have parts: a syllable is taken apart into its letters, and a voiced
kana loses its mark. All others stay as they are. -/
namespace EntitySearch.Term

open EntitySearch.Unicode

/-- Kana with a voicing mark, each with its plain kana. -/
def voicedKana : List (Char × Char) := [
  ('が', 'か'), ('ぎ', 'き'), ('ぐ', 'く'), ('げ', 'け'), ('ご', 'こ'),
  ('ざ', 'さ'), ('じ', 'し'), ('ず', 'す'), ('ぜ', 'せ'), ('ぞ', 'そ'),
  ('だ', 'た'), ('ぢ', 'ち'), ('づ', 'つ'), ('で', 'て'), ('ど', 'と'),
  ('ば', 'は'), ('び', 'ひ'), ('ぶ', 'ふ'), ('べ', 'へ'), ('ぼ', 'ほ'),
  ('ぱ', 'は'), ('ぴ', 'ひ'), ('ぷ', 'ふ'), ('ぺ', 'へ'), ('ぽ', 'ほ'), ('ゔ', 'う'),
  ('ガ', 'カ'), ('ギ', 'キ'), ('グ', 'ク'), ('ゲ', 'ケ'), ('ゴ', 'コ'),
  ('ザ', 'サ'), ('ジ', 'シ'), ('ズ', 'ス'), ('ゼ', 'セ'), ('ゾ', 'ソ'),
  ('ダ', 'タ'), ('ヂ', 'チ'), ('ヅ', 'ツ'), ('デ', 'テ'), ('ド', 'ト'),
  ('バ', 'ハ'), ('ビ', 'ヒ'), ('ブ', 'フ'), ('ベ', 'ヘ'), ('ボ', 'ホ'),
  ('パ', 'ハ'), ('ピ', 'ヒ'), ('プ', 'フ'), ('ペ', 'ヘ'), ('ポ', 'ホ'), ('ヴ', 'ウ'),
  ('ヷ', 'ワ'), ('ヸ', 'ヰ'), ('ヹ', 'ヱ'), ('ヺ', 'ヲ')]

/-- Conjoining letters of a Hangul syllable, the plain kana of a voiced one, and any other character
itself. -/
def bare (c : Char) : List Char :=
  match hangulParts? c.toNat with
  | some letters => letters.map Char.ofNat
  | none => [(voicedKana.lookup c).getD c]

/-- Hiragana, katakana, ideographs and Hangul syllables. -/
inductive EastAsian (c : Char) : Prop where
  | hiragana (first : 0x3041 ≤ c.toNat) (last : c.toNat ≤ 0x3096)
  | katakana (first : 0x30A1 ≤ c.toNat) (last : c.toNat ≤ 0x30FA)
  | ideograph (first : 0x4E00 ≤ c.toNat) (last : c.toNat ≤ 0x9FFF)
  | syllable (first : 0xAC00 ≤ c.toNat) (last : c.toNat ≤ 0xD7A3)

instance (c : Char) : Decidable (EastAsian c) :=
  decidable_of_iff ((0x3041 ≤ c.toNat ∧ c.toNat ≤ 0x3096) ∨ (0x30A1 ≤ c.toNat ∧ c.toNat ≤ 0x30FA) ∨
      (0x4E00 ≤ c.toNat ∧ c.toNat ≤ 0x9FFF) ∨ (0xAC00 ≤ c.toNat ∧ c.toNat ≤ 0xD7A3)) <| by
    constructor
    · rintro (⟨first, last⟩ | ⟨first, last⟩ | ⟨first, last⟩ | ⟨first, last⟩)
      · exact .hiragana first last
      · exact .katakana first last
      · exact .ideograph first last
      · exact .syllable first last
    · intro h
      cases h <;> omega

/-- Spans of the four scripts and of conjoining letters, on which facts are checked. -/
def eastAsianSpans : List Span :=
  [⟨0x3041, 0x3096⟩, ⟨0x30A1, 0x30FA⟩, ⟨0x4E00, 0x9FFF⟩, ⟨0xAC00, 0xD7A3⟩, ⟨0x1100, 0x11FF⟩]

/-- Facts about these spans: no character in them has case, is a mark or has a plain spelling, and
only voiced kana are listed with a decomposition. -/
structure EastAsianFacts : Prop where
  lowercase : eastAsianSpans.all (lowercaseRuns.avoids LowercaseRun.toSpan) = true
  unspaced : eastAsianSpans.all (unspacedMarks.avoids id) = true
  spacing : eastAsianSpans.all (spacingMarks.avoids id) = true
  unspelled : spellings.all (fun entry =>
    eastAsianSpans.all fun span => !span.contains entry.1.toNat) = true
  whole : decompositionRows.all (fun row =>
    (eastAsianSpans.all fun span => !span.contains row.code) ||
      (voicedKana.lookup (Char.ofNat row.code)).isSome) = true
  voiced : voicedKana.all (fun pair => foldChar pair.1 == [pair.2] && pair.1 != pair.2) = true

/-- Checked on the tables by the kernel, span by span rather than character by character. -/
theorem eastAsianFacts : EastAsianFacts where
  lowercase := by decide +kernel
  unspaced := by decide +kernel
  spacing := by decide +kernel
  unspelled := by decide +kernel
  whole := by decide +kernel
  voiced := by decide +kernel

section Spans

variable {c : Char} {span : Span}

/-- No character of these spans has a lower case, so lower-casing leaves the scripts alone. -/
theorem lowercaseChar_of_span (hSpan : span ∈ eastAsianSpans) (hFirst : span.first ≤ c.toNat)
    (hLast : c.toNat ≤ span.last) : lowercaseChar c = [c] := by
  apply lowercaseChar_eq_self
  · rintro rfl
    have hAbove : ∀ span ∈ eastAsianSpans, 0x130 < span.first := by decide
    exact absurd hFirst (Nat.not_le_of_gt (hAbove span hSpan))
  · exact Table.not_contains_of_avoids (List.all_eq_true.mp eastAsianFacts.lowercase span hSpan)
      hFirst hLast

/-- The spans hold no marks. The voicing marks of kana lie outside them. -/
theorem isMark_of_span (hSpan : span ∈ eastAsianSpans) (hFirst : span.first ≤ c.toNat)
    (hLast : c.toNat ≤ span.last) : isMark c = false :=
  isMark_of_avoids (List.all_eq_true.mp eastAsianFacts.unspaced span hSpan)
    (List.all_eq_true.mp eastAsianFacts.spacing span hSpan) hFirst hLast

theorem contains_of_span (hFirst : span.first ≤ c.toNat) (hLast : c.toNat ≤ span.last) :
    (!span.contains c.toNat) = false := by
  rw [Bool.not_eq_false', Span.contains, Bool.and_eq_true, Nat.ble_eq, Nat.ble_eq]
  exact ⟨hFirst, hLast⟩

theorem lookup_spellings_of_span (hSpan : span ∈ eastAsianSpans) (hFirst : span.first ≤ c.toNat)
    (hLast : c.toNat ≤ span.last) : spellings.lookup c = none := by
  cases hFound : spellings.lookup c with
  | none => rfl
  | some spelling =>
      have hEntry := List.all_eq_true.mp eastAsianFacts.unspelled _ (mem_of_lookup_eq_some hFound)
      have hOutside := List.all_eq_true.mp hEntry span hSpan
      rw [contains_of_span hFirst hLast] at hOutside
      cases hOutside

/-- A character of the spans without decomposition is fixed by lower-casing and folding. -/
theorem stable_of_span (hSpan : span ∈ eastAsianSpans) (hFirst : span.first ≤ c.toNat)
    (hLast : c.toNat ≤ span.last) (hWhole : decompose c = [c]) : Stable c where
  unmarked := isMark_of_span hSpan hFirst hLast
  whole := hWhole
  lower := lowercaseChar_of_span hSpan hFirst hLast
  plain := lookup_spellings_of_span hSpan hFirst hLast

/-- A character of the spans that is neither a syllable nor a voiced kana has no decomposition. -/
theorem decompose_of_span (hSpan : span ∈ eastAsianSpans) (hFirst : span.first ≤ c.toNat)
    (hLast : c.toNat ≤ span.last) (hHangul : hangulParts? c.toNat = none)
    (hUnvoiced : voicedKana.lookup c = none) : decompose c = [c] := by
  apply decompose_eq_self hHangul
  cases hListed : listedParts? c.toNat with
  | none => rfl
  | some parts =>
      have hRow := List.all_eq_true.mp eastAsianFacts.whole _ (mem_decompositionRows hListed)
      rw [Char.ofNat_toNat, hUnvoiced, Option.isSome_none, Bool.or_false] at hRow
      have hOutside := List.all_eq_true.mp hRow span hSpan
      rw [contains_of_span hFirst hLast] at hOutside
      cases hOutside

end Spans

/-- Each row pairs a voiced kana with what it folds to, a different kana. -/
theorem of_mem_voicedKana {voiced plain : Char} (h : (voiced, plain) ∈ voicedKana) :
    foldChar voiced = [plain] ∧ voiced ≠ plain := by
  have hRow := List.all_eq_true.mp eastAsianFacts.voiced _ h
  rwa [Bool.and_eq_true, beq_iff_eq, bne_iff_ne] at hRow

/-- If a character decomposes into stable characters, folding returns its decomposition. -/
theorem foldChar_of_stable_parts {c : Char} (h : ∀ d ∈ decompose c, Stable d) :
    foldChar c = decompose c := by
  have hUnmarked : (decompose c).filter (!isMark ·) = decompose c := by
    rw [List.filter_eq_self]
    intro d hd
    rw [(h d hd).unmarked]
    rfl
  rw [foldChar, hUnmarked]
  apply flatMap_eq_self
  intro d hd
  rw [spell, (h d hd).plain, Option.getD_none]

/-- The arithmetic rule applies to the block of syllables and to no other code point. -/
theorem hangulParts?_eq_none_iff {code : Nat} :
    hangulParts? code = none ↔ ¬ (0xAC00 ≤ code ∧ code ≤ 0xD7A3) := by
  simp [hangulParts?]

theorem toNat_letter {letter : Nat} (hFirst : 0x1100 ≤ letter) (hLast : letter ≤ 0x11FF) :
    (Char.ofNat letter).toNat = letter :=
  toNat_ofNat_of_isQuiet (isQuiet_of_mem ⟨0x1100, 0x11FF⟩ (by simp [quietSpans]) hFirst hLast)

/-- A Hangul syllable folds to its two or three letters. -/
theorem foldChar_of_hangulParts? {c : Char} {letters : List Nat}
    (h : hangulParts? c.toNat = some letters) : foldChar c = letters.map Char.ofNat := by
  have hParts : decompose c = letters.map Char.ofNat := by
    rw [decompose, h, Option.some_or]
  rw [← hParts]
  apply foldChar_of_stable_parts
  rw [hParts, List.forall_mem_map]
  intro letter hLetter
  obtain ⟨hFirst, hLast⟩ := letter_of_hangulParts? h letter hLetter
  have hSpan : ⟨0x1100, 0x11FF⟩ ∈ eastAsianSpans := by simp [eastAsianSpans]
  have hCode := toNat_letter hFirst hLast
  exact stable_of_span hSpan (by rwa [hCode]) (by rwa [hCode]) (decompose_letter hFirst hLast).2

/-- The scripts lie inside the spans that the facts are checked on. -/
theorem EastAsian.exists_span {c : Char} (h : EastAsian c) :
    ∃ span ∈ eastAsianSpans, span.first ≤ c.toNat ∧ c.toNat ≤ span.last := by
  cases h with
  | hiragana first last => exact ⟨⟨0x3041, 0x3096⟩, by simp [eastAsianSpans], first, last⟩
  | katakana first last => exact ⟨⟨0x30A1, 0x30FA⟩, by simp [eastAsianSpans], first, last⟩
  | ideograph first last => exact ⟨⟨0x4E00, 0x9FFF⟩, by simp [eastAsianSpans], first, last⟩
  | syllable first last => exact ⟨⟨0xAC00, 0xD7A3⟩, by simp [eastAsianSpans], first, last⟩

theorem EastAsian.lowercaseChar_eq {c : Char} (h : EastAsian c) : lowercaseChar c = [c] := by
  obtain ⟨span, hSpan, hFirst, hLast⟩ := h.exists_span
  exact lowercaseChar_of_span hSpan hFirst hLast

/-- Folding one character of these scripts gives its bare form, whatever its neighbours are. -/
theorem EastAsian.foldChar_eq {c : Char} (h : EastAsian c) : foldChar c = bare c := by
  obtain ⟨span, hSpan, hFirst, hLast⟩ := h.exists_span
  cases hLetters : hangulParts? c.toNat with
  | some letters => rw [foldChar_of_hangulParts? hLetters, bare, hLetters]
  | none =>
      rw [bare, hLetters]
      cases hFound : voicedKana.lookup c with
      | some plain => exact (of_mem_voicedKana (mem_of_lookup_eq_some hFound)).1
      | none =>
          have hWhole := decompose_of_span hSpan hFirst hLast hLetters hFound
          exact (stable_of_span hSpan hFirst hLast hWhole).foldChar

/-- No character is bared to nothing. -/
theorem bare_ne_nil (c : Char) : bare c ≠ [] := by
  rw [bare]
  split
  · rename_i letters hLetters
    have hParts := decompose_ne_nil c
    rwa [decompose, hLetters, Option.some_or] at hParts
  · exact List.cons_ne_nil _ _

/-- The characters that pass unchanged are exactly those that are neither Hangul syllables nor
voiced kana. -/
theorem bare_eq_self_iff {c : Char} :
    bare c = [c] ↔ ¬ (0xAC00 ≤ c.toNat ∧ c.toNat ≤ 0xD7A3) ∧ c ∉ voicedKana.map (·.1) := by
  rw [← hangulParts?_eq_none_iff, bare]
  cases hLetters : hangulParts? c.toNat with
  | some letters =>
      refine iff_of_false ?_ (by simp)
      intro hSelf
      have hMem : c ∈ letters.map Char.ofNat := by
        dsimp only at hSelf
        rw [hSelf]
        exact List.mem_singleton_self c
      obtain ⟨letter, hLetter, rfl⟩ := List.mem_map.mp hMem
      -- A letter is no syllable, so it has no letters of its own.
      obtain ⟨hFirst, hLast⟩ := letter_of_hangulParts? hLetters letter hLetter
      rw [toNat_letter hFirst hLast, hangulParts?_eq_none_iff.mpr (by omega)] at hLetters
      cases hLetters
  | none =>
      cases hFound : voicedKana.lookup c with
      | none =>
          refine iff_of_true rfl ⟨rfl, ?_⟩
          intro hMem
          obtain ⟨pair, hPair, rfl⟩ := List.mem_map.mp hMem
          simpa using List.lookup_eq_none_iff.mp hFound pair hPair
      | some plain =>
          have hMem := mem_of_lookup_eq_some hFound
          refine iff_of_false ?_ ?_
          · intro hSelf
            exact (of_mem_voicedKana hMem).2 (List.singleton_inj.mp hSelf).symm
          · rintro ⟨_, hNot⟩
            exact hNot (List.mem_map_of_mem hMem)

/-- On texts of these scripts folding acts character by character, with or without lower-casing
before it. A text passes unchanged exactly when it has neither a Hangul syllable nor a voiced
kana. -/
theorem fold_eastAsian {text : String} (h : ∀ c ∈ text.toList, EastAsian c) :
    normalize text = asciiFold text ∧ asciiFold text = String.ofList (text.toList.flatMap bare) ∧
      (asciiFold text = text ↔ ∀ c ∈ text.toList,
        ¬ (0xAC00 ≤ c.toNat ∧ c.toNat ≤ 0xD7A3) ∧ c ∉ voicedKana.map (·.1)) := by
  have hLower : lowercase text.toList = text.toList :=
    lowercaseFrom_eq_self (fun c hc => (h c hc).lowercaseChar_eq) []
  have hFold : foldChars text.toList = text.toList.flatMap bare := by
    rw [foldChars_eq_flatMap]
    exact List.flatMap_congr fun c hc => (h c hc).foldChar_eq
  refine ⟨by rw [normalize, hLower, String.ofList_toList], by rw [asciiFold, hFold], ?_⟩
  have hUnchanged : asciiFold text = text ↔ text.toList.flatMap bare = text.toList := by
    rw [asciiFold, hFold, ← String.toList_inj, String.toList_ofList]
  rw [hUnchanged]
  constructor
  · intro hBare c hc
    exact bare_eq_self_iff.mp (eq_singleton_of_flatMap_eq_self bare_ne_nil hBare c hc)
  · intro hPlain
    exact flatMap_eq_self fun c hc => bare_eq_self_iff.mpr (hPlain c hc)

/-- Ideographs pass unchanged, while voiced katakana in the same text lose their marks. -/
theorem guide_folded :
    (∀ c ∈ "東京ガイド".toList, EastAsian c) ∧ asciiFold "東京" = "東京" ∧
      normalize "東京ガイド" = "東京カイト" := by
  have hScripts : ∀ c ∈ "東京ガイド".toList, EastAsian c := by
    have hAll : ("東京ガイド".toList.all fun c => decide (EastAsian c)) = true := by rfl
    simpa only [List.all_eq_true, decide_eq_true_eq] using hAll
  have hName : ∀ c ∈ "東京".toList, EastAsian c := fun c hc =>
    hScripts c ((List.prefix_append "東京".toList "ガイド".toList).subset hc)
  refine ⟨hScripts, (fold_eastAsian hName).2.2.mpr ?_, ?_⟩
  · have hPlain : ("東京".toList.all fun c =>
        decide (¬ (0xAC00 ≤ c.toNat ∧ c.toNat ≤ 0xD7A3) ∧ c ∉ voicedKana.map (·.1))) = true := by rfl
    simpa only [List.all_eq_true, decide_eq_true_eq] using hPlain
  · obtain ⟨hNormalize, hBare, _⟩ := fold_eastAsian hScripts
    rw [hNormalize, hBare]
    rfl

/-- One syllable and one voiced kana, neither of which passes unchanged. -/
theorem syllable_and_voiced_changed :
    (∀ c ∈ "한が".toList, EastAsian c) ∧ asciiFold "한が" = "\u1112\u1161\u11ABか" ∧
      normalize "한が" = "\u1112\u1161\u11ABか" ∧ "\u1112\u1161\u11ABか" ≠ "한が" := by
  have hScripts : ∀ c ∈ "한が".toList, EastAsian c := by
    have hAll : ("한が".toList.all fun c => decide (EastAsian c)) = true := by rfl
    simpa only [List.all_eq_true, decide_eq_true_eq] using hAll
  exact ⟨hScripts, by rfl, by rfl, by decide⟩

end EntitySearch.Term
