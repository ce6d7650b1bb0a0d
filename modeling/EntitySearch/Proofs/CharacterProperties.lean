import EntitySearch.Unicode.Canonical
import EntitySearch.Unicode.Lowercase
import EntitySearch.Unicode.Mark

/-! How lower case, canonical decomposition and marks bear on one another, for every character. A
character that no table speaks of has none of these properties, so each fact is checked on the rows
of one table and carried over to all characters. -/
namespace EntitySearch.Unicode

def Span.all (span : Span) (p : Char → Bool) : Bool :=
  (List.range (span.last + 1 - span.first)).all fun k => p (Char.ofNat (span.first + k))

theorem Span.of_all {span : Span} {p : Char → Bool} {c : Char} (h : span.all p = true)
    (hFirst : span.first ≤ c.toNat) (hLast : c.toNat ≤ span.last) : p c = true := by
  have hMem : c.toNat - span.first ∈ List.range (span.last + 1 - span.first) := by
    rw [List.mem_range]
    omega
  have hHolds := List.all_eq_true.mp h _ hMem
  rwa [Nat.add_sub_cancel' hFirst, Char.ofNat_toNat] at hHolds

/-- The spans have no code point in common. -/
def Span.apart (s t : Span) : Bool :=
  s.last.blt t.first || t.last.blt s.first

/-- Spans that are apart share no code point, so one lookup in the one excludes the other. -/
theorem Span.not_contains_of_apart {s t : Span} {code : Nat} (h : s.apart t = true)
    (hFirst : t.first ≤ code) (hLast : code ≤ t.last) : s.contains code = false := by
  rw [Span.apart, Bool.or_eq_true, Nat.blt_eq, Nat.blt_eq] at h
  rw [← Bool.not_eq_true, Span.contains, Bool.and_eq_true, Nat.ble_eq, Nat.ble_eq]
  omega

namespace Table

variable {α : Type}

/-- The search for any code point of the span ends on one page. -/
def keeps (table : Table α) (span : Span) : Bool :=
  (table.find? (span.first.ble ·.last)).all (span.last.ble ·.last)

/-- When a table's search ends on the same page for both ends of a span, it ends there for every
code point in between. -/
theorem page_eq_of_keeps {table : Table α} {span : Span} {code : Nat}
    (h : table.keeps span = true) (hFirst : span.first ≤ code) (hLast : code ≤ span.last) :
    table.page code = table.page span.first := by
  induction table with
  | nil => rfl
  | cons p rest ih =>
      rw [page, page]
      rw [keeps, List.find?_cons] at h
      cases hReached : span.first.ble p.last with
      | true =>
          rw [hReached] at h
          have hCode : code.ble p.last = true := by
            simp only [Option.all_some, Nat.ble_eq] at h ⊢
            omega
          rw [hCode]
          rfl
      | false =>
          rw [hReached] at h
          have hCode : code.ble p.last = false := by
            rw [← Bool.not_eq_true, Nat.ble_eq] at hReached ⊢
            omega
          rw [hCode]
          exact ih h

/-- A single row of the table contains the span. -/
def embraces (table : Table Span) (span : Span) : Bool :=
  table.keeps span &&
    (table.page span.first).any fun row => row.first.ble span.first && span.last.ble row.last

/-- A span inside one row of its page is covered as a whole, by a check of its two ends. -/
theorem covers_of_embraces {table : Table Span} {span : Span} {c : Char}
    (h : table.embraces span = true) (hFirst : span.first ≤ c.toNat) (hLast : c.toNat ≤ span.last) :
    table.covers c = true := by
  obtain ⟨hKeeps, hRow⟩ := Bool.and_eq_true_iff.mp h
  obtain ⟨row, hMem, hRow⟩ := List.any_eq_true.mp hRow
  simp only [Bool.and_eq_true, Nat.ble_eq] at hRow
  rw [covers, page_eq_of_keeps hKeeps hFirst hLast, List.any_eq_true]
  refine ⟨row, hMem, ?_⟩
  simp only [Span.contains, Bool.and_eq_true, Nat.ble_eq]
  omega

/-- No row of the page of the span meets it. -/
def avoids (table : Table α) (bounds : α → Span) (span : Span) : Bool :=
  table.keeps span && (table.page span.first).all fun row => (bounds row).apart span

/-- A span that avoids the rows of its one page is avoided by the table. The other pages need not be
looked at. -/
theorem not_contains_of_avoids {table : Table α} {bounds : α → Span} {span : Span} {code : Nat}
    (h : table.avoids bounds span = true) (hFirst : span.first ≤ code) (hLast : code ≤ span.last) :
    ∀ row ∈ table.page code, (bounds row).contains code = false := by
  obtain ⟨hKeeps, hRows⟩ := Bool.and_eq_true_iff.mp h
  rw [page_eq_of_keeps hKeeps hFirst hLast]
  intro row hRow
  exact Span.not_contains_of_apart (List.all_eq_true.mp hRows row hRow) hFirst hLast

theorem not_covers_iff {table : Table Span} {c : Char} :
    table.covers c = false ↔ ∀ row ∈ table.page c.toNat, row.contains c.toNat = false := by
  simp [covers]

end Table

section Lowercase

/-- A character without a row in the table of lower case is mapped to itself. The dotted capital I
is excepted since its rule is outside the table. -/
theorem lowercaseChar_eq_self {c : Char} (hDotted : c ≠ '\u0130')
    (h : ∀ run ∈ lowercaseRuns.page c.toNat, run.toSpan.contains c.toNat = false) :
    lowercaseChar c = [c] := by
  have hNone : (lowercaseRuns.page c.toNat).findSome? (·.lower? c.toNat) = none := by
    rw [List.findSome?_eq_none_iff]
    intro run hRun
    rw [LowercaseRun.lower?, h run hRun]
    rfl
  rw [lowercaseChar, if_neg hDotted, hNone]

/-- The three ways a character is lower-cased: unchanged, the dotted capital I, or the image of a
row at an offset that the stride of the row admits. -/
theorem lowercaseChar_cases (c : Char) :
    lowercaseChar c = [c] ∨ c = '\u0130' ∨
      ∃ run ∈ lowercaseRuns.rows, ∃ k < run.last + 1 - run.first, k % run.stride = 0 ∧
        c.toNat = run.first + k ∧ lowercaseChar c = [Char.ofNat (run.image + k)] := by
  by_cases hDotted : c = '\u0130'
  · exact .inr (.inl hDotted)
  rw [lowercaseChar, if_neg hDotted]
  cases hFound : (lowercaseRuns.page c.toNat).findSome? (·.lower? c.toNat) with
  | none => exact .inl rfl
  | some image =>
      refine .inr (.inr ?_)
      obtain ⟨run, hRun, hImage⟩ := List.exists_of_findSome?_eq_some hFound
      rw [LowercaseRun.lower?] at hImage
      split at hImage
      · rename_i hMapped
        simp only [Span.contains, Bool.and_eq_true, Nat.ble_eq, beq_iff_eq] at hMapped
        refine ⟨run, Table.mem_rows_of_mem_page hRun, c.toNat - run.first, by omega, hMapped.2,
          by omega, ?_⟩
        rw [← Option.some.inj hImage]
      · cases hImage

/-- Every image of a row is its own lower case. The check runs over all rows and offsets in the
kernel. -/
theorem lowercaseRuns_closed : lowercaseRuns.rows.all (fun run =>
    (List.range (run.last + 1 - run.first)).all fun k => k % run.stride != 0 ||
      lowercaseChar (Char.ofNat (run.image + k)) == [Char.ofNat (run.image + k)]) = true := by
  decide +kernel

theorem lowercaseChar_ne_nil (c : Char) : lowercaseChar c ≠ [] := by
  rw [lowercaseChar]
  split
  · exact List.cons_ne_nil _ _
  · split <;> exact List.cons_ne_nil _ _

/-- Lower-casing characters is idempotent, the dotted capital I and its two characters included. -/
theorem lowercaseChar_closed (c : Char) : ∀ d ∈ lowercaseChar c, lowercaseChar d = [d] := by
  intro d hd
  obtain hSelf | rfl | ⟨run, hRun, k, hk, hStride, _, hImage⟩ := lowercaseChar_cases c
  · rw [hSelf, List.mem_singleton] at hd
    rw [hd, hSelf]
  · obtain rfl | rfl : d = 'i' ∨ d = '\u0307' := by simpa [lowercaseChar] using hd
    · rfl
    · rfl
  · have hRow := List.all_eq_true.mp lowercaseRuns_closed run hRun
    have hClosed := List.all_eq_true.mp hRow k (List.mem_range.mpr hk)
    rw [hImage, List.mem_singleton] at hd
    rw [hd]
    simpa [hStride] using hClosed

end Lowercase

section Quiet

/-- Spans of Korean letters and ideographs, which have neither case nor marks. -/
def quietSpans : List Span :=
  [⟨0x1100, 0x11FF⟩, ⟨0x3400, 0x9FFF⟩, ⟨0xAC00, 0xD7A3⟩, ⟨0xF900, 0xFAFF⟩, ⟨0x20000, 0x2FA1F⟩]

def isQuiet (code : Nat) : Bool :=
  quietSpans.any (·.contains code)

theorem isQuiet_of_mem (span : Span) {code : Nat} (h : span ∈ quietSpans)
    (hFirst : span.first ≤ code) (hLast : code ≤ span.last) : isQuiet code = true := by
  rw [isQuiet, List.any_eq_true]
  refine ⟨span, h, ?_⟩
  rw [Span.contains, Bool.and_eq_true, Nat.ble_eq, Nat.ble_eq]
  exact ⟨hFirst, hLast⟩

/-- Quiet code points are no surrogates, so they name the characters that they number. -/
theorem toNat_ofNat_of_isQuiet {code : Nat} (h : isQuiet code = true) :
    (Char.ofNat code).toNat = code := by
  have hValid : code.isValidChar := by
    simp only [isQuiet, quietSpans, List.any_cons, List.any_nil, Span.contains, Bool.or_eq_true,
      Bool.and_eq_true, Nat.ble_eq, Bool.false_eq_true, or_false] at h
    rw [Nat.isValidChar]
    omega
  rw [Char.ofNat, dif_pos hValid]
  rfl

/-- A table whose rows are all apart from the quiet spans has no row for a quiet code point. -/
theorem not_contains_of_isQuiet {α : Type} {table : Table α} (bounds : α → Span) {code : Nat}
    (hApart : table.rows.all (fun row => quietSpans.all (bounds row).apart) = true)
    (h : isQuiet code = true) : ∀ row ∈ table.page code, (bounds row).contains code = false := by
  obtain ⟨span, hSpan, hCode⟩ := List.any_eq_true.mp h
  simp only [Span.contains, Bool.and_eq_true, Nat.ble_eq] at hCode
  intro row hRow
  have hRow := List.all_eq_true.mp hApart row (Table.mem_rows_of_mem_page hRow)
  exact Span.not_contains_of_apart (List.all_eq_true.mp hRow span hSpan) hCode.1 hCode.2

/-- The tables of case have no row for a quiet character. -/
structure QuietApart : Prop where
  cased : casedSpans.rows.all (fun row => quietSpans.all row.apart) = true
  ignorable : ignorableSpans.rows.all (fun row => quietSpans.all row.apart) = true
  lowercase : lowercaseRuns.rows.all (fun run => quietSpans.all run.toSpan.apart) = true

theorem quietApart : QuietApart where
  cased := by decide +kernel
  ignorable := by decide +kernel
  lowercase := by decide +kernel

/-- Ideographs and Korean letters are uncased: they end the search for a letter before or after a
sigma. -/
theorem isCased_of_isQuiet {c : Char} (h : isQuiet c.toNat = true) : isCased c = false :=
  Table.not_covers_iff.mpr (not_contains_of_isQuiet id quietApart.cased h)

theorem isCaseIgnorable_of_isQuiet {c : Char} (h : isQuiet c.toNat = true) :
    isCaseIgnorable c = false :=
  Table.not_covers_iff.mpr (not_contains_of_isQuiet id quietApart.ignorable h)

theorem lowercaseChar_of_isQuiet {c : Char} (h : isQuiet c.toNat = true) :
    lowercaseChar c = [c] := by
  apply lowercaseChar_eq_self
  · rintro rfl
    exact absurd h (by decide)
  · exact not_contains_of_isQuiet LowercaseRun.toSpan quietApart.lowercase h

end Quiet

section Decomposition

def decompositionRows : List Decomposition :=
  Table.rows decompositions.rows

/-- Facts checked on all rows: none is about a conjoining letter, each has parts, the parts have
none themselves, and lower-casing commutes with decomposition. -/
structure DecompositionFacts : Prop where
  letters : decompositionRows.all (fun row => row.code.blt 0x1100 || Nat.blt 0x11FF row.code) = true
  nonempty : decompositionRows.all (fun row => !row.parts.isEmpty) = true
  whole : decompositionRows.all (fun row =>
    row.parts.all fun part => decompose (Char.ofNat part) == [Char.ofNat part]) = true
  lowercase : decompositionRows.all (fun row =>
    isQuiet row.code && row.parts.all isQuiet ||
      (lowercaseChar (Char.ofNat row.code)).flatMap decompose ==
        (row.parts.map Char.ofNat).flatMap lowercaseChar) = true

/-- Checked once on all rows by the kernel. Lemmas about single characters take what they need from
here. -/
theorem decompositionFacts : DecompositionFacts where
  letters := by decide +kernel
  nonempty := by decide +kernel
  whole := by decide +kernel
  lowercase := by decide +kernel

/-- A decomposition found by search is a row of the table, so what is checked on the rows holds of
it. -/
theorem mem_decompositionRows {code : Nat} {parts : List Nat}
    (h : listedParts? code = some parts) : ⟨code, parts⟩ ∈ decompositionRows := by
  obtain ⟨row, hFound, rfl⟩ := Option.map_eq_some_iff.mp h
  have hCode := List.find?_some hFound
  obtain rfl : row.code = code := Nat.eq_of_beq_eq_true hCode
  have hMem := Table.mem_rows_of_mem_page (List.mem_of_find?_eq_some hFound)
  obtain ⟨page, hPage, hRow⟩ := List.mem_flatMap.mp hMem
  exact List.mem_flatMap.mpr ⟨page, Table.mem_rows_of_mem_page hPage, hRow⟩

/-- Hangul syllables decompose into conjoining letters only, with or without a final one. -/
theorem letter_of_hangulParts? {code : Nat} {parts : List Nat}
    (h : hangulParts? code = some parts) : ∀ part ∈ parts, 0x1100 ≤ part ∧ part ≤ 0x11FF := by
  rw [hangulParts?] at h
  split at h
  · rename_i hSyllable
    rw [Bool.and_eq_true, decide_eq_true_eq, decide_eq_true_eq] at hSyllable
    intro part hPart
    rw [← Option.some.inj h] at hPart
    split at hPart
    · simp only [List.mem_cons, List.not_mem_nil, or_false] at hPart
      omega
    · simp only [List.mem_append, List.mem_cons, List.not_mem_nil, or_false] at hPart
      omega
  · cases h

theorem isQuiet_of_hangulParts? {code : Nat} {parts : List Nat}
    (h : hangulParts? code = some parts) : isQuiet code = true := by
  rw [hangulParts?] at h
  split at h
  · rename_i hSyllable
    rw [Bool.and_eq_true, decide_eq_true_eq, decide_eq_true_eq] at hSyllable
    exact isQuiet_of_mem ⟨0xAC00, 0xD7A3⟩ (by simp [quietSpans]) hSyllable.1 hSyllable.2
  · cases h

theorem decompose_eq_self {c : Char} (hHangul : hangulParts? c.toNat = none)
    (hListed : listedParts? c.toNat = none) : decompose c = [c] := by
  rw [decompose, hHangul, hListed, Option.none_or]

/-- Conjoining letters are quiet and have no decomposition, so decomposing a syllable needs one
pass. -/
theorem decompose_letter {code : Nat} (hFirst : 0x1100 ≤ code) (hLast : code ≤ 0x11FF) :
    isQuiet (Char.ofNat code).toNat = true ∧ decompose (Char.ofNat code) = [Char.ofNat code] := by
  have hQuiet : isQuiet code = true :=
    isQuiet_of_mem ⟨0x1100, 0x11FF⟩ (by simp [quietSpans]) hFirst hLast
  have hCode := toNat_ofNat_of_isQuiet hQuiet
  refine ⟨by rwa [hCode], ?_⟩
  apply decompose_eq_self
  · rw [hCode, hangulParts?, if_neg]
    rw [Bool.and_eq_true, decide_eq_true_eq, decide_eq_true_eq]
    omega
  · rw [hCode]
    cases hListed : listedParts? code with
    | none => rfl
    | some parts =>
        have hRow : (code.blt 0x1100 || Nat.blt 0x11FF code) = true :=
          List.all_eq_true.mp decompositionFacts.letters _ (mem_decompositionRows hListed)
        rw [Bool.or_eq_true, Nat.blt_eq, Nat.blt_eq] at hRow
        omega

theorem decompose_ne_nil (c : Char) : decompose c ≠ [] := by
  cases hHangul : hangulParts? c.toNat with
  | some parts =>
      rw [decompose, hHangul, Option.some_or]
      refine mt List.map_eq_nil_iff.mp ?_
      rw [hangulParts?] at hHangul
      split at hHangul
      · rw [← Option.some.inj hHangul]
        split
        · exact List.cons_ne_nil _ _
        · exact List.cons_ne_nil _ _
      · cases hHangul
  | none =>
      cases hListed : listedParts? c.toNat with
      | none =>
          rw [decompose_eq_self hHangul hListed]
          exact List.cons_ne_nil _ _
      | some parts =>
          rw [decompose, hHangul, hListed, Option.none_or]
          have hParts : (!parts.isEmpty) = true :=
            List.all_eq_true.mp decompositionFacts.nonempty _ (mem_decompositionRows hListed)
          refine mt List.map_eq_nil_iff.mp ?_
          rintro rfl
          cases hParts

/-- A character has no decomposition, or it is quiet and decomposes into quiet letters, or the table
has a row with its parts. -/
theorem decompose_cases (c : Char) :
    decompose c = [c] ∨
      (isQuiet c.toNat = true ∧ ∀ d ∈ decompose c, isQuiet d.toNat = true ∧ decompose d = [d]) ∨
      ∃ row ∈ decompositionRows, row.code = c.toNat ∧
        decompose c = row.parts.map Char.ofNat := by
  cases hHangul : hangulParts? c.toNat with
  | some parts =>
      refine .inr (.inl ⟨isQuiet_of_hangulParts? hHangul, ?_⟩)
      rw [decompose, hHangul, Option.some_or]
      rw [List.forall_mem_map]
      intro part hPart
      obtain ⟨hFirst, hLast⟩ := letter_of_hangulParts? hHangul part hPart
      exact decompose_letter hFirst hLast
  | none =>
      cases hListed : listedParts? c.toNat with
      | none => exact .inl (decompose_eq_self hHangul hListed)
      | some parts =>
          refine .inr (.inr ⟨_, mem_decompositionRows hListed, rfl, ?_⟩)
          rw [decompose, hHangul, hListed, Option.none_or]

/-- Decompositions are full: nothing in one can be decomposed again. -/
theorem decompose_closed (c : Char) : ∀ d ∈ decompose c, decompose d = [d] := by
  intro d hd
  obtain hSelf | ⟨_, hLetters⟩ | ⟨row, hRow, _, hParts⟩ := decompose_cases c
  · rw [hSelf, List.mem_singleton] at hd
    rw [hd, hSelf]
  · exact (hLetters d hd).2
  · rw [hParts] at hd
    obtain ⟨part, hPart, rfl⟩ := List.mem_map.mp hd
    have hWhole := List.all_eq_true.mp decompositionFacts.whole row hRow
    exact eq_of_beq (List.all_eq_true.mp hWhole part hPart)

theorem flatMap_eq_self {f : Char → List Char} {cs : List Char} (h : ∀ c ∈ cs, f c = [c]) :
    cs.flatMap f = cs := by
  induction cs with
  | nil => rfl
  | cons c rest ih =>
      rw [List.flatMap_cons, h c List.mem_cons_self, List.singleton_append,
        ih fun d hd => h d (List.mem_cons_of_mem c hd)]

/-- Decomposition of texts is idempotent. No reordering of marks takes part in this. -/
theorem flatMap_decompose_closed (cs : List Char) :
    (cs.flatMap decompose).flatMap decompose = cs.flatMap decompose := by
  apply flatMap_eq_self
  intro d hd
  obtain ⟨c, _, hd⟩ := List.mem_flatMap.mp hd
  exact decompose_closed c d hd

/-- Lower-casing commutes with decomposition for every character that has one. Characters without
one are left to the other case. -/
theorem flatMap_lowercaseChar_decompose (c : Char) :
    decompose c = [c] ∨ (decompose c).flatMap lowercaseChar = (lowercaseChar c).flatMap decompose := by
  obtain hSelf | ⟨hQuiet, hLetters⟩ | ⟨row, hRow, hCode, hParts⟩ := decompose_cases c
  · exact .inl hSelf
  · right
    rw [lowercaseChar_of_isQuiet hQuiet, List.flatMap_singleton]
    exact flatMap_eq_self fun d hd => lowercaseChar_of_isQuiet (hLetters d hd).1
  · right
    have hRow := List.all_eq_true.mp decompositionFacts.lowercase row hRow
    rw [Bool.or_eq_true, Bool.and_eq_true] at hRow
    rcases hRow with ⟨hQuiet, hQuietParts⟩ | hEqual
    · rw [hCode] at hQuiet
      rw [lowercaseChar_of_isQuiet hQuiet, List.flatMap_singleton]
      apply flatMap_eq_self
      rw [hParts, List.forall_mem_map]
      intro part hPart
      have hPart := List.all_eq_true.mp hQuietParts part hPart
      exact lowercaseChar_of_isQuiet (by rwa [toNat_ofNat_of_isQuiet hPart])
    · rw [hParts, ← eq_of_beq hEqual, hCode, Char.ofNat_toNat]

/-- Replacing each character by a nonempty text never shortens a text. -/
theorem length_le_length_flatMap {f : Char → List Char} (hNonempty : ∀ c, f c ≠ [])
    (cs : List Char) : cs.length ≤ (cs.flatMap f).length := by
  induction cs with
  | nil => exact Nat.le_refl _
  | cons c rest ih =>
      have hImage := List.length_pos_iff.mpr (hNonempty c)
      rw [List.flatMap_cons, List.length_append, List.length_cons]
      omega

/-- If a replacement by nonempty texts leaves a text unchanged as a whole, it leaves every character
of it unchanged. -/
theorem eq_singleton_of_flatMap_eq_self {f : Char → List Char} (hNonempty : ∀ c, f c ≠ [])
    {cs : List Char} (h : cs.flatMap f = cs) : ∀ c ∈ cs, f c = [c] := by
  induction cs with
  | nil => simp
  | cons c rest ih =>
      obtain ⟨d, tail, hImage⟩ := List.exists_cons_of_ne_nil (hNonempty c)
      rw [List.flatMap_cons, hImage, List.cons_append, List.cons.injEq] at h
      obtain ⟨rfl, hRest⟩ := h
      have hLonger := length_le_length_flatMap hNonempty rest
      have hLength := congrArg List.length hRest
      rw [List.length_append] at hLength
      obtain rfl : tail = [] := List.length_eq_zero_iff.mp (by omega)
      rw [List.forall_mem_cons]
      exact ⟨hImage, ih hRest⟩

/-- A character in lower case decomposes into characters in lower case. -/
theorem lowercaseChar_of_mem_decompose {c d : Char} (h : lowercaseChar c = [c])
    (hd : d ∈ decompose c) : lowercaseChar d = [d] := by
  rcases flatMap_lowercaseChar_decompose c with hSelf | hParts
  · rw [hSelf, List.mem_singleton] at hd
    rw [hd, h]
  · rw [h, List.flatMap_singleton] at hParts
    exact eq_singleton_of_flatMap_eq_self lowercaseChar_ne_nil hParts d hd

end Decomposition

section Marks

/-- Facts about marks: nonzero class implies mark, nonspacing and enclosing marks are
case-ignorable, no mark has a lower case, and no spacing mark is cased. -/
structure MarkFacts : Prop where
  movable : combiningClasses.rows.all (fun row => row.toSpan.all isMark) = true
  ignorable : unspacedMarks.rows.all ignorableSpans.embraces = true
  lowercase : (unspacedMarks.rows ++ spacingMarks.rows).all
    (lowercaseRuns.avoids LowercaseRun.toSpan) = true
  uncased : spacingMarks.rows.all (casedSpans.avoids id) = true

theorem markFacts : MarkFacts where
  movable := by decide +kernel
  ignorable := by decide +kernel
  lowercase := by decide +kernel
  uncased := by decide +kernel

/-- A character with a nonzero combining class is a mark, so the canonical ordering moves marks
only. -/
theorem isMark_of_combiningClass {c : Char} (h : combiningClass c ≠ 0) : isMark c = true := by
  rw [combiningClass] at h
  split at h
  · rename_i run hFound
    have hRun := Table.mem_rows_of_mem_page (List.mem_of_find?_eq_some hFound)
    have hCode := List.find?_some hFound
    simp only [Span.contains, Bool.and_eq_true, Nat.ble_eq] at hCode
    exact Span.of_all (List.all_eq_true.mp markFacts.movable run hRun) hCode.1 hCode.2
  · exact absurd rfl h

/-- Nonspacing and enclosing marks are passed over in the context of a sigma. This fails for spacing
marks. -/
theorem isCaseIgnorable_of_isUnspacedMark {c : Char} (h : isUnspacedMark c = true) :
    isCaseIgnorable c = true := by
  obtain ⟨span, hSpan, hFirst, hLast⟩ := Table.exists_span_of_covers h
  exact Table.covers_of_embraces (List.all_eq_true.mp markFacts.ignorable span hSpan) hFirst hLast

/-- A mark lies in a row of one of the two tables, nonspacing with enclosing marks or spacing
ones. -/
theorem exists_span_of_isMark {c : Char} (h : isMark c = true) :
    ∃ span ∈ unspacedMarks.rows ++ spacingMarks.rows,
      span.first ≤ c.toNat ∧ c.toNat ≤ span.last := by
  rcases Bool.or_eq_true_iff.mp h with h | h
  · obtain ⟨span, hSpan, hCode⟩ := Table.exists_span_of_covers h
    exact ⟨span, List.mem_append_left _ hSpan, hCode⟩
  · obtain ⟨span, hSpan, hCode⟩ := Table.exists_span_of_covers h
    exact ⟨span, List.mem_append_right _ hSpan, hCode⟩

theorem isMark_of_avoids {span : Span} {c : Char} (hUnspaced : unspacedMarks.avoids id span = true)
    (hSpacing : spacingMarks.avoids id span = true) (hFirst : span.first ≤ c.toNat)
    (hLast : c.toNat ≤ span.last) : isMark c = false := by
  have hUncovered : unspacedMarks.covers c = false :=
    Table.not_covers_iff.mpr (Table.not_contains_of_avoids hUnspaced hFirst hLast)
  rw [isMark, isUnspacedMark, hUncovered, Bool.false_or]
  exact Table.not_covers_iff.mpr (Table.not_contains_of_avoids hSpacing hFirst hLast)

/-- No mark has a lower case of its own. -/
theorem lowercaseChar_of_isMark {c : Char} (h : isMark c = true) : lowercaseChar c = [c] := by
  obtain ⟨span, hSpan, hFirst, hLast⟩ := exists_span_of_isMark h
  apply lowercaseChar_eq_self
  · rintro rfl
    exact absurd h (by decide)
  · exact Table.not_contains_of_avoids (List.all_eq_true.mp markFacts.lowercase span hSpan) hFirst
      hLast

/-- As context of a sigma a mark is passed over or it is uncased. It never counts as a letter. -/
theorem isCased_of_isMark {c : Char} (h : isMark c = true) (hCounts : isCaseIgnorable c = false) :
    isCased c = false := by
  rcases Bool.or_eq_true_iff.mp h with hUnspaced | hSpacing
  · rw [isCaseIgnorable_of_isUnspacedMark hUnspaced] at hCounts
    cases hCounts
  · obtain ⟨span, hSpan, hFirst, hLast⟩ := Table.exists_span_of_covers hSpacing
    exact Table.not_covers_iff.mpr
      (Table.not_contains_of_avoids (List.all_eq_true.mp markFacts.uncased span hSpan) hFirst hLast)

end Marks

end EntitySearch.Unicode
