import EntitySearch.Json.Reader
import EntitySearch.Json.Writer
import Mathlib.Tactic.IntervalCases

/-! The scanner undoes the writer: quoted texts and integers are scanned as what they were written
from, whatever follows them, and blanks between tokens leave no trace. -/
namespace EntitySearch

def decimalDigits (n : Nat) : List Nat :=
  (Nat.toDigits 10 n).map fun c => c.toNat - '0'.toNat

theorem toNat_of_mem_toDigits {n : Nat} {c : Char} (h : c ∈ Nat.toDigits 10 n) :
    48 ≤ c.toNat ∧ c.toNat ≤ 57 := by
  have hDigit := Nat.isDigit_of_mem_toDigits (by decide) (by decide) h
  simp only [Char.isDigit, Bool.and_eq_true, decide_eq_true_eq] at hDigit
  exact hDigit

theorem decimalDigits_lt {n d : Nat} (h : d ∈ decimalDigits n) : d < 10 := by
  obtain ⟨c, hc, rfl⟩ := List.mem_map.mp h
  have hRange := toNat_of_mem_toDigits hc
  change c.toNat - 48 < 10
  omega

/-- The digits of a number print as its decimal text. -/
theorem map_digitChar_decimalDigits (n : Nat) :
    (decimalDigits n).map Nat.digitChar = Nat.toDigits 10 n := by
  rw [decimalDigits, List.map_map]
  refine (List.map_congr_left fun c hc => ?_).trans (List.map_id _)
  have hRange := toNat_of_mem_toDigits hc
  apply Char.toNat_inj.mp
  change (Nat.digitChar (c.toNat - 48)).toNat = c.toNat
  rw [Nat.toNat_digitChar_of_lt_ten (by omega)]
  omega

theorem spelled_decimalDigits (n : Nat) : Numeral.spelled (decimalDigits n) = n := by
  rw [Numeral.spelled, decimalDigits, List.foldl_map, ← Nat.ofDigitChars_eq_foldl]
  exact Nat.ofDigitChars_ten_toDigits

/-- A positive number has no leading zero, so its text is one numeral. -/
theorem decimalDigits_eq_cons {n : Nat} (h : n ≠ 0) :
    ∃ d rest, decimalDigits n = d :: rest ∧ d ≠ 0 := by
  induction n using Nat.strong_induction_on with
  | h n ih =>
      rw [decimalDigits, Nat.toDigits_eq_if (by decide)]
      by_cases hSmall : n < 10
      · rw [if_pos hSmall]
        refine ⟨n, [], ?_, h⟩
        simpa using Nat.toNat_digitChar_sub_48_of_lt_ten hSmall
      · obtain ⟨d, rest, hDigits, hd⟩ := ih (n / 10) (by omega) (by omega)
        rw [if_neg hSmall, List.map_append]
        exact ⟨d, rest ++ _, by rw [← decimalDigits, hDigits, List.cons_append], hd⟩

def WordInt.numeral (n : WordInt) : Numeral :=
  ⟨n.value < 0, decimalDigits n.value.natAbs, none, none⟩

/-- The numeral of an integer denotes it, negative ones included. -/
theorem WordInt.integer?_numeral (n : WordInt) : n.numeral.integer? = some n := by
  obtain ⟨value, hLower, hUpper⟩ := n
  simp only [Numeral.integer?, numeral, Option.isNone_none, Bool.and_self, if_true,
    spelled_decimalDigits, decide_eq_true_eq]
  by_cases hNegative : value < 0
  · rw [if_pos hNegative, dif_pos (by omega)]
    simp only [Option.some.injEq, WordInt.mk.injEq]
    omega
  · rw [if_neg hNegative, dif_pos (by omega)]
    simp only [Option.some.injEq, WordInt.mk.injEq]
    omega

namespace Json

/-- Integers are read back exactly over the whole signed and unsigned range. -/
theorem readNumber_numeral (n : WordInt) : readNumber n.numeral = .ok (.integer n) := by
  rw [readNumber, Numeral.number?, WordInt.integer?_numeral]

namespace ScanMode

/-- Unfolds one character that yields no token, and `scan_yield` one that does. -/
theorem scan_next {mode after : ScanMode} {c : Char} {rest : List Char}
    (h : mode.step c (c :: rest) = .next after) : mode.scan (c :: rest) = after.scan rest := by
  rw [scan, h]

theorem scan_yield {mode after : ScanMode} {c : Char} {rest : List Char} {tokens : List Token}
    (h : mode.step c (c :: rest) = .yield tokens after) :
    mode.scan (c :: rest) = tokens ++ after.scan rest := by
  rw [scan, h]

end ScanMode

section Numerals

/-- The text is empty or goes on with a character that no numeral contains. -/
def Boundary (rest : List Char) : Prop :=
  ∀ c ∈ rest.head?, decimalDigit? c = none ∧ c ≠ '.' ∧ c ≠ 'e' ∧ c ≠ 'E'

theorem boundary_nil : Boundary [] := by
  simp [Boundary]

/-- A numeral ends at a boundary, and the boundary is left for the next token. -/
theorem scan_numeralEnd {stage : NumeralStage} {draft : Numeral} {rest : List Char}
    (hStage : stage = .zero ∨ stage = .whole) (hRest : Boundary rest) :
    (ScanMode.numeral stage draft).scan rest =
      .number (finishNumeral draft) :: ScanMode.between.scan rest := by
  cases rest with
  | nil => rcases hStage with rfl | rfl <;> rfl
  | cons c rest =>
      obtain ⟨hDigit, hPoint, hLower, hUpper⟩ := hRest c rfl
      have hStep : (ScanMode.numeral stage draft).step c (c :: rest) = numeralEnd draft c := by
        rcases hStage with rfl | rfl <;>
          simp [ScanMode.step, numeralStep, hDigit, hPoint, hLower, hUpper]
      rw [ScanMode.scan, ScanMode.scan, hStep, numeralEnd, ScanMode.step]
      cases scanStart c <;> rfl

theorem decimalDigit?_digitChar {d : Nat} (h : d < 10) : decimalDigit? (Nat.digitChar d) = some d := by
  interval_cases d <;> rfl

theorem scan_digits {digits : List Nat} (hDigits : ∀ d ∈ digits, d < 10) (draft : Numeral)
    (rest : List Char) :
    (ScanMode.numeral .whole draft).scan (digits.map Nat.digitChar ++ rest) =
      (ScanMode.numeral .whole { draft with whole := digits.reverse ++ draft.whole }).scan rest := by
  induction digits generalizing draft with
  | nil => rfl
  | cons d digits ih =>
      obtain ⟨hDigit, hDigits⟩ := List.forall_mem_cons.mp hDigits
      have hStep : ∀ after, (ScanMode.numeral .whole draft).step (Nat.digitChar d) after =
          .next (.numeral .whole { draft with whole := d :: draft.whole }) := by
        intro after
        simp only [ScanMode.step, numeralStep, decimalDigit?_digitChar hDigit]
      rw [List.map_cons, List.cons_append, ScanMode.scan_next (hStep _), ih hDigits]
      simp

/-- Run lemma for digits, starting between tokens or behind a minus sign. -/
theorem scan_decimalDigits {mode : ScanMode} {negative : Bool}
    (hMode : mode = .between ∧ negative = false ∨
      mode = .numeral .sign ⟨true, [], none, none⟩ ∧ negative = true)
    (n : Nat) {rest : List Char} (hRest : Boundary rest) :
    mode.scan (Nat.toDigits 10 n ++ rest) =
      .number ⟨negative, decimalDigits n, none, none⟩ :: ScanMode.between.scan rest := by
  have hFirst : ∀ d < 10, ∀ after, mode.step (Nat.digitChar d) after =
      .next (.numeral (if d = 0 then .zero else .whole) ⟨negative, [d], none, none⟩) := by
    intro d hd after
    rcases hMode with ⟨rfl, rfl⟩ | ⟨rfl, rfl⟩ <;> interval_cases d <;> rfl
  by_cases hZero : n = 0
  · subst hZero
    change mode.scan (Nat.digitChar 0 :: rest) = _
    rw [ScanMode.scan_next (hFirst 0 (by decide) _), if_pos rfl, scan_numeralEnd (.inl rfl) hRest]
    rfl
  · obtain ⟨d, digits, hDigits, hd⟩ := decimalDigits_eq_cons hZero
    have hSmall : ∀ d ∈ decimalDigits n, d < 10 := fun d => decimalDigits_lt
    rw [← map_digitChar_decimalDigits, hDigits, List.map_cons, List.cons_append]
    rw [hDigits, List.forall_mem_cons] at hSmall
    rw [ScanMode.scan_next (hFirst d hSmall.1 _), if_neg hd, scan_digits hSmall.2,
      scan_numeralEnd (.inr rfl) hRest]
    simp [finishNumeral]

theorem scan_integer (n : WordInt) {rest : List Char} (hRest : Boundary rest) :
    ScanMode.between.scan (n.text ++ rest) = .number n.numeral :: ScanMode.between.scan rest := by
  rw [WordInt.text, WordInt.numeral]
  by_cases hNegative : n.value < 0
  · rw [if_pos hNegative, List.cons_append, ScanMode.scan_next rfl,
      scan_decimalDigits (.inr ⟨rfl, rfl⟩) _ hRest, decide_eq_true hNegative]
  · rw [if_neg hNegative, scan_decimalDigits (.inl ⟨rfl, rfl⟩) _ hRest,
      decide_eq_false hNegative]

end Numerals

section Texts

/-- Piece that a character is written as. Control characters without a short escape become code
units. -/
def Piece.ofChar (c : Char) : Piece :=
  if c.toNat < 0x20 ∧ c ∉ ['\x08', '\x0c', '\n', '\r', '\t'] then .unit c.toNat else .char c

def Quoted.ofText (text : String) : Quoted :=
  ⟨text.toList.map Piece.ofChar, .closed⟩

theorem hexDigit?_hexDigit {d : Nat} (h : d < 16) : hexDigit? (hexDigit d) = some d := by
  interval_cases d <;> rfl

/-- Scans one escaped code unit with two significant digits. -/
theorem scan_unit {n : Nat} (h : n < 256) (pieces : List Piece) (rest : List Char) :
    (ScanMode.quoted pieces).scan
        ('\\' :: 'u' :: '0' :: '0' :: hexDigit (n / 16) :: hexDigit (n % 16) :: rest) =
      (ScanMode.quoted (.unit n :: pieces)).scan rest := by
  have hDigit : ∀ d < 16, ∀ digits : List Nat, digits.length ≠ 3 → ∀ after,
      (ScanMode.unit pieces digits).step (hexDigit d) after = .next (.unit pieces (d :: digits)) := by
    intro d hd digits hLength after
    simp [ScanMode.step, hexDigit?_hexDigit hd, hLength]
  have hLast : ∀ after, (ScanMode.unit pieces [n / 16, 0, 0]).step (hexDigit (n % 16)) after =
      .next (.quoted (.unit n :: pieces)) := by
    intro after
    simp [ScanMode.step, hexDigit?_hexDigit (show n % 16 < 16 by omega), Nat.div_add_mod]
  rw [ScanMode.scan_next rfl, ScanMode.scan_next rfl]
  change (ScanMode.unit pieces []).scan (hexDigit 0 :: hexDigit 0 :: _) = _
  rw [ScanMode.scan_next (hDigit 0 (by decide) _ (by decide) _),
    ScanMode.scan_next (hDigit 0 (by decide) _ (by decide) _),
    ScanMode.scan_next (hDigit _ (by omega) _ (by decide) _), ScanMode.scan_next (hLast _)]

theorem scan_escapeChar (c : Char) (pieces : List Piece) (rest : List Char) :
    (ScanMode.quoted pieces).scan (escapeChar c ++ rest) =
      (ScanMode.quoted (.ofChar c :: pieces)).scan rest := by
  by_cases hShort : c ∈ ['"', '\\', '\x08', '\x0c', '\n', '\r', '\t']
  · simp only [List.mem_cons, List.not_mem_nil, or_false] at hShort
    rcases hShort with rfl | rfl | rfl | rfl | rfl | rfl | rfl <;> rfl
  · simp only [List.mem_cons, List.not_mem_nil, or_false, not_or] at hShort
    obtain ⟨hQuote, hBackslash, hBack, hForm, hLine, hReturn, hTab⟩ := hShort
    by_cases hControl : c.toNat < 0x20
    · have hEscape : escapeChar c =
          ['\\', 'u', '0', '0', hexDigit (c.toNat / 16), hexDigit (c.toNat % 16)] := by
        simp [escapeChar, *]
      have hPiece : Piece.ofChar c = .unit c.toNat := by
        simp [Piece.ofChar, *]
      rw [hEscape, hPiece]
      exact scan_unit (by omega) pieces rest
    · have hEscape : escapeChar c = [c] := by
        simp [escapeChar, *]
      have hPiece : Piece.ofChar c = .char c := by
        simp [Piece.ofChar, *]
      have hStep : (ScanMode.quoted pieces).step c (c :: rest) = .next (.quoted (.char c :: pieces)) := by
        simp [ScanMode.step, *]
      rw [hEscape, hPiece, List.singleton_append, ScanMode.scan_next hStep]

/-- Run lemma for escapes: a quoted text is scanned into the pieces of its characters, without
complaint. -/
theorem scan_escapedChars (text : List Char) (pieces : List Piece) (rest : List Char) :
    (ScanMode.quoted pieces).scan (text.flatMap escapeChar ++ '"' :: rest) =
      .string ⟨pieces.reverse ++ text.map Piece.ofChar, .closed⟩ :: ScanMode.between.scan rest := by
  induction text generalizing pieces with
  | nil =>
      rw [List.flatMap_nil, List.nil_append, ScanMode.scan_yield rfl, List.map_nil, List.append_nil]
      rfl
  | cons c text ih =>
      rw [List.flatMap_cons, List.append_assoc, scan_escapeChar, ih]
      simp

/-- A printed string is one token, whatever follows it. -/
theorem scan_quoteChars (text : String) (rest : List Char) :
    ScanMode.between.scan (quoteChars text ++ rest) =
      .string (.ofText text) :: ScanMode.between.scan rest := by
  have hChars : quoteChars text ++ rest = '"' :: (text.toList.flatMap escapeChar ++ '"' :: rest) := by
    simp [quoteChars]
  rw [hChars, ScanMode.scan_next rfl, scan_escapedChars]
  rfl

theorem readPieces_ofChar (text : List Char) :
    readPieces .closed (text.map Piece.ofChar) = .ok text := by
  induction text with
  | nil => rfl
  | cons c text ih =>
      rw [List.map_cons, Piece.ofChar]
      split
      · rename_i hControl
        rw [readPieces.eq_def]
        simp only
        rw [if_neg (by omega), if_neg (by omega), ih, Char.ofNat_toNat]
        rfl
      · rw [readPieces, ih]
        rfl

/-- Escaping loses nothing: every string is read back, control characters included. -/
theorem Quoted.read_ofText (text : String) : (Quoted.ofText text).read = .ok text := by
  rw [Quoted.read, ofText, readPieces_ofChar]
  exact congrArg Except.ok String.ofList_toList

end Texts

section Gaps

theorem scan_replicate_space (n : Nat) (rest : List Char) :
    ScanMode.between.scan (List.replicate n ' ' ++ rest) = ScanMode.between.scan rest := by
  induction n with
  | zero => rfl
  | succ n ih => rw [List.replicate_succ, List.cons_append, ScanMode.scan_next rfl, ih]

/-- White space between tokens is skipped at every indentation. -/
theorem scan_newline (level : Nat) (rest : List Char) :
    ScanMode.between.scan (newline level ++ rest) = ScanMode.between.scan rest := by
  rw [newline, List.cons_append, ScanMode.scan_next rfl, scan_replicate_space]

end Gaps

end Json

end EntitySearch
