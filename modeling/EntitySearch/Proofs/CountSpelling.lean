import EntitySearch.Proofs.CharacterProperties
import EntitySearch.Proofs.SpelledRequest
import Mathlib.Data.List.TakeWhile

/-! How counts are spelt, as integers or as texts of digits, and what is read from them: of all the
spellings, the ones of numbers that fit a word are read, each as the number that it spells. -/
namespace EntitySearch

namespace Unicode

/-- A text is its trimmed form between two runs of white space, either of which may be empty. -/
theorem exists_trim (cs : List Char) : ∃ before after,
    (∀ c ∈ before, isBlank c = true) ∧ (∀ c ∈ after, isBlank c = true) ∧
      cs = before ++ trim cs ++ after := by
  let rest := (cs.dropWhile isBlank).reverse
  refine ⟨cs.takeWhile isBlank, (rest.takeWhile isBlank).reverse, ?_, ?_, ?_⟩
  · intro c hc
    exact List.mem_takeWhile_imp hc
  · intro c hc
    exact List.mem_takeWhile_imp (List.mem_reverse.mp hc)
  · calc
      cs = cs.takeWhile isBlank ++ rest.reverse := by
        rw [List.reverse_reverse, List.takeWhile_append_dropWhile]
      _ = cs.takeWhile isBlank ++ (rest.takeWhile isBlank ++ rest.dropWhile isBlank).reverse := by
        rw [List.takeWhile_append_dropWhile]
      _ = cs.takeWhile isBlank ++ trim cs ++ (rest.takeWhile isBlank).reverse := by
        rw [List.reverse_append, ← List.append_assoc]
        rfl

theorem dropWhile_isBlank {core : List Char} (h : ∀ c ∈ core, isBlank c = false)
    (hCore : core ≠ []) (rest : List Char) :
    (core ++ rest).dropWhile isBlank = core ++ rest := by
  obtain ⟨c, tail, rfl⟩ := List.exists_cons_of_ne_nil hCore
  rw [List.cons_append, List.dropWhile_cons_of_neg]
  rw [h c List.mem_cons_self]
  exact Bool.false_ne_true

/-- White space around a core without any is exactly what trimming removes. -/
theorem trim_of_blank_ends {before core after : List Char} (hBefore : ∀ c ∈ before, isBlank c = true)
    (hAfter : ∀ c ∈ after, isBlank c = true) (hCore : ∀ c ∈ core, isBlank c = false)
    (hSome : core ≠ []) : trim (before ++ core ++ after) = core := by
  have hReversed : ∀ c ∈ core.reverse, isBlank c = false :=
    fun c hc => hCore c (List.mem_reverse.mp hc)
  have hEnd := dropWhile_isBlank hReversed (List.reverse_ne_nil_iff.mpr hSome) []
  rw [trim, List.append_assoc, List.dropWhile_append_of_pos hBefore, dropWhile_isBlank hCore hSome,
    List.reverse_append, List.dropWhile_append_of_pos fun c hc => hAfter c (List.mem_reverse.mp hc)]
  rw [List.append_nil] at hEnd
  rw [hEnd, List.reverse_reverse]

theorem isBlank_of_isDigit {c : Char} (h : c.isDigit = true) : isBlank c = false := by
  have hDigits : (⟨0x30, 0x39⟩ : Span).all (fun c => !isBlank c) = true := by decide +kernel
  simp only [Char.isDigit, Bool.and_eq_true, decide_eq_true_eq] at h
  have hBlank := Span.of_all hDigits h.1 h.2
  simpa using hBlank

end Unicode

/-- A JSON integer is a count exactly by its value. Negative ones have none. -/
theorem WordInt.toUInt64?_eq_some_iff {word : WordInt} {n : UInt64} :
    word.toUInt64? = some n ↔ word.value = n.toNat := by
  have hUpper := word.upper
  have hFits := n.toNat_lt
  rw [toUInt64?]
  split
  · rw [Option.some.injEq, ← UInt64.toNat_inj, UInt64.toNat_ofNat', Nat.mod_eq_of_lt (by omega)]
    omega
  · simp only [reduceCtorEq, false_iff]
    omega

/-- Nonempty decimal digits with the number they denote. Leading zeros are allowed. -/
structure Decimal (digits : List Char) (n : Nat) : Prop where
  nonempty : digits ≠ []
  isDigit : ∀ c ∈ digits, c.isDigit = true
  value : Nat.ofDigitChars 10 digits 0 = n

/-- A decimal spelling never begins with its own sign, so the sign that is read off is the only
one. -/
theorem Decimal.ne_plus {c : Char} {rest : List Char} {n : Nat} (h : Decimal (c :: rest) n) :
    c ≠ '+' := by
  rintro rfl
  exact absurd (h.isDigit '+' List.mem_cons_self) (by decide)

/-- Spellings of a count, or of its absence. A text may have white space around it and one plus
sign. -/
inductive Json.SpellsCount : Json → Option Nat → Prop where
  | null : SpellsCount .null none
  | empty : SpellsCount (.string "") none
  | integer {word : WordInt} {n : Nat} (h : word.value = n) :
      SpellsCount (.number (.integer word)) (some n)
  | text {text : String} {before sign digits after : List Char} {n : Nat}
      (written : text.toList = before ++ (sign ++ digits) ++ after)
      (blankBefore : ∀ c ∈ before, Unicode.isBlank c = true)
      (blankAfter : ∀ c ∈ after, Unicode.isBlank c = true)
      (plus : sign = [] ∨ sign = ['+']) (decimal : Decimal digits n) :
      SpellsCount (.string text) (some n)

namespace SearchOptions

section Digits

/-- Reading more digits never makes the number smaller, leading zeros included. -/
theorem le_ofDigitChars (digits : List Char) (n : Nat) : n ≤ Nat.ofDigitChars 10 digits n := by
  induction digits generalizing n with
  | nil => exact Nat.le_refl n
  | cons c rest ih =>
      have hRest := ih (10 * n + (c.toNat - '0'.toNat))
      rw [Nat.ofDigitChars_cons]
      omega

theorem readDigits_nil (n : Nat) : readDigits n [] = some n :=
  rfl

/-- Unfolds one digit: the bound is checked at every step, not only at the end. -/
theorem readDigits_cons (n : Nat) (c : Char) (rest : List Char) :
    readDigits n (c :: rest) =
      if c.isDigit ∧ 10 * n + (c.toNat - '0'.toNat) < UInt64.size then
        readDigits (10 * n + (c.toNat - '0'.toNat)) rest
      else none :=
  rfl

/-- Reading stops early exactly when the whole number fits no word of 64 bits, because the partial
numbers never decrease. -/
theorem readDigits_eq_some_iff {digits : List Char} {n m : Nat} (h : n < UInt64.size) :
    readDigits n digits = some m ↔
      (∀ c ∈ digits, c.isDigit = true) ∧ Nat.ofDigitChars 10 digits n = m ∧ m < UInt64.size := by
  induction digits generalizing n with
  | nil =>
      rw [readDigits_nil, Nat.ofDigitChars_nil, Option.some.injEq]
      constructor
      · rintro rfl
        exact ⟨nofun, rfl, h⟩
      · exact fun hAll => hAll.2.1
  | cons c rest ih =>
      rw [readDigits_cons, Nat.ofDigitChars_cons, List.forall_mem_cons]
      split
      · rename_i hDigit
        rw [ih hDigit.2]
        simp only [hDigit.1, true_and]
      · rename_i hStop
        simp only [reduceCtorEq, false_iff]
        rintro ⟨⟨hDigit, _⟩, hValue, hFits⟩
        have hSoFar := le_ofDigitChars rest (10 * n + (c.toNat - '0'.toNat))
        exact hStop ⟨hDigit, by omega⟩

theorem readDigits_of_decimal {digits : List Char} {n : Nat} (h : Decimal digits n) :
    readDigits 0 digits = if n < UInt64.size then some n else none := by
  split
  · rename_i hFits
    exact (readDigits_eq_some_iff (by decide)).mpr ⟨h.isDigit, h.value, hFits⟩
  · rename_i hLarge
    rw [Option.eq_none_iff_forall_ne_some]
    intro m hRead
    obtain ⟨_, hValue, hFits⟩ := (readDigits_eq_some_iff (by decide)).mp hRead
    exact hLarge (by rwa [← h.value, hValue])

/-- Whatever is read is a decimal spelling of the result, within a word. An empty list of digits is
excluded. -/
theorem decimal_of_readDigits {digits : List Char} {n : Nat} (hSome : digits ≠ [])
    (h : readDigits 0 digits = some n) : Decimal digits n ∧ n < UInt64.size := by
  obtain ⟨hDigits, hValue, hFits⟩ := (readDigits_eq_some_iff (by decide)).mp h
  exact ⟨⟨hSome, hDigits, hValue⟩, hFits⟩

/-- A text is read after trimming and after at most one plus sign. -/
theorem countOfString?_of_trim {text : String} {sign digits : List Char} {n : Nat}
    (hTrim : Unicode.trim text.toList = sign ++ digits) (hSign : sign = [] ∨ sign = ['+'])
    (h : Decimal digits n) :
    countOfString? text = if n < UInt64.size then some (UInt64.ofNat n) else none := by
  have hRead : (readDigits 0 digits).map UInt64.ofNat =
      if n < UInt64.size then some (UInt64.ofNat n) else none := by
    rw [readDigits_of_decimal h]
    split <;> rfl
  obtain ⟨c, rest, rfl⟩ := List.exists_cons_of_ne_nil h.nonempty
  rw [countOfString?, hTrim, ← hRead]
  rcases hSign with rfl | rfl
  · have hPlus := h.ne_plus
    rw [List.nil_append]
    split
    · rename_i hNil
      cases hNil
    · rename_i hCons
      exact absurd (List.cons.inj hCons).1 hPlus
    · rename_i hCons
      exact absurd (List.cons.inj hCons).1 hPlus
    · rfl
  · rfl

/-- Soundness for texts: an accepted text is, once trimmed, an optional plus sign and a decimal
spelling of the count. -/
theorem exists_of_countOfString? {text : String} {count : UInt64}
    (h : countOfString? text = some count) : ∃ sign digits,
      Unicode.trim text.toList = sign ++ digits ∧ (sign = [] ∨ sign = ['+']) ∧
        Decimal digits count.toNat := by
  have hDecimal : ∀ {digits : List Char}, digits ≠ [] →
      (readDigits 0 digits).map UInt64.ofNat = some count → Decimal digits count.toNat := by
    intro digits hSome hCount
    obtain ⟨n, hRead, rfl⟩ := Option.map_eq_some_iff.mp hCount
    obtain ⟨hDecimal, hFits⟩ := decimal_of_readDigits hSome hRead
    rwa [UInt64.toNat_ofNat_of_lt' hFits]
  rw [countOfString?] at h
  split at h
  · cases h
  · cases h
  · rename_i digits hSome hTrim
    exact ⟨['+'], digits, hTrim, .inr rfl, hDecimal (by simpa using hSome) h⟩
  · rename_i hSome _ _
    exact ⟨[], _, (List.nil_append _).symm, .inl rfl, hDecimal hSome h⟩

end Digits

section Count

variable (option : String) {value : Json}

/-- A value that spells a number is read as that number when it fits a word, and refused when it
does not. -/
theorem countOfJson_of_spellsCount {n : Nat} (h : value.SpellsCount (some n)) :
    (n < UInt64.size → countOfJson option value = .ok (some (UInt64.ofNat n))) ∧
      (UInt64.size ≤ n → ∃ fault, countOfJson option value = malformed option fault) := by
  cases h with
  | @integer word _ h =>
      have hUpper := word.upper
      constructor
      · intro hFits
        have hValue : word.value = (UInt64.ofNat n).toNat := by
          rw [UInt64.toNat_ofNat_of_lt' hFits, h]
        rw [countOfJson, WordInt.toUInt64?_eq_some_iff.mpr hValue]
      · intro hLarge
        rw [UInt64.size] at hLarge
        omega
  | @text text before sign digits after _ written blankBefore blankAfter plus decimal =>
      have hCore : ∀ c ∈ sign ++ digits, Unicode.isBlank c = false := by
        intro c hc
        rcases List.mem_append.mp hc with hc | hc
        · rcases plus with rfl | rfl
          · cases hc
          · rw [List.mem_singleton.mp hc]
            decide
        · exact Unicode.isBlank_of_isDigit (decimal.isDigit c hc)
      have hSome : sign ++ digits ≠ [] :=
        List.append_ne_nil_of_right_ne_nil sign decimal.nonempty
      have hTrim := Unicode.trim_of_blank_ends blankBefore blankAfter hCore hSome
      rw [← written] at hTrim
      have hCount := countOfString?_of_trim hTrim plus decimal
      have hText : text ≠ "" := by
        rintro rfl
        have hEmpty := written.symm
        simp only [String.toList_empty, List.append_eq_nil_iff] at hEmpty
        exact hSome (List.append_eq_nil_iff.mpr hEmpty.1.2)
      rw [countOfJson, if_neg hText, hCount]
      constructor
      · intro hFits
        rw [if_pos hFits]
      · intro hLarge
        rw [if_neg (by omega)]
        exact ⟨_, rfl⟩

/-- Values that stand for no count are accepted as absent rather than refused. -/
theorem countOfJson_of_spellsNone (h : value.SpellsCount none) :
    countOfJson option value = .ok none := by
  cases h with
  | null => rfl
  | empty => rfl

/-- Soundness: an accepted value spells what is returned. -/
theorem spellsCount_of_countOfJson {option : String} {count : Option UInt64}
    (h : countOfJson option value = .ok count) : value.SpellsCount (count.map UInt64.toNat) := by
  cases value with
  | null =>
      obtain rfl := Except.ok.inj h
      exact .null
  | number value =>
      cases value with
      | integer word =>
          rw [countOfJson] at h
          split at h
          · rename_i n hWord
            obtain rfl := Except.ok.inj h
            exact .integer (WordInt.toUInt64?_eq_some_iff.mp hWord)
          · cases h
      | float value => cases h
  | string text =>
      rw [countOfJson] at h
      split at h
      · rename_i hText
        obtain rfl := Except.ok.inj h
        rw [hText]
        exact .empty
      · split at h
        · rename_i n hCount
          obtain rfl := Except.ok.inj h
          obtain ⟨sign, digits, hTrim, hSign, hDecimal⟩ := exists_of_countOfString? hCount
          obtain ⟨before, after, hBefore, hAfter, hWritten⟩ := Unicode.exists_trim text.toList
          rw [hTrim] at hWritten
          exact .text hWritten hBefore hAfter hSign hDecimal
        · cases h
  | bool | array | object => cases h

/-- A refusal is always reported under the name of the option, with the value as it was given. -/
theorem countOfJson_of_not_spellsCount
    (h : ∀ count : Option UInt64, ¬ value.SpellsCount (count.map UInt64.toNat)) :
    ∃ fault, countOfJson option value = malformed option fault := by
  cases hRead : countOfJson option value with
  | ok count => exact absurd (spellsCount_of_countOfJson hRead) (h count)
  | error error =>
      obtain ⟨fault, rfl⟩ := exists_fault_of_countOfJson hRead
      exact ⟨fault, rfl⟩

/-- The accepted values with their counts, exactly. All JSON values are covered. -/
theorem countOfJson_eq_ok_iff {count : Option UInt64} :
    countOfJson option value = .ok count ↔ value.SpellsCount (count.map UInt64.toNat) := by
  refine ⟨spellsCount_of_countOfJson, fun h => ?_⟩
  cases count with
  | none => exact countOfJson_of_spellsNone option h
  | some n =>
      have hRead := (countOfJson_of_spellsCount option h).1 n.toNat_lt_size
      rwa [UInt64.ofNat_toNat] at hRead

/-- A value spells at most one count, so the result is determined by the spelling. -/
theorem spellsCount_unique {option : String} {word : Option UInt64} {count : Option Nat}
    (hRead : countOfJson option value = .ok word) (h : value.SpellsCount count) :
    count = word.map UInt64.toNat := by
  cases count with
  | none =>
      rw [countOfJson_of_spellsNone option h] at hRead
      rw [← Except.ok.inj hRead, Option.map_none]
  | some n =>
      obtain ⟨hExact, hMalformed⟩ := countOfJson_of_spellsCount option h
      by_cases hFits : n < UInt64.size
      · rw [hExact hFits] at hRead
        rw [← Except.ok.inj hRead, Option.map_some, UInt64.toNat_ofNat_of_lt' hFits]
      · obtain ⟨fault, hRefused⟩ := hMalformed (by omega)
        rw [hRefused] at hRead
        cases hRead

end Count

end SearchOptions

end EntitySearch
