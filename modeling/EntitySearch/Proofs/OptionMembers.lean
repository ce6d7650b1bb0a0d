import EntitySearch.Proofs.SpelledRequest
import Mathlib.Data.List.Nodup

/-! The members of an options object. Each of them is judged and read on its own, so neither their
order nor members that mean nothing have a say in what the object spells. -/
namespace EntitySearch.SearchOptions

variable {options : SearchOptions} {key : String} {value : Json}
  {members others : List (String × Json)}

section OwnMember

variable {α : Type} {part : SearchOptions → α} {read : Json → Except SearchError α}

/-- With distinct keys, lookup from the end agrees with membership. -/
theorem lookup_reverse_eq_some_iff (hKeys : (members.map Prod.fst).Nodup) :
    members.reverse.lookup key = some value ↔ (key, value) ∈ members := by
  rw [List.lookup_eq_some_iff]
  constructor
  · rintro ⟨before, after, hMembers, _⟩
    rw [← List.mem_reverse, hMembers]
    exact List.mem_append_right _ List.mem_cons_self
  · intro hMember
    obtain ⟨before, after, hMembers⟩ := List.append_of_mem (List.mem_reverse.mpr hMember)
    refine ⟨before, after, hMembers, fun member hBefore => ?_⟩
    have hReversed : ((before ++ (key, value) :: after).map Prod.fst).Nodup := by
      rw [← hMembers, List.map_reverse]
      exact List.nodup_reverse.mpr hKeys
    rw [List.map_append] at hReversed
    have hKey : member.1 ≠ key := fun hSame =>
      List.disjoint_of_nodup_append hReversed (List.mem_map_of_mem hBefore)
        (by simp [hSame])
    exact bne_iff_ne.mpr (Ne.symm hKey)

theorem value_unique {other : Json} (hKeys : (members.map Prod.fst).Nodup)
    (h : (key, value) ∈ members) (h' : (key, other) ∈ members) : value = other :=
  congrArg Prod.snd (List.inj_on_of_nodup_map hKeys h h' rfl)

/-- With distinct keys, a part of the options is set by the member of its key or keeps its value. -/
theorem SetBy.of_member (hPart : SetBy key part read) (hKeys : (members.map Prod.fst).Nodup)
    {result : SearchOptions} (h : options.addMembers members = .ok result) :
    (∀ value, (key, value) ∉ members) ∧ part result = part options ∨
      ∃ value, (key, value) ∈ members ∧ read value = .ok (part result) := by
  obtain ⟨hAbsent, hSame⟩ | ⟨value, hLast, hRead⟩ := hPart.addMembers h
  · refine .inl ⟨fun value hMember => ?_, hSame⟩
    rw [(lookup_reverse_eq_some_iff hKeys).mpr hMember] at hAbsent
    cases hAbsent
  · exact .inr ⟨value, (lookup_reverse_eq_some_iff hKeys).mp hLast, hRead⟩

/-- With distinct keys, a part depends only on the members of its key, not on their order or on
other members. -/
theorem SetBy.part_eq (hPart : SetBy key part read) {first second : SearchOptions}
    (hKeys : (members.map Prod.fst).Nodup) (hOthers : (others.map Prod.fst).Nodup)
    (hSame : ∀ value, (key, value) ∈ members ↔ (key, value) ∈ others)
    (hFirst : options.addMembers members = .ok first)
    (hSecond : options.addMembers others = .ok second) : part first = part second := by
  obtain ⟨hAbsent, hKept⟩ | ⟨value, hMember, hRead⟩ := hPart.of_member hKeys hFirst
  · obtain ⟨_, hAlsoKept⟩ | ⟨value, hMember, _⟩ := hPart.of_member hOthers hSecond
    · exact hKept.trans hAlsoKept.symm
    · exact absurd ((hSame value).mpr hMember) (hAbsent value)
  · obtain ⟨hAbsent, _⟩ | ⟨other, hOther, hAlsoRead⟩ := hPart.of_member hOthers hSecond
    · exact absurd ((hSame value).mp hMember) (hAbsent value)
    · obtain rfl := value_unique hOthers ((hSame value).mp hMember) hOther
      exact Except.ok.inj (hRead.symm.trans hAlsoRead)

end OwnMember

section Acceptance

/-- The value of a member can be read by itself. Members that give no option are always readable. -/
inductive Readable : String → Json → Prop where
  | memberships {value : Json} {memberships : List Membership}
      (h : membershipsOfJson value = .ok memberships) : Readable "$in" value
  | text {value : Json} {term : String} (h : termOfJson value = .ok term) : Readable "$text" value
  | raw {value : Json} {raw : FilterSet} (h : FilterSet.ofJson .raw value = .ok raw) :
      Readable "$raw" value
  | limit {value : Json} {limit : Option UInt64} (h : countOfJson "limit" value = .ok limit) :
      Readable "limit" value
  | offset {value : Json} {offset : Option UInt64}
      (h : countOfJson "page_token" value = .ok offset) : Readable "page_token" value
  | other {key : String} {value : Json} (h : ¬ IsOption key) : Readable key value

/-- The test agrees with membership in the list of unsupported operators. -/
theorem isUnsupportedOperator_eq_false_iff :
    isUnsupportedOperator key = false ↔ key ∉ unsupportedOperators := by
  simp [isUnsupportedOperator]

/-- Whether a member is accepted does not depend on the options that have been read before it. -/
theorem exists_takes_iff : (∃ next, options.Takes key value next) ↔
    Readable key value ∧ key ∉ unsupportedOperators := by
  constructor
  · rintro ⟨next, h⟩
    refine ⟨?_, isUnsupportedOperator_eq_false_iff.mp h.isUnsupportedOperator_eq_false⟩
    cases h with
    | memberships h => exact .memberships h
    | text h => exact .text h
    | raw h => exact .raw h
    | limit h => exact .limit h
    | offset h => exact .offset h
    | other hOption _ => exact .other hOption
  · rintro ⟨hReadable, hOperator⟩
    cases hReadable with
    | memberships h => exact ⟨_, .memberships h⟩
    | text h => exact ⟨_, .text h⟩
    | raw h => exact ⟨_, .raw h⟩
    | limit h => exact ⟨_, .limit h⟩
    | offset h => exact ⟨_, .offset h⟩
    | other h => exact ⟨_, .other h (isUnsupportedOperator_eq_false_iff.mpr hOperator)⟩

/-- Members are accepted together exactly when each of them is accepted alone. -/
theorem exists_addMembers_iff :
    (∃ result, options.addMembers members = .ok result) ↔
      ∀ member ∈ members, Readable member.1 member.2 ∧ member.1 ∉ unsupportedOperators := by
  induction members generalizing options with
  | nil => simp [addMembers]
  | cons member rest ih =>
      obtain ⟨key, value⟩ := member
      simp only [addMembers, bind_eq_ok_iff, addMember_eq_ok_iff, List.forall_mem_cons]
      constructor
      · rintro ⟨result, next, hTakes, hRest⟩
        exact ⟨exists_takes_iff.mp ⟨next, hTakes⟩, ih.mp ⟨result, hRest⟩⟩
      · rintro ⟨hMember, hRest⟩
        obtain ⟨next, hTakes⟩ := exists_takes_iff.mpr hMember
        obtain ⟨result, hResult⟩ := ih.mpr hRest
        exact ⟨result, next, hTakes, hResult⟩

/-- The only condition beyond single members is that a limit, if set, is not zero. -/
theorem ofJson_object_eq_ok_iff :
    ofJson (.object members) = .ok options ↔
      empty.addMembers members = .ok options ∧ options.page.limit ≠ some 0 := by
  simp [ofJson_eq_ok_iff]

/-- An object with distinct keys is accepted exactly when every member is readable and supported,
and the limit is not zero. -/
theorem exists_ofJson_object_iff (hKeys : (members.map Prod.fst).Nodup) :
    (∃ options, ofJson (.object members) = .ok options) ↔
      (∀ member ∈ members, Readable member.1 member.2 ∧ member.1 ∉ unsupportedOperators) ∧
      ∀ value, ("limit", value) ∈ members → countOfJson "limit" value ≠ .ok (some 0) := by
  simp only [ofJson_object_eq_ok_iff]
  constructor
  · rintro ⟨options, hMembers, hLimit⟩
    refine ⟨exists_addMembers_iff.mp ⟨options, hMembers⟩, fun value hMember hZero => ?_⟩
    obtain ⟨hAbsent, _⟩ | ⟨other, hOther, hRead⟩ := setBy_limit.of_member hKeys hMembers
    · exact hAbsent value hMember
    · obtain rfl := value_unique hKeys hMember hOther
      exact hLimit (Except.ok.inj (hRead.symm.trans hZero))
  · rintro ⟨hReadable, hLimit⟩
    obtain ⟨options, hMembers⟩ : ∃ options, empty.addMembers members = .ok options :=
      exists_addMembers_iff.mpr hReadable
    refine ⟨options, hMembers, fun hZero => ?_⟩
    obtain ⟨_, hUnset⟩ | ⟨value, hMember, hRead⟩ := setBy_limit.of_member hKeys hMembers
    · exact absurd (hUnset.symm.trans hZero) (Option.some_ne_none 0).symm
    · exact hLimit value hMember (hRead.trans (congrArg Except.ok hZero))

end Acceptance

section Rearrangement

/-- The key is an option or an unsupported operator. All others are ignored. -/
def Matters (key : String) : Prop :=
  IsOption key ∨ key ∈ unsupportedOperators

/-- Generated by permutation and by inserting a member that does not matter. -/
inductive Rearranged : List (String × Json) → List (String × Json) → Prop where
  | reorder {members others : List (String × Json)} (h : members.Perm others) :
      Rearranged members others
  | insert {before after : List (String × Json)} {key : String} {value : Json}
      (h : ¬ Matters key) : Rearranged (before ++ after) (before ++ (key, value) :: after)
  | remove {before after : List (String × Json)} {key : String} {value : Json}
      (h : ¬ Matters key) : Rearranged (before ++ (key, value) :: after) (before ++ after)
  | trans {members between others : List (String × Json)} (h : Rearranged members between)
      (h' : Rearranged between others) : Rearranged members others

/-- Inserting a member that does not matter changes nothing about those that do. -/
theorem mem_insert_iff {before after : List (String × Json)} {other : String} {item : Json}
    (h : ¬ Matters other) (hKey : Matters key) :
    (key, value) ∈ before ++ (other, item) :: after ↔ (key, value) ∈ before ++ after := by
  have hOther : (key, value) ≠ (other, item) := fun hSame =>
    h ((Prod.mk.inj hSame).1 ▸ hKey)
  simp [hOther]

/-- Rearranged objects have the same members among the keys that matter. -/
theorem Rearranged.mem_iff (h : Rearranged members others) (hKey : Matters key) :
    (key, value) ∈ members ↔ (key, value) ∈ others := by
  induction h with
  | reorder h => exact h.mem_iff
  | insert h => exact (mem_insert_iff h hKey).symm
  | remove h => exact mem_insert_iff h hKey
  | trans _ _ ih ih' => exact ih.trans ih'

theorem Rearranged.symm (h : Rearranged members others) : Rearranged others members := by
  induction h with
  | reorder h => exact .reorder h.symm
  | insert h => exact .remove h
  | remove h => exact .insert h
  | trans _ _ ih ih' => exact .trans ih' ih

/-- Acceptance is invariant under rearrangement. Members that do not matter are always accepted. -/
theorem Rearranged.accepted (h : Rearranged members others)
    (hMembers : ∀ member ∈ members,
      Readable member.1 member.2 ∧ member.1 ∉ unsupportedOperators) :
    ∀ member ∈ others, Readable member.1 member.2 ∧ member.1 ∉ unsupportedOperators := by
  rintro ⟨key, value⟩ hMember
  by_cases hKey : Matters key
  · exact hMembers _ ((h.mem_iff hKey).mpr hMember)
  · obtain ⟨hOption, hOperator⟩ := not_or.mp hKey
    exact ⟨.other hOption, hOperator⟩

/-- Rearranged objects, both accepted, give equal options. -/
theorem Rearranged.addMembers_unique (h : Rearranged members others)
    (hKeys : (members.map Prod.fst).Nodup) (hOthers : (others.map Prod.fst).Nodup)
    {first second : SearchOptions} (hFirst : options.addMembers members = .ok first)
    (hSecond : options.addMembers others = .ok second) : first = second := by
  have hSame : ∀ key ∈ ["$in", "$text", "$raw", "limit", "page_token"],
      ∀ value, (key, value) ∈ members ↔ (key, value) ∈ others := by
    intro key hKey value
    exact h.mem_iff (.inl hKey)
  have hMemberships := setBy_memberships.part_eq hKeys hOthers (hSame _ (by decide)) hFirst hSecond
  have hText := setBy_text.part_eq hKeys hOthers (hSame _ (by decide)) hFirst hSecond
  have hRaw := setBy_raw.part_eq hKeys hOthers (hSame _ (by decide)) hFirst hSecond
  have hLimit := setBy_limit.part_eq hKeys hOthers (hSame _ (by decide)) hFirst hSecond
  have hOffset := setBy_offset.part_eq hKeys hOthers (hSame _ (by decide)) hFirst hSecond
  obtain ⟨memberships, text, raw, limit, offset⟩ := first
  obtain ⟨_, _, _, _, _⟩ := second
  cases hMemberships
  cases hText
  cases hRaw
  cases hLimit
  cases hOffset
  rfl

/-- Rearrangement preserves the result of reading. This requires distinct keys on both sides. -/
theorem Rearranged.ofJson_eq_ok (h : Rearranged members others)
    (hKeys : (members.map Prod.fst).Nodup) (hOthers : (others.map Prod.fst).Nodup)
    (hOptions : ofJson (.object members) = .ok options) :
    ofJson (.object others) = .ok options := by
  obtain ⟨hMembers, hLimit⟩ := (exists_ofJson_object_iff hKeys).mp ⟨options, hOptions⟩
  obtain ⟨again, hAgain⟩ := (exists_ofJson_object_iff hOthers).mpr ⟨h.accepted hMembers,
    fun value hMember => hLimit value
      ((h.mem_iff (.inl (isOption_iff.mpr (by decide)))).mpr hMember)⟩
  obtain rfl := h.addMembers_unique hKeys hOthers (ofJson_object_eq_ok_iff.mp hOptions).1
    (ofJson_object_eq_ok_iff.mp hAgain).1
  exact hAgain

/-- Acceptance is decided member by member, apart from a limit of zero. The result is invariant
under permutation, and under inserting or removing members that do not matter. Keys are assumed
distinct, as they are in a map. -/
theorem ofJson_memberwise (hKeys : (members.map Prod.fst).Nodup) :
    ((∃ options, ofJson (.object members) = .ok options) ↔
      (∀ member ∈ members, Readable member.1 member.2) ∧
      (∀ member ∈ members, member.1 ∉ unsupportedOperators) ∧
      ∀ value, ("limit", value) ∈ members → countOfJson "limit" value ≠ .ok (some 0)) ∧
    ∀ others, (others.map Prod.fst).Nodup → Rearranged members others → ∀ options,
      ofJson (.object members) = .ok options ↔ ofJson (.object others) = .ok options := by
  refine ⟨?_, fun others hOthers h options =>
    ⟨h.ofJson_eq_ok hKeys hOthers, h.symm.ofJson_eq_ok hOthers hKeys⟩⟩
  rw [exists_ofJson_object_iff hKeys, forall₂_and, and_assoc]

def coffeeMembers : List (String × Json) :=
  [("limit", .string " +025 "), ("$text", .object [("$search", .string "Café")]),
    ("$in", .array [.array [.string "tag", .array [.string "a", .null]]])]

/-- The members in another order, with one that does not matter in between. -/
def sortedCoffeeMembers : List (String × Json) :=
  coffeeMembers.drop 2 ++ ("sort", .array [.string "$gt"]) :: coffeeMembers.take 2

theorem coffeeMembers_rearranged : Rearranged coffeeMembers sortedCoffeeMembers := by
  have hOrder : coffeeMembers.Perm (coffeeMembers.drop 2 ++ coffeeMembers.take 2) :=
    @List.perm_append_comm _ (coffeeMembers.take 2) (coffeeMembers.drop 2)
  have hSort : ¬ Matters "sort" := by simp [Matters, IsOption, unsupportedOperators]
  exact .trans (.reorder hOrder) (.insert hSort)

/-- Both orders are accepted with equal options, with and without the meaningless member. -/
theorem ofJson_sortedCoffee : ∃ options, options.page.limit = some 25 ∧
    ofJson (.object coffeeMembers) = .ok options ∧
    ofJson (.object sortedCoffeeMembers) = .ok options := by
  obtain ⟨options, hLimit, hOptions⟩ : ∃ options : SearchOptions, options.page.limit = some 25 ∧
      ofJson (.object coffeeMembers) = .ok options := ⟨_, rfl, rfl⟩
  have hKeys : (coffeeMembers.map Prod.fst).Nodup := by decide
  have hSame := (ofJson_memberwise hKeys).2 _ (by decide) coffeeMembers_rearranged options
  exact ⟨options, hLimit, hOptions, hSame.mp hOptions⟩

end Rearrangement

end EntitySearch.SearchOptions
