import EntitySearch.Proofs.OperatorSafety
import EntitySearch.Proofs.OptionMembers
import EntitySearch.Proofs.WrittenValues

/-! Which options can be spelt as a value, and how: the options that are read from a value are
exactly those that can be written down as one, and reading them back gives them unchanged. -/
namespace EntitySearch

def Membership.toJson (membership : Membership) : Json :=
  .array [.string membership.field, .array membership.values]

def Condition.toJson : Condition → Json
  | .equals value => value
  | .anyOf values => .array values

/-- Conditions that have a spelling. Equality with an array would be read as a choice, and an object
with operators is refused. -/
def Condition.Spellable : Condition → Prop
  | .equals value => (∀ items, value ≠ .array items) ∧ ¬ value.HoldsOperator
  | .anyOf _ => True

/-- What is read as a condition can be spelt again, unless it is refused as an operator. -/
theorem Condition.ofJson_spellable {value : Json} (h : operatorIn? value = none) :
    (Condition.ofJson value).Spellable := by
  have hOperator := operatorIn?_eq_none_iff_not_holdsOperator.mp h
  cases value with
  | array items => trivial
  | null | bool | number | string | object => exact ⟨nofun, hOperator⟩

theorem Condition.Spellable.operatorIn?_toJson {condition : Condition} (h : condition.Spellable) :
    operatorIn? condition.toJson = none := by
  cases condition with
  | equals value => exact operatorIn?_eq_none_iff_not_holdsOperator.mpr h.2
  | anyOf values => rfl

/-- Reading inverts spelling on spellable conditions. An equality with an array is excluded, since
it would be read as a choice. -/
theorem Condition.Spellable.ofJson_toJson {condition : Condition} (h : condition.Spellable) :
    Condition.ofJson condition.toJson = condition := by
  cases condition with
  | equals value =>
      cases value with
      | array items => exact absurd rfl (h.1 items)
      | null | bool | number | string | object => rfl
  | anyOf values => rfl

theorem Condition.values_ofJson_distinct {value : Json} (h : value.Distinct) :
    ∀ item ∈ (Condition.ofJson value).values, item.Distinct := by
  cases value with
  | array items => exact Json.distinct_array_iff.mp h
  | null | bool | number | string | object => exact List.forall_mem_singleton.mpr h

theorem Condition.toJson_distinct {condition : Condition}
    (h : ∀ value ∈ condition.values, value.Distinct) : condition.toJson.Distinct := by
  cases condition with
  | equals value => exact List.forall_mem_singleton.mp h
  | anyOf values => exact .array h

namespace FilterSet

/-- Object that spells filters. This needs distinct fields. -/
def toJson (filters : FilterSet) : Json :=
  .object (filters.entries.map fun entry => (entry.field, entry.condition.toJson))

/-- Filters with a spelling: distinct fields, checked alike, with spellable conditions. -/
structure Spellable (tier : Tier) (filters : FilterSet) : Prop where
  tier : ∀ entry ∈ filters.entries, entry.tier = tier
  fields : (filters.entries.map FilterEntry.field).Nodup
  conditions : ∀ entry ∈ filters.entries, entry.condition.Spellable

variable {tier : Tier} {filters : FilterSet}

/-- Reading inverts spelling on filters, for either way of checking them. -/
theorem Spellable.ofJson_toJson (h : filters.Spellable tier) :
    ofJson tier filters.toJson = .ok filters := by
  rw [ofJson_eq_ok_iff]
  refine .inr ⟨_, rfl, ?_⟩
  rw [List.forall₂_map_left_iff, List.forall₂_same]
  intro entry hEntry
  have hCondition := h.conditions entry hEntry
  refine ⟨hCondition.operatorIn?_toJson, ?_⟩
  rw [hCondition.ofJson_toJson, ← h.tier entry hEntry]

/-- Filters read from a value without repeated keys can be spelt again. -/
theorem Spellable.of_ofJson {value : Json} (hValue : value.Distinct)
    (h : ofJson tier value = .ok filters) : filters.Spellable tier := by
  have hEntries : ∀ entry ∈ filters.entries, entry.tier = tier ∧ entry.condition.Spellable := by
    intro entry hEntry
    obtain ⟨_, _, _, _, hOperator, rfl⟩ := of_mem_ofJson h hEntry
    exact ⟨rfl, Condition.ofJson_spellable hOperator⟩
  refine ⟨fun entry hEntry => (hEntries entry hEntry).1, ?_,
    fun entry hEntry => (hEntries entry hEntry).2⟩
  obtain ⟨_, rfl⟩ | ⟨members, rfl, hMembers⟩ := ofJson_eq_ok_iff.mp h
  · exact List.nodup_nil
  · have hFields : members.map Prod.fst = filters.entries.map FilterEntry.field :=
      map_eq_map_of_forall₂ hMembers fun member entry hRead => by rw [hRead.2]
    exact hFields ▸ (Json.distinct_object_iff.mp hValue).1

theorem values_distinct_of_ofJson {value : Json} (hValue : value.Distinct)
    (h : ofJson tier value = .ok filters) :
    ∀ entry ∈ filters.entries, ∀ item ∈ entry.condition.values, item.Distinct := by
  intro entry hEntry
  obtain ⟨members, member, rfl, hMember, _, rfl⟩ := of_mem_ofJson h hEntry
  exact Condition.values_ofJson_distinct ((Json.distinct_object_iff.mp hValue).2 member hMember)

theorem toJson_distinct (hFields : (filters.entries.map FilterEntry.field).Nodup)
    (hValues : ∀ entry ∈ filters.entries, ∀ item ∈ entry.condition.values, item.Distinct) :
    filters.toJson.Distinct := by
  refine .object ?_ fun member hMember => ?_
  · rwa [List.map_map]
  · obtain ⟨entry, hEntry, rfl⟩ := List.mem_map.mp hMember
    exact Condition.toJson_distinct (hValues entry hEntry)

end FilterSet

namespace SearchOptions

/-- The pairs accepted are exactly the spelt memberships. No other shape is read as one. -/
theorem membershipsOfPairs_eq_ok_iff {index : Nat} {entries : List Json}
    {memberships : List Membership} :
    membershipsOfPairs index entries = .ok memberships ↔
      entries = memberships.map Membership.toJson := by
  fun_induction membershipsOfPairs index entries generalizing memberships with
  | case1 => cases memberships <;> simp
  | case2 index field values rest ih =>
      simp only [bind_pure_eq_ok_iff, ih]
      constructor
      · rintro ⟨others, rfl, rfl⟩
        rfl
      · intro h
        obtain _ | ⟨first, others⟩ := memberships
        · cases h
        · obtain ⟨hFirst, rfl⟩ := List.cons.inj h
          cases hFirst
          exact ⟨others, rfl, rfl⟩
  | case3 index entry rest hPair =>
      simp only [malformed, reduceCtorEq, false_iff]
      intro h
      obtain _ | ⟨first, others⟩ := memberships
      · cases h
      · exact hPair first.field first.values (List.cons.inj h).1

theorem membershipsOfJson_eq_ok_iff {value : Json} {memberships : List Membership} :
    membershipsOfJson value = .ok memberships ↔
      value = .array (memberships.map Membership.toJson) := by
  cases value with
  | array entries => simp [membershipsOfJson, membershipsOfPairs_eq_ok_iff]
  | null | bool | number | string | object => simp [membershipsOfJson, malformed]

/-- A count written as an integer is read back, over the whole range of a word. -/
theorem countOfJson_ofUInt64 (option : String) (n : UInt64) :
    countOfJson option (.ofUInt64 n) = .ok (some n) := by
  simp [countOfJson, Json.ofUInt64, Number.ofUInt64, WordInt.ofUInt64, WordInt.toUInt64?]

/-- The members of the spelling in a fixed order. Unset parts are left out. -/
def members (options : SearchOptions) : List (String × Json) :=
  branchMember "$in" (options.memberships.map Membership.toJson) ++
    (options.text.map fun term => ("$text", Json.object [("$search", .string term)])).toList ++
    (if options.raw.isEmpty then [] else [("$raw", options.raw.toJson)]) ++
    (options.page.limit.map fun limit => ("limit", Json.ofUInt64 limit)).toList ++
    (options.page.offset.map fun offset => ("page_token", Json.ofUInt64 offset)).toList

def toJson (options : SearchOptions) : Json :=
  .object options.members

/-- Options with a spelling: no limit of zero, and spellable raw filters. -/
structure Spellable (options : SearchOptions) : Prop where
  limit : options.page.limit ≠ some 0
  raw : options.raw.Spellable .raw

/-- No object in the values of the options repeats a key. -/
structure Distinct (options : SearchOptions) : Prop where
  memberships : ∀ membership ∈ options.memberships, ∀ value ∈ membership.values, value.Distinct
  raw : ∀ entry ∈ options.raw.entries, ∀ value ∈ entry.condition.values, value.Distinct

section Reading

variable (memberships : List Membership) (text : Option String) (raw : FilterSet) (page : Page)

/-- Reading members is a fold, errors included: the first part fails before the second is read. -/
theorem addMembers_append (options : SearchOptions) (front back : List (String × Json)) :
    options.addMembers (front ++ back) =
      (options.addMembers front >>= fun next => next.addMembers back) := by
  induction front generalizing options with
  | nil => rfl
  | cons member rest ih =>
      obtain ⟨key, value⟩ := member
      simp only [List.cons_append, addMembers, ih, bind_assoc]

theorem addMembers_singleton (options : SearchOptions) (key : String) (value : Json) :
    options.addMembers [(key, value)] = options.addMember key value :=
  bind_pure (options.addMember key value)

theorem addMembers_memberships :
    addMembers ⟨[], text, raw, page⟩ (branchMember "$in" (memberships.map Membership.toJson)) =
      .ok ⟨memberships, text, raw, page⟩ := by
  cases memberships with
  | nil => rfl
  | cons first rest =>
      rw [List.map_cons, branchMember, ← List.map_cons, addMembers_singleton,
        addMember_memberships, membershipsOfJson_eq_ok_iff.mpr rfl]
      · rfl
      · exact List.cons_ne_nil _ _

/-- A part written only when it is set is read back in either case. -/
theorem addMembers_setting {α : Type} {key : String} {write : α → Json}
    (options : Option α → SearchOptions)
    (hAdd : ∀ x, (options none).addMember key (write x) = .ok (options (some x)))
    (setting : Option α) :
    (options none).addMembers (setting.map fun x => (key, write x)).toList =
      .ok (options setting) := by
  cases setting with
  | none => rfl
  | some x => rw [Option.map_some, Option.toList_some, addMembers_singleton, hAdd]

theorem addMembers_text :
    addMembers ⟨memberships, none, raw, page⟩
        (text.map fun term => ("$text", Json.object [("$search", .string term)])).toList =
      .ok ⟨memberships, text, raw, page⟩ := by
  refine addMembers_setting (fun text => ⟨memberships, text, raw, page⟩) (fun term => ?_) text
  rw [addMember_text]
  rfl

/-- Raw filters are written as one object, or left out when there are none. -/
theorem addMembers_raw (h : raw.Spellable .raw) :
    addMembers ⟨memberships, text, .empty, page⟩
        (if raw.isEmpty then [] else [("$raw", raw.toJson)]) =
      .ok ⟨memberships, text, raw, page⟩ := by
  split
  · rename_i hEmpty
    obtain ⟨entries⟩ := raw
    obtain rfl := List.isEmpty_iff.mp hEmpty
    rfl
  · rw [addMembers_singleton, addMember_raw, h.ofJson_toJson]
    rfl

theorem addMembers_limit (limit offset : Option UInt64) :
    addMembers ⟨memberships, text, raw, ⟨none, offset⟩⟩
        (limit.map fun limit => ("limit", Json.ofUInt64 limit)).toList =
      .ok ⟨memberships, text, raw, ⟨limit, offset⟩⟩ := by
  refine addMembers_setting (fun limit => ⟨memberships, text, raw, ⟨limit, offset⟩⟩)
    (fun n => ?_) limit
  rw [addMember_limit, countOfJson_ofUInt64]
  rfl

theorem addMembers_offset (limit offset : Option UInt64) :
    addMembers ⟨memberships, text, raw, ⟨limit, none⟩⟩
        (offset.map fun offset => ("page_token", Json.ofUInt64 offset)).toList =
      .ok ⟨memberships, text, raw, ⟨limit, offset⟩⟩ := by
  refine addMembers_setting (fun offset => ⟨memberships, text, raw, ⟨limit, offset⟩⟩)
    (fun n => ?_) offset
  rw [addMember_offset, countOfJson_ofUInt64]
  rfl

/-- Reading inverts spelling on spellable options, with every part set or unset. -/
theorem Spellable.ofJson_toJson {options : SearchOptions} (h : options.Spellable) :
    ofJson options.toJson = .ok options := by
  rw [toJson, ofJson_object_eq_ok_iff]
  refine ⟨?_, h.limit⟩
  obtain ⟨memberships, text, raw, limit, offset⟩ := options
  have hRaw : raw.Spellable .raw := h.raw
  simp only [members, addMembers_append, empty, addMembers_memberships, bind, Except.bind,
    addMembers_text, addMembers_raw _ _ _ _ hRaw, addMembers_limit, addMembers_offset]

end Reading

/-- Options read from a value are spellable, and distinct if the value is. -/
theorem spellable_of_ofJson {value : Json} {options : SearchOptions} (hValue : value.Distinct)
    (h : ofJson value = .ok options) : options.Spellable ∧ options.Distinct := by
  obtain ⟨_, rfl⟩ | ⟨members, rfl, hMembers, hLimit⟩ := ofJson_eq_ok_iff.mp h
  · exact ⟨⟨nofun, ⟨nofun, List.nodup_nil, nofun⟩⟩, ⟨nofun, nofun⟩⟩
  · obtain ⟨hKeys, hEach⟩ := Json.distinct_object_iff.mp hValue
    have hRaw : options.raw.Spellable .raw ∧
        ∀ entry ∈ options.raw.entries, ∀ item ∈ entry.condition.values, item.Distinct := by
      obtain ⟨_, hUnset⟩ | ⟨raw, hMember, hRead⟩ := setBy_raw.of_member hKeys hMembers
      · rw [hUnset]
        exact ⟨⟨nofun, List.nodup_nil, nofun⟩, nofun⟩
      · have hRawValue : raw.Distinct := hEach _ hMember
        exact ⟨.of_ofJson hRawValue hRead, FilterSet.values_distinct_of_ofJson hRawValue hRead⟩
    have hMemberships : ∀ membership ∈ options.memberships, ∀ item ∈ membership.values,
        item.Distinct := by
      obtain ⟨_, hUnset⟩ | ⟨pairs, hMember, hRead⟩ := setBy_memberships.of_member hKeys hMembers
      · rw [hUnset]
        nofun
      · obtain rfl := membershipsOfJson_eq_ok_iff.mp hRead
        intro membership hMembership
        have hPair : membership.toJson.Distinct :=
          Json.distinct_array_iff.mp (hEach _ hMember) _ (List.mem_map_of_mem hMembership)
        simpa [Membership.toJson] using hPair
    exact ⟨⟨hLimit, hRaw.1⟩, ⟨hMemberships, hRaw.2⟩⟩

/-- The spelling of options has distinct keys. -/
theorem members_keys_nodup (options : SearchOptions) : (options.members.map Prod.fst).Nodup := by
  have hKeys : (options.members.map Prod.fst).Sublist
      (["$in"] ++ ["$text"] ++ ["$raw"] ++ ["limit"] ++ ["page_token"]) := by
    simp only [members, List.map_append]
    refine ((((List.Sublist.append ?_ ?_).append ?_).append ?_).append ?_)
    · cases options.memberships <;> simp [branchMember]
    · cases options.text <;> simp
    · cases options.raw.isEmpty <;> simp
    · cases options.page.limit <;> simp
    · cases options.page.offset <;> simp
  exact hKeys.nodup (by decide)

/-- Spelling introduces no repeated key at any depth. -/
theorem toJson_distinct {options : SearchOptions} (h : options.Spellable)
    (hValues : options.Distinct) : options.toJson.Distinct := by
  refine .object options.members_keys_nodup ?_
  have hMemberships : ∀ membership ∈ options.memberships, membership.toJson.Distinct := by
    intro membership hMembership
    have hItems := hValues.memberships membership hMembership
    simpa [Membership.toJson] using hItems
  simp only [members, List.forall_mem_append]
  refine ⟨⟨⟨⟨?_, ?_⟩, ?_⟩, ?_⟩, ?_⟩
  · cases hPairs : options.memberships with
    | nil => nofun
    | cons first rest =>
        rw [hPairs] at hMemberships
        simpa [branchMember] using hMemberships
  · cases options.text <;> simp
  · cases options.raw.isEmpty with
    | true => nofun
    | false =>
        have hRaw := FilterSet.toJson_distinct h.raw.fields hValues.raw
        simpa using hRaw
  · cases options.page.limit <;> simp [Json.ofUInt64]
  · cases options.page.offset <;> simp [Json.ofUInt64]

/-- Compiling a spelling gives what compiling the options gives, error or search. -/
theorem Spellable.assembleJson_toJson {options : SearchOptions} (h : options.Spellable)
    (registry : Registry) (entity : String) (filters : Json) :
    registry.assembleJson entity filters options.toJson =
      (FilterSet.ofJson .known filters >>= fun read => registry.assemble entity read options) := by
  rw [Registry.assembleJson, h.ofJson_toJson]
  rfl

/-- The exact image of reading on values without repeated keys: no limit of zero, and raw filters
with distinct fields and no value that would be refused or read as a list. Each such options value
is read back from its spelling, which compiles to the same result. -/
theorem exists_spelling_iff (options : SearchOptions) :
    ((∃ value : Json, value.Distinct ∧ ofJson value = .ok options) ↔
      options.Spellable ∧ options.Distinct) ∧
    (options.Spellable → ofJson options.toJson = .ok options ∧
      ∀ (registry : Registry) (entity : String),
        (∀ filters, registry.assembleJson entity filters options.toJson =
          FilterSet.ofJson .known filters >>= fun read => registry.assemble entity read options) ∧
        ∀ filters : FilterSet, filters.Spellable .known →
          registry.assembleJson entity filters.toJson options.toJson =
            registry.assemble entity filters options) := by
  constructor
  · constructor
    · rintro ⟨value, hValue, hRead⟩
      exact spellable_of_ofJson hValue hRead
    · rintro ⟨hOptions, hValues⟩
      exact ⟨options.toJson, toJson_distinct hOptions hValues, hOptions.ofJson_toJson⟩
  · intro hOptions
    refine ⟨hOptions.ofJson_toJson, fun registry entity =>
      ⟨hOptions.assembleJson_toJson registry entity, fun filters hFilters => ?_⟩⟩
    rw [hOptions.assembleJson_toJson, hFilters.ofJson_toJson]
    rfl

/-- Options of every kind. A field may be asked for twice, and an operator may stand in a list. -/
def everyOption : SearchOptions where
  memberships := [⟨"tag", [.string "a", .null]⟩, ⟨"tag", []⟩]
  text := some "Café"
  raw := ⟨[⟨"score", .anyOf [Registry.atLeastThree], .raw⟩, ⟨"", .anyOf [], .raw⟩,
    ⟨"owner", .equals (.object [("name", .null)]), .raw⟩]⟩
  page := ⟨some 1, some 0⟩

theorem everyOption_spellable : everyOption.Spellable := by
  have hOwner : operatorIn? (.object [("name", .null)]) = none := by decide
  refine ⟨by decide, ⟨?_, by decide, ?_⟩⟩
  · simp [everyOption]
  · simp [everyOption, Condition.Spellable, operatorIn?_eq_none_iff_not_holdsOperator.mp hOwner]

theorem doneFilter_spellable :
    (FilterSet.empty.equals "done" (.bool true)).Spellable .known := by
  have hDone : operatorIn? (.bool true) = none := rfl
  refine ⟨?_, by decide, ?_⟩
  · simp [FilterSet.equals, FilterSet.push, FilterSet.empty]
  · simp [FilterSet.equals, FilterSet.push, FilterSet.empty, Condition.Spellable,
      operatorIn?_eq_none_iff_not_holdsOperator.mp hDone]

/-- Options of every kind, with a field asked for twice and an operator in a list, are read back and
compile from their spelling. -/
theorem everyOption_spelt :
    everyOption.Spellable ∧ (FilterSet.empty.equals "done" (.bool true)).Spellable .known ∧
      ofJson everyOption.toJson = .ok everyOption ∧
      taskRegistry.assembleJson "tasks" (FilterSet.empty.equals "done" (.bool true)).toJson
          everyOption.toJson =
        taskRegistry.assemble "tasks" (FilterSet.empty.equals "done" (.bool true)) everyOption := by
  obtain ⟨hRead, hCompile⟩ := (exists_spelling_iff everyOption).2 everyOption_spellable
  exact ⟨everyOption_spellable, doneFilter_spellable, hRead,
    (hCompile taskRegistry "tasks").2 _ doneFilter_spellable⟩

end SearchOptions

end EntitySearch
