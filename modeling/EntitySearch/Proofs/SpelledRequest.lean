import EntitySearch.Proofs.Compilation

/-! Requests that are spelt as values: how filters and options are read from them, and which
complaint comes first when something is wrong. -/
namespace EntitySearch

namespace FilterSet

variable {tier : Tier}

/-- A member is refused only for an operator in a scalar position. -/
theorem entryOfMember_eq_ok_iff {member : String × Json} {entry : FilterEntry} :
    entryOfMember tier member = .ok entry ↔
      operatorIn? member.2 = none ∧ entry = ⟨member.1, .ofJson member.2, tier⟩ := by
  unfold entryOfMember
  cases operatorIn? member.2 <;> simp [eq_comm]

/-- Filters are read from null or from an object, and then with one entry for each member, in order.
Repeated keys give separate entries. -/
theorem ofJson_eq_ok_iff {value : Json} {filters : FilterSet} :
    ofJson tier value = .ok filters ↔
      value = .null ∧ filters = empty ∨
      ∃ members, value = .object members ∧
        List.Forall₂ (fun member entry => operatorIn? member.2 = none ∧
          entry = ⟨member.1, .ofJson member.2, tier⟩) members filters.entries := by
  cases value with
  | null => simp [ofJson, eq_comm]
  | object members =>
      obtain ⟨entries⟩ := filters
      simp only [ofJson, bind_pure_eq_ok_iff, mapM_eq_ok_iff, entryOfMember_eq_ok_iff,
        FilterSet.mk.injEq, exists_eq_right, reduceCtorEq, false_and, false_or,
        Json.object.injEq, exists_eq_left']
  | bool | number | string | array => simp [ofJson]

/-- Every entry has the tier it was read for and comes from a member. -/
theorem of_mem_ofJson {value : Json} {filters : FilterSet} {entry : FilterEntry}
    (h : ofJson tier value = .ok filters) (hEntry : entry ∈ filters.entries) :
    ∃ members member, value = .object members ∧ member ∈ members ∧
      operatorIn? member.2 = none ∧ entry = ⟨member.1, .ofJson member.2, tier⟩ := by
  obtain ⟨_, rfl⟩ | ⟨members, hValue, hEntries⟩ := ofJson_eq_ok_iff.mp h
  · cases hEntry
  · obtain ⟨member, hMember, hSpelt⟩ := exists_of_forall₂_of_mem hEntries.flip hEntry
    exact ⟨members, member, hValue, hMember, hSpelt⟩

theorem mem_of_ofJson {members : List (String × Json)} {filters : FilterSet}
    {member : String × Json} (h : ofJson tier (.object members) = .ok filters)
    (hMember : member ∈ members) :
    ⟨member.1, .ofJson member.2, tier⟩ ∈ filters.entries := by
  obtain ⟨hNull, _⟩ | ⟨_, hValue, hEntries⟩ := ofJson_eq_ok_iff.mp h
  · cases hNull
  · obtain rfl := Json.object.inj hValue
    obtain ⟨entry, hEntry, _, rfl⟩ := exists_of_forall₂_of_mem hEntries hMember
    exact hEntry

/-- Filters that cannot be read are a bad request, whatever is wrong with them. -/
theorem status_of_ofJson {value : Json} {error : SearchError}
    (h : ofJson tier value = .error error) : error.status = 400 := by
  cases value with
  | null => cases h
  | object members =>
      rw [ofJson, bind_pure_eq_error_iff, mapM_eq_error_iff] at h
      obtain ⟨_, member, _, _, _, hMember⟩ := h
      unfold entryOfMember at hMember
      split at hMember
      · obtain rfl := Except.error.inj hMember
        rfl
      · cases hMember
  | bool | number | string | array =>
      obtain rfl := Except.error.inj h
      rfl

end FilterSet

namespace SearchOptions

variable {options next : SearchOptions} {key : String} {value : Json}

def IsOption (key : String) : Prop :=
  key ∈ ["$in", "$text", "$raw", "limit", "page_token"]

/-- Relation of reading one member: an option replaces its own part, and any other key changes
nothing unless it is an unsupported operator. -/
inductive Takes (options : SearchOptions) : String → Json → SearchOptions → Prop where
  | memberships {value : Json} {memberships : List Membership}
      (h : membershipsOfJson value = .ok memberships) :
      Takes options "$in" value { options with memberships }
  | text {value : Json} {term : String} (h : termOfJson value = .ok term) :
      Takes options "$text" value { options with text := some term }
  | raw {value : Json} {raw : FilterSet} (h : FilterSet.ofJson .raw value = .ok raw) :
      Takes options "$raw" value { options with raw }
  | limit {value : Json} {limit : Option UInt64} (h : countOfJson "limit" value = .ok limit) :
      Takes options "limit" value { options with page := { options.page with limit } }
  | offset {value : Json} {offset : Option UInt64}
      (h : countOfJson "page_token" value = .ok offset) :
      Takes options "page_token" value { options with page := { options.page with offset } }
  | other {key : String} {value : Json} (hOption : ¬ IsOption key)
      (hOperator : isUnsupportedOperator key = false) : Takes options key value options

theorem addMember_memberships : options.addMember "$in" value =
    (membershipsOfJson value >>= fun memberships => pure { options with memberships }) := by
  rw [addMember, if_pos rfl]

theorem addMember_text : options.addMember "$text" value =
    (termOfJson value >>= fun term => pure { options with text := some term }) := by
  rw [addMember, if_neg (by decide), if_pos rfl]

theorem addMember_raw : options.addMember "$raw" value =
    (FilterSet.ofJson .raw value >>= fun raw => pure { options with raw }) := by
  rw [addMember, if_neg (by decide), if_neg (by decide), if_pos rfl]

theorem addMember_limit : options.addMember "limit" value =
    (countOfJson "limit" value >>= fun limit =>
      pure { options with page := { options.page with limit } }) := by
  rw [addMember, if_neg (by decide), if_neg (by decide), if_neg (by decide), if_pos rfl]

theorem addMember_offset : options.addMember "page_token" value =
    (countOfJson "page_token" value >>= fun offset =>
      pure { options with page := { options.page with offset } }) := by
  rw [addMember, if_neg (by decide), if_neg (by decide), if_neg (by decide),
    if_neg (by decide), if_pos rfl]

/-- A key that is no option is ignored, unless it is an unsupported operator. -/
theorem addMember_other (h : ¬ IsOption key) : options.addMember key value =
    if isUnsupportedOperator key then
      .error (.unsupportedOperator key ((operandField? value).getD "*"))
    else .ok options := by
  simp only [IsOption, List.mem_cons, List.not_mem_nil, or_false, not_or] at h
  obtain ⟨hIn, hText, hRaw, hLimit, hOffset⟩ := h
  rw [addMember, if_neg hIn, if_neg hText, if_neg hRaw, if_neg hLimit, if_neg hOffset]
  rfl

theorem isOption_iff : IsOption key ↔
    key = "$in" ∨ key = "$text" ∨ key = "$raw" ∨ key = "limit" ∨ key = "page_token" := by
  simp [IsOption]

/-- The relation of `Takes` agrees with the function, by one case for each option. -/
theorem addMember_eq_ok_iff :
    options.addMember key value = .ok next ↔ options.Takes key value next := by
  constructor
  · intro h
    by_cases hOption : IsOption key
    · rcases isOption_iff.mp hOption with rfl | rfl | rfl | rfl | rfl
      · rw [addMember_memberships] at h
        obtain ⟨memberships, hRead, rfl⟩ := bind_pure_eq_ok_iff.mp h
        exact .memberships hRead
      · rw [addMember_text] at h
        obtain ⟨term, hRead, rfl⟩ := bind_pure_eq_ok_iff.mp h
        exact .text hRead
      · rw [addMember_raw] at h
        obtain ⟨raw, hRead, rfl⟩ := bind_pure_eq_ok_iff.mp h
        exact .raw hRead
      · rw [addMember_limit] at h
        obtain ⟨limit, hRead, rfl⟩ := bind_pure_eq_ok_iff.mp h
        exact .limit hRead
      · rw [addMember_offset] at h
        obtain ⟨offset, hRead, rfl⟩ := bind_pure_eq_ok_iff.mp h
        exact .offset hRead
    · rw [addMember_other hOption] at h
      cases hOperator : isUnsupportedOperator key with
      | true => simp [hOperator] at h
      | false =>
          rw [hOperator, if_neg Bool.false_ne_true] at h
          obtain rfl := Except.ok.inj h
          exact .other hOption hOperator
  · intro h
    cases h with
    | memberships h => rw [addMember_memberships, h]; rfl
    | text h => rw [addMember_text, h]; rfl
    | raw h => rw [addMember_raw, h]; rfl
    | limit h => rw [addMember_limit, h]; rfl
    | offset h => rw [addMember_offset, h]; rfl
    | other hOption hOperator =>
        rw [addMember_other hOption, hOperator, if_neg Bool.false_ne_true]

/-- No accepted member has an unsupported operator as its key. -/
theorem Takes.isUnsupportedOperator_eq_false (h : options.Takes key value next) :
    isUnsupportedOperator key = false := by
  cases h with
  | memberships | text | raw | limit | offset => decide
  | other _ hOperator => exact hOperator

/-- A part of the options that one key sets and no other key affects. -/
structure SetBy {α : Type} (key : String) (part : SearchOptions → α)
    (read : Json → Except SearchError α) : Prop where
  set : ∀ {options value next}, Takes options key value next → read value = .ok (part next)
  keep : ∀ {options other value next}, Takes options other value next → other ≠ key →
    part next = part options

/-- Frame lemma: a member affects only the part of its own key. -/
theorem Takes.keeps (h : options.Takes key value next) :
    (key ≠ "$in" → next.memberships = options.memberships) ∧
    (key ≠ "$text" → next.text = options.text) ∧
    (key ≠ "$raw" → next.raw = options.raw) ∧
    (key ≠ "limit" → next.page.limit = options.page.limit) ∧
    (key ≠ "page_token" → next.page.offset = options.page.offset) := by
  cases h <;> simp

/-- Each option is such a part, by how it is read and where it is stored. The five lemmas after
it are its instances. -/
theorem SetBy.of_addMember {α : Type} {part : SearchOptions → α}
    {read : Json → Except SearchError α} {write : SearchOptions → α → SearchOptions}
    (hAdd : ∀ options value, addMember options key value =
      (read value >>= fun x => pure (write options x)))
    (hPart : ∀ options x, part (write options x) = x)
    (hKeep : ∀ {options other value next}, Takes options other value next → other ≠ key →
      part next = part options) : SetBy key part read where
  set h := by
    rw [← addMember_eq_ok_iff, hAdd] at h
    obtain ⟨x, hRead, rfl⟩ := bind_pure_eq_ok_iff.mp h
    rw [hRead, hPart]
  keep := hKeep

theorem setBy_memberships : SetBy "$in" SearchOptions.memberships membershipsOfJson :=
  .of_addMember (fun _ _ => addMember_memberships) (fun _ _ => rfl) (fun h => h.keeps.1)

theorem setBy_text :
    SetBy "$text" SearchOptions.text fun value => (termOfJson value).map some := by
  have hAdd : ∀ (options : SearchOptions) value, options.addMember "$text" value =
      ((termOfJson value).map some >>= fun text => pure { options with text }) := by
    intro options value
    rw [addMember_text]
    cases termOfJson value <;> rfl
  exact .of_addMember hAdd (fun _ _ => rfl) (fun h => h.keeps.2.1)

theorem setBy_raw : SetBy "$raw" SearchOptions.raw (FilterSet.ofJson .raw) :=
  .of_addMember (fun _ _ => addMember_raw) (fun _ _ => rfl) (fun h => h.keeps.2.2.1)

theorem setBy_limit : SetBy "limit" (·.page.limit) (countOfJson "limit") :=
  .of_addMember (fun _ _ => addMember_limit) (fun _ _ => rfl) (fun h => h.keeps.2.2.2.1)

theorem setBy_offset : SetBy "page_token" (·.page.offset) (countOfJson "page_token") :=
  .of_addMember (fun _ _ => addMember_offset) (fun _ _ => rfl) (fun h => h.keeps.2.2.2.2)

/-- Run lemma: after all members, a part has the value of the last member of its key, or its former
value without one. -/
theorem SetBy.addMembers {α : Type} {part : SearchOptions → α}
    {read : Json → Except SearchError α} (hPart : SetBy key part read)
    {members : List (String × Json)} {result : SearchOptions}
    (h : options.addMembers members = .ok result) :
    members.reverse.lookup key = none ∧ part result = part options ∨
      ∃ value, members.reverse.lookup key = some value ∧ read value = .ok (part result) := by
  -- The last value of a key is the first one from the end, so it lies in the rest if it is there.
  induction members generalizing options with
  | nil =>
      obtain rfl := Except.ok.inj h
      exact .inl ⟨rfl, rfl⟩
  | cons member rest ih =>
      obtain ⟨name, value⟩ := member
      rw [SearchOptions.addMembers] at h
      obtain ⟨next, hMember, hRest⟩ := bind_eq_ok_iff.mp h
      have hTakes := addMember_eq_ok_iff.mp hMember
      rw [List.reverse_cons, List.lookup_append]
      obtain ⟨hAbsent, hSame⟩ | ⟨last, hLast, hRead⟩ := ih hRest
      · rw [hAbsent, Option.none_or]
        by_cases hName : name = key
        · subst hName
          exact .inr ⟨value, by simp, hSame ▸ hPart.set hTakes⟩
        · refine .inl ⟨?_, hSame.trans (hPart.keep hTakes hName)⟩
          simp [List.lookup_cons, beq_eq_false_iff_ne.mpr (Ne.symm hName)]
      · exact .inr ⟨last, by rw [hLast, Option.some_or], hRead⟩

/-- Every member of an accepted object has been accepted at some point of the run. -/
theorem takes_of_addMembers {members : List (String × Json)} {result : SearchOptions}
    (h : options.addMembers members = .ok result) :
    ∀ member ∈ members, ∃ before after : SearchOptions, before.Takes member.1 member.2 after := by
  induction members generalizing options with
  | nil => simp
  | cons member rest ih =>
      rw [SearchOptions.addMembers] at h
      obtain ⟨next, hMember, hRest⟩ := bind_eq_ok_iff.mp h
      exact List.forall_mem_cons.mpr ⟨⟨options, next, addMember_eq_ok_iff.mp hMember⟩, ih hRest⟩

/-- Options are read from null, or from an object whose members are all accepted and set no limit of
zero. -/
theorem ofJson_eq_ok_iff :
    ofJson value = .ok options ↔
      value = .null ∧ options = empty ∨
      ∃ members, value = .object members ∧ empty.addMembers members = .ok options ∧
        options.page.limit ≠ some 0 := by
  cases value with
  | null => simp [ofJson, eq_comm]
  | object members =>
      simp only [ofJson, bind_eq_ok_iff, reduceCtorEq, false_and, false_or, Json.object.injEq,
        exists_eq_left']
      constructor
      · rintro ⟨result, hMembers, hResult⟩
        split at hResult
        · cases hResult
        · rename_i hLimit
          obtain rfl := pure_eq_ok_iff.mp hResult
          exact ⟨hMembers, hLimit⟩
      · rintro ⟨hMembers, hLimit⟩
        exact ⟨options, hMembers, by rw [if_neg hLimit]; rfl⟩
  | bool | number | string | array => simp [ofJson, malformed]

theorem status_of_membershipsOfPairs {index : Nat} {entries : List Json} {error : SearchError}
    (h : membershipsOfPairs index entries = .error error) : error.status = 400 := by
  fun_induction membershipsOfPairs index entries with
  | case1 => cases h
  | case2 index field values rest ih =>
      exact ih (bind_pure_eq_error_iff.mp h)
  | case3 =>
      obtain rfl := Except.error.inj h
      rfl

theorem status_of_termOfJson {error : SearchError} (h : termOfJson value = .error error) :
    error.status = 400 := by
  unfold termOfJson at h
  split at h
  · split at h
    · cases h
    · cases h
    · cases h
    · obtain rfl := Except.error.inj h
      rfl
  · obtain rfl := Except.error.inj h
    rfl

/-- The errors of counts are all malformed options, under the name they were read for. -/
theorem exists_fault_of_countOfJson {option : String} {error : SearchError}
    (h : countOfJson option value = .error error) :
    ∃ fault, error = .validation (.malformedOption option fault) := by
  unfold countOfJson malformed at h
  grind

theorem status_of_countOfJson {option : String} {error : SearchError}
    (h : countOfJson option value = .error error) : error.status = 400 := by
  obtain ⟨fault, rfl⟩ := exists_fault_of_countOfJson h
  rfl

theorem status_of_addMember {error : SearchError}
    (h : options.addMember key value = .error error) : error.status = 400 := by
  by_cases hOption : IsOption key
  · rcases isOption_iff.mp hOption with rfl | rfl | rfl | rfl | rfl
    · rw [addMember_memberships, bind_pure_eq_error_iff] at h
      unfold membershipsOfJson at h
      split at h
      · exact status_of_membershipsOfPairs h
      · obtain rfl := Except.error.inj h
        rfl
    · rw [addMember_text, bind_pure_eq_error_iff] at h
      exact status_of_termOfJson h
    · rw [addMember_raw, bind_pure_eq_error_iff] at h
      exact FilterSet.status_of_ofJson h
    · rw [addMember_limit, bind_pure_eq_error_iff] at h
      exact status_of_countOfJson h
    · rw [addMember_offset, bind_pure_eq_error_iff] at h
      exact status_of_countOfJson h
  · rw [addMember_other hOption] at h
    split at h
    · obtain rfl := Except.error.inj h
      rfl
    · cases h

/-- Run lemma for `status_of_addMember`. -/
theorem status_of_addMembers {members : List (String × Json)} {error : SearchError}
    (h : options.addMembers members = .error error) : error.status = 400 := by
  induction members generalizing options with
  | nil => cases h
  | cons member rest ih =>
      rw [addMembers, bind_eq_error_iff] at h
      obtain hMember | ⟨next, _, hRest⟩ := h
      · exact status_of_addMember hMember
      · exact ih hRest

/-- Options that cannot be read are a bad request. No other status arises before the entity is
looked up. -/
theorem status_of_ofJson {error : SearchError} (h : ofJson value = .error error) :
    error.status = 400 := by
  cases value with
  | null => cases h
  | object members =>
      rw [ofJson, bind_eq_error_iff] at h
      obtain hMembers | ⟨result, _, hLimit⟩ := h
      · exact status_of_addMembers hMembers
      · split at hLimit
        · obtain rfl := Except.error.inj hLimit
          rfl
        · cases hLimit
  | bool | number | string | array =>
      obtain rfl := Except.error.inj h
      rfl

end SearchOptions

namespace Registry

variable {registry : Registry} {entity : String} {filters options : Json}

/-- A request in JSON compiles exactly when both parts can be read and the typed request
compiles. -/
theorem assembleJson_eq_ok_iff {search : CompiledSearch} :
    registry.assembleJson entity filters options = .ok search ↔
      ∃ read parsed, FilterSet.ofJson .known filters = .ok read ∧
        SearchOptions.ofJson options = .ok parsed ∧
        registry.assemble entity read parsed = .ok search := by
  simp only [assembleJson, bind_eq_ok_iff, exists_and_left]

/-- The order of errors: filters before options, and both before everything that needs the
registry. -/
theorem assembleJson_eq_error_iff {error : SearchError} :
    registry.assembleJson entity filters options = .error error ↔
      FilterSet.ofJson .known filters = .error error ∨
      ∃ read, FilterSet.ofJson .known filters = .ok read ∧
        (SearchOptions.ofJson options = .error error ∨
          ∃ parsed, SearchOptions.ofJson options = .ok parsed ∧
            registry.assemble entity read parsed = .error error) := by
  simp only [assembleJson, bind_eq_error_iff]

/-- For an unknown entity the error is exactly that, once both parts can be read, whatever they ask
for. If they cannot be read, the complaint about them comes first with status 400. -/
theorem assembleJson_of_unknown (h : registry.get? entity = none) (filters options : Json) :
    (∀ read parsed, FilterSet.ofJson .known filters = .ok read →
      SearchOptions.ofJson options = .ok parsed →
      registry.assembleJson entity filters options =
          .error (.configuration (.unknownEntity entity)) ∧
        (SearchError.configuration (.unknownEntity entity)).status = 500) ∧
    (∀ error, FilterSet.ofJson .known filters = .error error →
      registry.assembleJson entity filters options = .error error ∧ error.status = 400) ∧
    ∀ read error, FilterSet.ofJson .known filters = .ok read →
      SearchOptions.ofJson options = .error error →
      registry.assembleJson entity filters options = .error error ∧ error.status = 400 := by
  refine ⟨fun read parsed hRead hParsed => ⟨?_, rfl⟩, fun error hFilters => ⟨?_, ?_⟩,
    fun read error hRead hOptions => ⟨?_, ?_⟩⟩
  · have hUnknown : registry.assemble entity read parsed =
        .error (.configuration (.unknownEntity entity)) :=
      assemble_eq_error_iff.mpr (.inl ⟨h, rfl⟩)
    exact assembleJson_eq_error_iff.mpr (.inr ⟨read, hRead, .inr ⟨parsed, hParsed, hUnknown⟩⟩)
  · exact assembleJson_eq_error_iff.mpr (.inl hFilters)
  · exact FilterSet.status_of_ofJson hFilters
  · exact assembleJson_eq_error_iff.mpr (.inr ⟨read, hRead, .inl hOptions⟩)
  · exact SearchOptions.status_of_ofJson hOptions

/-- An undeclared field and an operator among memberships are both readable, so the unknown entity
is reported. -/
theorem calendars_unknown :
    taskRegistry.get? "calendars" = none ∧
      taskRegistry.assembleJson "calendars" (.object [("nowhere", .null)])
          (.object [("$in", .array [.array [.string "ghost",
            .array [.object [("$gt", .ofUInt64 1)]]]]), ("limit", .ofUInt64 7)]) =
        .error (.configuration (.unknownEntity "calendars")) :=
  ⟨rfl, ((assembleJson_of_unknown rfl _ _).1 _ _ rfl rfl).1⟩

/-- Filters that are no object are reported before the unknown entity. -/
theorem filters_before_unknown_entity :
    taskRegistry.get? "calendars" = none ∧
      taskRegistry.assembleJson "calendars" (.array [.string "status"]) (.object []) =
        .error (.validation (.malformedOption "filters" (.notObject "array"))) ∧
      taskRegistry.assembleJson "calendars" (.array [.string "status"]) (.object []) ≠
        .error (.configuration (.unknownEntity "calendars")) :=
  ⟨rfl, rfl, nofun⟩

end Registry

end EntitySearch
