import EntitySearch.Proofs.Compilation

/-! Which requests compile, and which error the others are refused with. -/
namespace EntitySearch

/-- Values that a field may be compared with: strings and numbers unless the field is boolean, and
booleans for every field. -/
def Json.Fits (field : SearchField) : Json → Prop
  | .bool _ => True
  | .string _ | .number _ => field.kind ≠ .boolean
  | .null | .array _ | .object _ => False

/-- Error of a value that does not fit. An object with operators is reported by the first of
them. -/
inductive Json.Misfit (field : SearchField) : Json → SearchError → Prop where
  | operator {before after : List (String × Json)} {key : String} {operand : Json}
      (hBefore : ∀ member ∈ before, ¬ isOperatorKey member.1) (hKey : isOperatorKey key) :
      Misfit field (.object (before ++ (key, operand) :: after))
        (.unsupportedOperator key field.name)
  | object {members : List (String × Json)} (h : ∀ member ∈ members, ¬ isOperatorKey member.1) :
      Misfit field (.object members)
        (.validation (.invalidValue field.name (.notScalar "object")))
  | array (items : List Json) :
      Misfit field (.array items) (.validation (.invalidValue field.name (.notScalar "array")))
  | null : Misfit field .null (.validation (.invalidValue field.name (.notScalar "null")))
  | string (text : String) (h : field.kind = .boolean) :
      Misfit field (.string text)
        (.validation (.invalidValue field.name (.notBoolean "string")))
  | number (n : Number) (h : field.kind = .boolean) :
      Misfit field (.number n) (.validation (.invalidValue field.name (.notBoolean "number")))

/-- The check of a value agrees with the specification of what fits. -/
theorem checkValue_eq_ok_iff {field : SearchField} {value : Json} :
    checkValue field value = .ok () ↔ value.Fits field := by
  cases value with
  | object members =>
      unfold checkValue
      cases operatorIn? (.object members) <;> simp [Json.Fits]
  | string text => by_cases hKind : field.kind = .boolean <;> simp [checkValue, Json.Fits, hKind]
  | number n => by_cases hKind : field.kind = .boolean <;> simp [checkValue, Json.Fits, hKind]
  | null => simp [checkValue, Json.Fits]
  | bool b => simp [checkValue, Json.Fits]
  | array items => simp [checkValue, Json.Fits]

/-- The operator found is the first key of an object that begins like one. -/
theorem operatorIn?_eq_some_iff {members : List (String × Json)} {key : String} :
    operatorIn? (.object members) = some key ↔
      ∃ before operand after, members = before ++ (key, operand) :: after ∧
        (∀ member ∈ before, ¬ isOperatorKey member.1) ∧ isOperatorKey key := by
  rw [operatorIn?, Option.map_eq_some_iff]
  constructor
  · rintro ⟨⟨_, operand⟩, hFind, rfl⟩
    obtain ⟨hKey, before, after, rfl, hBefore⟩ := List.find?_eq_some_iff_append.mp hFind
    exact ⟨before, operand, after, rfl, by simpa using hBefore, hKey⟩
  · rintro ⟨before, operand, after, rfl, hBefore, hKey⟩
    refine ⟨(key, operand), List.find?_eq_some_iff_append.mpr ⟨hKey, before, after, rfl, ?_⟩, rfl⟩
    simpa using hBefore

/-- No operator is found exactly when no key begins like one. The empty object has none. -/
theorem operatorIn?_eq_none_iff {members : List (String × Json)} :
    operatorIn? (.object members) = none ↔ ∀ member ∈ members, ¬ isOperatorKey member.1 := by
  simp [operatorIn?]

/-- An object never fits: its error names its first operator, or else says that it is no scalar. -/
theorem checkValue_object_eq_error_iff {field : SearchField} {members : List (String × Json)}
    {error : SearchError} :
    checkValue field (.object members) = .error error ↔
      (Json.object members).Misfit field error := by
  unfold checkValue
  cases hOperator : operatorIn? (.object members) with
  | none =>
      have hMembers := operatorIn?_eq_none_iff.mp hOperator
      simp only [Except.error.injEq]
      constructor
      · rintro rfl
        exact .object hMembers
      · intro hMisfit
        cases hMisfit with
        | operator _ hKey =>
            have hOther := hMembers _ (List.mem_append_right _ List.mem_cons_self)
            exact absurd hKey hOther
        | object _ => rfl
  | some key =>
      simp only [Except.error.injEq]
      constructor
      · rintro rfl
        obtain ⟨before, operand, after, rfl, hBefore, hKey⟩ := operatorIn?_eq_some_iff.mp hOperator
        exact .operator hBefore hKey
      · intro hMisfit
        cases hMisfit with
        | @operator before after first operand hBefore hKey =>
            have hFirst := operatorIn?_eq_some_iff.mpr
              ⟨before, operand, after, rfl, hBefore, hKey⟩
            rw [Option.some.inj (hOperator.symm.trans hFirst)]
        | object hMembers =>
            rw [operatorIn?_eq_none_iff.mpr hMembers] at hOperator
            cases hOperator

/-- The errors of a value are exactly its misfits, one for each value that does not fit. -/
theorem checkValue_eq_error_iff {field : SearchField} {value : Json} {error : SearchError} :
    checkValue field value = .error error ↔ value.Misfit field error := by
  cases value with
  | object members => exact checkValue_object_eq_error_iff
  | null =>
      simp only [checkValue, Except.error.injEq]
      exact ⟨fun h => h ▸ .null, fun h => by cases h; rfl⟩
  | array items =>
      simp only [checkValue, Except.error.injEq]
      exact ⟨fun h => h ▸ .array items, fun h => by cases h; rfl⟩
  | bool b =>
      simp only [checkValue, reduceCtorEq, false_iff]
      exact fun h => nomatch h
  | string text =>
      by_cases hKind : field.kind = .boolean
      · simp only [checkValue, hKind, if_true, Except.error.injEq]
        exact ⟨fun h => h ▸ .string text hKind, fun h => by cases h; rfl⟩
      · simp only [checkValue, hKind, if_false, reduceCtorEq, false_iff]
        exact fun h => by cases h; contradiction
  | number n =>
      by_cases hKind : field.kind = .boolean
      · simp only [checkValue, hKind, if_true, Except.error.injEq]
        exact ⟨fun h => h ▸ .number n hKind, fun h => by cases h; rfl⟩
      · simp only [checkValue, hKind, if_false, reduceCtorEq, false_iff]
        exact fun h => by cases h; contradiction

/-- A raw entry is always accepted. Any other must name a declared field, even for an empty choice,
and all its values must fit. -/
def FilterEntry.Accepted (config : EntityConfig) (entry : FilterEntry) : Prop :=
  entry.tier = .known → ∃ field, config.field? entry.field = some field ∧
    ∀ value ∈ entry.condition.values, value.Fits field

/-- Error of an entry: its field is not declared, or the first of its values that does not fit. -/
inductive FilterEntry.Refused (config : EntityConfig) (entry : FilterEntry) :
    SearchError → Prop where
  | undeclared (hTier : entry.tier = .known) (hField : config.field? entry.field = none) :
      Refused config entry (.validation (.unknownField config.entity entry.field))
  | misfit {field : SearchField} {error : SearchError} (hTier : entry.tier = .known)
      (hField : config.field? entry.field = some field)
      (hValues : FirstRefusal (Json.Fits field) (Json.Misfit field) entry.condition.values error) :
      Refused config entry error

/-- An entry passes exactly when it is raw, or its field is declared and all its values fit. -/
theorem checkEntry_eq_ok_iff {config : EntityConfig} {entry : FilterEntry} :
    checkEntry config entry = .ok () ↔ entry.Accepted config := by
  unfold checkEntry FilterEntry.Accepted
  cases entry.tier with
  | raw => simp
  | known =>
      cases config.field? entry.field with
      | none => simp
      | some field => simp [checkValues_eq_ok_iff, checkValue_eq_ok_iff]

/-- The error of an entry: its field is unknown, or the first of its values that does not fit. -/
theorem checkEntry_eq_error_iff {config : EntityConfig} {entry : FilterEntry}
    {error : SearchError} :
    checkEntry config entry = .error error ↔ entry.Refused config error := by
  unfold checkEntry
  cases hTier : entry.tier with
  | raw =>
      simp only [reduceCtorEq, false_iff]
      rintro (⟨hKnown, _⟩ | ⟨hKnown, _, _⟩) <;> simp [hTier] at hKnown
  | known =>
      cases hField : config.field? entry.field with
      | none =>
          simp only [Except.error.injEq]
          constructor
          · rintro rfl
            exact .undeclared hTier hField
          · rintro (_ | ⟨_, hDeclared, _⟩)
            · rfl
            · simp [hField] at hDeclared
      | some field =>
          simp only [checkValues_eq_error_iff, checkValue_eq_ok_iff, checkValue_eq_error_iff]
          constructor
          · exact .misfit hTier hField
          · rintro (⟨_, hUndeclared⟩ | ⟨_, hDeclared, hValues⟩)
            · simp [hField] at hUndeclared
            · obtain rfl := Option.some.inj (hField.symm.trans hDeclared)
              exact hValues

/-- The exact outcome of every typed request on every registry: when it compiles, and which single
error it gives otherwise. Constraints are checked in the order of `requestEntries`, values in their
own order, and the first refusal decides. -/
theorem Registry.assemble_outcome (registry : Registry) (entity : String) (filters : FilterSet)
    (options : SearchOptions) :
    ((∃ search, registry.assemble entity filters options = .ok search) ↔
      ∃ config, registry.get? entity = some config ∧
        ∀ entry ∈ requestEntries filters options, entry.Accepted config) ∧
    ∀ error, registry.assemble entity filters options = .error error ↔
      registry.get? entity = none ∧ error = .configuration (.unknownEntity entity) ∨
      ∃ config, registry.get? entity = some config ∧
        FirstRefusal (FilterEntry.Accepted config) (FilterEntry.Refused config)
          (requestEntries filters options) error := by
  constructor
  · simp only [assemble_eq_ok_iff, checkEntry_eq_ok_iff]
    constructor
    · rintro ⟨_, config, hConfig, hEntries, _⟩
      exact ⟨config, hConfig, hEntries⟩
    · rintro ⟨config, hConfig, hEntries⟩
      exact ⟨_, config, hConfig, hEntries, rfl⟩
  · intro error
    simp only [assemble_eq_error_iff, checkEntry_eq_ok_iff, checkEntry_eq_error_iff]

end EntitySearch
