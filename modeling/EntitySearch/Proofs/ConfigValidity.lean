import EntitySearch.EntityConfig
import EntitySearch.Proofs.Refusal
import Mathlib.Data.List.TakeWhile
import Mathlib.Data.List.Basic

/-! What is true of every configuration that has been checked. -/
namespace EntitySearch

namespace Unicode

/-- Trimming leaves nothing exactly when all characters are white space. The empty text is blank. -/
theorem trim_eq_nil_iff {text : String} : trim text.toList = [] ↔ isBlankText text = true := by
  rw [trim, List.reverse_eq_nil_iff, List.dropWhile_eq_nil_iff, isBlankText, List.all_eq_true]
  constructor
  · intro h
    apply List.dropWhile_eq_nil_iff.mp
    cases hRest : text.toList.dropWhile isBlank with
    | nil => rfl
    | cons c rest =>
        have hNot := List.head?_dropWhile_not isBlank text.toList
        rw [hRest, List.head?_cons] at hNot
        rw [hRest] at h
        simp [h c (by simp)] at hNot
  · intro h c hc
    exact h c ((List.dropWhile_sublist isBlank).subset (List.mem_reverse.mp hc))

end Unicode

/-- Result of the field checks: entity and index are not blank, names of fields are nonempty and
distinct, and only text fields keep prefixes. -/
structure EntityConfig.Valid (config : EntityConfig) : Prop where
  entity_visible : Unicode.trim config.entity.toList ≠ []
  index_visible : Unicode.trim config.index.toList ≠ []
  named : ∀ field ∈ config.fields, field.name ≠ ""
  distinct : (config.fields.map (·.name)).Nodup
  prefixes_text : ∀ field ∈ config.fields, field.prefixes = true → field.kind = .text

namespace EntityConfig

/-- One field passes exactly when its name is not empty and not taken before it, and its flag is on
a text field. The three checks are independent of each other here. -/
theorem fieldFault?_eq_none_iff {entity : String} {earlier : List SearchField}
    {field : SearchField} :
    fieldFault? entity earlier field = none ↔
      field.name ≠ "" ∧ field.name ∉ earlier.map (·.name) ∧
        (field.prefixes = true → field.kind = .text) := by
  unfold fieldFault?
  split
  · simp_all
  · split
    · simp_all
    · split <;> simp_all

/-- A list of fields passes behind earlier ones exactly when all names together are distinct and
nonempty, and the flag occurs on text fields only. -/
theorem checkFields_eq_ok_iff {entity : String} {earlier fields : List SearchField}
    (hEarlier : (earlier.map (·.name)).Nodup) :
    checkFields entity earlier fields = .ok () ↔
      (∀ field ∈ fields, field.name ≠ "") ∧ ((earlier ++ fields).map (·.name)).Nodup ∧
        ∀ field ∈ fields, field.prefixes = true → field.kind = .text := by
  induction fields generalizing earlier with
  | nil => simp [checkFields, hEarlier]
  | cons field rest ih =>
      rw [checkFields]
      cases hFault : fieldFault? entity earlier field with
      | some error =>
          simp only [reduceCtorEq, false_iff]
          rintro ⟨hNames, hDistinct, hPrefixes⟩
          rw [List.map_append, List.map_cons, List.nodup_append] at hDistinct
          have hFresh : field.name ∉ earlier.map (·.name) :=
            fun h => hDistinct.2.2 _ h _ List.mem_cons_self rfl
          have hNone : fieldFault? entity earlier field = none := fieldFault?_eq_none_iff.mpr
            ⟨hNames field List.mem_cons_self, hFresh, hPrefixes field List.mem_cons_self⟩
          rw [hFault] at hNone
          cases hNone
      | none =>
          obtain ⟨hName, hFresh, hPrefixes⟩ := fieldFault?_eq_none_iff.mp hFault
          have hNext : ((earlier ++ [field]).map (·.name)).Nodup := by
            rw [List.map_append, List.map_singleton, List.nodup_append]
            refine ⟨hEarlier, by simp, ?_⟩
            rintro name hName _ hOther rfl
            exact hFresh (List.mem_singleton.mp hOther ▸ hName)
          rw [ih hNext, List.append_assoc, List.singleton_append]
          simp only [List.forall_mem_cons, hName, ne_eq, not_false_eq_true, true_and]
          exact and_congr_right fun _ => and_congr_right fun _ => (and_iff_right hPrefixes).symm

/-- The index of a configuration is never blank. A blank one is replaced by the entity, which has
been checked before. -/
theorem indexName_visible {entity : String} {index : Option String}
    (hEntity : Unicode.isBlankText entity = false) :
    Unicode.isBlankText (indexName entity index) = false := by
  cases index with
  | none => exact hEntity
  | some index =>
      rw [indexName]
      split
      · exact hEntity
      · simp_all

/-- Construction succeeds exactly on what is valid, and its result has the entity and the fields as
given. A blank index, or none, is replaced by the entity. -/
theorem ofFields_eq_ok_iff {entity : String} {index : Option String} {fields : List SearchField}
    {config : EntityConfig} :
    ofFields entity index fields = .ok config ↔
      config = ⟨entity, indexName entity index, fields⟩ ∧ config.Valid := by
  unfold ofFields
  cases hBlank : Unicode.isBlankText entity with
  | true =>
      simp only [if_true, reduceCtorEq, false_iff]
      rintro ⟨rfl, hValid⟩
      exact hValid.entity_visible (Unicode.trim_eq_nil_iff.mpr hBlank)
  | false =>
      rw [if_neg (by simp), check_bind_eq_ok_iff, pure_eq_ok_iff,
        checkFields_eq_ok_iff (by simp)]
      constructor
      · rintro ⟨⟨hNames, hDistinct, hPrefixes⟩, rfl⟩
        refine ⟨rfl, ?_, ?_, hNames, hDistinct, hPrefixes⟩
        · simp [Unicode.trim_eq_nil_iff, hBlank]
        · simp [Unicode.trim_eq_nil_iff, indexName_visible hBlank]
      · rintro ⟨rfl, hValid⟩
        exact ⟨⟨hValid.named, hValid.distinct, hValid.prefixes_text⟩, rfl⟩

theorem Valid.of_ofFields {entity : String} {index : Option String} {fields : List SearchField}
    {config : EntityConfig} (h : ofFields entity index fields = .ok config) : config.Valid :=
  (ofFields_eq_ok_iff.mp h).2

/-- A property and the field made of it. -/
structure Declares (property : String × Property) (field : SearchField) : Prop where
  name : field.name = property.1
  kind : FieldKind.ofName? property.2.type = some field.kind
  prefixes : field.prefixes = property.2.prefixes.isSome

/-- A property makes a field exactly when its type is supported. The flag is set by the presence of
the setting, whatever its contents. -/
theorem fieldOfProperty_eq_ok_iff {entity : String} {property : String × Property}
    {field : SearchField} :
    fieldOfProperty entity property.1 property.2 = .ok field ↔ Declares property field := by
  unfold fieldOfProperty
  cases hKind : FieldKind.ofName? property.2.type with
  | none =>
      simp only [reduceCtorEq, false_iff]
      intro hField
      rw [hField.kind] at hKind
      cases hKind
  | some kind =>
      rw [Except.ok.injEq]
      constructor
      · rintro rfl
        exact ⟨rfl, hKind, rfl⟩
      · intro hField
        obtain rfl := Option.some.inj (hKind.symm.trans hField.kind)
        obtain ⟨name, _, prefixes⟩ := field
        obtain rfl : name = property.1 := hField.name
        obtain rfl : prefixes = property.2.prefixes.isSome := hField.prefixes
        rfl

/-- A declaration makes a configuration with one field for each property, in declared order, exactly
when all properties make fields and the result is valid. -/
theorem ofDeclaration_eq_ok_iff {entity : String} {declaration : Declaration}
    {config : EntityConfig} :
    ofDeclaration entity declaration = .ok config ↔
      config.entity = entity ∧ config.index = indexName entity declaration.index ∧
        List.Forall₂ Declares declaration.properties config.fields ∧ config.Valid := by
  simp only [ofDeclaration, bind_eq_ok_iff, mapM_eq_ok_iff, fieldOfProperty_eq_ok_iff,
    ofFields_eq_ok_iff]
  constructor
  · rintro ⟨fields, hFields, rfl, hValid⟩
    exact ⟨rfl, rfl, hFields, hValid⟩
  · rintro ⟨hEntity, hIndex, hFields, hValid⟩
    refine ⟨config.fields, hFields, ?_, hValid⟩
    cases config
    simp_all

/-- A property declared twice is refused, so no configuration comes from one of two properties of a
name. -/
theorem distinct_of_ofDeclaration {entity : String} {declaration : Declaration}
    {config : EntityConfig} (h : ofDeclaration entity declaration = .ok config) :
    (declaration.properties.map (·.1)).Nodup := by
  obtain ⟨_, _, hFields, hValid⟩ := ofDeclaration_eq_ok_iff.mp h
  rw [map_eq_map_of_forall₂ hFields fun _ _ hField => hField.name.symm]
  exact hValid.distinct

/-- In a valid configuration lookup by name agrees with membership, since no name occurs twice. -/
theorem Valid.field?_eq_some_iff {config : EntityConfig} (h : config.Valid) {name : String}
    {field : SearchField} :
    config.field? name = some field ↔ field ∈ config.fields ∧ field.name = name := by
  rw [field?, List.find?_eq_some_iff_append]
  constructor
  · rintro ⟨hName, before, after, hFields, _⟩
    exact ⟨by simp [hFields], by simpa using hName⟩
  · rintro ⟨hField, rfl⟩
    obtain ⟨before, after, hFields⟩ := List.append_of_mem hField
    refine ⟨by simp, before, after, hFields, fun other hOther => ?_⟩
    have hDistinct := h.distinct
    rw [hFields, List.map_append, List.map_cons, List.nodup_append] at hDistinct
    have hNames := hDistinct.2.2 _ (List.mem_map_of_mem hOther) _ List.mem_cons_self
    simpa using hNames

end EntityConfig

end EntitySearch
