import EntitySearch.Proofs.ConfigValidity

/-! Which declarations make a configuration, and which error the others are refused with. -/
namespace EntitySearch

/-- The type is the name of a kind of field. -/
def Property.HasKind (property : Property) : Prop :=
  property.type = "text" ∨ property.type = "keyword" ∨ property.type = "boolean"

/-- The supported types are exactly the names of the kinds, with no other case or spelling. -/
theorem Property.hasKind_iff {property : Property} :
    property.HasKind ↔ ∃ kind : FieldKind, property.type = kind.name := by
  constructor
  · rintro (h | h | h)
    · exact ⟨.text, h⟩
    · exact ⟨.keyword, h⟩
    · exact ⟨.boolean, h⟩
  · rintro ⟨kind, h⟩
    cases kind with
    | text => exact .inl h
    | keyword => exact .inr (.inl h)
    | boolean => exact .inr (.inr h)

/-- Conditions for a declaration to be accepted for an entity. Null prefix settings count as
settings. -/
structure Declaration.Admissible (declaration : Declaration) (entity : String) : Prop where
  kinds : ∀ property ∈ declaration.properties, property.2.HasKind
  entity_visible : Unicode.trim entity.toList ≠ []
  named : ∀ property ∈ declaration.properties, property.1 ≠ ""
  distinct : (declaration.properties.map (·.1)).Nodup
  prefixes_text : ∀ property ∈ declaration.properties,
    property.2.prefixes.isSome = true → property.2.type = "text"

/-- First fault of a property behind others: an empty name, then a repeated one, then prefix
settings on a property that is no text. -/
inductive PropertyFault (entity : String) (earlier : List (String × Property))
    (property : String × Property) : ConfigurationError → Prop where
  | unnamed (hName : property.1 = "") :
      PropertyFault entity earlier property (.invalidDeclaration entity .unnamedField)
  | repeated (hName : property.1 ≠ "") (hTwice : property.1 ∈ earlier.map (·.1)) :
      PropertyFault entity earlier property (.duplicateField entity property.1)
  | prefixes {kind : FieldKind} (hName : property.1 ≠ "") (hFresh : property.1 ∉ earlier.map (·.1))
      (hPrefixes : property.2.prefixes.isSome = true) (hType : property.2.type = kind.name)
      (hKind : kind ≠ .text) :
      PropertyFault entity earlier property
        (.invalidDeclaration entity (.prefixesOn property.1 kind))

/-- Errors of a declaration in order of priority: types of all properties, the entity, and the first
property at fault behind those before it. -/
inductive Declaration.Fault (declaration : Declaration) (entity : String) :
    ConfigurationError → Prop where
  | kind {error : ConfigurationError}
      (h : FirstRefusal (fun property => property.2.HasKind)
        (fun property error => ¬ property.2.HasKind ∧
          error = .unsupportedFieldType entity property.1 property.2.type)
        declaration.properties error) :
      Fault declaration entity error
  | entity (hKinds : ∀ property ∈ declaration.properties, property.2.HasKind)
      (hBlank : Unicode.trim entity.toList = []) :
      Fault declaration entity (.invalidDeclaration entity .blankEntity)
  | property {i : Nat} {error : ConfigurationError}
      (hKinds : ∀ property ∈ declaration.properties, property.2.HasKind)
      (hVisible : Unicode.trim entity.toList ≠ [])
      (h : RefusedAt (PropertyFault entity) declaration.properties i error) :
      Fault declaration entity error

namespace EntityConfig

/-- Configuration asked for by a declaration: one field for each property in declared order, and the
declared index unless it is blank. -/
structure AskedBy (config : EntityConfig) (declaration : Declaration) (entity : String) : Prop where
  entity_eq : config.entity = entity
  declared_index : ∀ index, declaration.index = some index → Unicode.trim index.toList ≠ [] →
    config.index = index
  default_index : (∀ index, declaration.index = some index → Unicode.trim index.toList = []) →
    config.index = entity
  fields : List.Forall₂ Declares declaration.properties config.fields

variable {entity : String} {declaration : Declaration} {config : EntityConfig}
  {error : ConfigurationError}

/-- The index is the declared one unless that is blank or absent, and then it is the entity.
Trimming decides blankness and is not applied to the index itself. -/
theorem indexName_eq_iff {declared : Option String} {index : String} :
    index = indexName entity declared ↔
      (∀ name, declared = some name → Unicode.trim name.toList ≠ [] → index = name) ∧
        ((∀ name, declared = some name → Unicode.trim name.toList = []) → index = entity) := by
  cases declared with
  | none => simp [indexName]
  | some name =>
      rw [indexName]
      cases hBlank : Unicode.isBlankText name <;> simp [Unicode.trim_eq_nil_iff, hBlank]

/-- The specification of a configuration agrees with its construction, apart from validity. -/
theorem askedBy_iff :
    config.AskedBy declaration entity ↔
      config.entity = entity ∧ config.index = indexName entity declaration.index ∧
        List.Forall₂ Declares declaration.properties config.fields := by
  rw [indexName_eq_iff]
  constructor
  · rintro ⟨hEntity, hDeclared, hDefault, hFields⟩
    exact ⟨hEntity, ⟨hDeclared, hDefault⟩, hFields⟩
  · rintro ⟨hEntity, ⟨hDeclared, hDefault⟩, hFields⟩
    exact ⟨hEntity, hDeclared, hDefault, hFields⟩

/-- A property by itself can only be refused for its type. Its name and its settings are checked
later. -/
theorem fieldOfProperty_eq_error_iff {name : String} {property : Property} :
    fieldOfProperty entity name property = .error error ↔
      ¬ property.HasKind ∧ error = .unsupportedFieldType entity name property.type := by
  simp only [Property.hasKind_iff, ← FieldKind.ofName?_eq_some_iff]
  unfold fieldOfProperty
  cases FieldKind.ofName? property.type <;> simp [eq_comm]

theorem Declares.kind_eq_iff {property : String × Property} {field : SearchField}
    (h : Declares property field) {kind : FieldKind} :
    property.2.type = kind.name ↔ field.kind = kind := by
  rw [← FieldKind.ofName?_eq_some_iff, h.kind, Option.some.injEq]

/-- Some field is declared by a property exactly when its type is supported. Name and settings play
no part in this. -/
theorem exists_declares_iff {property : String × Property} :
    (∃ field, Declares property field) ↔ property.2.HasKind := by
  rw [Property.hasKind_iff]
  constructor
  · rintro ⟨field, hField⟩
    exact ⟨field.kind, hField.kind_eq_iff.mpr rfl⟩
  · rintro ⟨kind, hKind⟩
    exact ⟨⟨property.1, kind, property.2.prefixes.isSome⟩, rfl,
      FieldKind.ofName?_eq_some_iff.mpr hKind, rfl⟩

/-- A list of properties declares a list of fields exactly when every type is supported. -/
theorem exists_fields_iff {properties : List (String × Property)} :
    (∃ fields, List.Forall₂ Declares properties fields) ↔
      ∀ property ∈ properties, property.2.HasKind := by
  constructor
  · rintro ⟨fields, hFields⟩ property hProperty
    obtain ⟨field, _, hField⟩ := exists_of_forall₂_of_mem hFields hProperty
    exact exists_declares_iff.mp ⟨field, hField⟩
  · intro hKinds
    exact exists_forall₂ fun property hProperty =>
      exists_declares_iff.mpr (hKinds property hProperty)

/-- The fault of a field is that of the property it was made of: the empty name before the repeated
one, and both before misplaced settings. -/
theorem fieldFault?_eq_some_iff {earlier : List (String × Property)} {fields : List SearchField}
    {property : String × Property} {field : SearchField}
    (hEarlier : List.Forall₂ Declares earlier fields) (hField : Declares property field) :
    fieldFault? entity fields field = some error ↔
      PropertyFault entity earlier property error := by
  have hNames : fields.any (·.name == property.1) = true ↔ property.1 ∈ earlier.map (·.1) := by
    rw [map_eq_map_of_forall₂ hEarlier fun _ _ h => h.name.symm]
    simp
  unfold fieldFault?
  rw [hField.name, hField.prefixes]
  constructor
  · intro h
    split at h
    · next hName =>
      obtain rfl := Option.some.inj h
      exact .unnamed hName
    · next hName =>
      split at h
      · next hTwice =>
        obtain rfl := Option.some.inj h
        exact .repeated hName (hNames.mp hTwice)
      · next hFresh =>
        split at h
        · next hPrefixes =>
          obtain ⟨hSome, hKind⟩ := Bool.and_eq_true_iff.mp hPrefixes
          obtain rfl := Option.some.inj h
          exact .prefixes hName (mt hNames.mpr hFresh) hSome (hField.kind_eq_iff.mpr rfl)
            (by simpa using hKind)
        · cases h
  · intro h
    cases h with
    | unnamed hName => rw [if_pos hName]
    | repeated hName hTwice => rw [if_neg hName, if_pos (hNames.mpr hTwice)]
    | prefixes hName hFresh hPrefixes hType hKind =>
        rw [if_neg hName, if_neg (mt hNames.mp hFresh), hField.kind_eq_iff.mp hType]
        simp [hPrefixes, hKind]

/-- The check of fields returns the error of the first field refused behind those before it. Later
faults are not reported. -/
theorem checkFields_eq_error_iff {earlier fields : List SearchField} :
    checkFields entity earlier fields = .error error ↔
      ∃ i, RefusedAt
        (fun before field error => fieldFault? entity (earlier ++ before) field = some error)
        fields i error := by
  induction fields generalizing earlier with
  | nil => simp [checkFields, not_refusedAt_nil]
  | cons field rest ih =>
      rw [checkFields, exists_refusedAt_cons_iff, List.append_nil]
      cases hFault : fieldFault? entity earlier field with
      | some found => simp
      | none => simp [ih]

/-- The least refused index is one for fields and properties, since they correspond in order. -/
theorem refusedAt_fields_iff {properties : List (String × Property)} {fields : List SearchField}
    {i : Nat} (hFields : List.Forall₂ Declares properties fields) :
    RefusedAt (PropertyFault entity) properties i error ↔
      RefusedAt (fun before field error => fieldFault? entity before field = some error)
        fields i error :=
  refusedAt_iff_of_forall₂ hFields fun _ _ _ _ _ hBefore hField =>
    (fieldFault?_eq_some_iff hBefore hField).symm

/-- A blank entity is reported before any fault of the fields. A blank index is never an error. -/
theorem ofFields_eq_error_iff {index : Option String} {fields : List SearchField} :
    ofFields entity index fields = .error error ↔
      Unicode.trim entity.toList = [] ∧ error = .invalidDeclaration entity .blankEntity ∨
      Unicode.trim entity.toList ≠ [] ∧ checkFields entity [] fields = .error error := by
  rw [ne_eq, Unicode.trim_eq_nil_iff]
  unfold ofFields
  cases Unicode.isBlankText entity with
  | true => simp [eq_comm]
  | false =>
      rw [if_neg Bool.false_ne_true, bind_pure_eq_error_iff]
      simp

/-- The configuration asked for by a declaration is valid exactly when the declaration is admissible
for its entity. -/
theorem AskedBy.valid_iff (h : config.AskedBy declaration entity) :
    config.Valid ↔ declaration.Admissible entity := by
  obtain ⟨rfl, hIndex, hFields⟩ := askedBy_iff.mp h
  have hNames : declaration.properties.map (·.1) = config.fields.map (·.name) :=
    map_eq_map_of_forall₂ hFields fun _ _ h => h.name.symm
  have hNamed : (∀ property ∈ declaration.properties, property.1 ≠ "") ↔
      ∀ field ∈ config.fields, field.name ≠ "" :=
    forall_mem_iff_of_forall₂ hFields fun _ _ h => by rw [h.name]
  have hPrefixes : (∀ property ∈ declaration.properties,
      property.2.prefixes.isSome = true → property.2.type = "text") ↔
      ∀ field ∈ config.fields, field.prefixes = true → field.kind = .text :=
    forall_mem_iff_of_forall₂ hFields fun _ _ h => by
      rw [h.prefixes, ← h.kind_eq_iff, FieldKind.name]
  constructor
  · intro hValid
    exact ⟨exists_fields_iff.mp ⟨_, hFields⟩, hValid.entity_visible, hNamed.mpr hValid.named,
      hNames ▸ hValid.distinct, hPrefixes.mpr hValid.prefixes_text⟩
  · intro hAdmissible
    have hVisible := hAdmissible.entity_visible
    refine ⟨hVisible, ?_, hNamed.mp hAdmissible.named, hNames ▸ hAdmissible.distinct,
      hPrefixes.mp hAdmissible.prefixes_text⟩
    rw [ne_eq, Unicode.trim_eq_nil_iff, Bool.not_eq_true] at hVisible ⊢
    exact hIndex ▸ indexName_visible hVisible

/-- Success and result in one: the declaration is admissible and the configuration is the one it
asks for. -/
theorem ofDeclaration_eq_ok_iff_admissible :
    ofDeclaration entity declaration = .ok config ↔
      declaration.Admissible entity ∧ config.AskedBy declaration entity := by
  rw [ofDeclaration_eq_ok_iff]
  constructor
  · rintro ⟨hEntity, hIndex, hFields, hValid⟩
    have hAsked := askedBy_iff.mpr ⟨hEntity, hIndex, hFields⟩
    exact ⟨hAsked.valid_iff.mp hValid, hAsked⟩
  · rintro ⟨hAdmissible, hAsked⟩
    obtain ⟨hEntity, hIndex, hFields⟩ := askedBy_iff.mp hAsked
    exact ⟨hEntity, hIndex, hFields, hAsked.valid_iff.mpr hAdmissible⟩

theorem exists_ofDeclaration_iff :
    (∃ config, ofDeclaration entity declaration = .ok config) ↔
      declaration.Admissible entity := by
  constructor
  · rintro ⟨config, hConfig⟩
    exact (ofDeclaration_eq_ok_iff_admissible.mp hConfig).1
  · intro h
    obtain ⟨fields, hFields⟩ := exists_fields_iff.mpr h.kinds
    have hAsked : AskedBy ⟨entity, indexName entity declaration.index, fields⟩ declaration entity :=
      askedBy_iff.mpr ⟨rfl, rfl, hFields⟩
    exact ⟨_, ofDeclaration_eq_ok_iff_admissible.mpr ⟨h, hAsked⟩⟩

/-- The errors of a declaration are exactly its faults, in the order of priority that
`Declaration.Fault` states. -/
theorem ofDeclaration_eq_error_iff :
    ofDeclaration entity declaration = .error error ↔ declaration.Fault entity error := by
  rw [ofDeclaration, bind_eq_error_iff, mapM_eq_error_iff]
  simp only [mapM_eq_ok_iff, fieldOfProperty_eq_ok_iff, exists_declares_iff,
    fieldOfProperty_eq_error_iff, ofFields_eq_error_iff, checkFields_eq_error_iff, List.nil_append]
  constructor
  · rintro (hKind | ⟨fields, hFields, hRefused⟩)
    · exact .kind hKind
    · have hKinds := exists_fields_iff.mp ⟨fields, hFields⟩
      obtain ⟨hBlank, rfl⟩ | ⟨hVisible, i, hAt⟩ := hRefused
      · exact .entity hKinds hBlank
      · exact .property hKinds hVisible ((refusedAt_fields_iff hFields).mpr hAt)
  · intro h
    cases h with
    | kind h => exact .inl h
    | entity hKinds hBlank =>
        obtain ⟨fields, hFields⟩ := exists_fields_iff.mpr hKinds
        exact .inr ⟨fields, hFields, .inl ⟨hBlank, rfl⟩⟩
    | @property i _ hKinds hVisible hAt =>
        obtain ⟨fields, hFields⟩ := exists_fields_iff.mpr hKinds
        exact .inr ⟨fields, hFields, .inr ⟨hVisible, i, (refusedAt_fields_iff hFields).mp hAt⟩⟩

/-- The exact outcome of every declaration for every entity: when it makes a configuration, which
one, and which single error it gives otherwise. -/
theorem ofDeclaration_outcome (entity : String) (declaration : Declaration) :
    ((∃ config, ofDeclaration entity declaration = .ok config) ↔
      declaration.Admissible entity) ∧
    (∀ config, ofDeclaration entity declaration = .ok config ↔
      declaration.Admissible entity ∧ config.AskedBy declaration entity) ∧
    ∀ error, ofDeclaration entity declaration = .error error ↔ declaration.Fault entity error :=
  ⟨exists_ofDeclaration_iff, fun _ => ofDeclaration_eq_ok_iff_admissible,
    fun _ => ofDeclaration_eq_error_iff⟩

/-- The second body has no name of its own and prefix settings that it may not have. The name comes
first. -/
example :
    ofDeclaration "notes"
        (Declaration.empty.text "body" |>.push "body" ⟨"keyword", some .null⟩) =
      .error (.duplicateField "notes" "body") :=
  rfl

end EntityConfig

end EntitySearch
