import EntitySearch.Proofs.LoaderAgreement

/-! Declarations that are written to a text are loaded from it as they were, in either layout: in
order, with what is repeated, and with prefix settings that are null apart from ones that are
absent. -/
namespace EntitySearch

open Json (Field Record Source ShapeError SurplusWording valueSource)

section Record

variable {α : Type} {record : Record Json ShapeError α} {given : List String} {state next : α}
  {key : String} {value : Json} {rest : List (String × Json)}

/-- Step lemma for reading members: a known key that has not been seen sets its field. -/
theorem Json.Record.readMembers_field {field : Field Json ShapeError α}
    (hField : record.fields.find? (·.name == key) = some field) (hFresh : given.contains key = false)
    (hRead : field.read state value = .ok next) :
    record.readMembers given state ((key, value) :: rest) =
      record.readMembers (key :: given) next rest := by
  rw [readMembers, hField]
  simp only [hFresh, hRead]
  rfl

/-- An object is read once its members are and none of the required fields is missing. -/
theorem Json.Record.ofValue_object {surplus : SurplusWording} {members : List (String × Json)}
    (hMembers : record.readMembers [] record.blank members = .ok (given, state))
    (hComplete : record.missing? given = none) :
    record.ofValue surplus (.object members) = .ok state := by
  rw [ofValue, hMembers]
  simp only [bind, Except.bind, hComplete]
  rfl

end Record

/-- Prefix settings without repeated keys whose numbers are all integers. Other values are not
covered by the round trip. -/
def Property.PlainSettings (property : Property) : Prop :=
  ∀ settings ∈ property.prefixes, settings.Integral ∧ settings.Distinct

section Reading

variable {surplus : SurplusWording}

/-- Reading a written property restores it. Settings that are null are kept apart from absent
ones. -/
theorem Property.ofValue_toJson {property : Property} (h : property.PlainSettings) :
    (Property.format (valueSource surplus)).ofValue surplus property.toJson = .ok property := by
  obtain ⟨type, prefixes⟩ := property
  cases prefixes with
  | none => rfl
  | some settings =>
      have hRead : (Property.format (valueSource surplus)).ofValue surplus
          (Property.toJson ⟨type, some settings⟩) = .ok ⟨type, some settings.collapse⟩ := rfl
      rw [hRead, (h settings rfl).2.collapse_eq_self]

/-- All properties of a section are restored in order, repeated names included. -/
theorem Property.readEntries_toJson {properties : List (String × Property)}
    (h : ∀ item ∈ properties, item.2.PlainSettings) :
    Json.readEntries ((Property.format (valueSource surplus)).ofValue surplus)
      (properties.map fun (name, property) => (name, property.toJson)) = .ok properties := by
  induction properties with
  | nil => rfl
  | cons item rest ih =>
      obtain ⟨hItem, hRest⟩ := List.forall_mem_cons.mp h
      rw [List.map_cons, Json.readEntries, ofValue_toJson hItem, ih hRest]
      rfl

/-- All properties have plain settings. -/
def Declaration.PlainSettings (declaration : Declaration) : Prop :=
  ∀ item ∈ declaration.properties, item.2.PlainSettings

/-- The mapping section is restored from its one member. -/
theorem Declaration.ofValue_mapping {properties : List (String × Property)}
    (h : ∀ item ∈ properties, item.2.PlainSettings) :
    (mappingFormat (valueSource surplus)).ofValue surplus
      (.object [("properties", .object (properties.map fun (name, property) =>
        (name, property.toJson)))]) = .ok properties :=
  Record.ofValue_object (Record.readMembers_field rfl rfl (Property.readEntries_toJson h)) rfl

/-- Reading a written declaration restores it, an absent index and an empty section included. -/
theorem Declaration.read_toJson {declaration : Declaration} (h : declaration.PlainSettings) :
    Declaration.read (valueSource surplus) declaration.toJson = .ok declaration := by
  obtain ⟨index, properties⟩ := declaration
  have hMapping : ∀ state : Declaration,
      ((mappingFormat (valueSource surplus)).ofValue surplus (.object [("properties",
        .object (properties.map fun (name, property) => (name, property.toJson)))]) >>=
          fun properties => pure { state with properties }) = .ok { state with properties } :=
    fun _ => bind_pure_eq_ok_iff.mpr ⟨properties, ofValue_mapping h, rfl⟩
  change (Declaration.format (valueSource surplus)).ofValue surplus (toJson _) = _
  cases index with
  | none => exact Record.ofValue_object (Record.readMembers_field rfl rfl (hMapping _)) rfl
  | some index =>
      have hIndex : (Declaration.format (valueSource surplus)).readMembers [] .empty
          (members ⟨some index, properties⟩) =
            (Declaration.format (valueSource surplus)).readMembers ["index"] ⟨some index, []⟩
              (members ⟨none, properties⟩) := Record.readMembers_field rfl rfl rfl
      exact Record.ofValue_object (hIndex.trans (Record.readMembers_field rfl rfl (hMapping _))) rfl

/-- Behind the name of the entity the members are read as the whole declaration. -/
theorem Declaration.readNamed_members {entity : String} {declaration : Declaration}
    (h : declaration.PlainSettings) :
    Declaration.readNamed (valueSource surplus)
      (.object (("entity", .string entity) :: declaration.members)) = .ok (entity, declaration) := by
  have hNamed : (NamedDeclaration.format (valueSource surplus)).ofValue surplus
      (.object (("entity", .string entity) :: declaration.members)) =
        .ok ⟨entity, declaration.members.reverse⟩ := by
    obtain ⟨index, properties⟩ := declaration
    cases index <;> rfl
  have hRead : Declaration.read Json.keptValue (.object declaration.members.reverse.reverse) =
      .ok declaration := by
    rw [List.reverse_reverse]
    exact read_toJson h
  refine bind_eq_ok_iff.mpr ⟨_, hNamed, ?_⟩
  rw [hRead]
  rfl

end Reading

namespace Declaration

/-- The two layouts of declarations: an object by entities, or an array of objects that name their
entity first. -/
inductive Layout where
  | object
  | array

def Layout.encode (pairs : List (String × Declaration)) : Layout → Json
  | .object => .object (pairs.map fun (entity, declaration) => (entity, declaration.toJson))
  | .array => .array (pairs.map fun (entity, declaration) =>
      .object (("entity", .string entity) :: declaration.members))

variable (layout : Layout) {pairs : List (String × Declaration)}

/-- Loading undoes encoding on values, in both layouts. Repeated entities are kept as separate
pairs. -/
theorem loadValue_encode (h : ∀ pair ∈ pairs, pair.2.PlainSettings) :
    loadValue (layout.encode pairs) = .ok pairs := by
  cases layout with
  | object =>
      rw [Layout.encode, loadValue, mapM_eq_ok_iff, List.forall₂_map_left_iff, List.forall₂_same]
      intro pair hPair
      refine bind_pure_eq_ok_iff.mpr ⟨pair.2, mapError_eq_ok_iff.mpr ?_, rfl⟩
      exact read_toJson (h pair hPair)
  | array =>
      rw [Layout.encode, loadValue, mapM_eq_ok_iff, List.forall₂_map_left_iff, List.forall₂_same]
      intro pair hPair
      exact mapError_eq_ok_iff.mpr (readNamed_members (h pair hPair))

/-- Plain settings make every written member integral, the only condition that printing to text
requires. -/
theorem integral_members {declaration : Declaration} (h : declaration.PlainSettings) :
    ∀ member ∈ declaration.members, member.2.Integral := by
  have hProperty : ∀ item ∈ declaration.properties, item.2.toJson.Integral := by
    rintro ⟨name, type, prefixes⟩ hItem
    cases prefixes with
    | none => simp [Property.toJson]
    | some settings => simp [Property.toJson, (h _ hItem settings rfl).1]
  intro member hMember
  rw [members, List.mem_append, List.mem_singleton] at hMember
  rcases hMember with hMember | rfl
  · cases hIndex : declaration.index with
    | none => simp [hIndex] at hMember
    | some index =>
        obtain rfl : member = ("index", .string index) := by simpa [hIndex] using hMember
        exact .string
  · simp only [Json.integral_object_iff, List.mem_singleton, forall_eq]
    exact List.forall_mem_map.mpr hProperty

/-- So is the encoding of a list of declarations as a whole. -/
theorem integral_encode (h : ∀ pair ∈ pairs, pair.2.PlainSettings) :
    (layout.encode pairs).Integral := by
  cases layout with
  | object =>
      refine .object (List.forall_mem_map.mpr fun pair hPair => ?_)
      exact .object (integral_members (h pair hPair))
  | array =>
      refine .array (List.forall_mem_map.mpr fun pair hPair => ?_)
      exact .object (List.forall_mem_cons.mpr ⟨.string, integral_members (h pair hPair)⟩)

/-- Loading undoes writing, compact or indented and in both layouts. Order, repeated entities,
repeated properties and null settings are restored. Settings must be plain and nested within the
reader's depth. -/
theorem loadText_encode (h : ∀ pair ∈ pairs, pair.2.PlainSettings)
    (hDepth : (layout.encode pairs).depth ≤ Json.depthLimit) :
    loadText (layout.encode pairs).compact = .ok pairs ∧
      loadText (layout.encode pairs).indented = .ok pairs := by
  have hIntegral := integral_encode layout h
  obtain ⟨hRead, hSurplus⟩ := hIntegral.read_compact hDepth
  have hValue := loadValue_encode layout h
  constructor
  · exact (loadText_eq_ok_iff_of_read hRead hSurplus pairs).mpr hValue
  · rw [← hIntegral.ofText_indented] at hRead hSurplus
    exact (loadText_eq_ok_iff_of_read hRead hSurplus pairs).mpr hValue

/-- An entity that is declared twice, and a title that is declared twice: without prefix settings
and with ones that are null. -/
def twiceOver : List (String × Declaration) := [
  ("notes", ⟨none, [("title", ⟨"text", none⟩), ("title", ⟨"text", some .null⟩)]⟩),
  ("notes", ⟨some "notes-v2", [("body", ⟨"text", some defaultPrefixes⟩)]⟩)]

/-- Both layouts restore repeated entities, repeated properties and settings that are null. -/
theorem twiceOver_loaded :
    (∀ pair ∈ twiceOver, pair.2.PlainSettings) ∧
      (∀ layout : Layout, (layout.encode twiceOver).depth ≤ Json.depthLimit ∧
        loadText (layout.encode twiceOver).compact = .ok twiceOver) := by
  have hSettings : ∀ pair ∈ twiceOver, pair.2.PlainSettings := by
    simp [-Prod.forall, twiceOver, PlainSettings, Property.PlainSettings, defaultPrefixes,
      Json.ofUInt64, Number.ofUInt64]
  have hDepth : ∀ layout : Layout, (layout.encode twiceOver).depth ≤ Json.depthLimit := by
    rintro (_ | _) <;> decide
  exact ⟨hSettings, fun layout => ⟨hDepth layout, (loadText_encode layout hSettings (hDepth layout)).1⟩⟩

end Declaration

end EntitySearch
