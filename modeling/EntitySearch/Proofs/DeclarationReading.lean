import EntitySearch.Declaration.Format
import EntitySearch.Proofs.SourceReading

/-! What a declaration that has been read says, in terms of the text: each member that declares a
property has an item of its own, in order and under the name that it has there. -/
namespace EntitySearch

open Json (Source Tree Quoted Place)

/-- The tree declares this property, with its type once and its settings at most once. -/
structure Property.WrittenBy (property : Property) (tree : Tree) : Prop where
  type : ∃ value, tree.given "type" 0 = [value] ∧ value.text? = some property.type
  prefixes : List.Forall₂ Tree.HoldsOnce (tree.given "index_prefixes" 1) property.prefixes.toList

/-- A member of the properties with the item made of it. -/
def Property.Item (member : Quoted × Tree) (item : String × Property) : Prop :=
  member.1.text? = some item.1 ∧ item.2.WrittenBy member.2

namespace Declaration

/-- Objects in which a declaration keeps its properties, one at most if it is accepted. -/
def propertyObjects (tree : Tree) : List Tree :=
  (tree.given "esMapping" 1).flatMap (·.given "properties" 0)

/-- Members of all objects in which a declaration keeps its properties. -/
def propertyMembers (tree : Tree) : List (Quoted × Tree) :=
  (propertyObjects tree).flatMap (·.members)

/-- The tree makes this declaration: no section occurs twice, and every written property is there in
order. -/
structure WrittenBy (declaration : Declaration) (tree : Tree) : Prop where
  index_once : (tree.given "index" 0).length ≤ 1
  index : declaration.index = (tree.given "index" 0).head?.bind Tree.text?
  mapping_once : (tree.given "esMapping" 1).length ≤ 1
  properties_once : ∀ mapping ∈ tree.given "esMapping" 1,
    (mapping.given "properties" 0).length ≤ 1
  properties : List.Forall₂ Property.Item (propertyMembers tree) declaration.properties

end Declaration

section Source

variable {σ ε : Type} {source : Source σ ε} {written : σ → Tree → Prop} {value : σ} {tree : Tree}

/-- A text is only ever read from a tree that is a quoted text, and its escapes are resolved. -/
theorem Json.Source.Follows.string (hSource : source.Follows written) (hTree : written value tree)
    {text : String} (h : source.string value = .ok text) : tree.text? = some text := by
  obtain ⟨shown, hShown, h⟩ := bind_eq_ok_iff.mp h
  cases shown with
  | string shownText =>
      obtain rfl := pure_eq_ok_iff.mp h
      exact Tree.text?_of_found (hSource.found hTree hShown)
  | _ => cases h

/-- An optional text is the text of the tree if that has one. The empty text is not absent. -/
theorem Json.Source.Follows.optional_string (hSource : source.Follows written)
    (hTree : written value tree) {text : Option String}
    (h : source.optional source.string value = .ok text) : tree.text? = text := by
  obtain ⟨shown, hShown, h⟩ := bind_eq_ok_iff.mp h
  have hFound := hSource.found hTree hShown
  cases shown with
  | null =>
      obtain rfl := pure_eq_ok_iff.mp h
      obtain rfl : tree = .null := Tree.found_eq_ok_iff.mp hFound
      rfl
  | _ =>
      obtain ⟨_, hText, rfl⟩ := bind_pure_eq_ok_iff.mp h
      exact hSource.string hTree hText

namespace Property

/-- No two fields of the format share a name, so each key of an object belongs to at most one of
them. -/
theorem format_distinct : ((Property.format source).fields.map (·.name)).Nodup := by
  simp [Property.format]

/-- A property that has been read has its type exactly once, as a member or as the first item of a
list. -/
theorem type_of_reads (hSource : source.Follows written) {property : Property}
    (h : (Property.format source).Reads written tree property) :
    ∃ value, tree.given "type" 0 = [value] ∧ value.text? = some property.type := by
  obtain ⟨given, hGiven, hType, hRequired⟩ := h.track
    (fun given property => ∀ value ∈ given, value.text? = some property.type)
    format_distinct (rfl : (Property.format source).fields[0]? = some _) {
      blank := by simp
      store := by
        intro state value tree next hTree hRead
        obtain ⟨text, hText, rfl⟩ := bind_pure_eq_ok_iff.mp hRead
        simpa using hSource.string hTree hText
      keep := by
        intro other hOther hName given state value next hRead hSlot
        simp only [Property.format, List.mem_cons, List.not_mem_nil, or_false] at hOther
        obtain rfl | rfl := hOther
        · exact absurd rfl hName
        · obtain ⟨_, _, rfl⟩ := bind_pure_eq_ok_iff.mp hRead
          exact hSlot
      other := by simp [Property.format] }
  obtain ⟨value, rfl⟩ := Option.isSome_iff_exists.mp (hRequired rfl)
  exact ⟨value, hGiven, hType value rfl⟩

/-- The settings of a property occur at most once, and what is kept of them is their value. Null is
kept as well. -/
theorem prefixes_of_reads (hSource : source.Follows written) {property : Property}
    (h : (Property.format source).Reads written tree property) :
    List.Forall₂ Tree.HoldsOnce (tree.given "index_prefixes" 1) property.prefixes.toList := by
  obtain ⟨given, hGiven, hPrefixes, _⟩ := h.track
    (fun given property => List.Forall₂ Tree.HoldsOnce given.toList property.prefixes.toList)
    format_distinct (rfl : (Property.format source).fields[1]? = some _) {
      blank := .nil
      store := by
        intro state value tree next hTree hRead
        obtain ⟨json, hJson, rfl⟩ := bind_pure_eq_ok_iff.mp hRead
        exact .cons ⟨json, hSource.value hTree hJson, rfl⟩ .nil
      keep := by
        intro other hOther hName given state value next hRead hSlot
        simp only [Property.format, List.mem_cons, List.not_mem_nil, or_false] at hOther
        obtain rfl | rfl := hOther
        · obtain ⟨_, _, rfl⟩ := bind_pure_eq_ok_iff.mp hRead
          exact hSlot
        · exact absurd rfl hName
      other := by simp [Property.format] }
  rw [← hGiven] at hPrefixes
  exact hPrefixes

/-- Soundness of reading one property, from text and from values alike. -/
theorem read_writtenBy (hSource : source.Follows written) (hTree : written value tree)
    {property : Property} (h : source.record (Property.format source) value = .ok property) :
    property.WrittenBy tree :=
  have hReads := hSource.record hTree h
  ⟨type_of_reads hSource hReads, prefixes_of_reads hSource hReads⟩

end Property

namespace Declaration

/-- The mapping section holds its properties in at most one object, whose members become the items
one by one. -/
theorem mapping_of_reads (hSource : source.Follows written) {properties : List (String × Property)}
    (h : (mappingFormat source).Reads written tree properties) :
    (tree.given "properties" 0).length ≤ 1 ∧
      List.Forall₂ Property.Item ((tree.given "properties" 0).flatMap (·.members)) properties := by
  obtain ⟨given, (hGiven : tree.given "properties" 0 = _), hProperties, _⟩ := h.track
    (fun given properties =>
      List.Forall₂ Property.Item (given.toList.flatMap (·.members)) properties)
    (List.nodup_singleton _) (rfl : (mappingFormat source).fields[0]? = some _) {
      blank := .nil
      store := by
        intro state value tree next hTree hRead
        obtain ⟨members, ending, rfl, hEntries⟩ := hSource.entries hTree hRead
        rw [Option.toList_some, List.flatMap_singleton]
        refine hEntries.imp ?_
        rintro member item ⟨hName, value, hValue, hItem⟩
        exact ⟨hName, Property.read_writtenBy hSource hValue hItem⟩
      keep := by
        intro other hOther hName
        exact absurd (congrArg (·.name) (List.mem_singleton.mp hOther)) hName
      other := by simp [mappingFormat] }
  rw [← hGiven] at hProperties
  refine ⟨?_, hProperties⟩
  rw [hGiven]
  exact Option.length_toList_le

theorem format_distinct : ((Declaration.format source).fields.map (·.name)).Nodup := by
  simp [Declaration.format]

/-- The index occurs at most once. Null is read as absent. -/
theorem index_of_reads (hSource : source.Follows written) {declaration : Declaration}
    (h : (Declaration.format source).Reads written tree declaration) :
    (tree.given "index" 0).length ≤ 1 ∧
      declaration.index = (tree.given "index" 0).head?.bind Tree.text? := by
  obtain ⟨given, (hGiven : tree.given "index" 0 = _), hIndex, _⟩ := h.track
    (fun given declaration => declaration.index = given.bind Tree.text?)
    format_distinct (rfl : (Declaration.format source).fields[0]? = some _) {
      blank := rfl
      store := by
        intro state value tree next hTree hRead
        obtain ⟨index, hIndex, rfl⟩ := bind_pure_eq_ok_iff.mp hRead
        exact (hSource.optional_string hTree hIndex).symm
      keep := by
        intro other hOther hName given state value next hRead hSlot
        simp only [Declaration.format, List.mem_cons, List.not_mem_nil, or_false] at hOther
        obtain rfl | rfl := hOther
        · exact absurd rfl hName
        · obtain ⟨_, _, rfl⟩ := bind_pure_eq_ok_iff.mp hRead
          exact hSlot
      other := by simp [Declaration.format] }
  rw [hGiven, Option.head?_toList]
  exact ⟨Option.length_toList_le, hIndex⟩

/-- Section and properties occur at most once each, and every member of the properties becomes one
item in order. Repeated names of properties are kept. -/
theorem properties_of_reads (hSource : source.Follows written) {declaration : Declaration}
    (h : (Declaration.format source).Reads written tree declaration) :
    (tree.given "esMapping" 1).length ≤ 1 ∧
      (∀ mapping ∈ tree.given "esMapping" 1, (mapping.given "properties" 0).length ≤ 1) ∧
      List.Forall₂ Property.Item (propertyMembers tree) declaration.properties := by
  obtain ⟨given, (hGiven : tree.given "esMapping" 1 = _), ⟨hOnce, hItems⟩, _⟩ := h.track
    (fun given declaration =>
      (∀ mapping ∈ given.toList, (mapping.given "properties" 0).length ≤ 1) ∧
        List.Forall₂ Property.Item ((given.toList.flatMap (·.given "properties" 0)).flatMap
          (·.members)) declaration.properties)
    format_distinct (rfl : (Declaration.format source).fields[1]? = some _) {
      blank := ⟨by simp, .nil⟩
      store := by
        intro state value tree next hTree hRead
        obtain ⟨properties, hProperties, rfl⟩ := bind_pure_eq_ok_iff.mp hRead
        have hMapping := mapping_of_reads hSource (hSource.record hTree hProperties)
        simpa using hMapping
      keep := by
        intro other hOther hName given state value next hRead hSlot
        simp only [Declaration.format, List.mem_cons, List.not_mem_nil, or_false] at hOther
        obtain rfl | rfl := hOther
        · obtain ⟨_, _, rfl⟩ := bind_pure_eq_ok_iff.mp hRead
          exact hSlot
        · exact absurd rfl hName
      other := by simp [Declaration.format] }
  rw [propertyMembers, propertyObjects, hGiven]
  exact ⟨Option.length_toList_le, hOnce, hItems⟩

/-- Soundness of reading a declaration: no section occurs twice, and every written property is there
in its place. -/
theorem read_writtenBy (hSource : source.Follows written) (hTree : written value tree)
    {declaration : Declaration} (h : Declaration.read source value = .ok declaration) :
    declaration.WrittenBy tree := by
  have hReads := hSource.record hTree h
  obtain ⟨hIndexOnce, hIndex⟩ := index_of_reads hSource hReads
  obtain ⟨hMappingOnce, hPropertiesOnce, hProperties⟩ := properties_of_reads hSource hReads
  exact ⟨hIndexOnce, hIndex, hMappingOnce, hPropertiesOnce, hProperties⟩

end Declaration

end Source

section Named

variable {place : Place} {entity : String} {declaration : Declaration}

/-- All members besides the entity are set aside with their values and in order. None of them is
inspected yet. -/
theorem NamedDeclaration.kept_of_readsMembers {room : Nat} {seen after : List String}
    {state final : NamedDeclaration} {members : List (Quoted × Tree)}
    (h : (NamedDeclaration.format Json.textSource).ReadsMembers
      (fun place tree => place = ⟨room, tree⟩) seen state members after final) :
    ∃ values, Json.readMembers room (members.filter (·.1.text? ≠ some "entity")) = .ok values ∧
      final.kept = values.reverse ++ state.kept := by
  induction h with
  | nil => exact ⟨[], rfl, rfl⟩
  | @field seen state key tree rest after final name field value next named known fresh taken read _
      ih =>
      obtain rfl : field = _ := List.mem_singleton.mp (List.mem_of_find?_eq_some known)
      obtain rfl : "entity" = name := by simpa using List.find?_some known
      obtain ⟨_, _, rfl⟩ := bind_pure_eq_ok_iff.mp read
      rw [List.filter_cons_of_neg (by simp [named])]
      exact ih
  | @other seen state key tree rest after final name keep value next named unknown others taken read
      _ ih =>
      have hName : name ≠ "entity" := by
        rintro rfl
        simp [NamedDeclaration.format] at unknown
      obtain rfl := Option.some.inj others
      obtain ⟨json, hJson, rfl⟩ := bind_pure_eq_ok_iff.mp read
      obtain ⟨values, hValues, hKept⟩ := ih
      subst taken
      have hRead : tree.read room = .ok json := Json.wellFormed_eq_ok_iff.mp hJson
      rw [List.filter_cons_of_pos (by simpa [named] using hName)]
      refine ⟨(name, json) :: values, ?_, by simp [hKept]⟩
      simp only [Json.readMembers, bind_eq_ok_iff, pure_eq_ok_iff]
      exact ⟨name, Json.Quoted.text?_eq_some_iff.mp named, json, hRead, values, hValues, rfl⟩
  | skipped named unknown others _ ih => cases others

/-- An item of an array names its entity exactly once, as a text. -/
theorem NamedDeclaration.entity_of_reads {named : NamedDeclaration} {tree : Tree}
    {written : Place → Tree → Prop} (hSource : Json.textSource.Follows written)
    (h : (NamedDeclaration.format Json.textSource).Reads written tree named) :
    ∃ value, tree.given "entity" 0 = [value] ∧ value.text? = some named.entity := by
  obtain ⟨given, hGiven, hEntity, hRequired⟩ := h.track
    (fun given named => ∀ value ∈ given, value.text? = some named.entity)
    (List.nodup_singleton _) (rfl : (NamedDeclaration.format _).fields[0]? = some _) {
      blank := by simp
      store := by
        intro state value tree next hTree hRead
        obtain ⟨text, hText, rfl⟩ := bind_pure_eq_ok_iff.mp hRead
        simpa using hSource.string hTree hText
      keep := by
        intro other hOther hName
        exact absurd (congrArg (·.name) (List.mem_singleton.mp hOther)) hName
      other := by
        intro keep hKeep given state key value next hRead hSlot
        obtain rfl := Option.some.inj hKeep
        obtain ⟨_, _, rfl⟩ := bind_pure_eq_ok_iff.mp hRead
        exact hSlot }
  obtain ⟨value, rfl⟩ := Option.isSome_iff_exists.mp (hRequired rfl)
  exact ⟨value, hGiven, hEntity value rfl⟩

/-- The member that names the entity is no key of a declaration, so leaving it out changes
nothing. -/
theorem Declaration.WrittenBy.of_filter {members : List (Quoted × Tree)}
    {ending other : Json.ObjectEnding}
    (h : declaration.WrittenBy (.object (members.filter (·.1.text? ≠ some "entity")) other)) :
    declaration.WrittenBy (.object members ending) := by
  have hGiven : ∀ name ≠ "entity", ∀ position,
      (Tree.object (members.filter (·.1.text? ≠ some "entity")) other).given name position =
        (Tree.object members ending).given name position :=
    fun name hName _ => Json.valuesOf_filter hName members
  obtain ⟨hIndexOnce, hIndex, hMappingOnce, hPropertiesOnce, hProperties⟩ := h
  rw [Declaration.propertyMembers, Declaration.propertyObjects] at hProperties
  rw [hGiven _ (by decide)] at hIndexOnce hIndex hMappingOnce hPropertiesOnce hProperties
  exact ⟨hIndexOnce, hIndex, hMappingOnce, hPropertiesOnce, hProperties⟩

/-- Soundness for an item of an array: it is an object that names its entity once, and its other
members make the declaration. -/
theorem Declaration.readNamed_writtenBy
    (h : Declaration.readNamed Json.textSource place = .ok (entity, declaration)) :
    (∃ value, place.tree.given "entity" 0 = [value] ∧ value.text? = some entity) ∧
      declaration.WrittenBy place.tree := by
  obtain ⟨named, hNamed, h⟩ := bind_eq_ok_iff.mp h
  obtain ⟨_, hDeclaration, h⟩ := bind_eq_ok_iff.mp h
  cases h
  refine ⟨NamedDeclaration.entity_of_reads Json.textSource_follows
    (Json.textSource_follows.record rfl hNamed), ?_⟩
  -- What was set aside is read again, as if it were an object without the name of the entity.
  obtain ⟨room, hReads⟩ := Json.Record.ofPlace_sound hNamed
  generalize place.tree = tree at hReads
  cases hReads with
  | list others _ => cases others
  | @object members ending after _ read _ =>
      obtain ⟨values, hValues, hKept⟩ := NamedDeclaration.kept_of_readsMembers read
      have hHolds : (Tree.object (members.filter (·.1.text? ≠ some "entity")) .closed).Holds
          (.object named.kept.reverse) := by
        refine ⟨room + 1, Tree.read_object_eq_ok_iff.mpr ⟨room, values, rfl, hValues, rfl, ?_⟩⟩
        rw [hKept]
        simp [NamedDeclaration.format]
      exact (Declaration.read_writtenBy Json.valueSource_follows hHolds
        (mapError_eq_ok_iff.mp hDeclaration)).of_filter

end Named

end EntitySearch
