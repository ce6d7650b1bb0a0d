import EntitySearch.Declaration.Loading
import EntitySearch.Json.Writer
import EntitySearch.Proofs.DeclarationReading
import EntitySearch.Proofs.RegistryRun
import Mathlib.Data.List.Count

/-! What becomes of repetitions in a text of declarations. A key that the format knows may not be
repeated; names of entities and properties may, but then the declarations cannot be registered. -/
namespace EntitySearch.Declaration

open Json (Place Quoted TextError Tree Document)

/-- What a text has for each entity: the declaration, and the name where the layout gives one. -/
def entries : Tree → List (Option String × Tree)
  | .object members _ => members.map fun (key, tree) => (key.text?, tree)
  | .list items _ => items.map fun item => ((item.given "entity" 0).head?.bind Tree.text?, item)
  | _ => []

/-- Some object repeats a key in a place where the format looks for it. -/
inductive RepeatsKey (tree : Tree) : Prop where
  | index (twice : tree.Repeats "index")
  | mapping (twice : tree.Repeats "esMapping")
  | properties {mapping} (declared : mapping ∈ tree.given "esMapping" 1)
      (twice : mapping.Repeats "properties")
  | property {member name} (declared : member ∈ propertyMembers tree)
      (known : name = "type" ∨ name = "index_prefixes") (twice : member.2.Repeats name)

/-- A declaration in the text repeats a key of the format, or an array item repeats its entity. -/
inductive RepeatsKnownKey (root : Tree) : Prop where
  | declaration {entry} (present : entry ∈ entries root) (twice : RepeatsKey entry.2)
  | entity {items ending item} (list : root = .list items ending) (present : item ∈ items)
      (twice : item.Repeats "entity")

/-- Two entities of a text have one name, or two properties in one object. -/
inductive RepeatsName (root : Tree) : Prop where
  | entity {name} (twice : 1 < ((entries root).map (·.1)).count (some name))
  | property {entry object name} (present : entry ∈ entries root)
      (declared : object ∈ propertyObjects entry.2) (twice : object.Repeats name)

/-- A loaded declaration with the entry of the text it was made from. -/
def LoadedFrom (entry : Option String × Tree) (pair : String × Declaration) : Prop :=
  entry.1 = some pair.1 ∧ pair.2.WrittenBy entry.2

/-- A tree that makes a declaration repeats no key of the format, at any depth that the format looks
at. -/
theorem WrittenBy.not_repeatsKey {declaration : Declaration} {tree : Tree}
    (h : declaration.WrittenBy tree) : ¬ RepeatsKey tree := by
  intro hRepeats
  cases hRepeats with
  | index twice =>
      have hLength := twice.length_given 0
      have hOnce := h.index_once
      omega
  | mapping twice =>
      have hLength := twice.length_given 1
      have hOnce := h.mapping_once
      omega
  | properties declared twice =>
      have hLength := twice.length_given 0
      have hOnce := h.properties_once _ declared
      omega
  | property declared known twice =>
      obtain ⟨item, _, hItem⟩ := exists_of_forall₂_of_mem h.properties declared
      rcases known with rfl | rfl
      · obtain ⟨value, hGiven, _⟩ := hItem.2.type
        have hLength := twice.length_given 0
        rw [hGiven, List.length_singleton] at hLength
        omega
      · have hLength := twice.length_given 1
        rw [hItem.2.prefixes.length_eq] at hLength
        have hOnce : item.2.prefixes.toList.length ≤ 1 := Option.length_toList_le
        omega

/-- Each item of an array makes its own pair, in order. -/
theorem readWrittenList_sound {room : Nat} {items : List Tree}
    {pairs : List (String × Declaration)} (h : readWrittenList room items = .ok pairs) :
    List.Forall₂ (fun item pair => readNamed Json.textSource ⟨room, item⟩ = .ok pair)
      items pairs := by
  induction items generalizing pairs with
  | nil =>
      obtain rfl : [] = pairs := by simpa [readWrittenList] using h
      exact .nil
  | cons item rest ih =>
      simp only [readWrittenList, bind_eq_ok_iff, pure_eq_ok_iff] at h
      obtain ⟨pair, hPair, pairs, hRest, rfl⟩ := h
      exact .cons hPair (ih hRest)

/-- Soundness for both layouts: one pair for each written entry, in order. An item of an array names
its entity exactly once. -/
theorem readWritten_sound {place : Place} {pairs : List (String × Declaration)}
    (h : readWritten place = .ok pairs) :
    List.Forall₂ LoadedFrom (entries place.tree) pairs ∧
      ∀ items ending, place.tree = .list items ending →
        ∀ item ∈ items, ¬ item.Repeats "entity" := by
  obtain ⟨room, tree⟩ := place
  cases tree with
  | object members ending =>
      simp only [readWritten, bind_eq_ok_iff, pure_eq_ok_iff] at h
      obtain ⟨inner, _, _, hEntries, _, _, rfl⟩ := h
      refine ⟨?_, by simp⟩
      rw [entries, List.forall₂_map_left_iff]
      refine (Json.readWrittenEntries_sound hEntries).imp ?_
      rintro member pair ⟨hName, hDeclaration⟩
      exact ⟨hName, read_writtenBy Json.textSource_follows rfl hDeclaration⟩
  | list items ending =>
      simp only [readWritten, bind_eq_ok_iff, pure_eq_ok_iff] at h
      obtain ⟨inner, _, _, hItems, _, _, rfl⟩ := h
      have hNamed := readWrittenList_sound hItems
      constructor
      · rw [entries, List.forall₂_map_left_iff]
        refine hNamed.imp ?_
        rintro item ⟨entity, declaration⟩ hItem
        obtain ⟨⟨value, hGiven, hEntity⟩, hDeclaration⟩ := readNamed_writtenBy hItem
        refine ⟨?_, hDeclaration⟩
        rw [hGiven]
        exact hEntity
      · rintro _ _ ⟨⟩ item hItem hTwice
        obtain ⟨⟨entity, declaration⟩, _, hRead⟩ := exists_of_forall₂_of_mem hNamed hItem
        obtain ⟨⟨value, hGiven, _⟩, _⟩ := readNamed_writtenBy hRead
        have hLength := hTwice.length_given 0
        rw [hGiven, List.length_singleton] at hLength
        omega
  | _ =>
      obtain ⟨_, _, h⟩ := bind_eq_ok_iff.mp h
      cases h

/-- A text that loads has a declaration for each of its entries and repeats no key of the format
anywhere. -/
theorem loadText_sound {text : String} {pairs : List (String × Declaration)}
    (h : loadText text = .ok pairs) :
    List.Forall₂ LoadedFrom (entries (Document.ofText text).root) pairs ∧
      ¬ RepeatsKnownKey (Document.ofText text).root := by
  obtain ⟨hRead, _⟩ := Json.readText_eq_ok_iff.mp (mapError_eq_ok_iff.mp h)
  obtain ⟨hLoaded, hEntity⟩ := readWritten_sound hRead
  refine ⟨hLoaded, ?_⟩
  intro hRepeats
  cases hRepeats with
  | declaration present twice =>
      obtain ⟨pair, _, hPair⟩ := exists_of_forall₂_of_mem hLoaded present
      exact hPair.2.not_repeatsKey twice
  | entity list present twice => exact hEntity _ _ list _ present twice

/-- A name that occurs twice breaks distinctness, by counting. -/
theorem not_nodup_of_count {names : List String} {name : String}
    (h : 1 < (names.map some).count (some name)) : ¬ names.Nodup := by
  intro hDistinct
  rw [List.count_map_of_injective _ _ fun _ _ => Option.some.inj] at h
  have hOnce := List.nodup_iff_count_le_one.mp hDistinct name
  omega

/-- Repeated names survive loading, among the entities or among the properties of one of them. -/
theorem repeated_of_repeatsName {root : Tree} {pairs : List (String × Declaration)}
    (hLoaded : List.Forall₂ LoadedFrom (entries root) pairs) (hRepeats : RepeatsName root) :
    ¬ (pairs.map (·.1)).Nodup ∨ ∃ pair ∈ pairs, ¬ (pair.2.properties.map (·.1)).Nodup := by
  cases hRepeats with
  | entity twice =>
      have hNames : (entries root).map (·.1) = (pairs.map (·.1)).map some := by
        rw [List.map_map]
        exact map_eq_map_of_forall₂ hLoaded fun _ _ h => h.1
      rw [hNames] at twice
      exact .inl (not_nodup_of_count twice)
  | @property entry object name present declared twice =>
      obtain ⟨pair, hPair, _, hWritten⟩ := exists_of_forall₂_of_mem hLoaded present
      have hNames : (propertyMembers entry.2).map (·.1.text?) =
          (pair.2.properties.map (·.1)).map some := by
        rw [List.map_map]
        exact map_eq_map_of_forall₂ hWritten.properties fun _ _ h => h.1
      have hObject : object.members.Sublist (propertyMembers entry.2) :=
        List.sublist_flatten_of_mem (List.mem_map_of_mem declared)
      have hTwice := twice.trans_le ((hObject.map (·.1.text?)).count_le (some name))
      rw [hNames] at hTwice
      exact .inr ⟨pair, hPair, not_nodup_of_count hTwice⟩

/-- Nothing declared is merged. A text that repeats a key of the format does not load; a text that
loads gives one declaration for each entity and one item for each property, in order; and a repeated
entity or property is left for registration to refuse. -/
theorem loadText_collapses_nothing (text : String) :
    (RepeatsKnownKey (Document.ofText text).root → ∃ error, loadText text = .error error) ∧
    (∀ pairs, loadText text = .ok pairs →
      List.Forall₂ LoadedFrom (entries (Document.ofText text).root) pairs) ∧
    (RepeatsName (Document.ofText text).root → ∀ registry : Registry, ¬ ∃ pairs count,
      loadText text = .ok pairs ∧ (registry.registerAll pairs).2 = .ok count) := by
  refine ⟨?_, fun pairs hPairs => (loadText_sound hPairs).1, ?_⟩
  · intro hRepeats
    cases hLoad : loadText text with
    | error error => exact ⟨error, rfl⟩
    | ok pairs => exact absurd hRepeats (loadText_sound hLoad).2
  · rintro hRepeats registry ⟨pairs, count, hLoad, hRegister⟩
    obtain ⟨hDistinct, hPairs⟩ := Registry.distinct_of_registerAll hRegister
    rcases repeated_of_repeatsName (loadText_sound hLoad).1 hRepeats with hTwice | hTwice
    · exact hTwice hDistinct
    · obtain ⟨pair, hPair, hTwice⟩ := hTwice
      obtain ⟨_, config, hConfig⟩ := hPairs pair hPair
      exact hTwice (EntityConfig.distinct_of_ofDeclaration hConfig)

def twoTitles : Declaration :=
  Declaration.empty.text "title" |>.keyword "title"

def twoTypes : Json :=
  .object [("entity", .string "notes"), ("esMapping", .object [("properties", .object [
    ("title", .object [("type", .string "text"), ("type", .string "keyword")])])])]

/-- Parsing a printed value returns its tree, with no surplus behind it. -/
theorem ofText_compact (value : Json) :
    Document.ofText value.compact = .ofTokens (Json.tokens value.chars) := by
  rw [Document.ofText, Json.compact, String.toList_ofList]

/-- A property declared twice loads twice and is refused by registration. A type given twice is
refused by the reader itself. -/
theorem twoTitles_loaded_and_twoTypes_refused :
    loadText (Json.object [("notes", twoTitles.toJson)]).compact = .ok [("notes", twoTitles)] ∧
      (∀ (registry : Registry) (count : Nat),
        (registry.registerAll [("notes", twoTitles)]).2 ≠ .ok count) ∧
      ∃ error, loadText (Json.array [twoTypes]).compact = .error error := by
  have hLoad : loadText (Json.object [("notes", twoTitles.toJson)]).compact =
      .ok [("notes", twoTitles)] := by
    rw [loadText, readAll, Json.readText, ofText_compact]
    rfl
  refine ⟨hLoad, ?_, ?_⟩
  · intro registry count hRegister
    have hRefused := loadText_collapses_nothing (Json.object [("notes", twoTitles.toJson)]).compact
    rw [ofText_compact] at hRefused
    apply hRefused.2.2
      (@RepeatsName.property _ _ _ "title" List.mem_cons_self List.mem_cons_self ?_) registry
    · exact ⟨_, count, hLoad, hRegister⟩
    · decide +kernel
  · have hRefused := loadText_collapses_nothing (Json.array [twoTypes]).compact
    rw [ofText_compact] at hRefused
    apply hRefused.1
    apply RepeatsKnownKey.declaration List.mem_cons_self
    apply @RepeatsKey.property _ _ "type" List.mem_cons_self (.inl rfl)
    decide +kernel

end EntitySearch.Declaration
