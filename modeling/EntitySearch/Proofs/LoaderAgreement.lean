import EntitySearch.Proofs.LoadedDeclarations
import EntitySearch.Proofs.SourceAgreement
import EntitySearch.Proofs.WrittenText

/-! Declarations are loaded alike from a text and from the value that the text holds, provided that
no key is repeated in the text: a value has nothing left of what a repetition says first. -/
namespace EntitySearch

open Json (Document Place ReadAlike Source TextError Tree)

section Formats

variable {σ τ ε δ : Type} {twins : σ → τ → Prop} {source : Source σ ε} {other : Source τ δ}

theorem Property.format_alike (h : source.Alike twins other) :
    (Property.format source).Alike twins (Property.format other) where
  blank := rfl
  fields := .cons ⟨rfl, rfl, fun _ => h.string.map _⟩ <|
    .cons ⟨rfl, rfl, fun _ => h.value.map _⟩ .nil
  other := .none

theorem Declaration.mappingFormat_alike (h : source.Alike twins other) :
    (Declaration.mappingFormat source).Alike twins (Declaration.mappingFormat other) where
  blank := rfl
  fields := .cons ⟨rfl, rfl, fun _ => h.entries _ (h.record (Property.format_alike h))⟩ .nil
  other := .none

/-- Formats are alike whenever their sources are, field by field. The lemmas before it do the same
for the nested sections. -/
theorem Declaration.format_alike (h : source.Alike twins other) :
    (Declaration.format source).Alike twins (Declaration.format other) where
  blank := rfl
  fields := .cons ⟨rfl, rfl, fun _ => (h.optional h.string).map _⟩ <|
    .cons ⟨rfl, rfl, fun _ => (h.record (Declaration.mappingFormat_alike h)).map _⟩ .nil
  other := .none

theorem NamedDeclaration.format_alike (h : source.Alike twins other) :
    (NamedDeclaration.format source).Alike twins (NamedDeclaration.format other) where
  blank := rfl
  fields := .cons ⟨rfl, rfl, fun _ => h.string.map _⟩ .nil
  other := .some fun _ _ => h.value.map _

theorem Declaration.read_alike (h : source.Alike twins other) :
    ReadAlike twins (Declaration.read source) (Declaration.read other) :=
  h.record (Declaration.format_alike h)

/-- Members beside the entity are set aside as values by both sources, so from there on one reader
reads them. -/
theorem Declaration.readNamed_alike (h : source.Alike twins other) :
    ReadAlike twins (Declaration.readNamed source) (Declaration.readNamed other) := by
  intro value twin hTwins
  simp only [Declaration.readNamed, toOption_bind, toOption_mapError,
    h.record (NamedDeclaration.format_alike h) value twin hTwins, toOption_pure]

end Formats

namespace Declaration

variable {room : Nat}

/-- A written array loads as the list of its values, provided all of them can be read as values. -/
theorem readWrittenList_alike {items : List Tree} {values : List Json}
    (hItems : Json.readItems room items = .ok values) :
    (readWrittenList room items).toOption =
      values.mapM fun value => (readNamed Json.wholeValue value).toOption := by
  rw [Json.readItems_eq_ok_iff] at hItems
  induction hItems with
  | nil => rfl
  | @cons item value items values hItem _ ih =>
      have hNamed := readNamed_alike (Json.textSource_alike Json.wholeSurplus) ⟨room, item⟩ value hItem
      simp only [readWrittenList, List.mapM_cons, toOption_bind, hNamed, ih, toOption_pure]
      rfl

/-- Reading named declarations from an object proceeds member by member, with no state between
them. -/
theorem readEntries_eq_mapM (values : List (String × Json)) :
    (Json.readEntries (read Json.wholeValue) values).toOption =
      values.mapM fun member => do return (member.1, ← (read Json.wholeValue member.2).toOption) := by
  induction values with
  | nil => rfl
  | cons member rest ih =>
      simp only [Json.readEntries, List.mapM_cons, toOption_bind, ih, toOption_pure]
      cases (read Json.wholeValue member.2).toOption <;> rfl

/-- A place and the value written there load alike in both layouts. This requires the value to be
readable. -/
theorem readWritten_alike : ReadAlike Place.Holds readWritten loadValue := by
  rintro ⟨room, tree⟩ value hHolds
  have hSources := Json.textSource_alike Json.wholeSurplus
  cases tree with
  | object members ending =>
      obtain ⟨inner, values, rfl, hMembers, hEnding, rfl⟩ :=
        Tree.read_object_eq_ok_iff.mp hHolds
      simp only [readWritten, loadValue, Json.enter, toOption_bind, toOption_ok, Option.bind_some,
        Json.readWrittenEntries_alike (read_alike hSources) hMembers, hEnding,
        Json.toOption_wellFormed, toOption_pure, Option.bind_fun_some, toOption_mapM,
        toOption_mapError]
      exact readEntries_eq_mapM values
  | list items ending =>
      obtain ⟨inner, values, rfl, hItems, hEnding, rfl⟩ := Tree.read_list_eq_ok_iff.mp hHolds
      simp only [readWritten, loadValue, Json.enter, toOption_bind, toOption_ok, Option.bind_some,
        readWrittenList_alike hItems, hEnding, Json.toOption_wellFormed, toOption_pure,
        Option.bind_fun_some, toOption_mapM, toOption_mapError]
  | null | bool _ =>
      cases hHolds
      rfl
  | number _ | string _ =>
      obtain ⟨_, _, rfl⟩ := bind_pure_eq_ok_iff.mp hHolds
      simp [readWritten, loadValue]
  | fault _ => cases hHolds

/-- The two loaders agree on a text without surplus whose tree can be read as a value. -/
theorem loadText_eq_ok_iff_of_read {text : String} {value : Json}
    (hRead : (Document.ofText text).root.read Json.depthLimit = .ok value)
    (hSurplus : (Document.ofText text).surplus = false) (pairs : List (String × Declaration)) :
    loadText text = .ok pairs ↔ loadValue value = .ok pairs := by
  have hAlike := readWritten_alike ⟨Json.depthLimit, (Document.ofText text).root⟩ value hRead
  rw [loadText, mapError_eq_ok_iff, readAll, Json.readText_eq_ok_iff, ← toOption_eq_some_iff, hAlike,
    toOption_eq_some_iff]
  exact and_iff_left hSurplus

/-- For every text that parses and repeats no key in an object, the text loader and the value loader
accept the same texts and return the same declarations in the same order. Errors are not
compared. -/
theorem loadText_eq_ok_iff_loadValue {text : String} {value : Json}
    (hParse : Json.parse text = .ok value) (hDistinct : (Document.ofText text).root.Distinct) :
    ∀ pairs, loadText text = .ok pairs ↔ loadValue value = .ok pairs := by
  obtain ⟨written, hRead, hSurplus, rfl⟩ := Json.parse_eq_ok_iff.mp hParse
  rw [(hDistinct.of_read hRead).collapse_eq_self]
  exact loadText_eq_ok_iff_of_read hRead hSurplus

/-- One declaration given by position with its property, and one with an unknown key, a null index
and no mapping section. -/
def unlike : Json :=
  .object [
    ("notes", .array [.string "notes-v1",
      .object [("properties", .object [("title", .array [.string "text", .null])])]]),
    ("people", .object [("color", .bool true), ("index", .null)])]

/-- A positional declaration and one with an unknown key, a null index and no mapping section,
loaded equally by both. -/
theorem unlike_loaded_alike :
    Json.parse unlike.compact = .ok unlike ∧ (Document.ofText unlike.compact).root.Distinct ∧
      loadText unlike.compact =
        .ok [("notes", ⟨some "notes-v1", [("title", ⟨"text", some .null⟩)]⟩), ("people", .empty)] := by
  have hParse : Json.parse unlike.compact = .ok unlike :=
    Json.Integral.parse_compact (by simp [unlike]) (by simp [unlike]) (by decide)
  have hDistinct : (Document.ofText unlike.compact).root.Distinct := by
    rw [ofText_compact]
    decide +kernel
  exact ⟨hParse, hDistinct, (loadText_eq_ok_iff_loadValue hParse hDistinct _).mpr rfl⟩

end Declaration

end EntitySearch
