import EntitySearch.Proofs.LoaderAgreement

/-! What the loaders complain of when a text holds a value. It is the shape of the value, and the
message says so; but where an array of fields goes on after the last field, the reader finds fault
with the text. -/
namespace EntitySearch

open Json (Document Field Place Quoted Record ShapeError TextError Tree textSource)

variable {α : Type}

namespace Json

/-- A list with more than so many items. -/
def Tree.Overlong (length : Nat) : Tree → Prop
  | .list items _ => length < items.length
  | _ => False

/-- A complaint of shape or, under the condition `surplus`, one about what follows the last field of
an array. -/
def TextError.AboutShape (surplus : Prop) : TextError → Prop
  | .shape _ => True
  | .malformed cause => cause = .trailingCharacters ∧ surplus

theorem TextError.AboutShape.mono {surplus wider : Prop} {cause : TextError}
    (h : cause.AboutShape surplus) (hWider : surplus → wider) : cause.AboutShape wider := by
  cases cause with
  | shape cause => trivial
  | malformed cause => exact ⟨h.1, hWider h.2⟩

/-- On readable trees the reader complains of shape only. `surplus` marks the trees that may be too
long an array. -/
def MindsShape (surplus : Tree → Prop) (read : Place → Except TextError α) : Prop :=
  ∀ place value cause, place.Holds value → read place = .error cause →
    cause.AboutShape (surplus place.tree)

theorem Place.Holds.found {place : Place} {value : Json} (h : place.Holds value) :
    textSource.found place = .ok value.found :=
  wellFormed_eq_ok_iff.mpr (Tree.Holds.found ⟨place.room, h⟩)

theorem Quoted.wellFormed_read {key : Quoted} {name : String} (h : key.text? = some name) :
    wellFormed key.read = .ok name :=
  wellFormed_eq_ok_iff.mpr (Quoted.text?_eq_some_iff.mp h)

section Readers

variable {surplus : Tree → Prop} {read : Place → Except TextError α}

/-- Complaints do not depend on what is done with a result. -/
theorem MindsShape.map {β : Type} (h : MindsShape surplus read) (f : α → β) :
    MindsShape surplus fun place => read place >>= fun a => pure (f a) := by
  intro place value cause hHolds hError
  exact h place value cause hHolds (bind_pure_eq_error_iff.mp hError)

/-- A tree that can be read as a value is read without complaint, so nothing is left to show. -/
theorem mindsShape_value : MindsShape surplus textSource.value := by
  intro place value cause hHolds hError
  rw [show textSource.value place = .ok value from wellFormed_eq_ok_iff.mpr hHolds] at hError
  cases hError

theorem mindsShape_string : MindsShape surplus textSource.string := by
  intro place value cause hHolds hError
  rw [Source.string, bind_of_eq_ok hHolds.found] at hError
  cases value <;> cases hError <;> trivial

theorem MindsShape.optional (h : MindsShape surplus read) :
    MindsShape surplus (textSource.optional read) := by
  intro place value cause hHolds hError
  rw [Source.optional, bind_of_eq_ok hHolds.found] at hError
  cases value with
  | null => cases hError
  | _ => exact h place _ cause hHolds (bind_pure_eq_error_iff.mp hError)

/-- Run lemma for the members of an object: the first complaint is about one of them, of shape or of
its surplus. -/
theorem MindsShape.readWrittenEntries (h : MindsShape surplus read) {room : Nat}
    {members : List (Quoted × Tree)} {values : List (String × Json)} {cause : TextError}
    (hMembers : readMembers room members = .ok values)
    (hError : Json.readWrittenEntries room read members = .error cause) :
    cause.AboutShape (∃ member ∈ members, surplus member.2) := by
  rw [readMembers_eq_ok_iff] at hMembers
  induction hMembers with
  | nil => cases hError
  | @cons member pair members values hMember _ ih =>
      obtain ⟨hKey, hValue⟩ := hMember
      rw [Json.readWrittenEntries, bind_of_eq_ok (Quoted.wellFormed_read hKey)] at hError
      rcases bind_eq_error_iff.mp hError with hFirst | ⟨_, _, hRest⟩
      · apply (h ⟨room, member.2⟩ pair.2 cause hValue hFirst).mono
        exact fun hSurplus => ⟨member, List.mem_cons_self, hSurplus⟩
      · apply (ih (bind_pure_eq_error_iff.mp hRest)).mono
        rintro ⟨other, hOther, hSurplus⟩
        exact ⟨other, List.mem_cons_of_mem _ hOther, hSurplus⟩

theorem MindsShape.entries (h : MindsShape surplus read) (expected : String) :
    MindsShape (fun tree => ∃ member ∈ tree.members, surplus member.2)
      (textSource.entries expected read) := by
  rintro ⟨room, tree⟩ value cause hHolds hError
  have hFound : wellFormed tree.found = .ok value.found := hHolds.found
  cases tree with
  | object members ending =>
      obtain ⟨inner, values, rfl, hMembers, hEnding, rfl⟩ := Tree.read_object_eq_ok_iff.mp hHolds
      change (Json.readWrittenEntries inner read members >>= fun entries =>
        wellFormed ending.check >>= fun _ => pure entries) = .error cause at hError
      rcases bind_eq_error_iff.mp hError with hEntries | ⟨_, _, hEnd⟩
      · exact h.readWrittenEntries hMembers hEntries
      · rw [hEnding] at hEnd
        cases hEnd
  | _ =>
      change (wellFormed (Tree.found _) >>= fun found => _) = _ at hError
      rw [bind_of_eq_ok hFound] at hError
      cases hError
      trivial

end Readers

theorem mem_valuesOf_cons {name : String} {member : Quoted × Tree} {members : List (Quoted × Tree)}
    {tree : Tree} (h : tree ∈ valuesOf name members) : tree ∈ valuesOf name (member :: members) := by
  have hSublist := ((List.sublist_cons_self member members).filter
    (·.1.text? = some name)).map (·.2)
  exact hSublist.subset h

namespace Record

variable {record : Record Place TextError α} {surplus : String → Tree → Prop}

/-- All parts of a record complain of shape only. `surplus` marks, by field, the trees that may be
too long an array. -/
structure MindsShape (record : Record Place TextError α) (surplus : String → Tree → Prop) :
    Prop where
  fields : ∀ field ∈ record.fields, ∀ state, Json.MindsShape (surplus field.name) (field.read state)
  other : ∀ keep, record.other = some keep → ∀ state key,
    Json.MindsShape (fun _ => False) (keep state key)

/-- The record is an array with more items than fields, or a tree given to one of its fields is
marked by `surplus`. -/
def Overfull (record : Record Place TextError α) (surplus : String → Tree → Prop) (tree : Tree) :
    Prop :=
  (record.other = none ∧ tree.Overlong record.fields.length) ∨
    ∃ position field, record.fields[position]? = some field ∧
      ∃ part ∈ tree.given field.name position, surplus field.name part

/-- Run lemma for the fields of a record given by key. Keys that no field has are skipped without
complaint, since the whole text can be read. -/
theorem MindsShape.readWrittenMembers (h : record.MindsShape surplus) {room : Nat}
    {members : List (Quoted × Tree)} {values : List (String × Json)}
    (hMembers : Json.readMembers room members = .ok values) {given : List String} {state : α}
    {cause : TextError}
    (hError : record.readWrittenMembers room given state members = .error cause) :
    cause.AboutShape (∃ field ∈ record.fields, ∃ part ∈ valuesOf field.name members,
      surplus field.name part) := by
  rw [readMembers_eq_ok_iff] at hMembers
  induction hMembers generalizing given state with
  | nil => cases hError
  | @cons member pair members values hMember _ ih =>
      obtain ⟨key, tree⟩ := member
      obtain ⟨name, value⟩ := pair
      obtain ⟨hKey, hValue⟩ := hMember
      have hLater : ∀ {given state},
          record.readWrittenMembers room given state members = .error cause →
            cause.AboutShape (∃ field ∈ record.fields,
              ∃ part ∈ valuesOf field.name ((key, tree) :: members), surplus field.name part) := by
        intro given state hRest
        apply (ih hRest).mono
        rintro ⟨field, hField, part, hPart, hSurplus⟩
        exact ⟨field, hField, part, mem_valuesOf_cons hPart, hSurplus⟩
      rw [Record.readWrittenMembers, bind_of_eq_ok (Quoted.wellFormed_read hKey)] at hError
      cases hField : record.fields.find? (·.name == name) with
      | some field =>
          have hMem := List.mem_of_find?_eq_some hField
          obtain rfl : field.name = name := by simpa using List.find?_some hField
          simp only [hField] at hError
          split at hError
          · cases hError
            trivial
          · rcases bind_eq_error_iff.mp hError with hRead | ⟨_, _, hRest⟩
            · apply (h.fields field hMem state ⟨room, tree⟩ value cause hValue hRead).mono
              intro hSurplus
              refine ⟨field, hMem, tree, ?_, hSurplus⟩
              rw [valuesOf_cons_self hKey]
              exact List.mem_cons_self
            · exact hLater hRest
      | none =>
          cases hOther : record.other with
          | some keep =>
              simp only [hField, hOther] at hError
              rcases bind_eq_error_iff.mp hError with hKeep | ⟨_, _, hRest⟩
              · exact (h.other keep hOther state name ⟨room, tree⟩ value cause hValue hKeep).mono
                  False.elim
              · exact hLater hRest
          | none =>
              simp only [hField, hOther, Tree.skip_of_read hValue] at hError
              exact hLater hError

variable (record) in
/-- Run lemma for the fields of a record given by position. Items behind the last field are a
surplus of the record itself. -/
theorem readWrittenItems_aboutShape {room : Nat} {ending : ListEnding}
    (hEnding : ending.check = .ok ()) {fields : List (Field Place TextError α)}
    (hFields : ∀ field ∈ fields, ∀ state, Json.MindsShape (surplus field.name) (field.read state))
    {items : List Tree} {values : List Json} (hItems : Json.readItems room items = .ok values)
    {index : Nat} {state : α} {cause : TextError}
    (hError : record.readWrittenItems room index ending state fields items = .error cause) :
    cause.AboutShape (fields.length < items.length ∨
      ∃ (position : Nat) (field : Field Place TextError α) (item : Tree),
        fields[position]? = some field ∧ items[position]? = some item ∧
          surplus field.name item) := by
  rw [readItems_eq_ok_iff] at hItems
  induction fields generalizing items values index state with
  | nil =>
      have hEnd := bind_pure_eq_error_iff.mp hError
      cases hItems with
      | nil =>
          have hChecked : checkEnd [] ending = .ok () := by
            cases ending <;> first | rfl | cases hEnding
          rw [hChecked] at hEnd
          cases hEnd
      | cons _ _ =>
          cases hEnd
          exact ⟨rfl, .inl (Nat.zero_lt_succ _)⟩
  | cons field fields ih =>
      obtain ⟨hField, hFields⟩ := List.forall_mem_cons.mp hFields
      cases hItems with
      | nil =>
          rw [readWrittenItems, hEnding] at hError
          change (if field.required = true then _ else _) = _ at hError
          split at hError
          · cases hError
            trivial
          · apply (ih hFields .nil hError).mono
            rintro (hLength | ⟨position, _, item, _, hItem, _⟩)
            · cases hLength
            · cases hItem
      | @cons item value items values hItem hRest =>
          rcases bind_eq_error_iff.mp hError with hRead | ⟨_, _, hLater⟩
          · apply (hField state ⟨room, item⟩ value cause hItem hRead).mono
            exact fun hSurplus => .inr ⟨0, field, item, rfl, rfl, hSurplus⟩
          · apply (ih hFields hRest hLater).mono
            rintro (hLength | ⟨position, other, part, hOther, hPart, hSurplus⟩)
            · exact .inl (Nat.succ_lt_succ hLength)
            · exact .inr ⟨position + 1, other, part, hOther, hPart, hSurplus⟩

/-- A record complains of shape only, unless it or one of its parts is too long an array. -/
theorem MindsShape.ofPlace (h : record.MindsShape surplus) :
    Json.MindsShape (record.Overfull surplus) record.ofPlace := by
  rintro ⟨room, tree⟩ value cause hHolds hError
  have hFound : wellFormed tree.found = .ok value.found := hHolds.found
  cases tree with
  | object members ending =>
      obtain ⟨inner, values, rfl, hMembers, hEnding, rfl⟩ := Tree.read_object_eq_ok_iff.mp hHolds
      have hEnter : enter (inner + 1) = .ok inner := rfl
      simp only [Record.ofPlace, bind_of_eq_ok hEnter] at hError
      rcases bind_eq_error_iff.mp hError with hRead | ⟨⟨given, state⟩, _, hMissing⟩
      · apply (h.readWrittenMembers hMembers hRead).mono
        rintro ⟨field, hField, part, hPart, hSurplus⟩
        obtain ⟨position, hPosition⟩ := List.mem_iff_getElem?.mp hField
        exact .inr ⟨position, field, hPosition, part, hPart, hSurplus⟩
      · have hClosed : wellFormed ending.check = .ok () := wellFormed_eq_ok_iff.mpr hEnding
        simp only [bind_of_eq_ok hClosed] at hMissing
        cases hName : record.missing? given with
        | some name =>
            simp only [hName] at hMissing
            cases hMissing
            trivial
        | none =>
            simp only [hName] at hMissing
            cases hMissing
  | list items ending =>
      obtain ⟨inner, values, rfl, hItems, hEnding, rfl⟩ := Tree.read_list_eq_ok_iff.mp hHolds
      simp only [Record.ofPlace] at hError
      split at hError
      · cases hError
        trivial
      · rename_i hOther
        apply (record.readWrittenItems_aboutShape hEnding h.fields hItems hError).mono
        rintro (hLength | ⟨position, field, item, hField, hItem, hSurplus⟩)
        · exact .inl ⟨by simpa using hOther, hLength⟩
        · exact .inr ⟨position, field, hField, item, by simp [Tree.given, hItem], hSurplus⟩
  | _ =>
      change (wellFormed (Tree.found _) >>= fun found => _) = _ at hError
      rw [bind_of_eq_ok hFound] at hError
      cases hError
      trivial

end Record

end Json

/-- No part of a property is a positional record, so only the property itself can be overfull. -/
theorem Property.mindsShape :
    Json.MindsShape (Tree.Overlong 2) (textSource.record (Property.format textSource)) := by
  have hParts : (Property.format textSource).MindsShape fun _ _ => False := by
    constructor
    · intro field hField state
      simp only [Property.format, List.mem_cons, List.not_mem_nil, or_false] at hField
      rcases hField with rfl | rfl
      · exact Json.mindsShape_string.map _
      · exact Json.mindsShape_value.map _
    · intro keep hKeep
      cases hKeep
  intro place value cause hHolds hError
  apply (hParts.ofPlace place value cause hHolds hError).mono
  rintro (⟨_, hLong⟩ | ⟨_, _, _, _, _, hNone⟩)
  · exact hLong
  · exact hNone.elim

namespace Declaration

/-- Some part of a declaration is an array with more items than the part has fields. -/
inductive Overfull (tree : Tree) : Prop where
  | declaration (long : tree.Overlong 2)
  | mapping {mapping} (declared : mapping ∈ tree.given "esMapping" 1) (long : mapping.Overlong 1)
  | property {member} (declared : member ∈ propertyMembers tree) (long : member.2.Overlong 2)

/-- The mapping section or a property in it is too long an array. -/
def OverfullMapping (tree : Tree) : Prop :=
  tree.Overlong 1 ∨
    ∃ member ∈ (tree.given "properties" 0).flatMap (·.members), member.2.Overlong 2

theorem mapping_mindsShape :
    Json.MindsShape OverfullMapping (textSource.record (mappingFormat textSource)) := by
  have hParts : (mappingFormat textSource).MindsShape fun _ tree =>
      ∃ member ∈ tree.members, member.2.Overlong 2 := by
    constructor
    · intro field hField state
      obtain rfl := List.mem_singleton.mp hField
      exact Property.mindsShape.entries _
    · intro keep hKeep
      cases hKeep
  intro place value cause hHolds hError
  apply (hParts.ofPlace place value cause hHolds hError).mono
  rintro (⟨_, hLong⟩ | ⟨position, field, hField, object, hObject, member, hMember, hLong⟩)
  · exact .inl hLong
  · cases position with
    | zero =>
        obtain rfl := Option.some.inj hField
        exact .inr ⟨member, List.mem_flatMap.mpr ⟨object, hObject, hMember⟩, hLong⟩
    | succ position => cases hField

theorem read_mindsShape : Json.MindsShape Overfull (read textSource) := by
  have hParts : (Declaration.format textSource).MindsShape fun name tree =>
      name = "esMapping" ∧ OverfullMapping tree := by
    constructor
    · intro field hField state
      simp only [Declaration.format, List.mem_cons, List.not_mem_nil, or_false] at hField
      rcases hField with rfl | rfl
      · exact Json.mindsShape_string.optional.map _
      · apply Json.MindsShape.map
        intro place value cause hHolds hError
        exact (mapping_mindsShape place value cause hHolds hError).mono fun hLong => ⟨rfl, hLong⟩
    · intro keep hKeep
      cases hKeep
  intro place value cause hHolds hError
  apply (hParts.ofPlace place value cause hHolds hError).mono
  rintro (⟨_, hLong⟩ | ⟨position, field, hField, mapping, hMapping, hName, hLong⟩)
  · exact .declaration hLong
  · cases position with
    | zero =>
        obtain rfl := Option.some.inj hField
        simp at hName
    | succ position =>
        cases position with
        | zero =>
            obtain rfl := Option.some.inj hField
            rcases hLong with hLong | ⟨member, hMember, hLong⟩
            · exact .mapping hMapping hLong
            · obtain ⟨object, hObject, hMember⟩ := List.mem_flatMap.mp hMember
              have hDeclared : object ∈ propertyObjects place.tree :=
                List.mem_flatMap.mpr ⟨mapping, hMapping, hObject⟩
              exact .property (List.mem_flatMap.mpr ⟨object, hDeclared, hMember⟩) hLong
        | succ position => cases hField

/-- An item of an array is never overfull: it must be an object, and its remaining members are read
as a value, where a surplus is a complaint of shape. -/
theorem readNamed_mindsShape : Json.MindsShape (fun _ => False) (readNamed textSource) := by
  have hParts : (NamedDeclaration.format textSource).MindsShape fun _ _ => False := by
    constructor
    · intro field hField state
      obtain rfl := List.mem_singleton.mp hField
      exact Json.mindsShape_string.map _
    · intro keep hKeep state key
      obtain rfl := Option.some.inj hKeep
      exact Json.mindsShape_value.map _
  intro place value cause hHolds hError
  rcases bind_eq_error_iff.mp hError with hNamed | ⟨named, _, hError⟩
  · apply (hParts.ofPlace place value cause hHolds hNamed).mono
    rintro (⟨hOther, _⟩ | ⟨_, _, _, _, _, hNone⟩)
    · cases hOther
    · exact hNone
  · obtain ⟨shape, _, rfl⟩ := mapError_eq_error_iff.mp (bind_pure_eq_error_iff.mp hError)
    trivial

theorem readWrittenList_aboutShape {room : Nat} {items : List Tree} {values : List Json}
    (hItems : Json.readItems room items = .ok values) {cause : TextError}
    (hError : readWrittenList room items = .error cause) : cause.AboutShape False := by
  rw [Json.readItems_eq_ok_iff] at hItems
  induction hItems with
  | nil => cases hError
  | @cons item value items values hItem _ ih =>
      rcases bind_eq_error_iff.mp hError with hNamed | ⟨named, _, hRest⟩
      · exact readNamed_mindsShape ⟨room, item⟩ value cause hItem hNamed
      · exact ih (bind_pure_eq_error_iff.mp hRest)

theorem readWritten_mindsShape :
    Json.MindsShape (fun root => ∃ member ∈ root.members, Overfull member.2) readWritten := by
  rintro ⟨room, tree⟩ value cause hHolds hError
  have hFound : Json.wellFormed tree.found = .ok value.found := hHolds.found
  cases tree with
  | object members ending => exact read_mindsShape.entries "" ⟨room, _⟩ value cause hHolds hError
  | list items ending =>
      obtain ⟨inner, values, rfl, hItems, hEnding, rfl⟩ := Tree.read_list_eq_ok_iff.mp hHolds
      change (readWrittenList inner items >>= fun entries =>
        Json.wellFormed ending.check >>= fun _ => pure entries) = .error cause at hError
      rcases bind_eq_error_iff.mp hError with hList | ⟨_, _, hEnd⟩
      · exact (readWrittenList_aboutShape hItems hList).mono False.elim
      · rw [hEnding] at hEnd
        cases hEnd
  | _ =>
      change (Json.wellFormed (Tree.found _) >>= fun found => _) = _ at hError
      rw [bind_of_eq_ok hFound] at hError
      cases hError
      trivial

/-- The complaints about a text that can be parsed: of shape, or of the surplus of an overfull
declaration in an object. -/
theorem readAll_aboutShape {text : String} {value : Json} (hParse : Json.parse text = .ok value)
    {cause : TextError} (hError : readAll text = .error cause) :
    cause.AboutShape (∃ member ∈ (Document.ofText text).root.members, Overfull member.2) := by
  obtain ⟨written, hRead, hSurplus, _⟩ := Json.parse_eq_ok_iff.mp hParse
  rcases bind_eq_error_iff.mp hError with hRoot | ⟨_, _, hEnd⟩
  · exact readWritten_mindsShape ⟨Json.depthLimit, _⟩ written cause hRead hRoot
  · simp only [hSurplus] at hEnd
    cases hEnd

theorem loadFile_eq_error_iff {path text : String} {bytes : ByteArray}
    (hText : String.fromUTF8? bytes = some text) {error : ConfigurationError} :
    loadFile path (.contents bytes) = .error error ↔
      ∃ cause, readAll text = .error cause ∧ error = .loadFailed path (.text cause) := by
  rw [loadFile, hText]
  cases hRead : readAll text <;> simp [hRead, eq_comm]

/-- Wording for a refused text: an invalid declaration, or invalid JSON where a member of an object
is overfull. -/
inductive Describes (root : Tree) (message : String) : Prop where
  | declaration {cause : ShapeError} (worded : message = "Invalid declaration: " ++ cause.message)
  | json {member} (present : member ∈ root.members) (overfull : Overfull member.2)
      (worded : message = "Invalid JSON: trailing characters")

/-- The wording follows the kind of complaint, with the surplus as the one exception. -/
theorem describes_of_aboutShape {root : Tree} {cause : TextError}
    (h : cause.AboutShape (∃ member ∈ root.members, Overfull member.2)) :
    Describes root (describeTextError cause) := by
  cases cause with
  | shape cause => exact .declaration rfl
  | malformed cause =>
      obtain ⟨rfl, member, hMember, hOverfull⟩ := h
      exact .json hMember hOverfull rfl

/-- Both loaders call a text that parses an invalid declaration rather than invalid JSON, unless it
is an object with an overfull declaration. No other shape of declaration is an exception. -/
theorem loaders_describe_of_parse {text : String} {value : Json}
    (hParse : Json.parse text = .ok value) :
    (∀ error, loadText text = .error error → ∃ fault,
      error = .invalidDeclaration rootName fault ∧
        Describes (Document.ofText text).root fault.message) ∧
    (∀ bytes, String.fromUTF8? bytes = some text → ∀ path error,
      loadFile path (.contents bytes) = .error error → ∃ fault,
        error = .loadFailed path fault ∧ Describes (Document.ofText text).root fault.message) := by
  constructor
  · intro error hError
    obtain ⟨cause, hCause, rfl⟩ := mapError_eq_error_iff.mp hError
    exact ⟨.text cause, rfl, describes_of_aboutShape (readAll_aboutShape hParse hCause)⟩
  · intro bytes hText path error hError
    obtain ⟨cause, hCause, rfl⟩ := (loadFile_eq_error_iff hText).mp hError
    exact ⟨.text cause, rfl, describes_of_aboutShape (readAll_aboutShape hParse hCause)⟩

/-- A mapping section by position with an item behind the properties. -/
def leftover : Json :=
  .array [.object [], .ofUInt64 1]

def leftoverMember : Json :=
  .object [("notes", .object [("esMapping", leftover)])]

def leftoverItem : Json :=
  .array [.object [("entity", .string "notes"), ("esMapping", leftover)]]

/-- In an object of declarations the overfull section is called invalid JSON, although its text
parses. -/
theorem leftoverMember_refused :
    Json.parse leftoverMember.compact = .ok leftoverMember ∧
      ∃ fault, loadText leftoverMember.compact = .error (.invalidDeclaration rootName fault) ∧
        fault.message = "Invalid JSON: trailing characters" := by
  have hParse : Json.parse leftoverMember.compact = .ok leftoverMember :=
    Json.Integral.parse_compact (by simp [leftoverMember, leftover, Json.ofUInt64, Number.ofUInt64])
      (by simp [leftoverMember, leftover, Json.ofUInt64]) (by decide)
  have hLoad : loadText leftoverMember.compact =
      .error (.invalidDeclaration rootName (.text (.malformed .trailingCharacters))) := by
    rw [loadText, readAll, Json.readText, ofText_compact]
    rfl
  exact ⟨hParse, _, hLoad, rfl⟩

/-- In an array the same section is called an invalid declaration, by both loaders. -/
theorem leftoverItem_refused :
    Json.parse leftoverItem.compact = .ok leftoverItem ∧
      (∃ fault, loadText leftoverItem.compact = .error (.invalidDeclaration rootName fault) ∧
        ∃ cause : ShapeError, fault.message = "Invalid declaration: " ++ cause.message) ∧
      ∃ fault, loadFile "declarations.json" (.contents leftoverItem.compact.toUTF8) =
          .error (.loadFailed "declarations.json" fault) ∧
        ∃ cause : ShapeError, fault.message = "Invalid declaration: " ++ cause.message := by
  have hParse : Json.parse leftoverItem.compact = .ok leftoverItem :=
    Json.Integral.parse_compact (by simp [leftoverItem, leftover, Json.ofUInt64, Number.ofUInt64])
      (by simp [leftoverItem, leftover, Json.ofUInt64]) (by decide)
  have hRoot : (Document.ofText leftoverItem.compact).root.members = [] := by
    rw [ofText_compact]
    rfl
  have hInvalid : ∀ message, Describes (Document.ofText leftoverItem.compact).root message →
      ∃ cause : ShapeError, message = "Invalid declaration: " ++ cause.message := by
    intro message hDescribes
    cases hDescribes with
    | declaration worded => exact ⟨_, worded⟩
    | json present =>
        rw [hRoot] at present
        cases present
  have hRead : ∃ cause, readAll leftoverItem.compact = .error cause := by
    rw [readAll, Json.readText, ofText_compact]
    exact ⟨_, rfl⟩
  have hBytes : String.fromUTF8? leftoverItem.compact.toUTF8 = some leftoverItem.compact := by
    rw [String.fromUTF8?, String.toUTF8_eq_toByteArray, dif_pos leftoverItem.compact.isValidUTF8]
    rfl
  obtain ⟨cause, hRead⟩ := hRead
  obtain ⟨hText, hFile⟩ := loaders_describe_of_parse hParse
  have hLoadText : loadText leftoverItem.compact =
      .error (.invalidDeclaration rootName (.text cause)) :=
    mapError_eq_error_iff.mpr ⟨cause, hRead, rfl⟩
  have hLoadFile : loadFile "declarations.json" (.contents leftoverItem.compact.toUTF8) =
      .error (.loadFailed "declarations.json" (.text cause)) :=
    (loadFile_eq_error_iff hBytes).mpr ⟨cause, hRead, rfl⟩
  refine ⟨hParse, ?_, ?_⟩
  · obtain ⟨fault, hFault, hMessage⟩ := hText _ hLoadText
    exact ⟨fault, hLoadText.trans (congrArg _ hFault), hInvalid _ hMessage⟩
  · obtain ⟨fault, hFault, hMessage⟩ := hFile _ hBytes _ _ hLoadFile
    exact ⟨fault, hLoadFile.trans (congrArg _ hFault), hInvalid _ hMessage⟩

end Declaration

end EntitySearch
