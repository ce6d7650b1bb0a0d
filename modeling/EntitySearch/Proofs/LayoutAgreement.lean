import EntitySearch.Proofs.DeclarationRoundTrip

/-! The two layouts of declarations load alike, whatever the declarations hold. An object has a
member for each declaration, and an item of an array has the name of the entity among the members of
the declaration; there they are set aside first and read afterwards. -/
namespace EntitySearch

open Json (Record ReadAlike ShapeError SurplusWording valueSource)

namespace Json

variable {α : Type} {record other : Record Json ShapeError α}

namespace Record

/-- Records that are alike read the same members with the same results. Errors are not compared. -/
theorem readMembers_alike (hRecord : record.Alike Eq other) (given : List String) (state : α)
    (members : List (String × Json)) :
    (record.readMembers given state members).toOption =
      (other.readMembers given state members).toOption := by
  induction members generalizing given state with
  | nil => rfl
  | cons member rest ih =>
      obtain ⟨key, value⟩ := member
      have hFind := hRecord.find? key
      have hKeep := hRecord.other
      rw [readMembers, readMembers]
      generalize record.fields.find? (·.name == key) = field at hFind ⊢
      generalize other.fields.find? (·.name == key) = twin at hFind ⊢
      cases hFind with
      | some hField =>
          dsimp only
          by_cases hGiven : given.contains key
          · rw [if_pos hGiven, if_pos hGiven]
          · rw [if_neg hGiven, if_neg hGiven]
            simp only [toOption_bind, hField.read state value value rfl, ih]
      | none =>
          generalize record.other = keep at hKeep ⊢
          generalize other.other = keepTwin at hKeep ⊢
          cases hKeep with
          | some hKeep => simp only [toOption_bind, hKeep state key value value rfl, ih]
          | none => exact ih given state

variable (record other) in
theorem readItems_alike {fields others : List (Field Json ShapeError α)}
    (hFields : List.Forall₂ (Field.Alike Eq) fields others) (index : Nat) (state : α)
    (values : List Json) :
    (record.readItems index state fields values).toOption =
      (other.readItems index state others values).toOption := by
  induction hFields generalizing index state values with
  | nil => cases values <;> rfl
  | @cons field twin fields others hField _ ih =>
      cases values with
      | nil =>
          rw [readItems, readItems, hField.required]
          cases twin.required with
          | true => rfl
          | false => exact ih (index + 1) state []
      | cons value rest =>
          simp only [readItems, toOption_bind, hField.read state value value rfl, ih]

/-- The wording of a surplus decides no more than the error: both readers accept the same values and
return the same records. -/
theorem ofValue_alike (hRecord : record.Alike Eq other) (surplus surplusOther : SurplusWording) :
    ReadAlike Eq (record.ofValue surplus) (other.ofValue surplusOther) := by
  intro value twin hTwins
  subst hTwins
  cases value with
  | object members =>
      simp only [ofValue, toOption_bind, hRecord.blank, readMembers_alike hRecord]
      congr 1
      funext collected
      rw [hRecord.missing? collected.1]
  | array items =>
      simp only [ofValue, isSome_eq_of_rel hRecord.other]
      split
      · rfl
      · simp only [toOption_bind, hRecord.blank, hRecord.fields.length_eq,
          readItems_alike record other hRecord.fields]
        congr 1
        funext state
        split <;> rfl
  | _ => rfl

end Record

/-- Entries are read alike if their values are. -/
theorem readEntries_alike {read readOther : Json → Except ShapeError α}
    (hRead : ReadAlike Eq read readOther) (members : List (String × Json)) :
    (readEntries read members).toOption = (readEntries readOther members).toOption := by
  induction members with
  | nil => rfl
  | cons member rest ih =>
      simp only [readEntries, toOption_bind, hRead member.2 member.2 rfl, ih, toOption_pure]

/-- The two sources of values agree up to errors, for every format that treats sources alike. -/
theorem valueSource_alike (surplus surplusOther : SurplusWording) :
    (valueSource surplus).Alike Eq (valueSource surplusOther) where
  found := by
    rintro value _ rfl
    rfl
  value := by
    rintro value _ rfl
    rfl
  entries expected hRead := by
    rintro value _ rfl
    cases value with
    | object members => exact readEntries_alike hRead members
    | _ => rfl
  record hRecord := Record.ofValue_alike hRecord surplus surplusOther

end Json

section Named

variable {surplus : SurplusWording} {entity : String} {members : List (String × Json)}

/-- Members besides the entity are all set aside, last one first. Nothing is checked about them
here. -/
theorem NamedDeclaration.readMembers_kept (given : List String) (named : NamedDeclaration)
    (h : "entity" ∉ members.map (·.1)) :
    (NamedDeclaration.format (valueSource surplus)).readMembers given named members =
      .ok (given, { named with kept := members.reverse ++ named.kept }) := by
  induction members generalizing named with
  | nil => rfl
  | cons member rest ih =>
      obtain ⟨key, value⟩ := member
      obtain ⟨hKey, hRest⟩ := List.ne_and_not_mem_of_not_mem_cons h
      have hFind : (NamedDeclaration.format (valueSource surplus)).fields.find? (·.name == key) =
          none := by
        simpa [NamedDeclaration.format] using hKey
      rw [Record.readMembers, hFind, List.reverse_cons, List.append_assoc]
      exact ih { named with kept := (key, value) :: named.kept } hRest

/-- An object that begins with its entity is split into the entity and its other members. This
requires that none of them repeats the entity. -/
theorem NamedDeclaration.ofValue_entity (h : "entity" ∉ members.map (·.1)) :
    (NamedDeclaration.format (valueSource surplus)).ofValue surplus
      (.object (("entity", .string entity) :: members)) = .ok ⟨entity, members.reverse⟩ := by
  have hKept := @readMembers_kept surplus members ["entity"] ⟨entity, []⟩ h
  rw [List.append_nil] at hKept
  exact Record.ofValue_object ((Record.readMembers_field rfl rfl rfl).trans hKept) rfl

end Named

namespace Declaration

variable {entries : List (String × List (String × Json))}

/-- Named members in a layout. The members need not form a declaration. -/
def Layout.arrange (entries : List (String × List (String × Json))) : Layout → Json
  | .object => .object (entries.map fun (entity, members) => (entity, .object members))
  | .array => .array (entries.map fun (entity, members) =>
      .object (("entity", .string entity) :: members))

/-- Reading set-aside members agrees with reading them as an object of their own, up to the
error. -/
theorem readNamed_entity {entity : String} {members : List (String × Json)}
    (h : "entity" ∉ members.map (·.1)) :
    (readNamed Json.wholeValue (.object (("entity", .string entity) :: members))).toOption =
      (read Json.wholeValue (.object members)).toOption.map fun declaration =>
        (entity, declaration) := by
  have hNamed : (Json.wholeValue.record (NamedDeclaration.format Json.wholeValue)
      (.object (("entity", .string entity) :: members))).toOption = some ⟨entity, members.reverse⟩ :=
    toOption_eq_some_iff.mpr (NamedDeclaration.ofValue_entity h)
  have hRead := read_alike (Json.valueSource_alike Json.keptSurplus Json.wholeSurplus)
    (.object members) _ rfl
  change (read Json.keptValue _).toOption = (read Json.wholeValue _).toOption at hRead
  rw [readNamed, toOption_bind, hNamed, Option.bind_some, toOption_bind, toOption_mapError,
    List.reverse_reverse, hRead]
  exact Option.map_eq_bind.symm

/-- The two layouts agree up to the error, if no member is called like the key of the entity. -/
theorem toOption_loadValue_arrange (h : ∀ entry ∈ entries, "entity" ∉ entry.2.map (·.1)) :
    (loadValue (Layout.object.arrange entries)).toOption =
      (loadValue (Layout.array.arrange entries)).toOption := by
  induction entries with
  | nil => rfl
  | cons entry rest ih =>
      obtain ⟨hEntry, hRest⟩ := List.forall_mem_cons.mp h
      have hRest := ih hRest
      simp only [Layout.arrange, loadValue] at hRest ⊢
      simp only [List.map_cons, List.mapM_cons, toOption_bind, toOption_mapError,
        readNamed_entity hEntry, hRest]
      cases (read Json.wholeValue (.object entry.2)).toOption <;> rfl

/-- The layouts are equivalent for arbitrary members, well-formed or not: one loads exactly when the
other does, with the same declarations in the same order. The only condition is that no member is
called like the key of the entity. -/
theorem loadValue_object_eq_ok_iff_array
    (h : ∀ entry ∈ entries, "entity" ∉ entry.2.map (·.1)) (pairs : List (String × Declaration)) :
    loadValue (Layout.object.arrange entries) = .ok pairs ↔
      loadValue (Layout.array.arrange entries) = .ok pairs := by
  rw [← toOption_eq_some_iff, ← toOption_eq_some_iff, toOption_loadValue_arrange h]

/-- A null index beside an unknown key, and a mapping section given by position, as is the property
in it. -/
def sketches : List (String × List (String × Json)) := [
  ("people", [("color", .bool true), ("index", .null)]),
  ("notes", [("esMapping", .array [.object [("title", .array [.string "text", .null])]])])]

def sketched : List (String × Declaration) :=
  [("people", .empty), ("notes", ⟨none, [("title", ⟨"text", some .null⟩)]⟩)]

/-- Unknown members, a null index and positional sections load equally from both layouts. -/
theorem sketches_loaded_alike :
    (∀ entry ∈ sketches, "entity" ∉ entry.2.map (·.1)) ∧
      loadValue (Layout.object.arrange sketches) = .ok sketched ∧
      loadValue (Layout.array.arrange sketches) = .ok sketched := by
  have hMembers : ∀ entry ∈ sketches, "entity" ∉ entry.2.map (·.1) := by decide
  have hObject : loadValue (Layout.object.arrange sketches) = .ok sketched := rfl
  exact ⟨hMembers, hObject, (loadValue_object_eq_ok_iff_array hMembers sketched).mp hObject⟩

end Declaration

end EntitySearch
