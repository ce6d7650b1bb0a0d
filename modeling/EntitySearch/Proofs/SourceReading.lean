import EntitySearch.Proofs.RecordReading

/-! Both sources read records as their trees tell: the text of a value, and a value in memory that
has been read from a tree before. -/
namespace EntitySearch.Json

variable {σ ε α : Type}

/-- Whatever a source reads from a value is what its tree says. -/
structure Source.Follows (source : Source σ ε) (written : σ → Tree → Prop) : Prop where
  found {value tree shown} : written value tree → source.found value = .ok shown →
    tree.found = .ok shown
  value {value tree json} : written value tree → source.value value = .ok json → tree.Holds json
  entries {α : Type} {expected : String} {read : σ → Except ε α} {value tree entries} :
    written value tree → source.entries expected read value = .ok entries →
      ∃ members ending, tree = .object members ending ∧
        List.Forall₂ (fun member entry => member.1.text? = some entry.1 ∧
          ∃ value, written value member.2 ∧ read value = .ok entry.2) members entries
  record {α : Type} {record : Record σ ε α} {value tree final} :
    written value tree → source.record record value = .ok final →
      record.Reads written tree final

theorem wellFormed_eq_ok_iff {β : Type} {result : Except Malformed β} {b : β} :
    wellFormed result = .ok b ↔ result = .ok b :=
  mapError_eq_ok_iff

theorem enter_eq_ok_iff {room inner : Nat} : enter room = .ok inner ↔ room = inner + 1 := by
  cases room <;> simp [enter]

namespace Record

variable {record : Record Place TextError α} {room : Nat}

/-- Soundness of reading members from text: the trace of keys and values that the relation
describes, all with the same room. -/
theorem readWrittenMembers_sound {given after : List String} {state final : α}
    {members : List (Quoted × Tree)}
    (h : record.readWrittenMembers room given state members = .ok (after, final)) :
    record.ReadsMembers (fun place tree => place = ⟨room, tree⟩) given state members after
      final := by
  induction members generalizing given state with
  | nil =>
      obtain ⟨rfl, rfl⟩ : given = after ∧ state = final := by simpa [readWrittenMembers] using h
      exact .nil
  | cons member rest ih =>
      obtain ⟨key, tree⟩ := member
      rw [readWrittenMembers, bind_eq_ok_iff] at h
      obtain ⟨name, hKey, h⟩ := h
      have hNamed := Quoted.text?_eq_some_iff.mpr (wellFormed_eq_ok_iff.mp hKey)
      cases hField : record.fields.find? (·.name == name) with
      | some field =>
          simp only [hField] at h
          split at h
          · cases h
          · rename_i hFresh
            obtain ⟨next, hRead, h⟩ := bind_eq_ok_iff.mp h
            exact .field hNamed hField (by simpa using hFresh) rfl hRead (ih h)
      | none =>
          cases hOther : record.other with
          | some keep =>
              simp only [hField, hOther] at h
              obtain ⟨next, hRead, h⟩ := bind_eq_ok_iff.mp h
              exact .other hNamed hField hOther rfl hRead (ih h)
          | none =>
              simp only [hField, hOther] at h
              obtain ⟨_, h⟩ := check_bind_eq_ok_iff.mp h
              exact .skipped hNamed hField hOther (ih h)

/-- The same for positional items. -/
theorem readWrittenItems_sound {index : Nat} {ending : ListEnding} {state final : α}
    {fields : List (Field Place TextError α)} {items : List Tree}
    (h : record.readWrittenItems room index ending state fields items = .ok final) :
    ReadsItems (fun place tree => place = ⟨room, tree⟩) state fields items final := by
  induction fields generalizing index state items with
  | nil =>
      rw [readWrittenItems, check_bind_eq_ok_iff, pure_eq_ok_iff] at h
      obtain ⟨hEnd, rfl⟩ := h
      cases items with
      | nil => exact .nil
      | cons item rest => simp [checkEnd] at hEnd
  | cons field fields ih =>
      cases items with
      | nil =>
          rw [readWrittenItems, check_bind_eq_ok_iff] at h
          obtain ⟨_, h⟩ := h
          split at h
          · cases h
          · rename_i hOptional
            exact .blank (by simpa using hOptional) (ih h)
      | cons tree rest =>
          obtain ⟨next, hRead, h⟩ := bind_eq_ok_iff.mp h
          exact .value rfl hRead (ih h)

/-- A record that has been read from text reads from the tree at its place. -/
theorem ofPlace_sound {place : Place} {final : α} (h : record.ofPlace place = .ok final) :
    ∃ room, record.Reads (fun value tree => value = ⟨room, tree⟩) place.tree final := by
  obtain ⟨room, tree⟩ := place
  cases tree with
  | object members ending =>
      simp only [ofPlace, bind_eq_ok_iff, enter_eq_ok_iff] at h
      obtain ⟨inner, _, ⟨given, state⟩, hMembers, _, _, h⟩ := h
      cases hMissing : record.missing? given with
      | some name => simp [hMissing] at h
      | none =>
          simp only [hMissing, pure_eq_ok_iff] at h
          subst h
          exact ⟨inner, .object (readWrittenMembers_sound hMembers) hMissing⟩
  | list items ending =>
      simp only [ofPlace] at h
      split at h
      · cases h
      · rename_i hOther
        obtain ⟨inner, _, h⟩ := bind_eq_ok_iff.mp h
        exact ⟨inner, .list (by simpa using hOther) (readWrittenItems_sound h)⟩
  | _ =>
      obtain ⟨_, _, h⟩ := bind_eq_ok_iff.mp h
      cases h

end Record

theorem readWrittenEntries_sound {room : Nat} {read : Place → Except TextError α}
    {members : List (Quoted × Tree)} {entries : List (String × α)}
    (h : readWrittenEntries room read members = .ok entries) :
    List.Forall₂ (fun member entry => member.1.text? = some entry.1 ∧
      read ⟨room, member.2⟩ = .ok entry.2) members entries := by
  induction members generalizing entries with
  | nil =>
      obtain rfl : [] = entries := by simpa [readWrittenEntries] using h
      exact .nil
  | cons member rest ih =>
      obtain ⟨key, tree⟩ := member
      simp only [readWrittenEntries, bind_eq_ok_iff, pure_eq_ok_iff, wellFormed_eq_ok_iff] at h
      obtain ⟨name, hKey, value, hValue, values, hRest, rfl⟩ := h
      exact .cons ⟨Quoted.text?_eq_some_iff.mpr hKey, hValue⟩ (ih hRest)

/-- Written values follow their own trees. -/
theorem textSource_follows : textSource.Follows fun place tree => place.tree = tree where
  found := by
    rintro place _ shown rfl h
    exact wellFormed_eq_ok_iff.mp h
  value := by
    rintro place _ json rfl h
    exact ⟨place.room, wellFormed_eq_ok_iff.mp h⟩
  entries := by
    rintro α expected read ⟨room, tree⟩ _ entries rfl h
    cases tree with
    | object members ending =>
        simp only [textSource, writtenEntries, bind_eq_ok_iff, pure_eq_ok_iff] at h
        obtain ⟨inner, _, _, hEntries, _, _, rfl⟩ := h
        refine ⟨members, ending, rfl, (readWrittenEntries_sound hEntries).imp ?_⟩
        rintro member entry ⟨hName, hValue⟩
        exact ⟨hName, ⟨inner, member.2⟩, rfl, hValue⟩
    | _ =>
        obtain ⟨_, _, h⟩ := bind_eq_ok_iff.mp h
        cases h
  record := by
    rintro α record place _ final rfl h
    obtain ⟨room, hReads⟩ := Record.ofPlace_sound h
    exact hReads.mono fun value tree hValue => hValue ▸ rfl

/-- A text is read exactly when its root is and nothing follows it. -/
theorem readText_eq_ok_iff {read : Place → Except TextError α} {text : String} {a : α} :
    readText read text = .ok a ↔
      read ⟨depthLimit, (Document.ofText text).root⟩ = .ok a ∧
        (Document.ofText text).surplus = false := by
  simp only [readText, bind_eq_ok_iff]
  cases (Document.ofText text).surplus with
  | true => simp
  | false => simp [pure_eq_ok_iff]

namespace Record

variable {record : Record Json ShapeError α} {room : Nat}

theorem readMembers_sound {given after : List String} {state final : α}
    {values : List (String × Json)} {members : List (Quoted × Tree)}
    (hValues : Json.readMembers room members = .ok values)
    (h : record.readMembers given state values = .ok (after, final)) :
    record.ReadsMembers (fun value tree => tree.Holds value) given state members after final := by
  induction members generalizing given state values with
  | nil =>
      obtain rfl : [] = values := by simpa [Json.readMembers] using hValues
      obtain ⟨rfl, rfl⟩ : given = after ∧ state = final := by simpa [readMembers] using h
      exact .nil
  | cons member rest ih =>
      obtain ⟨key, tree⟩ := member
      simp only [Json.readMembers, bind_eq_ok_iff, pure_eq_ok_iff] at hValues
      obtain ⟨name, hKey, value, hValue, values, hRest, rfl⟩ := hValues
      have hNamed := Quoted.text?_eq_some_iff.mpr hKey
      rw [readMembers] at h
      cases hField : record.fields.find? (·.name == name) with
      | some field =>
          simp only [hField] at h
          split at h
          · cases h
          · rename_i hFresh
            obtain ⟨next, hRead, h⟩ := bind_eq_ok_iff.mp h
            exact .field hNamed hField (by simpa using hFresh) ⟨room, hValue⟩ hRead (ih hRest h)
      | none =>
          cases hOther : record.other with
          | some keep =>
              simp only [hField, hOther] at h
              obtain ⟨next, hRead, h⟩ := bind_eq_ok_iff.mp h
              exact .other hNamed hField hOther ⟨room, hValue⟩ hRead (ih hRest h)
          | none =>
              simp only [hField, hOther] at h
              exact .skipped hNamed hField hOther (ih hRest h)

theorem readItems_sound {index : Nat} {state final : α} {fields : List (Field Json ShapeError α)}
    {values : List Json} {items : List Tree} (hValues : Json.readItems room items = .ok values)
    (hLength : values.length ≤ fields.length)
    (h : record.readItems index state fields values = .ok final) :
    ReadsItems (fun value tree => tree.Holds value) state fields items final := by
  induction fields generalizing index state values items with
  | nil =>
      obtain rfl : values = [] := by simpa using hLength
      cases items with
      | nil =>
          obtain rfl : state = final := by simpa [readItems] using h
          exact .nil
      | cons item rest =>
          simp only [Json.readItems, bind_eq_ok_iff, pure_eq_ok_iff] at hValues
          obtain ⟨_, _, _, _, hValues⟩ := hValues
          cases hValues
  | cons field fields ih =>
      cases items with
      | nil =>
          obtain rfl : [] = values := by simpa [Json.readItems] using hValues
          rw [readItems] at h
          split at h
          · cases h
          · rename_i hOptional
            exact .blank (by simpa using hOptional) (ih hValues (Nat.zero_le _) h)
      | cons tree rest =>
          simp only [Json.readItems, bind_eq_ok_iff, pure_eq_ok_iff] at hValues
          obtain ⟨value, hValue, values, hRest, rfl⟩ := hValues
          obtain ⟨next, hRead, h⟩ := bind_eq_ok_iff.mp h
          exact .value ⟨room, hValue⟩ hRead (ih hRest (Nat.le_of_succ_le_succ hLength) h)

/-- A record that has been read from a value reads from any tree that holds the value. -/
theorem ofValue_sound {surplus : SurplusWording} {value : Json} {tree : Tree} {final : α}
    (hTree : tree.Holds value) (h : record.ofValue surplus value = .ok final) :
    record.Reads (fun value tree => tree.Holds value) tree final := by
  cases value with
  | object values =>
      obtain ⟨room, members, ending, rfl, hValues⟩ := hTree.eq_object
      obtain ⟨⟨given, state⟩, hMembers, h⟩ := bind_eq_ok_iff.mp h
      cases hMissing : record.missing? given with
      | some name => simp [hMissing] at h
      | none =>
          simp only [hMissing, pure_eq_ok_iff] at h
          subst h
          exact .object (readMembers_sound hValues hMembers) hMissing
  | array values =>
      obtain ⟨room, items, ending, rfl, hValues⟩ := hTree.eq_list
      rw [ofValue] at h
      split at h
      · cases h
      · rename_i hOther
        obtain ⟨state, hItems, h⟩ := bind_eq_ok_iff.mp h
        split at h
        · rename_i hLength
          obtain rfl := pure_eq_ok_iff.mp h
          exact .list (by simpa using hOther) (readItems_sound hValues hLength hItems)
        · cases h
  | _ => cases h

end Record

theorem readEntries_sound {room : Nat} {read : Json → Except ShapeError α}
    {values : List (String × Json)} {members : List (Quoted × Tree)}
    {entries : List (String × α)} (hValues : readMembers room members = .ok values)
    (h : readEntries read values = .ok entries) :
    List.Forall₂ (fun member entry => member.1.text? = some entry.1 ∧
      ∃ value, member.2.Holds value ∧ read value = .ok entry.2) members entries := by
  induction members generalizing values entries with
  | nil =>
      obtain rfl : [] = values := by simpa [readMembers] using hValues
      obtain rfl : [] = entries := by simpa [readEntries] using h
      exact .nil
  | cons member rest ih =>
      obtain ⟨key, tree⟩ := member
      simp only [readMembers, bind_eq_ok_iff, pure_eq_ok_iff] at hValues
      obtain ⟨name, hKey, value, hValue, values, hRest, rfl⟩ := hValues
      simp only [readEntries, bind_eq_ok_iff, pure_eq_ok_iff] at h
      obtain ⟨a, hRead, entries, hEntries, rfl⟩ := h
      have hNamed := Quoted.text?_eq_some_iff.mpr hKey
      exact .cons ⟨hNamed, value, ⟨room, hValue⟩, hRead⟩ (ih hRest hEntries)

/-- Values in memory follow every tree that they can be read from. -/
theorem valueSource_follows {surplus : SurplusWording} :
    (valueSource surplus).Follows fun value tree => tree.Holds value where
  found := by
    rintro value tree shown hTree h
    obtain rfl := Except.ok.inj h
    exact hTree.found
  value := by
    rintro value tree json hTree h
    obtain rfl := Except.ok.inj h
    exact hTree
  entries := by
    rintro α expected read value tree entries hTree h
    cases value with
    | object values =>
        obtain ⟨room, members, ending, rfl, hValues⟩ := hTree.eq_object
        exact ⟨members, ending, rfl, readEntries_sound hValues h⟩
    | _ => cases h
  record := fun hTree h => Record.ofValue_sound hTree h

end EntitySearch.Json
