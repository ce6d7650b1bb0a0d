import EntitySearch.Proofs.SourceReading
import EntitySearch.Proofs.WrittenValues

/-! Two sources agree when they read records alike from values that stand for each other: either
both refuse, or both give the same. The text of a value and the value in memory agree. -/
namespace EntitySearch

variable {ε δ α β : Type}

@[simp]
theorem toOption_ok (a : α) : (Except.ok a : Except ε α).toOption = some a :=
  rfl

@[simp]
theorem toOption_error (e : ε) : (Except.error e : Except ε α).toOption = none :=
  rfl

@[simp]
theorem toOption_pure (a : α) : (pure a : Except ε α).toOption = some a :=
  rfl

/-- Errors forgotten, a bind of results is a bind of options. Agreement of readers is stated and
proved at this level. -/
@[simp]
theorem toOption_bind (x : Except ε α) (f : α → Except ε β) :
    (x >>= f).toOption = x.toOption.bind fun a => (f a).toOption := by
  cases x <;> rfl

@[simp]
theorem toOption_mapError (x : Except ε α) (f : ε → δ) : (x.mapError f).toOption = x.toOption := by
  cases x <;> rfl

theorem toOption_mapM (f : α → Except ε β) (items : List α) :
    (items.mapM f).toOption = items.mapM fun item => (f item).toOption := by
  induction items with
  | nil => rfl
  | cons item rest ih =>
      simp only [List.mapM_cons, toOption_bind, toOption_pure, ih]
      rfl

theorem toOption_eq_some_iff {x : Except ε α} {a : α} : x.toOption = some a ↔ x = .ok a := by
  cases x <;> simp [Except.toOption]

namespace Json

variable {σ τ : Type} {twins : σ → τ → Prop}

/-- Twin values are read with equal results or refused by both. Errors are not compared. -/
def ReadAlike (twins : σ → τ → Prop) (read : σ → Except ε α) (other : τ → Except δ α) : Prop :=
  ∀ value twin, twins value twin → (read value).toOption = (other twin).toOption

structure Field.Alike (twins : σ → τ → Prop) (field : Field σ ε α) (other : Field τ δ α) : Prop where
  name : field.name = other.name
  required : field.required = other.required
  read : ∀ state, ReadAlike twins (field.read state) (other.read state)

/-- Records with equal fields up to the source that these are read from. -/
structure Record.Alike (twins : σ → τ → Prop) (record : Record σ ε α) (other : Record τ δ α) :
    Prop where
  blank : record.blank = other.blank
  fields : List.Forall₂ (Field.Alike twins) record.fields other.fields
  other : Option.Rel (fun keep keepOther => ∀ state key,
    ReadAlike twins (keep state key) (keepOther state key)) record.other other.other

/-- Sources that read twin values alike, records included. -/
structure Source.Alike (twins : σ → τ → Prop) (source : Source σ ε) (other : Source τ δ) :
    Prop where
  found : ReadAlike twins source.found other.found
  value : ReadAlike twins source.value other.value
  entries {α : Type} {read : σ → Except ε α} {readOther : τ → Except δ α} (expected : String) :
    ReadAlike twins read readOther →
      ReadAlike twins (source.entries expected read) (other.entries expected readOther)
  record {α : Type} {record : Record σ ε α} {recordOther : Record τ δ α} :
    record.Alike twins recordOther → ReadAlike twins (source.record record) (other.record recordOther)

/-- Agreement is preserved by a function of the result. -/
theorem ReadAlike.map {read : σ → Except ε α} {other : τ → Except δ α}
    (h : ReadAlike twins read other) (f : α → β) :
    ReadAlike twins (fun value => read value >>= fun a => pure (f a))
      (fun twin => other twin >>= fun a => pure (f a)) := by
  intro value twin hTwins
  simp only [toOption_bind, h value twin hTwins, toOption_pure]

namespace Source.Alike

variable {source : Source σ ε} {other : Source τ δ}

theorem string (h : source.Alike twins other) : ReadAlike twins source.string other.string := by
  intro value twin hTwins
  rw [Source.string, Source.string, toOption_bind, toOption_bind, h.found value twin hTwins]
  congr 1
  funext shown
  cases shown <;> rfl

theorem optional (h : source.Alike twins other) {read : σ → Except ε α} {readOther : τ → Except δ α}
    (hRead : ReadAlike twins read readOther) :
    ReadAlike twins (source.optional read) (other.optional readOther) := by
  intro value twin hTwins
  rw [Source.optional, Source.optional, toOption_bind, toOption_bind, h.found value twin hTwins]
  congr 1
  funext shown
  cases shown with
  | null => rfl
  | _ => exact hRead.map some value twin hTwins

end Source.Alike

/-- Pointwise related lists find related items, if the test agrees on them. -/
theorem find?_rel {related : α → β → Prop} {items : List α} {others : List β}
    (h : List.Forall₂ related items others) {test : α → Bool} {testOther : β → Bool}
    (hTest : ∀ x y, related x y → test x = testOther y) :
    Option.Rel related (items.find? test) (others.find? testOther) := by
  induction h with
  | nil => exact .none
  | @cons x y _ _ hRelated _ ih =>
      rw [List.find?_cons, List.find?_cons, hTest x y hRelated]
      cases testOther y with
      | true => exact .some hRelated
      | false => exact ih

theorem map_eq_map_of_rel {γ : Type} {related : α → β → Prop} {x : Option α} {y : Option β}
    (h : Option.Rel related x y) {f : α → γ} {g : β → γ} (hAgree : ∀ a b, related a b → f a = g b) :
    x.map f = y.map g := by
  cases h with
  | none => rfl
  | some hRelated => exact congrArg some (hAgree _ _ hRelated)

theorem isSome_eq_of_rel {related : α → β → Prop} {x : Option α} {y : Option β}
    (h : Option.Rel related x y) : x.isSome = y.isSome := by
  cases h <;> rfl

namespace Record.Alike

variable {record : Record σ ε α} {other : Record τ δ α}

theorem find? (h : record.Alike twins other) (name : String) :
    Option.Rel (Field.Alike twins) (record.fields.find? (·.name == name))
      (other.fields.find? (·.name == name)) :=
  find?_rel h.fields fun _ _ hField => by rw [hField.name]

theorem missing? (h : record.Alike twins other) (given : List String) :
    record.missing? given = other.missing? given :=
  map_eq_map_of_rel
    (find?_rel h.fields fun _ _ hField => by rw [hField.name, hField.required])
    fun _ _ hField => hField.name

end Record.Alike

/-- The value is written at this place, within the room it leaves. -/
def Place.Holds (place : Place) (value : Json) : Prop :=
  place.tree.read place.room = .ok value

section TextAndValue

variable {room : Nat}

@[simp]
theorem toOption_wellFormed (result : Except Malformed α) :
    (wellFormed result).toOption = result.toOption :=
  toOption_mapError result _

namespace Record

variable {record : Record Place TextError α} {other : Record Json ShapeError α}

/-- Induction on the members. Keys given twice are refused by both, and unknown ones are skipped by
the one and passed over by the other. -/
theorem readWrittenMembers_alike (hRecord : record.Alike Place.Holds other)
    {members : List (Quoted × Tree)} {values : List (String × Json)}
    (hMembers : Json.readMembers room members = .ok values) (given : List String) (state : α) :
    (record.readWrittenMembers room given state members).toOption =
      (other.readMembers given state values).toOption := by
  rw [readMembers_eq_ok_iff] at hMembers
  induction hMembers generalizing given state with
  | nil => rfl
  | @cons member pair members values hMember _ ih =>
      obtain ⟨key, tree⟩ := member
      obtain ⟨name, value⟩ := pair
      obtain ⟨hKey, hValue⟩ := hMember
      have hFind := hRecord.find? name
      have hKeep := hRecord.other
      rw [readWrittenMembers, readMembers, toOption_bind, toOption_wellFormed,
        Quoted.text?_eq_some_iff.mp hKey, toOption_ok, Option.bind_some]
      generalize record.fields.find? (·.name == name) = field at hFind ⊢
      generalize other.fields.find? (·.name == name) = twin at hFind ⊢
      cases hFind with
      | some hField =>
          dsimp only
          by_cases hGiven : given.contains name
          · rw [if_pos hGiven, if_pos hGiven, toOption_error, toOption_error]
          · rw [if_neg hGiven, if_neg hGiven]
            simp only [toOption_bind, hField.read state ⟨room, tree⟩ value hValue, ih]
      | none =>
          generalize record.other = keep at hKeep ⊢
          generalize other.other = keepTwin at hKeep ⊢
          cases hKeep with
          | some hKeep =>
              simp only [toOption_bind, hKeep state name ⟨room, tree⟩ value hValue, ih]
          | none =>
              simp only [toOption_bind, toOption_wellFormed, Tree.skip_of_read hValue, toOption_ok,
                Option.bind_some, ih]

variable (record other) in
/-- Positional items are read alike. A surplus is refused by both, by the text at its start and by
the value for its length. -/
theorem readWrittenItems_alike {fields : List (Field Place TextError α)}
    {others : List (Field Json ShapeError α)} {items : List Tree} {values : List Json}
    {ending : ListEnding} (hFields : List.Forall₂ (Field.Alike Place.Holds) fields others)
    (hItems : Json.readItems room items = .ok values) (hEnding : ending.check = .ok ())
    (index : Nat) (state : α) :
    (record.readWrittenItems room index ending state fields items).toOption =
      if values.length ≤ others.length then (other.readItems index state others values).toOption
      else none := by
  rw [readItems_eq_ok_iff] at hItems
  induction hFields generalizing items values index state with
  | nil =>
      cases hItems with
      | nil => cases ending <;> first | rfl | cases hEnding
      | cons _ _ => rfl
  | @cons field twin fields others hField _ ih =>
      cases hItems with
      | nil =>
          rw [readWrittenItems, readItems, hEnding, List.length_nil, if_pos (Nat.zero_le _),
            hField.required]
          cases twin.required with
          | true => rfl
          | false => simpa using ih .nil (index + 1) state
      | @cons item value items values hItem hRest =>
          simp only [readWrittenItems, readItems, toOption_bind,
            hField.read state ⟨room, item⟩ value hItem, ih hRest, List.length_cons,
            Nat.add_le_add_iff_right]
          by_cases hLength : values.length ≤ others.length
          · simp only [if_pos hLength]
          · simp only [if_neg hLength, Option.bind_fun_none]

/-- A record is read alike from a place and from the value written there, in both layouts. -/
theorem ofPlace_alike (hRecord : record.Alike Place.Holds other) (surplus : SurplusWording) :
    ReadAlike Place.Holds record.ofPlace (other.ofValue surplus) := by
  rintro ⟨room, tree⟩ value hHolds
  cases tree with
  | object members ending =>
      obtain ⟨inner, values, rfl, hMembers, hEnding, rfl⟩ := Tree.read_object_eq_ok_iff.mp hHolds
      simp only [ofPlace, ofValue, enter, toOption_bind, toOption_ok, Option.bind_some,
        readWrittenMembers_alike hRecord hMembers, hRecord.blank, hEnding, toOption_wellFormed]
      congr 1
      funext collected
      rw [hRecord.missing? collected.1]
      cases other.missing? collected.1 <;> rfl
  | list items ending =>
      obtain ⟨inner, values, rfl, hItems, hEnding, rfl⟩ := Tree.read_list_eq_ok_iff.mp hHolds
      simp only [ofPlace, ofValue, isSome_eq_of_rel hRecord.other]
      split
      · rfl
      · simp only [enter, toOption_bind, toOption_ok, Option.bind_some, hRecord.blank,
          readWrittenItems_alike record other hRecord.fields hItems hEnding]
        split <;> simp
  | null | bool _ =>
      cases hHolds
      rfl
  | number _ | string _ =>
      obtain ⟨_, _, rfl⟩ := bind_pure_eq_ok_iff.mp hHolds
      simp [ofPlace, ofValue]
  | fault _ => cases hHolds

end Record

theorem readWrittenEntries_alike {read : Place → Except TextError α}
    {other : Json → Except ShapeError α} (hRead : ReadAlike Place.Holds read other)
    {members : List (Quoted × Tree)} {values : List (String × Json)}
    (hMembers : readMembers room members = .ok values) :
    (readWrittenEntries room read members).toOption = (readEntries other values).toOption := by
  rw [readMembers_eq_ok_iff] at hMembers
  induction hMembers with
  | nil => rfl
  | @cons member pair members values hMember _ ih =>
      obtain ⟨hKey, hValue⟩ := hMember
      simp only [readWrittenEntries, readEntries, toOption_bind, toOption_wellFormed,
        Quoted.text?_eq_some_iff.mp hKey, toOption_ok, Option.bind_some,
        hRead ⟨room, member.2⟩ pair.2 hValue, ih, toOption_pure]

theorem writtenEntries_alike {read : Place → Except TextError α} {other : Json → Except ShapeError α}
    (hRead : ReadAlike Place.Holds read other) (expected : String) (surplus : SurplusWording) :
    ReadAlike Place.Holds (writtenEntries expected read)
      ((valueSource surplus).entries expected other) := by
  rintro ⟨room, tree⟩ value hHolds
  cases tree with
  | object members ending =>
      obtain ⟨inner, values, rfl, hMembers, hEnding, rfl⟩ := Tree.read_object_eq_ok_iff.mp hHolds
      simp only [writtenEntries, valueSource, enter, toOption_bind, toOption_ok, Option.bind_some,
        readWrittenEntries_alike hRead hMembers, hEnding, toOption_wellFormed, toOption_pure,
        Option.bind_fun_some]
  | list items ending =>
      obtain ⟨inner, values, rfl, hItems, hEnding, rfl⟩ := Tree.read_list_eq_ok_iff.mp hHolds
      rfl
  | null | bool _ =>
      cases hHolds
      rfl
  | number _ | string _ =>
      obtain ⟨_, _, rfl⟩ := bind_pure_eq_ok_iff.mp hHolds
      simp [writtenEntries, valueSource]
  | fault _ => cases hHolds

/-- Text and value are alike as sources, however a surplus is worded. -/
theorem textSource_alike (surplus : SurplusWording) :
    textSource.Alike Place.Holds (valueSource surplus) where
  found := by
    intro place value hHolds
    have hFound := Tree.Holds.found ⟨place.room, hHolds⟩
    simp [textSource, valueSource, hFound]
  value := by
    intro place value hHolds
    simp [textSource, valueSource, show place.tree.read place.room = .ok value from hHolds]
  entries expected hRead := writtenEntries_alike hRead expected surplus
  record hRecord := Record.ofPlace_alike hRecord surplus

end TextAndValue

end Json

end EntitySearch
