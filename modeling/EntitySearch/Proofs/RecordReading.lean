import EntitySearch.Json.TextSource
import EntitySearch.Json.ValueSource
import EntitySearch.Proofs.Refusal
import Mathlib.Data.List.Nodup

/-! How a record is read from what a text says, for values of any source: the members of an object
and the items of an array come one by one in the order of the text, and each of them is taken by a
field, set aside or passed over. -/
namespace EntitySearch.Json

def Quoted.text? (text : Quoted) : Option String :=
  text.read.toOption

/-- A quoted text has a text exactly when it is read without complaint. -/
theorem Quoted.text?_eq_some_iff {text : Quoted} {name : String} :
    text.text? = some name ↔ text.read = .ok name := by
  unfold Quoted.text?
  cases text.read <;> simp [Except.toOption]

def valuesOf (name : String) (members : List (Quoted × Tree)) : List Tree :=
  (members.filter (·.1.text? = some name)).map (·.2)

theorem valuesOf_cons_self {name : String} {key : Quoted} {tree : Tree}
    {rest : List (Quoted × Tree)} (h : key.text? = some name) :
    valuesOf name ((key, tree) :: rest) = tree :: valuesOf name rest := by
  simp [valuesOf, h]

theorem valuesOf_cons_of_ne {name other : String} {key : Quoted} {tree : Tree}
    {rest : List (Quoted × Tree)} (h : key.text? = some other) (hOther : other ≠ name) :
    valuesOf name ((key, tree) :: rest) = valuesOf name rest := by
  simp [valuesOf, h, hOther]

/-- Dropping the members of one key does not affect the values of another. -/
theorem valuesOf_filter {name other : String} (h : name ≠ other) (members : List (Quoted × Tree)) :
    valuesOf name (members.filter (·.1.text? ≠ some other)) = valuesOf name members := by
  rw [valuesOf, valuesOf, List.filter_filter]
  congr 1
  apply List.filter_congr
  intro member _
  by_cases hName : member.1.text? = some name <;> simp [hName, h]

namespace Tree

def text? : Tree → Option String
  | .string text => text.text?
  | _ => none

def members : Tree → List (Quoted × Tree)
  | .object members _ => members
  | _ => []

/-- What a tree gives to a field: all values of its key in an object, and the item at its position
in an array. -/
def given (name : String) (position : Nat) : Tree → List Tree
  | .object members _ => valuesOf name members
  | .list items _ => items[position]?.toList
  | _ => []

/-- The key occurs more than once among the members of an object. -/
def Repeats (name : String) (tree : Tree) : Prop :=
  1 < (tree.members.map (·.1.text?)).count (some name)

instance (name : String) (tree : Tree) : Decidable (tree.Repeats name) :=
  inferInstanceAs (Decidable (1 < _))

/-- A repeated key gives its field more than one value. -/
theorem Repeats.length_given {name : String} {tree : Tree} (h : tree.Repeats name)
    (position : Nat) : 1 < (tree.given name position).length := by
  cases tree with
  | object members ending =>
      rw [Repeats, List.count, List.countP_map, List.countP_eq_length_filter] at h
      simpa [given, valuesOf, Tree.members, Function.comp_def, beq_eq_decide] using h
  | _ => simp [Repeats, members] at h

def Shows (tree : Tree) : Found → Prop
  | .null => tree = .null
  | .bool value => tree = .bool value
  | .number value => ∃ numeral, tree = .number numeral ∧ readNumber numeral = .ok value
  | .string text => ∃ quoted, tree = .string quoted ∧ quoted.read = .ok text
  | .list => ∃ items ending, tree = .list items ending
  | .map => ∃ members ending, tree = .object members ending

/-- The relation agrees with what a reader finds. Containers count by their kind alone. -/
theorem found_eq_ok_iff {tree : Tree} {shown : Found} :
    tree.found = .ok shown ↔ tree.Shows shown := by
  cases tree <;> cases shown <;>
    simp only [found, Shows, bind_eq_ok_iff, pure_eq_ok_iff] <;> simp

theorem text?_of_found {tree : Tree} {text : String} (h : tree.found = .ok (.string text)) :
    tree.text? = some text := by
  obtain ⟨quoted, rfl, hRead⟩ := found_eq_ok_iff.mp h
  exact Quoted.text?_eq_some_iff.mpr hRead

/-- A list is read exactly when there is room for it, its items are read with one less, and it is
properly closed. -/
theorem read_list_eq_ok_iff {items : List Tree} {ending : ListEnding} {room : Nat} {value : Json} :
    (Tree.list items ending).read room = .ok value ↔
      ∃ inner values, room = inner + 1 ∧ readItems inner items = .ok values ∧
        ending.check = .ok () ∧ value = .array values := by
  cases room with
  | zero => simp [Tree.read]
  | succ inner =>
      simp only [Tree.read, bind_eq_ok_iff, pure_eq_ok_iff, Nat.add_right_cancel_iff]
      constructor
      · rintro ⟨values, hItems, _, hEnding, rfl⟩
        exact ⟨inner, values, rfl, hItems, hEnding, rfl⟩
      · rintro ⟨_, values, rfl, hItems, hEnding, rfl⟩
        exact ⟨values, hItems, (), hEnding, rfl⟩

/-- The same for an object and its members. -/
theorem read_object_eq_ok_iff {members : List (Quoted × Tree)} {ending : ObjectEnding} {room : Nat}
    {value : Json} :
    (Tree.object members ending).read room = .ok value ↔
      ∃ inner values, room = inner + 1 ∧ readMembers inner members = .ok values ∧
        ending.check = .ok () ∧ value = .object values := by
  cases room with
  | zero => simp [Tree.read]
  | succ inner =>
      simp only [Tree.read, bind_eq_ok_iff, pure_eq_ok_iff, Nat.add_right_cancel_iff]
      constructor
      · rintro ⟨values, hMembers, _, hEnding, rfl⟩
        exact ⟨inner, values, rfl, hMembers, hEnding, rfl⟩
      · rintro ⟨_, values, rfl, hMembers, hEnding, rfl⟩
        exact ⟨values, hMembers, (), hEnding, rfl⟩

/-- Some reader takes this value from the tree, with some room and before keys are merged. -/
def Holds (tree : Tree) (value : Json) : Prop :=
  ∃ room, tree.read room = .ok value

/-- As `Holds`, with repeated keys merged. -/
def HoldsOnce (tree : Tree) (value : Json) : Prop :=
  ∃ written, tree.Holds written ∧ value = written.collapse

/-- A value that some reader takes from a tree is of the kind that the tree shows. -/
theorem Holds.found {tree : Tree} {value : Json} (h : tree.Holds value) :
    tree.found = .ok value.found := by
  obtain ⟨room, h⟩ := h
  rw [found_eq_ok_iff]
  cases tree with
  | list items ending =>
      obtain ⟨_, _, _, _, _, rfl⟩ := read_list_eq_ok_iff.mp h
      exact ⟨items, ending, rfl⟩
  | object members ending =>
      obtain ⟨_, _, _, _, _, rfl⟩ := read_object_eq_ok_iff.mp h
      exact ⟨members, ending, rfl⟩
  | number numeral =>
      obtain ⟨number, hNumber, rfl⟩ := bind_pure_eq_ok_iff.mp h
      exact ⟨numeral, rfl, hNumber⟩
  | string quoted =>
      obtain ⟨text, hText, rfl⟩ := bind_pure_eq_ok_iff.mp h
      exact ⟨quoted, rfl, hText⟩
  | null | bool _ =>
      cases h
      rfl
  | fault cause => cases h

theorem Holds.eq_object {tree : Tree} {values : List (String × Json)}
    (h : tree.Holds (.object values)) :
    ∃ room members ending, tree = .object members ending ∧
      readMembers room members = .ok values := by
  obtain ⟨members, ending, rfl⟩ := found_eq_ok_iff.mp h.found
  obtain ⟨_, h⟩ := h
  obtain ⟨room, _, _, hMembers, _, h⟩ := read_object_eq_ok_iff.mp h
  cases h
  exact ⟨room, members, ending, rfl, hMembers⟩

theorem Holds.eq_list {tree : Tree} {values : List Json} (h : tree.Holds (.array values)) :
    ∃ room items ending, tree = .list items ending ∧ readItems room items = .ok values := by
  obtain ⟨items, ending, rfl⟩ := found_eq_ok_iff.mp h.found
  obtain ⟨_, h⟩ := h
  obtain ⟨room, _, _, hItems, _, h⟩ := read_list_eq_ok_iff.mp h
  cases h
  exact ⟨room, items, ending, rfl, hItems⟩

end Tree

variable {σ ε α : Type}

namespace Record

/-- Steps of a reader through the members of an object, by field, set aside or passed over. `given`
lists the fields read so far. -/
inductive ReadsMembers (record : Record σ ε α) (written : σ → Tree → Prop) :
    List String → α → List (Quoted × Tree) → List String → α → Prop where
  | nil {given state} : ReadsMembers record written given state [] given state
  | field {given state key tree rest after final name field value next}
      (named : key.text? = some name)
      (known : record.fields.find? (·.name == name) = some field)
      (fresh : name ∉ given)
      (taken : written value tree) (read : field.read state value = .ok next)
      (tail : ReadsMembers record written (name :: given) next rest after final) :
      ReadsMembers record written given state ((key, tree) :: rest) after final
  | other {given state key tree rest after final name keep value next}
      (named : key.text? = some name)
      (unknown : record.fields.find? (·.name == name) = none)
      (others : record.other = some keep)
      (taken : written value tree) (read : keep state name value = .ok next)
      (tail : ReadsMembers record written given next rest after final) :
      ReadsMembers record written given state ((key, tree) :: rest) after final
  | skipped {given state key tree rest after final name}
      (named : key.text? = some name)
      (unknown : record.fields.find? (·.name == name) = none)
      (others : record.other = none)
      (tail : ReadsMembers record written given state rest after final) :
      ReadsMembers record written given state ((key, tree) :: rest) after final

/-- Steps of a reader through the items of an array, one for each field in order. -/
inductive ReadsItems (written : σ → Tree → Prop) :
    α → List (Field σ ε α) → List Tree → α → Prop where
  | nil {state} : ReadsItems written state [] [] state
  | blank {state field fields final} (optional : field.required = false)
      (tail : ReadsItems written state fields [] final) :
      ReadsItems written state (field :: fields) [] final
  | value {state field fields tree rest final value next}
      (taken : written value tree) (read : field.read state value = .ok next)
      (tail : ReadsItems written next fields rest final) :
      ReadsItems written state (field :: fields) (tree :: rest) final

/-- A record is read from an object with all required fields or, unless it sets members aside, from
an array that is not too long. -/
inductive Reads (record : Record σ ε α) (written : σ → Tree → Prop) : Tree → α → Prop where
  | object {members ending after final}
      (read : ReadsMembers record written [] record.blank members after final)
      (complete : record.missing? after = none) :
      Reads record written (.object members ending) final
  | list {items ending final} (others : record.other = none)
      (read : ReadsItems written record.blank record.fields items final) :
      Reads record written (.list items ending) final

/-- Monotone in the relation between values and trees, so a source may be related to its text as
loosely as needed. -/
theorem ReadsMembers.mono {record : Record σ ε α} {written wider : σ → Tree → Prop}
    {given after : List String} {state final : α} {members : List (Quoted × Tree)}
    (h : record.ReadsMembers written given state members after final)
    (hWider : ∀ value tree, written value tree → wider value tree) :
    record.ReadsMembers wider given state members after final := by
  induction h with
  | nil => exact .nil
  | field named known fresh taken read _ ih =>
      exact .field named known fresh (hWider _ _ taken) read ih
  | other named unknown others taken read _ ih =>
      exact .other named unknown others (hWider _ _ taken) read ih
  | skipped named unknown others _ ih => exact .skipped named unknown others ih

theorem ReadsItems.mono {written wider : σ → Tree → Prop} {state final : α}
    {fields : List (Field σ ε α)} {items : List Tree}
    (h : ReadsItems written state fields items final)
    (hWider : ∀ value tree, written value tree → wider value tree) :
    ReadsItems wider state fields items final := by
  induction h with
  | nil => exact .nil
  | blank optional _ ih => exact .blank optional ih
  | value taken read _ ih => exact .value (hWider _ _ taken) read ih

/-- The same for a record as a whole. -/
theorem Reads.mono {record : Record σ ε α} {written wider : σ → Tree → Prop} {tree : Tree}
    {final : α} (h : record.Reads written tree final)
    (hWider : ∀ value tree, written value tree → wider value tree) :
    record.Reads wider tree final := by
  cases h with
  | object read complete => exact .object (read.mono hWider) complete
  | list others read => exact .list others (read.mono hWider)

/-- `slot` relates what the text gives to one field, if anything, to a part of the state. Other
fields leave that part alone. -/
structure Tracks (record : Record σ ε α) (written : σ → Tree → Prop) (field : Field σ ε α)
    (slot : Option Tree → α → Prop) : Prop where
  blank : slot none record.blank
  store : ∀ state value tree next, written value tree → field.read state value = .ok next →
    slot (some tree) next
  keep : ∀ other ∈ record.fields, other.name ≠ field.name → ∀ given state value next,
    other.read state value = .ok next → slot given state → slot given next
  other : ∀ set, record.other = some set → ∀ given state key value next,
    set state key value = .ok next → slot given state → slot given next

variable {record : Record σ ε α} {written : σ → Tree → Prop} {slot : Option Tree → α → Prop}
  {field : Field σ ε α}

/-- Run lemma for objects: a key of a field occurs at most once, and the part of the state that
tracks the field reflects the value at its key, or none. -/
theorem ReadsMembers.track {seen after : List String} {state final : α}
    {members : List (Quoted × Tree)}
    (h : record.ReadsMembers written seen state members after final)
    (hDistinct : (record.fields.map (·.name)).Nodup) (hField : field ∈ record.fields)
    (hTracks : record.Tracks written field slot)
    {earlier : Option Tree} (hSlot : slot earlier state)
    (hSeen : field.name ∈ seen ↔ earlier.isSome = true) :
    ∃ given, earlier.toList ++ valuesOf field.name members = given.toList ∧ slot given final ∧
      (field.name ∈ after ↔ given.isSome = true) := by
  induction h generalizing earlier with
  | nil => exact ⟨earlier, List.append_nil _, hSlot, hSeen⟩
  | @field seen state key tree rest after final name other value next named known fresh taken read
      _ ih =>
      have hOther := List.mem_of_find?_eq_some known
      obtain rfl : other.name = name := by simpa using List.find?_some known
      by_cases hName : other.name = field.name
      · -- The key is new, so nothing has been stored for this field before.
        obtain rfl : other = field := List.inj_on_of_nodup_map hDistinct hOther hField hName
        obtain rfl : earlier = none := by simpa [fresh] using hSeen
        have hNext := hTracks.store _ _ _ _ taken read
        obtain ⟨given, hGiven, hFinal, hAfter⟩ := ih hNext (by simp)
        exact ⟨given, by simpa [valuesOf_cons_self named] using hGiven, hFinal, hAfter⟩
      · have hNext := hTracks.keep other hOther hName _ _ _ _ read hSlot
        rw [valuesOf_cons_of_ne named hName]
        exact ih hNext (by simp [Ne.symm hName, hSeen])
  | @other seen state key tree rest after final name set value next named unknown others taken read
      _ ih =>
      have hName : name ≠ field.name := by
        rintro rfl
        simpa using List.find?_eq_none.mp unknown field hField
      rw [valuesOf_cons_of_ne named hName]
      exact ih (hTracks.other set others _ _ _ _ _ read hSlot) hSeen
  | @skipped seen state key tree rest after final name named unknown others _ ih =>
      have hName : name ≠ field.name := by
        rintro rfl
        simpa using List.find?_eq_none.mp unknown field hField
      rw [valuesOf_cons_of_ne named hName]
      exact ih hSlot hSeen

/-- Fields other than the tracked one leave its part of the state alone. -/
theorem ReadsItems.keep {state final : α} {fields : List (Field σ ε α)} {items : List Tree}
    (h : ReadsItems written state fields items final)
    (hFields : ∀ other ∈ fields, other ∈ record.fields ∧ other.name ≠ field.name)
    (hTracks : record.Tracks written field slot) {given : Option Tree}
    (hSlot : slot given state) : slot given final := by
  induction h with
  | nil => exact hSlot
  | blank _ _ ih => exact ih (fun other h => hFields other (List.mem_cons_of_mem _ h)) hSlot
  | value _ read _ ih =>
      obtain ⟨hOther, hName⟩ := hFields _ List.mem_cons_self
      exact ih (fun other h => hFields other (List.mem_cons_of_mem _ h))
        (hTracks.keep _ hOther hName _ _ _ _ read hSlot)

/-- Run lemma for arrays: the part of the state that tracks a field reflects the item at its
position, or none. -/
theorem ReadsItems.track {state final : α} {fields : List (Field σ ε α)} {items : List Tree}
    (h : ReadsItems written state fields items final)
    (hFields : ∀ other ∈ fields, other ∈ record.fields)
    (hDistinct : (fields.map (·.name)).Nodup) {position : Nat}
    (hField : fields[position]? = some field) (hTracks : record.Tracks written field slot)
    (hSlot : slot none state) :
    slot items[position]? final ∧ (field.required = true → items[position]?.isSome = true) := by
  induction h generalizing position with
  | nil => simp at hField
  | @blank state first rest final optional tail ih =>
      rw [List.map_cons, List.nodup_cons] at hDistinct
      rw [List.forall_mem_cons] at hFields
      cases position with
      | zero =>
          obtain rfl : first = field := by simpa using hField
          refine ⟨tail.keep (fun other h => ⟨hFields.2 other h, ?_⟩) hTracks hSlot,
            by simp [optional]⟩
          exact fun hName => hDistinct.1 (hName ▸ List.mem_map_of_mem h)
      | succ position =>
          rw [List.getElem?_cons_succ] at hField
          simpa using ih hFields.2 hDistinct.2 hField hSlot
  | @value state first rest tree items final value next taken read tail ih =>
      rw [List.map_cons, List.nodup_cons] at hDistinct
      rw [List.forall_mem_cons] at hFields
      cases position with
      | zero =>
          obtain rfl : first = field := by simpa using hField
          have hNext := hTracks.store _ _ _ _ taken read
          refine ⟨tail.keep (fun other h => ⟨hFields.2 other h, ?_⟩) hTracks hNext, by simp⟩
          exact fun hName => hDistinct.1 (hName ▸ List.mem_map_of_mem h)
      | succ position =>
          rw [List.getElem?_cons_succ] at hField
          have hName : first.name ≠ field.name :=
            fun hName => hDistinct.1 (hName ▸ List.mem_map_of_mem (List.mem_of_getElem? hField))
          have hNext := hTracks.keep first hFields.1 hName _ _ _ _ read hSlot
          exact ih hFields.2 hDistinct.2 hField hNext

/-- Every field of a record that has been read reflects what the tree gives to it: at most one
value, and exactly one if the field is required. Names of fields are assumed distinct. -/
theorem Reads.track {tree : Tree} {final : α} (h : record.Reads written tree final)
    (slot : Option Tree → α → Prop) (hDistinct : (record.fields.map (·.name)).Nodup)
    {position : Nat} (hField : record.fields[position]? = some field)
    (hTracks : record.Tracks written field slot) :
    ∃ given, tree.given field.name position = given.toList ∧ slot given final ∧
      (field.required = true → given.isSome = true) := by
  have hMem := List.mem_of_getElem? hField
  cases h with
  | @object members ending after final read complete =>
      obtain ⟨given, hGiven, hSlot, hAfter⟩ :=
        read.track hDistinct hMem hTracks hTracks.blank (by simp)
      refine ⟨given, hGiven, hSlot, fun hRequired => hAfter.mp ?_⟩
      rw [missing?, Option.map_eq_none_iff, List.find?_eq_none] at complete
      simpa [hRequired] using complete field hMem
  | list others read =>
      obtain ⟨hSlot, hRequired⟩ :=
        read.track (fun _ h => h) hDistinct hField hTracks hTracks.blank
      exact ⟨_, rfl, hSlot, hRequired⟩

end Record

end EntitySearch.Json
