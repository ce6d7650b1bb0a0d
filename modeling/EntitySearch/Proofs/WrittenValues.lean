import EntitySearch.Proofs.RecordReading

/-! Trees and the values that they hold: induction over both, what can be read can also be skipped,
and a text in which no key is repeated holds a value in which none is. -/
namespace EntitySearch.Json

/-- Structural induction that carries the hypothesis through the items of arrays and the members of
objects. -/
@[elab_as_elim]
theorem induct {motive : Json → Prop} (null : motive .null) (bool : ∀ value, motive (.bool value))
    (number : ∀ value, motive (.number value)) (string : ∀ value, motive (.string value))
    (array : ∀ items, (∀ item ∈ items, motive item) → motive (.array items))
    (object : ∀ members, (∀ member ∈ members, motive member.2) → motive (.object members))
    (value : Json) : motive value :=
  @Json.rec motive (fun items => ∀ item ∈ items, motive item)
    (fun members => ∀ member ∈ members, motive member.2) (fun member => motive member.2)
    null bool number string array object
    (by simp) (fun _ _ hHead hTail => List.forall_mem_cons.mpr ⟨hHead, hTail⟩)
    (by simp) (fun _ _ hHead hTail => List.forall_mem_cons.mpr ⟨hHead, hTail⟩)
    (fun _ _ h => h) value

/-- The same for trees, for every ending of a container. -/
@[elab_as_elim]
theorem Tree.induct {motive : Tree → Prop} (null : motive .null)
    (bool : ∀ value, motive (.bool value)) (number : ∀ numeral, motive (.number numeral))
    (string : ∀ text, motive (.string text))
    (list : ∀ items ending, (∀ item ∈ items, motive item) → motive (.list items ending))
    (object : ∀ members ending, (∀ member ∈ members, motive member.2) →
      motive (.object members ending))
    (fault : ∀ cause, motive (.fault cause)) (tree : Tree) : motive tree :=
  @Tree.rec motive (fun items => ∀ item ∈ items, motive item)
    (fun members => ∀ member ∈ members, motive member.2) (fun member => motive member.2)
    null bool number string list object fault
    (by simp) (fun _ _ hHead hTail => List.forall_mem_cons.mpr ⟨hHead, hTail⟩)
    (by simp) (fun _ _ hHead hTail => List.forall_mem_cons.mpr ⟨hHead, hTail⟩)
    (fun _ _ h => h) tree

/-- Items are read independently, with the same room. -/
theorem readItems_eq_ok_iff {room : Nat} {items : List Tree} {values : List Json} :
    readItems room items = .ok values ↔
      List.Forall₂ (fun item value => item.read room = .ok value) items values := by
  induction items generalizing values with
  | nil => simp [readItems, eq_comm]
  | cons item rest ih =>
      simp only [readItems, bind_eq_ok_iff, pure_eq_ok_iff, ih, List.forall₂_cons_left_iff]
      constructor
      · rintro ⟨value, hItem, values, hRest, rfl⟩
        exact ⟨value, values, hItem, hRest, rfl⟩
      · rintro ⟨value, values, hItem, hRest, rfl⟩
        exact ⟨value, hItem, values, hRest, rfl⟩

theorem readMembers_eq_ok_iff {room : Nat} {members : List (Quoted × Tree)}
    {values : List (String × Json)} :
    readMembers room members = .ok values ↔
      List.Forall₂ (fun member value => member.1.text? = some value.1 ∧
        member.2.read room = .ok value.2) members values := by
  induction members generalizing values with
  | nil => simp [readMembers, eq_comm]
  | cons member rest ih =>
      obtain ⟨key, tree⟩ := member
      simp only [readMembers, bind_eq_ok_iff, pure_eq_ok_iff, ih, List.forall₂_cons_left_iff,
        Quoted.text?_eq_some_iff]
      constructor
      · rintro ⟨name, hKey, value, hValue, values, hRest, rfl⟩
        exact ⟨(name, value), values, ⟨hKey, hValue⟩, hRest, rfl⟩
      · rintro ⟨⟨name, value⟩, values, ⟨hKey, hValue⟩, hRest, rfl⟩
        exact ⟨name, hKey, value, hValue, values, hRest, rfl⟩

/-- A text parses exactly when its root can be read and nothing follows it. -/
theorem parse_eq_ok_iff {text : String} {value : Json} :
    parse text = .ok value ↔
      ∃ written, (Document.ofText text).root.read depthLimit = .ok written ∧
        (Document.ofText text).surplus = false ∧ value = written.collapse := by
  simp only [parse, bind_eq_ok_iff]
  cases (Document.ofText text).surplus with
  | true => simp
  | false => simp only [Bool.false_eq_true, if_false, pure_eq_ok_iff, true_and, @eq_comm _ value]

section Skipping

/-- Only a properly closed quoted text has characters. -/
theorem Ending.check_of_readPieces {ending : Ending} {pieces : List Piece} {chars : List Char}
    (h : readPieces ending pieces = .ok chars) : ending.check = .ok () := by
  fun_induction readPieces ending pieces generalizing chars
  case case1 => exact (check_bind_eq_ok_iff.mp h).1
  case case2 ih | case4 ih | case8 ih =>
    obtain ⟨_, hRest, _⟩ := bind_pure_eq_ok_iff.mp h
    exact ih hRest
  all_goals cases h

/-- Skipping is weaker than reading, for quoted texts here and for containers in the lemmas after
it. -/
theorem Quoted.skip_of_read {text : Quoted} {name : String} (h : text.read = .ok name) :
    text.skip = .ok () := by
  obtain ⟨chars, hChars, _⟩ := bind_pure_eq_ok_iff.mp h
  exact Ending.check_of_readPieces hChars

theorem ListEnding.checkSkipped_of_check {ending : ListEnding} (h : ending.check = .ok ()) :
    ending.checkSkipped = .ok () := by
  cases ending <;> trivial

theorem ObjectEnding.checkSkipped_of_check {ending : ObjectEnding} (h : ending.check = .ok ()) :
    ending.checkSkipped = .ok () := by
  cases ending with
  | brokenKey key =>
      obtain ⟨name, hName, _⟩ := bind_eq_ok_iff.mp h
      exact Quoted.skip_of_read hName
  | _ => trivial

theorem skipItems_of_forall {items : List Tree} (h : ∀ item ∈ items, item.skip = .ok ()) :
    skipItems items = .ok () := by
  induction items with
  | nil => rfl
  | cons item rest ih =>
      obtain ⟨hItem, hRest⟩ := List.forall_mem_cons.mp h
      rw [skipItems, hItem]
      exact ih hRest

theorem skipMembers_of_forall {members : List (Quoted × Tree)}
    (h : ∀ member ∈ members, member.1.skip = .ok () ∧ member.2.skip = .ok ()) :
    skipMembers members = .ok () := by
  induction members with
  | nil => rfl
  | cons member rest ih =>
      obtain ⟨⟨hKey, hTree⟩, hRest⟩ := List.forall_mem_cons.mp h
      rw [skipMembers, hKey, hTree]
      exact ih hRest

/-- What can be read can be skipped. The converse fails, since skipping ignores numbers out of range
and lone surrogates. -/
theorem Tree.skip_of_read {tree : Tree} {room : Nat} {value : Json}
    (h : tree.read room = .ok value) : tree.skip = .ok () := by
  induction tree using Tree.induct generalizing room value with
  | null | bool _ | number _ => rfl
  | string text =>
      obtain ⟨name, hName, _⟩ := bind_pure_eq_ok_iff.mp h
      exact Quoted.skip_of_read hName
  | fault cause => cases h
  | list items ending ih =>
      obtain ⟨inner, values, _, hItems, hEnding, _⟩ := read_list_eq_ok_iff.mp h
      have hSkip : skipItems items = .ok () := by
        apply skipItems_of_forall
        intro item hItem
        obtain ⟨_, _, hRead⟩ := exists_of_forall₂_of_mem (readItems_eq_ok_iff.mp hItems) hItem
        exact ih item hItem hRead
      rw [Tree.skip, hSkip]
      exact ListEnding.checkSkipped_of_check hEnding
  | object members ending ih =>
      obtain ⟨inner, values, _, hMembers, hEnding, _⟩ := read_object_eq_ok_iff.mp h
      have hSkip : skipMembers members = .ok () := by
        apply skipMembers_of_forall
        intro member hMember
        obtain ⟨_, _, hKey, hRead⟩ :=
          exists_of_forall₂_of_mem (readMembers_eq_ok_iff.mp hMembers) hMember
        exact ⟨Quoted.skip_of_read (Quoted.text?_eq_some_iff.mp hKey), ih member hMember hRead⟩
      rw [Tree.skip, hSkip]
      exact ObjectEnding.checkSkipped_of_check hEnding

end Skipping

section Distinct

/-- No object in the value repeats a key, at any depth. -/
inductive Distinct : Json → Prop where
  | null : Distinct .null
  | bool {value} : Distinct (.bool value)
  | number {value} : Distinct (.number value)
  | string {value} : Distinct (.string value)
  | array {items} (each : ∀ item ∈ items, Distinct item) : Distinct (.array items)
  | object {members} (keys : (members.map (·.1)).Nodup)
      (each : ∀ member ∈ members, Distinct member.2) : Distinct (.object members)

@[simp]
theorem distinct_null : Distinct .null :=
  .null

@[simp]
theorem distinct_bool (value : Bool) : Distinct (.bool value) :=
  .bool

@[simp]
theorem distinct_number (value : Number) : Distinct (.number value) :=
  .number

@[simp]
theorem distinct_string (value : String) : Distinct (.string value) :=
  .string

@[simp]
theorem distinct_array_iff {items : List Json} :
    Distinct (.array items) ↔ ∀ item ∈ items, item.Distinct :=
  ⟨fun h => by cases h; assumption, .array⟩

@[simp]
theorem distinct_object_iff {members : List (String × Json)} :
    Distinct (.object members) ↔
      (members.map (·.1)).Nodup ∧ ∀ member ∈ members, member.2.Distinct :=
  ⟨fun h => by cases h; constructor <;> assumption, fun h => .object h.1 h.2⟩

theorem collapseItems_eq_map (items : List Json) : collapseItems items = items.map collapse := by
  induction items with
  | nil => rfl
  | cons item rest ih => rw [collapseItems, ih, List.map_cons]

theorem put_of_not_mem {done : List (String × Json)} {key : String} {value : Json}
    (h : key ∉ done.map (·.1)) : put done key value = done ++ [(key, value)] := by
  induction done with
  | nil => rfl
  | cons member rest ih =>
      obtain ⟨hKey, hRest⟩ := not_or.mp (mt List.mem_cons.mpr h)
      rw [put, if_neg (by simpa using Ne.symm hKey), ih hRest, List.cons_append]

/-- Members with distinct keys are kept as they are, behind those already there. -/
theorem collapseMembers_of_nodup {done members : List (String × Json)}
    (h : ((done ++ members).map (·.1)).Nodup) :
    collapseMembers done members = done ++ members.map fun member => (member.1, member.2.collapse) := by
  induction members generalizing done with
  | nil => rw [collapseMembers, List.map_nil, List.append_nil]
  | cons member rest ih =>
      obtain ⟨key, value⟩ := member
      have hKey : key ∉ done.map (·.1) := by
        rw [List.map_append] at h
        exact fun hMem => List.disjoint_of_nodup_append h hMem List.mem_cons_self
      rw [collapseMembers, put_of_not_mem hKey, ih (by simpa using h)]
      simp

/-- A value without repeated keys is unaffected by merging, at any depth. -/
theorem Distinct.collapse_eq_self {value : Json} (h : value.Distinct) : value.collapse = value := by
  induction h with
  | null | bool | number | string => rfl
  | array _ ih =>
      rw [collapse, collapseItems_eq_map, List.map_congr_left ih, List.map_id']
  | @object members keys _ ih =>
      have hMembers : (members.map fun member => (member.1, member.2.collapse)) = members := by
        nth_rewrite 2 [← List.map_id members]
        exact List.map_congr_left fun member hMember => Prod.ext rfl (ih member hMember)
      rw [collapse, collapseMembers_of_nodup (by simpa using keys), List.nil_append, hMembers]

mutual

/-- A tree with all trees inside it. -/
def Tree.parts : Tree → List Tree
  | .list items ending => .list items ending :: partsOfItems items
  | .object members ending => .object members ending :: partsOfMembers members
  | tree => [tree]

def partsOfItems : List Tree → List Tree
  | [] => []
  | item :: rest => item.parts ++ partsOfItems rest

def partsOfMembers : List (Quoted × Tree) → List Tree
  | [] => []
  | (_, item) :: rest => item.parts ++ partsOfMembers rest

end

/-- No object in the tree repeats a key. Keys are compared as texts, not as written. -/
def Tree.Distinct (root : Tree) : Prop :=
  ∀ part ∈ root.parts, (part.members.map (·.1.text?)).Nodup

instance (root : Tree) : Decidable root.Distinct :=
  inferInstanceAs (Decidable (∀ part ∈ root.parts, _))

theorem partsOfItems_eq_flatMap (items : List Tree) :
    partsOfItems items = items.flatMap Tree.parts := by
  induction items with
  | nil => rfl
  | cons item rest ih => rw [partsOfItems, ih, List.flatMap_cons]

theorem partsOfMembers_eq_flatMap (members : List (Quoted × Tree)) :
    partsOfMembers members = members.flatMap (·.2.parts) := by
  induction members with
  | nil => rfl
  | cons member rest ih => rw [partsOfMembers, ih, List.flatMap_cons]

theorem Tree.Distinct.item {items : List Tree} {ending : ListEnding}
    (h : (Tree.list items ending).Distinct) {item : Tree} (hItem : item ∈ items) :
    item.Distinct := by
  intro part hPart
  apply h part
  rw [Tree.parts, partsOfItems_eq_flatMap]
  exact List.mem_cons_of_mem _ (List.mem_flatMap_of_mem hItem hPart)

theorem Tree.Distinct.member {members : List (Quoted × Tree)} {ending : ObjectEnding}
    (h : (Tree.object members ending).Distinct) {member : Quoted × Tree}
    (hMember : member ∈ members) : member.2.Distinct := by
  intro part hPart
  apply h part
  rw [Tree.parts, partsOfMembers_eq_flatMap]
  exact List.mem_cons_of_mem _ (List.mem_flatMap_of_mem hMember hPart)

theorem Tree.Distinct.keys {members : List (Quoted × Tree)} {ending : ObjectEnding}
    (h : (Tree.object members ending).Distinct) : (members.map (·.1.text?)).Nodup :=
  h _ List.mem_cons_self

/-- A tree without repeated keys is read as a value without any. -/
theorem Tree.Distinct.of_read {tree : Tree} (hTree : tree.Distinct) {room : Nat} {value : Json}
    (h : tree.read room = .ok value) : value.Distinct := by
  induction tree using Tree.induct generalizing room value with
  | null | bool _ =>
      cases h
      constructor
  | number numeral =>
      obtain ⟨number, _, rfl⟩ := bind_pure_eq_ok_iff.mp h
      exact .number
  | string text =>
      obtain ⟨name, _, rfl⟩ := bind_pure_eq_ok_iff.mp h
      exact .string
  | fault cause => cases h
  | list items ending ih =>
      obtain ⟨inner, values, _, hItems, _, rfl⟩ := read_list_eq_ok_iff.mp h
      refine .array fun value hValue => ?_
      obtain ⟨item, hItem, hRead⟩ :=
        exists_of_forall₂_of_mem (readItems_eq_ok_iff.mp hItems).flip hValue
      exact ih item hItem (hTree.item hItem) hRead
  | object members ending ih =>
      obtain ⟨inner, values, _, hMembers, _, rfl⟩ := read_object_eq_ok_iff.mp h
      have hPairs := readMembers_eq_ok_iff.mp hMembers
      have hKeys : members.map (·.1.text?) = (values.map (·.1)).map some := by
        rw [List.map_map]
        exact map_eq_map_of_forall₂ hPairs fun _ _ h => h.1
      refine .object ((hKeys ▸ hTree.keys).of_map some) fun value hValue => ?_
      obtain ⟨member, hMember, _, hRead⟩ := exists_of_forall₂_of_mem hPairs.flip hValue
      exact ih member hMember (hTree.member hMember) hRead

end Distinct

end EntitySearch.Json
