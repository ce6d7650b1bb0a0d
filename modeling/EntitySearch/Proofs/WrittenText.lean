import EntitySearch.Proofs.WrittenTokens
import EntitySearch.Proofs.WrittenValues

/-! The reader undoes the writer: a value whose numbers are integers is read from its text, compact
or indented, as long as it is not too deep for a reader. -/
namespace EntitySearch.Json

/-- Characters that scan to one token from between tokens, whatever follows. -/
def Scans (text : List Char) (token : Token) : Prop :=
  ∀ rest, ScanMode.between.scan (text ++ rest) = token :: ScanMode.between.scan rest

theorem scans_listOpen : Scans ['['] .listOpen :=
  fun _ => rfl

theorem scans_objectOpen : Scans ['\x7b'] .objectOpen :=
  fun _ => rfl

theorem scans_colon : Scans [':'] .colon :=
  fun _ => rfl

theorem scans_colon_space : Scans [':', ' '] .colon :=
  fun _ => rfl

theorem Scans.append_newline {text : List Char} {token : Token} (h : Scans text token)
    (level : Nat) : Scans (text ++ newline level) token := by
  intro rest
  rw [List.append_assoc, h, scan_newline]

/-- Characters that scan to one token and end a numeral before them. -/
structure Delimits (text : List Char) (token : Token) : Prop where
  boundary : ∀ rest, Boundary (text ++ rest)
  scans : Scans text token

theorem delimits_comma : Delimits [','] .comma :=
  ⟨fun _ => by simp [Boundary, decimalDigit?], fun _ => rfl⟩

theorem delimits_listClose : Delimits [']'] .listClose :=
  ⟨fun _ => by simp [Boundary, decimalDigit?], fun _ => rfl⟩

theorem delimits_objectClose : Delimits ['\x7d'] .objectClose :=
  ⟨fun _ => by simp [Boundary, decimalDigit?], fun _ => rfl⟩

theorem Delimits.append_newline {text : List Char} {token : Token} (h : Delimits text token)
    (level : Nat) : Delimits (text ++ newline level) token where
  boundary rest := by
    rw [List.append_assoc]
    exact h.boundary _
  scans := h.scans.append_newline level

theorem Delimits.newline_append {text : List Char} {token : Token} (h : Delimits text token)
    (level : Nat) : Delimits (newline level ++ text) token where
  boundary rest := by simp [Boundary, newline, decimalDigit?]
  scans rest := by rw [List.append_assoc, scan_newline, h.scans]

/-- States in which a value may start, with this stack around it. -/
inductive BuildState.Awaits : BuildState → List Frame → Prop where
  | value {stack} : Awaits (.value stack) stack
  | firstItem {stack} : Awaits (.firstItem stack) (.list [] :: stack)
  | nextItem {items stack} : Awaits (.nextItem items stack) (.list items :: stack)

/-- States in which a key may start, behind these members. -/
inductive BuildState.AwaitsKey : BuildState → List (Quoted × Tree) → List Frame → Prop where
  | firstKey {stack} : AwaitsKey (.firstKey stack) [] stack
  | nextKey {members stack} : AwaitsKey (.nextKey members stack) members stack

theorem BuildState.Awaits.step {state after : BuildState} {stack : List Frame} {token : Token}
    (h : state.Awaits stack) (hStart : startValue stack token = .ok after) :
    state.step token = .ok after := by
  cases h with
  | value => exact hStart
  | firstItem => cases token <;> first | exact hStart | cases hStart
  | nextItem => cases token <;> first | exact hStart | cases hStart

theorem BuildState.AwaitsKey.step {state after : BuildState} {members : List (Quoted × Tree)}
    {stack : List Frame} {token : Token} (h : state.AwaitsKey members stack)
    (hStart : startKey members stack token = .ok after) : state.step token = .ok after := by
  cases h with
  | firstKey => cases token <;> first | exact hStart | cases hStart
  | nextKey => cases token <;> first | exact hStart | cases hStart

theorem BuildState.build_step {state after : BuildState} {token : Token} {rest : List Token}
    (h : state.step token = .ok after) : state.build (token :: rest) = after.build rest := by
  rw [build, h]

/-- Characters that build the tree wherever a value may stand. -/
def Spells (text : List Char) (tree : Tree) : Prop :=
  ∀ state stack rest, BuildState.Awaits state stack → Boundary rest →
    state.build (ScanMode.between.scan (text ++ rest)) =
      (BuildState.after tree stack).build (ScanMode.between.scan rest)

/-- A text spelt by one tree parses to that tree without surplus. -/
theorem Spells.document {text : List Char} {tree : Tree} (h : Spells text tree) :
    Document.ofText (String.ofList text) = ⟨tree, false⟩ := by
  have hBuild := h (.value []) [] [] .value boundary_nil
  rw [List.append_nil] at hBuild
  rw [Document.ofText, String.toList_ofList, Document.ofTokens, tokens, hBuild]
  rfl

theorem startValue_string (text : String) (stack : List Frame) :
    startValue stack (.string (.ofText text)) = .ok (.after (.string (.ofText text)) stack) :=
  rfl

theorem spells_of_token {text : List Char} {token : Token} {tree : Tree}
    (hScan : ∀ rest, Boundary rest →
      ScanMode.between.scan (text ++ rest) = token :: ScanMode.between.scan rest)
    (hStart : ∀ stack, startValue stack token = .ok (.after tree stack)) : Spells text tree := by
  intro state stack rest hState hRest
  rw [hScan rest hRest, BuildState.build_step (hState.step (hStart stack))]

section Containers

/-- How the builder takes in a container whose parts stand between commas. Lists and objects are the
two instances. -/
structure Container (α : Type) where
  /-- What the builder waits for after the opening bracket. -/
  opened : BuildState
  /-- Where a part may start, with the parts before it last one first. -/
  ready : BuildState → List α → Prop
  /-- What the builder waits for after a part and the ones before it. -/
  filled : α → List α → BuildState
  /-- What the builder waits for after the whole container. -/
  closed : List α → BuildState
  close : Token
  ready_opened : ready opened []
  step_opened : opened.step close = .ok (closed [])
  step_comma : ∀ part done, ∃ next,
    (filled part done).step .comma = .ok next ∧ ready next (part :: done)
  step_close : ∀ part done, (filled part done).step close = .ok (closed (part :: done).reverse)

def listContainer (stack : List Frame) : Container Tree where
  opened := .firstItem stack
  ready state done := state.Awaits (.list done :: stack)
  filled tree done := .after tree (.list done :: stack)
  closed trees := .after (.list trees .closed) stack
  close := .listClose
  ready_opened := .firstItem
  step_opened := rfl
  step_comma _ _ := ⟨_, rfl, .nextItem⟩
  step_close _ _ := rfl

def objectContainer (stack : List Frame) : Container (Quoted × Tree) where
  opened := .firstKey stack
  ready state done := state.AwaitsKey done stack
  filled member done := .after member.2 (.object done member.1 :: stack)
  closed members := .after (.object members .closed) stack
  close := .objectClose
  ready_opened := .firstKey
  step_opened := rfl
  step_comma _ _ := ⟨_, rfl, .nextKey⟩
  step_close _ _ := rfl

namespace Container

variable {α : Type} {container : Container α}

/-- Characters that build the part wherever one may stand in the container. -/
def SpellsPart (container : Container α) (text : List Char) (part : α) : Prop :=
  ∀ state done rest, container.ready state done → Boundary rest →
    state.build (ScanMode.between.scan (text ++ rest)) =
      (container.filled part done).build (ScanMode.between.scan rest)

variable {separator finish : List Char} {texts : List (List Char)} {parts : List α}

/-- Run lemma for the builder: parts joined by commas are collected in order up to the closing
bracket. -/
theorem build_parts (hSeparator : Delimits separator .comma)
    (hFinish : Delimits finish container.close) {text : List Char} {part : α}
    (hFirst : container.SpellsPart text part) (hRest : List.Forall₂ container.SpellsPart texts parts)
    {state : BuildState} {done : List α} (hReady : container.ready state done) (rest : List Char) :
    state.build (ScanMode.between.scan
        (separator.intercalate (text :: texts) ++ (finish ++ rest))) =
      (container.closed (done.reverse ++ part :: parts)).build (ScanMode.between.scan rest) := by
  -- Each comma moves the first part to the ones that are done, so these are general.
  induction hRest generalizing text part state done with
  | nil =>
      rw [List.intercalate_singleton, hFirst state done _ hReady (hFinish.boundary rest),
        hFinish.scans, BuildState.build_step (container.step_close part done), List.reverse_cons]
  | @cons nextText nextPart texts parts hNext _ ih =>
      obtain ⟨next, hComma, hReadyNext⟩ := container.step_comma part done
      rw [List.intercalate_cons_cons]
      simp only [List.append_assoc]
      rw [hFirst state done _ hReady (hSeparator.boundary _), hSeparator.scans,
        BuildState.build_step hComma, ih hNext hReadyNext]
      simp

/-- The same from the opening bracket, for at least one part. -/
theorem build_opened (hSeparator : Delimits separator .comma)
    (hFinish : Delimits finish container.close)
    (hParts : List.Forall₂ container.SpellsPart texts parts) (rest : List Char) :
    container.opened.build (ScanMode.between.scan
        (separator.intercalate texts ++ (finish ++ rest))) =
      (container.closed parts).build (ScanMode.between.scan rest) := by
  cases hParts with
  | nil =>
      rw [List.intercalate_nil, List.nil_append, hFinish.scans,
        BuildState.build_step container.step_opened]
  | cons hFirst hRest => exact build_parts hSeparator hFinish hFirst hRest container.ready_opened rest

end Container

variable {start separator finish : List Char} {texts : List (List Char)} {trees : List Tree}
  {members : List (Quoted × Tree)}

/-- Items joined by commas between brackets spell a list. White space around brackets and commas is
admitted. -/
theorem spells_list (hStart : Scans start .listOpen) (hSeparator : Delimits separator .comma)
    (hFinish : Delimits finish .listClose) (hItems : List.Forall₂ Spells texts trees) :
    Spells (start ++ separator.intercalate texts ++ finish) (.list trees .closed) := by
  intro state stack rest hState _
  have hParts : List.Forall₂ (listContainer stack).SpellsPart texts trees :=
    hItems.imp fun _ _ hItem state done => hItem state (.list done :: stack)
  rw [List.append_assoc, List.append_assoc, hStart, BuildState.build_step (hState.step rfl)]
  exact Container.build_opened hSeparator hFinish hParts rest

def SpellsMember (text : List Char) (member : Quoted × Tree) : Prop :=
  ∀ stack, (objectContainer stack).SpellsPart text member

theorem spellsMember {colon text : List Char} {key : String} {tree : Tree}
    (hColon : Scans colon .colon) (hValue : Spells text tree) :
    SpellsMember (quoteChars key ++ colon ++ text) (.ofText key, tree) := by
  intro stack state members rest hState hRest
  have hKey : startKey members stack (.string (.ofText key)) = .ok (.colon members (.ofText key) stack) :=
    rfl
  rw [List.append_assoc, List.append_assoc, scan_quoteChars,
    BuildState.build_step (BuildState.AwaitsKey.step hState hKey), hColon, BuildState.build_step rfl,
    hValue _ _ _ .value hRest]
  rfl

/-- The same for members between braces. -/
theorem spells_object (hStart : Scans start .objectOpen) (hSeparator : Delimits separator .comma)
    (hFinish : Delimits finish .objectClose) (hMembers : List.Forall₂ SpellsMember texts members) :
    Spells (start ++ separator.intercalate texts ++ finish) (.object members .closed) := by
  intro state stack rest hState _
  have hParts : List.Forall₂ (objectContainer stack).SpellsPart texts members :=
    hMembers.imp fun _ _ hMember => hMember stack
  rw [List.append_assoc, List.append_assoc, hStart, BuildState.build_step (hState.step rfl)]
  exact Container.build_opened hSeparator hFinish hParts rest

end Containers

section Writer

/-- The recursive printer as an intercalation. The three lemmas after it do this for members and
for indented text. -/
theorem itemsChars_eq (items : List Json) :
    itemsChars items = [','].intercalate (items.map chars) := by
  induction items with
  | nil => rfl
  | cons item rest ih =>
      cases rest with
      | nil => simp [itemsChars]
      | cons next rest => simp [itemsChars, ih, List.intercalate_cons_cons]

theorem membersChars_eq (members : List (String × Json)) :
    membersChars members =
      [','].intercalate (members.map fun member => quoteChars member.1 ++ [':'] ++ member.2.chars) := by
  induction members with
  | nil => rfl
  | cons member rest ih =>
      cases rest with
      | nil => simp [membersChars]
      | cons next rest => simp [membersChars, ih, List.intercalate_cons_cons]

theorem indentedItems_eq (level : Nat) (item : Json) (rest : List Json) :
    item.indentedChars level ++ indentedItems level rest =
      ([','] ++ newline level).intercalate ((item :: rest).map (indentedChars level)) := by
  induction rest generalizing item with
  | nil => simp [indentedItems]
  | cons next rest ih =>
      have hRest := ih next
      rw [List.map_cons] at hRest
      rw [indentedItems, List.map_cons, List.map_cons, List.intercalate_cons_cons, ← hRest]
      simp

theorem indentedMembers_eq (level : Nat) (member : String × Json) (rest : List (String × Json)) :
    quoteChars member.1 ++ [':', ' '] ++ member.2.indentedChars level ++ indentedMembers level rest =
      ([','] ++ newline level).intercalate ((member :: rest).map fun member =>
        quoteChars member.1 ++ [':', ' '] ++ member.2.indentedChars level) := by
  induction rest generalizing member with
  | nil => simp [indentedMembers]
  | cons next rest ih =>
      have hRest := ih next
      rw [List.map_cons] at hRest
      rw [indentedMembers, List.map_cons, List.map_cons, List.intercalate_cons_cons, ← hRest]
      simp

end Writer

section Depth

mutual

/-- Number of nested containers. -/
def depth : Json → Nat
  | .array items => itemsDepth items + 1
  | .object members => membersDepth members + 1
  | _ => 0

def itemsDepth : List Json → Nat
  | [] => 0
  | item :: rest => max item.depth (itemsDepth rest)

def membersDepth : List (String × Json) → Nat
  | [] => 0
  | (_, value) :: rest => max value.depth (membersDepth rest)

end

theorem depth_le_itemsDepth {items : List Json} {item : Json} (h : item ∈ items) :
    item.depth ≤ itemsDepth items := by
  induction items with
  | nil => cases h
  | cons first rest ih =>
      rw [itemsDepth]
      rcases List.mem_cons.mp h with rfl | h
      · exact le_max_left _ _
      · exact (ih h).trans (le_max_right _ _)

theorem depth_le_membersDepth {members : List (String × Json)} {member : String × Json}
    (h : member ∈ members) : member.2.depth ≤ membersDepth members := by
  induction members with
  | nil => cases h
  | cons first rest ih =>
      rw [membersDepth]
      rcases List.mem_cons.mp h with rfl | h
      · exact le_max_left _ _
      · exact (ih h).trans (le_max_right _ _)

end Depth

/-- All numbers in the value are integers. -/
inductive Integral : Json → Prop where
  | null : Integral .null
  | bool {value} : Integral (.bool value)
  | integer {value} : Integral (.number (.integer value))
  | string {value} : Integral (.string value)
  | array {items} (each : ∀ item ∈ items, Integral item) : Integral (.array items)
  | object {members} (each : ∀ member ∈ members, Integral member.2) : Integral (.object members)

@[simp]
theorem integral_null : Integral .null :=
  .null

@[simp]
theorem integral_bool (value : Bool) : Integral (.bool value) :=
  .bool

@[simp]
theorem integral_string (value : String) : Integral (.string value) :=
  .string

@[simp]
theorem integral_number_iff {value : Number} :
    Integral (.number value) ↔ ∃ n, value = .integer n :=
  ⟨fun h => by cases h; exact ⟨_, rfl⟩, fun ⟨_, h⟩ => h ▸ .integer⟩

@[simp]
theorem integral_array_iff {items : List Json} :
    Integral (.array items) ↔ ∀ item ∈ items, item.Integral :=
  ⟨fun h => by cases h; assumption, .array⟩

@[simp]
theorem integral_object_iff {members : List (String × Json)} :
    Integral (.object members) ↔ ∀ member ∈ members, member.2.Integral :=
  ⟨fun h => by cases h; assumption, .object⟩

/-- Both texts of the value spell the tree, and a reader with enough room takes the value from
it. -/
structure Tree.Writes (tree : Tree) (value : Json) : Prop where
  compact : Spells value.chars tree
  indented : ∀ level, Spells (value.indentedChars level) tree
  read : ∀ room, value.depth ≤ room → tree.read room = .ok value

/-- Values of one token are written alike at every indentation. -/
theorem writes_of_token {value : Json} {tree : Tree} {token : Token}
    (hScan : ∀ rest, Boundary rest → ScanMode.between.scan (value.chars ++ rest) =
      token :: ScanMode.between.scan rest)
    (hStart : ∀ stack, startValue stack token = .ok (.after tree stack))
    (hIndented : ∀ level, value.indentedChars level = value.chars)
    (hRead : ∀ room, tree.read room = .ok value) : tree.Writes value where
  compact := spells_of_token hScan hStart
  indented level := hIndented level ▸ spells_of_token hScan hStart
  read room _ := hRead room

theorem writes_array {items : List Json} {trees : List Tree}
    (h : List.Forall₂ (fun item tree => tree.Writes item) items trees) :
    (Tree.list trees .closed).Writes (.array items) where
  compact := by
    have hItems : List.Forall₂ Spells (items.map chars) trees :=
      List.forall₂_map_left_iff.mpr (h.imp fun _ _ hItem => hItem.compact)
    rw [chars, itemsChars_eq]
    exact spells_list scans_listOpen delimits_comma delimits_listClose hItems
  indented level := by
    have hItems : List.Forall₂ Spells (items.map (indentedChars (level + 1))) trees :=
      List.forall₂_map_left_iff.mpr (h.imp fun _ _ hItem => hItem.indented (level + 1))
    cases items with
    | nil =>
        have hEmpty := spells_list scans_listOpen delimits_comma delimits_listClose hItems
        simpa [indentedChars] using hEmpty
    | cons item rest =>
        have hList := spells_list (scans_listOpen.append_newline (level + 1))
          (delimits_comma.append_newline (level + 1)) (delimits_listClose.newline_append level) hItems
        rw [← indentedItems_eq] at hList
        simpa [indentedChars] using hList
  read room hRoom := by
    rw [depth] at hRoom
    obtain ⟨inner, rfl⟩ : ∃ inner, room = inner + 1 := ⟨room - 1, by omega⟩
    have hDepth : ∀ item ∈ items, item.depth ≤ inner := fun item hItem =>
      (depth_le_itemsDepth hItem).trans (by omega)
    have hItems := ((List.forall₂_and_left _ _).mpr ⟨hDepth, h⟩).flip.imp
      fun _ _ ⟨hItem, hTree⟩ => hTree.read inner hItem
    exact Tree.read_list_eq_ok_iff.mpr
      ⟨inner, items, rfl, readItems_eq_ok_iff.mpr hItems, rfl, rfl⟩

theorem writes_object {members : List (String × Json)} {written : List (Quoted × Tree)}
    (h : List.Forall₂ (fun member writing => writing.1 = .ofText member.1 ∧
      writing.2.Writes member.2) members written) :
    (Tree.object written .closed).Writes (.object members) where
  compact := by
    have hMembers : List.Forall₂ SpellsMember
        (members.map fun member => quoteChars member.1 ++ [':'] ++ member.2.chars) written := by
      refine List.forall₂_map_left_iff.mpr (h.imp ?_)
      rintro member ⟨_, tree⟩ ⟨rfl, hValue⟩
      exact spellsMember scans_colon hValue.compact
    rw [chars, membersChars_eq]
    exact spells_object scans_objectOpen delimits_comma delimits_objectClose hMembers
  indented level := by
    have hMembers : List.Forall₂ SpellsMember (members.map fun member =>
        quoteChars member.1 ++ [':', ' '] ++ member.2.indentedChars (level + 1)) written := by
      refine List.forall₂_map_left_iff.mpr (h.imp ?_)
      rintro member ⟨_, tree⟩ ⟨rfl, hValue⟩
      exact spellsMember scans_colon_space (hValue.indented (level + 1))
    cases members with
    | nil =>
        have hEmpty := spells_object scans_objectOpen delimits_comma delimits_objectClose hMembers
        simpa [indentedChars] using hEmpty
    | cons member rest =>
        have hObject := spells_object (scans_objectOpen.append_newline (level + 1))
          (delimits_comma.append_newline (level + 1)) (delimits_objectClose.newline_append level)
          hMembers
        rw [← indentedMembers_eq] at hObject
        simpa [indentedChars] using hObject
  read room hRoom := by
    rw [depth] at hRoom
    obtain ⟨inner, rfl⟩ : ∃ inner, room = inner + 1 := ⟨room - 1, by omega⟩
    have hDepth : ∀ member ∈ members, member.2.depth ≤ inner := fun member hMember =>
      (depth_le_membersDepth hMember).trans (by omega)
    have hMembers : List.Forall₂ (fun writing member => writing.1.text? = some member.1 ∧
        writing.2.read inner = .ok member.2) written members := by
      refine ((List.forall₂_and_left _ _).mpr ⟨hDepth, h⟩).flip.imp ?_
      rintro ⟨_, tree⟩ member ⟨hMember, rfl, hTree⟩
      exact ⟨Quoted.text?_eq_some_iff.mpr (Quoted.read_ofText _), hTree.read inner hMember⟩
    exact Tree.read_object_eq_ok_iff.mpr
      ⟨inner, members, rfl, readMembers_eq_ok_iff.mpr hMembers, rfl, rfl⟩

/-- Every value whose numbers are integers is written as some tree, compact or indented, and read
from it. -/
theorem Integral.exists_writes {value : Json} (h : value.Integral) : ∃ tree : Tree, tree.Writes value := by
  induction h with
  | null => exact ⟨.null, writes_of_token (fun _ _ => rfl) (fun _ => rfl) (fun _ => rfl) fun _ => rfl⟩
  | @bool value =>
      have hScan : ∀ rest, ScanMode.between.scan (chars (.bool value) ++ rest) =
          .bool value :: ScanMode.between.scan rest := by
        cases value <;> exact fun _ => rfl
      exact ⟨.bool value, writes_of_token (fun rest _ => hScan rest) (fun _ => rfl) (fun _ => rfl)
        fun _ => rfl⟩
  | @integer n =>
      refine ⟨.number n.numeral, writes_of_token (fun _ => scan_integer n) (fun _ => rfl)
        (fun _ => rfl) fun _ => ?_⟩
      rw [Tree.read, readNumber_numeral]
      rfl
  | @string text =>
      refine ⟨.string (.ofText text), writes_of_token (fun rest _ => scan_quoteChars text rest)
        (startValue_string text) (fun _ => rfl) fun _ => ?_⟩
      rw [Tree.read, Quoted.read_ofText]
      rfl
  | array _ ih =>
      obtain ⟨trees, hTrees⟩ := exists_forall₂ ih
      exact ⟨_, writes_array hTrees⟩
  | @object members _ ih =>
      have hWritten : ∀ member ∈ members, ∃ writing : Quoted × Tree,
          writing.1 = .ofText member.1 ∧ writing.2.Writes member.2 := by
        intro member hMember
        obtain ⟨tree, hTree⟩ := ih member hMember
        exact ⟨(.ofText member.1, tree), rfl, hTree⟩
      obtain ⟨written, hWritten⟩ := exists_forall₂ hWritten
      exact ⟨_, writes_object hWritten⟩

/-- Parsing the compact text of a value gives a tree from which the value is read. Fractions are
excluded, since their shortest spelling is not analysed here. -/
theorem Integral.read_compact {value : Json} (h : value.Integral) (hDepth : value.depth ≤ depthLimit) :
    (Document.ofText value.compact).root.read depthLimit = .ok value ∧
      (Document.ofText value.compact).surplus = false := by
  obtain ⟨tree, hTree⟩ := h.exists_writes
  rw [compact, hTree.compact.document]
  exact ⟨hTree.read depthLimit hDepth, rfl⟩

/-- Indented and compact text parse to one document. -/
theorem Integral.ofText_indented {value : Json} (h : value.Integral) :
    Document.ofText value.indented = Document.ofText value.compact := by
  obtain ⟨tree, hTree⟩ := h.exists_writes
  rw [indented, compact, hTree.compact.document, (hTree.indented 0).document]

/-- Parsing inverts printing on integral values without repeated keys, up to the reader's depth
limit. -/
theorem Integral.parse_compact {value : Json} (h : value.Integral) (hDistinct : value.Distinct)
    (hDepth : value.depth ≤ depthLimit) : parse value.compact = .ok value := by
  obtain ⟨hRead, hSurplus⟩ := h.read_compact hDepth
  exact parse_eq_ok_iff.mpr ⟨value, hRead, hSurplus, hDistinct.collapse_eq_self.symm⟩

end EntitySearch.Json
