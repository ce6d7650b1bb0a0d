import EntitySearch.Json.Token

/-! JSON text as a tree. The tree holds what the text says up to its first fault, in the order of
the text, and what the fault is. So a reader that goes through the tree from the left meets the same
obstacles in the same order as one that goes through the text. -/
namespace EntitySearch.Json

inductive ListEnding where
  | closed
  /-- The text ends. -/
  | cut
  /-- Something other than a comma or the end follows an item. -/
  | separator
  /-- The end follows a comma. -/
  | comma
  /-- The last item is itself not complete. -/
  | broken
deriving DecidableEq

inductive ObjectEnding where
  | closed
  /-- The text ends, but not after a comma. -/
  | cut
  /-- Something other than a comma or the end follows a member. -/
  | separator
  /-- The end follows a comma. -/
  | comma
  /-- The text ends after a comma. -/
  | commaCut
  /-- Something other than a quoted text stands for a key. -/
  | noKey
  /-- The quoted text that stands for a key is not complete. -/
  | brokenKey (key : Quoted)
  /-- The value of the last member is not complete. -/
  | broken
deriving DecidableEq

/-- A written value. Where the text breaks off or is at fault, the tree says how. -/
inductive Tree where
  | null
  | bool (value : Bool)
  | number (numeral : Numeral)
  | string (text : Quoted)
  | list (items : List Tree) (ending : ListEnding)
  | object (members : List (Quoted × Tree)) (ending : ObjectEnding)
  | fault (fault : Fault)

instance : Inhabited Tree := ⟨.null⟩

/-- The first value of a text, and whether something follows it. -/
structure Document where
  root : Tree
  surplus : Bool

/-- An open container. Its contents are kept last one first. -/
inductive Frame where
  | list (items : List Tree)
  | object (members : List (Quoted × Tree)) (key : Quoted)

/-- What the builder waits for inside its open containers. -/
inductive BuildState where
  /-- A value. -/
  | value (stack : List Frame)
  /-- The first item of a list, or its end. -/
  | firstItem (stack : List Frame)
  /-- An item after a comma. -/
  | nextItem (items : List Tree) (stack : List Frame)
  /-- The first key of an object, or its end. -/
  | firstKey (stack : List Frame)
  /-- A key after a comma. -/
  | nextKey (members : List (Quoted × Tree)) (stack : List Frame)
  /-- The colon after a key. -/
  | colon (members : List (Quoted × Tree)) (key : Quoted) (stack : List Frame)
  /-- What follows a complete value. -/
  | after (value : Tree) (stack : List Frame)

def abandon (value : Tree) : List Frame → Document
  | [] => ⟨value, false⟩
  | .list items :: stack => abandon (.list (value :: items).reverse .broken) stack
  | .object members key :: stack =>
    abandon (.object ((key, value) :: members).reverse .broken) stack

abbrev BuildStep := Except Document BuildState

def startValue (stack : List Frame) : Token → BuildStep
  | .null => .ok (.after .null stack)
  | .bool value => .ok (.after (.bool value) stack)
  | .number numeral => .ok (.after (.number numeral) stack)
  | .string text =>
    if text.ending = .closed then .ok (.after (.string text) stack)
    else .error (abandon (.string text) stack)
  | .listOpen => .ok (.firstItem stack)
  | .objectOpen => .ok (.firstKey stack)
  | .fault fault => .error (abandon (.fault fault) stack)
  | .listClose | .objectClose | .comma | .colon => .error (abandon (.fault .unexpected) stack)

def startKey (members : List (Quoted × Tree)) (stack : List Frame) : Token → BuildStep
  | .string text =>
    if text.ending = .closed then .ok (.colon members text stack)
    else .error (abandon (.object members.reverse (.brokenKey text)) stack)
  | _ => .error (abandon (.object members.reverse .noKey) stack)

def continueAfter (value : Tree) : List Frame → Token → BuildStep
  | [], _ => .error ⟨value, true⟩
  | .list items :: stack, .comma => .ok (.nextItem (value :: items) stack)
  | .list items :: stack, .listClose =>
    .ok (.after (.list (value :: items).reverse .closed) stack)
  | .list items :: stack, _ => .error (abandon (.list (value :: items).reverse .separator) stack)
  | .object members key :: stack, .comma => .ok (.nextKey ((key, value) :: members) stack)
  | .object members key :: stack, .objectClose =>
    .ok (.after (.object ((key, value) :: members).reverse .closed) stack)
  | .object members key :: stack, _ =>
    .error (abandon (.object ((key, value) :: members).reverse .separator) stack)

def BuildState.step : BuildState → Token → BuildStep
  | .value stack, token => startValue stack token
  | .firstItem stack, .listClose => .ok (.after (.list [] .closed) stack)
  | .firstItem stack, token => startValue (.list [] :: stack) token
  | .nextItem items stack, .listClose => .error (abandon (.list items.reverse .comma) stack)
  | .nextItem items stack, token => startValue (.list items :: stack) token
  | .firstKey stack, .objectClose => .ok (.after (.object [] .closed) stack)
  | .firstKey stack, token => startKey [] stack token
  | .nextKey members stack, .objectClose =>
    .error (abandon (.object members.reverse .comma) stack)
  | .nextKey members stack, token => startKey members stack token
  | .colon members key stack, .colon => .ok (.value (.object members key :: stack))
  | .colon members key stack, _ =>
    .error (abandon (.fault .colonMissing) (.object members key :: stack))
  | .after tree stack, token => continueAfter tree stack token

def BuildState.finish : BuildState → Document
  | .value stack => abandon (.fault .cut) stack
  | .firstItem stack => abandon (.list [] .cut) stack
  | .nextItem items stack => abandon (.fault .cut) (.list items :: stack)
  | .firstKey stack => abandon (.object [] .cut) stack
  | .nextKey members stack => abandon (.object members.reverse .commaCut) stack
  | .colon members key stack => abandon (.fault .colonCut) (.object members key :: stack)
  | .after tree [] => ⟨tree, false⟩
  | .after tree (.list items :: stack) => abandon (.list (tree :: items).reverse .cut) stack
  | .after tree (.object members key :: stack) =>
    abandon (.object ((key, tree) :: members).reverse .cut) stack

def BuildState.build (state : BuildState) : List Token → Document
  | [] => state.finish
  | token :: rest =>
    match state.step token with
    | .ok state => state.build rest
    | .error document => document

def Document.ofTokens (tokens : List Token) : Document :=
  (BuildState.value []).build tokens

def Document.ofText (text : String) : Document :=
  .ofTokens (tokens text.toList)

end EntitySearch.Json
