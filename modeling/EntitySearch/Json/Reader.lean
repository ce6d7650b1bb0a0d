import EntitySearch.Json.Basic
import EntitySearch.Json.Tree

/-! Reading a value from its tree, and skipping one. A reader takes every character and number at
its word and enters at most 127 containers inside one another. Skipping asks only that the text has
the form of a value, and words some complaints differently. -/
namespace EntitySearch.Json

inductive Malformed where
  | valueCut
  | listCut
  | objectCut
  | stringCut
  | expectedValue
  | expectedWord
  | expectedColon
  | expectedListSeparator
  | expectedObjectSeparator
  | keyNotString
  | trailingComma
  | trailingCharacters
  | invalidNumber
  | numberOutOfRange
  | invalidEscape
  | controlCharacter
  | loneSurrogate
  | surrogateWithoutPartner
  | tooDeep
deriving DecidableEq

/-- Readers keep no positions. The suffix ` at line L column C` that a complaint about a text ends
in is left out. -/
def Malformed.message : Malformed → String
  | .valueCut => "EOF while parsing a value"
  | .listCut => "EOF while parsing a list"
  | .objectCut => "EOF while parsing an object"
  | .stringCut => "EOF while parsing a string"
  | .expectedValue => "expected value"
  | .expectedWord => "expected ident"
  | .expectedColon => "expected `:`"
  | .expectedListSeparator => "expected `,` or `]`"
  | .expectedObjectSeparator => "expected `,` or `\x7d`"
  | .keyNotString => "key must be a string"
  | .trailingComma => "trailing comma"
  | .trailingCharacters => "trailing characters"
  | .invalidNumber => "invalid number"
  | .numberOutOfRange => "number out of range"
  | .invalidEscape => "invalid escape"
  | .controlCharacter => "control character (\\u0000-\\u001F) found while parsing a string"
  | .loneSurrogate => "lone leading surrogate in hex escape"
  | .surrogateWithoutPartner => "unexpected end of hex escape"
  | .tooDeep => "recursion limit exceeded"

def depthLimit : Nat := 127

def Ending.check : Ending → Except Malformed Unit
  | .closed => .ok ()
  | .cut => .error .stringCut
  | .control => .error .controlCharacter
  | .badEscape | .badUnit => .error .invalidEscape

/-- The complaint about a high surrogate after which the text ends. What the end cuts short could
still have been a partner; a control character or another escape could not. -/
def Ending.checkSurrogate : Ending → Malformed
  | .cut => .stringCut
  | .badUnit => .invalidEscape
  | .closed | .control | .badEscape => .surrogateWithoutPartner

/-- Characters of the pieces. A high and a low surrogate make one character, in this order only. -/
def readPieces (ending : Ending) : List Piece → Except Malformed (List Char)
  | [] => do
    ending.check
    return []
  | .char c :: rest => do
    return c :: (← readPieces ending rest)
  | .unit high :: rest =>
    if 0xDC00 ≤ high ∧ high ≤ 0xDFFF then
      .error .loneSurrogate
    else if 0xD800 ≤ high ∧ high ≤ 0xDBFF then
      match rest with
      | .unit low :: rest =>
        if 0xDC00 ≤ low ∧ low ≤ 0xDFFF then do
          let c := Char.ofNat (0x10000 + (high - 0xD800) * 0x400 + (low - 0xDC00))
          return c :: (← readPieces ending rest)
        else
          .error .loneSurrogate
      | .char _ :: _ => .error .surrogateWithoutPartner
      | [] => .error ending.checkSurrogate
    else do
      return Char.ofNat high :: (← readPieces ending rest)

def Quoted.read (text : Quoted) : Except Malformed String := do
  return String.ofList (← readPieces text.ending text.pieces)

def Quoted.skip (text : Quoted) : Except Malformed Unit :=
  text.ending.check

def readNumber (numeral : Numeral) : Except Malformed Number :=
  match numeral.number? with
  | some value => .ok value
  | none => .error .numberOutOfRange

def Fault.onReading : Fault → Malformed
  | .cut | .numeralCut => .valueCut
  | .unexpected => .expectedValue
  | .misspelt => .expectedWord
  | .numeralMalformed => .invalidNumber
  | .colonMissing => .expectedColon
  | .colonCut => .objectCut

/-- As on reading, but a numeral that the text cuts short is a malformed one. -/
def Fault.onSkipping : Fault → Malformed
  | .numeralCut => .invalidNumber
  | fault => fault.onReading

/-- A broken item is not reported here, since reading it has failed already. -/
def ListEnding.check : ListEnding → Except Malformed Unit
  | .closed | .broken => .ok ()
  | .cut => .error .listCut
  | .separator => .error .expectedListSeparator
  | .comma => .error .trailingComma

def ListEnding.checkSkipped : ListEnding → Except Malformed Unit
  | .comma => .error .expectedValue
  | ending => ending.check

def ObjectEnding.check : ObjectEnding → Except Malformed Unit
  | .closed | .broken => .ok ()
  | .cut => .error .objectCut
  | .separator => .error .expectedObjectSeparator
  | .comma => .error .trailingComma
  | .commaCut => .error .valueCut
  | .noKey => .error .keyNotString
  | .brokenKey key => do let _ ← key.read

def ObjectEnding.checkSkipped : ObjectEnding → Except Malformed Unit
  | .comma => .error .keyNotString
  | .commaCut => .error .objectCut
  | .brokenKey key => key.skip
  | ending => ending.check

mutual

/-- Reads a tree with `room` for that many nested containers. Keys may repeat in the result. -/
def Tree.read (room : Nat) : Tree → Except Malformed Json
  | .null => .ok .null
  | .bool value => .ok (.bool value)
  | .number numeral => do return .number (← readNumber numeral)
  | .string text => do return .string (← text.read)
  | .fault cause => .error cause.onReading
  | .list items ending =>
    match room with
    | 0 => .error .tooDeep
    | room + 1 => do
      let values ← readItems room items
      ending.check
      return .array values
  | .object members ending =>
    match room with
    | 0 => .error .tooDeep
    | room + 1 => do
      let values ← readMembers room members
      ending.check
      return .object values

def readItems (room : Nat) : List Tree → Except Malformed (List Json)
  | [] => .ok []
  | item :: rest => do
    let value ← item.read room
    return value :: (← readItems room rest)

def readMembers (room : Nat) : List (Quoted × Tree) → Except Malformed (List (String × Json))
  | [] => .ok []
  | (key, item) :: rest => do
    let name ← key.read
    let value ← item.read room
    return (name, value) :: (← readMembers room rest)

end

mutual

/-- Passes over a tree at any depth. Texts and numbers are not decoded. -/
def Tree.skip : Tree → Except Malformed Unit
  | .null | .bool _ | .number _ => .ok ()
  | .string text => text.skip
  | .fault cause => .error cause.onSkipping
  | .list items ending => do
    skipItems items
    ending.checkSkipped
  | .object members ending => do
    skipMembers members
    ending.checkSkipped

def skipItems : List Tree → Except Malformed Unit
  | [] => .ok ()
  | item :: rest => do
    item.skip
    skipItems rest

def skipMembers : List (Quoted × Tree) → Except Malformed Unit
  | [] => .ok ()
  | (key, item) :: rest => do
    key.skip
    item.skip
    skipMembers rest

end

/-- Reads a whole text. Repeated keys are merged after reading. -/
def parse (text : String) : Except Malformed Json := do
  let document := Document.ofText text
  let value ← document.root.read depthLimit
  if document.surplus then .error .trailingCharacters else return value.collapse

end EntitySearch.Json
