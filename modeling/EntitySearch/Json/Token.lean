import EntitySearch.Number.Numeral

/-! The tokens of JSON text. Scanning never fails: a text that goes wrong ends in a token that says
how. Whether a value may stand where it stands is not decided here, and neither is whether the
characters of a quoted text make sense together. -/
namespace EntitySearch.Json

/-- A piece of a quoted text: a character, written out or behind a backslash, or a code unit of 16
bits in hexadecimal. -/
inductive Piece where
  | char (c : Char)
  | unit (value : Nat)
deriving DecidableEq

/-- How a quoted text ends: by a quote, at the end of the text, at a control character, at a
backslash that starts no escape, or at a code unit that is not hexadecimal. -/
inductive Ending where
  | closed
  | cut
  | control
  | badEscape
  | badUnit
deriving DecidableEq

structure Quoted where
  pieces : List Piece
  ending : Ending
deriving DecidableEq

/-- Why a value stops before its end, quoted texts excepted. -/
inductive Fault where
  /-- The text ends. -/
  | cut
  /-- No value starts like this. -/
  | unexpected
  /-- A word that starts like one of the three goes on otherwise. -/
  | misspelt
  /-- The text ends inside a numeral. -/
  | numeralCut
  /-- A numeral lacks digits or has a zero in front of them. -/
  | numeralMalformed
  /-- A key is not followed by a colon. -/
  | colonMissing
  /-- The text ends after a key. -/
  | colonCut
deriving DecidableEq

inductive Token where
  | null
  | bool (value : Bool)
  | number (numeral : Numeral)
  | string (text : Quoted)
  | listOpen
  | listClose
  | objectOpen
  | objectClose
  | comma
  | colon
  | fault (fault : Fault)
deriving DecidableEq

inductive NumeralStage where
  | sign
  | zero
  | whole
  | point
  | fraction
  | mark
  | markSign
  | exponent
deriving DecidableEq

/-- State of the scanner. Pieces and digits are collected last one first. -/
inductive ScanMode where
  | between
  | word (rest : List Char) (token : Token)
  | quoted (pieces : List Piece)
  | escape (pieces : List Piece)
  | unit (pieces : List Piece) (digits : List Nat)
  | numeral (stage : NumeralStage) (draft : Numeral)

/-- The scanner goes on, perhaps after some tokens, or it stops. -/
inductive ScanStep where
  | next (mode : ScanMode)
  | yield (tokens : List Token) (mode : ScanMode)
  | stop (tokens : List Token)

def decimalDigit? (c : Char) : Option Nat :=
  if '0' ≤ c ∧ c ≤ '9' then some (c.toNat - '0'.toNat) else none

def hexDigit? (c : Char) : Option Nat :=
  if '0' ≤ c ∧ c ≤ '9' then some (c.toNat - '0'.toNat)
  else if 'a' ≤ c ∧ c ≤ 'f' then some (c.toNat - 'a'.toNat + 10)
  else if 'A' ≤ c ∧ c ≤ 'F' then some (c.toNat - 'A'.toNat + 10)
  else none

def isGap (c : Char) : Bool :=
  c == ' ' || c == '\n' || c == '\t' || c == '\r'

def unescape? (c : Char) : Option Char :=
  if c = '"' ∨ c = '\\' ∨ c = '/' then some c
  else if c = 'b' then some '\x08'
  else if c = 'f' then some '\x0c'
  else if c = 'n' then some '\n'
  else if c = 'r' then some '\r'
  else if c = 't' then some '\t'
  else none

def finishNumeral (draft : Numeral) : Numeral :=
  { draft with
    whole := draft.whole.reverse
    fraction := draft.fraction.map List.reverse
    exponent := draft.exponent.map fun (minus, digits) => (minus, digits.reverse) }

def scanStart (c : Char) : ScanStep :=
  if isGap c then .next .between
  else if c = '"' then .next (.quoted [])
  else if c = '[' then .yield [.listOpen] .between
  else if c = ']' then .yield [.listClose] .between
  else if c = '\x7b' then .yield [.objectOpen] .between
  else if c = '\x7d' then .yield [.objectClose] .between
  else if c = ',' then .yield [.comma] .between
  else if c = ':' then .yield [.colon] .between
  else if c = 'n' then .next (.word ['u', 'l', 'l'] .null)
  else if c = 't' then .next (.word ['r', 'u', 'e'] (.bool true))
  else if c = 'f' then .next (.word ['a', 'l', 's', 'e'] (.bool false))
  else if c = '-' then .next (.numeral .sign ⟨true, [], none, none⟩)
  else match decimalDigit? c with
    | some 0 => .next (.numeral .zero ⟨false, [0], none, none⟩)
    | some d => .next (.numeral .whole ⟨false, [d], none, none⟩)
    | none => .stop [.fault .unexpected]

/-- A character that is no part of the numeral ends it and is scanned again between tokens. -/
def numeralEnd (draft : Numeral) (c : Char) : ScanStep :=
  let token := Token.number (finishNumeral draft)
  match scanStart c with
  | .next mode => .yield [token] mode
  | .yield tokens mode => .yield (token :: tokens) mode
  | .stop tokens => .stop (token :: tokens)

def pushExponent (draft : Numeral) (d : Nat) : Numeral :=
  { draft with exponent := draft.exponent.map fun (minus, digits) => (minus, d :: digits) }

/-- A second digit after a leading zero is malformed. -/
def numeralStep (stage : NumeralStage) (draft : Numeral) (c : Char) : ScanStep :=
  let malformed := ScanStep.stop [.fault .numeralMalformed]
  let point := ScanStep.next (.numeral .point { draft with fraction := some [] })
  let mark := ScanStep.next (.numeral .mark { draft with exponent := some (false, []) })
  match stage, decimalDigit? c with
  | .sign, some 0 => .next (.numeral .zero { draft with whole := [0] })
  | .sign, some d => .next (.numeral .whole { draft with whole := [d] })
  | .sign, none => malformed
  | .zero, some _ => malformed
  | .whole, some d => .next (.numeral .whole { draft with whole := d :: draft.whole })
  | .zero, none | .whole, none =>
    if c = '.' then point else if c = 'e' ∨ c = 'E' then mark else numeralEnd draft c
  | .point, some d | .fraction, some d =>
    .next (.numeral .fraction { draft with fraction := draft.fraction.map (d :: ·) })
  | .point, none => malformed
  | .fraction, none => if c = 'e' ∨ c = 'E' then mark else numeralEnd draft c
  | .mark, some d | .markSign, some d | .exponent, some d =>
    .next (.numeral .exponent (pushExponent draft d))
  | .mark, none =>
    if c = '+' then .next (.numeral .markSign draft)
    else if c = '-' then .next (.numeral .markSign { draft with exponent := some (true, []) })
    else malformed
  | .markSign, none => malformed
  | .exponent, none => numeralEnd draft c

/-- A code unit needs four bytes of text. With fewer of them left the text counts as cut, even
where what is left is not hexadecimal. -/
def brokenUnit (seen : Nat) (rest : List Char) : Ending :=
  if 4 ≤ seen + (String.ofList rest).utf8ByteSize then .badUnit else .cut

/-- Effect of the next character; `rest` begins with it. -/
def ScanMode.step (mode : ScanMode) (c : Char) (rest : List Char) : ScanStep :=
  match mode with
  | .between => scanStart c
  | .word [] token => .yield [token] .between
  | .word [last] token =>
    if c = last then .yield [token] .between else .stop [.fault .misspelt]
  | .word (next :: more) token =>
    if c = next then .next (.word more token) else .stop [.fault .misspelt]
  | .quoted pieces =>
    if c = '"' then .yield [.string ⟨pieces.reverse, .closed⟩] .between
    else if c = '\\' then .next (.escape pieces)
    else if c.toNat < 0x20 then .stop [.string ⟨pieces.reverse, .control⟩]
    else .next (.quoted (.char c :: pieces))
  | .escape pieces =>
    if c = 'u' then .next (.unit pieces [])
    else match unescape? c with
      | some character => .next (.quoted (.char character :: pieces))
      | none => .stop [.string ⟨pieces.reverse, .badEscape⟩]
  | .unit pieces digits =>
    match hexDigit? c with
    | some d =>
      if digits.length = 3 then
        .next (.quoted (.unit ((d :: digits).foldr (fun d n => 16 * n + d) 0) :: pieces))
      else
        .next (.unit pieces (d :: digits))
    | none => .stop [.string ⟨pieces.reverse, brokenUnit digits.length rest⟩]
  | .numeral stage draft => numeralStep stage draft c

def ScanMode.finish : ScanMode → List Token
  | .between => []
  | .word _ _ => [.fault .cut]
  | .quoted pieces | .escape pieces | .unit pieces _ => [.string ⟨pieces.reverse, .cut⟩]
  | .numeral .sign _ | .numeral .point _ | .numeral .mark _ | .numeral .markSign _ =>
    [.fault .numeralCut]
  | .numeral _ draft => [.number (finishNumeral draft)]

def ScanMode.scan (mode : ScanMode) : List Char → List Token
  | [] => mode.finish
  | c :: rest =>
    match mode.step c (c :: rest) with
    | .next mode => mode.scan rest
    | .yield tokens mode => tokens ++ mode.scan rest
    | .stop tokens => tokens

def tokens (text : List Char) : List Token :=
  ScanMode.between.scan text

end EntitySearch.Json
