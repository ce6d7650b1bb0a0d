import EntitySearch.Json.Basic
import EntitySearch.Number.Shortest

/-! JSON text of values, compact or indented. Text is written as a list of characters; nothing but
quotes, backslashes and control characters is escaped. -/
namespace EntitySearch.Json

def hexDigit (n : Nat) : Char :=
  Nat.digitChar n

/-- A character as it stands between quotes. -/
def escapeChar (c : Char) : List Char :=
  if c = '"' then ['\\', '"']
  else if c = '\\' then ['\\', '\\']
  else if c = '\x08' then ['\\', 'b']
  else if c = '\x0c' then ['\\', 'f']
  else if c = '\n' then ['\\', 'n']
  else if c = '\r' then ['\\', 'r']
  else if c = '\t' then ['\\', 't']
  else if c.toNat < 0x20 then ['\\', 'u', '0', '0', hexDigit (c.toNat / 16), hexDigit (c.toNat % 16)]
  else [c]

def quoteChars (text : String) : List Char :=
  '"' :: text.toList.flatMap escapeChar ++ ['"']

mutual

def chars : Json → List Char
  | .null => ['n', 'u', 'l', 'l']
  | .bool true => ['t', 'r', 'u', 'e']
  | .bool false => ['f', 'a', 'l', 's', 'e']
  | .number n => n.text
  | .string s => quoteChars s
  | .array items => '[' :: itemsChars items ++ [']']
  | .object members => '\x7b' :: membersChars members ++ ['\x7d']

def itemsChars : List Json → List Char
  | [] => []
  | [item] => item.chars
  | item :: rest => item.chars ++ ',' :: itemsChars rest

def membersChars : List (String × Json) → List Char
  | [] => []
  | [(key, value)] => quoteChars key ++ ':' :: value.chars
  | (key, value) :: rest => quoteChars key ++ ':' :: value.chars ++ ',' :: membersChars rest

end

def compact (value : Json) : String :=
  String.ofList value.chars

def newline (level : Nat) : List Char :=
  '\n' :: List.replicate (2 * level) ' '

mutual

def indentedChars (level : Nat) : Json → List Char
  | .array (item :: rest) =>
    '[' :: newline (level + 1) ++ item.indentedChars (level + 1) ++
      indentedItems (level + 1) rest ++ newline level ++ [']']
  | .object ((key, value) :: rest) =>
    '\x7b' :: newline (level + 1) ++ quoteChars key ++ ':' :: ' ' ::
      value.indentedChars (level + 1) ++ indentedMembers (level + 1) rest ++ newline level ++ ['\x7d']
  | .null => chars .null
  | .bool value => chars (.bool value)
  | .number n => n.text
  | .string s => quoteChars s
  | .array [] => ['[', ']']
  | .object [] => ['\x7b', '\x7d']

def indentedItems (level : Nat) : List Json → List Char
  | [] => []
  | item :: rest => ',' :: newline level ++ item.indentedChars level ++ indentedItems level rest

def indentedMembers (level : Nat) : List (String × Json) → List Char
  | [] => []
  | (key, value) :: rest =>
    ',' :: newline level ++ quoteChars key ++ ':' :: ' ' :: value.indentedChars level ++
      indentedMembers level rest

end

def indented (value : Json) : String :=
  String.ofList (value.indentedChars 0)

end EntitySearch.Json
