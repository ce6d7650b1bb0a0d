import EntitySearch.Unicode.Visible

/-! Names in quotes, as messages show them. What cannot be seen on its own is written by its code
point. -/
namespace EntitySearch

def displayChar (c : Char) : List Char :=
  if c = '\x00' then ['\\', '0']
  else if c = '\t' then ['\\', 't']
  else if c = '\r' then ['\\', 'r']
  else if c = '\n' then ['\\', 'n']
  else if c = '"' ∨ c = '\\' then ['\\', c]
  else if Unicode.isVisible c then [c]
  else ['\\', 'u', '\x7b'] ++ Nat.toDigits 16 c.toNat ++ ['\x7d']

def quoted (name : String) : String :=
  String.ofList ('"' :: name.toList.flatMap displayChar ++ ['"'])

end EntitySearch
