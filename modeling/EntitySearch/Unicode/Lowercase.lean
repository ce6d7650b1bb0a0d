import EntitySearch.Unicode.Cased
import EntitySearch.Unicode.LowercaseRun

/-! Lower-casing of a text. One letter depends on its neighbours: a capital sigma becomes the final
form at the end of a word. -/
namespace EntitySearch.Unicode

/-- Full lower-case mapping without context. -/
def lowercaseChar (c : Char) : List Char :=
  if c = '\u0130' then
    ['i', '\u0307']
  else
    match (lowercaseRuns.page c.toNat).findSome? (·.lower? c.toNat) with
    | some image => [Char.ofNat image]
    | none => [c]

/-- The first character that is not case-ignorable is cased. -/
def facesLetter (cs : List Char) : Bool :=
  match cs.dropWhile isCaseIgnorable with
  | [] => false
  | c :: _ => isCased c

/-- Rule of Final_Sigma, with the text before it read backwards: final behind a letter and before
none. -/
def lowercaseSigma (before after : List Char) : Char :=
  if facesLetter before && !facesLetter after then 'ς' else 'σ'

/-- Lower-cases the rest of a text of which `before` has been read, last character first. -/
def lowercaseFrom (before : List Char) : List Char → List Char
  | [] => []
  | c :: rest =>
    (if c = 'Σ' then [lowercaseSigma before rest] else lowercaseChar c) ++
      lowercaseFrom (c :: before) rest

def lowercase (cs : List Char) : List Char :=
  lowercaseFrom [] cs

end EntitySearch.Unicode
