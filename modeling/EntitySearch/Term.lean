import EntitySearch.Unicode.Canonical
import EntitySearch.Unicode.Lowercase
import EntitySearch.Unicode.Mark

/-! Search terms. A term is lower-cased and folded to plain letters before it is searched for, so
that spellings which differ only in case or accents find the same documents. Characters without a
plain counterpart stay as they are. -/
namespace EntitySearch.Term

open EntitySearch.Unicode

/-- Plain spellings of letters, ligatures and punctuation that canonical decomposition leaves
whole. -/
def spellings : List (Char × List Char) := [
  ('ß', ['s', 's']), ('ẞ', ['S', 'S']),
  ('æ', ['a', 'e']), ('Æ', ['A', 'E']), ('œ', ['o', 'e']), ('Œ', ['O', 'E']),
  ('ø', ['o']), ('Ø', ['O']),
  ('đ', ['d']), ('ð', ['d']), ('Đ', ['D']), ('Ð', ['D']),
  ('ł', ['l']), ('ŀ', ['l']), ('Ł', ['L']), ('Ŀ', ['L']),
  ('þ', ['t', 'h']), ('Þ', ['T', 'H']),
  ('ħ', ['h']), ('Ħ', ['H']), ('ŋ', ['n']), ('Ŋ', ['N']), ('ŧ', ['t']), ('Ŧ', ['T']),
  ('ı', ['i']), ('ſ', ['s']), ('ĳ', ['i', 'j']), ('Ĳ', ['I', 'J']),
  ('ﬀ', ['f', 'f']), ('ﬁ', ['f', 'i']), ('ﬂ', ['f', 'l']),
  ('ﬃ', ['f', 'f', 'i']), ('ﬄ', ['f', 'f', 'l']), ('ﬆ', ['s', 't']),
  ('\u2018', ['\'']), ('\u2019', ['\'']), ('\u201A', ['\'']), ('\u2032', ['\'']),
  ('\u201C', ['"']), ('\u201D', ['"']), ('\u201E', ['"']), ('\u2033', ['"']),
  ('\u2010', ['-']), ('\u2011', ['-']), ('\u2012', ['-']), ('\u2013', ['-']), ('\u2014', ['-']),
  ('\u00A0', [' '])]

def spell (c : Char) : List Char :=
  (spellings.lookup c).getD [c]

/-- Decomposes a text, drops its marks and spells the rest in plain letters. -/
def foldChars (cs : List Char) : List Char :=
  ((nfd cs).filter (!isMark ·)).flatMap spell

def asciiFold (text : String) : String :=
  String.ofList (foldChars text.toList)

/-- Lower-cases first and folds then. The order matters for some capital sigmas. -/
def normalize (term : String) : String :=
  asciiFold (String.ofList (lowercase term.toList))

def isNormalized (term : String) : Bool :=
  normalize term == term

end EntitySearch.Term
