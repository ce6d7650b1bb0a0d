import EntitySearch.Unicode.Table

/-! Blank characters: the property White_Space of Unicode 17.0, and what it means for a text to be
blank or trimmed. -/
namespace EntitySearch.Unicode

/-- Characters with the property White_Space. -/
def blankSpans : Table Span := [
  ⟨0x200A, [
    ⟨0x9, 0xD⟩, ⟨0x20, 0x20⟩, ⟨0x85, 0x85⟩, ⟨0xA0, 0xA0⟩, ⟨0x1680, 0x1680⟩, ⟨0x2000, 0x200A⟩]⟩,
  ⟨0x3000, [
    ⟨0x2028, 0x2029⟩, ⟨0x202F, 0x202F⟩, ⟨0x205F, 0x205F⟩, ⟨0x3000, 0x3000⟩]⟩]

def isBlank (c : Char) : Bool :=
  blankSpans.covers c

def trim (cs : List Char) : List Char :=
  ((cs.dropWhile isBlank).reverse.dropWhile isBlank).reverse

def isBlankText (text : String) : Bool :=
  text.toList.all isBlank

end EntitySearch.Unicode
