import EntitySearch.Unicode.CombiningClass
import EntitySearch.Unicode.Decomposition

/-! Canonical decomposition of a text: every character is taken apart, then the marks that follow a
starter are sorted by combining class. Marks of one class keep their order, and no mark passes a
starter. -/
namespace EntitySearch.Unicode

/-- The consonant, the vowel and, where there is one, the final consonant of a Hangul syllable. -/
def hangulParts? (code : Nat) : Option (List Nat) :=
  if 0xAC00 ≤ code && code ≤ 0xD7A3 then
    let index := code - 0xAC00
    let lv := [0x1100 + index / 588, 0x1161 + index % 588 / 28]
    some (if index % 28 = 0 then lv else lv ++ [0x11A7 + index % 28])
  else
    none

def listedParts? (code : Nat) : Option (List Nat) :=
  ((Table.page (decompositions.page code) code).find? (·.code.beq code)).map (·.parts)

/-- Full canonical decomposition. The algorithmic rule for Hangul comes before the table. -/
def decompose (c : Char) : List Char :=
  match (hangulParts? c.toNat).or (listedParts? c.toNat) with
  | some parts => parts.map Char.ofNat
  | none => [c]

/-- Insertion step of the canonical ordering. The character moves behind those of smaller nonzero
class. -/
def settle (x : Nat × Char) : List (Nat × Char) → List (Nat × Char)
  | [] => [x]
  | y :: rest => if 0 < y.1 && y.1 < x.1 then y :: settle x rest else x :: y :: rest

/-- Canonical ordering: stable within each run of characters of nonzero class. -/
def reorder (cs : List Char) : List Char :=
  ((cs.map fun c => (combiningClass c, c)).foldr settle []).map Prod.snd

/-- Normalization form D: full decomposition, then canonical ordering. -/
def nfd (cs : List Char) : List Char :=
  reorder (cs.flatMap decompose)

end EntitySearch.Unicode
