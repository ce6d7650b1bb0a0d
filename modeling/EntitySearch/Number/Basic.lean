import EntitySearch.Number.Binary64

/-! Numbers of a value: integers that fit a machine word, signed or unsigned, and doubles. An
integer and a double are never the same number here, even where they have the same magnitude. -/
namespace EntitySearch

/-- The integers of a signed or an unsigned word of 64 bits. -/
structure WordInt where
  value : Int
  lower : -0x8000000000000000 ≤ value
  upper : value < 0x10000000000000000
deriving DecidableEq

def WordInt.ofUInt64 (n : UInt64) : WordInt :=
  ⟨n.toNat, by omega, by have := n.toNat_lt; omega⟩

def WordInt.toUInt64? (n : WordInt) : Option UInt64 :=
  if 0 ≤ n.value then some (UInt64.ofNat n.value.toNat) else none

inductive Number where
  | integer (value : WordInt)
  | float (value : Binary64)
deriving DecidableEq

def Number.ofUInt64 (n : UInt64) : Number :=
  .integer (.ofUInt64 n)

end EntitySearch
