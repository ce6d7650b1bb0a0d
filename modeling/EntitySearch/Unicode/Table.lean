/-! Tables of character properties. The rows of a table are sorted by code point and cut into
pages; a search skips whole pages by their last code point and then reads the rows of one. What a
search finds is always a row of the table. That it finds every row rests on the sorting. -/
namespace EntitySearch.Unicode

/-- Some consecutive rows of a table, with the greatest code point that they speak of. -/
structure Page (α : Type) where
  last : Nat
  rows : List α

abbrev Table (α : Type) := List (Page α)

structure Span where
  first : Nat
  last : Nat

def Span.contains (span : Span) (code : Nat) : Bool :=
  span.first.ble code && code.ble span.last

namespace Table

variable {α : Type}

def rows (table : Table α) : List α :=
  table.flatMap Page.rows

/-- The rows of the first page that reaches `code`; in a sorted table no other page speaks of it. -/
def page (table : Table α) (code : Nat) : List α :=
  match table with
  | [] => []
  | p :: rest => bif code.ble p.last then p.rows else page rest code

theorem mem_rows_of_mem_page {table : Table α} {code : Nat} {row : α}
    (h : row ∈ table.page code) : row ∈ table.rows := by
  induction table with
  | nil => simp [page] at h
  | cons p rest ih =>
    rw [page] at h
    cases hc : code.ble p.last
    · have := ih (by simpa [hc] using h)
      simp only [rows, List.flatMap_cons, List.mem_append] at this ⊢
      exact Or.inr this
    · have : row ∈ p.rows := by simpa [hc] using h
      simp [rows, this]

def covers (table : Table Span) (c : Char) : Bool :=
  (table.page c.toNat).any (·.contains c.toNat)

/-- A covered code point lies in some row of the table. -/
theorem exists_span_of_covers {table : Table Span} {c : Char} (h : table.covers c = true) :
    ∃ span ∈ table.rows, span.first ≤ c.toNat ∧ c.toNat ≤ span.last := by
  obtain ⟨span, hmem, hspan⟩ := List.any_eq_true.mp h
  simp only [Span.contains, Bool.and_eq_true, Nat.ble_eq] at hspan
  exact ⟨span, mem_rows_of_mem_page hmem, hspan⟩

end Table

end EntitySearch.Unicode
