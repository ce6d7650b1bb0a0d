/-! Searchable fields of an entity. -/
namespace EntitySearch

inductive FieldKind where
  /-- Analysed words; these fields take part in text search. -/
  | text
  /-- One exact value. -/
  | keyword
  /-- True or false. -/
  | boolean
deriving DecidableEq

namespace FieldKind

def name : FieldKind → String
  | .text => "text"
  | .keyword => "keyword"
  | .boolean => "boolean"

def ofName? (name : String) : Option FieldKind :=
  if name = "text" then some .text
  else if name = "keyword" then some .keyword
  else if name = "boolean" then some .boolean
  else none

theorem ofName?_name (kind : FieldKind) : ofName? kind.name = some kind := by
  cases kind <;> decide

/-- A kind is recognised exactly by its own name, so reading inverts printing. -/
theorem ofName?_eq_some_iff {name : String} {kind : FieldKind} :
    ofName? name = some kind ↔ name = kind.name := by
  constructor
  · intro h
    unfold ofName? at h
    split at h
    · cases h
      assumption
    · split at h
      · cases h
        assumption
      · split at h
        · cases h
          assumption
        · cases h
  · rintro rfl
    exact ofName?_name kind

end FieldKind

/-- A field of the indexed documents. With `prefixes` the index also finds the beginnings of its
words. -/
structure SearchField where
  name : String
  kind : FieldKind
  prefixes : Bool
deriving DecidableEq

def SearchField.describe (field : SearchField) : String :=
  field.name ++ ":" ++ (field.kind.name ++ if field.prefixes then "+prefix" else "")

end EntitySearch
