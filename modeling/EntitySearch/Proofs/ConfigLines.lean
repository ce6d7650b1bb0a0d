import Mathlib.Data.List.Basic
import EntitySearch.EntityConfig

/-! Lines about configurations, read as a code. Tabs separate entity, index and fields, and blanks
separate the fields. A line determines the whole configuration as long as no name contains the
separator that ends it. -/
namespace EntitySearch

section Cut

variable {α : Type} {x : α} {xs ys zs ws : List α}

/-- A separator absent from both prefixes determines where each list is cut. The rest may contain
it. -/
theorem append_cons_inj_of_not_mem_left (hx : x ∉ xs) (hy : x ∉ ys) :
    xs ++ x :: zs = ys ++ x :: ws ↔ xs = ys ∧ zs = ws := by
  constructor
  · intro h
    induction xs generalizing ys with
    | nil =>
        cases ys with
        | nil => exact ⟨rfl, (List.cons.inj h).2⟩
        | cons y ys => exact absurd (List.cons.inj h).1 (List.ne_of_not_mem_cons hy)
    | cons first xs ih =>
        cases ys with
        | nil => exact absurd (List.cons.inj h).1.symm (List.ne_of_not_mem_cons hx)
        | cons y ys =>
            obtain ⟨rfl, hRest⟩ := List.cons.inj h
            obtain ⟨rfl, hEnd⟩ :=
              ih (List.not_mem_of_not_mem_cons hx) (List.not_mem_of_not_mem_cons hy) hRest
            exact ⟨rfl, hEnd⟩
  · rintro ⟨rfl, rfl⟩
    rfl

/-- A separator absent from both suffixes determines the cut from the other end. -/
theorem append_cons_inj_of_not_mem_right (hz : x ∉ zs) (hw : x ∉ ws) :
    xs ++ x :: zs = ys ++ x :: ws ↔ xs = ys ∧ zs = ws := by
  rw [← List.reverse_inj, List.reverse_append, List.reverse_append, List.reverse_cons,
    List.reverse_cons, List.append_assoc, List.append_assoc, List.singleton_append,
    List.singleton_append,
    append_cons_inj_of_not_mem_left (mt List.mem_reverse.mp hz) (mt List.mem_reverse.mp hw),
    List.reverse_inj, List.reverse_inj, and_comm]

/-- Pieces that each end with one separator, and do not contain it before, are determined by their
concatenation. -/
theorem flatMap_append_separator_inj {pieces others : List (List α)}
    (hPieces : ∀ piece ∈ pieces, x ∉ piece) (hOthers : ∀ piece ∈ others, x ∉ piece) :
    pieces.flatMap (· ++ [x]) = others.flatMap (· ++ [x]) ↔ pieces = others := by
  constructor
  · intro h
    induction pieces generalizing others with
    | nil =>
        cases others with
        | nil => rfl
        | cons other others => simp at h
    | cons piece pieces ih =>
        cases others with
        | nil => simp at h
        | cons other others =>
            obtain ⟨hPiece, hPieces⟩ := List.forall_mem_cons.mp hPieces
            obtain ⟨hOther, hOthers⟩ := List.forall_mem_cons.mp hOthers
            rw [List.flatMap_cons, List.flatMap_cons, List.append_assoc, List.append_assoc,
              List.singleton_append, List.singleton_append,
              append_cons_inj_of_not_mem_left hPiece hOther] at h
            rw [h.1, ih hPieces hOthers h.2]
  · rintro rfl
    rfl

end Cut

/-- Joining by blanks puts one between words and none at the end. One more makes every word end
alike. -/
theorem toList_intercalate_blank {words : List String} (h : words ≠ []) :
    (" ".intercalate words).toList ++ [' '] =
      (words.map String.toList).flatMap (· ++ [' ']) := by
  induction words with
  | nil => exact absurd rfl h
  | cons word rest ih =>
      cases rest with
      | nil => simp
      | cons next rest =>
          have hRest := ih (List.cons_ne_nil next rest)
          rw [String.intercalate_cons_cons, String.toList_append, String.toList_append,
            List.append_assoc, hRest, List.map_cons, List.flatMap_cons]
          rfl

namespace SearchField

variable {field other : SearchField}

/-- The characters of a description: the name as it is, a colon, then the kind with its flag. -/
theorem toList_describe (field : SearchField) :
    field.describe.toList = field.name.toList ++
      ':' :: (field.kind.name ++ if field.prefixes then "+prefix" else "").toList := by
  rw [describe, String.toList_append, String.toList_append, List.append_assoc]
  rfl

/-- Kind and flag contain none of the separators of a line, whatever the name before them is. -/
theorem separator_not_mem_kind {c : Char} (hc : c = ':' ∨ c = ' ') (kind : FieldKind)
    (prefixes : Bool) : c ∉ (kind.name ++ if prefixes then "+prefix" else "").toList := by
  rcases hc with rfl | rfl <;> cases kind <;> cases prefixes <;> decide

/-- A field has a description also when its name is empty, so a line shows how many fields there
are. -/
theorem describe_ne_empty (field : SearchField) : field.describe.toList ≠ [] := by
  simp [toList_describe]

/-- A description determines its field by its last colon. The name itself may contain colons, since
no kind does. -/
theorem describe_inj : field.describe = other.describe ↔ field = other := by
  have hKinds := separator_not_mem_kind (.inl rfl)
  have hApart : ∀ (kind kind' : FieldKind) (prefixes prefixes' : Bool),
      (kind.name ++ if prefixes then "+prefix" else "") =
        (kind'.name ++ if prefixes' then "+prefix" else "") →
      kind = kind' ∧ prefixes = prefixes' := by
    intro kind kind' prefixes prefixes'
    cases kind <;> cases kind' <;> cases prefixes <;> cases prefixes' <;> decide
  constructor
  · intro h
    rw [← String.toList_inj, toList_describe, toList_describe,
      append_cons_inj_of_not_mem_right (hKinds _ _) (hKinds _ _), String.toList_inj,
      String.toList_inj] at h
    obtain ⟨hName, hRest⟩ := h
    obtain ⟨hKind, hPrefixes⟩ := hApart _ _ _ _ hRest
    cases field
    cases other
    rw [SearchField.mk.injEq]
    exact ⟨hName, hKind, hPrefixes⟩
  · rintro rfl
    rfl

theorem blank_not_mem_describe (h : ' ' ∉ field.name.toList) : ' ' ∉ field.describe.toList := by
  rw [toList_describe, List.mem_append, List.mem_cons, not_or, not_or]
  exact ⟨h, by decide, separator_not_mem_kind (.inr rfl) _ _⟩

/-- Descriptions joined by blanks determine the list of fields, order included. This requires names
without blanks. -/
theorem intercalate_describe_inj {fields others : List SearchField}
    (hFields : ∀ field ∈ fields, ' ' ∉ field.name.toList)
    (hOthers : ∀ field ∈ others, ' ' ∉ field.name.toList) :
    " ".intercalate (fields.map (·.describe)) = " ".intercalate (others.map (·.describe)) ↔
      fields = others := by
  have hEmpty : ∀ field rest,
      " ".intercalate ((field :: rest).map describe) ≠ " ".intercalate [] := by
    intro field rest h
    have hJoined := toList_intercalate_blank (List.cons_ne_nil field.describe (rest.map describe))
    rw [← List.map_cons, h, List.map_cons, List.map_cons, List.flatMap_cons] at hJoined
    have hLength := congrArg List.length hJoined
    have hPositive := List.length_pos_iff.mpr (describe_ne_empty field)
    simp at hLength
    omega
  constructor
  · intro h
    cases fields with
    | nil =>
        cases others with
        | nil => rfl
        | cons other others => exact absurd h.symm (hEmpty other others)
    | cons field fields =>
        cases others with
        | nil => exact absurd h (hEmpty field fields)
        | cons other others =>
            have hBlanks := congrArg (·.toList ++ [' ']) h
            rw [toList_intercalate_blank (by simp), toList_intercalate_blank (by simp),
              flatMap_append_separator_inj, List.map_map, List.map_map] at hBlanks
            · refine List.map_injective_iff.mpr ?_ hBlanks
              intro first second hSame
              exact describe_inj.mp (String.toList_inj.mp hSame)
            · simpa using fun field hField => blank_not_mem_describe (hFields field hField)
            · simpa using fun field hField => blank_not_mem_describe (hOthers field hField)
  · rintro rfl
    rfl

end SearchField

namespace EntityConfig

/-- No name contains the separator that ends it in a line. -/
structure Separable (config : EntityConfig) : Prop where
  entity : '\t' ∉ config.entity.toList
  index : '\t' ∉ config.index.toList
  fields : ∀ field ∈ config.fields, ' ' ∉ field.name.toList

variable {config other : EntityConfig}

/-- A line has its entity, its index and its fields behind two tabs and a label. -/
theorem toList_describe (config : EntityConfig) :
    config.describe.toList = config.entity.toList ++ '\t' ::
      ("index=".toList ++ (config.index.toList ++
        '\t' :: (" ".intercalate (config.fields.map (·.describe))).toList)) := by
  rw [describe]
  simp only [String.toList_append, List.append_assoc]
  rfl

/-- Equal lines are about one entity if no entity has a tab in its name. Nothing is required of the
indexes and the fields. -/
theorem entity_eq_of_describe_eq (hEntity : '\t' ∉ config.entity.toList)
    (hOther : '\t' ∉ other.entity.toList) (h : config.describe = other.describe) :
    config.entity = other.entity := by
  rw [← String.toList_inj, toList_describe, toList_describe,
    append_cons_inj_of_not_mem_left hEntity hOther, String.toList_inj] at h
  exact h.1

/-- On separable configurations the line is injective: entity, index and all fields with kinds,
flags and order are determined by it. -/
theorem describe_inj (h : config.Separable) (hOther : other.Separable) :
    config.describe = other.describe ↔ config = other := by
  rw [← String.toList_inj, toList_describe, toList_describe,
    append_cons_inj_of_not_mem_left h.entity hOther.entity, List.append_right_inj,
    append_cons_inj_of_not_mem_left h.index hOther.index, String.toList_inj, String.toList_inj,
    String.toList_inj, SearchField.intercalate_describe_inj h.fields hOther.fields]
  cases config
  cases other
  rw [EntityConfig.mk.injEq]

end EntityConfig

end EntitySearch
