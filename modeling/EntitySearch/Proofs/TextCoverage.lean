import EntitySearch.Proofs.Compilation
import EntitySearch.Proofs.ConfigValidity

/-! Which clauses a text is sought by. Every text field has its own, and no other field has any.
That they are all different, and how many there are, is owed to the checks that the configuration
has passed. -/
namespace EntitySearch

/-- Field of a leaf clause. Combinations have none. -/
def Clause.field? : Clause → Option String
  | .matching field _ _ | .beginning field _ => some field
  | .group _ => none

/-- Clauses for the text fields in order: one match for each, with a prefix clause right behind it
where prefixes are kept. -/
inductive TextCoverage (term : String) : List SearchField → List Clause → Prop where
  | nil : TextCoverage term [] []
  | skip {field : SearchField} {fields : List SearchField} {clauses : List Clause}
      (hKind : field.kind ≠ .text) (rest : TextCoverage term fields clauses) :
      TextCoverage term (field :: fields) clauses
  | words {field : SearchField} {fields : List SearchField} {clauses : List Clause}
      (hKind : field.kind = .text) (hPrefixes : field.prefixes = false)
      (rest : TextCoverage term fields clauses) :
      TextCoverage term (field :: fields) (.matching field.name (.string term) false :: clauses)
  | beginnings {field : SearchField} {fields : List SearchField} {clauses : List Clause}
      (hKind : field.kind = .text) (hPrefixes : field.prefixes = true)
      (rest : TextCoverage term fields clauses) :
      TextCoverage term (field :: fields)
        (.matching field.name (.string term) false :: .beginning field.name term :: clauses)

namespace TextCoverage

variable {term : String} {fields : List SearchField} {clauses : List Clause}

/-- Every clause is about one of the text fields. -/
theorem exists_of_mem (h : TextCoverage term fields clauses) {clause : Clause}
    (hClause : clause ∈ clauses) :
    ∃ field ∈ fields, field.kind = .text ∧ clause.field? = some field.name := by
  induction h with
  | nil => cases hClause
  | skip _ _ ih =>
      have ⟨field, hField, hText⟩ := ih hClause
      exact ⟨field, List.mem_cons_of_mem _ hField, hText⟩
  | words hKind _ _ ih =>
      rcases List.mem_cons.mp hClause with rfl | hRest
      · exact ⟨_, List.mem_cons_self, hKind, rfl⟩
      · have ⟨field, hField, hText⟩ := ih hRest
        exact ⟨field, List.mem_cons_of_mem _ hField, hText⟩
  | beginnings hKind _ _ ih =>
      rcases List.mem_cons.mp hClause with rfl | hBehind
      · exact ⟨_, List.mem_cons_self, hKind, rfl⟩
      · rcases List.mem_cons.mp hBehind with rfl | hRest
        · exact ⟨_, List.mem_cons_self, hKind, rfl⟩
        · have ⟨field, hField, hText⟩ := ih hRest
          exact ⟨field, List.mem_cons_of_mem _ hField, hText⟩

/-- No clause is about an undeclared name. -/
theorem field?_ne_of_mem (h : TextCoverage term fields clauses) {clause : Clause} {name : String}
    (hClause : clause ∈ clauses) (hFresh : name ∉ fields.map (·.name)) :
    clause.field? ≠ some name := by
  intro hAsks
  have ⟨field, hField, _, hAlso⟩ := h.exists_of_mem hClause
  have hSame : name = field.name := Option.some.inj (hAsks.symm.trans hAlso)
  exact hFresh (hSame ▸ List.mem_map_of_mem hField)

/-- Distinct names give distinct clauses. -/
theorem nodup (h : TextCoverage term fields clauses) (hNames : (fields.map (·.name)).Nodup) :
    clauses.Nodup := by
  induction h with
  | nil => exact List.nodup_nil
  | skip _ _ ih => exact ih (List.nodup_cons.mp hNames).2
  | words _ _ rest ih =>
      have ⟨hFresh, hOthers⟩ := List.nodup_cons.mp hNames
      apply List.nodup_cons.mpr
      constructor
      · intro hClause
        exact rest.field?_ne_of_mem hClause hFresh rfl
      · exact ih hOthers
  | beginnings _ _ rest ih =>
      have ⟨hFresh, hOthers⟩ := List.nodup_cons.mp hNames
      apply List.nodup_cons.mpr
      constructor
      · intro hClause
        rcases List.mem_cons.mp hClause with hSame | hBehind
        · cases hSame
        · exact rest.field?_ne_of_mem hBehind hFresh rfl
      · apply List.nodup_cons.mpr
        constructor
        · intro hClause
          exact rest.field?_ne_of_mem hClause hFresh rfl
        · exact ih hOthers

/-- One clause for each text field and one more for each that keeps prefixes. This requires that
only text fields keep them. -/
theorem length_eq (h : TextCoverage term fields clauses)
    (hPrefixes : ∀ field ∈ fields, field.prefixes = true → field.kind = .text) :
    clauses.length = fields.countP (·.kind = .text) + fields.countP (·.prefixes) := by
  induction h with
  | nil => rfl
  | @skip field fields clauses hKind _ ih =>
      have ⟨hFirst, hOthers⟩ := List.forall_mem_cons.mp hPrefixes
      have hNone : field.prefixes = false := Bool.eq_false_iff.mpr fun h => hKind (hFirst h)
      rw [ih hOthers, List.countP_cons, List.countP_cons, hNone]
      simp [hKind]
  | @words field fields clauses hKind hPlain _ ih =>
      have hOthers := (List.forall_mem_cons.mp hPrefixes).2
      rw [List.length_cons, ih hOthers, List.countP_cons, List.countP_cons, hKind, hPlain]
      simp only [decide_true, if_true, Bool.false_eq_true, if_false]
      omega
  | @beginnings field fields clauses hKind hKept _ ih =>
      have hOthers := (List.forall_mem_cons.mp hPrefixes).2
      rw [List.length_cons, List.length_cons, ih hOthers, List.countP_cons, List.countP_cons, hKind,
        hKept]
      simp only [decide_true, if_true]
      omega

end TextCoverage

/-- Induction on the fields, which carries the order. -/
theorem textCoverage_flatMap (term : String) (fields : List SearchField) :
    TextCoverage term fields ((fields.filter (·.kind == .text)).flatMap (textClauses term)) := by
  induction fields with
  | nil => exact .nil
  | cons field rest ih =>
      by_cases hKind : field.kind = .text
      · rw [List.filter_cons_of_pos (by simpa using hKind), List.flatMap_cons, textClauses]
        cases hPrefixes : field.prefixes with
        | true => exact .beginnings hKind hPrefixes ih
        | false => exact .words hKind hPrefixes ih
      · rw [List.filter_cons_of_neg (by simpa using hKind)]
        exact .skip hKind ih

/-- In every valid configuration the normalized text is searched in each text field exactly once, in
declared order, with a prefix clause behind it where prefixes are kept, and in no other field. The
clauses are distinct and counted by these fields. -/
theorem compileText_covers {config : EntityConfig}
    (hBuilt : (∃ entity index fields, EntityConfig.ofFields entity index fields = .ok config) ∨
      ∃ entity declaration, EntityConfig.ofDeclaration entity declaration = .ok config)
    (text : String) :
    TextCoverage (Term.normalize text) config.fields (compileText config (some text)) ∧
      (∀ field ∈ config.fields, field.kind ≠ .text →
        ∀ clause ∈ compileText config (some text), clause.field? ≠ some field.name) ∧
      (compileText config (some text)).Nodup ∧
      (compileText config (some text)).length =
        config.fields.countP (·.kind = .text) + config.fields.countP (·.prefixes) := by
  have hValid : config.Valid := by
    rcases hBuilt with ⟨_, _, _, hFields⟩ | ⟨_, _, hDeclared⟩
    · exact .of_ofFields hFields
    · exact (EntityConfig.ofDeclaration_eq_ok_iff.mp hDeclared).2.2.2
  have hCovers : TextCoverage (Term.normalize text) config.fields
      (compileText config (some text)) := textCoverage_flatMap _ config.fields
  refine ⟨hCovers, ?_, hCovers.nodup hValid.distinct, hCovers.length_eq hValid.prefixes_text⟩
  intro field hField hKind clause hClause hAsks
  have ⟨found, hFound, hText, hName⟩ := hCovers.exists_of_mem hClause
  have hSame : field.name = found.name := Option.some.inj (hAsks.symm.trans hName)
  -- a name belongs to one field only, so the two are the same
  have hLookup := hValid.field?_eq_some_iff.mpr ⟨hField, hSame⟩
  have hOther := hValid.field?_eq_some_iff.mpr ⟨hFound, rfl⟩
  have hEqual : field = found := Option.some.inj (hLookup.symm.trans hOther)
  exact hKind (hEqual ▸ hText)

/-- The title of a task is searched by words and by prefixes, its other fields not at all. -/
theorem taskConfig_covers :
    EntityConfig.ofFields "tasks" (some "tasks_v2") taskConfig.fields = .ok taskConfig ∧
      (compileText taskConfig (some "Café")).Nodup ∧
      (compileText taskConfig (some "Café")).length = 2 := by
  have hBuilt : EntityConfig.ofFields "tasks" (some "tasks_v2") taskConfig.fields =
      .ok taskConfig := rfl
  have ⟨_, _, hDistinct, hLength⟩ := compileText_covers (.inl ⟨_, _, _, hBuilt⟩) "Café"
  exact ⟨hBuilt, hDistinct, hLength⟩

end EntitySearch
