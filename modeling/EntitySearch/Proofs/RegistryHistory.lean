import EntitySearch.Proofs.RegistryRun

/-! What a registry answers, told from its history alone. The history keeps every call with its
answer, refused calls and mere questions included. A registry that starts empty is a finite map in
which the first registration of an entity stands until the entity is taken out. -/
namespace EntitySearch

namespace RegistryEvent

/-- The event has stored this configuration under this entity. -/
def Enters (event : RegistryEvent) (entity : String) (config : EntityConfig) : Prop :=
  event.operation.entity = entity ∧ event.operation.offer? = some (.ok config) ∧
    ∃ answer, event.outcome = .ok answer

/-- The event has removed the entity, successfully. -/
def Removes (event : RegistryEvent) (entity : String) : Prop :=
  event.operation = .unregister entity ∧ ∃ answer, event.outcome = .ok answer

/-- The event has left the entity as it was. -/
def Spares (event : RegistryEvent) (entity : String) : Prop :=
  (∀ config, ¬ event.Enters entity config) ∧ ¬ event.Removes entity

variable {event : RegistryEvent} {entity : String} {config other : EntityConfig}

/-- An event enters at most one configuration. -/
theorem Enters.unique (h : event.Enters entity config) (hOther : event.Enters entity other) :
    config = other := by
  have hOffer := h.2.1.symm.trans hOther.2.1
  exact Except.ok.inj (Option.some.inj hOffer)

/-- The two ways to change an entity and sparing it exclude each other, here and in the next
lemma. -/
theorem Enters.not_spares (h : event.Enters entity config) : ¬ event.Spares entity :=
  fun hSpares => hSpares.1 config h

theorem Removes.not_spares (h : event.Removes entity) : ¬ event.Spares entity :=
  fun hSpares => hSpares.2 h

end RegistryEvent

/-- Configuration of the last successful registration of an entity, if no later event removes it. -/
def Stands (events : List RegistryEvent) (entity : String) (config : EntityConfig) : Prop :=
  ∃ before event after, events = before ++ event :: after ∧ event.Enters entity config ∧
    ∀ later ∈ after, later.Spares entity

section Stands

variable {event : RegistryEvent} {events : List RegistryEvent} {entity : String}
  {config : EntityConfig}

theorem not_stands_nil : ¬ Stands [] entity config := by
  rintro ⟨before, event, after, h, _⟩
  simp at h

/-- Unfolds what stands by the first event: it was entered there and is spared by the rest, or it
stands in the rest. -/
theorem stands_cons_iff :
    Stands (event :: events) entity config ↔
      Stands events entity config ∨
        event.Enters entity config ∧ ∀ later ∈ events, later.Spares entity := by
  constructor
  · rintro ⟨before, found, after, hEvents, hEnters, hAfter⟩
    cases before with
    | nil =>
        obtain ⟨rfl, rfl⟩ := List.cons.inj hEvents
        exact .inr ⟨hEnters, hAfter⟩
    | cons first before =>
        obtain ⟨rfl, rfl⟩ := List.cons.inj hEvents
        exact .inl ⟨before, found, after, rfl, hEnters, hAfter⟩
  · rintro (⟨before, found, after, rfl, hEnters, hAfter⟩ | ⟨hEnters, hSpares⟩)
    · exact ⟨event :: before, found, after, rfl, hEnters, hAfter⟩
    · exact ⟨[], event, events, rfl, hEnters, hSpares⟩

end Stands

namespace Registry

section Step

variable {registry changed : Registry} {operation : RegistryOperation} {entity : String}
  {config : EntityConfig}

/-- Step lemma: what an event enters is stored afterwards. -/
theorem get?_of_enters (h : (registry.event operation).Enters entity config) :
    (registry.perform operation).1.get? entity = some config := by
  obtain ⟨rfl, hOffer, answer, hAnswer⟩ := h
  cases hAttempt : registry.attempt operation with
  | error error => simp [event, perform_of_attempt_error hAttempt] at hAnswer
  | ok result =>
      obtain ⟨_, changed⟩ := result
      rw [perform_of_attempt_ok hAttempt]
      obtain ⟨other, hOther, hRegister⟩ | ⟨name, _, rfl, _⟩ | ⟨hNone, _⟩ := attempt_cases hAttempt
      · obtain rfl := Except.ok.inj (Option.some.inj (hOffer.symm.trans hOther))
        rw [get?_of_registerConfig hRegister, if_pos (entity_of_offer hOffer)]
      · cases hOffer
      · cases hNone.symm.trans hOffer

/-- Step lemma: what an event removes is no longer stored. -/
theorem get?_of_removes (h : (registry.event operation).Removes entity) :
    (registry.perform operation).1.get? entity = none := by
  obtain ⟨rfl, answer, hAnswer⟩ := h
  cases hAttempt : registry.attempt (.unregister entity) with
  | error error => simp [event, perform_of_attempt_error hAttempt] at hAnswer
  | ok result =>
      obtain ⟨_, changed⟩ := result
      rw [perform_of_attempt_ok hAttempt]
      obtain ⟨_, hOffer, _⟩ | ⟨name, config, hName, hUnregister⟩ | ⟨_, hOther, _⟩ :=
        attempt_cases hAttempt
      · cases hOffer
      · obtain rfl := RegistryOperation.unregister.inj hName
        rw [get?_of_unregister hUnregister, if_pos rfl]
      · exact absurd rfl (hOther entity)

/-- Frame lemma: an operation leaves every entity that its event spares as it was. -/
theorem get?_of_spares (h : (registry.event operation).Spares entity) :
    (registry.perform operation).1.get? entity = registry.get? entity := by
  cases hAttempt : registry.attempt operation with
  | error error => rw [perform_of_attempt_error hAttempt]
  | ok result =>
      obtain ⟨answer, changed⟩ := result
      have hPerform := perform_of_attempt_ok hAttempt
      have hAnswer : (registry.event operation).outcome = .ok answer := by rw [event, hPerform]
      rw [hPerform]
      obtain ⟨config, hOffer, hRegister⟩ | ⟨name, config, rfl, hUnregister⟩ | ⟨_, _, rfl⟩ :=
        attempt_cases hAttempt
      · have hOther : config.entity ≠ entity := fun hEntity =>
          h.1 config ⟨(entity_of_offer hOffer).symm.trans hEntity, hOffer, answer, hAnswer⟩
        rw [get?_of_registerConfig hRegister, if_neg hOther]
      · have hOther : name ≠ entity := fun hName => h.2 ⟨hName ▸ rfl, answer, hAnswer⟩
        rw [get?_of_unregister hUnregister, if_neg hOther]
      · rfl

/-- An operation affects no entity but the one it names. -/
theorem spares_of_entity_ne (h : operation.entity ≠ entity) :
    (registry.event operation).Spares entity := by
  refine ⟨fun config hEnters => h hEnters.1, ?_⟩
  rintro ⟨rfl, _⟩
  exact h rfl

end Step

section Run

variable {registry : Registry} {entity : String} {config : EntityConfig}

/-- Run lemma: what is stored after a trace is what stands in its history, or what was stored before
and is spared throughout. -/
theorem get?_trace_eq_some_iff {operations : List RegistryOperation} :
    (registry.trace operations).1.get? entity = some config ↔
      Stands (registry.trace operations).2 entity config ∨
        registry.get? entity = some config ∧
          ∀ event ∈ (registry.trace operations).2, event.Spares entity := by
  induction operations generalizing registry with
  | nil => simp [trace, not_stands_nil]
  | cons operation rest ih =>
      simp only [trace, ih, stands_cons_iff, List.forall_mem_cons, or_assoc]
      refine or_congr_right ?_
      by_cases hSpares : (registry.event operation).Spares entity
      · simp [get?_of_spares hSpares, hSpares, hSpares.1 config]
      · rw [RegistryEvent.Spares, not_and_or, not_forall_not, not_not] at hSpares
        obtain ⟨entered, hEnters⟩ | hRemoves := hSpares
        · rw [get?_of_enters hEnters, Option.some.injEq]
          have hEntered : (registry.event operation).Enters entity config ↔ entered = config :=
            ⟨hEnters.unique, fun h => h ▸ hEnters⟩
          simp [hEntered, hEnters.not_spares]
        · have hEntered : ¬ (registry.event operation).Enters entity config := by
            rintro ⟨_, hOffer, _⟩
            rw [hRemoves.1] at hOffer
            cases hOffer
          simp [get?_of_removes hRemoves, hEntered, hRemoves.not_spares]

/-- Operations on other entities have no effect on this one, over traces of any length. -/
theorem get?_trace_of_entity_ne {operations : List RegistryOperation}
    (h : ∀ operation ∈ operations, operation.entity ≠ entity) :
    (registry.trace operations).1.get? entity = registry.get? entity := by
  induction operations generalizing registry with
  | nil => rfl
  | cons operation rest ih =>
      obtain ⟨hOperation, hRest⟩ := List.forall_mem_cons.mp h
      exact (ih hRest).trans (get?_of_spares (spares_of_entity_ne hOperation))

/-- A request depends on the registry only through the lookup of its entity. -/
theorem assemble_congr {other : Registry} (h : registry.get? entity = other.get? entity)
    (filters : FilterSet) (options : SearchOptions) :
    registry.assemble entity filters options = other.assemble entity filters options := by
  simp only [assemble, lookup, h]

theorem mem_keys_iff : entity ∈ registry.configs.keys ↔ registry.contains entity = true := by
  rw [contains, Std.TreeMap.mem_keys, Std.TreeMap.contains_iff_mem]

/-- Sorting neither adds nor loses a name. -/
theorem mem_entities_iff : entity ∈ registry.entities ↔ registry.contains entity = true := by
  rw [entities, List.mem_mergeSort, mem_keys_iff]

/-- Keys of a map are distinct, and sorting keeps them so. -/
theorem nodup_entities (registry : Registry) : registry.entities.Nodup :=
  (List.mergeSort_perm _ _).nodup_iff.mpr Std.TreeMap.nodup_keys

/-- As many names are listed as there are configurations. -/
theorem length_entities (registry : Registry) : registry.entities.length = registry.size := by
  rw [entities, List.length_mergeSort, Std.TreeMap.length_keys, size]

theorem contains_iff_exists :
    registry.contains entity = true ↔ ∃ config, registry.get? entity = some config := by
  rw [← Option.isSome_iff_exists, contains, get?, Std.TreeMap.contains_eq_isSome_getElem?]

/-- An entity can be removed exactly when it is stored, and the answer is the configuration
stored. -/
theorem perform_unregister_eq_ok_iff :
    (registry.perform (.unregister entity)).2 = .ok (.config config) ↔
      registry.get? entity = some config := by
  cases hResult : registry.unregister entity with
  | error error =>
      have hAttempt : registry.attempt (.unregister entity) = .error error := by
        rw [attempt_unregister, hResult, Except.map]
      rw [perform_of_attempt_error hAttempt]
      refine iff_of_false nofun fun hFound => ?_
      rw [unregister_eq_ok_iff.mpr ⟨hFound, rfl⟩] at hResult
      cases hResult
  | ok result =>
      have hAttempt :
          registry.attempt (.unregister entity) = .ok (.config result.1, result.2) := by
        rw [attempt_unregister, hResult, Except.map]
      rw [perform_of_attempt_ok hAttempt, (unregister_eq_ok_iff.mp hResult).1, Except.ok.injEq,
        RegistryAnswer.config.injEq, Option.some.injEq]

/-- All questions about an entity are answered by its history. It can be removed exactly when a
configuration stands for it, which is then the answer. -/
structure Reflects (registry : Registry) (events : List RegistryEvent) (entity : String) :
    Prop where
  lookup : ∀ config, registry.lookup entity = .ok config ↔ Stands events entity config
  unknown : ∀ error, registry.lookup entity = .error error ↔
    (∀ config, ¬ Stands events entity config) ∧ error = .unknownEntity entity
  get : ∀ config, registry.get? entity = some config ↔ Stands events entity config
  contains : registry.contains entity = true ↔ ∃ config, Stands events entity config
  listed : entity ∈ registry.entities ↔ ∃ config, Stands events entity config
  removable : ∀ config, (registry.perform (.unregister entity)).2 = .ok (.config config) ↔
    Stands events entity config

/-- It is enough to know lookups: the other questions about an entity follow from them. -/
theorem Reflects.of_get? {events : List RegistryEvent}
    (h : ∀ config, registry.get? entity = some config ↔ Stands events entity config) :
    registry.Reflects events entity where
  lookup config := lookup_eq_ok_iff.trans (h config)
  unknown error := by
    rw [lookup_eq_error_iff, Option.eq_none_iff_forall_ne_some]
    simp only [ne_eq, h]
  get := h
  contains := contains_iff_exists.trans (exists_congr h)
  listed := (mem_entities_iff.trans contains_iff_exists).trans (exists_congr h)
  removable config := perform_unregister_eq_ok_iff.trans (h config)

/-- The run lemma at the empty registry, where only the history counts. -/
theorem reflects_trace_empty (operations : List RegistryOperation) (entity : String) :
    (empty.trace operations).1.Reflects (empty.trace operations).2 entity := by
  refine .of_get? fun config => ?_
  simp [get?_trace_eq_some_iff, get?_empty]

/-- From the empty registry, every trace is the finite map told by its history. A registration
succeeds exactly when its declaration is admissible and its entity free; a refused call changes
nothing; and what is compiled for one entity is not affected by calls on others. -/
theorem trace_refines_map (operations : List RegistryOperation) :
    (∀ entity, (empty.trace operations).1.Reflects (empty.trace operations).2 entity) ∧
    (empty.trace operations).1.entities.Nodup ∧
    (empty.trace operations).1.size = (empty.trace operations).1.entities.length ∧
    (∀ operation error, operation.offer? = some (.error error) →
      ((empty.trace operations).1.perform operation).2 = .error error) ∧
    (∀ operation config, operation.offer? = some (.ok config) →
      ((empty.trace operations).1.perform operation).2 =
        if (empty.trace operations).1.contains operation.entity then
          .error (.duplicateEntity operation.entity)
        else .ok .registered) ∧
    (∀ operation error, ((empty.trace operations).1.perform operation).2 = .error error →
      ((empty.trace operations).1.perform operation).1 = (empty.trace operations).1) ∧
    ∀ entity others, (∀ operation ∈ others, operation.entity ≠ entity) →
      ∀ filters options,
        ((empty.trace operations).1.trace others).1.assemble entity filters options =
          (empty.trace operations).1.assemble entity filters options := by
  refine ⟨reflects_trace_empty operations, nodup_entities _, (length_entities _).symm, ?_, ?_, ?_,
    ?_⟩
  · exact fun operation error hOffer => perform_of_fault hOffer
  · exact fun operation config hOffer => perform_of_offer hOffer
  · exact fun operation error hError => perform_of_refused hError
  · exact fun entity others hOthers filters options =>
      assemble_congr (get?_trace_of_entity_ne hOthers) filters options

/-- A first and a second declaration of notes, and a removal of an entity that is absent. -/
def notesOperations : List RegistryOperation :=
  [.register "notes" (Declaration.empty.text "body"),
    .register "notes" (Declaration.empty.keyword "author"), .unregister "tasks"]

/-- The first declaration of notes stands. A second one is refused and a faulty third is refused for
its fault, and registering messages changes nothing about notes. -/
theorem first_notes_stand :
    ∃ config, EntityConfig.ofDeclaration "notes" (Declaration.empty.text "body") = .ok config ∧
      (empty.trace notesOperations).1.lookup "notes" = .ok config ∧
      ((empty.trace notesOperations).1.perform
          (.register "notes" (Declaration.empty.property "at" "date"))).2 =
        .error (.unsupportedFieldType "notes" "at" "date") ∧
      ((empty.trace notesOperations).1.trace [.registerBuiltin .messages]).1.assemble
          "notes" .empty .empty =
        (empty.trace notesOperations).1.assemble "notes" .empty .empty := by
  obtain ⟨hReflects, _, _, hFault, _, _, hOthers⟩ := trace_refines_map notesOperations
  refine ⟨_, rfl, ((hReflects "notes").lookup _).mpr ?_, hFault _ _ rfl,
    hOthers "notes" _ ?_ _ _⟩
  · refine ⟨[], _, _, rfl, ⟨rfl, rfl, _, rfl⟩, ?_⟩
    intro later hLater
    rcases List.mem_pair.mp hLater with rfl | rfl
    · refine ⟨?_, nofun⟩
      rintro config ⟨_, _, _, hAnswer⟩
      cases hAnswer
    · refine ⟨?_, nofun⟩
      rintro config ⟨_, hOffer, _⟩
      cases hOffer
  · simp [RegistryOperation.entity, BuiltinEntity.name, Message.entity]

end Run

end Registry

end EntitySearch
