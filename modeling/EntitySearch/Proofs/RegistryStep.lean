import EntitySearch.Entity.Builtin
import EntitySearch.Proofs.Compilation
import EntitySearch.Proofs.ConfigValidity

/-! Operations on a registry. `attempt_cases` says once what a successful operation can have done;
the invariant of all runs and the meaning of histories both come from it. -/
namespace EntitySearch

/-- Calls on a registry, queries included. -/
inductive RegistryOperation where
  | register (entity : String) (declaration : Declaration)
  | registerBuiltin (builtin : BuiltinEntity)
  | registerConfig (config : EntityConfig)
  | unregister (entity : String)
  | lookup (entity : String)
  | get (entity : String)
  | contains (entity : String)

namespace RegistryOperation

/-- The entity that an operation names. -/
def entity : RegistryOperation → String
  | .register entity _ | .unregister entity | .lookup entity | .get entity | .contains entity =>
    entity
  | .registerBuiltin builtin => builtin.name
  | .registerConfig config => config.entity

/-- Configuration that a registration offers, or the fault of its declaration. Other operations
offer nothing. -/
def offer? : RegistryOperation → Option (Except ConfigurationError EntityConfig)
  | .register entity declaration => some (EntityConfig.ofDeclaration entity declaration)
  | .registerBuiltin builtin => some (EntityConfig.ofDeclaration builtin.name builtin.declaration)
  | .registerConfig config => some (.ok config)
  | .unregister _ | .lookup _ | .get _ | .contains _ => none

end RegistryOperation

inductive RegistryAnswer where
  | registered
  | config (config : EntityConfig)
  | found (config? : Option EntityConfig)
  | present (value : Bool)

structure RegistryEvent where
  operation : RegistryOperation
  outcome : Except ConfigurationError RegistryAnswer

namespace Registry

/-- Answer and registry after an operation that succeeds. -/
def attempt (registry : Registry) :
    RegistryOperation → Except ConfigurationError (RegistryAnswer × Registry)
  | .register entity declaration => do
    return (.registered, ← registry.register entity declaration)
  | .registerBuiltin builtin => do return (.registered, ← registry.registerBuiltin builtin)
  | .registerConfig config => do return (.registered, ← registry.registerConfig config)
  | .unregister entity => do
    let (config, changed) ← registry.unregister entity
    return (.config config, changed)
  | .lookup entity => do return (.config (← registry.lookup entity), registry)
  | .get entity => .ok (.found (registry.get? entity), registry)
  | .contains entity => .ok (.present (registry.contains entity), registry)

/-- As `attempt`, with the registry unchanged on failure. -/
def perform (registry : Registry) (operation : RegistryOperation) :
    Registry × Except ConfigurationError RegistryAnswer :=
  match registry.attempt operation with
  | .ok (answer, changed) => (changed, .ok answer)
  | .error error => (registry, .error error)

def event (registry : Registry) (operation : RegistryOperation) : RegistryEvent :=
  ⟨operation, (registry.perform operation).2⟩

/-- Registry after a sequence of operations, with one event for each of them. -/
def trace (registry : Registry) : List RegistryOperation → Registry × List RegistryEvent
  | [] => (registry, [])
  | operation :: rest =>
    let next := (registry.perform operation).1.trace rest
    (next.1, registry.event operation :: next.2)

section Change

variable {registry changed : Registry} {entity : String} {config : EntityConfig}

theorem get?_empty : Registry.empty.get? entity = none :=
  Std.TreeMap.getElem?_emptyc

theorem contains_eq_false_iff : registry.contains entity = false ↔ registry.get? entity = none := by
  rw [contains, get?, Std.TreeMap.contains_eq_isSome_getElem?, Option.isSome_eq_false_iff,
    Option.isNone_iff_eq_none]

/-- Registration succeeds exactly for a free entity. It checks nothing about the configuration
itself. -/
theorem registerConfig_eq_ok_iff :
    registry.registerConfig config = .ok changed ↔
      registry.get? config.entity = none ∧
        changed = ⟨registry.configs.insert config.entity config⟩ := by
  unfold registerConfig
  cases hContains : registry.contains config.entity with
  | true => simp [← contains_eq_false_iff, hContains]
  | false =>
      rw [if_neg Bool.false_ne_true, Except.ok.injEq,
        and_iff_right (contains_eq_false_iff.mp hContains)]
      exact eq_comm

/-- Lookups after a registration: the new configuration for its entity, the former ones
elsewhere. -/
theorem get?_of_registerConfig (h : registry.registerConfig config = .ok changed) :
    changed.get? entity = if config.entity = entity then some config else registry.get? entity := by
  obtain ⟨_, rfl⟩ := registerConfig_eq_ok_iff.mp h
  rw [get?, get?, Std.TreeMap.getElem?_insert]
  simp only [Std.LawfulEqCmp.compare_eq_iff_eq]

/-- Removal succeeds exactly for a stored entity. It returns the stored configuration and erases
that key alone. -/
theorem unregister_eq_ok_iff :
    registry.unregister entity = .ok (config, changed) ↔
      registry.get? entity = some config ∧ changed = ⟨registry.configs.erase entity⟩ := by
  simp only [unregister, bind_eq_ok_iff, pure_eq_ok_iff, lookup_eq_ok_iff, Prod.mk.injEq]
  constructor
  · rintro ⟨_, hFound, rfl, rfl⟩
    exact ⟨hFound, rfl⟩
  · rintro ⟨hFound, rfl⟩
    exact ⟨config, hFound, rfl, rfl⟩

/-- Lookups after a removal: none for its entity, the former ones elsewhere. -/
theorem get?_of_unregister {other : String}
    (h : registry.unregister other = .ok (config, changed)) :
    changed.get? entity = if other = entity then none else registry.get? entity := by
  obtain ⟨_, rfl⟩ := unregister_eq_ok_iff.mp h
  rw [get?, get?, Std.TreeMap.getElem?_erase]
  simp only [Std.LawfulEqCmp.compare_eq_iff_eq]

/-- A declaration is registered exactly when it makes a configuration whose entity is free. -/
theorem register_eq_ok_iff {declaration : Declaration} :
    registry.register entity declaration = .ok changed ↔
      ∃ config, EntityConfig.ofDeclaration entity declaration = .ok config ∧
        registry.registerConfig config = .ok changed :=
  bind_eq_ok_iff

end Change

section Step

variable {registry changed : Registry} {operation : RegistryOperation} {entity : String}
  {config : EntityConfig}

/-- A successful attempt is performed, with its answer. -/
theorem perform_of_attempt_ok {answer : RegistryAnswer}
    (h : registry.attempt operation = .ok (answer, changed)) :
    registry.perform operation = (changed, .ok answer) := by
  simp [perform, h]

theorem perform_of_attempt_error {error : ConfigurationError}
    (h : registry.attempt operation = .error error) :
    registry.perform operation = (registry, .error error) := by
  simp [perform, h]

/-- Frame lemma: a refused operation leaves the registry unchanged. -/
theorem perform_of_refused {error : ConfigurationError}
    (h : (registry.perform operation).2 = .error error) :
    (registry.perform operation).1 = registry := by
  cases hAttempt : registry.attempt operation with
  | ok result => simp [perform_of_attempt_ok hAttempt] at h
  | error refusal => rw [perform_of_attempt_error hAttempt]

/-- A registration offers a configuration for the entity it names. -/
theorem entity_of_offer (h : operation.offer? = some (.ok config)) :
    config.entity = operation.entity := by
  cases operation with
  | register entity declaration =>
      exact (EntityConfig.ofDeclaration_eq_ok_iff.mp (Option.some.inj h)).1
  | registerBuiltin builtin =>
      exact (EntityConfig.ofDeclaration_eq_ok_iff.mp (Option.some.inj h)).1
  | registerConfig other => rw [Except.ok.inj (Option.some.inj h), RegistryOperation.entity]
  | unregister | lookup | get | contains => cases h

theorem attempt_register (registry : Registry) (entity : String) (declaration : Declaration) :
    registry.attempt (.register entity declaration) =
      (EntityConfig.ofDeclaration entity declaration).bind fun config =>
        (registry.registerConfig config).map (.registered, ·) := by
  simp only [attempt, register]
  cases EntityConfig.ofDeclaration entity declaration with
  | error error => rfl
  | ok config => cases registry.registerConfig config <;> rfl

theorem attempt_unregister (registry : Registry) (entity : String) :
    registry.attempt (.unregister entity) =
      (registry.unregister entity).map fun result => (.config result.1, result.2) := by
  rw [attempt]
  cases registry.unregister entity <;> rfl

/-- All registrations check their declaration first and register what it makes, so one case covers
them. -/
theorem attempt_of_offer {offer : Except ConfigurationError EntityConfig}
    (h : operation.offer? = some offer) :
    registry.attempt operation =
      offer.bind fun config => (registry.registerConfig config).map (.registered, ·) := by
  cases operation with
  | register entity declaration =>
      obtain rfl := Option.some.inj h
      exact attempt_register registry entity declaration
  | registerBuiltin builtin =>
      obtain rfl := Option.some.inj h
      exact attempt_register registry builtin.name builtin.declaration
  | registerConfig config =>
      obtain rfl := Option.some.inj h
      simp only [attempt, Except.bind]
      cases registry.registerConfig config <;> rfl
  | unregister | lookup | get | contains => cases h

/-- The fault of a declaration is reported before a taken entity, so the registry does not
matter. -/
theorem perform_of_fault {error : ConfigurationError}
    (h : operation.offer? = some (.error error)) :
    (registry.perform operation).2 = .error error := by
  rw [perform_of_attempt_error (attempt_of_offer h)]

/-- Without a fault a registration succeeds exactly for a free entity. -/
theorem perform_of_offer (h : operation.offer? = some (.ok config)) :
    (registry.perform operation).2 =
      if registry.contains operation.entity then .error (.duplicateEntity operation.entity)
      else .ok .registered := by
  have hAttempt : registry.attempt operation = _ := attempt_of_offer h
  simp only [Except.bind, registerConfig, entity_of_offer h] at hAttempt
  cases hContains : registry.contains operation.entity with
  | true =>
      rw [hContains, if_pos rfl] at hAttempt
      rw [perform_of_attempt_error hAttempt, if_pos rfl]
  | false =>
      rw [hContains, if_neg Bool.false_ne_true] at hAttempt
      rw [perform_of_attempt_ok hAttempt, if_neg Bool.false_ne_true]

/-- Inversion of a successful operation: an offer is registered, an entity is removed, or nothing
changes. Invariants and histories are derived from this lemma alone. -/
theorem attempt_cases {answer : RegistryAnswer}
    (h : registry.attempt operation = .ok (answer, changed)) :
    (∃ config, operation.offer? = some (.ok config) ∧
      registry.registerConfig config = .ok changed) ∨
    (∃ entity config, operation = .unregister entity ∧
      registry.unregister entity = .ok (config, changed)) ∨
    (operation.offer? = none ∧ (∀ entity, operation ≠ .unregister entity) ∧
      changed = registry) := by
  cases hOffer : operation.offer? with
  | some offer =>
      rw [attempt_of_offer hOffer] at h
      obtain ⟨config, rfl, hRegister⟩ := bind_eq_ok_iff.mp h
      refine .inl ⟨config, rfl, ?_⟩
      cases hResult : registry.registerConfig config with
      | error error => simp [hResult, Except.map] at hRegister
      | ok result =>
          simp only [hResult, Except.map, Except.ok.injEq, Prod.mk.injEq] at hRegister
          rw [hRegister.2]
  | none =>
      cases operation with
      | register | registerBuiltin | registerConfig => cases hOffer
      | unregister entity =>
          obtain ⟨⟨config, result⟩, hResult, hAnswer⟩ := bind_eq_ok_iff.mp h
          obtain ⟨_, rfl⟩ := Prod.mk.inj (pure_eq_ok_iff.mp hAnswer)
          exact .inr (.inl ⟨entity, config, rfl, hResult⟩)
      | lookup entity =>
          obtain ⟨config, _, hAnswer⟩ := bind_eq_ok_iff.mp h
          obtain ⟨_, rfl⟩ := Prod.mk.inj (pure_eq_ok_iff.mp hAnswer)
          exact .inr (.inr ⟨rfl, nofun, rfl⟩)
      | get entity =>
          obtain ⟨_, rfl⟩ := Prod.mk.inj (Except.ok.inj h)
          exact .inr (.inr ⟨rfl, nofun, rfl⟩)
      | contains entity =>
          obtain ⟨_, rfl⟩ := Prod.mk.inj (Except.ok.inj h)
          exact .inr (.inr ⟨rfl, nofun, rfl⟩)

end Step

end Registry

end EntitySearch
