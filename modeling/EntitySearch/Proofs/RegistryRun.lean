import EntitySearch.Proofs.RegistryStep

/-! The registries that calls lead to, from the empty registry or the one of the built-in entities.
Calls may fail, and a batch may stop in the middle. Every configuration in such a registry has been
checked and is stored under the name of its own entity. -/
namespace EntitySearch

/-- Callers get configurations from `EntityConfig.ofFields` only, so an operation that hands one
over comes with the fields that it was built from. -/
def RegistryOperation.Checked (operation : RegistryOperation) : Prop :=
  ∀ config, operation = .registerConfig config →
    ∃ entity index fields, EntityConfig.ofFields entity index fields = .ok config

namespace Registry

variable {registry changed : Registry} {operation : RegistryOperation} {entity : String}
  {config : EntityConfig}

/-- Closure of the two initial registries under single operations and batches, whether or not these
succeed. A batch counts with what it leaves behind when it stops. -/
inductive Reachable : Registry → Prop where
  | empty : Reachable .empty
  | builtin {start : Registry} (h : Registry.builtin = .ok start) : Reachable start
  | perform {registry : Registry} {operation : RegistryOperation} (h : Reachable registry)
      (hChecked : operation.Checked) : Reachable (registry.perform operation).1
  | registerAll {registry : Registry} (h : Reachable registry)
      (declarations : List (String × Declaration)) :
      Reachable (registry.registerAll declarations).1

/-- Run lemma for the constructor of single operations. -/
theorem Reachable.trace {operations : List RegistryOperation} (h : registry.Reachable)
    (hChecked : ∀ operation ∈ operations, operation.Checked) :
    (registry.trace operations).1.Reachable := by
  induction operations generalizing registry with
  | nil => exact h
  | cons operation rest ih =>
      obtain ⟨hFirst, hRest⟩ := List.forall_mem_cons.mp hChecked
      exact ih (h.perform hFirst) hRest

/-- A batch that succeeds names distinct new entities, each with an admissible declaration. -/
theorem distinct_of_registerAll {pairs : List (String × Declaration)} {count : Nat}
    (h : (registry.registerAll pairs).2 = .ok count) :
    (pairs.map (·.1)).Nodup ∧ ∀ pair ∈ pairs, registry.get? pair.1 = none ∧
      ∃ config, EntityConfig.ofDeclaration pair.1 pair.2 = .ok config := by
  induction pairs generalizing registry count with
  | nil => simp
  | cons pair rest ih =>
      obtain ⟨entity, declaration⟩ := pair
      rw [registerAll] at h
      cases hChange : registry.register entity declaration with
      | error error => simp [hChange] at h
      | ok changed =>
          obtain ⟨config, hConfig, hRegister⟩ := register_eq_ok_iff.mp hChange
          obtain rfl := (EntityConfig.ofDeclaration_eq_ok_iff.mp hConfig).1
          have hFree := (registerConfig_eq_ok_iff.mp hRegister).1
          obtain ⟨later, hRest⟩ : ∃ later, (changed.registerAll rest).2 = .ok later := by
            cases hResult : (changed.registerAll rest).2 with
            | error error => simp [hChange, hResult, Except.map] at h
            | ok later => exact ⟨later, rfl⟩
          obtain ⟨hDistinct, hPairs⟩ := ih hRest
          have hLater : ∀ pair ∈ rest, config.entity ≠ pair.1 ∧ registry.get? pair.1 = none := by
            intro pair hPair
            have hNone := (hPairs pair hPair).1
            rw [get?_of_registerConfig hRegister] at hNone
            split at hNone
            · cases hNone
            · rename_i hName
              exact ⟨hName, hNone⟩
          rw [List.map_cons, List.nodup_cons, List.forall_mem_cons]
          refine ⟨⟨?_, hDistinct⟩, ⟨hFree, config, hConfig⟩, ?_⟩
          · intro hMem
            obtain ⟨pair, hPair, hName⟩ := List.mem_map.mp hMem
            exact (hLater pair hPair).1 hName.symm
          · exact fun pair hPair => ⟨(hLater pair hPair).2, (hPairs pair hPair).2⟩

/-- A batch is a trace of registrations up to its first refusal, so whatever traces preserve,
batches preserve. -/
theorem exists_trace_of_registerAll (registry : Registry)
    (declarations : List (String × Declaration)) :
    ∃ count, (registry.registerAll declarations).1 = (registry.trace
      ((declarations.take count).map fun pair => .register pair.1 pair.2)).1 := by
  induction declarations generalizing registry with
  | nil => exact ⟨0, rfl⟩
  | cons pair rest ih =>
      obtain ⟨entity, declaration⟩ := pair
      rw [registerAll]
      cases hChange : registry.register entity declaration with
      | error error => exact ⟨0, rfl⟩
      | ok changed =>
          obtain ⟨count, hRest⟩ := ih changed
          refine ⟨count + 1, ?_⟩
          have hPerform : registry.perform (.register entity declaration) =
              (changed, .ok .registered) := by
            simp [perform, attempt, hChange]
          rw [List.take_succ_cons, List.map_cons, Registry.trace, hPerform]
          exact hRest

/-- Every stored configuration satisfies the field checks and is stored under its own entity. -/
structure Valid (registry : Registry) : Prop where
  keyed : ∀ entity config, registry.get? entity = some config → config.entity = entity
  checked : ∀ entity config, registry.get? entity = some config → config.Valid

theorem valid_empty : Registry.empty.Valid where
  keyed entity config h := by simp [get?_empty] at h
  checked entity config h := by simp [get?_empty] at h

/-- Step lemma for registration: the new configuration is valid and stored under its own name. -/
theorem Valid.registerConfig (h : registry.Valid) (hConfig : config.Valid)
    (hChange : registry.registerConfig config = .ok changed) : changed.Valid := by
  constructor <;> intro entity found hFound <;> rw [get?_of_registerConfig hChange] at hFound <;>
    split at hFound
  · rename_i hEntity
    obtain rfl := Option.some.inj hFound
    exact hEntity
  · exact h.keyed entity found hFound
  · obtain rfl := Option.some.inj hFound
    exact hConfig
  · exact h.checked entity found hFound

/-- Step lemma for removal, which adds nothing. -/
theorem Valid.unregister (h : registry.Valid)
    (hChange : registry.unregister entity = .ok (config, changed)) : changed.Valid := by
  constructor <;> intro other found hFound <;> rw [get?_of_unregister hChange] at hFound <;>
    split at hFound
  · cases hFound
  · exact h.keyed other found hFound
  · cases hFound
  · exact h.checked other found hFound

/-- What a checked registration offers satisfies all field checks. -/
theorem valid_of_offer (hChecked : operation.Checked)
    (h : operation.offer? = some (.ok config)) : config.Valid := by
  cases operation with
  | register entity declaration =>
      exact (EntityConfig.ofDeclaration_eq_ok_iff.mp (Option.some.inj h)).2.2.2
  | registerBuiltin builtin =>
      exact (EntityConfig.ofDeclaration_eq_ok_iff.mp (Option.some.inj h)).2.2.2
  | registerConfig other =>
      obtain rfl : other = config := Except.ok.inj (Option.some.inj h)
      obtain ⟨entity, index, fields, hBuilt⟩ := hChecked other rfl
      exact .of_ofFields hBuilt
  | unregister | lookup | get | contains => cases h

/-- Step lemma for all operations, from `attempt_cases`. A refused one leaves the registry as it
is. -/
theorem Valid.perform (h : registry.Valid) (hChecked : operation.Checked) :
    (registry.perform operation).1.Valid := by
  cases hAttempt : registry.attempt operation with
  | error error => rwa [perform_of_attempt_error hAttempt]
  | ok result =>
      obtain ⟨answer, changed⟩ := result
      rw [perform_of_attempt_ok hAttempt]
      obtain ⟨config, hOffer, hRegister⟩ | ⟨_, _, _, hUnregister⟩ | ⟨_, _, rfl⟩ :=
        attempt_cases hAttempt
      · exact h.registerConfig (valid_of_offer hChecked hOffer) hRegister
      · exact h.unregister hUnregister
      · exact h

/-- Run lemma for `Valid.perform`, for traces of checked operations. -/
theorem Valid.trace {operations : List RegistryOperation} (h : registry.Valid)
    (hChecked : ∀ operation ∈ operations, operation.Checked) :
    (registry.trace operations).1.Valid := by
  induction operations generalizing registry with
  | nil => exact h
  | cons operation rest ih =>
      obtain ⟨hFirst, hRest⟩ := List.forall_mem_cons.mp hChecked
      exact ih (h.perform hFirst) hRest

/-- Batches preserve validity, also those that stop part of the way. -/
theorem Valid.registerAll (h : registry.Valid) (declarations : List (String × Declaration)) :
    (registry.registerAll declarations).1.Valid := by
  obtain ⟨count, hTrace⟩ := exists_trace_of_registerAll registry declarations
  rw [hTrace]
  apply h.trace
  rw [List.forall_mem_map]
  exact fun _ _ => nofun

/-- The built-in entities can always be registered together. Their declarations are admissible and
their names differ. -/
theorem builtin_succeeds : ∃ registry, Registry.builtin = .ok registry :=
  ⟨_, rfl⟩

/-- Each built-in entity is stored with the configuration of its own declaration. -/
theorem get?_of_builtin (h : Registry.builtin = .ok registry) (builtin : BuiltinEntity) :
    ∃ config, EntityConfig.ofDeclaration builtin.name builtin.declaration = .ok config ∧
      registry.get? builtin.name = some config := by
  obtain rfl := Except.ok.inj h
  cases builtin with
  | messages => exact ⟨_, rfl, rfl⟩
  | applications => exact ⟨_, rfl, rfl⟩

theorem valid_of_builtin (h : Registry.builtin = .ok registry) : registry.Valid := by
  have hTrace : registry = (Registry.empty.trace
      [.registerBuiltin .messages, .registerBuiltin .applications]).1 :=
    (Except.ok.inj h).symm
  rw [hTrace]
  apply valid_empty.trace
  simp [RegistryOperation.Checked]

/-- Induction on reachability. Every reachable registry is valid, whichever of its calls have
failed. -/
theorem Reachable.valid (h : registry.Reachable) : registry.Valid := by
  induction h with
  | empty => exact valid_empty
  | builtin h => exact valid_of_builtin h
  | perform _ hChecked ih => exact ih.perform hChecked
  | registerAll _ declarations ih => exact ih.registerAll declarations

/-- Configurations of a reachable registry have passed all checks, are stored under their own entity
and have one field for each name. Every request that compiles goes to an index that is not blank. -/
theorem reachable_configs_checked (h : registry.Reachable) :
    (∀ entity config, registry.get? entity = some config →
      config.entity = entity ∧ config.Valid ∧
        ∀ name field, config.field? name = some field ↔
          field ∈ config.fields ∧ field.name = name) ∧
    ∀ entity filters options search, registry.assemble entity filters options = .ok search →
      Unicode.trim search.index.toList ≠ [] := by
  constructor
  · intro entity config hConfig
    have hValid := h.valid.checked entity config hConfig
    exact ⟨h.valid.keyed entity config hConfig, hValid, fun _ _ => hValid.field?_eq_some_iff⟩
  · intro entity filters options search hSearch
    obtain ⟨config, hConfig, _, rfl⟩ := assemble_eq_ok_iff.mp hSearch
    exact (h.valid.checked entity config hConfig).index_visible

/-- Calls of which half fail: a blank index, a second registration, a batch that stops in the
middle, the removal of an entity that is not there. -/
theorem notes_config_checked :
    ∃ registry config,
      registry = (((Registry.empty.trace [
        .register "notes" (Declaration.empty.withIndex "  " |>.textWithPrefixes "body"),
        .register "notes" (Declaration.empty.keyword "author")]).1.registerAll [
          ("tags", Declaration.empty.keyword "name"), ("notes", Declaration.empty),
          ("tasks", Declaration.empty)]).1.perform (.unregister "tasks")).1 ∧
      registry.get? "notes" = some config ∧ registry.get? "tasks" = none ∧
      config.entity = "notes" ∧ config.Valid := by
  have hTraced : (Registry.empty.trace [
      .register "notes" (Declaration.empty.withIndex "  " |>.textWithPrefixes "body"),
      .register "notes" (Declaration.empty.keyword "author")]).1.Reachable :=
    Reachable.empty.trace (by simp [RegistryOperation.Checked])
  have hRemoval : (RegistryOperation.unregister "tasks").Checked := nofun
  have hReachable := (hTraced.registerAll [("tags", Declaration.empty.keyword "name"),
    ("notes", Declaration.empty), ("tasks", Declaration.empty)]).perform hRemoval
  have hChecked := (reachable_configs_checked hReachable).1 "notes" _ rfl
  exact ⟨_, _, rfl, rfl, rfl, hChecked.1, hChecked.2.1⟩

end Registry

end EntitySearch
