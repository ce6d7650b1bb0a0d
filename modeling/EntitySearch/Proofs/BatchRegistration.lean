import EntitySearch.CommandLine.Run
import EntitySearch.Proofs.DeclarationAcceptance
import EntitySearch.Proofs.RegistryHistory

/-! What becomes of a batch of declarations. They are registered in order up to the first one that
is refused, and the registry keeps those before it. -/
namespace EntitySearch.Registry

open CommandLine (World Settings buildRegistry)

/-- Configurations made of declarations, one for each and in order. -/
def Configures (pairs : List (String × Declaration)) (configs : List EntityConfig) : Prop :=
  List.Forall₂ (fun pair config => EntityConfig.ofDeclaration pair.1 pair.2 = .ok config)
    pairs configs

/-- Lookups are those of the registry and of the added configurations, and nothing else. The size
grows by their number, so none of them replaces another. -/
structure ExtendedBy (registry : Registry) (configs : List EntityConfig) (extended : Registry) :
    Prop where
  get? : ∀ entity config, extended.get? entity = some config ↔
    registry.get? entity = some config ∨ config ∈ configs ∧ config.entity = entity
  size : extended.size = registry.size + configs.length

/-- All declarations are admissible, their entities are distinct, and none of these is
registered. -/
structure Accepts (registry : Registry) (pairs : List (String × Declaration)) : Prop where
  admissible : ∀ pair ∈ pairs, pair.2.Admissible pair.1
  distinct : (pairs.map (·.1)).Nodup
  free : ∀ pair ∈ pairs, registry.contains pair.1 = false

/-- Why a declaration is refused behind others. Its own fault comes before an entity that is taken,
by the registry or by one of the others. -/
inductive Refuses (registry : Registry) (earlier : List (String × Declaration))
    (pair : String × Declaration) : ConfigurationError → Prop where
  | fault {error : ConfigurationError} (h : pair.2.Fault pair.1 error) :
      Refuses registry earlier pair error
  | taken (hAdmissible : pair.2.Admissible pair.1)
      (hTaken : registry.contains pair.1 = true ∨ pair.1 ∈ earlier.map (·.1)) :
      Refuses registry earlier pair (.duplicateEntity pair.1)

/-- Outcome of a batch whose declaration at this place is refused: those before it are registered,
the registry that has them refuses it, and later ones make no difference. -/
structure StopsAt (registry : Registry) (pairs : List (String × Declaration)) (i : Nat)
    (error : ConfigurationError) : Prop where
  extended : ∃ configs, Configures (pairs.take i) configs ∧
    registry.ExtendedBy configs (registry.registerAll pairs).1
  refused : ∃ pair, pairs[i]? = some pair ∧
    (registry.registerAll pairs).1.register pair.1 pair.2 = .error error
  later : ∀ rest, registry.registerAll (pairs.take (i + 1) ++ rest) = registry.registerAll pairs

/-- Built-in entities keep the configurations of their own declarations, whatever else is loaded. A
file that names one of them is refused. -/
structure SparesBuiltins (world : World) (settings : Settings) : Prop where
  kept : ∀ registry (builtin : BuiltinEntity), buildRegistry world settings = .ok registry →
    ∃ config, EntityConfig.ofDeclaration builtin.name builtin.declaration = .ok config ∧
      registry.get? builtin.name = some config
  refused : ∀ path declarations (builtin : BuiltinEntity), settings.mappings = some path →
    Declaration.loadFile path (world.file path) = .ok declarations →
    builtin.name ∈ declarations.map (·.1) →
    ∃ cause, buildRegistry world settings = .error (.registration path cause)

variable {registry changed : Registry} {config : EntityConfig} {configs : List EntityConfig}
  {pair : String × Declaration} {pairs : List (String × Declaration)}
  {error : ConfigurationError} {i count : Nat}

section Extension

theorem ExtendedBy.refl (registry : Registry) : registry.ExtendedBy [] registry where
  get? := by simp
  size := rfl

/-- Extensions compose in order of registration. Lookup and size are all that a registry is asked
for. -/
theorem ExtendedBy.trans {others : List EntityConfig} {extended : Registry}
    (h : registry.ExtendedBy configs changed) (hMore : changed.ExtendedBy others extended) :
    registry.ExtendedBy (configs ++ others) extended where
  get? entity config := by
    rw [hMore.get?, h.get?, List.mem_append, or_assoc, or_and_right]
  size := by rw [hMore.size, h.size, List.length_append, Nat.add_assoc]

/-- Step lemma: one successful registration adds exactly its configuration. That its entity was free
before is part of the success. -/
theorem extendedBy_of_registerConfig (h : registry.registerConfig config = .ok changed) :
    registry.ExtendedBy [config] changed where
  get? entity other := by
    have hFree := (registerConfig_eq_ok_iff.mp h).1
    rw [get?_of_registerConfig h, List.mem_singleton]
    by_cases hEntity : config.entity = entity
    · subst hEntity
      rw [if_pos rfl, hFree]
      simp only [reduceCtorEq, false_or, Option.some.injEq]
      exact ⟨fun h => ⟨h.symm, by rw [h]⟩, fun h => h.1.symm⟩
    · rw [if_neg hEntity]
      refine ⟨.inl, ?_⟩
      rintro (hOther | ⟨rfl, hOther⟩)
      · exact hOther
      · exact absurd hOther hEntity
  size := by
    obtain ⟨hFree, rfl⟩ := registerConfig_eq_ok_iff.mp h
    have hContains : registry.configs.contains config.entity = false :=
      contains_eq_false_iff.mpr hFree
    rw [Registry.size, Std.TreeMap.size_insert, hContains, if_neg Bool.false_ne_true, Registry.size,
      List.length_singleton]

theorem ExtendedBy.contains_iff {entity : String} (h : registry.ExtendedBy configs changed) :
    changed.contains entity = true ↔
      registry.contains entity = true ∨ entity ∈ configs.map (·.entity) := by
  simp only [contains_iff_exists, h.get?, exists_or, List.mem_map]

theorem Configures.entities (h : Configures pairs configs) :
    configs.map (·.entity) = pairs.map (·.1) :=
  (map_eq_map_of_forall₂ h fun _ _ hConfig =>
    (EntityConfig.ofDeclaration_eq_ok_iff.mp hConfig).1.symm).symm

/-- What has been registered on the way counts like declarations earlier in the batch. This moves
the growing registry into the list of earlier declarations. -/
theorem ExtendedBy.refuses_iff {before : List (String × Declaration)}
    (h : registry.ExtendedBy configs changed) (hConfigs : Configures pairs configs) :
    changed.Refuses before pair error ↔ registry.Refuses (pairs ++ before) pair error := by
  have hTaken : changed.contains pair.1 = true ∨ pair.1 ∈ before.map (·.1) ↔
      registry.contains pair.1 = true ∨ pair.1 ∈ (pairs ++ before).map (·.1) := by
    rw [h.contains_iff, hConfigs.entities, List.map_append, List.mem_append, or_assoc]
  constructor
  · rintro (hFault | ⟨hAdmissible, hBefore⟩)
    · exact .fault hFault
    · exact .taken hAdmissible (hTaken.mp hBefore)
  · rintro (hFault | ⟨hAdmissible, hBefore⟩)
    · exact .fault hFault
    · exact .taken hAdmissible (hTaken.mpr hBefore)

end Extension

section Step

theorem registerConfig_eq_error_iff :
    registry.registerConfig config = .error error ↔
      registry.contains config.entity = true ∧ error = .duplicateEntity config.entity := by
  unfold registerConfig
  cases registry.contains config.entity <;> simp [eq_comm]

/-- The exact errors of one registration: the declaration's own fault comes first, and an entity
already in the registry is only reported for an admissible declaration. -/
theorem register_eq_error_iff :
    registry.register pair.1 pair.2 = .error error ↔ registry.Refuses [] pair error := by
  rw [register, bind_eq_error_iff, EntityConfig.ofDeclaration_eq_error_iff]
  simp only [registerConfig_eq_error_iff]
  constructor
  · rintro (hFault | ⟨config, hConfig, hTaken, rfl⟩)
    · exact .fault hFault
    · obtain ⟨hAdmissible, hAsked⟩ := EntityConfig.ofDeclaration_eq_ok_iff_admissible.mp hConfig
      rw [hAsked.entity_eq] at hTaken ⊢
      exact .taken hAdmissible (.inl hTaken)
  · rintro (hFault | ⟨hAdmissible, hTaken⟩)
    · exact .inl hFault
    · obtain ⟨config, hConfig⟩ := EntityConfig.exists_ofDeclaration_iff.mpr hAdmissible
      obtain hTaken | hTaken := hTaken
      · have hEntity := (EntityConfig.ofDeclaration_eq_ok_iff.mp hConfig).1
        exact .inr ⟨config, hConfig, hEntity ▸ hTaken, by rw [hEntity]⟩
      · cases hTaken

/-- A successful registration of a declaration extends the registry by the one configuration made of
it. -/
theorem extendedBy_of_register (h : registry.register pair.1 pair.2 = .ok changed) :
    ∃ config, EntityConfig.ofDeclaration pair.1 pair.2 = .ok config ∧
      registry.ExtendedBy [config] changed := by
  obtain ⟨config, hConfig, hRegister⟩ := register_eq_ok_iff.mp h
  exact ⟨config, hConfig, extendedBy_of_registerConfig hRegister⟩

/-- A batch whose first declaration is refused changes nothing, and the rest of it is not looked
at. -/
theorem registerAll_cons_of_error (h : registry.register pair.1 pair.2 = .error error) :
    registry.registerAll (pair :: pairs) = (registry, .error error) := by
  simp [registerAll, h]

/-- A batch whose first declaration is accepted continues with the grown registry. Its count is one
more than that of the rest. -/
theorem registerAll_cons_of_ok (h : registry.register pair.1 pair.2 = .ok changed) :
    registry.registerAll (pair :: pairs) =
      ((changed.registerAll pairs).1, (changed.registerAll pairs).2.map (· + 1)) := by
  simp [registerAll, h]

end Step

section Run

/-- Run lemma for a batch that succeeds: the registry gains one configuration for each declaration
and nothing else. -/
theorem extendedBy_of_registerAll (h : (registry.registerAll pairs).2 = .ok count) :
    count = pairs.length ∧ ∃ configs, Configures pairs configs ∧
      registry.ExtendedBy configs (registry.registerAll pairs).1 := by
  induction pairs generalizing registry count with
  | nil =>
      obtain rfl := Except.ok.inj h
      exact ⟨rfl, [], .nil, .refl registry⟩
  | cons pair rest ih =>
      cases hFirst : registry.register pair.1 pair.2 with
      | error error =>
          rw [registerAll_cons_of_error hFirst] at h
          cases h
      | ok changed =>
          rw [registerAll_cons_of_ok hFirst] at h ⊢
          obtain ⟨config, hConfig, hExtended⟩ := extendedBy_of_register hFirst
          cases hRest : (changed.registerAll rest).2 with
          | error error =>
              rw [hRest] at h
              cases h
          | ok later =>
              rw [hRest] at h
              obtain rfl := Except.ok.inj h
              obtain ⟨rfl, configs, hConfigs, hMore⟩ := ih hRest
              exact ⟨rfl, config :: configs, .cons hConfig hConfigs, hExtended.trans hMore⟩

/-- Refusals behind a registered declaration are those of the grown registry, for any further
declarations in between. -/
theorem refuses_of_register (h : registry.register pair.1 pair.2 = .ok changed) :
    (fun before => registry.Refuses (pair :: before)) = changed.Refuses := by
  obtain ⟨config, hConfig, hExtended⟩ := extendedBy_of_register h
  funext before other error
  exact propext (hExtended.refuses_iff (.cons hConfig .nil)).symm

/-- The first refusal behind a registered declaration is the first refusal of the rest by the grown
registry, one place later. -/
theorem refusedAt_cons_of_register (h : registry.register pair.1 pair.2 = .ok changed) :
    RefusedAt registry.Refuses (pair :: pairs) (i + 1) error ↔
      RefusedAt changed.Refuses pairs i error := by
  rw [refusedAt_succ_iff, refuses_of_register h, and_iff_right]
  intro other hRefused
  rw [register_eq_error_iff.mpr hRefused] at h
  cases h

/-- Run lemma for a batch with a refused declaration: it returns the error of the first refusal, and
the registry holds exactly the declarations before it. Later declarations are not registered. -/
theorem registerAll_of_refusedAt (h : RefusedAt registry.Refuses pairs i error) :
    (registry.registerAll (pairs.take i)).2 = .ok i ∧
      registry.registerAll pairs = ((registry.registerAll (pairs.take i)).1, .error error) := by
  induction pairs generalizing registry i with
  | nil => exact absurd h not_refusedAt_nil
  | cons pair rest ih =>
      cases i with
      | zero =>
          have hFirst := register_eq_error_iff.mpr (refusedAt_zero_iff.mp h)
          exact ⟨rfl, registerAll_cons_of_error hFirst⟩
      | succ i =>
          cases hRegister : registry.register pair.1 pair.2 with
          | error other =>
              have hFirst := (refusedAt_succ_iff.mp h).1 other
              exact absurd (register_eq_error_iff.mp hRegister) hFirst
          | ok changed =>
              obtain ⟨hBefore, hEnd⟩ := ih ((refusedAt_cons_of_register hRegister).mp h)
              rw [List.take_succ_cons, registerAll_cons_of_ok hRegister,
                registerAll_cons_of_ok hRegister, hBefore, hEnd]
              exact ⟨rfl, rfl⟩

/-- A batch fails exactly with the error of its first refusal. Later refusals are never reported. -/
theorem registerAll_eq_error_iff :
    (registry.registerAll pairs).2 = .error error ↔
      ∃ i, RefusedAt registry.Refuses pairs i error := by
  constructor
  · intro h
    induction pairs generalizing registry with
    | nil => cases h
    | cons pair rest ih =>
        cases hRegister : registry.register pair.1 pair.2 with
        | error other =>
            rw [registerAll_cons_of_error hRegister] at h
            obtain rfl := Except.error.inj h
            exact ⟨0, refusedAt_zero_iff.mpr (register_eq_error_iff.mp hRegister)⟩
        | ok changed =>
            rw [registerAll_cons_of_ok hRegister] at h
            have hRest : (changed.registerAll rest).2 = .error error := by
              cases hResult : (changed.registerAll rest).2 with
              | error other => rwa [hResult] at h
              | ok count =>
                  rw [hResult] at h
                  cases h
            obtain ⟨i, hRefused⟩ := ih hRest
            exact ⟨i + 1, (refusedAt_cons_of_register hRegister).mpr hRefused⟩
  · rintro ⟨i, h⟩
    rw [(registerAll_of_refusedAt h).2]

/-- Acceptance is stated of the batch as a whole, refusal of one place in it. The two exclude each
other. -/
theorem Accepts.not_refusedAt (h : registry.Accepts pairs) :
    ¬ RefusedAt registry.Refuses pairs i error := by
  rintro ⟨⟨pair, hPair, hRefused⟩, _⟩
  have hMem := List.mem_of_getElem? hPair
  obtain hFault | ⟨_, hTaken | hTwice⟩ := hRefused
  · obtain ⟨config, hConfig⟩ :=
      EntityConfig.exists_ofDeclaration_iff.mpr (h.admissible pair hMem)
    rw [EntityConfig.ofDeclaration_eq_error_iff.mpr hFault] at hConfig
    cases hConfig
  · rw [h.free pair hMem] at hTaken
    cases hTaken
  · have hBehind : pair.1 ∈ (pairs.map (·.1)).drop i := by
      rw [← List.map_drop]
      refine List.mem_map_of_mem (List.mem_of_getElem? (i := 0) ?_)
      rw [List.getElem?_drop, Nat.add_zero, hPair]
    rw [List.map_take] at hTwice
    exact List.disjoint_take_drop h.distinct le_rfl hTwice hBehind

/-- A batch succeeds exactly when all declarations are admissible, no entity is declared twice and
none is in the registry already. The count it returns is its length. -/
theorem registerAll_eq_ok_iff :
    (registry.registerAll pairs).2 = .ok count ↔
      registry.Accepts pairs ∧ count = pairs.length := by
  constructor
  · intro h
    obtain ⟨hDistinct, hPairs⟩ := distinct_of_registerAll h
    refine ⟨⟨fun pair hPair => ?_, hDistinct, fun pair hPair => ?_⟩,
      (extendedBy_of_registerAll h).1⟩
    · exact EntityConfig.exists_ofDeclaration_iff.mp (hPairs pair hPair).2
    · exact contains_eq_false_iff.mpr (hPairs pair hPair).1
  · rintro ⟨hAccepts, rfl⟩
    cases hResult : (registry.registerAll pairs).2 with
    | error error =>
        obtain ⟨i, hRefused⟩ := registerAll_eq_error_iff.mp hResult
        exact absurd hRefused hAccepts.not_refusedAt
    | ok count => rw [(extendedBy_of_registerAll hResult).1]

/-- At the first refusal the batch leaves the registry of the declarations before it, and whatever
follows that place does not matter. -/
theorem stopsAt_of_refusedAt (h : RefusedAt registry.Refuses pairs i error) :
    registry.StopsAt pairs i error := by
  obtain ⟨hBefore, hEnd⟩ := registerAll_of_refusedAt h
  obtain ⟨_, configs, hConfigs, hExtended⟩ := extendedBy_of_registerAll hBefore
  obtain ⟨pair, hPair, hRefused⟩ := h.1
  refine ⟨⟨configs, hConfigs, ?_⟩, ⟨pair, hPair, ?_⟩, fun rest => ?_⟩
  · rwa [hEnd]
  · rw [hEnd, register_eq_error_iff, hExtended.refuses_iff hConfigs, List.append_nil]
    exact hRefused
  · have hTake : (pairs.take (i + 1) ++ rest).take i = pairs.take i := by
      have hLength : i < pairs.length := (List.getElem?_eq_some_iff.mp hPair).1
      have hFits : i ≤ (pairs.take (i + 1)).length := by
        rw [List.length_take]
        omega
      rw [List.take_append_of_le_length hFits, List.take_take, Nat.min_eq_left (Nat.le_succ i)]
    rw [(registerAll_of_refusedAt (h.take_append rest)).2, hTake, hEnd]

/-- A batch never replaces or removes a configuration, also when it fails part of the way. -/
theorem get?_registerAll_of_get? {entity : String} (h : registry.get? entity = some config) :
    (registry.registerAll pairs).1.get? entity = some config := by
  cases hResult : (registry.registerAll pairs).2 with
  | ok count =>
      obtain ⟨_, configs, _, hExtended⟩ := extendedBy_of_registerAll hResult
      exact (hExtended.get? entity config).mpr (.inl h)
  | error error =>
      obtain ⟨i, hRefused⟩ := registerAll_eq_error_iff.mp hResult
      obtain ⟨configs, _, hExtended⟩ := (stopsAt_of_refusedAt hRefused).extended
      exact (hExtended.get? entity config).mpr (.inl h)

end Run

section Builtin

variable {world : World} {settings : Settings} {path : String} {start : Registry}
  {declarations : List (String × Declaration)}

/-- A registry built with the library's entities is theirs extended by one batch, empty when no file
is given. -/
theorem exists_registerAll_of_buildRegistry (hStart : Registry.builtin = .ok start)
    (hBuiltin : settings.builtinEntities = true)
    (h : buildRegistry world settings = .ok registry) :
    ∃ declarations, registry = (start.registerAll declarations).1 := by
  simp only [buildRegistry, hBuiltin, if_true, hStart, bind_eq_ok_iff, mapError_eq_ok_iff,
    Except.ok.injEq, exists_eq_left'] at h
  cases hMappings : settings.mappings with
  | none =>
      rw [hMappings] at h
      exact ⟨[], (pure_eq_ok_iff.mp h).symm⟩
  | some path =>
      rw [hMappings] at h
      obtain ⟨declarations, _, hEnd⟩ := bind_eq_ok_iff.mp h
      refine ⟨declarations, ?_⟩
      split at hEnd
      · next hRegister =>
        rw [hRegister]
        exact (pure_eq_ok_iff.mp hEnd).symm
      · cases hEnd

/-- A batch refused on top of the library's entities makes the command fail with the batch's own
error, under the path of its file. -/
theorem buildRegistry_of_refused {cause : ConfigurationError}
    (hStart : Registry.builtin = .ok start) (hBuiltin : settings.builtinEntities = true)
    (hMappings : settings.mappings = some path)
    (hFile : Declaration.loadFile path (world.file path) = .ok declarations)
    (hRefused : (start.registerAll declarations).2 = .error cause) :
    buildRegistry world settings = .error (.registration path cause) := by
  have hRegister : start.registerAll declarations =
      ((start.registerAll declarations).1, .error cause) := by rw [← hRefused]
  simp only [buildRegistry, hBuiltin, if_true, hStart, hMappings, hFile]
  simp only [Except.mapError, bind, Except.bind]
  rw [hRegister]

/-- A batch that names an entity of the library never succeeds on top of the library's entities. The
error may be of a declaration before that name. -/
theorem registerAll_of_names_builtin (hStart : Registry.builtin = .ok start)
    (builtin : BuiltinEntity) (hNamed : builtin.name ∈ declarations.map (·.1)) :
    ∃ cause, (start.registerAll declarations).2 = .error cause := by
  obtain ⟨config, _, hFound⟩ := get?_of_builtin hStart builtin
  cases hResult : (start.registerAll declarations).2 with
  | error cause => exact ⟨cause, rfl⟩
  | ok count =>
      have hAccepts := (registerAll_eq_ok_iff.mp hResult).1
      obtain ⟨pair, hPair, hName⟩ := List.mem_map.mp hNamed
      have hFree := contains_eq_false_iff.mp (hAccepts.free pair hPair)
      rw [hName, hFound] at hFree
      cases hFree

/-- Both parts hold for every file system and all settings that ask for the library's entities. -/
theorem sparesBuiltins (world : World) (hBuiltin : settings.builtinEntities = true) :
    SparesBuiltins world settings := by
  obtain ⟨start, hStart⟩ := builtin_succeeds
  constructor
  · intro registry builtin hBuild
    obtain ⟨declarations, rfl⟩ := exists_registerAll_of_buildRegistry hStart hBuiltin hBuild
    obtain ⟨config, hConfig, hFound⟩ := get?_of_builtin hStart builtin
    exact ⟨config, hConfig, get?_registerAll_of_get? hFound⟩
  · intro path declarations builtin hMappings hFile hNamed
    obtain ⟨cause, hRefused⟩ := registerAll_of_names_builtin hStart builtin hNamed
    exact ⟨cause, buildRegistry_of_refused hStart hBuiltin hMappings hFile hRefused⟩

end Builtin

/-- The exact outcome of every batch on every registry. It succeeds as a whole, or it stops at its
first refused declaration with that declaration's error, keeping those before it. Where settings ask
for the library's entities, these are registered first and never replaced. -/
theorem registerAll_outcome (registry : Registry) (pairs : List (String × Declaration)) :
    (∀ count, (registry.registerAll pairs).2 = .ok count ↔
      registry.Accepts pairs ∧ count = pairs.length) ∧
    (registry.Accepts pairs → ∃ configs, Configures pairs configs ∧
      registry.ExtendedBy configs (registry.registerAll pairs).1) ∧
    (∀ error, (registry.registerAll pairs).2 = .error error ↔
      ∃ i, RefusedAt registry.Refuses pairs i error) ∧
    (∀ i error, RefusedAt registry.Refuses pairs i error → registry.StopsAt pairs i error) ∧
    ∀ world settings, settings.builtinEntities = true → SparesBuiltins world settings := by
  refine ⟨fun _ => registerAll_eq_ok_iff, fun hAccepts => ?_, fun _ => registerAll_eq_error_iff,
    fun _ _ => stopsAt_of_refusedAt, fun world _ => sparesBuiltins world⟩
  exact (extendedBy_of_registerAll (registerAll_eq_ok_iff.mpr ⟨hAccepts, rfl⟩)).2

/-- Tags, notes, and tags once more, before tasks with a type that fields cannot have. -/
def tagsTwice : List (String × Declaration) :=
  [("tags", Declaration.empty.keyword "name"), ("notes", Declaration.empty.text "body"),
    ("tags", Declaration.empty.text "title"), ("tasks", Declaration.empty.property "at" "date")]

def ownMessages : String :=
  (Json.object [("messages", Declaration.empty.toJson)]).compact

theorem loadFile_ownMessages :
    Declaration.loadFile "own.json" (.contents ownMessages.toUTF8) =
      .ok [("messages", Declaration.empty)] := by
  have hText : String.fromUTF8? ownMessages.toUTF8 = some ownMessages :=
    dif_pos ownMessages.isValidUTF8
  have hRead : Declaration.readAll ownMessages = .ok [("messages", Declaration.empty)] := by
    rw [Declaration.readAll, Json.readText, Json.Document.ofText, ownMessages, Json.compact,
      String.toList_ofList]
    rfl
  simp only [Declaration.loadFile, hText, hRead]

/-- The repeated tags end the batch behind its first two declarations, and a file that declares
messages is refused. -/
theorem tagsTwice_stopped_and_ownMessages_refused :
    RefusedAt empty.Refuses tagsTwice 2 (.duplicateEntity "tags") ∧
      empty.StopsAt tagsTwice 2 (.duplicateEntity "tags") ∧
      (∃ configs, Configures (tagsTwice.take 2) configs ∧
        empty.ExtendedBy configs (empty.registerAll (tagsTwice.take 2)).1) ∧
      ∃ cause, buildRegistry ⟨fun _ => none, fun _ => .contents ownMessages.toUTF8⟩
          ⟨"warn", some "own.json", true, .entities⟩ =
        .error (.registration "own.json" cause) := by
  have hRefused : RefusedAt empty.Refuses tagsTwice 2 (.duplicateEntity "tags") := by
    refine (refusedAt_cons_of_register rfl).mpr ((refusedAt_cons_of_register rfl).mpr ?_)
    exact refusedAt_zero_iff.mpr (register_eq_error_iff.mp rfl)
  obtain ⟨hAccepts, hMade, _⟩ := registerAll_outcome empty (tagsTwice.take 2)
  obtain ⟨_, _, _, hStops, hSpares⟩ := registerAll_outcome empty tagsTwice
  refine ⟨hRefused, hStops 2 _ hRefused, hMade ((hAccepts 2).mp rfl).1, ?_⟩
  refine (hSpares _ _ rfl).refused "own.json" _ .messages rfl loadFile_ownMessages ?_
  exact List.mem_cons_self

end EntitySearch.Registry
