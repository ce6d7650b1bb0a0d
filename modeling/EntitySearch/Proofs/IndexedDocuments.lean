import EntitySearch.Entity.Builtin
import EntitySearch.Proofs.RegistryRun
import EntitySearch.Proofs.RequestAcceptance
import EntitySearch.Proofs.TermConcatenation

/-! Documents as they are indexed, against what is asked of them. A document says what its entity
has declared, so it can be asked for by all of its members; and the text of a message is normalized
piece by piece, so that its attachments are found in it. -/
namespace EntitySearch

section Text

/-- Each word is a contiguous part of the joined text. -/
theorem infix_intercalate (separator : String) {word : String} {words : List String}
    (h : word ∈ words) : word.toList <:+: (separator.intercalate words).toList := by
  induction words with
  | nil => cases h
  | cons first rest ih =>
      cases rest with
      | nil =>
          refine ⟨[], [], ?_⟩
          rw [List.mem_singleton.mp h, String.intercalate_singleton, List.nil_append,
            List.append_nil]
      | cons next rest =>
          rw [String.intercalate_cons_cons, String.toList_append, String.toList_append]
          rcases List.mem_cons.mp h with rfl | hRest
          · exact ⟨[], _, by rw [List.nil_append, List.append_assoc]⟩
          · exact (ih hRest).trans (List.suffix_append _ _).isInfix

/-- The indexed text of a message is its own text followed by the names of its attachments, joined
by blanks. Its cache plays no part in it. -/
theorem Message.get?_text (message : Message) :
    message.document.get? "text" =
      some (.string (message.text ++ " " ++ " ".intercalate (message.files.map (·.name)))) := by
  rw [document, Json.get?, documentMembers]
  cases message.cache with
  | none => rfl
  | some cache => rfl

/-- Normalization distributes over a blank, capital sigmas beside it included. Hence the normal form
of the indexed text is the message's own followed by those of the attachment names, and each of them
occurs in it contiguously. -/
theorem Message.normalize_indexed_text :
    (∀ s t : String,
      Term.normalize (s ++ " " ++ t) = Term.normalize s ++ " " ++ Term.normalize t) ∧
    ∀ message : Message, ∃ text, message.document.get? "text" = some (.string text) ∧
      Term.normalize text = Term.normalize message.text ++ " " ++
        " ".intercalate (message.files.map fun file => Term.normalize file.name) ∧
      (Term.normalize message.text).toList <:+: (Term.normalize text).toList ∧
      ∀ file ∈ message.files,
        (Term.normalize file.name).toList <:+: (Term.normalize text).toList := by
  refine ⟨Term.normalize_append_space, fun message => ⟨_, message.get?_text, ?_⟩⟩
  have hPieces :
      Term.normalize (message.text ++ " " ++ " ".intercalate (message.files.map (·.name))) =
        Term.normalize message.text ++ " " ++
          " ".intercalate (message.files.map fun file => Term.normalize file.name) := by
    rw [Term.normalize_append_space, Term.normalize_intercalate, List.map_map]
    rfl
  rw [hPieces, String.toList_append, String.toList_append]
  refine ⟨rfl, ?_, ?_⟩
  · rw [List.append_assoc]
    exact (List.prefix_append _ _).isInfix
  · intro file hFile
    have hName :
        Term.normalize file.name ∈ message.files.map fun file => Term.normalize file.name :=
      List.mem_map_of_mem hFile
    exact (infix_intercalate " " hName).trans (List.suffix_append _ _).isInfix

/-- A capital sigma at the end of the text, before the name of an attachment, is still final. -/
theorem Message.two_attachments_indexed :
    (⟨"Σ.pdf"⟩ : MessageFile) ∈ [⟨"Été.doc"⟩, ⟨"Σ.pdf"⟩] ∧
    ∃ text, (Message.mk "m1" "u1" "ΟΔΟΣ" [⟨"Été.doc"⟩, ⟨"Σ.pdf"⟩] none).document.get? "text" =
        some (.string text) ∧
      Term.normalize text = "οδος ete.doc σ.pdf" ∧
      (Term.normalize "ΟΔΟΣ").toList <:+: (Term.normalize text).toList ∧
      (Term.normalize "Σ.pdf").toList <:+: (Term.normalize text).toList := by
  have hFile : (⟨"Σ.pdf"⟩ : MessageFile) ∈ [⟨"Été.doc"⟩, ⟨"Σ.pdf"⟩] :=
    List.mem_cons_of_mem _ List.mem_cons_self
  obtain ⟨text, hText, hPieces, hBody, hFiles⟩ := Message.normalize_indexed_text.2
    ⟨"m1", "u1", "ΟΔΟΣ", [⟨"Été.doc"⟩, ⟨"Σ.pdf"⟩], none⟩
  refine ⟨hFile, text, hText, ?_, hBody, hFiles ⟨"Σ.pdf"⟩ hFile⟩
  rw [hPieces]
  rfl

end Text

section Filters

def FilterSet.ofMembers (members : List (String × Json)) : FilterSet :=
  members.foldl (fun filters member => filters.equals member.1 member.2) .empty

/-- Run lemma for adding equalities: earlier entries are kept and one is added for each member, in
order. -/
theorem FilterSet.entries_foldl_equals (filters : FilterSet) (members : List (String × Json)) :
    (members.foldl (fun filters member => filters.equals member.1 member.2) filters).entries =
      filters.entries ++ members.map fun member => ⟨member.1, .equals member.2, .known⟩ := by
  induction members generalizing filters with
  | nil => exact (List.append_nil _).symm
  | cons member rest ih =>
      rw [List.foldl_cons, ih, equals, push, List.append_assoc, List.map_cons,
        List.singleton_append]

theorem FilterSet.entries_ofMembers (members : List (String × Json)) :
    (ofMembers members).entries = members.map fun member => ⟨member.1, .equals member.2, .known⟩ :=
  entries_foldl_equals .empty members

/-- The configuration has the field of this member, and the value fits it. -/
def EntityConfig.Takes (config : EntityConfig) (member : String × Json) : Prop :=
  ∃ field, config.field? member.1 = some field ∧ member.2.Fits field

def CompiledSearch.requiring (search : CompiledSearch) (clauses : List Clause) : CompiledSearch :=
  { search with document.root.must := clauses ++ search.document.root.must }

/-- Filters and options contribute separately to the entries of a request. -/
theorem requestEntries_eq (filters : FilterSet) (options : SearchOptions) :
    requestEntries filters options = filters.entries ++ requestEntries .empty options := by
  rw [requestEntries, requestEntries, FilterSet.empty, List.nil_append, List.append_assoc]

/-- Equalities always have a clause, so none of the members is lost. -/
theorem entryClauses_equalities (members : List (String × Json)) (entries : List FilterEntry) :
    entryClauses ((members.map fun member => ⟨member.1, .equals member.2, .known⟩) ++ entries) =
      (members.map fun member => .equality member.1 member.2) ++ entryClauses entries := by
  induction members with
  | nil => rfl
  | cons member rest ih =>
      rw [List.map_cons, List.cons_append, entryClauses, List.flatMap_cons, ← entryClauses, ih]
      rfl

/-- If a request compiles alone, it compiles with equalities for members that the configuration
takes, and its search gains exactly their clauses in front. -/
theorem Registry.assemble_ofMembers {registry : Registry} {entity : String}
    {members : List (String × Json)} {config : EntityConfig}
    (hConfig : registry.get? entity = some config)
    (hTakes : ∀ member ∈ members, config.Takes member)
    {options : SearchOptions} {alone : CompiledSearch}
    (hAlone : registry.assemble entity .empty options = .ok alone) :
    registry.assemble entity (.ofMembers members) options =
      .ok (alone.requiring (members.map fun member => .equality member.1 member.2)) := by
  obtain ⟨found, hFound, hChecks, rfl⟩ := assemble_eq_ok_iff.mp hAlone
  obtain rfl : config = found := Option.some.inj (hConfig.symm.trans hFound)
  rw [assemble_eq_ok_iff]
  refine ⟨config, hConfig, ?_, ?_⟩
  · rw [requestEntries_eq, FilterSet.entries_ofMembers, List.forall_mem_append,
      List.forall_mem_map]
    refine ⟨fun member hMember => checkEntry_eq_ok_iff.mpr fun _ => ?_, hChecks⟩
    obtain ⟨field, hField, hFits⟩ := hTakes member hMember
    exact ⟨field, hField, List.forall_mem_singleton.mpr hFits⟩
  · rw [requestEntries_eq (.ofMembers members), FilterSet.entries_ofMembers,
      entryClauses_equalities]
    rfl

end Filters

section Declared

/-- The declaration has a property of this name, and the value fits the field made of it. -/
def Declaration.Covers (declaration : Declaration) (member : String × Json) : Prop :=
  ∃ property, (member.1, property) ∈ declaration.properties ∧
    ∀ field, EntityConfig.Declares (member.1, property) field → member.2.Fits field

variable {declaration : Declaration} {name : String} {property : Property}

/-- A text fits every declared type except boolean. -/
theorem Declaration.covers_string (h : (name, property) ∈ declaration.properties)
    (hType : property.type ≠ "boolean") (text : String) :
    declaration.Covers (name, .string text) := by
  refine ⟨property, h, fun field hField hKind => hType ?_⟩
  rw [FieldKind.ofName?_eq_some_iff.mp hField.kind, hKind]
  rfl

/-- A boolean fits every declared type. -/
theorem Declaration.covers_bool (h : (name, property) ∈ declaration.properties) (b : Bool) :
    declaration.Covers (name, .bool b) :=
  ⟨property, h, fun _ _ => trivial⟩

/-- The configuration made of a declaration takes every member that the declaration covers. -/
theorem Declaration.Covers.takes {member : String × Json} (h : declaration.Covers member)
    {entity : String} {config : EntityConfig}
    (hConfig : EntityConfig.ofDeclaration entity declaration = .ok config) :
    config.Takes member := by
  obtain ⟨property, hProperty, hFits⟩ := h
  obtain ⟨_, _, hFields, hValid⟩ := EntityConfig.ofDeclaration_eq_ok_iff.mp hConfig
  obtain ⟨field, hField, hDeclares⟩ := exists_of_forall₂_of_mem hFields hProperty
  exact ⟨field, hValid.field?_eq_some_iff.mpr ⟨hField, hDeclares.name⟩, hFits field hDeclares⟩

end Declared

/-- Every member of every message document is covered, with or without a cache. -/
theorem Message.declaration_covers (message : Message) :
    ∀ member ∈ message.documentMembers, Message.declaration.Covers member := by
  have hProperties : Message.declaration.properties = [("text", ⟨"text", none⟩),
      ("user_id", ⟨"keyword", none⟩), ("company_id", ⟨"keyword", none⟩),
      ("workspace_id", ⟨"keyword", none⟩), ("channel_id", ⟨"keyword", none⟩),
      ("has_files", ⟨"boolean", none⟩)] := rfl
  have hKeyword : ∀ name text, (name, ⟨"keyword", none⟩) ∈ Message.declaration.properties →
      Message.declaration.Covers (name, .string text) :=
    fun _ text h => Declaration.covers_string h (by decide) text
  have hText : ("text", ⟨"text", none⟩) ∈ Message.declaration.properties := by simp [hProperties]
  have hFiles : ("has_files", ⟨"boolean", none⟩) ∈ Message.declaration.properties := by
    simp [hProperties]
  rw [Message.documentMembers, List.forall_mem_append]
  constructor
  · cases message.cache with
    | none => exact List.forall_mem_nil _
    | some cache =>
        simp only [List.forall_mem_cons]
        refine ⟨hKeyword _ _ ?_, hKeyword _ _ ?_, hKeyword _ _ ?_, hKeyword _ _ ?_,
          List.forall_mem_nil _⟩ <;> simp [hProperties]
  · simp only [List.forall_mem_cons]
    exact ⟨Declaration.covers_string hText (by decide) _, Declaration.covers_bool hFiles _,
      List.forall_mem_nil _⟩

/-- Every member of every application document is covered, absent optional parts included. -/
theorem Application.declaration_covers (application : Application) :
    ∀ member ∈ application.documentMembers, Application.declaration.Covers member := by
  have hProperties : Application.declaration.properties =
      [("name", ⟨"text", some Declaration.defaultPrefixes⟩), ("description", ⟨"text", none⟩),
        ("company_id", ⟨"keyword", none⟩), ("published", ⟨"boolean", none⟩)] := rfl
  have hName : ("name", ⟨"text", some Declaration.defaultPrefixes⟩) ∈
      Application.declaration.properties := by simp [hProperties]
  have hDescription : ("description", ⟨"text", none⟩) ∈ Application.declaration.properties := by
    simp [hProperties]
  have hCompany : ("company_id", ⟨"keyword", none⟩) ∈ Application.declaration.properties := by
    simp [hProperties]
  have hPublished : ("published", ⟨"boolean", none⟩) ∈ Application.declaration.properties := by
    simp [hProperties]
  simp only [Application.documentMembers, List.forall_mem_cons]
  exact ⟨Declaration.covers_string hName (by decide) _,
    Declaration.covers_string hDescription (by decide) _,
    Declaration.covers_string hCompany (by decide) _, Declaration.covers_bool hPublished _,
    List.forall_mem_nil _⟩

/-- Documents indexed for a built-in entity, over all messages and applications. -/
inductive BuiltinEntity.Indexes : BuiltinEntity → Json → Prop where
  | message (message : Message) : Indexes .messages message.document
  | application (application : Application) : Indexes .applications application.document

/-- An indexed document is an object, and the declaration of its entity covers each of its
members. -/
theorem BuiltinEntity.Indexes.exists_members {entity : BuiltinEntity} {document : Json}
    (h : entity.Indexes document) :
    ∃ members, document = .object members ∧
      ∀ member ∈ members, entity.declaration.Covers member := by
  cases h with
  | message message => exact ⟨_, rfl, message.declaration_covers⟩
  | application application => exact ⟨_, rfl, application.declaration_covers⟩

/-- An indexed document conforms to the declaration of its entity, in any registry that stores the
configuration of this declaration. Each of its members names a declared field and fits it. Equality
filters for all members therefore compile beside any request that compiles by itself; they
contribute one clause for each member, with the value unchanged, in document order and in front of
the clauses of the request, and nothing else of the compiled search changes. -/
theorem BuiltinEntity.Indexes.members_compile {entity : BuiltinEntity} {document : Json}
    (hIndexed : entity.Indexes document) {registry : Registry} {config : EntityConfig}
    (hConfig : registry.get? entity.name = some config)
    (hDeclared : EntityConfig.ofDeclaration entity.name entity.declaration = .ok config) :
    ∃ members, document = .object members ∧ (∀ member ∈ members, config.Takes member) ∧
      ∀ options alone, registry.assemble entity.name .empty options = .ok alone →
        registry.assemble entity.name (.ofMembers members) options =
          .ok (alone.requiring (members.map fun member => .equality member.1 member.2)) := by
  obtain ⟨members, hDocument, hCovers⟩ := hIndexed.exists_members
  have hTakes : ∀ member ∈ members, config.Takes member :=
    fun member hMember => (hCovers member hMember).takes hDeclared
  exact ⟨members, hDocument, hTakes,
    fun options alone hAlone => Registry.assemble_ofMembers hConfig hTakes hAlone⟩

def Message.stored : Message :=
  ⟨"m1", "u1", "Report", [⟨"a.pdf"⟩], some ⟨"c1", "w1", "general"⟩⟩

/-- A message without cache, so that its document has no place. -/
def Message.unplaced : Message :=
  ⟨"m2", "u1", "Draft", [], none⟩

def Application.calendar : Application :=
  ⟨"a1", "c1", ⟨"Calendar", "Shared dates"⟩, ⟨true, false⟩⟩

def SearchOptions.pinnedReport : SearchOptions :=
  (empty.withText "report").withRaw "pinned" (.bool true)

/-- A stored message, one without a cache and an application. The registry of the built-in entities
accepts all members of each document beside a text and a raw filter. -/
theorem indexed_documents_compiled :
    ∃ registry alone others, Registry.builtin = .ok registry ∧
      registry.assemble "messages" .empty .pinnedReport = .ok alone ∧
      registry.assemble "applications" .empty .pinnedReport = .ok others ∧
      (∃ members, Message.stored.document = .object members ∧
        registry.assemble "messages" (.ofMembers members) .pinnedReport =
          .ok (alone.requiring [.equality "company_id" (.string "c1"),
            .equality "workspace_id" (.string "w1"), .equality "channel_id" (.string "general"),
            .equality "user_id" (.string "u1"), .equality "text" (.string "Report a.pdf"),
            .equality "has_files" (.bool true)])) ∧
      (∃ members, Message.unplaced.document = .object members ∧
        registry.assemble "messages" (.ofMembers members) .pinnedReport =
          .ok (alone.requiring [.equality "text" (.string "Draft "),
            .equality "has_files" (.bool false)])) ∧
      ∃ members, Application.calendar.document = .object members ∧
        registry.assemble "applications" (.ofMembers members) .pinnedReport =
          .ok (others.requiring [.equality "name" (.string "Calendar"),
            .equality "description" (.string "Shared dates"),
            .equality "company_id" (.string "c1"), .equality "published" (.bool true)]) := by
  obtain ⟨registry, alone, others, hBuiltin, hAlone, hOthers⟩ :
      ∃ registry alone others, Registry.builtin = .ok registry ∧
        registry.assemble "messages" .empty .pinnedReport = .ok alone ∧
        registry.assemble "applications" .empty .pinnedReport = .ok others :=
    ⟨_, _, _, rfl, rfl, rfl⟩
  obtain ⟨messages, hMessagesDeclared, hMessages⟩ := Registry.get?_of_builtin hBuiltin .messages
  obtain ⟨applications, hApplicationsDeclared, hApplications⟩ :=
    Registry.get?_of_builtin hBuiltin .applications
  refine ⟨registry, alone, others, hBuiltin, hAlone, hOthers, ?_, ?_, ?_⟩
  · obtain ⟨members, hDocument, _, hCompile⟩ :=
      (BuiltinEntity.Indexes.message .stored).members_compile hMessages hMessagesDeclared
    obtain rfl := Json.object.inj hDocument
    exact ⟨_, hDocument, hCompile .pinnedReport alone hAlone⟩
  · obtain ⟨members, hDocument, _, hCompile⟩ :=
      (BuiltinEntity.Indexes.message .unplaced).members_compile hMessages hMessagesDeclared
    obtain rfl := Json.object.inj hDocument
    exact ⟨_, hDocument, hCompile .pinnedReport alone hAlone⟩
  · obtain ⟨members, hDocument, _, hCompile⟩ :=
      (BuiltinEntity.Indexes.application .calendar).members_compile hApplications
        hApplicationsDeclared
    obtain rfl := Json.object.inj hDocument
    exact ⟨_, hDocument, hCompile .pinnedReport others hOthers⟩

end EntitySearch
