import LoaderGen.GoType.Resolution
import LoaderGen.Proofs.Lookup
import LoaderGen.Proofs.Options.Finalize

/-!
# Which override a column gets

The overrides of a run are the rules of the shared document, then those of the plugin's own. Of
these a column gets the first that means it by name, wherever it stands, and only where there is
none the first that means its declared type. The two kinds are searched apart from each other, so
only the order within each kind matters.
-/

namespace LoaderGen

namespace Override

variable {overrides : List Override} {column : Column} {defaultSchema : String}

/-- The override names a type, and its column specifier means the column and its table. -/
structure MeansByName (override : Override) (column : Column) (defaultSchema : String) : Prop where
  hasType : override.rule.goType.isEmpty = false
  hasSpecifier : override.rule.column ≠ ""
  name : override.matchesColumnName column.matchName = true
  table : override.matchesTable column.table defaultSchema = true

/-- The override names a type, has no column specifier, and is for columns declared as this one:
with its type and sign, and nullable where the column can be null. -/
structure MeansByType (override : Override) (column : Column) : Prop where
  hasType : override.rule.goType.isEmpty = false
  hasNoSpecifier : override.rule.column = ""
  dbType : override.rule.dbType = column.dataType
  nullable : override.rule.nullable ≠ column.neverNull
  unsigned : override.rule.unsigned = column.unsigned

/-- What a column gets of a list of overrides: the first that means it by name, else the first that
means it by its declared type. -/
inductive Chosen (overrides : List Override) (column : Column) (defaultSchema : String) :
    Option Override → Prop where
  | byName {override : Override}
      (h : IsFirst (·.MeansByName column defaultSchema) overrides override) :
      Chosen overrides column defaultSchema (some override)
  | byType {override : Override}
      (hname : ∀ other ∈ overrides, ¬ other.MeansByName column defaultSchema)
      (h : IsFirst (·.MeansByType column) overrides override) :
      Chosen overrides column defaultSchema (some override)
  | none (hname : ∀ other ∈ overrides, ¬ other.MeansByName column defaultSchema)
      (htype : ∀ other ∈ overrides, ¬ other.MeansByType column) :
      Chosen overrides column defaultSchema none

theorem kind_beq_column (override : Override) :
    (override.kind == .column) = !override.rule.column.isEmpty := by
  unfold kind
  cases override.rule.column.isEmpty <;> rfl

theorem kind_beq_dbType (override : Override) :
    (override.kind == .dbType) = override.rule.column.isEmpty := by
  unfold kind
  cases override.rule.column.isEmpty <;> rfl

theorem meansByName_iff (override : Override) :
    override.MeansByName column defaultSchema ↔
      (!override.rule.goType.isEmpty) = true ∧
        override.matchesColumn column defaultSchema = true := by
  simp only [matchesColumn, kind_beq_column, Bool.and_eq_true, Bool.not_eq_true',
    String.isEmpty_eq_false_iff]
  constructor
  · intro h
    exact ⟨h.hasType, ⟨h.hasSpecifier, h.name⟩, h.table⟩
  · rintro ⟨htype, ⟨hspecifier, hname⟩, htable⟩
    exact ⟨htype, hspecifier, hname, htable⟩

theorem meansByType_iff (override : Override) :
    override.MeansByType column ↔
      (!override.rule.goType.isEmpty) = true ∧ override.matchesDeclaration column = true := by
  simp only [matchesDeclaration, kind_beq_dbType, Bool.and_eq_true, Bool.not_eq_true', beq_iff_eq,
    bne_iff_ne, String.isEmpty_iff]
  constructor
  · intro h
    exact ⟨h.hasType, ⟨⟨h.hasNoSpecifier, h.dbType⟩, h.nullable⟩, h.unsigned⟩
  · rintro ⟨htype, ⟨⟨hspecifier, hdeclared⟩, hnullable⟩, hunsigned⟩
    exact ⟨htype, hspecifier, hdeclared, hnullable, hunsigned⟩

theorem chosen_firstFor? (overrides : List Override) (column : Column) (defaultSchema : String) :
    Chosen overrides column defaultSchema (firstFor? overrides column defaultSchema) := by
  simp only [firstFor?]
  cases hname : (overrides.filter fun override => !override.rule.goType.isEmpty).find?
      (·.matchesColumn column defaultSchema) with
  | some override => exact .byName ((find?_filter_eq_some meansByName_iff).1 hname)
  | none =>
      have hname := (find?_filter_eq_none meansByName_iff).1 hname
      cases htype : (overrides.filter fun override => !override.rule.goType.isEmpty).find?
          (·.matchesDeclaration column) with
      | some override => exact .byType hname ((find?_filter_eq_some meansByType_iff).1 htype)
      | none => exact .none hname ((find?_filter_eq_none meansByType_iff).1 htype)

/-- The search for an override finds the one to be chosen, and there is only one. -/
theorem firstFor?_eq_iff {chosen : Option Override} :
    firstFor? overrides column defaultSchema = chosen ↔
      Chosen overrides column defaultSchema chosen := by
  constructor
  · rintro rfl
    exact chosen_firstFor? overrides column defaultSchema
  · intro h
    rw [firstFor?]
    cases h with
    | byName h => rw [(find?_filter_eq_some meansByName_iff).2 h, Option.some_or]
    | byType hname h =>
        rw [(find?_filter_eq_none meansByName_iff).2 hname, Option.none_or,
          (find?_filter_eq_some meansByType_iff).2 h]
    | none hname htype =>
        rw [(find?_filter_eq_none meansByName_iff).2 hname, Option.none_or,
          (find?_filter_eq_none meansByType_iff).2 htype]

/-- Only the order within each of the two kinds matters. -/
theorem firstFor?_congr {others : List Override}
    (hname : overrides.filter (·.kind == .column) = others.filter (·.kind == .column))
    (htype : overrides.filter (·.kind == .dbType) = others.filter (·.kind == .dbType)) :
    firstFor? overrides column defaultSchema = firstFor? others column defaultSchema := by
  have hcolumn : ∀ override : Override, override.matchesColumn column defaultSchema = true →
      (override.kind == .column) = true := by
    intro override h
    simp only [matchesColumn, Bool.and_eq_true] at h
    exact h.1.1
  have hdeclared : ∀ override : Override, override.matchesDeclaration column = true →
      (override.kind == .dbType) = true := by
    intro override h
    simp only [matchesDeclaration, Bool.and_eq_true] at h
    exact h.1.1.1
  simp only [firstFor?]
  rw [find?_filter_congr hcolumn hname, find?_filter_congr hdeclared htype]

theorem rule_of_compile {rule : OverrideRule} {override : Override}
    (h : compile defaultSchema rule = .ok override) : override.rule = rule := by
  unfold compile at h
  split at h
  · cases h
  · split at h
    · cases h
    · split at h
      · cases h
        rfl
      · obtain ⟨matcher, -, h⟩ := bind_eq_ok.1 h
        cases h
        rfl

end Override

/-- The two lists have the same rules with a column specifier in the same order, and the same rules
without one in the same order. -/
structure OverrideRule.SameOrders (rules others : List OverrideRule) : Prop where
  withColumn : rules.filter (!·.column.isEmpty) = others.filter (!·.column.isEmpty)
  withoutColumn : rules.filter (·.column.isEmpty) = others.filter (·.column.isEmpty)

namespace OverrideRule.SameOrders

variable {rules others : List OverrideRule}

theorem mem_of_mem (h : SameOrders rules others) {rule : OverrideRule} (hrule : rule ∈ rules) :
    rule ∈ others := by
  cases hcolumn : rule.column.isEmpty with
  | true =>
      have hmem : rule ∈ rules.filter (·.column.isEmpty) := List.mem_filter.2 ⟨hrule, hcolumn⟩
      rw [h.withoutColumn] at hmem
      exact (List.mem_filter.1 hmem).1
  | false =>
      have hmem : rule ∈ rules.filter (!·.column.isEmpty) :=
        List.mem_filter.2 ⟨hrule, by rw [hcolumn]; rfl⟩
      rw [h.withColumn] at hmem
      exact (List.mem_filter.1 hmem).1

end OverrideRule.SameOrders

namespace Override

variable {rules others : List OverrideRule} {overrides reordered : List Override}
  {defaultSchema : String}

/-- Compiling keeps rules apart by kind. -/
theorem filter_of_compile {p : OverrideRule → Bool} {q : Override → Bool}
    (hkind : ∀ override : Override, q override = p override.rule)
    (h : rules.mapM (compile defaultSchema) = .ok overrides) :
    (rules.filter p).mapM (compile defaultSchema) = .ok (overrides.filter q) :=
  mapM_filter_eq_ok (fun rule override hcompile => by rw [hkind, rule_of_compile hcompile]) h

/-- Rules that are put into another order, in which each kind keeps its own, compile as well, and
every column gets the same override. -/
theorem exists_compile_of_sameOrders (hsame : OverrideRule.SameOrders others rules)
    (h : rules.mapM (compile defaultSchema) = .ok overrides) :
    ∃ reordered, others.mapM (compile defaultSchema) = .ok reordered ∧
      ∀ column,
        firstFor? reordered column defaultSchema = firstFor? overrides column defaultSchema := by
  obtain ⟨reordered, hreordered⟩ := exists_mapM_eq_ok.2 fun rule hrule =>
    exists_mapM_eq_ok.1 ⟨overrides, h⟩ rule (hsame.mem_of_mem hrule)
  have hkind : ∀ {kind : OverrideKind} {p : OverrideRule → Bool},
      (∀ override : Override, (override.kind == kind) = p override.rule) →
      others.filter p = rules.filter p →
      reordered.filter (·.kind == kind) = overrides.filter (·.kind == kind) := by
    intro kind p hkind hfilter
    have hcompiled := filter_of_compile hkind hreordered
    rw [hfilter, filter_of_compile hkind h] at hcompiled
    exact (Except.ok.inj hcompiled).symm
  refine ⟨reordered, hreordered, fun column => firstFor?_congr ?_ ?_⟩
  · exact hkind kind_beq_column hsame.withColumn
  · exact hkind kind_beq_dbType hsame.withoutColumn

end Override

/-- The draft with other rules. -/
def OptionsDraft.withRules (draft : OptionsDraft) (rules : List OverrideRule) : OptionsDraft :=
  { draft with overrides := rules }

def Options.withOverrides (options : Options) (overrides : List Override) : Options :=
  { options with overrides := overrides }

theorem Options.columnType_eq (options : Options) (mapType : Column → GoType) (column : Column) :
    options.columnType mapType column =
      ((options.overrideFor? column).elim (mapType column) (·.rule.goType.resolve)).wrapSlice
        column.sliceLevels := by
  unfold columnType
  cases options.overrideFor? column <;> rfl

/-- The overrides are the rules of the shared document, then the plugin's own, each compiled under
the default schema. A column gets the first of them that means it by name and only where none does
the first that means it by its declared type, whatever the engine makes of the column. Putting the
rules into another order, in which each kind keeps its own, is as good and changes no override. -/
theorem override_precedence {request : Request} {draft : OptionsDraft} {shared : GlobalOptions}
    {options : Options}
    (hplugin : readDocument .plugin {} (OptionsDraft.ofValue? .json) request.pluginOptions
      = .ok draft)
    (hglobal : readDocument .global {} (GlobalOptions.ofValue? .json) request.globalOptions
      = .ok shared)
    (hoptions : Options.ofRequest request = .ok options) :
    (shared.overrides ++ draft.overrides).mapM (Override.compile options.defaultSchema)
      = .ok options.overrides ∧
    (∀ column chosen, options.overrideFor? column = chosen ↔
      Override.Chosen options.overrides column options.defaultSchema chosen) ∧
    (∀ mapType column, options.columnType mapType column =
      ((options.overrideFor? column).elim (mapType column) (·.rule.goType.resolve)).wrapSlice
        column.sliceLevels) ∧
    ∀ rules, OverrideRule.SameOrders rules (shared.overrides ++ draft.overrides) →
      ∃ reordered,
        ((draft.merge shared).withRules rules).finalize request.catalog.defaultSchema
          = .ok (options.withOverrides reordered) ∧
        ∀ column, (options.withOverrides reordered).overrideFor? column =
          options.overrideFor? column := by
  obtain ⟨draft, shared, hdraft, hshared, hfinalize⟩ := Options.ofRequest_eq_ok.1 hoptions
  rw [hplugin] at hdraft
  rw [hglobal] at hshared
  cases hdraft
  cases hshared
  obtain ⟨hpackage, hcompile, hsound, hpreferences, hschema, hinitialisms⟩ :=
    OptionsDraft.finalize_eq_ok.1 hfinalize
  have hcompile : (shared.overrides ++ draft.overrides).mapM
      (Override.compile options.defaultSchema) = .ok options.overrides := by
    rw [hschema]
    exact hcompile
  refine ⟨hcompile, fun column chosen => Override.firstFor?_eq_iff, options.columnType_eq,
    fun rules hsame => ?_⟩
  obtain ⟨reordered, hreordered, hsearch⟩ := Override.exists_compile_of_sameOrders hsame hcompile
  rw [hschema] at hreordered
  exact ⟨reordered, OptionsDraft.finalize_eq_ok.2
    ⟨hpackage, hreordered, hsound, hpreferences, hschema, hinitialisms⟩, hsearch⟩

def uuidRule (goType : String) : OverrideRule := { goType := .text goType, dbType := "uuid" }

/-- The rule for the key of the authors. -/
def keyRule : OverrideRule := { goType := .text "int64", column := "authors.id" }

/-- Both documents have a rule for columns of one type, and the plugin's own one for a key too. -/
def twoDocuments : Request where
  pluginOptions := Text.bytesOf <|
    "\x7b\"package\": \"db\", \"overrides\": [" ++
      "\x7b\"db_type\": \"uuid\", \"go_type\": \"string\"\x7d, " ++
      "\x7b\"column\": \"authors.id\", \"go_type\": \"int64\"\x7d]\x7d"
  globalOptions := Text.bytesOf
    "\x7b\"overrides\": [\x7b\"db_type\": \"uuid\", \"go_type\": \"[]byte\"\x7d]\x7d"

def uuidColumn (table : String) : Column where
  name := "id"
  notNull := true
  table := some { name := table }
  type := some { name := "uuid" }

/-- The last rule of all decides for the key, and the first one for other columns. Put before the
others, the rule for the key still decides for it alone. -/
theorem override_of_two_documents :
    ∃ options reordered, Options.ofRequest twoDocuments = .ok options ∧
      (options.overrideFor? (uuidColumn "authors")).map (·.rule) = some keyRule ∧
      (options.overrideFor? (uuidColumn "books")).map (·.rule) = some (uuidRule "[]byte") ∧
      [keyRule, uuidRule "[]byte", uuidRule "string"].mapM
        (Override.compile options.defaultSchema) = .ok reordered ∧
      ∀ column, (options.withOverrides reordered).overrideFor? column =
        options.overrideFor? column := by
  have hplugin : readDocument .plugin {} (OptionsDraft.ofValue? .json) twoDocuments.pluginOptions =
      .ok { package := "db", overrides := [uuidRule "string", keyRule] } :=
    toOption_eq_some.1 (by decide +kernel)
  have hglobal : readDocument .global {} (GlobalOptions.ofValue? .json)
      twoDocuments.globalOptions = .ok { overrides := [uuidRule "[]byte"] } :=
    toOption_eq_some.1 (by decide +kernel)
  obtain ⟨options, hfinalize⟩ := exists_eq_ok_of_isOk
    (show (OptionsDraft.finalize (OptionsDraft.merge
        { package := "db", overrides := [uuidRule "string", keyRule] }
        { overrides := [uuidRule "[]byte"] }) "").isOk = true by decide +kernel)
  have hoptions : Options.ofRequest twoDocuments = .ok options :=
    Options.ofRequest_eq_ok.2 ⟨_, _, hplugin, hglobal, hfinalize⟩
  have hschema : options.defaultSchema = "public" :=
    (OptionsDraft.finalize_eq_ok.1 hfinalize).2.2.2.2.1
  obtain ⟨hcompile, -, -, horder⟩ := override_precedence hplugin hglobal hoptions
  have hcompile : [uuidRule "[]byte", uuidRule "string", keyRule].mapM
      (Override.compile options.defaultSchema) = .ok options.overrides := hcompile
  obtain ⟨reordered, hreordered, hsearch⟩ := horder
    [keyRule, uuidRule "[]byte", uuidRule "string"] ⟨by decide, by decide⟩
  have hreordered : [keyRule, uuidRule "[]byte", uuidRule "string"].mapM
      (Override.compile options.defaultSchema) = .ok reordered := by
    rw [hschema]
    exact (OptionsDraft.finalize_eq_ok.1 hreordered).2.1
  have hfound : (([uuidRule "[]byte", uuidRule "string", keyRule].mapM
      (Override.compile "public")).toOption.map fun overrides =>
        ["authors", "books"].map fun table =>
          (Override.firstFor? overrides (uuidColumn table) "public").map (·.rule)) =
      some [some keyRule, some (uuidRule "[]byte")] := by
    decide +kernel
  rw [← hschema, toOption_eq_some.2 hcompile] at hfound
  simp only [Option.map_some, List.map_cons, List.map_nil, Option.some_inj, List.cons.injEq,
    and_true] at hfound
  exact ⟨options, reordered, hoptions, hfound.1, hfound.2, hreordered, hsearch⟩

end LoaderGen
