import LoaderGen.Proofs.Glob.Literal
import LoaderGen.Proofs.Model.Rows
import LoaderGen.Proofs.Options.Compile

/-!
# The default schema of overrides

What is written `table.column` in the options is for tables of the default schema, which a table can
leave out. Lists of columns compare schemas as texts. An override reads the default schema as a glob,
as it reads the parts of its specifier, and so is for the tables of all schemas that this glob
matches. That is the same exactly where the default schema has no control character of globs.
-/

namespace LoaderGen

/-- The table is in the schema, or names none. -/
def Identifier.IsWithin (ident : Identifier) (schema : String) : Prop :=
  ident.schema = "" ∨ ident.schema = schema

instance (ident : Identifier) (schema : String) : Decidable (ident.IsWithin schema) :=
  inferInstanceAs (Decidable (ident.schema = "" ∨ ident.schema = schema))

theorem Identifier.schemaOr_eq_iff {ident : Identifier} {schema : String} :
    ident.schemaOr schema = schema ↔ ident.IsWithin schema := by
  unfold schemaOr IsWithin
  split
  · next hempty => exact iff_of_true rfl (.inl (by simpa using hempty))
  · next hnamed =>
    have hne : ident.schema ≠ "" := by simpa using hnamed
    exact (or_iff_right hne).symm

theorem Identifier.eq_toText_iff {ident : Identifier} {text : String} (h : '.' ∉ text.toList) :
    text = ident.toText ↔ ident.schema = "" ∧ ident.name = text := by
  unfold toText
  split
  · next hempty =>
    have hschema : ident.schema = "" := by simpa using hempty
    rw [and_iff_right hschema, eq_comm]
  · next hnamed =>
    have hne : ident.schema ≠ "" := by simpa using hnamed
    refine iff_of_false ?_ fun hand => hne hand.1
    intro heq
    rw [heq] at h
    simp at h

/-- The rule is for columns, by a glob for tables and one for columns. -/
structure OverrideRule.HasTwoParts (rule : OverrideRule) (table column : Pattern) : Prop where
  dbType : rule.dbType = ""
  cuts : CutsAtPoints rule.column [table.source, column.source]

theorem CutsAtPoints.two_parts {text first second : String}
    (h : CutsAtPoints text [first, second]) :
    CutsAtLastPoint text first second ∧ '.' ∉ first.toList := by
  refine ⟨⟨?_, h.pointless second (by simp)⟩, h.pointless first (by simp)⟩
  rw [← h.joined, ← String.toList_inj]
  simp

theorem OverrideRule.HasTwoParts.column_ne {rule : OverrideRule} {table column : Pattern}
    (h : rule.HasTwoParts table column) : rule.column ≠ "" := by
  intro hempty
  have hcut := h.cuts.two_parts.1.1
  rw [hempty, ← String.toList_inj] at hcut
  simp at hcut

/-- A bare entry of a list of columns is for one column of one table, in the default schema. -/
theorem Options.entryNames_bare {options : Options} {ident : Identifier}
    {name entry table column : String} (h : CutsAtPoints entry [table, column]) :
    options.entryNames ident name entry = true ↔
      ident.IsWithin options.defaultSchema ∧ ident.name = table ∧ name = column := by
  obtain ⟨hcut, htable⟩ := h.two_parts
  have howner : table = ident.toText ∨ ident.schema = options.defaultSchema ∧ table = ident.name ↔
      ident.IsWithin options.defaultSchema ∧ ident.name = table := by
    rw [Identifier.eq_toText_iff htable, Identifier.IsWithin, or_and_right, eq_comm (a := table)]
  unfold entryNames
  rw [cutsAtLastPoint_iff.1 hcut]
  simp only [String.ofList_toList, Bool.and_eq_true, Bool.or_eq_true, beq_iff_eq]
  rw [howner, and_comm, and_assoc, eq_comm (a := column)]

namespace Override

variable {defaultSchema : String} {rule : OverrideRule} {override : Override}
  {schema table column : Pattern}

theorem compile_eq_ok_of_hasTwoParts (h : rule.HasTwoParts table column) :
    compile defaultSchema rule = .ok override ↔
      ∃ schema, Pattern.compile defaultSchema = .ok schema ∧
        override = ⟨rule, some ⟨none, schema, table, column⟩⟩ := by
  have hasks : AsksFor rule.column defaultSchema [defaultSchema, table.source, column.source] :=
    .bare h.cuts
  rw [compile_of_column h.column_ne h.dbType, map_eq_ok]
  simp only [ColumnMatcher.ofSpecifier_eq_ok_of_asksFor hasks, Pattern.compile_eq_ok]
  constructor
  · intro hmatcher
    obtain ⟨⟨catalog, schema, table', column'⟩, hglobs, rfl⟩ := hmatcher
    cases catalog with
    | some catalog => simp [ColumnMatcher.globs] at hglobs
    | none =>
        simp only [ColumnMatcher.globs, Option.map_none, Option.toList_none, List.nil_append,
          List.cons.injEq, and_true] at hglobs
        obtain ⟨hschema, htable, hcolumn⟩ := hglobs
        obtain rfl := Pattern.eq_of_source_eq htable
        obtain rfl := Pattern.eq_of_source_eq hcolumn
        exact ⟨schema, hschema, rfl⟩
  · intro hschema
    obtain ⟨schema, hschema, rfl⟩ := hschema
    refine ⟨⟨none, schema, table, column⟩, ?_, rfl⟩
    rw [← hschema]
    rfl

theorem compile_eq_error_of_hasTwoParts {fault : Glob.Fault} (h : rule.HasTwoParts table column)
    (hfault : Pattern.compile defaultSchema = .error fault) :
    compile defaultSchema rule = .error (.overridePattern defaultSchema fault) := by
  have hasks : AsksFor rule.column defaultSchema [defaultSchema, table.source, column.source] :=
    .bare h.cuts
  have hfirst : compilePattern defaultSchema = .error (.overridePattern defaultSchema fault) := by
    rw [compilePattern, hfault]
    rfl
  rw [compile_of_column h.column_ne h.dbType, map_eq_error,
    ColumnMatcher.ofSpecifier_eq_error_of_asksFor hasks, List.mapM_cons]
  exact bind_eq_error.2 (.inl hfirst)

theorem matchesTable_of_matcher (ident : Identifier) :
    matchesTable ⟨rule, some ⟨none, schema, table, column⟩⟩ (some ident) defaultSchema = true ↔
      schema.isMatch (ident.schemaOr defaultSchema) = true ∧ table.isMatch ident.name = true := by
  simp [matchesTable, ColumnMatcher.matchesTable]

/-- The default schema is that of overrides of two parts: they compile, and are for its tables and no
others, as a bare entry of a list of columns is. -/
structure MeansDefaultSchema (defaultSchema : String) : Prop where
  compiles : ∀ {rule table column}, rule.HasTwoParts table column →
    ∃ override, compile defaultSchema rule = .ok override
  matchesTable_iff : ∀ {rule table column override}, rule.HasTwoParts table column →
    compile defaultSchema rule = .ok override → ∀ ident,
      override.matchesTable (some ident) defaultSchema = true ↔
        ident.IsWithin defaultSchema ∧ table.isMatch ident.name = true
  entryNames_iff : ∀ {rule table column override}, rule.HasTwoParts table column →
    Glob.IsPlain table.source → Glob.IsPlain column.source →
      compile defaultSchema rule = .ok override →
        ∀ options : Options, options.defaultSchema = defaultSchema → ∀ ident name,
          options.entryNames ident name rule.column = true ↔
            override.matchesTable (some ident) defaultSchema = true ∧
              override.matchesColumnName name = true

theorem isMatch_iff_of_isPlain {pattern : Pattern} (h : Glob.IsPlain pattern.source)
    {text : String} : pattern.isMatch text = true ↔ text = pattern.source := by
  obtain ⟨literal, hcompile, hmatch⟩ := Glob.exists_literal h
  obtain rfl := Pattern.eq_of_source_eq (Pattern.compile_eq_ok.1 hcompile)
  exact hmatch text

theorem meansDefaultSchema_of_isPlain (h : Glob.IsPlain defaultSchema) :
    MeansDefaultSchema defaultSchema := by
  have htable : ∀ {rule table column override}, rule.HasTwoParts table column →
      compile defaultSchema rule = .ok override → ∀ ident,
        override.matchesTable (some ident) defaultSchema = true ↔
          ident.IsWithin defaultSchema ∧ table.isMatch ident.name = true := by
    intro rule table column override hparts hok ident
    obtain ⟨schema, hschema, rfl⟩ := (compile_eq_ok_of_hasTwoParts hparts).1 hok
    obtain rfl := Pattern.compile_eq_ok.1 hschema
    rw [matchesTable_of_matcher, isMatch_iff_of_isPlain h, Identifier.schemaOr_eq_iff]
  refine ⟨?_, htable, ?_⟩
  · intro rule table column hparts
    obtain ⟨schema, hschema, -⟩ := Glob.exists_literal h
    exact ⟨_, (compile_eq_ok_of_hasTwoParts hparts).2 ⟨schema, hschema, rfl⟩⟩
  · intro rule table column override hparts hplainTable hplainColumn hok options hdefault ident name
    rw [Options.entryNames_bare hparts.cuts, htable hparts hok, hdefault,
      isMatch_iff_of_isPlain hplainTable, and_assoc]
    obtain ⟨schema, -, rfl⟩ := (compile_eq_ok_of_hasTwoParts hparts).1 hok
    rw [matchesColumnName, Option.any_some, isMatch_iff_of_isPlain hplainColumn]

/-- For any texts that are plain and have no point there is a rule of these two parts. -/
theorem exists_hasTwoParts {first second : String} (hfirst : Glob.IsPlain first)
    (hsecond : Glob.IsPlain second) (hpointless : '.' ∉ first.toList ∧ '.' ∉ second.toList) :
    ∃ table column, table.source = first ∧ column.source = second ∧
      OverrideRule.HasTwoParts { column := first ++ "." ++ second } table column := by
  obtain ⟨table, htable, -⟩ := Glob.exists_literal hfirst
  obtain ⟨column, hcolumn, -⟩ := Glob.exists_literal hsecond
  obtain rfl := Pattern.compile_eq_ok.1 htable
  obtain rfl := Pattern.compile_eq_ok.1 hcolumn
  refine ⟨table, column, rfl, rfl, rfl, List.cons_ne_nil _ _, ?_, ?_⟩
  · simpa using hpointless
  · rw [← String.toList_inj]
    simp

theorem MeansDefaultSchema.isPlain (h : MeansDefaultSchema defaultSchema) :
    Glob.IsPlain defaultSchema := by
  have hplain : Glob.IsPlain "t" := by decide
  obtain ⟨table, column, htable, -, hparts⟩ :=
    exists_hasTwoParts hplain hplain (by decide)
  obtain ⟨override, hok⟩ := h.compiles hparts
  obtain ⟨schema, hschema, rfl⟩ := (compile_eq_ok_of_hasTwoParts hparts).1 hok
  refine Glob.matches_itself_alone_iff.1 ⟨schema, hschema, fun text htext => ?_⟩
  have hname : table.isMatch "t" = true :=
    (isMatch_iff_of_isPlain (htable.symm ▸ hplain)).2 htable.symm
  have hident := h.matchesTable_iff hparts hok { schema := text, name := "t" }
  rw [matchesTable_of_matcher, Identifier.schemaOr_of_ne _ htext, and_iff_left hname,
    and_iff_left hname] at hident
  rw [hident]
  exact or_iff_right htext

/-- Overrides of two parts read the default schema as a glob. They compile if it is one, and then are
for the tables of all schemas that it matches. These are those of the default schema alone, and those
that bare entries of lists of columns are for, exactly where it has no control characters. -/
theorem two_parts_read_default_as_glob (defaultSchema : String) :
    (∀ {rule table column}, rule.HasTwoParts table column →
      (∀ fault, Pattern.compile defaultSchema = .error fault →
        compile defaultSchema rule = .error (.overridePattern defaultSchema fault)) ∧
      ∀ schema, Pattern.compile defaultSchema = .ok schema →
        ∃ override, compile defaultSchema rule = .ok override ∧ ∀ ident,
          override.matchesTable (some ident) defaultSchema = true ↔
            schema.isMatch (ident.schemaOr defaultSchema) = true ∧
              table.isMatch ident.name = true) ∧
    (MeansDefaultSchema defaultSchema ↔ Glob.IsPlain defaultSchema) := by
  refine ⟨?_, MeansDefaultSchema.isPlain, meansDefaultSchema_of_isPlain⟩
  intro rule table column hparts
  constructor
  · intro fault hfault
    exact compile_eq_error_of_hasTwoParts hparts hfault
  · intro schema hschema
    exact ⟨_, (compile_eq_ok_of_hasTwoParts hparts).2 ⟨schema, hschema, rfl⟩,
      matchesTable_of_matcher⟩

def authorIds : OverrideRule := { column := "authors.id" }

theorem hasTwoParts_authorIds : ∃ table column, table.source = "authors" ∧ column.source = "id" ∧
    authorIds.HasTwoParts table column :=
  exists_hasTwoParts (by decide) (by decide) (by decide)

/-- Authors without a schema are meant, and those of another schema are not. -/
theorem authors_of_public_meant :
    Glob.IsPlain "public" ∧ ∃ override, compile "public" authorIds = .ok override ∧
      override.matchesTable (some { name := "authors" }) "public" = true ∧
      override.matchesTable (some { schema := "audit", name := "authors" }) "public" = false ∧
      plainOptions.entryNames { schema := "public", name := "authors" } "id" "authors.id" = true ∧
      override.matchesTable (some { schema := "public", name := "authors" }) "public" = true := by
  have hplain : Glob.IsPlain "public" := by decide
  obtain ⟨table, column, htable, hcolumn, hparts⟩ := hasTwoParts_authorIds
  have hmeans : MeansDefaultSchema "public" := (two_parts_read_default_as_glob "public").2.2 hplain
  obtain ⟨override, hok⟩ := hmeans.compiles hparts
  have hname : table.isMatch "authors" = true :=
    (isMatch_iff_of_isPlain (htable ▸ by decide)).2 htable.symm
  have hmatch := hmeans.matchesTable_iff hparts hok
  have hentry : plainOptions.entryNames { schema := "public", name := "authors" } "id" "authors.id" =
      true := by decide +kernel
  refine ⟨hplain, override, hok, ?_, ?_, hentry, ?_⟩
  · exact (hmatch _).2 ⟨.inl rfl, hname⟩
  · rw [Bool.eq_false_iff, Ne, hmatch]
    intro h
    exact absurd h.1 (by decide)
  · have hcolumnPlain : Glob.IsPlain column.source := hcolumn ▸ by decide
    have htablePlain : Glob.IsPlain table.source := htable ▸ by decide
    exact ((hmeans.entryNames_iff hparts htablePlain hcolumnPlain hok plainOptions rfl _ _).1
      hentry).1

/-- What "app[x]" is read as. -/
def bracketed : List Glob.Token :=
  [.literal 'a', .literal 'p', .literal 'p', .oneOf false [('x', 'x')]]

/-- A table of the default schema is not meant and one of another schema is, and with the bracket
left open nothing compiles. -/
theorem bracketed_default_not_meant :
    ¬ MeansDefaultSchema "app[x]" ∧
      (∃ override, compile "app[x]" authorIds = .ok override ∧
        override.matchesTable (some { name := "authors" }) "app[x]" = false ∧
        override.matchesTable (some { schema := "appx", name := "authors" }) "app[x]" = true) ∧
      compile "app[" authorIds = .error (.overridePattern "app[" .unclosedClass) := by
  have hreads : Glob.read "app[x]" = .ok bracketed := by cbv
  have hself : Glob.isMatch bracketed "app[x]" = false := by decide +kernel
  have hother : Glob.isMatch bracketed "appx" = true := by decide +kernel
  have hfault : Pattern.compile "app[" = .error .unclosedClass :=
    Pattern.compile_eq_error.2 (by cbv)
  obtain ⟨table, column, htable, -, hparts⟩ := hasTwoParts_authorIds
  have hok : compile "app[x]" authorIds =
      .ok ⟨authorIds, some ⟨none, ⟨"app[x]", bracketed, hreads⟩, table, column⟩⟩ :=
    (compile_eq_ok_of_hasTwoParts hparts).2 ⟨_, Pattern.compile_eq_ok.2 rfl, rfl⟩
  have hname : table.isMatch "authors" = true :=
    (isMatch_iff_of_isPlain (htable ▸ by decide)).2 htable.symm
  refine ⟨fun h => ?_, ⟨_, hok, ?_, ?_⟩, compile_eq_error_of_hasTwoParts hparts hfault⟩
  · exact absurd h.isPlain (by decide)
  · rw [Bool.eq_false_iff, Ne, matchesTable_of_matcher]
    intro h
    exact absurd (hself.symm.trans h.1) (by decide)
  · exact (matchesTable_of_matcher _).2 ⟨hother, hname⟩

end Override

end LoaderGen
