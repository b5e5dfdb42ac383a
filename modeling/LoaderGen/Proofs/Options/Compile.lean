import LoaderGen.Options.Override
import LoaderGen.Proofs.Outcome

/-!
# What an override compiles to

An override has either a declared type or a column specifier, and in the specifier more can be at
fault: it has to have two, three or four parts, each of them a glob. The globs are read in the order
of the parts, the default schema in place of a schema that is left out, so the first one that cannot
be read is the fault.
-/

namespace LoaderGen

theorem Pattern.compile_eq_ok {source : String} {pattern : Pattern} :
    Pattern.compile source = .ok pattern ↔ pattern.source = source := by
  unfold Pattern.compile
  split
  · next tokens hreads =>
    rw [Except.ok.injEq]
    constructor
    · rintro rfl
      rfl
    · rintro rfl
      exact Pattern.eq_of_source_eq rfl
  · next fault hreads =>
    constructor
    · intro h
      cases h
    · rintro rfl
      rw [pattern.reads] at hreads
      cases hreads

theorem Pattern.compile_eq_error {source : String} {fault : Glob.Fault} :
    Pattern.compile source = .error fault ↔ Glob.read source = .error fault := by
  unfold Pattern.compile
  split
  · next tokens hreads => simp [hreads]
  · next fault hreads => simp [hreads]

theorem compilePattern_eq_ok {glob : String} {pattern : Pattern} :
    compilePattern glob = .ok pattern ↔ pattern.source = glob := by
  rw [compilePattern, mapError_eq_ok, Pattern.compile_eq_ok]

theorem compilePattern_eq_error {glob : String} {e : OptionsError} :
    compilePattern glob = .error e ↔
      ∃ fault, Glob.read glob = .error fault ∧ .overridePattern glob fault = e := by
  simp only [compilePattern, mapError_eq_error, Pattern.compile_eq_error]

/-- The parts between the points of a text. -/
structure CutsAtPoints (text : String) (parts : List String) : Prop where
  ne_nil : parts ≠ []
  pointless : ∀ part ∈ parts, '.' ∉ part.toList
  joined : ".".intercalate parts = text

theorem cutsAtPoints_iff {text : String} {parts : List String} :
    CutsAtPoints text parts ↔ (text.toList.splitOn '.').map String.ofList = parts := by
  have hparts : (text.toList.splitOn '.').map String.ofList = parts ↔
      text.toList.splitOn '.' = parts.map String.toList := by
    constructor
    · rintro rfl
      simp
    · intro h
      rw [h]
      simp
  have hjoined : ".".intercalate parts = text ↔
      ['.'].intercalate (parts.map String.toList) = text.toList := by
    rw [← String.toList_inj, String.toList_intercalate]
    rfl
  rw [hparts, Text.splitOn_eq_iff, ← hjoined]
  constructor
  · rintro ⟨hne, hpoint, h⟩
    exact ⟨by simpa using hne, by simpa using hpoint, h⟩
  · rintro ⟨hne, hpoint, h⟩
    exact ⟨by simpa using hne, by simpa using hpoint, h⟩

/-- The globs that a column specifier asks for: its parts, and before the two of `table.column` the
default schema. -/
inductive AsksFor (specifier defaultSchema : String) : List String → Prop where
  | bare {table column : String} (h : CutsAtPoints specifier [table, column]) :
      AsksFor specifier defaultSchema [defaultSchema, table, column]
  | inSchema {schema table column : String} (h : CutsAtPoints specifier [schema, table, column]) :
      AsksFor specifier defaultSchema [schema, table, column]
  | inCatalog {catalog schema table column : String}
      (h : CutsAtPoints specifier [catalog, schema, table, column]) :
      AsksFor specifier defaultSchema [catalog, schema, table, column]

namespace ColumnMatcher

/-- The globs of the matcher as they are written, the outermost first. -/
def globs (matcher : ColumnMatcher) : List String :=
  (matcher.catalog.map Pattern.source).toList ++
    [matcher.schema.source, matcher.table.source, matcher.column.source]

variable {specifier defaultSchema : String} {asked : List String} {matcher : ColumnMatcher}
  {e : OptionsError}

theorem ofSpecifier_eq_ok_of_asksFor (h : AsksFor specifier defaultSchema asked) :
    ofSpecifier specifier defaultSchema = .ok matcher ↔ matcher.globs = asked := by
  obtain ⟨catalog, schema, table, column⟩ := matcher
  unfold ofSpecifier globs
  cases h with
  | bare h | inSchema h | inCatalog h =>
      rw [cutsAtPoints_iff.1 h]
      cases catalog <;> simp [bind_eq_ok, compilePattern_eq_ok, pure, Except.pure]

theorem ofSpecifier_eq_error_of_asksFor (h : AsksFor specifier defaultSchema asked) :
    ofSpecifier specifier defaultSchema = .error e ↔ asked.mapM compilePattern = .error e := by
  unfold ofSpecifier
  cases h with
  | bare h | inSchema h | inCatalog h =>
      rw [cutsAtPoints_iff.1 h]
      simp [bind_eq_error, List.mapM_cons, pure, Except.pure]

theorem ofSpecifier_of_not_asksFor (h : ∀ asked, ¬ AsksFor specifier defaultSchema asked) :
    ofSpecifier specifier defaultSchema = .error (.overrideSpecifier specifier) := by
  unfold ofSpecifier
  split
  · next hparts => exact absurd (.bare (cutsAtPoints_iff.2 hparts)) (h _)
  · next hparts => exact absurd (.inSchema (cutsAtPoints_iff.2 hparts)) (h _)
  · next hparts => exact absurd (.inCatalog (cutsAtPoints_iff.2 hparts)) (h _)
  · rfl

end ColumnMatcher

namespace Override

variable {rule : OverrideRule} {defaultSchema : String} {outcome : Except OptionsError Override}

/-- What comes of compiling a rule: an override, or the fault of its targets, of its specifier, or
of the first of its globs that cannot be read. -/
inductive Compiles (defaultSchema : String) (rule : OverrideRule) :
    Except OptionsError Override → Prop where
  | byType (hcolumn : rule.column = "") (hdbType : rule.dbType ≠ "") :
      Compiles defaultSchema rule (.ok ⟨rule, none⟩)
  | byColumn {matcher : ColumnMatcher} (hcolumn : rule.column ≠ "") (hdbType : rule.dbType = "")
      (hglobs : AsksFor rule.column defaultSchema matcher.globs) :
      Compiles defaultSchema rule (.ok ⟨rule, some matcher⟩)
  | bothTargets (hcolumn : rule.column ≠ "") (hdbType : rule.dbType ≠ "") :
      Compiles defaultSchema rule (.error (.overrideHasBothTargets rule.column rule.dbType))
  | noTarget (hcolumn : rule.column = "") (hdbType : rule.dbType = "") :
      Compiles defaultSchema rule (.error .overrideHasNoTarget)
  | specifier (hcolumn : rule.column ≠ "") (hdbType : rule.dbType = "")
      (hparts : ∀ asked, ¬ AsksFor rule.column defaultSchema asked) :
      Compiles defaultSchema rule (.error (.overrideSpecifier rule.column))
  | glob {asked : List String} {glob : String} {fault : Glob.Fault} (hcolumn : rule.column ≠ "")
      (hdbType : rule.dbType = "") (hasked : AsksFor rule.column defaultSchema asked)
      (hglob : IsFirst (fun glob => ∃ fault, Glob.read glob = .error fault) asked glob)
      (hfault : Glob.read glob = .error fault) :
      Compiles defaultSchema rule (.error (.overridePattern glob fault))

theorem compile_of_column (hcolumn : rule.column ≠ "") (hdbType : rule.dbType = "") :
    compile defaultSchema rule =
      (ColumnMatcher.ofSpecifier rule.column defaultSchema).map fun matcher =>
        ⟨rule, some matcher⟩ := by
  rw [compile, if_neg (by simp [hdbType]), if_neg (by simp [hcolumn]),
    if_neg (by simpa using hcolumn)]
  rfl

theorem mapM_compilePattern_eq_error {asked : List String} {e : OptionsError} :
    asked.mapM compilePattern = .error e ↔
      ∃ glob fault, IsFirst (fun glob => ∃ fault, Glob.read glob = .error fault) asked glob ∧
        Glob.read glob = .error fault ∧ .overridePattern glob fault = e := by
  have hfaulty : ∀ glob, (∃ e, compilePattern glob = .error e) ↔
      ∃ fault, Glob.read glob = .error fault := by
    intro glob
    simp only [compilePattern_eq_error]
    constructor
    · rintro ⟨e, fault, hfault, -⟩
      exact ⟨fault, hfault⟩
    · rintro ⟨fault, hfault⟩
      exact ⟨_, fault, hfault, rfl⟩
  simp only [mapM_eq_error_iff_isFirst, hfaulty]
  simp only [compilePattern_eq_error]
  constructor
  · rintro ⟨glob, hfirst, fault, hfault⟩
    exact ⟨glob, fault, hfirst, hfault⟩
  · rintro ⟨glob, fault, hfirst, hfault⟩
    exact ⟨glob, hfirst, fault, hfault⟩

theorem Compiles.compile_eq (h : Compiles defaultSchema rule outcome) :
    compile defaultSchema rule = outcome := by
  cases h with
  | byType hcolumn hdbType => simp [compile, hcolumn, hdbType]
  | byColumn hcolumn hdbType hglobs =>
      rw [compile_of_column hcolumn hdbType,
        (ColumnMatcher.ofSpecifier_eq_ok_of_asksFor hglobs).2 rfl]
      rfl
  | bothTargets hcolumn hdbType => simp [compile, hcolumn, hdbType]
  | noTarget hcolumn hdbType => simp [compile, hcolumn, hdbType]
  | specifier hcolumn hdbType hparts =>
      rw [compile_of_column hcolumn hdbType, ColumnMatcher.ofSpecifier_of_not_asksFor hparts]
      rfl
  | glob hcolumn hdbType hasked hglob hfault =>
      have herror := mapM_compilePattern_eq_error.2 ⟨_, _, hglob, hfault, rfl⟩
      rw [compile_of_column hcolumn hdbType,
        (ColumnMatcher.ofSpecifier_eq_error_of_asksFor hasked).2 herror]
      rfl

theorem compiles_compile (defaultSchema : String) (rule : OverrideRule) :
    Compiles defaultSchema rule (compile defaultSchema rule) := by
  -- One case for each way in which the two targets can be given or left out.
  by_cases hcolumn : rule.column = "" <;> by_cases hdbType : rule.dbType = ""
  · have hnone : Compiles defaultSchema rule (.error .overrideHasNoTarget) :=
      .noTarget hcolumn hdbType
    rwa [hnone.compile_eq]
  · have htype : Compiles defaultSchema rule (.ok ⟨rule, none⟩) := .byType hcolumn hdbType
    rwa [htype.compile_eq]
  · by_cases hasks : ∃ asked, AsksFor rule.column defaultSchema asked
    · obtain ⟨asked, hasked⟩ := hasks
      rw [compile_of_column hcolumn hdbType]
      cases hmatcher : ColumnMatcher.ofSpecifier rule.column defaultSchema with
      | ok matcher =>
          rw [ColumnMatcher.ofSpecifier_eq_ok_of_asksFor hasked] at hmatcher
          exact .byColumn hcolumn hdbType (hmatcher ▸ hasked)
      | error e =>
          rw [ColumnMatcher.ofSpecifier_eq_error_of_asksFor hasked] at hmatcher
          obtain ⟨glob, fault, hglob, hfault, rfl⟩ := mapM_compilePattern_eq_error.1 hmatcher
          exact .glob hcolumn hdbType hasked hglob hfault
    · have hspecifier : Compiles defaultSchema rule (.error (.overrideSpecifier rule.column)) :=
        .specifier hcolumn hdbType (not_exists.1 hasks)
      rwa [hspecifier.compile_eq]
  · have hboth : Compiles defaultSchema rule
        (.error (.overrideHasBothTargets rule.column rule.dbType)) := .bothTargets hcolumn hdbType
    rwa [hboth.compile_eq]

theorem compile_eq_iff :
    compile defaultSchema rule = outcome ↔ Compiles defaultSchema rule outcome := by
  constructor
  · rintro rfl
    exact compiles_compile defaultSchema rule
  · exact Compiles.compile_eq

end Override

namespace OverrideRule

/-- The rule does not compile under this default schema. -/
def IsFaulty (rule : OverrideRule) (defaultSchema : String) : Prop :=
  ∃ e, Override.Compiles defaultSchema rule (.error e)

theorem isFaulty_iff {rule : OverrideRule} {defaultSchema : String} :
    rule.IsFaulty defaultSchema ↔ ∃ e, Override.compile defaultSchema rule = .error e := by
  simp only [IsFaulty, Override.compile_eq_iff]

/-- The rule is for columns by name or for columns by declared type, and not for both. -/
def HasOneTarget (rule : OverrideRule) : Prop :=
  (rule.column ≠ "" ∧ rule.dbType = "") ∨ (rule.column = "" ∧ rule.dbType ≠ "")

end OverrideRule

theorem Override.Compiles.hasOneTarget {defaultSchema : String} {rule : OverrideRule}
    {override : Override} (h : Compiles defaultSchema rule (.ok override)) : rule.HasOneTarget := by
  cases h with
  | byType hcolumn hdbType => exact .inr ⟨hcolumn, hdbType⟩
  | byColumn hcolumn hdbType hglobs => exact .inl ⟨hcolumn, hdbType⟩

end LoaderGen
