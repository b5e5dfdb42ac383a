import LoaderGen.Naming.Normalizer
import LoaderGen.Proofs.Lookup
import LoaderGen.Proofs.Naming.Cuts
import LoaderGen.Proofs.Options.Finalize

/-!
# Names that are nothing

A name of which nothing is left as an identifier is used as it is. So the names of types and fields
are never empty where the database's are not. The names of structs can be: a rename to nothing is
taken as it is, and of a plural that is but an `s` the singular is nothing, which then stands for
itself.
-/

namespace LoaderGen

namespace Naming

/-- Of the rules that put nothing, only the last takes an ending off no stem. -/
private theorem stemless_rules : (rules.all fun rule =>
    !(rule.stems.any List.isEmpty && rule.put.isEmpty) || rule.endings == [['s']]) = true := by
  decide

theorem Spelling.write_eq_nil {spelling : Spelling} {put : List Char} :
    spelling.write put = [] ↔ put = [] := by
  cases spelling with
  | capitals => exact List.map_eq_nil_iff
  | asWritten => rfl
  | anyCase => rfl

theorem foldCase_eq_s {c : Char} : foldCase c = 's' ↔ c = 's' ∨ c = 'S' ∨ c = 'ſ' := by
  unfold foldCase
  split
  · next h => simp [h]
  · next hlong =>
    split
    · next h => subst h; decide
    · rw [Text.toLower_eq_iff 's' 'S' (by decide) (by decide) rfl]
      simp [hlong]

theorem singularByRule_eq_nil_iff {word : List Char} (hne : word ≠ []) :
    singularByRule word = [] ↔ word ∈ [['s'], ['S'], ['ſ']] := by
  constructor
  · intro h
    rw [singularByRule] at h
    cases hfound : rules.findSome? (·.singular? word) with
    | none =>
        rw [hfound] at h
        exact absurd h hne
    | some result =>
        rw [hfound, Option.getD_some] at h
        obtain ⟨rule, hrule, hsingular⟩ := List.exists_of_findSome?_eq_some hfound
        obtain ⟨stem, hstem, ending, hending, before, kept, taken, after, hcuts, rfl, rfl⟩ :=
          Rule.exists_cuts_of_singular? hsingular
        simp only [List.append_eq_nil_iff, Spelling.write_eq_nil] at h
        -- Nothing was left, so the rule has no stem, puts nothing, and its ending is the whole word.
        obtain ⟨rfl, rfl, hput, rfl⟩ := h
        obtain rfl : stem = [] :=
          List.length_eq_zero_iff.1 (Spelling.length_of_admitsAll hcuts.kept).symm
        have hrow := List.all_eq_true.1 stemless_rules rule hrule
        have hstemless : rule.stems.any List.isEmpty = true := List.any_eq_true.2 ⟨[], hstem, rfl⟩
        rw [hstemless, hput] at hrow
        have hendings : rule.endings = [['s']] := by simpa using hrow
        rw [hendings, List.mem_singleton] at hending
        subst hending
        have hfold := Spelling.map_foldCase_of_admitsAll (by decide) hcuts.taken
        obtain ⟨c, rfl, hc⟩ := List.map_eq_singleton_iff.1 hfold
        rcases foldCase_eq_s.1 hc with rfl | rfl | rfl <;> decide
  · intro h
    simp only [List.mem_cons, List.not_mem_nil, or_false] at h
    rcases h with rfl | rfl | rfl <;> decide

private theorem fixed_ne_empty : (fixed.all fun entry => entry.2 ≠ "") = true := by
  decide

private theorem lookup_single : (["s", "S", "ſ"].all fun word =>
    fixed.lookup (String.ofList (Text.lower word.toList)) = none) = true := by
  decide

/-- Only of a plural that is but an ending the singular is nothing. -/
theorem singularize_eq_empty_iff {word : String} {exclusions : List String} (hne : word ≠ "") :
    singularize word exclusions = "" ↔
      (∀ exclusion ∈ exclusions, Text.eqIgnoringAsciiCase exclusion word = false) ∧
        word ∈ ["s", "S", "ſ"] := by
  have hletters : word.toList ≠ [] := by simpa using hne
  have hsingle : word.toList ∈ [['s'], ['S'], ['ſ']] ↔ word ∈ ["s", "S", "ſ"] := by
    simp only [List.mem_cons, List.not_mem_nil, or_false, ← String.toList_inj]
    exact Iff.rfl
  by_cases hincluded : ∀ exclusion ∈ exclusions, Text.eqIgnoringAsciiCase exclusion word = false
  · rw [singularize_of_included hincluded, and_iff_right hincluded]
    cases hlookup : fixed.lookup (String.ofList (Text.lower word.toList)) with
    | none =>
        rw [Option.getD_none, ← hsingle, ← singularByRule_eq_nil_iff hletters,
          ← String.toList_inj, String.toList_ofList]
        rfl
    | some singular =>
        have hsome := List.all_eq_true.1 fixed_ne_empty _ (mem_of_lookup_eq_some hlookup)
        refine iff_of_false (of_decide_eq_true hsome) fun h => ?_
        have hnone := of_decide_eq_true (List.all_eq_true.1 lookup_single word h)
        rw [hnone] at hlookup
        cases hlookup
  · rw [singularize_of_excluded hincluded]
    exact iff_of_false hne fun h => hincluded h.1

end Naming

namespace Options

variable {options : Options} {schema raw : String}

theorem orElseText_eq_empty_iff {text other : String} :
    orElseText text other = "" ↔ text = "" ∧ other = "" := by
  unfold orElseText
  cases htext : text.isEmpty with
  | true => simp [String.isEmpty_iff.1 htext]
  | false => simp [String.isEmpty_eq_false_iff.1 htext]

/-- Nothing is the identifier for nothing, unless it is renamed. -/
theorem goName_empty_iff :
    options.goName "" = "" ↔ (options.renames.find? "").getD "" = "" := by
  unfold goName
  cases options.renames.find? "" with
  | some target => exact Iff.rfl
  | none =>
      have hword : Naming.identifierWord options.initialismSet.contains [] = [] := by
        unfold Naming.identifierWord
        split <;> rfl
      have hname : Naming.normalize options.initialismSet.contains [] = [] := by
        rw [Naming.normalize, List.map_nil, List.splitOn_nil, List.flatMap_singleton, hword]
        rfl
      exact iff_of_true (congrArg String.ofList hname) rfl

theorem sqlName_ne_empty (hraw : raw ≠ "") : options.sqlName schema raw ≠ "" := by
  unfold sqlName
  split
  · exact hraw
  · intro h
    simp at h

theorem sqlName_of_default (h : schema = "" ∨ schema = options.defaultSchema) :
    options.sqlName schema raw = raw := by
  rcases h with rfl | rfl <;> simp [sqlName]

theorem sqlName_mem_single_iff :
    options.sqlName schema raw ∈ ["s", "S", "ſ"] ↔
      (schema = "" ∨ schema = options.defaultSchema) ∧ raw ∈ ["s", "S", "ſ"] := by
  by_cases hdefault : schema = "" ∨ schema = options.defaultSchema
  · rw [sqlName_of_default hdefault]
    exact (and_iff_right hdefault).symm
  · refine iff_of_false (fun hmem => ?_) fun h => hdefault h.1
    have hunderscore : '_' ∈ (options.sqlName schema raw).toList := by
      rw [sqlName, if_neg (by simpa using hdefault)]
      simp
    have hfree : (["s", "S", "ſ"].all fun name => !name.toList.contains '_') = true := by decide
    have hnone := List.all_eq_true.1 hfree _ hmem
    simp [hunderscore] at hnone

/-- Nothing becomes of the name of a table: its singular is nothing, and stands for itself. -/
structure LosesName (options : Options) (schema raw : String) : Prop where
  inDefault : schema = "" ∨ schema = options.defaultSchema
  single : raw ∈ ["s", "S", "ſ"]
  notRenamed : options.renames.find? raw = none
  inflected : options.emitExactTableNames = false
  included : ∀ exclusion ∈ options.inflectionExcludeTableNames,
    Text.eqIgnoringAsciiCase exclusion raw = false
  nothing : (options.renames.find? "").getD "" = ""

theorem orElseText_goName_eq_empty_iff {name : String} :
    orElseText (options.goName name) name = "" ↔
      name = "" ∧ (options.renames.find? "").getD "" = "" := by
  rw [orElseText_eq_empty_iff, and_comm]
  refine and_congr_right ?_
  rintro rfl
  exact goName_empty_iff

theorem keepsTableName_eq_false_iff {canonical table : String} :
    options.keepsTableName canonical table = false ↔
      options.emitExactTableNames = false ∧
        ∀ exclusion ∈ options.inflectionExcludeTableNames,
          Text.eqIgnoringAsciiCase exclusion canonical = false ∧
            Text.eqIgnoringAsciiCase exclusion table = false := by
  simp only [keepsTableName, Bool.or_eq_false_iff, List.any_eq_false, Bool.or_eq_true, not_or,
    Bool.not_eq_true]

/-- A table that is not renamed loses its name when its singular is nothing. -/
theorem structName_eq_empty_iff_of_not_renamed (hraw : raw ≠ "")
    (hrename : options.renames.find? (options.sqlName schema raw) = none) :
    options.structName schema raw = "" ↔
      options.keepsTableName (options.sqlName schema raw) raw = false ∧
        options.sqlName schema raw ∈ ["s", "S", "ſ"] ∧
        (options.renames.find? "").getD "" = "" := by
  have hcanonical : options.sqlName schema raw ≠ "" := sqlName_ne_empty hraw
  simp only [structName, hrename]
  cases hkeeps : options.keepsTableName (options.sqlName schema raw) raw with
  | true => simp [orElseText_goName_eq_empty_iff, hcanonical]
  | false =>
      have hincluded := fun exclusion hexclusion =>
        ((keepsTableName_eq_false_iff.1 hkeeps).2 exclusion hexclusion).1
      rw [if_neg Bool.false_ne_true, orElseText_goName_eq_empty_iff,
        Naming.singularize_eq_empty_iff hcanonical, and_iff_right hincluded, and_iff_right rfl]

theorem structName_eq_empty_iff (hraw : raw ≠ "") :
    options.structName schema raw = "" ↔
      options.renames.find? (options.sqlName schema raw) = some "" ∨
        options.LosesName schema raw := by
  cases hrename : options.renames.find? (options.sqlName schema raw) with
  | some target =>
      have hname : options.structName schema raw = target := by simp only [structName, hrename]
      rw [hname, Option.some_inj, or_iff_left]
      intro h
      rw [sqlName_of_default h.inDefault, h.notRenamed] at hrename
      cases hrename
  | none =>
      rw [structName_eq_empty_iff_of_not_renamed hraw hrename, keepsTableName_eq_false_iff,
        sqlName_mem_single_iff]
      constructor
      · rintro ⟨⟨hexact, hincluded⟩, ⟨hdefault, hsingle⟩, hnothing⟩
        rw [sqlName_of_default hdefault] at hrename
        exact .inr ⟨hdefault, hsingle, hrename, hexact,
          fun exclusion hexclusion => (hincluded exclusion hexclusion).2, hnothing⟩
      · rintro (h | h)
        · cases h
        · rw [sqlName_of_default h.inDefault]
          exact ⟨⟨h.inflected, fun exclusion hexclusion =>
            ⟨h.included exclusion hexclusion, h.included exclusion hexclusion⟩⟩,
            ⟨h.inDefault, h.single⟩, h.nothing⟩

end Options

/-- The names of types and fields are empty for no name of the database. That of a struct is where
the table is renamed to nothing, and where its singular is nothing. -/
theorem names_empty_for_structs_alone (options : Options) (schema : String) {raw : String}
    (hraw : raw ≠ "") :
    options.typeName schema raw ≠ "" ∧ options.fieldName raw ≠ "" ∧
      (options.structName schema raw = "" ↔
        options.renames.find? (options.sqlName schema raw) = some "" ∨
          options.LosesName schema raw) :=
  ⟨fun h => hraw (Options.orElseText_eq_empty_iff.1 h).2,
    fun h => hraw (Options.orElseText_eq_empty_iff.1 h).2, Options.structName_eq_empty_iff hraw⟩

def exactOptions : Options := { plainOptions with emitExactTableNames := true }

theorem names_of_single_letter :
    "s" ≠ "" ∧ exactOptions.typeName "public" "s" ≠ "" ∧ exactOptions.fieldName "s" ≠ "" ∧
      ¬ exactOptions.LosesName "public" "s" ∧ exactOptions.structName "public" "s" ≠ "" := by
  have hraw : "s" ≠ "" := by decide
  obtain ⟨htype, hfield, hstruct⟩ := names_empty_for_structs_alone exactOptions "public" hraw
  have hloses : ¬ exactOptions.LosesName "public" "s" := fun h => absurd h.inflected (by decide)
  refine ⟨hraw, htype, hfield, hloses, fun h => ?_⟩
  rcases hstruct.1 h with hrenamed | h
  · exact absurd hrenamed (by decide)
  · exact hloses h

def namelessOptions : Options := { plainOptions with renames := .ofList [("authors", "")] }

def namelessRequest : Request where
  pluginOptions := Text.bytesOf
    "\x7b\"package\": \"db\", \"rename\": \x7b\"authors\": \"\"\x7d\x7d"

/-- A table called `s` gets no name, nor does one that is renamed to nothing, while a type and a field
of that name keep it. -/
theorem struct_names_lost :
    Options.ofRequest namelessRequest = .ok namelessOptions ∧
      namelessOptions.structName "public" "s" = "" ∧
      namelessOptions.structName "public" "authors" = "" ∧
      namelessOptions.typeName "public" "authors" = "authors" ∧
      namelessOptions.fieldName "authors" = "authors" := by
  refine ⟨toOption_eq_some.1 ?_, ?_, ?_, ?_, ?_⟩ <;> decide +kernel

end LoaderGen
