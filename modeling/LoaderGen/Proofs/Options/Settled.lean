import LoaderGen.Proofs.Caches
import LoaderGen.Proofs.Options.Compile
import LoaderGen.Proofs.Options.Precedence
import LoaderGen.Proofs.Options.Renames

/-!
# What stands once options are finalized

A draft is refused for the first of three: it has no package, an override does not compile, a cache
entry is at fault. What is let through is settled, and to finalize settled options again changes
nothing, since each step leaves alone what it would have to settle: a package that is named, a
schema that is named, overrides that compile under that very schema, and cache entries without a
fault.
-/

namespace LoaderGen

namespace OptionsDraft

variable {draft : OptionsDraft} {catalogDefault segment package schema : String} {e : OptionsError}

/-- The segment is the last one of the output directory, slashes at the end aside. -/
def OutEndsIn (draft : OptionsDraft) (segment : String) : Prop :=
  '/' ∉ segment.toList ∧ ∃ (parents : List Char) (slashes : Nat),
    draft.out.toList = parents ++ segment.toList ++ List.replicate slashes '/' ∧
      (parents = [] ∨ segment ≠ "" ∧ parents.getLast? = some '/')

theorem outPackage_eq_iff : draft.outPackage = segment ↔ draft.OutEndsIn segment := by
  rw [outPackage, ← String.toList_inj, String.toList_ofList]
  constructor
  · intro h
    obtain ⟨hslash, parents, hkept, hparents⟩ := Text.lastSegment_eq_iff.1 h
    obtain ⟨hlast, slashes, hout⟩ := Text.trimEnd_eq_iff.1 hkept
    refine ⟨hslash, parents, slashes, hout, ?_⟩
    rcases hparents with hnil | hend
    · exact .inl hnil
    · refine .inr ⟨?_, hend⟩
      rintro rfl
      exact hlast (by simpa using hend)
  · rintro ⟨hslash, parents, slashes, hout, hparents⟩
    -- Nothing more can be trimmed: a last slash would stand in the segment, or before an empty one.
    have hlast : (parents ++ segment.toList).getLast? ≠ some '/' := by
      intro hlast
      by_cases hempty : segment = ""
      · rcases hparents with hnil | ⟨hsegment, -⟩
        · simp [hempty, hnil] at hlast
        · exact hsegment hempty
      · have hne : segment.toList ≠ [] := by simpa using hempty
        rw [List.getLast?_append_of_ne_nil _ hne] at hlast
        exact hslash (List.mem_of_getLast? hlast)
    refine Text.lastSegment_eq_iff.2
      ⟨hslash, parents, Text.trimEnd_eq_iff.2 ⟨hlast, slashes, hout⟩, ?_⟩
    exact hparents.imp_right And.right

/-- No package is named, and the output directory does not end in the name of one. -/
def LacksPackage (draft : OptionsDraft) : Prop :=
  draft.package = "" ∧ ∃ segment, draft.OutEndsIn segment ∧ (segment = "" ∨ segment = ".")

/-- The package is the one named, or without one the last segment of the output directory. -/
def GivesPackage (draft : OptionsDraft) (package : String) : Prop :=
  package ≠ "" ∧ (draft.package = package ∨
    draft.package = "" ∧ draft.OutEndsIn package ∧ package ≠ ".")

theorem settlePackage_of_named (h : draft.package ≠ "") :
    draft.settlePackage = .ok draft.package := by
  rw [settlePackage, if_pos (by simpa using h)]

theorem settlePackage_of_out (h : draft.package = "") :
    draft.settlePackage = if draft.outPackage = "" ∨ draft.outPackage = "." then
      .error .missingPackage else .ok draft.outPackage := by
  rw [settlePackage, if_neg (by simp [h])]

theorem settlePackage_eq_error :
    draft.settlePackage = .error e ↔ draft.LacksPackage ∧ e = .missingPackage := by
  simp only [LacksPackage, ← outPackage_eq_iff, exists_eq_left']
  by_cases hnamed : draft.package = ""
  · rw [settlePackage_of_out hnamed]
    split
    · next hout =>
      constructor
      · intro h
        cases h
        exact ⟨⟨hnamed, hout⟩, rfl⟩
      · rintro ⟨-, rfl⟩
        rfl
    · next hout => simp [hout]
  · simp [settlePackage_of_named hnamed, hnamed]

theorem settlePackage_eq_ok : draft.settlePackage = .ok package ↔ draft.GivesPackage package := by
  simp only [GivesPackage, ← outPackage_eq_iff]
  by_cases hnamed : draft.package = ""
  · rw [settlePackage_of_out hnamed, hnamed]
    split
    · next hout =>
      constructor
      · intro h
        cases h
      · rintro ⟨hne, rfl | ⟨-, rfl, hpoint⟩⟩
        · exact absurd rfl hne
        · exact absurd hout (not_or.2 ⟨hne, hpoint⟩)
    · next hout =>
      obtain ⟨hempty, hpoint⟩ := not_or.1 hout
      constructor
      · intro h
        obtain rfl := Except.ok.inj h
        exact ⟨hempty, .inr ⟨rfl, rfl, hpoint⟩⟩
      · rintro ⟨hne, rfl | ⟨-, rfl, -⟩⟩
        · exact absurd rfl hne
        · rfl
  · rw [settlePackage_of_named hnamed]
    constructor
    · intro h
      obtain rfl := Except.ok.inj h
      exact ⟨hnamed, .inl rfl⟩
    · rintro ⟨-, rfl | ⟨hempty, -⟩⟩
      · rfl
      · exact absurd hempty hnamed

/-- The default schema is the first of the three that is named. -/
theorem settleSchema_eq_iff :
    draft.settleSchema catalogDefault = schema ↔
      IsFirst (· ≠ "") [draft.defaultSchema, catalogDefault, fallbackSchema] schema := by
  have hfind : [draft.defaultSchema, catalogDefault, fallbackSchema].find? (!·.isEmpty) =
      some (draft.settleSchema catalogDefault) := by
    unfold settleSchema
    cases hnamed : draft.defaultSchema.isEmpty with
    | false => simp [hnamed]
    | true =>
        cases hgiven : catalogDefault.isEmpty with
        | false => simp [hnamed, hgiven]
        | true => simp [hnamed, hgiven, show fallbackSchema.isEmpty = false by decide]
  rw [← find?_eq_some_iff_isFirst (q := (!·.isEmpty)) (by simp), hfind, Option.some_inj]

/-- Why a draft is refused. An override counts only once there is a package, and a cache entry only
once every override compiles. -/
inductive RefusedFor (draft : OptionsDraft) (catalogDefault : String) : OptionsError → Prop where
  | package (h : draft.LacksPackage) : RefusedFor draft catalogDefault .missingPackage
  | override {rule : OverrideRule} {e : OptionsError} (hpackage : ¬ draft.LacksPackage)
      (hrule : IsFirst (·.IsFaulty (draft.settleSchema catalogDefault)) draft.overrides rule)
      (hfault : Override.Compiles (draft.settleSchema catalogDefault) rule (.error e)) :
      RefusedFor draft catalogDefault e
  | cache {entry : CacheEntry} {e : OptionsError} (hpackage : ¬ draft.LacksPackage)
      (hoverrides : ∀ rule ∈ draft.overrides, ¬ rule.IsFaulty (draft.settleSchema catalogDefault))
      (hentry : IsFirst CacheEntry.IsFaulty draft.cache entry)
      (hfault : entry.Makes (.error e)) : RefusedFor draft catalogDefault e

theorem exists_settlePackage_eq_ok :
    (∃ package, draft.settlePackage = .ok package) ↔ ¬ draft.LacksPackage := by
  simp [exists_eq_ok_iff, settlePackage_eq_error]

theorem exists_compile_overrides :
    (∃ overrides, draft.overrides.mapM (Override.compile schema) = .ok overrides) ↔
      ∀ rule ∈ draft.overrides, ¬ rule.IsFaulty schema := by
  rw [exists_mapM_eq_ok]
  simp only [exists_eq_ok_iff, OverrideRule.isFaulty_iff]

theorem compile_overrides_eq_error :
    draft.overrides.mapM (Override.compile schema) = .error e ↔
      ∃ rule, IsFirst (·.IsFaulty schema) draft.overrides rule ∧
        Override.Compiles schema rule (.error e) := by
  simp only [mapM_eq_error_iff_isFirst, OverrideRule.isFaulty_iff, Override.compile_eq_iff]

theorem policies_eq_error {cache : List CacheEntry} :
    cache.mapM CacheEntry.policy = .error e ↔
      ∃ entry, IsFirst CacheEntry.IsFaulty cache entry ∧ entry.Makes (.error e) := by
  simp only [mapM_eq_error_iff_isFirst, CacheEntry.policy_eq_error_iff, ← CacheEntry.isFaulty_iff]

theorem finalize_eq_error :
    draft.finalize catalogDefault = .error e ↔ draft.RefusedFor catalogDefault e := by
  simp only [finalize, bind_eq_error]
  constructor
  · rintro (hpackage |
      ⟨package, hpackage, hoverrides | ⟨overrides, hoverrides, hcache | ⟨policies, -, hdone⟩⟩⟩)
    · obtain ⟨hlacks, rfl⟩ := settlePackage_eq_error.1 hpackage
      exact .package hlacks
    · obtain ⟨rule, hrule, hfault⟩ := compile_overrides_eq_error.1 hoverrides
      exact .override (exists_settlePackage_eq_ok.1 ⟨package, hpackage⟩) hrule hfault
    · obtain ⟨entry, hentry, hfault⟩ := policies_eq_error.1 hcache
      exact .cache (exists_settlePackage_eq_ok.1 ⟨package, hpackage⟩)
        (exists_compile_overrides.1 ⟨overrides, hoverrides⟩) hentry hfault
    · cases hdone
  · intro h
    cases h with
    | package hlacks => exact .inl (settlePackage_eq_error.2 ⟨hlacks, rfl⟩)
    | override hpackage hrule hfault =>
        obtain ⟨package, hpackage⟩ := exists_settlePackage_eq_ok.2 hpackage
        have hoverrides := compile_overrides_eq_error.2 ⟨_, hrule, hfault⟩
        exact .inr ⟨package, hpackage, .inl hoverrides⟩
    | cache hpackage hoverrides hentry hfault =>
        obtain ⟨package, hpackage⟩ := exists_settlePackage_eq_ok.2 hpackage
        obtain ⟨overrides, hoverrides⟩ := exists_compile_overrides.2 hoverrides
        have hcache := policies_eq_error.2 ⟨_, hentry, hfault⟩
        exact .inr ⟨package, hpackage, .inr ⟨overrides, hoverrides, .inl hcache⟩⟩

theorem refusedFor_missingPackage :
    draft.RefusedFor catalogDefault .missingPackage ↔ draft.LacksPackage := by
  constructor
  · intro h
    cases h with
    | package hlacks => exact hlacks
    | override _ _ hfault => cases hfault
    | cache _ _ _ hfault => cases hfault
  · exact .package

theorem exists_finalize_iff :
    (∃ options, draft.finalize catalogDefault = .ok options) ↔
      ¬ draft.LacksPackage ∧
        (∀ rule ∈ draft.overrides, ¬ rule.IsFaulty (draft.settleSchema catalogDefault)) ∧
        ∀ entry ∈ draft.cache, ¬ entry.IsFaulty := by
  simp only [← exists_settlePackage_eq_ok, ← exists_compile_overrides, ← CacheEntry.isSound_iff]
  constructor
  · rintro ⟨options, h⟩
    obtain ⟨hpackage, hoverrides, hsound, -⟩ := finalize_eq_ok.1 h
    exact ⟨⟨_, hpackage⟩, ⟨_, hoverrides⟩, hsound⟩
  · rintro ⟨⟨package, hpackage⟩, ⟨overrides, hoverrides⟩, hsound⟩
    exact ⟨⟨draft.toPreferences, package, _, draft.settleSchema_ne catalogDefault, overrides, _⟩,
      finalize_eq_ok.2 ⟨hpackage, hoverrides, hsound, rfl, rfl, rfl⟩⟩

/-- The options are the draft's own preferences with the rest filled in: the package, the first
default schema that is named, every override compiled under that schema, and the initialisms. -/
structure Settles (draft : OptionsDraft) (catalogDefault : String) (options : Options) : Prop where
  preferences : options.toPreferences = draft.toPreferences
  package : draft.GivesPackage options.package
  defaultSchema :
    IsFirst (· ≠ "") [draft.defaultSchema, catalogDefault, fallbackSchema] options.defaultSchema
  overrides : List.Forall₂
    (fun rule override => Override.Compiles options.defaultSchema rule (.ok override))
    draft.overrides options.overrides
  cache : ∀ entry ∈ draft.cache, ¬ entry.IsFaulty
  initialisms : options.initialisms = draft.initialisms.getD ["id"]

theorem finalize_eq_ok_iff_settles {options : Options} :
    draft.finalize catalogDefault = .ok options ↔ draft.Settles catalogDefault options := by
  simp only [finalize_eq_ok, settlePackage_eq_ok, mapM_eq_ok, Override.compile_eq_iff,
    CacheEntry.isSound_iff, @eq_comm _ options.defaultSchema]
  constructor
  · rintro ⟨hpackage, hoverrides, hcache, hpreferences, hschema, hinitialisms⟩
    rw [hschema] at hoverrides
    exact ⟨hpreferences, hpackage, settleSchema_eq_iff.1 hschema, hoverrides, hcache, hinitialisms⟩
  · intro h
    have hschema := settleSchema_eq_iff.2 h.defaultSchema
    exact ⟨h.package, hschema ▸ h.overrides, h.cache, h.preferences, hschema, h.initialisms⟩

end OptionsDraft

namespace Options

/-- What stands of options that are finalized. -/
structure IsSettled (options : Options) : Prop where
  package_ne : options.package ≠ ""
  defaultSchema_ne : options.defaultSchema ≠ ""
  hasOneTarget : ∀ override ∈ options.overrides, override.rule.HasOneTarget
  compiled : ∀ override ∈ options.overrides,
    Override.Compiles options.defaultSchema override.rule (.ok override)
  cache : ∀ entry ∈ options.cache, (∃ policy, entry.Makes (.ok policy)) ∨ ¬ entry.IsActive

end Options

variable {draft : OptionsDraft} {catalogDefault : String} {options : Options}

theorem OptionsDraft.Settles.isSettled (h : draft.Settles catalogDefault options) :
    options.IsSettled := by
  have hcompiled : ∀ override ∈ options.overrides,
      Override.Compiles options.defaultSchema override.rule (.ok override) := by
    intro override hoverride
    obtain ⟨rule, -, hrule⟩ := exists_of_mem_forall₂ h.overrides hoverride
    rwa [Override.rule_of_compile hrule.compile_eq]
  refine ⟨h.package.1, options.defaultSchema_ne,
    fun override hoverride => (hcompiled override hoverride).hasOneTarget, hcompiled,
    fun entry hentry => CacheEntry.not_isFaulty_iff.1 (h.cache entry ?_)⟩
  rwa [← h.preferences]

/-- Each step of finalizing leaves settled options alone, whatever the catalog's default schema. -/
theorem Options.IsSettled.settles (h : options.IsSettled) (catalogDefault : String) :
    options.toDraft.Settles catalogDefault options where
  preferences := rfl
  package := ⟨h.package_ne, .inl rfl⟩
  defaultSchema := ⟨[], [catalogDefault, fallbackSchema], rfl, h.defaultSchema_ne,
    List.forall_mem_nil _⟩
  overrides := List.forall₂_map_left_iff.2 (List.forall₂_same.2 h.compiled)
  cache := fun entry hentry => CacheEntry.not_isFaulty_iff.2 (h.cache entry hentry)
  initialisms := rfl

theorem renames_of_ofRequest {request : Request} (h : Options.ofRequest request = .ok options) :
    ∃ draft shared,
      readDocument .plugin {} (OptionsDraft.ofValue? .json) request.pluginOptions = .ok draft ∧
      readDocument .global {} (GlobalOptions.ofValue? .json) request.globalOptions = .ok shared ∧
      ∀ name, options.renames.find? name =
        (shared.renames.find? name).or (draft.renames.find? name) := by
  obtain ⟨draft, shared, hdraft, hshared, hfinalize⟩ := Options.ofRequest_eq_ok.1 h
  refine ⟨draft, shared, hdraft, hshared, fun name => ?_⟩
  have hpreferences := (OptionsDraft.finalize_eq_ok_iff_settles.1 hfinalize).preferences
  have hrenames : options.renames = draft.renames.merge shared.renames :=
    congrArg Preferences.renames hpreferences
  rw [hrenames]
  exact Renames.find?_merge draft.renames shared.renames name

/-- A draft is refused for a lacking package, else for the first override that does not compile,
else for the first cache entry at fault, and else it is accepted. The options of an accepted draft
are settled: to finalize them once more changes nothing, whatever the catalog's default schema. The
renames of a request are those of the shared document where it has the name, else the plugin's. -/
theorem finalize_settles :
    (∀ (draft : OptionsDraft) (catalogDefault : String),
      (∀ e, draft.finalize catalogDefault = .error e ↔ draft.RefusedFor catalogDefault e) ∧
      (draft.finalize catalogDefault = .error .missingPackage ↔ draft.LacksPackage) ∧
      IsFirst (· ≠ "") [draft.defaultSchema, catalogDefault, fallbackSchema]
        (draft.settleSchema catalogDefault) ∧
      ((∃ options, draft.finalize catalogDefault = .ok options) ↔
        ¬ draft.LacksPackage ∧
          (∀ rule ∈ draft.overrides, ¬ rule.IsFaulty (draft.settleSchema catalogDefault)) ∧
          ∀ entry ∈ draft.cache, ¬ entry.IsFaulty) ∧
      ∀ options, draft.finalize catalogDefault = .ok options →
        draft.Settles catalogDefault options ∧ options.IsSettled ∧
        options.initialismSet =
          (draft.initialisms.getD ["id"]).map (fun s => String.ofList (Text.lower s.toList)) ∧
        ∀ other, options.toDraft.finalize other = .ok options) ∧
    ∀ request options, Options.ofRequest request = .ok options →
      ∃ draft shared,
        readDocument .plugin {} (OptionsDraft.ofValue? .json) request.pluginOptions = .ok draft ∧
        readDocument .global {} (GlobalOptions.ofValue? .json) request.globalOptions
          = .ok shared ∧
        ∀ name, options.renames.find? name =
          (shared.renames.find? name).or (draft.renames.find? name) := by
  refine ⟨fun draft catalogDefault => ⟨fun e => OptionsDraft.finalize_eq_error, ?_,
    OptionsDraft.settleSchema_eq_iff.1 rfl, OptionsDraft.exists_finalize_iff,
    fun options h => ?_⟩, fun request options h => renames_of_ofRequest h⟩
  · rw [OptionsDraft.finalize_eq_error, OptionsDraft.refusedFor_missingPackage]
  · have hsettles := OptionsDraft.finalize_eq_ok_iff_settles.1 h
    have hsettled := hsettles.isSettled
    refine ⟨hsettles, hsettled, ?_, fun other => ?_⟩
    · rw [Options.initialismSet, hsettles.initialisms]
    · exact OptionsDraft.finalize_eq_ok_iff_settles.2 (hsettled.settles other)

/-- Both documents rename authors. -/
def shelf : Request where
  catalog := { (default : Catalog) with defaultSchema := "library" }
  pluginOptions := Text.bytesOf <|
    "\x7b\"out\": \"internal/loaders//\", \"initialisms\": [\"URL\"], " ++
      "\"rename\": \x7b\"author\": \"Writer\", \"book\": \"Volume\"\x7d\x7d"
  globalOptions := Text.bytesOf "\x7b\"rename\": \x7b\"author\": \"Author\"\x7d\x7d"

def shelfDraft : OptionsDraft where
  out := "internal/loaders//"
  initialisms := some ["URL"]
  renames := .ofList [("author", "Writer"), ("book", "Volume")]

/-- The package is the output directory's, and the shared name of authors wins. An output directory
that is the current one gives no package. -/
theorem settled_of_shelf :
    (∃ options, Options.ofRequest shelf = .ok options ∧
      (options.package, options.defaultSchema, options.initialismSet)
        = ("loaders", "library", ["url"]) ∧
      options.renames.find? "author" = some "Author" ∧
      options.renames.find? "book" = some "Volume" ∧
      options.IsSettled ∧ ∀ other, options.toDraft.finalize other = .ok options) ∧
    OptionsDraft.finalize { out := "./" } "library" = .error .missingPackage := by
  obtain ⟨hfinalize, hrenames⟩ := finalize_settles
  have hplugin : readDocument .plugin {} (OptionsDraft.ofValue? .json) shelf.pluginOptions =
      .ok shelfDraft := toOption_eq_some.1 (by decide +kernel)
  have hglobal : readDocument .global {} (GlobalOptions.ofValue? .json) shelf.globalOptions =
      .ok { renames := .ofList [("author", "Author")] } := toOption_eq_some.1 (by decide +kernel)
  have hrun : ((shelfDraft.merge { renames := .ofList [("author", "Author")] }).finalize
      "library").toOption.map (fun options =>
        (options.package, options.defaultSchema, options.initialismSet)) =
      some ("loaders", "library", ["url"]) := by
    decide +kernel
  obtain ⟨options, hsome, hfields⟩ := Option.map_eq_some_iff.1 hrun
  have hoptions : Options.ofRequest shelf = .ok options :=
    Options.ofRequest_eq_ok.2 ⟨_, _, hplugin, hglobal, toOption_eq_some.1 hsome⟩
  obtain ⟨-, hsettled, -, hagain⟩ := (hfinalize _ _).2.2.2.2 options (toOption_eq_some.1 hsome)
  obtain ⟨draft, shared, hdraft, hshared, hfind⟩ := hrenames shelf options hoptions
  obtain rfl : shelfDraft = draft := Except.ok.inj (hplugin.symm.trans hdraft)
  obtain rfl := Except.ok.inj (hglobal.symm.trans hshared)
  refine ⟨⟨options, hoptions, hfields, hfind "author", hfind "book", hsettled, hagain⟩, ?_⟩
  exact (hfinalize _ _).2.1.2 ⟨rfl, ".", ⟨by decide, [], 1, by decide, .inl rfl⟩, .inr rfl⟩

end LoaderGen
