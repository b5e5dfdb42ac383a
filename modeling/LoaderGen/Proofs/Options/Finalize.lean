import LoaderGen.Options.Reading
import LoaderGen.Proofs.Outcome

/-!
# What finalizing settles

Finalizing looks at the package, at every override and at every cache entry, and ends with the first
fault. Options that it lets through are the draft's own preferences with the package, the schema and
the compiled overrides filled in, and each of their cache entries is sound: it can be read again
later without a fault. Whatever document accepted options come from, they were finalized.
-/

namespace LoaderGen

/-- Nothing is wrong with the entry: it asks for a policy, or it is inert. -/
def CacheEntry.IsSound (entry : CacheEntry) : Prop := ∃ policy, entry.policy = .ok policy

namespace OptionsDraft

/-- The options that finalizing makes of a draft whose package and overrides are settled. -/
theorem finalize_eq_ok {draft : OptionsDraft} {catalogDefault : String} {options : Options} :
    draft.finalize catalogDefault = .ok options ↔
      draft.settlePackage = .ok options.package ∧
      draft.overrides.mapM (Override.compile (draft.settleSchema catalogDefault))
        = .ok options.overrides ∧
      (∀ entry ∈ draft.cache, entry.IsSound) ∧
      options.toPreferences = draft.toPreferences ∧
      options.defaultSchema = draft.settleSchema catalogDefault ∧
      options.initialisms = draft.initialisms.getD defaultInitialisms := by
  have hcache : (∀ entry ∈ draft.cache, entry.IsSound) ↔
      ∃ policies, draft.cache.mapM CacheEntry.policy = .ok policies := exists_mapM_eq_ok.symm
  rw [hcache]
  simp only [finalize, bind_eq_ok]
  constructor
  · rintro ⟨package, hpackage, overrides, hoverrides, policies, hpolicies, h⟩
    cases h
    exact ⟨hpackage, hoverrides, ⟨policies, hpolicies⟩, rfl, rfl, rfl⟩
  · rintro ⟨hpackage, hoverrides, ⟨policies, hpolicies⟩, hpreferences, hschema, hinitialisms⟩
    refine ⟨options.package, hpackage, options.overrides, hoverrides, policies, hpolicies, ?_⟩
    obtain ⟨preferences, package, schema, hne, overrides, initialisms⟩ := options
    subst hpreferences hschema hinitialisms
    rfl

end OptionsDraft

namespace Options

/-- Options that finalizing has let through. -/
def IsFinalized (options : Options) : Prop :=
  ∃ draft catalogDefault, OptionsDraft.finalize draft catalogDefault = .ok options

theorem IsFinalized.isSound {options : Options} (h : options.IsFinalized) {entry : CacheEntry}
    (hentry : entry ∈ options.cache) : entry.IsSound := by
  obtain ⟨draft, catalogDefault, hfinalize⟩ := h
  obtain ⟨-, -, hsound, hpreferences, -⟩ := OptionsDraft.finalize_eq_ok.1 hfinalize
  rw [hpreferences] at hentry
  exact hsound entry hentry

/-- The options of a request are those that its two documents give together. -/
theorem ofRequest_eq_ok {request : Request} {options : Options} :
    ofRequest request = .ok options ↔
      ∃ draft shared,
        readDocument .plugin {} (OptionsDraft.ofValue? .json) request.pluginOptions = .ok draft ∧
        readDocument .global {} (GlobalOptions.ofValue? .json) request.globalOptions
          = .ok shared ∧
        (draft.merge shared).finalize request.catalog.defaultSchema = .ok options := by
  simp only [ofRequest, bind_eq_ok, exists_and_left]

/-- Options that a request or a file has given. -/
def IsAccepted (options : Options) : Prop :=
  (∃ request, ofRequest request = .ok options) ∨
    ∃ source catalogDefault, ofToml source catalogDefault = .ok options

/-- Accepted options were finalized, whatever document they come from. -/
theorem IsAccepted.isFinalized {options : Options} (h : options.IsAccepted) :
    options.IsFinalized := by
  rcases h with ⟨request, h⟩ | ⟨source, catalogDefault, h⟩
  · obtain ⟨draft, shared, -, -, h⟩ := ofRequest_eq_ok.1 h
    exact ⟨draft.merge shared, request.catalog.defaultSchema, h⟩
  · unfold ofToml at h
    split at h
    · next draft _ => exact ⟨draft, catalogDefault, h⟩
    · cases h

theorem IsAccepted.isSound {options : Options} (h : options.IsAccepted) {entry : CacheEntry}
    (hentry : entry ∈ options.cache) : entry.IsSound :=
  h.isFinalized.isSound hentry

end Options

/-- The options of a document that names a package and nothing else. -/
def plainOptions : Options where
  package := "db"
  defaultSchema := "public"
  defaultSchema_ne := by decide
  overrides := []
  initialisms := ["id"]

theorem isFinalized_plainOptions : plainOptions.IsFinalized :=
  ⟨{ package := "db" }, "", toOption_eq_some.1 (by decide)⟩

end LoaderGen
