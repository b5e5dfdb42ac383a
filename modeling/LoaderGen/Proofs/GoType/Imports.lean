import LoaderGen.Options.Engine
import LoaderGen.Proofs.GoType.Specification
import LoaderGen.Proofs.Lookup

/-!
# Imports of a specification

What a type imports is seen from its specification without reading it as a whole: save for a few
packages that are known by name, the path is what the element begins with. So a beginning is enough
to tell which drivers a specification is for, each driver having a package for types of its own, and
an element with a star in front imports what it does without.
-/

namespace LoaderGen

/-- The import is of the package with this path, or of one below it. -/
def Import.IsUnder (imp : Import) (root : String) : Prop :=
  imp.path = root ∨ (root ++ "/").toList <+: imp.path.toList

instance (imp : Import) (root : String) : Decidable (imp.IsUnder root) :=
  inferInstanceAs (Decidable (_ ∨ _))

theorem Import.IsUnder.isPrefix {imp : Import} {root : String} (h : imp.IsUnder root) :
    root.toList <+: imp.path.toList := by
  rcases h with h | h
  · exact h ▸ List.prefix_refl _
  · rw [String.toList_append] at h
    exact (List.prefix_append root.toList "/".toList).trans h

/-- The package that types of the driver's own are in, or below. -/
def Driver.typesRoot : Driver → String
  | libPq => "github.com/sqlc-dev/pqtype"
  | pgxV4 => "github.com/jackc/pgtype"
  | pgxV5 => "github.com/jackc/pgx/v5"

namespace GoType

variable {spec : String}

/-- The specification is that of an element, with nothing in front of it and no white space. -/
structure IsElement (spec : String) : Prop where
  noBlank : spec.toList.all (!Text.isBlank ·) = true
  noSlice : spec.toList.head? ≠ some '['
  noStar : spec.toList.head? ≠ some '*'

instance : DecidablePred IsElement := fun _ =>
  decidable_of_iff (_ ∧ _ ∧ _) ⟨fun h => ⟨h.1, h.2.1, h.2.2⟩, fun h => ⟨h.1, h.2, h.3⟩⟩

/-- A star can be put in front of an element, which is then read as a pointer to the same. -/
theorem IsElement.parse_star (h : IsElement spec) :
    parse ("*" ++ spec) = { parse spec with pointer := true } := by
  have hblank : ∀ c ∈ spec.toList, Text.isBlank c = false := by
    intro c hc
    simpa using List.all_eq_true.1 h.noBlank c hc
  have hpointer : HasFront (Text.trim ("*" ++ spec).toList) 0 true spec.toList := by
    rw [String.toList_append, Text.trim_eq_self]
    · exact ⟨rfl, not_slice_prefix fun hhead => absurd (Option.some.inj hhead) (by decide),
        fun hnone => by cases hnone⟩
    · intro c hc
      rcases List.mem_append.1 hc with hstar | hspec
      · rw [List.mem_singleton.1 hstar]
        decide
      · exact hblank c hspec
  have hplain : HasFront (Text.trim spec.toList) 0 false spec.toList := by
    rw [Text.trim_eq_self hblank]
    exact ⟨rfl, not_slice_prefix h.noSlice, fun _ => h.noStar⟩
  rw [hpointer.parse_eq, hplain.parse_eq]

/-- An import with a path is what its specification begins with; without one it is known. -/
theorem path_prefix_or_known {element : List Char} {imp : Import}
    (h : (parseElement element).source = some imp) :
    imp.path.toList <+: element ∨ ∃ name, (name, imp.path) ∈ knownPackages := by
  by_cases hsome : ∃ qualifier name arguments, IsQualified element qualifier name arguments
  · obtain ⟨qualifier, name, arguments, hcut⟩ := hsome
    rw [hcut.parseElement_eq] at h
    by_cases hslash : '/' ∈ qualifier
    · simp only [resolveQualifier_of_path hslash] at h
      cases h
      left
      rw [String.toList_ofList, hcut.eq]
      exact List.prefix_append qualifier _
    · simp only [resolveQualifier_of_name hslash] at h
      obtain ⟨path, hpath, rfl⟩ := Option.map_eq_some_iff.1 h
      exact .inr ⟨_, mem_of_lookup_eq_some hpath⟩
  · rw [parseElement_of_not_qualified fun qualifier name arguments hcut =>
      hsome ⟨qualifier, name, arguments, hcut⟩] at h
    cases h

private theorem not_isUnder_known : ∀ known ∈ knownPackages, ∀ driver : Driver,
    ¬ ({ path := known.2 } : Import).IsUnder driver.typesRoot := by
  decide

/-- What begins with an element has no slices and no pointer in front, whatever follows. -/
theorem IsElement.exists_prefix {front : String} (h : IsElement front) (hfront : front ≠ "")
    (name : String) :
    ∃ element, element <+: (front ++ name).toList ∧
      parse (front ++ name) = { parseElement element with pointer := false, sliceDims := 0 } := by
  cases hcs : front.toList with
  | nil => exact absurd (String.toList_eq_nil_iff.1 hcs) hfront
  | cons c rest =>
      have htext : (front ++ name).toList = c :: (rest ++ name.toList) := by
        rw [String.toList_append, hcs]
        rfl
      have hblank : Text.isBlank c = false := by
        simpa [hcs] using List.all_eq_true.1 h.noBlank c (by simp [hcs])
      have hprefix := Text.trim_prefix hblank (rest ++ name.toList)
      have hhead : ∀ d, (Text.trim (c :: (rest ++ name.toList))).head? = some d → d = c := by
        intro d hd
        obtain ⟨kept, hkept⟩ := List.head?_eq_some_iff.1 hd
        rw [hkept, List.cons_prefix_cons] at hprefix
        exact hprefix.1
      have hslice := h.noSlice
      have hstar := h.noStar
      rw [hcs, List.head?_cons] at hslice hstar
      have hcut : HasFront (Text.trim (front ++ name).toList) 0 false
          (Text.trim (c :: (rest ++ name.toList))) := by
        rw [htext]
        refine ⟨rfl, not_slice_prefix fun hd => ?_, fun _ hd => ?_⟩
        · exact hslice (congrArg some (hhead _ hd).symm)
        · exact hstar (congrArg some (hhead _ hd).symm)
      exact ⟨_, htext ▸ hprefix, hcut.parse_eq⟩

end GoType

namespace Driver

variable {driver : Driver} {front : String}

/-- The specification is one for the driver: not that of a pointer, and with no import that is
another driver's. -/
structure Allows (driver : Driver) (spec : String) : Prop where
  noPointer : (GoType.parse spec).pointer = false
  isOwn : ∀ imp, (GoType.parse spec).source = some imp →
    ∀ other : Driver, imp.IsUnder other.typesRoot → other = driver

/-- What begins so is one for the driver: from here on it cannot come to a path of another's. -/
structure AllowsFront (driver : Driver) (front : String) : Prop where
  ne_empty : front ≠ ""
  isElement : GoType.IsElement front
  isOwn : ∀ other : Driver, other.typesRoot.toList <+: front.toList ∨
    front.toList <+: other.typesRoot.toList → other = driver

instance (driver : Driver) (front : String) : Decidable (driver.AllowsFront front) :=
  decidable_of_iff (_ ∧ _ ∧ _) ⟨fun h => ⟨h.1, h.2.1, h.2.2⟩, fun h => ⟨h.1, h.2, h.3⟩⟩

theorem AllowsFront.allows_append (h : driver.AllowsFront front) (name : String) :
    driver.Allows (front ++ name) := by
  obtain ⟨element, hprefix, hparse⟩ := h.isElement.exists_prefix h.ne_empty name
  rw [String.toList_append] at hprefix
  refine ⟨by rw [hparse], fun imp himp other hunder => ?_⟩
  rw [hparse] at himp
  rcases GoType.path_prefix_or_known himp with hpath | ⟨known, hknown⟩
  · -- Of two beginnings of one text, one begins with the other.
    have hroot : other.typesRoot.toList <+: front.toList ++ name.toList :=
      (hunder.isPrefix.trans hpath).trans hprefix
    exact h.isOwn other
      (List.prefix_or_prefix_of_prefix hroot (List.prefix_append front.toList name.toList))
  · exact absurd hunder (GoType.not_isUnder_known _ hknown other)

theorem AllowsFront.allows (h : driver.AllowsFront front) : driver.Allows front := by
  have hallows := h.allows_append ""
  rwa [String.append_empty] at hallows

end Driver

end LoaderGen
