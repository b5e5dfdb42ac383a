import LoaderGen.Proofs.Plan.ImportSet

/-!
# Registering imports

Imports are registered one after another, by their path alone, with a local name, as the import of a
type that may have none, or as the package of a driver. The imports of a file are then the first that
were registered under each path, the standard library's before the others and both in the order of
their paths. The order of the registrations counts only where one path has two local names.
-/

namespace LoaderGen

theorem Import.eq_of_path_eq {imp other : Import} (hpath : imp.path = other.path)
    (hname : imp.localName = other.localName) : imp = other := by
  cases imp
  cases other
  cases hpath
  cases hname
  rfl

namespace ImportSet

/-- One registration. -/
inductive Registration where
  | plain (path : String)
  | aliased (path name : String)
  | imported (imp : Option Import)
  | ofDriver (driver : Driver)

namespace Registration

def apply (set : ImportSet) : Registration → ImportSet
  | plain path => set.add path
  | aliased path name => set.addAliased path name
  | imported imp => set.addImport imp
  | ofDriver driver => set.addDriver driver

/-- The import that is registered; a type without an import registers none. -/
def asked? : Registration → Option Import
  | plain path => some ⟨path, none⟩
  | aliased path name => some ⟨path, some name⟩
  | imported imp => imp
  | ofDriver driver => some ⟨driver.importPath, none⟩

/-- The imports registered, in turn. -/
def asked (registrations : List Registration) : List Import := registrations.filterMap asked?

/-- The imports of a file after these registrations. -/
def imports (registrations : List Registration) : List Import :=
  (registrations.foldl apply ∅).toList

theorem apply_eq_foldl (set : ImportSet) (registration : Registration) :
    apply set registration = registration.asked?.toList.foldl push set := by
  cases registration with
  | plain path => rfl
  | aliased path name => rfl
  | imported imp => cases imp <;> rfl
  | ofDriver driver => rfl

theorem foldl_apply (set : ImportSet) (registrations : List Registration) :
    registrations.foldl apply set = (asked registrations).foldl push set := by
  induction registrations generalizing set with
  | nil => rfl
  | cons first rest ih =>
      rw [List.foldl_cons, ih, apply_eq_foldl, asked, asked, List.filterMap_cons]
      cases first.asked? <;> rfl

theorem find?_foldl_apply (registrations : List Registration) (path : String) :
    (registrations.foldl apply ∅).find? path = (asked registrations).find? (·.path == path) := by
  rw [foldl_apply, find?_foldl_push, find?_empty, Option.none_or]

end Registration

variable {set other : ImportSet}

theorem ext_of_mem (h : ∀ imp, imp ∈ set.imports ↔ imp ∈ other.imports) : set = other := by
  have hperm : set.imports.Perm other.imports :=
    (List.perm_ext_iff_of_nodup (.of_map _ set.nodup_paths) (.of_map _ other.nodup_paths)).2 h
  obtain ⟨imports, hsorted⟩ := set
  obtain ⟨others, hothers⟩ := other
  obtain rfl : imports = others := by
    refine hperm.eq_of_pairwise (fun a b _ _ hab hba => ?_) hsorted hothers
    exact absurd (String.lt_trans hab hba) (String.lt_irrefl a.path)
  rfl

/-- A set of imports is known by what it holds under each path. -/
theorem eq_of_find?_eq (h : ∀ path, set.find? path = other.find? path) : set = other := by
  apply ext_of_mem
  intro imp
  rw [← set.toList_perm.mem_iff, ← other.toList_perm.mem_iff, mem_toList, mem_toList, h]

/-- Where no path is asked for under two local names, the first import of a path is any of it. -/
theorem find?_eq_of_perm {asked others : List Import} (hperm : others.Perm asked)
    (hnames : ∀ imp ∈ asked, ∀ other ∈ asked,
      imp.path = other.path → imp.localName = other.localName) (path : String) :
    others.find? (·.path == path) = asked.find? (·.path == path) := by
  cases hfound : others.find? (·.path == path) with
  | none =>
      rw [List.find?_eq_none] at hfound
      symm
      rw [List.find?_eq_none]
      intro imp himp
      exact hfound imp (hperm.mem_iff.2 himp)
  | some imp =>
      have himp : imp ∈ asked := hperm.mem_iff.1 (List.mem_of_find?_eq_some hfound)
      have hpath : imp.path = path := by simpa using List.find?_some hfound
      obtain ⟨first, hfirst⟩ : ∃ first, asked.find? (·.path == path) = some first := by
        rw [← Option.isSome_iff_exists, List.find?_isSome]
        exact ⟨imp, himp, by simpa using hpath⟩
      have hmem : first ∈ asked := List.mem_of_find?_eq_some hfirst
      have hsame : first.path = path := by simpa using List.find?_some hfirst
      have heq : imp.path = first.path := hpath.trans hsame.symm
      rw [hfirst, Import.eq_of_path_eq heq (hnames imp himp first hmem heq)]

theorem isStandard_iff {imp : Import} :
    imp.isStandard = true ↔ '.' ∉ imp.path.toList.takeWhile (· != '/') := by
  simp [Import.isStandard]

/-- The list of a set is cut where the standard library ends, and both parts are in order. -/
theorem exists_parts_toList (set : ImportSet) :
    ∃ standard others, set.toList = standard ++ others ∧
      (∀ imp ∈ standard, '.' ∉ imp.path.toList.takeWhile (· != '/')) ∧
      (∀ imp ∈ others, '.' ∈ imp.path.toList.takeWhile (· != '/')) ∧
      (standard.Pairwise fun imp other => imp.path < other.path) ∧
      others.Pairwise fun imp other => imp.path < other.path := by
  refine ⟨_, _, rfl, ?_, ?_, set.sorted.filter _, set.sorted.filter _⟩
  · intro imp himp
    exact isStandard_iff.1 (List.mem_filter.1 himp).2
  · intro imp himp
    have hother := (List.mem_filter.1 himp).2
    rw [Bool.not_eq_true', ← Bool.not_eq_true, isStandard_iff, not_not] at hother
    exact hother

namespace Registration

theorem mem_imports {registrations : List Registration} {imp : Import} :
    imp ∈ imports registrations ↔
      IsFirst (fun other => other.path = imp.path) (asked registrations) imp := by
  rw [imports, mem_toList, find?_foldl_apply]
  exact find?_eq_some_iff_isFirst fun other => beq_iff_eq.symm

theorem mem_paths_imports {registrations : List Registration} {path : String} :
    path ∈ (imports registrations).map Import.path ↔
      path ∈ (asked registrations).map Import.path := by
  rw [imports, mem_paths_toList, find?_foldl_apply, List.find?_isSome, List.mem_map]
  simp only [beq_iff_eq]

end Registration

/-- After any registrations, the imports are the first registered under each path, so each path that
was registered is there once and no other is. Those of the standard library, with no dot in the first
segment, come first, and both parts are in the order of their paths. Where no path is registered
under two local names, none being one, the order of the registrations makes no difference. -/
theorem imports_of_registrations (registrations : List Registration) :
    (∀ imp, imp ∈ Registration.imports registrations ↔
        IsFirst (fun other => other.path = imp.path) (Registration.asked registrations) imp) ∧
      (∀ path, ((Registration.imports registrations).map Import.path).count path =
        if path ∈ (Registration.asked registrations).map Import.path then 1 else 0) ∧
      (∃ standard others, Registration.imports registrations = standard ++ others ∧
        (∀ imp ∈ standard, '.' ∉ imp.path.toList.takeWhile (· != '/')) ∧
        (∀ imp ∈ others, '.' ∈ imp.path.toList.takeWhile (· != '/')) ∧
        (standard.Pairwise fun imp other => imp.path < other.path) ∧
        others.Pairwise fun imp other => imp.path < other.path) ∧
      ((∀ imp ∈ Registration.asked registrations, ∀ other ∈ Registration.asked registrations,
          imp.path = other.path → imp.localName = other.localName) →
        ∀ reordered : List Registration, reordered.Perm registrations →
          Registration.imports reordered = Registration.imports registrations) := by
  refine ⟨fun imp => Registration.mem_imports, ?_, exists_parts_toList _, ?_⟩
  · intro path
    have hnodup : ((Registration.imports registrations).map Import.path).Nodup :=
      nodup_paths_toList _
    rw [hnodup.count]
    simp only [Registration.mem_paths_imports]
  · intro hnames reordered hperm
    have hasked : (Registration.asked reordered).Perm (Registration.asked registrations) :=
      hperm.filterMap Registration.asked?
    have hset : reordered.foldl Registration.apply ∅ =
        registrations.foldl Registration.apply ∅ := by
      apply eq_of_find?_eq
      intro path
      rw [Registration.find?_foldl_apply, Registration.find?_foldl_apply,
        find?_eq_of_perm hasked hnames]
    rw [Registration.imports, hset, Registration.imports]

/-- A package under a local name, one of the standard library in two ways, and a driver's. -/
def mixed : List Registration := [
  .aliased "github.com/acme/ids" "ids", .plain "time", .ofDriver .libPq, .imported none,
  .imported (some ⟨"time", none⟩)]

theorem imports_of_mixed :
    (∀ imp ∈ Registration.asked mixed, ∀ other ∈ Registration.asked mixed,
        imp.path = other.path → imp.localName = other.localName) ∧
      Registration.imports mixed =
        [⟨"database/sql", none⟩, ⟨"time", none⟩, ⟨"github.com/acme/ids", some "ids"⟩] ∧
      Registration.imports mixed.reverse = Registration.imports mixed := by
  have hnames : ∀ imp ∈ Registration.asked mixed, ∀ other ∈ Registration.asked mixed,
      imp.path = other.path → imp.localName = other.localName := by decide +kernel
  obtain ⟨-, -, -, hreordered⟩ := imports_of_registrations mixed
  exact ⟨hnames, by decide +kernel, hreordered hnames mixed.reverse mixed.reverse_perm⟩

end ImportSet

end LoaderGen
