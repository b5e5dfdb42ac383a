import LoaderGen.GoType.Spec
import LoaderGen.Proofs.GoType.Specification
import LoaderGen.Proofs.Text.Ascii
import Mathlib.Data.List.Basic

/-!
# Two spellings of an imported type

A type of an imported package is written in a specification as one text, slices, pointer, path and
name one behind the other, or with its parts beside each other. Read as a text, it comes apart into
the parts that it was put together of, whatever dots and slashes they have themselves. The parts are
taken as they are, and make the same type.
-/

namespace LoaderGen

namespace GoType

/-- An import path, a type's name in that package and its type arguments, if any, that can be told
apart when one is written behind the other. -/
structure IsImported (path type arguments : String) : Prop where
  hasSlash : '/' ∈ path.toList
  noStar : path.toList.head? ≠ some '*'
  inPath : ∀ c ∈ path.toList, c ≠ '[' ∧ Text.isBlank c = false
  inType : ∀ c ∈ type.toList, c ∉ ['.', '/', '['] ∧ Text.isBlank c = false
  inBrackets : arguments = "" ∨ arguments.toList.head? = some '['
  inArguments : ∀ c ∈ arguments.toList, Text.isBlank c = false

/-- The text of a type of so many slices, and of pointers if it is to be. -/
def specText (dims : Nat) (pointer : Bool) (path type arguments : String) : String :=
  String.join (List.replicate dims "[]") ++ (if pointer then "*" else "") ++ path ++ "." ++ type ++
    arguments

variable {path type arguments : String}

theorem toList_specText (dims : Nat) (pointer : Bool) (path type arguments : String) :
    (specText dims pointer path type arguments).toList =
      sliceText dims ++ (pointerText pointer ++
        (path.toList ++ '.' :: (type.toList ++ arguments.toList))) := by
  have hpointer : (if pointer then "*" else "").toList = pointerText pointer := by
    cases pointer <;> rfl
  simp [specText, join_replicate_slice, hpointer]

theorem forall_mem_sliceText {p : Char → Prop} (hopen : p '[') (hclose : p ']') (dims : Nat) :
    ∀ c ∈ sliceText dims, p c := by
  intro c hc
  obtain ⟨slice, hslice, hc⟩ := List.mem_flatten.1 hc
  rw [List.eq_of_mem_replicate hslice] at hc
  have hcases : c = '[' ∨ c = ']' := by simpa using hc
  rcases hcases with rfl | rfl
  · exact hopen
  · exact hclose

theorem IsImported.not_blank (h : IsImported path type arguments) (dims : Nat) (pointer : Bool) :
    ∀ c ∈ (specText dims pointer path type arguments).toList, Text.isBlank c = false := by
  have hpointer : ∀ c ∈ pointerText pointer, Text.isBlank c = false := by
    apply Text.forall_mem_of_all
    cases pointer <;> decide
  rw [toList_specText]
  simp only [List.forall_mem_append, List.forall_mem_cons]
  exact ⟨forall_mem_sliceText (by decide) (by decide) dims, hpointer, fun c hc => (h.inPath c hc).2,
    by decide, fun c hc => (h.inType c hc).2, h.inArguments⟩

theorem IsImported.path_ne_nil (h : IsImported path type arguments) : path.toList ≠ [] :=
  List.ne_nil_of_mem h.hasSlash

theorem IsImported.hasFront (h : IsImported path type arguments) (dims : Nat) (pointer : Bool) :
    HasFront (specText dims pointer path type arguments).toList dims pointer
      (path.toList ++ '.' :: (type.toList ++ arguments.toList)) where
  eq := toList_specText dims pointer path type arguments
  noSlice := by
    apply not_slice_prefix
    cases pointer with
    | true =>
        show some '*' ≠ some '['
        decide
    | false =>
        show (path.toList ++ _).head? ≠ some '['
        rw [List.head?_append_of_ne_nil _ h.path_ne_nil]
        intro hhead
        exact (h.inPath '[' (List.mem_of_mem_head? hhead)).1 rfl
  noStar := by
    intro _
    rw [List.head?_append_of_ne_nil _ h.path_ne_nil]
    exact h.noStar

theorem IsImported.isQualified (h : IsImported path type arguments) :
    IsQualified (path.toList ++ '.' :: (type.toList ++ arguments.toList)) path.toList type.toList
      arguments.toList where
  eq := rfl
  noBracket := by
    have hpath : '[' ∉ path.toList := fun hmem => (h.inPath '[' hmem).1 rfl
    have htype : '[' ∉ type.toList := fun hmem => (h.inType '[' hmem).1 (by decide)
    simp [hpath, htype]
  lastDot := fun hmem => (h.inType '.' hmem).1 (by decide)
  lastSegment := fun hmem => (h.inType '/' hmem).1 (by decide)
  bracket := by
    intro c hc
    rcases h.inBrackets with hnone | hbracket
    · rw [hnone] at hc
      cases hc
    · exact Option.some.inj (hc.symm.trans hbracket)

theorem IsImported.parse_eq (h : IsImported path type arguments) (dims : Nat) (pointer : Bool) :
    parse (specText dims pointer path type arguments) =
      { source := some { path := path }
        package := some (String.ofList (packageName path.toList))
        name := type ++ arguments
        pointer := pointer
        sliceDims := dims } := by
  have hfront := h.hasFront dims pointer
  rw [← Text.trim_eq_self (h.not_blank dims pointer)] at hfront
  rw [hfront.parse_eq, h.isQualified.parseElement_eq, resolveQualifier_of_path h.hasSlash,
    String.ofList_append]
  simp only [String.ofList_toList]

end GoType

/-- Given in parts, without a local name for the package, the type is the one that they name. -/
theorem GoTypeSpec.resolve_parts {path package : String} (hpath : path ≠ "")
    (hpackage : package = "" ∨ package = String.ofList (GoType.packageName path.toList))
    (type : String) (pointer slice : Bool) :
    (GoTypeSpec.parts path package type pointer slice).resolve =
      { source := some { path := path }
        package := some (String.ofList (GoType.packageName path.toList))
        name := type
        pointer := pointer
        sliceDims := if slice then 1 else 0 } := by
  have helement : element path package type =
      { source := some { path := path }
        package := some (String.ofList (GoType.packageName path.toList))
        name := type } := by
    have hsome : path.isEmpty = false := by simpa using hpath
    rcases hpackage with rfl | rfl
    · simp [element, hsome]
    · simp [element, hsome]
  rw [resolve, helement]
  simp

/-- The text of an imported type is read back part by part, and with no more than one slice the same
type is made of the parts beside each other. -/
theorem imported_type_spellings {path type arguments : String}
    (h : GoType.IsImported path type arguments) (dims : Nat) (pointer : Bool) :
    GoType.parse (GoType.specText dims pointer path type arguments) =
        { source := some { path := path, localName := none }
          package := some (String.ofList (GoType.packageName path.toList))
          name := type ++ arguments
          pointer := pointer
          sliceDims := dims } ∧
      ∀ (slice : Bool) (package : String), dims = (if slice then 1 else 0) →
        package = "" ∨ package = String.ofList (GoType.packageName path.toList) →
        (GoTypeSpec.parts path package (type ++ arguments) pointer slice).resolve =
          GoType.parse (GoType.specText dims pointer path type arguments) := by
  have hpath : path ≠ "" := by
    intro hnone
    rw [hnone] at h
    exact h.path_ne_nil rfl
  refine ⟨h.parse_eq dims pointer, ?_⟩
  intro slice package hdims hpackage
  rw [GoTypeSpec.resolve_parts hpath hpackage, h.parse_eq, hdims]

theorem isImported_range :
    GoType.IsImported "github.com/jackc/pgx/v5/go-pgtype" "Range" "[pgtype.Date]" :=
  ⟨by decide, by decide, Text.forall_mem_of_all (by decide),
    Text.forall_mem_of_all (by decide), by decide,
    Text.forall_mem_of_all (by decide)⟩

theorem spellings_of_range :
    GoType.parse "[]*github.com/jackc/pgx/v5/go-pgtype.Range[pgtype.Date]" =
        { source := some { path := "github.com/jackc/pgx/v5/go-pgtype" }
          package := some "pgtype"
          name := "Range[pgtype.Date]"
          pointer := true
          sliceDims := 1 } ∧
      (GoTypeSpec.parts "github.com/jackc/pgx/v5/go-pgtype" "pgtype" "Range[pgtype.Date]" true
        true).resolve = GoType.parse "[]*github.com/jackc/pgx/v5/go-pgtype.Range[pgtype.Date]" := by
  have hpackage : String.ofList (GoType.packageName "github.com/jackc/pgx/v5/go-pgtype".toList) =
      "pgtype" := by decide +kernel
  obtain ⟨hparse, hparts⟩ := imported_type_spellings isImported_range 1 true
  rw [hpackage] at hparse hparts
  exact ⟨hparse, hparts true "pgtype" rfl (.inr rfl)⟩

end LoaderGen
