import LoaderGen.Proofs.GoType.Specification
import LoaderGen.Proofs.Text.Ascii
import Mathlib.Data.List.Basic

/-!
# The text of a type that is read

Whatever a specification says, the type read from it is written as the specification was, without
the white space around it. Only a path in front of a name is written as the name of its package.
That name has no slash, so the text has no path any more, and reading it again changes nothing.
-/

namespace LoaderGen

namespace GoType

variable {cs element qualifier name arguments front path back : List Char} {dims : Nat}
  {pointer : Bool} {spec : String}

theorem HasFront.toText_of_qualified
    (hfront : HasFront (Text.trim spec.toList) dims pointer element)
    (h : IsQualified element qualifier name arguments) :
    (parse spec).toText = String.ofList (sliceText dims ++ pointerText pointer ++
      ((resolveQualifier qualifier).2.toList ++ '.' :: (name ++ arguments))) := by
  rw [hfront.parse_eq, h.parseElement_eq, ← String.toList_inj]
  simp [toText, pointerText]

theorem HasFront.toText_of_not_qualified
    (hfront : HasFront (Text.trim spec.toList) dims pointer element)
    (h : ∀ qualifier name arguments, ¬ IsQualified element qualifier name arguments) :
    (parse spec).toText = String.ofList (Text.trim spec.toList) := by
  rw [hfront.parse_eq, parseElement_of_not_qualified h, hfront.eq, ← String.toList_inj]
  simp [toText, named, pointerText]

/-- The text is qualified by a path: what stands behind its slices and its pointer, up to the last
dot of the last segment in front of any type arguments, has a slash in it. -/
inductive HasPath (cs : List Char) : List Char → List Char → List Char → Prop where
  | intro {dims : Nat} {pointer : Bool} {element path name arguments : List Char}
      (hfront : HasFront cs dims pointer element)
      (hqualified : IsQualified element path name arguments) (hslash : '/' ∈ path) :
      HasPath cs (sliceText dims ++ pointerText pointer) path ('.' :: (name ++ arguments))

theorem HasPath.eq (h : HasPath cs front path back) : cs = front ++ (path ++ back) := by
  cases h with
  | intro hfront hqualified _ => rw [hfront.eq, List.append_assoc, hqualified.eq]

theorem toText_parse_of_path (h : HasPath (Text.trim spec.toList) front path back) :
    (parse spec).toText = String.ofList (front ++ (packageName path ++ back)) := by
  cases h with
  | intro hfront hqualified hslash =>
      rw [hfront.toText_of_qualified hqualified, resolveQualifier_of_path hslash,
        String.toList_ofList]

theorem toText_parse_of_no_path
    (h : ∀ front path back, ¬ HasPath (Text.trim spec.toList) front path back) :
    (parse spec).toText = String.ofList (Text.trim spec.toList) := by
  obtain ⟨dims, pointer, element, hfront⟩ := exists_hasFront (Text.trim spec.toList)
  by_cases hsome : ∃ qualifier name arguments, IsQualified element qualifier name arguments
  · obtain ⟨qualifier, name, arguments, hqualified⟩ := hsome
    have hslash : '/' ∉ qualifier := fun hslash => h _ _ _ (.intro hfront hqualified hslash)
    rw [hfront.toText_of_qualified hqualified, resolveQualifier_of_name hslash,
      String.toList_ofList, hfront.eq, hqualified.eq, List.append_assoc]
  · apply hfront.toText_of_not_qualified
    intro qualifier name arguments hqualified
    exact hsome ⟨qualifier, name, arguments, hqualified⟩

/-! ### Reading the text again -/

/-- A path has its slash behind the slices and in front of the first bracket after them. -/
theorem HasPath.slash_mem (h : HasPath cs front path back) :
    '/' ∈ (takeSlices cs).2.takeWhile (· != '[') := by
  cases h with
  | @intro dims pointer element path name arguments hfront hqualified hslash =>
      have hpointer : ∀ c ∈ pointerText pointer, (c != '[') = true :=
        Text.forall_mem_ne (not_mem_pointerText (by decide) pointer)
      rw [hfront.takeSlices_eq, List.takeWhile_append_of_pos hpointer, hqualified.takeWhile_eq.1]
      exact List.mem_append_right _ (List.mem_append_left _ hslash)

/-- With the name of the package in its place, the text up to the first bracket is this name and the
other one, and neither has a slash. -/
theorem HasPath.not_hasPath (h : HasPath cs front path back) {front' path' back' : List Char} :
    ¬ HasPath (front ++ (packageName path ++ back)) front' path' back' := by
  cases h with
  | @intro dims pointer element path name arguments hfront hqualified _ =>
      intro hagain
      have hpath : '[' ∉ path := fun hmem => hqualified.noBracket (List.mem_append_left _ hmem)
      have hname : '[' ∉ name := fun hmem =>
        hqualified.noBracket (List.mem_append_right _ (List.mem_cons_of_mem '.' hmem))
      have hpackage : '[' ∉ packageName path := by
        intro hmem
        refine forall_mem_packageName (p := (· ≠ '[')) (by decide) ?_ '[' hmem rfl
        intro c hc heq
        exact hpath (heq ▸ hc)
      -- All of the text up to the first bracket behind the slices.
      have hlead : '[' ∉ pointerText pointer ++ (packageName path ++ '.' :: name) := by
        simp [not_mem_pointerText, hpackage, hname]
      have hstop : ¬ ['[', ']'] <+:
          pointerText pointer ++ (packageName path ++ '.' :: name) ++ arguments := by
        apply not_slice_prefix
        rw [List.head?_append_of_ne_nil _ (by simp)]
        intro hhead
        exact hlead (List.mem_of_mem_head? hhead)
      have hsplit : sliceText dims ++ pointerText pointer ++
            (packageName path ++ '.' :: (name ++ arguments)) =
          sliceText dims ++
            (pointerText pointer ++ (packageName path ++ '.' :: name) ++ arguments) := by
        simp only [List.append_assoc, List.cons_append]
      have hslash := hagain.slash_mem
      rw [hsplit, takeSlices_append hstop,
        (takeWhile_ne_bracket hlead hqualified.bracket).1] at hslash
      simp [not_mem_pointerText, slash_not_mem_packageName, hqualified.lastSegment] at hslash

theorem HasPath.not_blank (h : HasPath cs front path back)
    (hblank : ∀ c ∈ cs, Text.isBlank c = false) :
    ∀ c ∈ front ++ (packageName path ++ back), Text.isBlank c = false := by
  rw [h.eq, List.forall_mem_append, List.forall_mem_append] at hblank
  rw [List.forall_mem_append, List.forall_mem_append]
  exact ⟨hblank.1, forall_mem_packageName (by decide) hblank.2.1, hblank.2.2⟩

theorem toText_parse_toText (hblank : ∀ c ∈ spec.toList, Text.isBlank c = false) :
    (parse (parse spec).toText).toText = (parse spec).toText := by
  have htrim : Text.trim spec.toList = spec.toList := Text.trim_eq_self hblank
  by_cases hsome : ∃ front path back, HasPath (Text.trim spec.toList) front path back
  · obtain ⟨front, path, back, hpath⟩ := hsome
    have htext := toText_parse_of_path hpath
    rw [htrim] at hpath
    have hagain : Text.trim (parse spec).toText.toList = front ++ (packageName path ++ back) := by
      rw [htext, String.toList_ofList]
      exact Text.trim_eq_self (hpath.not_blank hblank)
    have hnone : ∀ front' path' back',
        ¬ HasPath (Text.trim (parse spec).toText.toList) front' path' back' := by
      intro front' path' back'
      rw [hagain]
      exact hpath.not_hasPath
    rw [toText_parse_of_no_path hnone, hagain, htext]
  · have htext : (parse spec).toText = spec := by
      rw [toText_parse_of_no_path fun front path back hpath => hsome ⟨front, path, back, hpath⟩,
        htrim, String.ofList_toList]
    rw [htext, htext]

end GoType

/-- Every specification is written as it was, trimmed, but for a path in front of its name, in whose
place stands the name of its package. Read again and written again, the text of a specification
without white space is the same. -/
theorem type_text_kept (spec : String) :
    (∀ front path back, GoType.HasPath (Text.trim spec.toList) front path back →
      (GoType.parse spec).toText =
        String.ofList (front ++ (GoType.packageName path ++ back))) ∧
      ((∀ front path back, ¬ GoType.HasPath (Text.trim spec.toList) front path back) →
        (GoType.parse spec).toText = String.ofList (Text.trim spec.toList)) ∧
      ((∀ c ∈ spec.toList, Text.isBlank c = false) →
        (GoType.parse (GoType.parse spec).toText).toText = (GoType.parse spec).toText) :=
  ⟨fun _ _ _ => GoType.toText_parse_of_path, GoType.toText_parse_of_no_path,
    GoType.toText_parse_toText⟩

/-- Slices of pointers to an element whose type argument has a path of its own. -/
def nodeSpec : String := "[]*gopkg.in/yaml.v3/go-ast.Node[a/b.C]"

theorem hasPath_nodeSpec :
    GoType.HasPath (Text.trim nodeSpec.toList) "[]*".toList "gopkg.in/yaml.v3/go-ast".toList
      ".Node[a/b.C]".toList :=
  @GoType.HasPath.intro _ 1 true ("gopkg.in/yaml.v3/go-ast.Node[a/b.C]".toList) _ "Node".toList
    "[a/b.C]".toList ⟨by decide, by decide, by decide⟩
    ⟨by decide, by decide, by decide, by decide, fun c hc => (Option.some.inj hc).symm⟩ (by decide)

theorem text_of_nodeSpec :
    (GoType.parse nodeSpec).toText = "[]*ast.Node[a/b.C]" ∧
      (GoType.parse (GoType.parse nodeSpec).toText).toText = (GoType.parse nodeSpec).toText ∧
      (GoType.parse " *[]byte\n").toText = "*[]byte" := by
  obtain ⟨hpath, -, hagain⟩ := type_text_kept nodeSpec
  obtain ⟨-, hkept, -⟩ := type_text_kept " *[]byte\n"
  have hblank : ∀ c ∈ nodeSpec.toList, Text.isBlank c = false :=
    Text.forall_mem_of_all (by decide +kernel)
  refine ⟨(hpath _ _ _ hasPath_nodeSpec).trans (by decide +kernel), hagain hblank, ?_⟩
  refine (hkept fun front path back hslash => ?_).trans (by decide +kernel)
  exact absurd hslash.slash_mem (by decide +kernel)

end LoaderGen
