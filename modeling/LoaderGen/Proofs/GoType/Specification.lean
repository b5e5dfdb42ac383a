import LoaderGen.GoType.Basic
import Mathlib.Data.List.TakeWhile

/-!
# The parts of a type specification

A specification begins with all the slices and the pointer that stand in front of its element. The
element has a qualifier where the last segment in front of any type arguments has a dot, and the
last such dot ends it. Both cuts are stated here as what they leave on either side, and reading finds
exactly these. A qualifier that is a path gives way to the name of its package, which is made of
letters of the path and of underscores.
-/

namespace LoaderGen

namespace GoType

variable {cs rest element qualifier name arguments : List Char} {dims : Nat} {pointer : Bool}

/-! ### Slices and pointer -/

theorem sliceText_add (dims levels : Nat) :
    sliceText (dims + levels) = sliceText levels ++ sliceText dims := by
  rw [Nat.add_comm, sliceText, ← List.replicate_append_replicate, List.flatten_append]
  rfl

theorem join_replicate_slice (levels : Nat) :
    String.join (List.replicate levels "[]") = String.ofList (sliceText levels) := by
  rw [← String.toList_inj, String.toList_join, String.toList_ofList, List.flatMap_def,
    List.map_replicate]
  rfl

theorem not_slice_prefix (h : rest.head? ≠ some '[') : ¬ ['[', ']'] <+: rest := by
  intro hslice
  obtain ⟨after, rfl⟩ := hslice
  exact h rfl

theorem takeSlices_append (h : ¬ ['[', ']'] <+: rest) (dims : Nat) :
    takeSlices (sliceText dims ++ rest) = (dims, rest) := by
  induction dims with
  | zero =>
      show takeSlices rest = (0, rest)
      unfold takeSlices
      split
      · next after => exact absurd ⟨after, rfl⟩ h
      · rfl
  | succ dims ih =>
      have hfront : sliceText (dims + 1) ++ rest = '[' :: ']' :: (sliceText dims ++ rest) := rfl
      rw [hfront, takeSlices, ih]

theorem sliceText_append_takeSlices (cs : List Char) :
    sliceText (takeSlices cs).1 ++ (takeSlices cs).2 = cs := by
  fun_induction takeSlices cs with
  | case1 rest dims after htake ih =>
      rw [htake] at ih
      have hfront : sliceText (dims + 1) ++ after = '[' :: ']' :: (sliceText dims ++ after) := rfl
      rw [hfront, ih]
  | case2 cs => rfl

theorem not_slice_prefix_takeSlices (cs : List Char) : ¬ ['[', ']'] <+: (takeSlices cs).2 := by
  fun_induction takeSlices cs with
  | case1 rest dims after htake ih => rwa [htake] at ih
  | case2 cs hnone =>
      intro hslice
      obtain ⟨rest, hrest⟩ := hslice
      exact hnone rest hrest.symm

/-- The text of a pointer, or nothing. -/
def pointerText (pointer : Bool) : List Char := if pointer then ['*'] else []

theorem not_mem_pointerText {c : Char} (hc : c ≠ '*') (pointer : Bool) :
    c ∉ pointerText pointer := by
  cases pointer <;> simp [pointerText, hc]

theorem takePointer_of_ne {c : Char} (hc : c ≠ '*') (rest : List Char) :
    takePointer (c :: rest) = (false, c :: rest) := by
  unfold takePointer
  split
  · next heq => exact absurd (List.cons.inj heq).1 hc
  · rfl

theorem takePointer_append (h : pointer = false → element.head? ≠ some '*') :
    takePointer (pointerText pointer ++ element) = (pointer, element) := by
  cases pointer with
  | true => rfl
  | false =>
      cases element with
      | nil => rfl
      | cons c rest =>
          apply takePointer_of_ne
          intro hstar
          exact h rfl (congrArg some hstar)

theorem pointerText_append_takePointer (cs : List Char) :
    pointerText (takePointer cs).1 ++ (takePointer cs).2 = cs := by
  unfold takePointer
  split <;> rfl

theorem head_takePointer_ne (h : (takePointer cs).1 = false) :
    (takePointer cs).2.head? ≠ some '*' := by
  unfold takePointer at h ⊢
  split at h
  · cases h
  · next hnone =>
    intro hstar
    obtain ⟨rest, hrest⟩ := List.head?_eq_some_iff.1 hstar
    exact hnone rest hrest

/-- All the slices in front of an element, and the pointer behind them if there is one. -/
structure HasFront (cs : List Char) (dims : Nat) (pointer : Bool) (element : List Char) :
    Prop where
  eq : cs = sliceText dims ++ (pointerText pointer ++ element)
  noSlice : ¬ ['[', ']'] <+: pointerText pointer ++ element
  noStar : pointer = false → element.head? ≠ some '*'

theorem exists_hasFront (cs : List Char) :
    ∃ dims pointer element, HasFront cs dims pointer element := by
  have hpointer := pointerText_append_takePointer (takeSlices cs).2
  refine ⟨(takeSlices cs).1, (takePointer (takeSlices cs).2).1, (takePointer (takeSlices cs).2).2,
    ?_, ?_, head_takePointer_ne⟩
  · rw [hpointer, sliceText_append_takeSlices]
  · rw [hpointer]
    exact not_slice_prefix_takeSlices cs

theorem HasFront.takeSlices_eq (h : HasFront cs dims pointer element) :
    takeSlices cs = (dims, pointerText pointer ++ element) := by
  rw [h.eq, takeSlices_append h.noSlice]

theorem HasFront.parse_eq {spec : String}
    (h : HasFront (Text.trim spec.toList) dims pointer element) :
    parse spec = { parseElement element with pointer := pointer, sliceDims := dims } := by
  unfold parse
  rw [h.takeSlices_eq]
  show { parseElement (takePointer (pointerText pointer ++ element)).2 with
    pointer := (takePointer (pointerText pointer ++ element)).1, sliceDims := dims } = _
  rw [takePointer_append h.noStar]

/-! ### Qualifier and name -/

theorem take_append_lastSegment (separator : Char) (cs : List Char) :
    cs.take (cs.length - (Text.lastSegment separator cs).length) ++ Text.lastSegment separator cs =
      cs := by
  have hsegment : Text.lastSegment separator cs = Text.lastSegment separator cs := rfl
  obtain ⟨-, before, hcut, -⟩ := Text.lastSegment_eq_iff.1 hsegment
  have hlength : cs.length - (Text.lastSegment separator cs).length = before.length := by
    have hsum := congrArg List.length hcut
    rw [List.length_append] at hsum
    omega
  have htake : cs.take before.length = before := by rw [hcut, List.take_left]
  rw [hlength, htake, ← hcut]

/-- A qualified name is cut at its last dot, after the last path separator. -/
theorem splitQualifier?_eq_some {head qualifier name : List Char} :
    splitQualifier? head = some (qualifier, name) ↔
      head = qualifier ++ '.' :: name ∧ '.' ∉ name ∧ '/' ∉ name := by
  have hcut := take_append_lastSegment '/' head
  constructor
  · intro h
    obtain ⟨⟨left, right⟩, hsplit, heq⟩ := Option.map_eq_some_iff.1 h
    cases heq
    obtain ⟨hsegment, hdot⟩ := Text.splitAtLast?_eq_some.1 hsplit
    have hslash := Text.not_mem_lastSegment '/' head
    rw [hsegment] at hslash
    refine ⟨?_, hdot, fun hmem =>
      hslash (List.mem_append_right left (List.mem_cons_of_mem '.' hmem))⟩
    rw [List.append_assoc, ← hsegment, hcut]
  · rintro ⟨rfl, hdot, hslash⟩
    have hqualifier : Text.lastSegment '/' qualifier = Text.lastSegment '/' qualifier := rfl
    obtain ⟨hfree, before, hbefore, hend⟩ := Text.lastSegment_eq_iff.1 hqualifier
    have hsegment : Text.lastSegment '/' (qualifier ++ '.' :: name) =
        Text.lastSegment '/' qualifier ++ '.' :: name := by
      refine Text.lastSegment_eq_iff.2 ⟨?_, before, ?_, hend⟩
      · simp [hfree, hslash]
      · rw [← List.append_assoc, ← hbefore]
    have hsplit : Text.splitAtLast? '.' (Text.lastSegment '/' (qualifier ++ '.' :: name)) =
        some (Text.lastSegment '/' qualifier, name) :=
      Text.splitAtLast?_eq_some.2 ⟨hsegment, hdot⟩
    rw [hsegment, ← List.append_assoc, List.append_left_inj, ← hsegment] at hcut
    rw [splitQualifier?, hsplit, Option.map_some]
    dsimp only
    rw [hcut]

/-- What stands in front of the first bracket, where nothing or a bracket follows. -/
theorem takeWhile_ne_bracket {lead : List Char} (hlead : '[' ∉ lead)
    (hrest : ∀ c ∈ rest.head?, c = '[') :
    (lead ++ rest).takeWhile (· != '[') = lead ∧ (lead ++ rest).dropWhile (· != '[') = rest := by
  apply Text.takeWhile_append_of_head (Text.forall_mem_ne hlead)
  intro c hc
  rw [hrest c hc]
  rfl

/-- The element is qualified: in front of its type arguments stands a qualifier up to the last dot
of the last segment, and behind that dot a name. -/
structure IsQualified (element qualifier name arguments : List Char) : Prop where
  eq : element = qualifier ++ '.' :: (name ++ arguments)
  noBracket : '[' ∉ qualifier ++ '.' :: name
  lastDot : '.' ∉ name
  lastSegment : '/' ∉ name
  bracket : ∀ c ∈ arguments.head?, c = '['

theorem IsQualified.takeWhile_eq (h : IsQualified element qualifier name arguments) :
    element.takeWhile (· != '[') = qualifier ++ '.' :: name ∧
      element.dropWhile (· != '[') = arguments := by
  have helement : element = (qualifier ++ '.' :: name) ++ arguments := by
    rw [h.eq, List.append_assoc, List.cons_append]
  rw [helement]
  exact takeWhile_ne_bracket h.noBracket h.bracket

theorem isQualified_iff : IsQualified element qualifier name arguments ↔
    splitQualifier? (element.takeWhile (· != '[')) = some (qualifier, name) ∧
      element.dropWhile (· != '[') = arguments := by
  rw [splitQualifier?_eq_some]
  constructor
  · intro h
    exact ⟨⟨h.takeWhile_eq.1, h.lastDot, h.lastSegment⟩, h.takeWhile_eq.2⟩
  · intro h
    obtain ⟨⟨hhead, hdot, hslash⟩, rfl⟩ := h
    have hcut : element.takeWhile (· != '[') ++ element.dropWhile (· != '[') = element :=
      List.takeWhile_append_dropWhile
    have hfree : '[' ∉ element.takeWhile (· != '[') := by
      intro hmem
      simpa using List.mem_takeWhile_imp hmem
    rw [hhead] at hfree hcut
    refine ⟨?_, hfree, hdot, hslash, ?_⟩
    · rw [← List.cons_append, ← List.append_assoc, hcut]
    · intro c hc
      obtain ⟨after, hafter⟩ := List.head?_eq_some_iff.1 hc
      exact Text.eq_of_dropWhile_eq_cons hafter

theorem IsQualified.parseElement_eq (h : IsQualified element qualifier name arguments) :
    parseElement element =
      { source := (resolveQualifier qualifier).1, package := some (resolveQualifier qualifier).2,
        name := String.ofList (name ++ arguments) } := by
  obtain ⟨hsplit, harguments⟩ := isQualified_iff.1 h
  simp only [parseElement, hsplit, harguments]

theorem parseElement_of_not_qualified
    (h : ∀ qualifier name arguments, ¬ IsQualified element qualifier name arguments) :
    parseElement element = named (String.ofList element) := by
  unfold parseElement
  dsimp only
  split
  · rfl
  · next hsplit => exact absurd (isQualified_iff.2 ⟨hsplit, rfl⟩) (h _ _ _)

theorem resolveQualifier_of_path (h : '/' ∈ qualifier) : resolveQualifier qualifier =
    (some { path := String.ofList qualifier }, String.ofList (packageName qualifier)) := by
  rw [resolveQualifier, if_pos (List.contains_iff_mem.2 h)]

theorem resolveQualifier_of_name (h : '/' ∉ qualifier) : resolveQualifier qualifier =
    ((knownPackages.lookup (String.ofList qualifier)).map fun path => { path := path },
      String.ofList qualifier) := by
  rw [resolveQualifier, if_neg fun hcontains => h (List.contains_iff_mem.1 hcontains)]

/-! ### Package names -/

variable {path : List Char} {c : Char}

theorem dropGoBefore_suffix (cs : List Char) : dropGoBefore cs <:+ cs := by
  fun_induction dropGoBefore cs with
  | case1 rest ih => exact ih.trans (List.suffix_append ['g', 'o', '-'] rest)
  | case2 cs => exact List.suffix_refl cs

theorem dropGoAfter_suffix (cs : List Char) : dropGoAfter cs <:+ cs := by
  fun_induction dropGoAfter cs with
  | case1 rest ih => exact ih.trans (List.suffix_append ['o', 'g', '-'] rest)
  | case2 cs => exact List.suffix_refl cs

theorem lastSegment_suffix (separator : Char) (cs : List Char) :
    Text.lastSegment separator cs <:+ cs :=
  ⟨_, take_append_lastSegment separator cs⟩

theorem mem_of_mem_namingSegment (h : c ∈ namingSegment path) : c ∈ path := by
  unfold namingSegment at h
  dsimp only at h
  split at h
  · split at h
    · next before last hsplit =>
      rw [(Text.splitAtLast?_eq_some.1 hsplit).1]
      exact List.mem_append_left _ ((lastSegment_suffix '/' before).subset h)
    · exact (lastSegment_suffix '/' path).subset h
  · exact (lastSegment_suffix '/' path).subset h

theorem slash_not_mem_namingSegment (path : List Char) : '/' ∉ namingSegment path := by
  unfold namingSegment
  dsimp only
  split
  · split
    · exact Text.not_mem_lastSegment '/' _
    · exact Text.not_mem_lastSegment '/' path
  · exact Text.not_mem_lastSegment '/' path

theorem mem_of_mem_dropDottedVersion {segment : List Char} (h : c ∈ dropDottedVersion segment) :
    c ∈ segment := by
  unfold dropDottedVersion at h
  split at h
  · next name version hsplit =>
    split at h
    · rw [(Text.splitAtLast?_eq_some.1 hsplit).1]
      exact List.mem_append_left _ h
    · exact h
  · exact h

theorem eq_or_mem_of_mem_packageName (h : c ∈ packageName path) :
    c = '_' ∨ c ∈ namingSegment path := by
  obtain ⟨kept, hkept, rfl⟩ := List.mem_map.1 h
  split
  · exact .inl rfl
  · right
    apply mem_of_mem_dropDottedVersion
    have hbefore := (dropGoBefore_suffix _).subset hkept
    exact List.mem_reverse.1 ((dropGoAfter_suffix _).subset (List.mem_reverse.1 hbefore))

/-- What none of the characters of the path and no underscore is, none of the name is. -/
theorem forall_mem_packageName {p : Char → Prop} (hunderscore : p '_') (hpath : ∀ c ∈ path, p c) :
    ∀ c ∈ packageName path, p c := by
  intro c hc
  rcases eq_or_mem_of_mem_packageName hc with rfl | hmem
  · exact hunderscore
  · exact hpath c (mem_of_mem_namingSegment hmem)

theorem slash_not_mem_packageName (path : List Char) : '/' ∉ packageName path := by
  intro h
  rcases eq_or_mem_of_mem_packageName h with heq | hmem
  · exact absurd heq (by decide)
  · exact slash_not_mem_namingSegment path hmem

end GoType

end LoaderGen
