import LoaderGen.Proofs.GoType.Specification
import LoaderGen.Proofs.Options.Precedence

/-!
# Overrides without a type name

An override that names no type should be for no column. Whether it does is asked of its
specification as it is written, and a specification that is not empty can still have no name for an
element: slices and a pointer around nothing, or a qualifier with nothing after its dot. An override
that is written so is chosen like any other, and the column's type has no name. Everywhere else the
choice is that among the overrides that name a type.
-/

namespace LoaderGen

namespace GoType

theorem ofList_eq_empty {cs : List Char} : String.ofList cs = "" ↔ cs = [] := by
  rw [← String.ofList_nil, String.ofList_inj]

/-- Of an element there is no name: nothing is left of it, or a qualifier up to its dot. -/
inductive IsBare : List Char → Prop where
  | nothing : IsBare []
  | qualifier {qualifier : List Char} (h : '[' ∉ qualifier) : IsBare (qualifier ++ ['.'])

theorem IsBare.not_mem {element : List Char} (h : IsBare element) : '[' ∉ element := by
  cases h with
  | nothing => exact List.not_mem_nil
  | qualifier h => simpa using h

theorem IsBare.takePointer {element : List Char} (h : IsBare element) (pointer : Bool) :
    IsBare (takePointer (pointerText pointer ++ element)).2 := by
  cases pointer with
  | true => exact h
  | false =>
      -- What is bare can begin with a star of its own, and is bare without it.
      cases h with
      | nothing => exact .nothing
      | @qualifier qualifier h =>
          rcases qualifier with _ | ⟨c, qualifier⟩
          · exact .qualifier h
          · by_cases hc : c = '*'
            · subst hc
              exact .qualifier fun hmem => h (List.mem_cons_of_mem '*' hmem)
            · exact takePointer_of_ne hc (qualifier ++ ['.']) ▸ .qualifier h

theorem isQualified_concat {qualifier : List Char} (h : '[' ∉ qualifier) :
    IsQualified (qualifier ++ ['.']) qualifier [] [] where
  eq := rfl
  noBracket := by simp [h]
  lastDot := List.not_mem_nil
  lastSegment := List.not_mem_nil
  bracket := by simp

theorem parseElement_name_eq_empty_iff {element : List Char} :
    (parseElement element).name = "" ↔ IsBare element := by
  by_cases hsome : ∃ qualifier name arguments, IsQualified element qualifier name arguments
  · -- With a qualifier the name is what follows its dot, type arguments included.
    obtain ⟨qualifier, name, arguments, hcut⟩ := hsome
    obtain ⟨hsplit, harguments⟩ := isQualified_iff.1 hcut
    rw [hcut.parseElement_eq, ofList_eq_empty, List.append_eq_nil_iff]
    constructor
    · intro hnone
      rw [hcut.eq, hnone.1, hnone.2]
      exact .qualifier fun hmem => hcut.noBracket (List.mem_append_left _ hmem)
    · intro h
      cases h with
      | nothing => cases hsplit
      | qualifier h =>
          obtain ⟨hother, hnone⟩ := isQualified_iff.1 (isQualified_concat h)
          rw [hsplit, Option.some_inj, Prod.mk.injEq] at hother
          exact ⟨hother.2, harguments.symm.trans hnone⟩
  · -- Without one it is all there is.
    have hplain : ∀ qualifier name arguments, ¬ IsQualified element qualifier name arguments :=
      fun qualifier name arguments hcut => hsome ⟨qualifier, name, arguments, hcut⟩
    rw [parseElement_of_not_qualified hplain, named, ofList_eq_empty]
    constructor
    · intro hnone
      rw [hnone]
      exact .nothing
    · intro h
      cases h with
      | nothing => rfl
      | qualifier h => exact absurd (isQualified_concat h) (hplain _ _ _)

/-- The text names no type: around what it leaves for the element there are only slices and a
pointer. -/
def NamesNothing (cs : List Char) : Prop :=
  ∃ dims pointer element, cs = sliceText dims ++ pointerText pointer ++ element ∧ IsBare element

theorem parse_name_eq_empty_iff {spec : String} :
    (parse spec).name = "" ↔ NamesNothing (Text.trim spec.toList) := by
  dsimp only [parse]
  rw [parseElement_name_eq_empty_iff]
  constructor
  · intro h
    have htext := sliceText_append_takeSlices (Text.trim spec.toList)
    rw [← pointerText_append_takePointer (takeSlices (Text.trim spec.toList)).2,
      ← List.append_assoc] at htext
    exact ⟨_, _, _, htext.symm, h⟩
  · rintro ⟨dims, pointer, element, htext, h⟩
    -- No slice is left to take once the written ones are.
    have hrest : '[' ∉ pointerText pointer ++ element := by
      cases pointer <;> simpa [pointerText] using h.not_mem
    have hstop := not_slice_prefix fun hhead => hrest (List.mem_of_mem_head? hhead)
    rw [htext, List.append_assoc, takeSlices_append hstop]
    exact h.takePointer pointer

end GoType

namespace GoTypeSpec

/-- The specification names no type. Beside an import path the type is taken as it is written, and
without one it is read like a text. -/
def LacksName : GoTypeSpec → Prop
  | text spec => GoType.NamesNothing (Text.trim spec.toList)
  | parts path _ type _ _ =>
    if path = "" then GoType.NamesNothing (Text.trim type.toList) else type = ""

theorem resolve_name_eq_empty_iff {spec : GoTypeSpec} : spec.resolve.name = "" ↔ spec.LacksName := by
  cases spec with
  | text spec => exact GoType.parse_name_eq_empty_iff
  | parts path package type pointer slice =>
      dsimp only [resolve, element, LacksName]
      by_cases hpath : path = ""
      · rw [if_pos (by simpa using hpath), if_pos hpath]
        exact GoType.parse_name_eq_empty_iff
      · rw [if_neg (by simpa using hpath), if_neg hpath]

end GoTypeSpec

namespace Override

variable {overrides : List Override} {column : Column} {defaultSchema : String}

def isNamed (override : Override) : Bool := override.rule.goType.resolve.name != ""

theorem isNamed_iff {override : Override} :
    override.isNamed = true ↔ ¬ override.rule.goType.LacksName := by
  rw [isNamed, bne_iff_ne, ne_eq, GoTypeSpec.resolve_name_eq_empty_iff]

theorem isEmpty_of_firstFor?_eq_some {chosen : Override}
    (h : firstFor? overrides column defaultSchema = some chosen) :
    chosen.rule.goType.isEmpty = false := by
  cases firstFor?_eq_iff.1 h with
  | byName h => exact h.has.hasType
  | byType _ h => exact h.has.hasType

theorem mem_of_firstFor?_eq_some {chosen : Override}
    (h : firstFor? overrides column defaultSchema = some chosen) : chosen ∈ overrides := by
  cases firstFor?_eq_iff.1 h with
  | byName h => exact h.mem
  | byType _ h => exact h.mem

/-- Overrides can be left out as long as the one that is chosen stays. -/
theorem firstFor?_filter {r : Override → Bool}
    (h : ∀ chosen, firstFor? overrides column defaultSchema = some chosen → r chosen = true) :
    firstFor? (overrides.filter r) column defaultSchema =
      firstFor? overrides column defaultSchema := by
  simp only [firstFor?] at h ⊢
  rw [List.filter_comm]
  -- The search by declared type is run only where the one by name finds none, so what it finds is
  -- known to stay only there.
  cases hname : (overrides.filter fun override => !override.rule.goType.isEmpty).find?
      (·.matchesColumn column defaultSchema) with
  | some chosen =>
      rw [find?_filter_eq_of_found fun entry hentry => h entry (by rw [hentry, Option.some_or]),
        hname, Option.some_or, Option.some_or]
  | none =>
      rw [hname, Option.none_or] at h
      rw [find?_filter_eq_of_found fun entry hentry => absurd (hname.symm.trans hentry) (by simp),
        hname, Option.none_or, Option.none_or, find?_filter_eq_of_found h]

end Override

/-- The options without the overrides whose specifications name no type. -/
def Options.withNamedOverrides (options : Options) : Options :=
  options.withOverrides (options.overrides.filter (·.isNamed))

theorem Options.name_columnType_of_override {options : Options} {column : Column}
    {chosen : Override} (h : options.overrideFor? column = some chosen)
    (mapType : Column → GoType) :
    (options.columnType mapType column).name = chosen.rule.goType.resolve.name := by
  rw [columnType_eq, h]
  rfl

/-- The override that a column gets is not empty as it is written, and gives the column's type its
name, which there is none of exactly where the specification has nothing but slices, a pointer and a
qualifier. Only where the chosen override names a type is it the one that is chosen among those that
do. -/
theorem nameless_overrides_apply (options : Options) (column : Column) :
    (∀ chosen, options.overrideFor? column = some chosen →
      chosen.rule.goType.isEmpty = false ∧
        (chosen.rule.goType.resolve.name = "" ↔ chosen.rule.goType.LacksName) ∧
        ∀ mapType, (options.columnType mapType column).name = chosen.rule.goType.resolve.name) ∧
      (options.withNamedOverrides.overrideFor? column = options.overrideFor? column ↔
        ∀ chosen, options.overrideFor? column = some chosen →
          ¬ chosen.rule.goType.LacksName) := by
  refine ⟨fun chosen hchosen => ⟨Override.isEmpty_of_firstFor?_eq_some hchosen,
    GoTypeSpec.resolve_name_eq_empty_iff, options.name_columnType_of_override hchosen⟩, ?_, ?_⟩
  · intro hsame chosen hchosen
    have hmem := Override.mem_of_firstFor?_eq_some (hsame.trans hchosen)
    exact Override.isNamed_iff.1 (List.mem_filter.1 hmem).2
  · intro hnamed
    exact Override.firstFor?_filter fun chosen hchosen =>
      Override.isNamed_iff.2 (hnamed chosen hchosen)

def textColumn : Column where
  name := "value"
  notNull := true
  type := some { name := "text" }

def overrideOf (dbType spec : String) : Override :=
  .forDbType dbType false false (.text spec)

def guidOptions : Options :=
  plainOptions.withOverrides [overrideOf "text" "[]*", overrideOf "uuid" "string"]

def guidColumn : Column := { textColumn with type := some { name := "uuid" } }

theorem named_override_applies :
    guidOptions.overrideFor? guidColumn = some (overrideOf "uuid" "string") ∧
      guidOptions.withNamedOverrides.overrideFor? guidColumn = guidOptions.overrideFor? guidColumn
      ∧ (guidOptions.columnType (fun _ => .named "any") guidColumn).name = "string" := by
  have hchosen : guidOptions.overrideFor? guidColumn = some (overrideOf "uuid" "string") := by
    decide +kernel
  obtain ⟨hwritten, hnamed⟩ := nameless_overrides_apply guidOptions guidColumn
  obtain ⟨-, hlacks, hname⟩ := hwritten _ hchosen
  have hresolved : (overrideOf "uuid" "string").rule.goType.resolve.name = "string" := by
    decide +kernel
  refine ⟨hchosen, hnamed.2 fun chosen hother => ?_, (hname _).trans hresolved⟩
  obtain rfl := Option.some_inj.1 (hchosen.symm.trans hother)
  rw [← hlacks, hresolved]
  decide

/-- Texts are slices of pointers to nothing, then bytes. -/
def slicesOfNothing : Request where
  pluginOptions := Text.bytesOf <|
    "\x7b\"package\": \"db\", \"overrides\": [" ++
      "\x7b\"db_type\": \"text\", \"go_type\": \"[]*\"\x7d, " ++
      "\x7b\"db_type\": \"text\", \"go_type\": \"[]byte\"\x7d]\x7d"

/-- The override without a type name is chosen, and the next one, which has a name, is not. -/
theorem nameless_override_of_texts :
    ∃ options, Options.ofRequest slicesOfNothing = .ok options ∧
      options.overrideFor? textColumn = some (overrideOf "text" "[]*") ∧
      (overrideOf "text" "[]*").rule.goType.resolve.name = "" ∧
      options.withNamedOverrides.overrideFor? textColumn = some (overrideOf "text" "[]byte") ∧
      (overrideOf "text" "[]byte").rule.goType.resolve.name = "byte" := by
  refine ⟨plainOptions.withOverrides [overrideOf "text" "[]*", overrideOf "text" "[]byte"],
    toOption_eq_some.1 ?_, ?_, ?_, ?_, ?_⟩ <;> decide +kernel

end LoaderGen
