import LoaderGen.CustomType
import LoaderGen.GoType.Rule
import LoaderGen.GoType.Spec
import LoaderGen.Proofs.GoType.Specification

/-!
# Imports and qualifiers

A type that is read from a specification is qualified by what its import is known as: the local name
of the import, or the name that its path implies. The types of the structs and of the enums are
placed in the model package instead, and are qualified by its name, whatever its path implies.
-/

namespace LoaderGen

/-- What a file knows the package by: the local name of the import, or what its path implies. -/
def Import.qualifier (imp : Import) : String :=
  imp.localName.getD (String.ofList (GoType.packageName imp.path.toList))

namespace GoType

/-- A type with an import is qualified by what the import is known as. -/
def IsImplied (type : GoType) : Prop :=
  ∀ imp, type.source = some imp → type.package = some imp.qualifier

theorem isImplied_named (name : String) : (named name).IsImplied := by
  intro imp himp
  cases himp

theorem IsImplied.wrapSlice {type : GoType} (h : type.IsImplied) (dims : Nat) :
    (type.wrapSlice dims).IsImplied :=
  h

/-- The known packages have the names that their paths imply. -/
private theorem qualifier_knownPackages : ∀ known ∈ knownPackages,
    String.ofList (packageName known.2.toList) = known.1 := by
  decide

theorem resolveQualifier_implied {qualifier : List Char} {imp : Import}
    (h : (resolveQualifier qualifier).1 = some imp) :
    (resolveQualifier qualifier).2 = imp.qualifier := by
  by_cases hslash : '/' ∈ qualifier
  · rw [resolveQualifier_of_path hslash] at h ⊢
    cases h
    simp only [Import.qualifier, Option.getD_none, String.toList_ofList]
  · rw [resolveQualifier_of_name hslash] at h ⊢
    obtain ⟨path, hpath, rfl⟩ := Option.map_eq_some_iff.1 h
    obtain ⟨before, after, hknown, -⟩ := List.lookup_eq_some_iff.1 hpath
    have hmem : (String.ofList qualifier, path) ∈ knownPackages := by
      rw [hknown]
      exact List.mem_append_right before List.mem_cons_self
    exact (qualifier_knownPackages _ hmem).symm

theorem isImplied_parseElement (cs : List Char) : (parseElement cs).IsImplied := by
  unfold parseElement
  dsimp only
  split
  · exact isImplied_named _
  · next qualifier name _ =>
    intro imp himp
    exact congrArg some (resolveQualifier_implied himp)

theorem isImplied_parse (spec : String) : (parse spec).IsImplied := by
  intro imp himp
  simp only [parse] at himp ⊢
  exact isImplied_parseElement _ imp himp

end GoType

theorem TypeRule.isImplied_resolve (rule : TypeRule) (neverNull nullPointers : Bool) :
    (rule.resolve neverNull nullPointers).IsImplied := by
  -- Whichever form is taken, it is read from a specification.
  cases rule with
  | fixed spec => exact GoType.isImplied_parse spec
  | orNull base null => cases neverNull <;> cases nullPointers <;> exact GoType.isImplied_parse _
  | orPointer base => cases neverNull <;> exact GoType.isImplied_parse _
  | asPointer base => cases nullPointers <;> exact GoType.isImplied_parse _

namespace GoTypeSpec

theorem isImplied_element (path package type : String) : (element path package type).IsImplied := by
  unfold element
  split
  · exact GoType.isImplied_parse type
  · intro imp himp
    cases himp
    dsimp only [Import.qualifier]
    by_cases hempty : package = ""
    · simp [hempty]
    · by_cases himplied : package = String.ofList (GoType.packageName path.toList)
      · simp [himplied]
      · simp [hempty, himplied]

theorem isImplied_resolve (spec : GoTypeSpec) : spec.resolve.IsImplied := by
  cases spec with
  | text spec => exact GoType.isImplied_parse spec
  | parts path package type pointer slice => exact isImplied_element path package type

end GoTypeSpec

namespace CustomTypes

variable {schemas : List Schema} {options : Options} {package : Option String}
  {custom : CustomType}

/-- A custom type is an enum of the package given, or a composite, whose type is read from a
specification. -/
theorem goType_of_mem_build (h : custom ∈ build schemas options package) :
    (custom.kind = .enum ∧ ∃ name, custom.goType = enumType options package name) ∨
      (custom.kind = .composite ∧ custom.goType.IsImplied) := by
  simp only [build, ofSchema, List.mem_flatMap, List.mem_append] at h
  obtain ⟨schema, -, ⟨enum, -, h⟩ | ⟨composite, -, h⟩⟩ := h
  · simp only [ofEnum, List.mem_cons, List.not_mem_nil, or_false] at h
    obtain rfl | rfl := h
    · exact .inl ⟨rfl, options.typeName schema.name enum.name, rfl⟩
    · exact .inl ⟨rfl, "Null" ++ options.typeName schema.name enum.name, rfl⟩
  · simp only [ofComposite, nullableComposite, List.mem_cons, List.not_mem_nil, or_false] at h
    obtain rfl | rfl := h
    · exact .inr ⟨rfl, GoType.isImplied_parse "string"⟩
    · exact .inr ⟨rfl, GoType.isImplied_parse
        (if options.nullPointers then "*string" else "database/sql.NullString")⟩

end CustomTypes

namespace Options

variable {options : Options}

/-- The type is put into the model package: with an import at all, it has the model's, and is
qualified by the model package. -/
def PutsInModel (options : Options) (type : GoType) : Prop :=
  ∀ imp, type.source = some imp →
    imp = { path := options.modelImport } ∧ type.package = some options.modelPackage

theorem PutsInModel.wrapSlice {type : GoType} (h : options.PutsInModel type) (dims : Nat) :
    options.PutsInModel (type.wrapSlice dims) :=
  h

theorem eq_of_modelPath?_eq_some {path : String} (h : options.modelPath? = some path) :
    path = options.modelImport := by
  unfold modelPath? at h
  split at h
  · cases h
  · exact (Option.some.inj h).symm

theorem putsInModel_enumType (options : Options) (name : String) :
    options.PutsInModel <|
      CustomTypes.enumType options (options.modelPath?.map fun _ => options.modelPackage) name := by
  intro imp himp
  cases hpath : options.modelPath? with
  | none =>
      rw [hpath] at himp
      cases himp
  | some path =>
      rw [hpath, Option.map_some, CustomTypes.enumType, hpath] at himp
      cases himp
      exact ⟨by rw [eq_of_modelPath?_eq_some hpath], rfl⟩

end Options

end LoaderGen
