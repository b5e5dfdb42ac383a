import LoaderGen.Proofs.Plan.FileNames

/-!
# From loaders to files

A plan keeps every loader of a resolution. A loader without a single primary key would be passed
over in silence, but no resolution has one. A renderer is then asked for each planned file in order,
and either every file of the plan is given with the text made for it, or none is and the first fault
is the run's. The renderer is arbitrary, so nothing below depends on what it makes of its data.
-/

namespace LoaderGen

namespace Plan

/-- The planned file is the loader's: it is named for the loader's struct, and its data say what the
loader is. -/
structure IsFileOf (options : Options) (loader : Loader) (file : PlannedFile LoaderData) :
    Prop where
  name : file.name = loaderFileName options loader.struct
  loaderName : file.data.loaderName = loader.name
  loaderVar : file.data.loaderVar = lowerFirst loader.name
  structType : file.data.structType = loader.struct.type.toText
  table : file.data.table = loader.struct.fullTableName
  columns : file.data.columns = loader.struct.fields.map Field.dbName
  key : ∃ key, loader.struct.primaryKeys = [key] ∧
    file.data.primaryKey = ⟨key.dbName, key.name, key.type.toText⟩
  cache : file.data.cache = loader.cache

variable {options : Options} {loader : Loader} {file : PlannedFile LoaderData}

theorem isFileOf_of_loaderFile? (h : loaderFile? options loader = some file) :
    IsFileOf options loader file := by
  simp only [loaderFile?, Option.bind_eq_bind, Option.bind_eq_some_iff, Option.pure_def,
    Option.some_inj] at h
  obtain ⟨key, hkey, rfl⟩ := h
  have hkeys : loader.struct.primaryKeys = [key] := Struct.primaryKey?_eq_some.1 hkey
  -- The fields are projected first: `rfl` alone would unfold the texts that they are given.
  exact {
    name := by dsimp only
    loaderName := by dsimp only
    loaderVar := by dsimp only
    structType := by dsimp only
    table := by dsimp only
    columns := by dsimp only
    key := ⟨key, hkeys, by dsimp only⟩
    cache := by dsimp only }

/-- No loader that has its key is passed over. -/
theorem forall₂_isFileOf {loaders : List Loader}
    (h : ∀ loader ∈ loaders, loader.struct.isLoadable = true) :
    List.Forall₂ (IsFileOf options) loaders (loaders.filterMap (loaderFile? options)) := by
  induction loaders with
  | nil => exact .nil
  | cons loader rest ih =>
      obtain ⟨hloader, hrest⟩ := List.forall_mem_cons.1 h
      obtain ⟨data, hfile⟩ := exists_loaderFile? options hloader
      rw [List.filterMap_cons_some hfile]
      exact .cons (isFileOf_of_loaderFile? hfile) (ih hrest)

end Plan

/-- A loader as the factory has it. -/
def Loader.entry (loader : Loader) : FactoryEntry :=
  ⟨loader.name, Plan.lowerFirst loader.name, loader.struct.type.toText⟩

namespace Request

variable {request : Request} {settled : Options} {resolution : Resolution}

theorem forall₂_loaders_of_plan (h : request.resolve settled = .ok resolution)
    (options : Options) :
    List.Forall₂ (Plan.IsFileOf options) resolution.loaders
      (Plan.ofResolution resolution options).loaders := by
  apply Plan.forall₂_isFileOf
  intro loader hloader
  exact isLoadable_of_mem_loaders h hloader

theorem factory_of_plan (h : request.resolve settled = .ok resolution) (options : Options) :
    (Plan.ofResolution resolution options).factory.map (·.data.loaders) =
      if resolution.loaders = [] then none else some (resolution.loaders.map Loader.entry) := by
  have hfiles := forall₂_loaders_of_plan h options
  have hentries : resolution.loaders.map Loader.entry =
      (Plan.ofResolution resolution options).loaders.map fun file =>
        ⟨file.data.loaderName, file.data.loaderVar, file.data.structType⟩ := by
    rw [← List.forall₂_eq_eq_eq, List.forall₂_map_left_iff, List.forall₂_map_right_iff]
    refine hfiles.imp fun loader file hfile => ?_
    rw [Loader.entry, hfile.loaderName, hfile.loaderVar, hfile.structType]
  have hempty : (Plan.ofResolution resolution options).loaders.isEmpty = true ↔
      resolution.loaders = [] := by
    rw [List.isEmpty_iff_length_eq_zero, ← hfiles.length_eq, List.length_eq_zero_iff]
  rw [hentries]
  by_cases hnone : resolution.loaders = []
  · rw [if_pos hnone]
    exact congrArg (Option.map _) (if_pos (hempty.2 hnone))
  · rw [if_neg hnone]
    exact congrArg (Option.map _) (if_neg fun h => hnone (hempty.1 h))

end Request

/-- What a renderer makes of the data of a planned file. -/
structure Rendering where
  name : String
  outcome : Except RenderError String
  deriving DecidableEq

namespace Rendering

/-- The rendering gives this text, and there is more in it than white space. -/
def Gives (rendering : Rendering) (text : String) : Prop :=
  rendering.outcome = .ok text ∧ ∃ c ∈ text.toList, Text.isBlank c = false

/-- The fault of a rendering: the renderer's own, or that its text is nothing but white space. -/
inductive FailsWith (rendering : Rendering) : RenderError → Prop where
  | renderer {e : RenderError} (h : rendering.outcome = .error e) : FailsWith rendering e
  | blank {text : String} (h : rendering.outcome = .ok text)
      (hblank : ∀ c ∈ text.toList, Text.isBlank c = true) :
      FailsWith rendering (.emptyOutput rendering.name)

def file (rendering : Rendering) : Except RenderError File := do
  File.ofText rendering.name (← rendering.outcome)

variable {rendering : Rendering}

theorem isAllBlank_iff {text : String} :
    Text.isAllBlank text = true ↔ ∀ c ∈ text.toList, Text.isBlank c = true :=
  List.all_eq_true

theorem gives_iff {text : String} :
    rendering.Gives text ↔ rendering.outcome = .ok text ∧ Text.isAllBlank text = false := by
  rw [Gives, ← Bool.not_eq_true, isAllBlank_iff]
  simp

theorem file_eq_ok {file : File} :
    rendering.file = .ok file ↔ file.name = rendering.name ∧ rendering.Gives file.contents := by
  rw [Rendering.file, bind_eq_ok, gives_iff]
  constructor
  · intro h
    obtain ⟨text, houtcome, htext⟩ := h
    obtain ⟨hblank, rfl⟩ := File.ofText_eq_ok.1 htext
    exact ⟨rfl, houtcome, hblank⟩
  · intro h
    obtain ⟨hname, houtcome, hblank⟩ := h
    refine ⟨file.contents, houtcome, File.ofText_eq_ok.2 ⟨hblank, ?_⟩⟩
    rw [← hname]

theorem exists_file : (∃ file, rendering.file = .ok file) ↔ ∃ text, rendering.Gives text := by
  simp only [file_eq_ok]
  constructor
  · intro h
    obtain ⟨file, -, hgives⟩ := h
    exact ⟨file.contents, hgives⟩
  · intro h
    obtain ⟨text, hgives⟩ := h
    exact ⟨⟨rendering.name, text⟩, rfl, hgives⟩

theorem file_eq_error {e : RenderError} :
    rendering.file = .error e ↔ rendering.FailsWith e := by
  rw [Rendering.file, bind_eq_error]
  constructor
  · intro h
    rcases h with houtcome | ⟨text, houtcome, htext⟩
    · exact .renderer houtcome
    · unfold File.ofText at htext
      split at htext
      · next hblank =>
        cases htext
        exact .blank houtcome (isAllBlank_iff.1 hblank)
      · cases htext
  · intro h
    cases h with
    | renderer houtcome => exact .inl houtcome
    | @blank text houtcome hblank =>
        refine .inr ⟨text, houtcome, ?_⟩
        rw [File.ofText, if_pos (isAllBlank_iff.2 hblank)]

end Rendering

namespace Plan

/-- The renderings of the planned files, in order. -/
def renderings (plan : Plan) (renderer : Renderer) : List Rendering :=
  plan.loaders.map (fun file => ⟨file.name, renderer.renderLoader file.data⟩) ++
    plan.factory.toList.map fun file => ⟨file.name, renderer.renderFactory file.data⟩

theorem render_eq_map (plan : Plan) (renderer : Renderer) :
    plan.render renderer = ((plan.renderings renderer).mapM Rendering.file).map Response.mk := by
  rw [renderings, List.mapM_append, List.mapM_map, List.mapM_map]
  -- Both sides run the same two lists of steps, and put the files together at the end.
  change (plan.loaders.mapM (PlannedFile.render renderer.renderLoader) >>= fun loaders =>
    plan.factory.toList.mapM (PlannedFile.render renderer.renderFactory) >>= fun factory =>
      pure ⟨loaders ++ factory⟩) = Except.map Response.mk
    (plan.loaders.mapM (PlannedFile.render renderer.renderLoader) >>= fun loaders =>
      plan.factory.toList.mapM (PlannedFile.render renderer.renderFactory) >>= fun factory =>
        pure (loaders ++ factory))
  cases plan.loaders.mapM (PlannedFile.render renderer.renderLoader) with
  | error e => rfl
  | ok loaders =>
      cases plan.factory.toList.mapM (PlannedFile.render renderer.renderFactory) with
      | error e => rfl
      | ok factory => rfl

variable {plan : Plan} {renderer : Renderer}

theorem render_eq_ok {response : Response} :
    plan.render renderer = .ok response ↔
      List.Forall₂ (fun rendering file => file.name = rendering.name ∧
        rendering.Gives file.contents) (plan.renderings renderer) response.files := by
  rw [render_eq_map, map_eq_ok]
  constructor
  · intro h
    obtain ⟨files, hfiles, rfl⟩ := h
    exact (mapM_eq_ok.1 hfiles).imp fun rendering file => Rendering.file_eq_ok.1
  · intro h
    have hfiles := h.imp fun rendering file => Rendering.file_eq_ok.2
    exact ⟨response.files, mapM_eq_ok.2 hfiles, rfl⟩

theorem render_eq_error {e : RenderError} :
    plan.render renderer = .error e ↔
      ∃ before rendering after, plan.renderings renderer = before ++ rendering :: after ∧
        (∀ other ∈ before, ∃ text, other.Gives text) ∧ rendering.FailsWith e := by
  rw [render_eq_map, map_eq_error, mapM_eq_error]
  simp only [Rendering.file_eq_error, Rendering.exists_file]

theorem exists_render :
    (∃ response, plan.render renderer = .ok response) ↔
      ∀ rendering ∈ plan.renderings renderer, ∃ text, rendering.Gives text := by
  have hfiles : (∃ response, plan.render renderer = .ok response) ↔
      ∃ files, (plan.renderings renderer).mapM Rendering.file = .ok files := by
    simp only [render_eq_map, map_eq_ok]
    constructor
    · intro h
      obtain ⟨response, files, hfiles, -⟩ := h
      exact ⟨files, hfiles⟩
    · intro h
      obtain ⟨files, hfiles⟩ := h
      exact ⟨⟨files⟩, files, hfiles, rfl⟩
  rw [hfiles, exists_mapM_eq_ok]
  simp only [Rendering.exists_file]

end Plan

/-- Nothing is lost between a resolution and its files, and nothing is given in part. The plan has
one file for each loader, in order, and where there is a loader a factory with the same loaders.
Whatever the renderer is, a run gives files exactly when every rendering gives text that is more
than white space, and these are then all of the plan, in order, with just that text. Otherwise it
gives none, and its fault is that of the first rendering that fails. -/
theorem files_of_loaders {request : Request} {settled : Options} {resolution : Resolution}
    (h : request.resolve settled = .ok resolution) (options : Options) (renderer : Renderer) :
    List.Forall₂ (Plan.IsFileOf options) resolution.loaders
      (Plan.ofResolution resolution options).loaders ∧
    ((Plan.ofResolution resolution options).factory.map (·.data.loaders) =
      if resolution.loaders = [] then none else some (resolution.loaders.map Loader.entry)) ∧
    ((∃ response, resolution.generate options renderer = .ok response) ↔
      ∀ rendering ∈ (Plan.ofResolution resolution options).renderings renderer,
        ∃ text, rendering.Gives text) ∧
    (∀ response, resolution.generate options renderer = .ok response ↔
      List.Forall₂ (fun rendering file => file.name = rendering.name ∧
          rendering.Gives file.contents)
        ((Plan.ofResolution resolution options).renderings renderer) response.files) ∧
    ∀ e, resolution.generate options renderer = .error e ↔
      ∃ before rendering after,
        (Plan.ofResolution resolution options).renderings renderer =
          before ++ rendering :: after ∧
        (∀ other ∈ before, ∃ text, other.Gives text) ∧ rendering.FailsWith e :=
  ⟨Request.forall₂_loaders_of_plan h options, Request.factory_of_plan h options,
    Plan.exists_render, fun _ => Plan.render_eq_ok, fun _ => Plan.render_eq_error⟩

/-- Writes the name of every loader but the one refused, and this text for the factory. -/
def labels (refused factory : String) : Renderer where
  renderLoader data :=
    if data.loaderName = refused then .error (.template "loader" "refused") else .ok data.loaderName
  renderFactory _ := .ok factory

/-- All three files, or the fault of the books, which come before a factory that is blank. -/
theorem pair_rendered :
    ∃ resolution, (pairRequest "authors" "books").resolve plainOptions = .ok resolution ∧
      resolution.generate plainOptions (labels "" "all") =
        .ok ⟨[⟨"author_loader.go", "AuthorLoader"⟩, ⟨"book_loader.go", "BookLoader"⟩,
          ⟨"loader_factory.go", "all"⟩]⟩ ∧
      resolution.generate plainOptions (labels "BookLoader" "\n") =
        .error (.template "loader" "refused") ∧
      resolution.generate plainOptions (labels "" "\n") =
        .error (.emptyOutput "loader_factory.go") := by
  have hrun : ((pairRequest "authors" "books").resolve plainOptions).toOption.map (fun resolution =>
      [labels "" "all", labels "BookLoader" "\n", labels "" "\n"].map
        (Plan.ofResolution resolution plainOptions).renderings) =
      some [
        [⟨"author_loader.go", .ok "AuthorLoader"⟩, ⟨"book_loader.go", .ok "BookLoader"⟩,
          ⟨"loader_factory.go", .ok "all"⟩],
        [⟨"author_loader.go", .ok "AuthorLoader"⟩,
          ⟨"book_loader.go", .error (.template "loader" "refused")⟩,
          ⟨"loader_factory.go", .ok "\n"⟩],
        [⟨"author_loader.go", .ok "AuthorLoader"⟩, ⟨"book_loader.go", .ok "BookLoader"⟩,
          ⟨"loader_factory.go", .ok "\n"⟩]] := by
    decide +kernel
  obtain ⟨resolution, hresolution, hrenderings⟩ := Option.map_eq_some_iff.1 hrun
  have hresolve := toOption_eq_some.1 hresolution
  simp only [List.map_cons, List.map_nil, List.cons.injEq, and_true] at hrenderings
  obtain ⟨hall, hrefused, hblank⟩ := hrenderings
  have hauthor : (⟨"author_loader.go", .ok "AuthorLoader"⟩ : Rendering).Gives "AuthorLoader" :=
    Rendering.gives_iff.2 ⟨rfl, by decide⟩
  have hbook : (⟨"book_loader.go", .ok "BookLoader"⟩ : Rendering).Gives "BookLoader" :=
    Rendering.gives_iff.2 ⟨rfl, by decide⟩
  have hfactory : (⟨"loader_factory.go", .ok "all"⟩ : Rendering).Gives "all" :=
    Rendering.gives_iff.2 ⟨rfl, by decide⟩
  have hnothing : ∀ c ∈ "\n".toList, Text.isBlank c = true :=
    Rendering.isAllBlank_iff.1 (by decide)
  obtain ⟨-, -, -, hok, -⟩ := files_of_loaders hresolve plainOptions (labels "" "all")
  obtain ⟨-, -, -, -, hfirst⟩ := files_of_loaders hresolve plainOptions (labels "BookLoader" "\n")
  obtain ⟨-, -, -, -, hlast⟩ := files_of_loaders hresolve plainOptions (labels "" "\n")
  refine ⟨resolution, hresolve, (hok _).2 ?_, (hfirst _).2 ?_, (hlast _).2 ?_⟩
  · rw [hall]
    exact .cons ⟨rfl, hauthor⟩ (.cons ⟨rfl, hbook⟩ (.cons ⟨rfl, hfactory⟩ .nil))
  · rw [hrefused]
    exact ⟨[_], _, _, rfl, by simpa using ⟨_, hauthor⟩, .renderer rfl⟩
  · rw [hblank]
    exact ⟨[_, _], _, [], rfl, by simpa using ⟨⟨_, hauthor⟩, ⟨_, hbook⟩⟩, .blank rfl hnothing⟩

end LoaderGen
