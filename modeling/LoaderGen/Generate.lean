import LoaderGen.Options.Reading
import LoaderGen.Plan.Encoding
import LoaderGen.Value.Pretty

/-!
# Generating files

A renderer makes text of the data of each planned file. A run gives all files, or the first fault.
-/

namespace LoaderGen

inductive RenderError where
  /-- A file would hold nothing but white space. -/
  | emptyOutput (file : String)
  /-- The data of a file could not be written out, for this reason. -/
  | serialize (file reason : String)
  | template (template message : String)
  deriving DecidableEq, Repr

def RenderError.message : RenderError → String
  | emptyOutput file => s!"renderer produced no output for '{file}'"
  | serialize file reason => s!"serializing template data for '{file}': {reason}"
  | template name message => s!"template '{name}' failed: {message}"

/-- The templates of a run. -/
structure Renderer where
  renderLoader : LoaderData → Except RenderError String
  renderFactory : FactoryData → Except RenderError String

namespace Renderer

/-- Writes the data itself, as JSON. -/
def json : Renderer where
  renderLoader data := .ok (Json.pretty 0 data.toValue)
  renderFactory data := .ok (Json.pretty 0 data.toValue)

end Renderer

/-- A generated file. -/
structure File where
  name : String
  contents : String
  deriving DecidableEq, Repr

/-- The files of a run. -/
structure Response where
  files : List File
  deriving DecidableEq, Repr

namespace Response

/-- The first file of this name. -/
def file? (response : Response) (name : String) : Option File :=
  response.files.find? (·.name == name)

end Response

/-- A file with the text rendered for it, which has to be more than white space. -/
def File.ofText (name text : String) : Except RenderError File :=
  if Text.isAllBlank text then .error (.emptyOutput name) else .ok ⟨name, text⟩

/-- The file of a planned one. -/
def PlannedFile.render {α : Type} (render : α → Except RenderError String) (file : PlannedFile α) :
    Except RenderError File := do
  File.ofText file.name (← render file.data)

/-- The files of a plan, in order. -/
def Plan.render (plan : Plan) (renderer : Renderer) : Except RenderError Response := do
  let loaders ← plan.loaders.mapM (PlannedFile.render renderer.renderLoader)
  let factory ← plan.factory.toList.mapM (PlannedFile.render renderer.renderFactory)
  return ⟨loaders ++ factory⟩

/-- The files of a resolution. -/
def Resolution.generate (resolution : Resolution) (options : Options) (renderer : Renderer) :
    Except RenderError Response :=
  (Plan.ofResolution resolution options).render renderer

/-- What ends a run. -/
inductive RunError where
  | options (error : OptionsError)
  | render (error : RenderError)
  deriving DecidableEq, Repr

/-- The files for a request, under the options that it carries. -/
def Request.generate (request : Request) (renderer : Renderer) : Except RunError Response := do
  let options ← (Options.ofRequest request).mapError .options
  let resolution ← (request.resolve options).mapError .options
  (resolution.generate options renderer).mapError .render

end LoaderGen
