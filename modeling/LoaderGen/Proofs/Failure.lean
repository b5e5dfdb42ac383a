import LoaderGen.Generate
import LoaderGen.Proofs.Loaders

/-!
# What can end a run

Under accepted options the only fault that resolving can meet is an engine that is not known. A
whole run ends with a fault of the options exactly when reading them does or the engine is not
known, and with a fault of rendering exactly when the planned files cannot be rendered.
-/

namespace LoaderGen

theorem Request.generate_eq_options {request : Request} {renderer : Renderer} {e : OptionsError} :
    request.generate renderer = .error (.options e) ↔
      Options.ofRequest request = .error e ∨
        ∃ options, Options.ofRequest request = .ok options ∧
          request.resolve options = .error e := by
  simp [generate, bind_eq_error, mapError_eq_ok, mapError_eq_error]

theorem Request.generate_eq_render {request : Request} {renderer : Renderer} {e : RenderError} :
    request.generate renderer = .error (.render e) ↔
      ∃ options, Options.ofRequest request = .ok options ∧
        ∃ resolution, request.resolve options = .ok resolution ∧
          resolution.generate options renderer = .error e := by
  simp [generate, bind_eq_error, mapError_eq_ok, mapError_eq_error]

/-- Options are checked once: under accepted options nothing but an unknown engine ends the
resolving of any request, so a run ends with a fault of the options only where reading them does or
the engine is unknown, and every other fault comes from rendering. -/
theorem resolve_fails_only_on_engine :
    (∀ options : Options, options.IsAccepted → ∀ (request : Request) (e : OptionsError),
      request.resolve options = .error e ↔
        request.settings.engine ∉ ["postgresql", "mysql", "sqlite"] ∧
          e = .unsupportedEngine request.settings.engine) ∧
    ∀ (request : Request) (renderer : Renderer),
      (∀ e, request.generate renderer = .error (.options e) ↔
        Options.ofRequest request = .error e ∨
          (∃ options, Options.ofRequest request = .ok options) ∧
            request.settings.engine ∉ ["postgresql", "mysql", "sqlite"] ∧
            e = .unsupportedEngine request.settings.engine) ∧
      (∀ e, request.generate renderer = .error (.render e) ↔
        ∃ options, Options.ofRequest request = .ok options ∧
          ∃ resolution, request.resolve options = .ok resolution ∧
            resolution.generate options renderer = .error e) := by
  have hresolve : ∀ options : Options, options.IsAccepted →
      ∀ (request : Request) (e : OptionsError), request.resolve options = .error e ↔
        request.settings.engine ∉ ["postgresql", "mysql", "sqlite"] ∧
          e = .unsupportedEngine request.settings.engine := by
    intro options haccepted request e
    rw [Request.resolve_eq_error fun entry hentry => haccepted.isSound hentry]
    exact Engine.ofName_eq_error
  refine ⟨hresolve, fun request renderer => ⟨fun e => ?_, fun e => Request.generate_eq_render⟩⟩
  rw [Request.generate_eq_options]
  refine or_congr_right ⟨?_, ?_⟩
  · rintro ⟨options, hoptions, h⟩
    exact ⟨⟨options, hoptions⟩, (hresolve options (.inl ⟨request, hoptions⟩) request e).1 h⟩
  · rintro ⟨⟨options, hoptions⟩, h⟩
    exact ⟨options, hoptions, (hresolve options (.inl ⟨request, hoptions⟩) request e).2 h⟩

/-- A request on an unknown engine, whose options name a bounded cache. -/
def oracleRequest : Request where
  settings := { engine := "oracle" }
  pluginOptions := Text.bytesOf <|
    "\x7b\"package\": \"db\", \"cache\": [\x7b\"table\": \"public.authors\", " ++
      "\"type\": \"lru\", \"size\": 10, \"ttl\": \"1m\"\x7d]\x7d"

theorem resolve_fails_on_oracle :
    ∃ options, Options.ofRequest oracleRequest = .ok options ∧
      oracleRequest.resolve options = .error (.unsupportedEngine "oracle") := by
  obtain ⟨options, hoptions⟩ := exists_eq_ok_of_isOk
    (show (Options.ofRequest oracleRequest).isOk = true by decide +kernel)
  have haccepted : options.IsAccepted := .inl ⟨oracleRequest, hoptions⟩
  have hfails := resolve_fails_only_on_engine.1 options haccepted oracleRequest
    (.unsupportedEngine "oracle")
  exact ⟨options, hoptions, hfails.2 ⟨by decide, rfl⟩⟩

end LoaderGen
