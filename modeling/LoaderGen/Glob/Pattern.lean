import LoaderGen.Glob.Reading

/-!
# Patterns

A glob together with its text. Two patterns with the same text are the same pattern.
-/

namespace LoaderGen

/-- A text that has been read as a glob. -/
structure Pattern where
  source : String
  tokens : List Glob.Token
  reads : Glob.read source = .ok tokens

namespace Pattern

/-- The pattern with the given text. -/
def compile (source : String) : Except Glob.Fault Pattern :=
  match h : Glob.read source with
  | .ok tokens => .ok ⟨source, tokens, h⟩
  | .error fault => .error fault

/-- The pattern matches the whole text. -/
def isMatch (pattern : Pattern) (text : String) : Bool := Glob.isMatch pattern.tokens text

theorem eq_of_source_eq {p q : Pattern} (h : p.source = q.source) : p = q := by
  obtain ⟨source, tokens, hp⟩ := p
  obtain ⟨_, tokens', hq⟩ := q
  cases h
  rw [hp] at hq
  cases hq
  rfl

instance : DecidableEq Pattern := fun p q =>
  if h : p.source = q.source then isTrue (eq_of_source_eq h) else isFalse fun e => h (e ▸ rfl)

end Pattern

end LoaderGen
