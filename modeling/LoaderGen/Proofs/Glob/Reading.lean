import LoaderGen.Glob.Reading

/-!
# Reading globs outside groups

What each character of a glob adds to the tokens, where no group is open.
-/

namespace LoaderGen.Glob

variable {before : Option Char} {tokens : List Token} {c : Char} {cs : List Char}

/-- The characters that are not read as themselves. A closing bracket, a comma and a slash are, where
no class and no group is open. -/
def controls : List Char := ['*', '?', '[', '\x7b', '\x7d', '\\']

theorem readFrom_nil : readFrom before ⟨tokens, []⟩ [] = .ok tokens.reverse := by
  rw [readFrom]
  rfl

theorem readFrom_letter (h : c ∉ controls) :
    readFrom before ⟨tokens, []⟩ (c :: cs) = readFrom (some c) ⟨.literal c :: tokens, []⟩ cs := by
  by_cases hcomma : c = ','
  · subst hcomma
    rw [readFrom]
    rfl
  · simp only [controls, List.mem_cons, List.not_mem_nil, or_false, not_or] at h
    rw [readFrom]
    · rfl
    all_goals simp_all

theorem readFrom_escaped :
    readFrom before ⟨tokens, []⟩ ('\\' :: c :: cs) =
      readFrom (some c) ⟨.literal c :: tokens, []⟩ cs := by
  rw [readFrom]
  rfl

theorem readFrom_anyByte :
    readFrom before ⟨tokens, []⟩ ('?' :: cs) = readFrom (some '?') ⟨.anyByte :: tokens, []⟩ cs := by
  rw [readFrom]
  rfl

theorem readFrom_anyRun (h : cs.head? ≠ some '*') :
    readFrom before ⟨tokens, []⟩ ('*' :: cs) = readFrom (some '*') ⟨.anyRun :: tokens, []⟩ cs := by
  rw [readFrom]
  · rfl
  · intro rest hrest
    rw [hrest] at h
    exact h rfl

theorem readFrom_onlyStars : readFrom before ⟨[], []⟩ ['*', '*'] = .ok [.leading] := by
  rw [readFrom]
  simp only [Draft.doubleStar, List.head?_nil, true_or, if_true]
  exact readFrom_nil

theorem readFrom_lastStars :
    readFrom (some '/') ⟨.literal '/' :: tokens, []⟩ ['*', '*'] =
      .ok (tokens.reverse ++ [.trailing]) := by
  rw [readFrom]
  simp [Draft.doubleStar, readFrom_nil]

/-- Two stars without a slash behind them are two runs, unless they are the whole glob, or its end
behind a slash. -/
theorem readFrom_stars (hafter : cs.head? ≠ some '/') (hsome : tokens ≠ [] ∨ cs ≠ [])
    (hslash : before ≠ some '/' ∨ cs ≠ []) :
    readFrom before ⟨tokens, []⟩ ('*' :: '*' :: cs) =
      readFrom (some '*') ⟨.anyRun :: .anyRun :: tokens, []⟩ cs := by
  rw [readFrom]
  cases tokens with
  | nil =>
      have hcs : cs ≠ [] := by simpa using hsome
      simp [Draft.doubleStar, hafter, hcs, Draft.push]
  | cons last others =>
      by_cases hcs : cs = []
      · have hbefore : before ≠ some '/' := by simpa [hcs] using hslash
        simp [Draft.doubleStar, hcs, hbefore, Draft.push, Draft.inGroup]
      · simp [Draft.doubleStar, hcs, hafter, Draft.push, Draft.inGroup]

end LoaderGen.Glob
