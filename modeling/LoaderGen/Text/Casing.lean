import LoaderGen.Text.CaseTable

/-!
# Upper and lower case

Full case mapping of text. A character can have several in its upper case (`ß` becomes `SS`), and a
capital sigma becomes a final one at the end of a word, so lowering a text looks at both sides of
each character.
-/

namespace LoaderGen.Text

/-- The upper case of a character, one to three characters long. -/
def upperOf (c : Char) : List Char :=
  if c.toNat < 0x80 then [c.toUpper]
  else
    match upperExpansions.lookup c.toNat with
    | some codes => codes.map Char.ofNat
    | none => [CaseRun.map upperRuns c]

/-- The lower case of a character away from any other. -/
def lowerOf (c : Char) : List Char :=
  if c.toNat < 0x80 then [c.toLower]
  else if c = 'İ' then ['i', '\u0307']
  else [CaseRun.map lowerRuns c]

/-- Every character in upper case. -/
def upper (cs : List Char) : List Char := cs.flatMap upperOf

/-- The nearest character that counts has letter case. -/
def facesLetter (cs : List Char) : Bool :=
  match cs.dropWhile caseIgnorableRanges.contains with
  | c :: _ => casedRanges.contains c
  | [] => false

/-- Lower case of a text whose characters before it, last first, are `before`. -/
def lowerAfter (before : List Char) : List Char → List Char
  | [] => []
  | c :: rest =>
    let image :=
      if c = 'Σ' then [if facesLetter before && !facesLetter rest then 'ς' else 'σ'] else lowerOf c
    image ++ lowerAfter (c :: before) rest

/-- Every character in lower case, a capital sigma at the end of a word becoming a final one. -/
def lower (cs : List Char) : List Char := lowerAfter [] cs

/-- The text with its first character in upper case. -/
def capitalize : List Char → List Char
  | [] => []
  | c :: rest => upperOf c ++ rest

/-- Equality of texts up to the case of ASCII letters. -/
def eqIgnoringAsciiCase (a b : String) : Bool :=
  a.toList.map Char.toLower == b.toList.map Char.toLower

theorem upperOf_ascii {c : Char} (h : c.toNat < 0x80) : upperOf c = [c.toUpper] := by
  simp [upperOf, h]

theorem lowerOf_ascii {c : Char} (h : c.toNat < 0x80) : lowerOf c = [c.toLower] := by
  simp [lowerOf, h]

end LoaderGen.Text
