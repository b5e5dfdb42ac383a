import LoaderGen.Text.Casing

/-!
# Singular forms

The English singular of a table name. A rule says which endings it replaces after which stems; it is
tried on capitals, on small letters and on any mixture, so that a name in capitals stays in
capitals. The first rule that applies is the only one.
-/

namespace LoaderGen.Naming

/-- One letter of a stem. -/
inductive Letter where
  | only (c : Char)
  | among (cs : List Char)
  | except (cs : List Char)
  deriving Repr

/-- How the letters of a rule are compared with a word. -/
inductive Spelling where
  /-- The capitals of the rule's letters. -/
  | capitals
  /-- The letters as they are. -/
  | asWritten
  /-- Either case. -/
  | anyCase
  deriving DecidableEq, Repr

/-- The small ASCII letter that a character is another form of, else the character: capitals, the
long s, and the Kelvin sign. -/
def foldCase (c : Char) : Char :=
  if c = '\u017f' then 's' else if c = '\u212a' then 'k' else c.toLower

namespace Spelling

/-- The character of a word stands for this letter of a rule. -/
def same (spelling : Spelling) (letter c : Char) : Bool :=
  match spelling with
  | capitals => c == letter.toUpper
  | asWritten => c == letter
  | anyCase => foldCase c == letter

def admits (spelling : Spelling) (letter : Letter) (c : Char) : Bool :=
  match letter with
  | .only l => spelling.same l c
  | .among ls => ls.any (spelling.same · c)
  | .except ls => !ls.any (spelling.same · c)

/-- The characters stand for the letters, one by one. -/
def admitsAll (spelling : Spelling) : List Letter → List Char → Bool
  | [], [] => true
  | letter :: letters, c :: cs => spelling.admits letter c && spelling.admitsAll letters cs
  | _, _ => false

/-- What a rule puts in place of an ending. -/
def write (spelling : Spelling) (put : List Char) : List Char :=
  match spelling with
  | capitals => put.map Char.toUpper
  | _ => put

end Spelling

/-- Where in a word a rule looks. -/
inductive Place where
  | atEnd
  | wholeWord
  | atStart
  deriving DecidableEq, Repr

/-- Replaces an ending after a stem. -/
structure Rule where
  place : Place
  stems : List (List Letter)
  endings : List (List Char)
  put : List Char
  spelling : Spelling

namespace Rule

/-- The stem and the ending stand at the rule's place in the word. -/
def fits (rule : Rule) (stem : List Letter) (ending : List Char) (word : List Char) : Bool :=
  let letters := stem ++ ending.map .only
  match rule.place with
  | .wholeWord => rule.spelling.admitsAll letters word
  | .atEnd =>
    letters.length ≤ word.length &&
      rule.spelling.admitsAll letters (word.drop (word.length - letters.length))
  | .atStart => rule.spelling.admitsAll letters (word.take letters.length)

/-- The word with an ending replaced that stands after so many letters of a stem. -/
def replace (rule : Rule) (stemLength endingLength : Nat) (word : List Char) : List Char :=
  match rule.place with
  | .atStart =>
    word.take stemLength ++ rule.spelling.write rule.put ++ word.drop (stemLength + endingLength)
  | _ => word.take (word.length - endingLength) ++ rule.spelling.write rule.put

/-- The word after the rule, if it applies. -/
def singular? (rule : Rule) (word : List Char) : Option (List Char) :=
  rule.stems.findSome? fun stem =>
    (rule.endings.find? fun ending => rule.fits stem ending word).map fun ending =>
      rule.replace stem.length ending.length word

end Rule

private def letters (s : String) : List Letter := s.toList.map .only

/-- A rule that takes off or replaces endings after stems, at the end of a word. -/
private def ending (stems : List (List Letter)) (endings : List String) (put : String)
    (spelling : Spelling) : Rule :=
  ⟨.atEnd, stems, endings.map String.toList, put.toList, spelling⟩

/-- Words that are their own singular. -/
def uncountable : List String :=
  ["equipment", "information", "rice", "money", "species", "series", "fish", "sheep", "jeans",
    "police"]

/-- Singulars and plurals that no ending explains. -/
def irregular : List (String × String) :=
  [("person", "people"), ("man", "men"), ("child", "children"), ("sex", "sexes"), ("move", "moves"),
    ("mombie", "mombies")]

/-- The rules for endings, the most special first. -/
def endingRules : List (Spelling → Rule) := [
  ending [letters "quiz"] ["zes"] "",
  ending [letters "matr"] ["ices"] "ix",
  ending [letters "vert", letters "ind"] ["ices"] "ex",
  (⟨.atStart, [letters "ox"], ["en".toList], [], ·⟩),
  ending [letters "alias", letters "status"] ["es", ""] "",
  ending [letters "octop", letters "vir"] ["us", "i"] "us",
  (⟨.wholeWord, [letters "a"], ["xis".toList, "xes".toList], "xis".toList, ·⟩),
  ending [letters "cris", letters "test"] ["is", "es"] "is",
  ending [letters "shoe"] ["s"] "",
  ending [letters "o"] ["es"] "",
  ending [letters "bus"] ["es", ""] "",
  (⟨.wholeWord, [letters "m", letters "l"], ["ice".toList], "ouse".toList, ·⟩),
  ending [letters "x", letters "ch", letters "ss", letters "sh"] ["es"] "",
  ending [letters "c"] ["ookies"] "ookie",
  ending [letters "m"] ["ovies"] "ovie",
  ending [letters "s"] ["eries"] "eries",
  ending [[.except "aeiouy".toList], letters "qu"] ["ies"] "y",
  ending [[.among "lr".toList]] ["ves"] "f",
  ending [letters "tive"] ["s"] "",
  ending [letters "hive"] ["s"] "",
  ending [[.except ['f']]] ["ves"] "fe",
  (⟨.wholeWord, [letters "analy"], ["sis".toList, "ses".toList], "sis".toList, ·⟩),
  ending [letters "analy", letters "ba", letters "diagno", letters "parenthe", letters "progno",
    letters "synop", letters "the"] ["sis", "ses"] "sis",
  ending [[.among "ti".toList]] ["a"] "um",
  ending [letters "n"] ["ews"] "ews",
  ending [letters "ss"] [""] "",
  ending [[]] ["s"] ""]

/-- All rules in the order in which they are tried. -/
def rules : List Rule :=
  (uncountable.map fun word => ⟨.wholeWord, [letters word], [[]], [], .anyCase⟩) ++
  (irregular.flatMap fun (singular, plural) =>
    let title (s : String) := String.ofList (Text.capitalize s.toList)
    [ending [[]] [plural] singular .capitals,
      ending [[]] [title plural] (title singular) .asWritten,
      ending [[]] [plural] singular .asWritten]) ++
  (endingRules.flatMap fun rule => [rule .capitals, rule .asWritten, rule .anyCase])

/-- Words whose singular is given outright, whatever their case. -/
def fixed : List (String × String) :=
  [("campus", "campus"), ("meta", "meta"), ("calories", "calorie"), ("waves", "wave"),
    ("metadata", "metadata")]

/-- The singular of a word by the first rule that applies. -/
def singularByRule (word : List Char) : List Char :=
  (rules.findSome? (·.singular? word)).getD word

/-- The singular of a word. The words listed are left alone, their case ignored. -/
def singularize (word : String) (exclusions : List String) : String :=
  if exclusions.any (Text.eqIgnoringAsciiCase · word) then word
  else
    match fixed.lookup (String.ofList (Text.lower word.toList)) with
    | some singular => singular
    | none => String.ofList (singularByRule word.toList)

end LoaderGen.Naming
