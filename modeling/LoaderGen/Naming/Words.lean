import LoaderGen.Text.Casing
import LoaderGen.Text.Cluster

/-!
# Words of an identifier

An identifier is cut into words at underscores, dashes and spaces, before a capital that follows a
small letter, between letters and digits, and before the last capital of a run that a small letter
follows. The words are put together again in one of three styles.
-/

namespace LoaderGen.Naming

open Text (Cluster upper upperOf lower clusters)

/-- The ways to join words. -/
inductive WordStyle where
  | snake
  | camel
  | pascal
  deriving DecidableEq, Repr

def isDelimiter (g : Cluster) : Bool := g == ['_'] || g == ['-'] || g == [' ']

def isCapital (g : Cluster) : Bool := upper g != lower g && g == upper g

def isSmall (g : Cluster) : Bool := upper g != lower g && g == lower g

def isDigit (g : Cluster) : Bool := g.all Char.isDigit

/-- A word ends after `g`, where `rest` follows. -/
def endsAfter (g : Cluster) (rest : List Cluster) : Bool :=
  match rest with
  | [] => false
  | next :: more =>
    (isSmall g && isCapital next) ||
    ((isSmall g || isCapital g) && isDigit next) ||
    (isDigit g && (isSmall next || isCapital next)) ||
    (isCapital g && isCapital next && (more.head?.map isSmall).getD false)

/-- The words of an identifier whose first word starts with `word`. Words can be empty. -/
def wordsAfter (word : List Cluster) : List Cluster → List (List Cluster)
  | [] => [word]
  | g :: rest =>
    if isDelimiter g then word :: wordsAfter [] rest
    else if endsAfter g rest then (word ++ [g]) :: wordsAfter [] rest
    else wordsAfter (word ++ [g]) rest

/-- The words of an identifier. -/
def words (cs : List Char) : List (List Cluster) := wordsAfter [] (clusters cs)

def lowerWord (word : List Cluster) : List Char := lower word.flatten

/-- The word with its first character, without the marks on it, in upper case and all that follows
in lower case. -/
def capitalWord (word : List Cluster) : List Char :=
  match word.flatten with
  | [] => []
  | c :: rest => upperOf c ++ lower rest

/-- Words in one style. -/
def joinWords (style : WordStyle) (ws : List (List Cluster)) : List Char :=
  match style with
  | .snake => ['_'].intercalate (ws.map lowerWord)
  | .pascal => ws.flatMap capitalWord
  | .camel =>
    match ws with
    | [] => []
    | first :: rest => lowerWord first ++ rest.flatMap capitalWord

/-- The identifier in the given style. -/
def restyle (style : WordStyle) (identifier : String) : String :=
  String.ofList (joinWords style (words identifier.toList))

end LoaderGen.Naming
