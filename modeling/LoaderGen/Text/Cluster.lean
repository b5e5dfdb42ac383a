import LoaderGen.Text.ClusterTable
import LoaderGen.Text.Printable

/-!
# User-perceived characters

A letter with the marks that attach to it counts as one character of a word. The rules are those of
Unicode text segmentation for extended grapheme clusters: marks and joiners, Hangul syllables,
letters that a virama ties together, pictographs that a joiner does, and flags of two letters.
-/

namespace LoaderGen.Text

/-- One user-perceived character. -/
abbrev Cluster := List Char

/-- The places of Hangul letters and syllables in a syllable. -/
inductive HangulPart where
  | lead
  | vowel
  | tail
  /-- A syllable without a tail. -/
  | openSyllable
  | closedSyllable
  deriving DecidableEq, Repr

namespace HangulPart

/-- The part that a character is; the syllables are in order of lead, vowel and tail, and every
28th of them is open. -/
def ofChar? (c : Char) : Option HangulPart :=
  if hangulLeadRanges.contains c then some lead
  else if hangulVowelRanges.contains c then some vowel
  else if hangulTailRanges.contains c then some tail
  else if 0xAC00 ≤ c.toNat ∧ c.toNat ≤ 0xD7A3 then
    some (if (c.toNat - 0xAC00) % 28 = 0 then openSyllable else closedSyllable)
  else none

/-- The second part continues the syllable that the first one leaves. -/
def joins : HangulPart → HangulPart → Bool
  | lead, tail => false
  | lead, _ => true
  | vowel, next => next == vowel || next == tail
  | openSyllable, next => next == vowel || next == tail
  | tail, next => next == tail
  | closedSyllable, next => next == tail

end HangulPart

namespace Cluster

/-- The joiner that ties pictographs together. -/
def joiner : Char := '\u200d'

/-- The character that keeps a virama from joining letters. -/
def nonJoiner : Char := '\u200c'

/-- A mark that extends the character before it. -/
def isExtender (c : Char) : Bool := isCombining c || (0x1F3FB ≤ c.toNat && c.toNat ≤ 0x1F3FF)

/-- A character that stays with the one before it. -/
def isAttached (c : Char) : Bool :=
  0x80 ≤ c.toNat && (isExtender c || c = joiner || spacingMarkRanges.contains c)

/-- A letter of a flag. -/
def isFlagLetter (c : Char) : Bool := 0x1F1E6 ≤ c.toNat && c.toNat ≤ 0x1F1FF

/-- After the cluster, last character first, a pictograph would be tied to it by a joiner. -/
def awaitsPictograph : List Char → Bool
  | c :: before =>
    c = joiner && ((before.dropWhile isExtender).head?.map pictographRanges.contains).getD false
  | [] => false

/-- After the cluster, last character first, a letter would be tied to it by a virama. -/
def awaitsLetter (cluster : List Char) : Bool :=
  let isBetween (c : Char) := (isExtender c || c = joiner) && c != nonJoiner
  (cluster.takeWhile isBetween).any (viramas.contains ·.toNat) &&
    ((cluster.dropWhile isBetween).head?.map conjunctLetterRanges.contains).getD false

/-- The cluster, last character first, ends in half a flag. -/
def awaitsFlagLetter (cluster : List Char) : Bool :=
  (cluster.takeWhile isFlagLetter).length % 2 = 1

/-- Two Hangul characters of one syllable. -/
def sharesSyllable (last c : Char) : Bool :=
  match HangulPart.ofChar? last, HangulPart.ofChar? c with
  | some part, some next => part.joins next
  | _, _ => false

/-- The character `c` belongs to the cluster whose characters, last first, are given. -/
def takes (cluster : List Char) (c : Char) : Bool :=
  match cluster with
  | [] => true
  | last :: _ =>
    if last = '\r' && c = '\n' then true
    else if controlRanges.contains last || controlRanges.contains c then false
    else if c.toNat < 0x80 then prependedRanges.contains last
    else isAttached c || prependedRanges.contains last || sharesSyllable last c ||
      (conjunctLetterRanges.contains c && awaitsLetter cluster) ||
      (pictographRanges.contains c && awaitsPictograph cluster) ||
      (isFlagLetter c && awaitsFlagLetter cluster)

/-- The clusters of a text that continues the given cluster, last character first. -/
def splitFrom (cluster : List Char) : List Char → List Cluster
  | [] => [cluster.reverse]
  | c :: rest =>
    if takes cluster c then splitFrom (c :: cluster) rest
    else cluster.reverse :: splitFrom [c] rest

end Cluster

/-- The user-perceived characters of a text. -/
def clusters : List Char → List Cluster
  | [] => []
  | c :: rest => Cluster.splitFrom [c] rest

end LoaderGen.Text
