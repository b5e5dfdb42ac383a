import LoaderGen.Proofs.Lookup
import LoaderGen.Proofs.Naming.Cuts
import Mathlib.Data.List.Find
import Mathlib.Tactic.FinCases
import Mathlib.Tactic.MkIffOfInductiveProp

/-!
# Singular forms in capitals

A word in capitals should have its singular in capitals. Each rule is tried on capitals first and
puts capitals there, so a word of small letters and its capitals meet the same rule. The words whose
singular is given outright are found in any case, and theirs are in small letters.
-/

namespace LoaderGen.Naming

section Search

variable {α β γ : Type} {entries : List α}

theorem findSome?_eq_map {f : α → Option γ} {g : α → Option β} {u : β → γ}
    (h : ∀ entry ∈ entries, f entry = (g entry).map u) :
    entries.findSome? f = (entries.findSome? g).map u := by
  rw [List.map_findSome?, ← List.head?_filterMap, List.filterMap_congr h, List.head?_filterMap]
  rfl

theorem findSome?_flatMap (f : β → Option γ) (expand : α → List β) :
    (entries.flatMap expand).findSome? f =
      entries.findSome? fun entry => (expand entry).findSome? f := by
  induction entries with
  | nil => rfl
  | cons entry entries ih =>
      rw [List.flatMap_cons, List.findSome?_append, ih, List.findSome?_cons]
      cases (expand entry).findSome? f <;> rfl

end Search

/-- Small ASCII letters, digits and underscores. -/
def IsPlain (c : Char) : Prop := c.isLower = true ∨ c.isDigit = true ∨ c = '_'

instance : DecidablePred IsPlain := fun c =>
  inferInstanceAs (Decidable (c.isLower = true ∨ c.isDigit = true ∨ c = '_'))

/-- Neither the character nor its capital passes for another one. -/
@[mk_iff]
structure KeepsCase (c : Char) : Prop where
  foldCase_self : foldCase c = c
  foldCase_toUpper : foldCase c.toUpper = c
  isUpper : c.isUpper = false
  isLower_toUpper : c.toUpper.isLower = false
  toLower_self : c.toLower = c
  toLower_toUpper : c.toUpper.toLower = c
  toUpper_ascii : c.toUpper.toNat < 0x80

instance (c : Char) : Decidable (KeepsCase c) := decidable_of_iff' _ (keepsCase_iff c)

theorem IsPlain.ascii {c : Char} (h : IsPlain c) : c.toNat < 0x80 := by
  rcases h with hlower | hdigit | rfl
  · exact Text.ascii_of_isLower hlower
  · exact Text.ascii_of_isDigit hdigit
  · decide

theorem IsPlain.keepsCase {c : Char} (h : IsPlain c) : KeepsCase c := by
  have hascii := h.ascii
  revert h
  exact Text.forall_ascii (p := fun c => IsPlain c → KeepsCase c) (by decide) hascii

theorem toUpper_of_isLower {letter : Char} (h : letter.isLower = true) :
    letter.toUpper.isUpper = true := by
  have hascii := Text.ascii_of_isLower h
  revert h
  exact Text.forall_ascii (p := fun c => c.isLower = true → c.toUpper.isUpper = true)
    (by decide) hascii

def Letter.isSmall : Letter → Bool
  | only c => c.isLower
  | among cs => cs.all Char.isLower
  | except cs => cs.all Char.isLower

namespace Spelling

variable {letter : Letter} {letters : List Letter} {c : Char} {cs : List Char}
  {spelling other : Spelling} {f : Char → Char}

theorem admits_congr (hsmall : letter.isSmall = true)
    (hsame : ∀ l : Char, l.isLower = true → spelling.same l (f c) = other.same l c) :
    spelling.admits letter (f c) = other.admits letter c := by
  have hany : ∀ ls : List Char, ls.all Char.isLower = true →
      ls.any (spelling.same · (f c)) = ls.any (other.same · c) := by
    intro ls hls
    induction ls with
    | nil => rfl
    | cons l ls ih =>
        rw [List.all_cons, Bool.and_eq_true] at hls
        rw [List.any_cons, List.any_cons, hsame l hls.1, ih hls.2]
  cases letter with
  | only l => exact hsame l hsmall
  | among ls => exact hany ls hsmall
  | except ls => exact congrArg (!·) (hany ls hsmall)

theorem admitsAll_congr (hsmall : letters.all Letter.isSmall = true)
    (hsame : ∀ c ∈ cs, ∀ l : Char, l.isLower = true →
      spelling.same l (f c) = other.same l c) :
    spelling.admitsAll letters (cs.map f) = other.admitsAll letters cs := by
  induction letters generalizing cs with
  | nil => cases cs <;> rfl
  | cons letter letters ih =>
      cases cs with
      | nil => rfl
      | cons c cs =>
          rw [List.all_cons, Bool.and_eq_true] at hsmall
          rw [List.map_cons, admitsAll, admitsAll,
            admits_congr hsmall.1 (hsame c List.mem_cons_self),
            ih hsmall.2 fun other hother => hsame other (List.mem_cons_of_mem c hother)]

theorem same_toUpper (hc : KeepsCase c) {l : Char} (hl : l.isLower = true) :
    capitals.same l c.toUpper = asWritten.same l c := by
  rw [same, same, Bool.eq_iff_iff, beq_iff_eq, beq_iff_eq]
  constructor
  · intro h
    have hfold := congrArg foldCase h
    rwa [hc.foldCase_toUpper, (foldCase_of_isLower hl).2] at hfold
  · rintro rfl
    rfl

end Spelling

namespace Rule

variable {rule : Rule} {word : List Char} {spelling other : Spelling} {f : Char → Char}

/-- The rule with its letters read in another spelling. -/
def under (rule : Rule) (spelling : Spelling) : Rule := { rule with spelling := spelling }

def hasSmallLetters (rule : Rule) : Bool :=
  (rule.stems.all fun stem => stem.all Letter.isSmall) &&
    rule.endings.all fun ending => ending.all Char.isLower

theorem fits_congr {stem : List Letter} {ending : List Char}
    (hstem : stem.all Letter.isSmall = true) (hending : ending.all Char.isLower = true)
    (hsame : ∀ c ∈ word, ∀ l : Char, l.isLower = true →
      spelling.same l (f c) = other.same l c) :
    (rule.under spelling).fits stem ending (word.map f) =
      (rule.under other).fits stem ending word := by
  have hsmall : (stem ++ ending.map Letter.only).all Letter.isSmall = true := by
    rw [List.all_append, List.all_map, hstem]
    exact hending
  have hpart : ∀ part : List Char, part ⊆ word →
      spelling.admitsAll (stem ++ ending.map .only) (part.map f) =
        other.admitsAll (stem ++ ending.map .only) part := fun part hpart =>
    Spelling.admitsAll_congr hsmall fun c hc => hsame c (hpart hc)
  unfold fits
  cases hplace : rule.place with
  | wholeWord =>
      simp only [under, hplace]
      exact hpart word (List.Subset.refl word)
  | atEnd =>
      simp only [under, hplace, List.length_map, ← List.map_drop]
      rw [hpart _ (List.drop_subset _ word)]
  | atStart =>
      simp only [under, hplace, ← List.map_take]
      exact hpart _ (List.take_subset _ word)

/-- A rule that in two spellings fits two words, and does with them the same up to `g`. -/
theorem singular?_congr {g : List Char → List Char} (hsmall : rule.hasSmallLetters = true)
    (hsame : ∀ c ∈ word, ∀ l : Char, l.isLower = true →
      spelling.same l (f c) = other.same l c)
    (hreplace : ∀ stemLength endingLength,
      (rule.under spelling).replace stemLength endingLength (word.map f) =
        g ((rule.under other).replace stemLength endingLength word)) :
    (rule.under spelling).singular? (word.map f) =
      ((rule.under other).singular? word).map g := by
  rw [hasSmallLetters, Bool.and_eq_true] at hsmall
  refine findSome?_eq_map fun stem hstem => ?_
  have hfind : (rule.endings.find? fun ending =>
        (rule.under spelling).fits stem ending (word.map f)) =
      rule.endings.find? fun ending => (rule.under other).fits stem ending word :=
    List.find?_congr fun ending hending => fits_congr (List.all_eq_true.1 hsmall.1 stem hstem)
      (List.all_eq_true.1 hsmall.2 ending hending) hsame
  rw [Option.map_map]
  simp only [under] at hfind hreplace ⊢
  rw [hfind]
  exact congrArg (Option.map · _) (funext fun ending => hreplace stem.length ending.length)

theorem replace_toUpper (stemLength endingLength : Nat) :
    (rule.under .capitals).replace stemLength endingLength (word.map Char.toUpper) =
      ((rule.under .asWritten).replace stemLength endingLength word).map Char.toUpper := by
  cases hplace : rule.place <;>
    simp [replace, under, hplace, Spelling.write, List.map_take, List.map_drop]

theorem replace_toUpper_of_put_nil (hput : rule.put = []) (stemLength endingLength : Nat) :
    (rule.under .anyCase).replace stemLength endingLength (word.map Char.toUpper) =
      ((rule.under .anyCase).replace stemLength endingLength word).map Char.toUpper := by
  cases hplace : rule.place <;>
    simp [replace, under, hplace, hput, Spelling.write, List.map_take, List.map_drop]

section Plain

variable (hword : ∀ c ∈ word, IsPlain c)
include hword

theorem singular?_capitals (hsmall : rule.hasSmallLetters = true) :
    (rule.under .capitals).singular? (word.map Char.toUpper) =
      ((rule.under .asWritten).singular? word).map (List.map Char.toUpper) :=
  singular?_congr hsmall (fun c hc _ => Spelling.same_toUpper (hword c hc).keepsCase)
    replace_toUpper

theorem singular?_anyCase (hsmall : rule.hasSmallLetters = true) :
    (rule.under .anyCase).singular? word = (rule.under .asWritten).singular? word := by
  have hsame : ∀ c ∈ word, ∀ l : Char, l.isLower = true →
      Spelling.anyCase.same l (id c) = Spelling.asWritten.same l c := by
    intro c hc l _
    show (foldCase c == l) = (c == l)
    rw [(hword c hc).keepsCase.foldCase_self]
  have h := singular?_congr (f := id) (g := id) hsmall hsame fun _ _ => by rw [List.map_id]; rfl
  rwa [List.map_id, Option.map_id, id] at h

theorem isSome_singular?_anyCase (hsmall : rule.hasSmallLetters = true) :
    ((rule.under .anyCase).singular? (word.map Char.toUpper)).isSome = true ↔
      ((rule.under .asWritten).singular? word).isSome = true := by
  rw [hasSmallLetters, Bool.and_eq_true] at hsmall
  have hsame : ∀ c ∈ word, ∀ l : Char, l.isLower = true →
      Spelling.anyCase.same l c.toUpper = Spelling.asWritten.same l c := by
    intro c hc l _
    show (foldCase c.toUpper == l) = (c == l)
    rw [(hword c hc).keepsCase.foldCase_toUpper]
  rw [isSome_singular?, isSome_singular?]
  refine exists_congr fun stem => and_congr_right fun hstem =>
    exists_congr fun ending => and_congr_right fun hending => ?_
  rw [fits_congr (List.all_eq_true.1 hsmall.1 stem hstem)
    (List.all_eq_true.1 hsmall.2 ending hending) hsame]

theorem singular?_anyCase_toUpper (hsmall : rule.hasSmallLetters = true) (hput : rule.put = []) :
    (rule.under .anyCase).singular? (word.map Char.toUpper) =
      ((rule.under .anyCase).singular? word).map (List.map Char.toUpper) := by
  refine singular?_congr hsmall (fun c hc l _ => ?_) (replace_toUpper_of_put_nil hput)
  have hcase := (hword c hc).keepsCase
  rw [Spelling.same, Spelling.same, hcase.foldCase_toUpper, hcase.foldCase_self]

end Plain

/-- Whichever stem and ending the rule is tried with, one of its letters is of this kind. -/
def hasLetter (kind : Char → Bool) (rule : Rule) : Bool :=
  rule.stems.all fun stem => rule.endings.all fun ending =>
    (stem ++ ending.map Letter.only).any fun letter =>
      match letter with
      | .only c => kind c
      | _ => false

/-- A rule does not apply to a word that has nothing for one of its letters. -/
theorem singular?_eq_none {kind : Char → Bool} (hletter : rule.hasLetter kind = true)
    (hnone : ∀ letter, kind letter = true → ∀ c ∈ word, rule.spelling.same letter c = false) :
    rule.singular? word = none := by
  rw [← Option.not_isSome_iff_eq_none, isSome_singular?]
  rintro ⟨stem, hstem, ending, hending, hfits⟩
  obtain ⟨before, kept, taken, after, rfl, hcuts⟩ := fits_iff.1 hfits
  have hadmits := Spelling.admitsAll_append.2 ⟨kept, taken, rfl, hcuts.kept, hcuts.taken⟩
  obtain ⟨letter, hmem, hkind⟩ := List.any_eq_true.1
    (List.all_eq_true.1 (List.all_eq_true.1 hletter stem hstem) ending hending)
  obtain ⟨c, hc, hsame⟩ := Spelling.exists_admitted_of_mem hadmits hmem
  have hword : c ∈ before ++ (kept ++ (taken ++ after)) := by
    rw [← List.append_assoc kept]
    exact List.mem_append_right _ (List.mem_append_left _ hc)
  cases letter with
  | only l =>
      have hsame : rule.spelling.same l c = true := hsame
      rw [hnone l hkind c hword] at hsame
      cases hsame
  | among ls => cases hkind
  | except ls => cases hkind

end Rule

section Tables

variable {word : List Char} (hword : ∀ c ∈ word, IsPlain c)
include hword

/-- Capitals stand for no small letter, nor small letters for a capital. -/
theorem singular?_capitals_eq_none {rule : Rule} (hspelling : rule.spelling = .capitals)
    (hletter : rule.hasLetter Char.isLower = true) : rule.singular? word = none := by
  refine Rule.singular?_eq_none hletter fun letter hlower c hc => ?_
  rw [hspelling]
  refine beq_false_of_ne ?_
  rintro rfl
  have hupper := toUpper_of_isLower hlower
  rw [(hword _ hc).keepsCase.isUpper] at hupper
  cases hupper

theorem singular?_asWritten_eq_none {rule : Rule} (hspelling : rule.spelling = .asWritten)
    (hletter : rule.hasLetter Char.isUpper = true) : rule.singular? word = none := by
  refine Rule.singular?_eq_none hletter fun letter hupper c hc => ?_
  rw [hspelling]
  refine beq_false_of_ne ?_
  rintro rfl
  rw [(hword _ hc).keepsCase.isUpper] at hupper
  cases hupper

theorem singular?_toUpper_eq_none {rule : Rule} (hspelling : rule.spelling = .asWritten)
    (hletter : rule.hasLetter Char.isLower = true) :
    rule.singular? (word.map Char.toUpper) = none := by
  refine Rule.singular?_eq_none hletter fun letter hlower c hc => ?_
  obtain ⟨small, hsmall, rfl⟩ := List.mem_map.1 hc
  rw [hspelling]
  refine beq_false_of_ne ?_
  rintro rfl
  rw [(hword _ hsmall).keepsCase.isLower_toUpper] at hlower
  cases hlower

end Tables

def irregularRule (entry : String × String) : Rule :=
  ⟨.atEnd, [[]], [entry.2.toList], entry.1.toList, .asWritten⟩

def titledRule (entry : String × String) : Rule :=
  ⟨.atEnd, [[]], [(title entry.2).toList], (title entry.1).toList, .asWritten⟩

theorem irregularRules_eq (entry : String × String) :
    irregularRules entry =
      [(irregularRule entry).under .capitals, titledRule entry,
        (irregularRule entry).under .asWritten] :=
  rfl

theorem inSpellings_eq {make : Spelling → Rule} (hmem : make ∈ endingRules) :
    inSpellings make =
      [(make .asWritten).under .capitals, (make .asWritten).under .asWritten,
        (make .asWritten).under .anyCase] := by
  fin_cases hmem <;> rfl

private theorem small_uncountable :
    (uncountable.all fun word => (uncountableRule word).hasSmallLetters) = true := by
  decide

private theorem small_irregular : (irregular.all fun entry =>
    (irregularRule entry).hasSmallLetters && (irregularRule entry).hasLetter Char.isLower &&
      (titledRule entry).hasLetter Char.isLower && (titledRule entry).hasLetter Char.isUpper) =
        true := by
  decide

private theorem small_endingRules : (endingRules.all fun make =>
    (make .asWritten).hasSmallLetters && (make .asWritten).hasLetter Char.isLower) = true := by
  decide

section Runs

variable {word : List Char} (hword : ∀ c ∈ word, IsPlain c)
include hword

theorem singular?_uncountableRule {uncounted : String} (hmem : uncounted ∈ uncountable) :
    (uncountableRule uncounted).singular? (word.map Char.toUpper) =
      ((uncountableRule uncounted).singular? word).map (List.map Char.toUpper) := by
  have hunder : uncountableRule uncounted = (uncountableRule uncounted).under .anyCase := rfl
  rw [hunder]
  exact Rule.singular?_anyCase_toUpper hword
    (List.all_eq_true.1 small_uncountable uncounted hmem) rfl

theorem findSome?_irregularRules {entry : String × String} (hmem : entry ∈ irregular) :
    (irregularRules entry).findSome? (·.singular? (word.map Char.toUpper)) =
      ((irregularRules entry).findSome? (·.singular? word)).map (List.map Char.toUpper) := by
  have hentry := List.all_eq_true.1 small_irregular entry hmem
  simp only [Bool.and_eq_true] at hentry
  obtain ⟨⟨⟨hsmall, hletter⟩, htitle⟩, hcapital⟩ := hentry
  have hunder : ∀ spelling,
      ((irregularRule entry).under spelling).hasLetter Char.isLower = true := fun _ => hletter
  simp only [irregularRules_eq, List.findSome?_cons, List.findSome?_nil]
  -- On the word only the rule in small letters can apply, on its capitals only that in capitals.
  rw [Rule.singular?_capitals hword hsmall, singular?_toUpper_eq_none hword rfl htitle,
    singular?_toUpper_eq_none hword rfl (hunder .asWritten),
    singular?_capitals_eq_none hword rfl (hunder .capitals),
    singular?_asWritten_eq_none hword rfl hcapital]
  cases ((irregularRule entry).under .asWritten).singular? word <;> rfl

theorem findSome?_inSpellings {make : Spelling → Rule} (hmem : make ∈ endingRules) :
    (inSpellings make).findSome? (·.singular? (word.map Char.toUpper)) =
      ((inSpellings make).findSome? (·.singular? word)).map (List.map Char.toUpper) := by
  have hmake := List.all_eq_true.1 small_endingRules make hmem
  rw [Bool.and_eq_true] at hmake
  obtain ⟨hsmall, hletter⟩ := hmake
  have hunder : ∀ spelling,
      ((make .asWritten).under spelling).hasLetter Char.isLower = true := fun _ => hletter
  simp only [inSpellings_eq hmem, List.findSome?_cons, List.findSome?_nil]
  -- The rule in any case would put small letters into capitals. It is not reached: on either word
  -- it applies only where a rule before it does.
  rw [Rule.singular?_capitals hword hsmall, singular?_toUpper_eq_none hword rfl (hunder .asWritten),
    singular?_capitals_eq_none hword rfl (hunder .capitals), Rule.singular?_anyCase hword hsmall]
  cases hrule : ((make .asWritten).under .asWritten).singular? word with
  | some result => rfl
  | none =>
      have hany := mt (Rule.isSome_singular?_anyCase hword hsmall).1 (by rw [hrule]; simp)
      rw [Option.not_isSome_iff_eq_none] at hany
      rw [hany]
      rfl

/-- A word and its capitals meet the same rule. -/
theorem singularByRule_toUpper :
    singularByRule (word.map Char.toUpper) = (singularByRule word).map Char.toUpper := by
  have hrules : rules.findSome? (·.singular? (word.map Char.toUpper)) =
      (rules.findSome? (·.singular? word)).map (List.map Char.toUpper) := by
    rw [rules_eq]
    simp only [List.findSome?_append, findSome?_flatMap, List.findSome?_map, Option.map_or]
    congr 1
    · exact findSome?_eq_map fun uncounted hmem => singular?_uncountableRule hword hmem
    congr 1
    · exact findSome?_eq_map fun entry hmem => findSome?_irregularRules hword hmem
    · exact findSome?_eq_map fun make hmem => findSome?_inSpellings hword hmem
  rw [singularByRule, hrules, Option.getD_map]
  rfl

end Runs

private theorem put_ascii : (rules.all fun rule =>
    (rule.spelling.write rule.put).all fun c => c.toNat < 0x80) = true := by
  decide

theorem singularByRule_ascii {word : List Char} (hword : ∀ c ∈ word, c.toNat < 0x80) :
    ∀ c ∈ singularByRule word, c.toNat < 0x80 := by
  intro c hc
  rw [singularByRule] at hc
  cases hfound : rules.findSome? (·.singular? word) with
  | none =>
      rw [hfound] at hc
      exact hword c hc
  | some result =>
      rw [hfound, Option.getD_some] at hc
      obtain ⟨rule, hrule, hsingular⟩ := List.exists_of_findSome?_eq_some hfound
      obtain ⟨stem, -, ending, -, before, kept, taken, after, -, rfl, rfl⟩ :=
        Rule.exists_cuts_of_singular? hsingular
      simp only [List.mem_append] at hc
      rcases hc with hbefore | hkept | hput | hafter
      · exact hword c (by simp [hbefore])
      · exact hword c (by simp [hkept])
      · exact of_decide_eq_true
          (List.all_eq_true.1 (List.all_eq_true.1 put_ascii rule hrule) c hput)
      · exact hword c (by simp [hafter])

def inCapitals (word : String) : String := String.ofList (Text.upper word.toList)

section Plain

variable {word : String} (hword : ∀ c ∈ word.toList, IsPlain c)
include hword

theorem toList_inCapitals : (inCapitals word).toList = word.toList.map Char.toUpper := by
  rw [inCapitals, String.toList_ofList, Text.upper_ascii fun c hc => (hword c hc).ascii]

theorem lower_plain : String.ofList (Text.lower word.toList) = word := by
  rw [Text.lower_ascii fun c hc => (hword c hc).ascii,
    (List.map_congr_left fun c hc => (hword c hc).keepsCase.toLower_self).trans (List.map_id _),
    String.ofList_toList]

theorem lower_inCapitals : String.ofList (Text.lower (inCapitals word).toList) = word := by
  have hascii : ∀ c ∈ word.toList.map Char.toUpper, c.toNat < 0x80 := by
    intro c hc
    obtain ⟨small, hsmall, rfl⟩ := List.mem_map.1 hc
    exact (hword small hsmall).keepsCase.toUpper_ascii
  have hback : word.toList.map (Char.toLower ∘ Char.toUpper) = word.toList :=
    (List.map_congr_left fun c hc => (hword c hc).keepsCase.toLower_toUpper).trans (List.map_id _)
  rw [toList_inCapitals hword, Text.lower_ascii hascii, List.map_map, hback, String.ofList_toList]

end Plain

private theorem fixed_ne_capitals : (fixed.all fun entry =>
    inCapitals entry.2 ≠ entry.2) = true := by
  decide

/-- A word of small letters, digits and underscores has in capitals the capitals of its singular,
unless it is one of those whose singular is given outright. Those have it in small letters, in
capitals too. -/
theorem capitals_kept_unless_fixed {word : String} (hword : ∀ c ∈ word.toList, IsPlain c) :
    (singularize (inCapitals word) [] = inCapitals (singularize word []) ↔
      word ∉ ["campus", "meta", "calories", "waves", "metadata"]) ∧
    ∀ singular, fixed.lookup word = some singular →
      singularize (inCapitals word) [] = singular ∧ singularize word [] = singular := by
  have hfixed : fixed.lookup word = none ↔
      word ∉ ["campus", "meta", "calories", "waves", "metadata"] := by
    rw [List.lookup_eq_none_iff]
    simp [fixed]
  rw [singularize_of_included (List.forall_mem_nil _),
    singularize_of_included (List.forall_mem_nil _), lower_inCapitals hword, lower_plain hword,
    ← hfixed]
  cases hlookup : fixed.lookup word with
  | none =>
      refine ⟨iff_of_true ?_ rfl, nofun⟩
      rw [Option.getD_none, Option.getD_none, toList_inCapitals hword,
        singularByRule_toUpper hword, inCapitals, String.toList_ofList,
        Text.upper_ascii (singularByRule_ascii fun c hc => (hword c hc).ascii)]
  | some singular =>
      refine ⟨iff_of_false ?_ nofun, fun other h => ⟨Option.some.inj h, Option.some.inj h⟩⟩
      have hsmall := List.all_eq_true.1 fixed_ne_capitals _ (mem_of_lookup_eq_some hlookup)
      intro h
      exact of_decide_eq_true hsmall h.symm

theorem capitals_of_categories_kept :
    (∀ c ∈ "book_categories".toList, IsPlain c) ∧
      "book_categories" ∉ ["campus", "meta", "calories", "waves", "metadata"] ∧
      inCapitals "book_categories" = "BOOK_CATEGORIES" ∧
      singularize "BOOK_CATEGORIES" [] = "BOOK_CATEGORY" := by
  have hword : ∀ c ∈ "book_categories".toList, IsPlain c :=
    Text.forall_mem_of_all (by decide)
  have hfixed : "book_categories" ∉ ["campus", "meta", "calories", "waves", "metadata"] := by decide
  have hcapitals : inCapitals "book_categories" = "BOOK_CATEGORIES" := by decide +kernel
  have hsingular : inCapitals (singularize "book_categories" []) = "BOOK_CATEGORY" := by
    decide +kernel
  have hkept := (capitals_kept_unless_fixed hword).1.2 hfixed
  rw [hcapitals, hsingular] at hkept
  exact ⟨hword, hfixed, hcapitals, hkept⟩

/-- The singular of waves in capitals has none. -/
theorem capitals_of_waves_lost :
    (∀ c ∈ "waves".toList, IsPlain c) ∧ inCapitals "waves" = "WAVES" ∧
      singularize "WAVES" [] = "wave" ∧ inCapitals (singularize "waves" []) = "WAVE" := by
  refine ⟨Text.forall_mem_of_all (by decide), ?_, ?_, ?_⟩ <;> decide +kernel

end LoaderGen.Naming
