import LoaderGen.Proofs.Text.Ascii
import LoaderGen.Naming.Singular

/-!
# Where a rule cuts a word

A rule that applies finds a stem and an ending at its place in a word: at the end, over the whole
word, or at the start. The ending is replaced, and what stands before and after it stays. The table
of rules is that of the words without a plural, then that of the irregular plurals, then that of the
endings, each of these tried in three spellings. It is for words that are neither excluded nor given
a singular outright.
-/

namespace LoaderGen.Naming

theorem foldCase_of_isLower {letter : Char} (h : letter.isLower = true) :
    foldCase letter = letter ∧ foldCase letter.toUpper = letter := by
  have hascii := Text.ascii_of_isLower h
  revert h
  exact Text.forall_ascii
    (p := fun letter => letter.isLower = true →
      foldCase letter = letter ∧ foldCase letter.toUpper = letter)
    (by decide) hascii

namespace Spelling

variable {spelling : Spelling} {letters front back : List Letter} {cs : List Char}

theorem admitsAll_append :
    spelling.admitsAll (front ++ back) cs = true ↔
      ∃ left right, cs = left ++ right ∧ spelling.admitsAll front left = true ∧
        spelling.admitsAll back right = true := by
  induction front generalizing cs with
  | nil =>
      constructor
      · intro h
        exact ⟨[], cs, rfl, rfl, h⟩
      · rintro ⟨left, right, rfl, hleft, hright⟩
        cases left with
        | nil => exact hright
        | cons c left => exact absurd hleft (by simp [admitsAll])
  | cons letter front ih =>
      constructor
      · intro h
        cases cs with
        | nil => exact absurd h (by simp [admitsAll])
        | cons c cs =>
            rw [List.cons_append, admitsAll, Bool.and_eq_true, ih] at h
            obtain ⟨hletter, left, right, rfl, hleft, hright⟩ := h
            refine ⟨c :: left, right, rfl, ?_, hright⟩
            rw [admitsAll, hletter, hleft]
            rfl
      · rintro ⟨left, right, rfl, hleft, hright⟩
        cases left with
        | nil => exact absurd hleft (by simp [admitsAll])
        | cons c left =>
            rw [admitsAll, Bool.and_eq_true] at hleft
            rw [List.cons_append, List.cons_append, admitsAll, hleft.1, Bool.true_and, ih]
            exact ⟨left, right, rfl, hleft.2, hright⟩

theorem admitsAll_only_iff {letters : List Char} {f g : Char → Char}
    (hsame : ∀ letter ∈ letters, ∀ c, spelling.same letter c = true ↔ f c = g letter) :
    spelling.admitsAll (letters.map .only) cs = true ↔ cs.map f = letters.map g := by
  induction letters generalizing cs with
  | nil => cases cs <;> simp [admitsAll]
  | cons letter letters ih =>
      cases cs with
      | nil => simp [admitsAll]
      | cons c cs =>
          rw [List.map_cons, admitsAll, Bool.and_eq_true, List.map_cons, List.map_cons,
            List.cons.injEq, ih fun other hother => hsame other (List.mem_cons_of_mem letter hother)]
          exact and_congr_left fun _ => hsame letter List.mem_cons_self c

theorem admitsAll_capitals {letters : List Char} :
    capitals.admitsAll (letters.map .only) cs = true ↔ cs = letters.map Char.toUpper := by
  rw [admitsAll_only_iff (f := id) fun letter _ c => beq_iff_eq, List.map_id]

theorem admitsAll_asWritten {letters : List Char} :
    asWritten.admitsAll (letters.map .only) cs = true ↔ cs = letters := by
  rw [admitsAll_only_iff (f := id) (g := id) fun letter _ c => beq_iff_eq, List.map_id, List.map_id]

theorem admitsAll_anyCase {letters : List Char} :
    anyCase.admitsAll (letters.map .only) cs = true ↔ cs.map foldCase = letters := by
  rw [admitsAll_only_iff (g := id) fun letter _ c => beq_iff_eq, List.map_id]

/-- In every spelling, what stands for small letters is one of their forms. -/
theorem map_foldCase_of_admitsAll {letters : List Char}
    (hlower : letters.all Char.isLower = true)
    (h : spelling.admitsAll (letters.map .only) cs = true) : cs.map foldCase = letters := by
  cases spelling with
  | capitals =>
      rw [admitsAll_capitals.1 h, List.map_map]
      exact (List.map_congr_left fun letter hletter =>
        (foldCase_of_isLower (List.all_eq_true.1 hlower letter hletter)).2).trans (List.map_id _)
  | asWritten =>
      rw [admitsAll_asWritten.1 h]
      exact (List.map_congr_left fun letter hletter =>
        (foldCase_of_isLower (List.all_eq_true.1 hlower letter hletter)).1).trans (List.map_id _)
  | anyCase => exact admitsAll_anyCase.1 h

theorem length_of_admitsAll (h : spelling.admitsAll letters cs = true) :
    cs.length = letters.length := by
  induction letters generalizing cs with
  | nil =>
      cases cs with
      | nil => rfl
      | cons c cs => exact absurd h (by simp [admitsAll])
  | cons letter letters ih =>
      cases cs with
      | nil => exact absurd h (by simp [admitsAll])
      | cons c cs =>
          rw [admitsAll, Bool.and_eq_true] at h
          rw [List.length_cons, List.length_cons, ih h.2]

theorem exists_admits_of_mem (h : spelling.admitsAll letters cs = true) {c : Char} (hc : c ∈ cs) :
    ∃ letter ∈ letters, spelling.admits letter c = true := by
  induction letters generalizing cs with
  | nil =>
      cases cs with
      | nil => cases hc
      | cons c cs => exact absurd h (by simp [admitsAll])
  | cons letter letters ih =>
      cases cs with
      | nil => cases hc
      | cons first cs =>
          rw [admitsAll, Bool.and_eq_true] at h
          rcases List.mem_cons.1 hc with rfl | hc
          · exact ⟨letter, List.mem_cons_self, h.1⟩
          · obtain ⟨other, hother, hadmits⟩ := ih h.2 hc
            exact ⟨other, List.mem_cons_of_mem letter hother, hadmits⟩

theorem exists_admitted_of_mem (h : spelling.admitsAll letters cs = true) {letter : Letter}
    (hletter : letter ∈ letters) : ∃ c ∈ cs, spelling.admits letter c = true := by
  induction letters generalizing cs with
  | nil => cases hletter
  | cons first letters ih =>
      cases cs with
      | nil => exact absurd h (by simp [admitsAll])
      | cons c cs =>
          rw [admitsAll, Bool.and_eq_true] at h
          rcases List.mem_cons.1 hletter with rfl | hletter
          · exact ⟨c, List.mem_cons_self, h.1⟩
          · obtain ⟨other, hother, hadmits⟩ := ih h.2 hletter
            exact ⟨other, List.mem_cons_of_mem c hother, hadmits⟩

end Spelling

namespace Rule

variable {rule : Rule} {word result : List Char}

/-- The parts are what the rule's place allows before a stem and after an ending, and the letters of
the stem and the ending are theirs. -/
structure Cuts (rule : Rule) (stem : List Letter) (ending : List Char)
    (before kept taken after : List Char) : Prop where
  before : rule.place ≠ .atEnd → before = []
  kept : rule.spelling.admitsAll stem kept = true
  taken : rule.spelling.admitsAll (ending.map .only) taken = true
  after : rule.place ≠ .atStart → after = []

theorem fits_iff {stem : List Letter} {ending : List Char} :
    rule.fits stem ending word = true ↔
      ∃ before kept taken after, word = before ++ (kept ++ (taken ++ after)) ∧
        rule.Cuts stem ending before kept taken after := by
  unfold fits
  cases hplace : rule.place with
  | wholeWord =>
      dsimp only
      rw [Spelling.admitsAll_append]
      constructor
      · rintro ⟨kept, taken, rfl, hkept, htaken⟩
        exact ⟨[], kept, taken, [], by simp, ⟨fun _ => rfl, hkept, htaken, fun _ => rfl⟩⟩
      · rintro ⟨before, kept, taken, after, rfl, hcuts⟩
        obtain rfl := hcuts.before (by simp [hplace])
        obtain rfl := hcuts.after (by simp [hplace])
        exact ⟨kept, taken, by simp, hcuts.kept, hcuts.taken⟩
  | atEnd =>
      -- The letters are compared with as many characters at the end, which are all that they take.
      dsimp only
      rw [Bool.and_eq_true, decide_eq_true_eq]
      constructor
      · rintro ⟨-, h⟩
        obtain ⟨kept, taken, hdrop, hkept, htaken⟩ := Spelling.admitsAll_append.1 h
        refine ⟨word.take (word.length - (stem ++ ending.map Letter.only).length), kept, taken, [], ?_,
          ⟨fun h => absurd hplace h, hkept, htaken, fun _ => rfl⟩⟩
        rw [List.append_nil, ← hdrop, List.take_append_drop]
      · rintro ⟨before, kept, taken, after, rfl, hcuts⟩
        obtain rfl := hcuts.after (by simp [hplace])
        have hletters := Spelling.admitsAll_append.2
          ⟨kept, taken, rfl, hcuts.kept, hcuts.taken⟩
        have hlength := Spelling.length_of_admitsAll hletters
        have hword : (before ++ (kept ++ taken)).length = before.length + (kept ++ taken).length :=
          List.length_append
        rw [List.append_nil, ← hlength, hword, Nat.add_sub_cancel, List.drop_left]
        exact ⟨Nat.le_add_left _ _, hletters⟩
  | atStart =>
      dsimp only
      constructor
      · intro h
        obtain ⟨kept, taken, htake, hkept, htaken⟩ := Spelling.admitsAll_append.1 h
        refine ⟨[], kept, taken, word.drop (stem ++ ending.map Letter.only).length, ?_,
          ⟨fun _ => rfl, hkept, htaken, fun h => absurd hplace h⟩⟩
        rw [List.nil_append, ← List.append_assoc, ← htake, List.take_append_drop]
      · rintro ⟨before, kept, taken, after, rfl, hcuts⟩
        obtain rfl := hcuts.before (by simp [hplace])
        have hletters := Spelling.admitsAll_append.2
          ⟨kept, taken, rfl, hcuts.kept, hcuts.taken⟩
        have hlength := Spelling.length_of_admitsAll hletters
        rw [List.nil_append, ← List.append_assoc, ← hlength, List.take_left]
        exact hletters

theorem Cuts.replace_eq {stem : List Letter} {ending before kept taken after : List Char}
    (h : rule.Cuts stem ending before kept taken after) :
    rule.replace stem.length ending.length (before ++ (kept ++ (taken ++ after))) =
      before ++ (kept ++ (rule.spelling.write rule.put ++ after)) := by
  have hkept := Spelling.length_of_admitsAll h.kept
  have htaken := Spelling.length_of_admitsAll h.taken
  rw [List.length_map] at htaken
  unfold replace
  split
  · next hplace =>
    obtain rfl := h.before (by simp [hplace])
    rw [← hkept, ← htaken, ← List.length_append, List.nil_append, List.take_left,
      ← List.append_assoc kept taken after, List.drop_left, List.append_assoc, List.nil_append]
  · next hplace =>
    obtain rfl := h.after hplace
    have hlength : (before ++ (kept ++ taken)).length - ending.length =
        (before ++ kept).length := by
      simp only [List.length_append]
      omega
    rw [List.append_nil, List.append_nil, hlength, ← List.append_assoc, List.take_left,
      List.append_assoc]

/-- A rule that applies replaces the ending of a cut, and nothing else. -/
theorem exists_cuts_of_singular? (h : rule.singular? word = some result) :
    ∃ stem ∈ rule.stems, ∃ ending ∈ rule.endings, ∃ before kept taken after,
      rule.Cuts stem ending before kept taken after ∧
        word = before ++ (kept ++ (taken ++ after)) ∧
        result = before ++ (kept ++ (rule.spelling.write rule.put ++ after)) := by
  obtain ⟨stem, hstem, h⟩ := List.exists_of_findSome?_eq_some h
  obtain ⟨ending, hfound, rfl⟩ := Option.map_eq_some_iff.1 h
  have hfits : rule.fits stem ending word = true := by simpa using List.find?_some hfound
  obtain ⟨before, kept, taken, after, rfl, hcuts⟩ := fits_iff.1 hfits
  exact ⟨stem, hstem, ending, List.mem_of_find?_eq_some hfound, before, kept, taken, after, hcuts,
    rfl, hcuts.replace_eq⟩

theorem isSome_singular? :
    (rule.singular? word).isSome = true ↔
      ∃ stem ∈ rule.stems, ∃ ending ∈ rule.endings, rule.fits stem ending word = true := by
  simp only [singular?, List.findSome?_isSome_iff, Option.isSome_map, List.find?_isSome]

theorem isSome_singular?_atEnd (hplace : rule.place = .atEnd) :
    (rule.singular? word).isSome = true ↔
      ∃ stem ∈ rule.stems, ∃ ending ∈ rule.endings, ∃ tail, tail <:+ word ∧
        rule.spelling.admitsAll (stem ++ ending.map .only) tail = true := by
  rw [isSome_singular?]
  refine exists_congr fun stem => and_congr_right fun _ =>
    exists_congr fun ending => and_congr_right fun _ => ?_
  rw [fits_iff]
  constructor
  · rintro ⟨before, kept, taken, after, rfl, hcuts⟩
    obtain rfl := hcuts.after (by simp [hplace])
    exact ⟨kept ++ taken, ⟨before, by simp⟩,
      Spelling.admitsAll_append.2 ⟨kept, taken, rfl, hcuts.kept, hcuts.taken⟩⟩
  · rintro ⟨tail, ⟨before, rfl⟩, htail⟩
    obtain ⟨kept, taken, rfl, hkept, htaken⟩ := Spelling.admitsAll_append.1 htail
    exact ⟨before, kept, taken, [], by simp,
      ⟨fun h => absurd hplace h, hkept, htaken, fun _ => rfl⟩⟩

end Rule

/-- A rule in the three spellings in which it is tried. -/
def inSpellings (make : Spelling → Rule) : List Rule :=
  [make .capitals, make .asWritten, make .anyCase]

def title (s : String) : String := String.ofList (Text.capitalize s.toList)

def uncountableRule (word : String) : Rule :=
  ⟨.wholeWord, [word.toList.map .only], [[]], [], .anyCase⟩

def irregularRules (entry : String × String) : List Rule :=
  [⟨.atEnd, [[]], [entry.2.toList], entry.1.toList, .capitals⟩,
    ⟨.atEnd, [[]], [(title entry.2).toList], (title entry.1).toList, .asWritten⟩,
    ⟨.atEnd, [[]], [entry.2.toList], entry.1.toList, .asWritten⟩]

theorem rules_eq :
    rules = uncountable.map uncountableRule ++
      (irregular.flatMap irregularRules ++ endingRules.flatMap inSpellings) :=
  List.append_assoc _ _ _

section Exclusions

variable {word : String} {exclusions : List String}

theorem singularize_of_excluded
    (h : ¬ ∀ exclusion ∈ exclusions, Text.eqIgnoringAsciiCase exclusion word = false) :
    singularize word exclusions = word := by
  have hany : exclusions.any (Text.eqIgnoringAsciiCase · word) = true := by
    simpa [List.any_eq_true] using h
  rw [singularize, if_pos hany]

theorem singularize_of_included
    (h : ∀ exclusion ∈ exclusions, Text.eqIgnoringAsciiCase exclusion word = false) :
    singularize word exclusions =
      (fixed.lookup (String.ofList (Text.lower word.toList))).getD
        (String.ofList (singularByRule word.toList)) := by
  have hany : ¬ exclusions.any (Text.eqIgnoringAsciiCase · word) = true := by
    simpa [List.any_eq_true] using h
  rw [singularize, if_neg hany]
  cases fixed.lookup (String.ofList (Text.lower word.toList)) <;> rfl

end Exclusions

end LoaderGen.Naming
