import LoaderGen.Proofs.Naming.Cuts
import Mathlib.Tactic.ByContra
import Mathlib.Tactic.SplitIfs
import Mathlib.Tactic.Tauto

/-!
# Singular forms and the words before the last

A table name is several words joined by underscores, and its singular should be that of the last
one. The rules see to it by looking at the end of the name, and no ending has an underscore. One
rule looks at the start instead: it makes `ox` of `oxen`, whatever follows. Where no rule tried
before it applies, it changes the first word of a name of several, and leaves the last as it is.
-/

namespace LoaderGen.Naming

/-- The rule for `oxen`, the only one that looks at the start of a word. -/
def oxenRule (spelling : Spelling) : Rule :=
  ⟨.atStart, ["ox".toList.map .only], ["en".toList], [], spelling⟩

/-- The rules that are tried before the one for `oxen`. -/
def earlyRules : List Rule :=
  uncountable.map uncountableRule ++
    (irregular.flatMap irregularRules ++ (endingRules.take 3).flatMap inSpellings)

def lateRules : List Rule := (endingRules.drop 4).flatMap inSpellings

theorem rules_eq_oxen : rules = earlyRules ++ (inSpellings oxenRule ++ lateRules) := by
  have hendings : endingRules = endingRules.take 3 ++ oxenRule :: endingRules.drop 4 := rfl
  rw [rules_eq, hendings, List.flatMap_append, List.flatMap_cons]
  simp only [earlyRules, lateRules, List.append_assoc]

private theorem place_early : (earlyRules.all fun rule => rule.place ≠ .atStart) = true := by
  decide

private theorem place_late : (lateRules.all fun rule => rule.place ≠ .atStart) = true := by
  decide

private theorem endings_apart : (rules.all fun rule => rule.endings.all fun ending =>
    ending.all fun letter => !rule.spelling.same letter '_') = true := by
  decide

section Kept

variable {rule : Rule} {front last result : List Char}

theorem not_mem_taken {stem : List Letter} {ending before kept taken after : List Char}
    (hrule : rule ∈ rules) (hending : ending ∈ rule.endings)
    (hcuts : rule.Cuts stem ending before kept taken after) : '_' ∉ taken := by
  intro hmem
  obtain ⟨letter, hletter, hadmits⟩ := Spelling.exists_admits_of_mem hcuts.taken hmem
  obtain ⟨c, hc, rfl⟩ := List.mem_map.1 hletter
  have happart := List.all_eq_true.1
    (List.all_eq_true.1 (List.all_eq_true.1 endings_apart rule hrule) ending hending) c hc
  have hsame : rule.spelling.same c '_' = true := hadmits
  rw [hsame] at happart
  cases happart

/-- What a text without a character ends in comes after the last place of that character. -/
theorem exists_of_append_eq {c : Char} {left right front last : List Char}
    (h : left ++ right = front ++ c :: last) (hright : c ∉ right) :
    ∃ middle, left = front ++ c :: middle := by
  rcases List.append_eq_append_iff.1 h with ⟨mid, -, rfl⟩ | ⟨mid, rfl, hmid⟩
  · exact absurd (List.mem_append_right mid List.mem_cons_self) hright
  · cases mid with
    | nil =>
        rw [List.nil_append] at hmid
        exact absurd (hmid ▸ List.mem_cons_self) hright
    | cons first mid =>
        rw [List.cons_append, List.cons.injEq] at hmid
        exact ⟨mid, by rw [hmid.1]⟩

/-- A rule that looks at the end keeps what stands before an underscore. -/
theorem exists_of_singular? (hrule : rule ∈ rules) (hplace : rule.place ≠ .atStart)
    (h : rule.singular? (front ++ '_' :: last) = some result) :
    ∃ changed, result = front ++ '_' :: changed := by
  obtain ⟨stem, -, ending, hending, before, kept, taken, after, hcuts, hword, rfl⟩ :=
    Rule.exists_cuts_of_singular? h
  obtain rfl := hcuts.after hplace
  rw [List.append_nil, ← List.append_assoc] at hword
  obtain ⟨middle, hmiddle⟩ :=
    exists_of_append_eq hword.symm (not_mem_taken hrule hending hcuts)
  exact ⟨middle ++ rule.spelling.write rule.put, by
    rw [List.append_nil, ← List.append_assoc, hmiddle, List.append_assoc, List.cons_append]⟩

theorem exists_of_findSome? {tried : List Rule} (htried : ∀ rule ∈ tried, rule ∈ rules)
    (hplace : (tried.all fun rule => rule.place ≠ .atStart) = true)
    (h : tried.findSome? (·.singular? (front ++ '_' :: last)) = some result) :
    ∃ changed, result = front ++ '_' :: changed := by
  obtain ⟨rule, hrule, hsingular⟩ := List.exists_of_findSome?_eq_some h
  have hend := List.all_eq_true.1 hplace rule hrule
  exact exists_of_singular? (htried rule hrule) (by simpa using hend) hsingular

end Kept

section Oxen

variable {word : List Char}

def StartsWithOxen (word : List Char) : Prop := (word.take 4).map foldCase = "oxen".toList

instance (word : List Char) : Decidable (StartsWithOxen word) :=
  inferInstanceAs (Decidable ((word.take 4).map foldCase = "oxen".toList))

theorem singular?_oxenRule (spelling : Spelling) :
    (oxenRule spelling).singular? word =
      if spelling.admitsAll ("oxen".toList.map .only) (word.take 4)
      then some (word.take 2 ++ word.drop 4) else none := by
  have hfits : (oxenRule spelling).fits ("ox".toList.map .only) "en".toList word =
      spelling.admitsAll ("oxen".toList.map .only) (word.take 4) := rfl
  have hreplace : (oxenRule spelling).replace 2 2 word = word.take 2 ++ word.drop 4 := by
    cases spelling <;> simp [Rule.replace, oxenRule, Spelling.write]
  simp only [Rule.singular?, oxenRule, List.findSome?_singleton, List.find?_singleton] at *
  rw [hfits]
  split
  · exact congrArg some hreplace
  · rfl

theorem findSome?_oxen :
    (inSpellings oxenRule).findSome? (·.singular? word) =
      if StartsWithOxen word then some (word.take 2 ++ word.drop 4) else none := by
  simp only [inSpellings, List.findSome?_cons, List.findSome?_nil, singular?_oxenRule]
  by_cases h : StartsWithOxen word
  · -- All three spellings take out the same letters, and the last one admits any case.
    rw [if_pos h, if_pos (Spelling.admitsAll_anyCase.2 h)]
    split_ifs <;> rfl
  · have hnone : ∀ spelling : Spelling,
        ¬ spelling.admitsAll ("oxen".toList.map .only) (word.take 4) = true :=
      fun spelling hadmits => h (Spelling.map_foldCase_of_admitsAll (by decide) hadmits)
    simp only [if_neg (hnone _), if_neg h]

end Oxen

section Early

variable {word : List Char}

/-- The word ends in a plural that is looked for before `oxen` is: an irregular one, in capitals,
with a capital, or in small letters, or one of four others in any case. -/
def EndsInEarlyPlural (word : List Char) : Prop :=
  (∃ entry ∈ irregular, ∃ plural ∈
      [entry.2.toList.map Char.toUpper, (title entry.2).toList, entry.2.toList], plural <:+ word) ∨
  ∃ plural ∈ ["quizzes", "matrices", "vertices", "indices"], ∃ tail, tail <:+ word ∧
    tail.map foldCase = plural.toList

def literalRule (stems : List String) (ending put : String) (spelling : Spelling) : Rule :=
  ⟨.atEnd, stems.map (·.toList.map .only), [ending.toList], put.toList, spelling⟩

theorem take_endingRules : endingRules.take 3 =
    [literalRule ["quiz"] "zes" "", literalRule ["matr"] "ices" "ix",
      literalRule ["vert", "ind"] "ices" "ex"] :=
  rfl

theorem isSome_literalRule {stems : List String} {ending put : String}
    (hstems : (stems.all fun stem => stem.toList.all Char.isLower) = true)
    (hending : ending.toList.all Char.isLower = true) :
    (∃ rule ∈ inSpellings (literalRule stems ending put), (rule.singular? word).isSome = true) ↔
      ∃ stem ∈ stems, ∃ tail, tail <:+ word ∧
        tail.map foldCase = stem.toList ++ ending.toList := by
  have hrule : ∀ spelling, ((literalRule stems ending put spelling).singular? word).isSome = true ↔
      ∃ stem ∈ stems, ∃ tail, tail <:+ word ∧
        spelling.admitsAll ((stem.toList ++ ending.toList).map .only) tail = true := by
    intro spelling
    rw [Rule.isSome_singular?_atEnd rfl]
    simp only [literalRule, List.mem_map, exists_exists_and_eq_and, List.mem_singleton,
      exists_eq_left, List.map_append]
  constructor
  · rintro ⟨rule, hmem, hsome⟩
    obtain ⟨spelling, rfl⟩ : ∃ spelling, rule = literalRule stems ending put spelling := by
      simp only [inSpellings, List.mem_cons, List.not_mem_nil, or_false] at hmem
      rcases hmem with rfl | rfl | rfl <;> exact ⟨_, rfl⟩
    obtain ⟨stem, hstem, tail, htail, hadmits⟩ := (hrule spelling).1 hsome
    refine ⟨stem, hstem, tail, htail, Spelling.map_foldCase_of_admitsAll ?_ hadmits⟩
    rw [List.all_append, List.all_eq_true.1 hstems stem hstem, hending]
    rfl
  · rintro ⟨stem, hstem, tail, htail, hfold⟩
    refine ⟨literalRule stems ending put .anyCase, by simp [inSpellings], (hrule .anyCase).2 ?_⟩
    exact ⟨stem, hstem, tail, htail, Spelling.admitsAll_anyCase.2 hfold⟩

theorem isSome_irregularRules {entry : String × String} :
    (∃ rule ∈ irregularRules entry, (rule.singular? word).isSome = true) ↔
      ∃ plural ∈ [entry.2.toList.map Char.toUpper, (title entry.2).toList, entry.2.toList],
        plural <:+ word := by
  have hrule : ∀ spelling plural singular,
      ((⟨.atEnd, [[]], [plural], singular, spelling⟩ : Rule).singular? word).isSome = true ↔
        ∃ tail, tail <:+ word ∧ spelling.admitsAll (plural.map .only) tail = true := by
    intro spelling plural singular
    rw [Rule.isSome_singular?_atEnd rfl]
    simp only [List.mem_singleton, exists_eq_left, List.nil_append]
  simp only [irregularRules, List.mem_cons, List.not_mem_nil, or_false, exists_eq_or_imp,
    exists_eq_left, hrule, Spelling.admitsAll_capitals, Spelling.admitsAll_asWritten,
    exists_eq_right]

private theorem uncountable_apart : (uncountable.all fun word =>
    word.toList.all fun letter => !Spelling.anyCase.same letter '_') = true := by
  decide

theorem isSome_uncountableRule {uncounted : String} (hmem : uncounted ∈ uncountable)
    (hword : '_' ∈ word) : ¬ ((uncountableRule uncounted).singular? word).isSome = true := by
  rw [Rule.isSome_singular?]
  rintro ⟨stem, hstem, ending, hending, hfits⟩
  obtain rfl := List.mem_singleton.1 hstem
  obtain rfl := List.mem_singleton.1 hending
  obtain ⟨letter, hletter, hadmits⟩ := Spelling.exists_admits_of_mem hfits hword
  rw [List.map_nil, List.append_nil] at hletter
  obtain ⟨c, hc, rfl⟩ := List.mem_map.1 hletter
  have happart := List.all_eq_true.1 (List.all_eq_true.1 uncountable_apart uncounted hmem) c hc
  have hsame : Spelling.anyCase.same c '_' = true := hadmits
  rw [hsame] at happart
  cases happart

theorem isSome_early (hword : '_' ∈ word) :
    (earlyRules.findSome? (·.singular? word)).isSome = true ↔ EndsInEarlyPlural word := by
  have huncountable :
      ¬ ∃ rule ∈ uncountable.map uncountableRule, (rule.singular? word).isSome = true := by
    rintro ⟨rule, hrule, hsome⟩
    obtain ⟨uncounted, hmem, rfl⟩ := List.mem_map.1 hrule
    exact isSome_uncountableRule hmem hword hsome
  have hirregular :
      (∃ rule ∈ irregular.flatMap irregularRules, (rule.singular? word).isSome = true) ↔
        ∃ entry ∈ irregular, ∃ plural ∈
          [entry.2.toList.map Char.toUpper, (title entry.2).toList, entry.2.toList],
          plural <:+ word := by
    simp only [List.mem_flatMap, ← isSome_irregularRules]
    tauto
  have hothers : (∃ rule ∈ (endingRules.take 3).flatMap inSpellings,
        (rule.singular? word).isSome = true) ↔
      ∃ plural ∈ ["quizzes", "matrices", "vertices", "indices"], ∃ tail, tail <:+ word ∧
        tail.map foldCase = plural.toList := by
    rw [take_endingRules]
    simp only [List.flatMap_cons, List.flatMap_nil, List.append_nil, List.mem_append, or_and_right,
      exists_or]
    rw [isSome_literalRule (by decide) (by decide), isSome_literalRule (by decide) (by decide),
      isSome_literalRule (by decide) (by decide)]
    simp only [List.mem_cons, List.not_mem_nil, or_false, exists_eq_or_imp, exists_eq_left]
    exact Iff.rfl
  rw [List.findSome?_isSome_iff, earlyRules]
  simp only [List.mem_append, or_and_right, exists_or]
  rw [hirregular, hothers, or_iff_right huncountable]
  rfl

end Early

section Table

variable {word front last : List Char}

theorem singularByRule_of_oxen (hword : '_' ∈ word) (hstart : StartsWithOxen word)
    (hearly : ¬ EndsInEarlyPlural word) : singularByRule word = word.take 2 ++ word.drop 4 := by
  rw [← isSome_early hword, Option.not_isSome_iff_eq_none] at hearly
  rw [singularByRule, rules_eq_oxen, List.findSome?_append, List.findSome?_append, hearly,
    Option.none_or, findSome?_oxen, if_pos hstart, Option.some_or, Option.getD_some]

theorem exists_singularByRule
    (h : ¬ StartsWithOxen (front ++ '_' :: last) ∨ EndsInEarlyPlural (front ++ '_' :: last)) :
    ∃ changed, singularByRule (front ++ '_' :: last) = front ++ '_' :: changed := by
  have hmem : '_' ∈ front ++ '_' :: last := List.mem_append_right front List.mem_cons_self
  have hearlyRules : ∀ rule ∈ earlyRules, rule ∈ rules := fun rule hrule =>
    rules_eq_oxen ▸ List.mem_append_left _ hrule
  have hlateRules : ∀ rule ∈ lateRules, rule ∈ rules := fun rule hrule =>
    rules_eq_oxen ▸ List.mem_append_right _ (List.mem_append_right _ hrule)
  rw [singularByRule, rules_eq_oxen, List.findSome?_append, List.findSome?_append]
  cases hearly : earlyRules.findSome? (·.singular? (front ++ '_' :: last)) with
  | some result =>
      rw [Option.some_or, Option.getD_some]
      exact exists_of_findSome? hearlyRules place_early hearly
  | none =>
      have hends : ¬ EndsInEarlyPlural (front ++ '_' :: last) := by
        rw [← isSome_early hmem, hearly]
        exact Bool.false_ne_true
      rw [Option.none_or, findSome?_oxen, if_neg (h.resolve_right hends), Option.none_or]
      cases hlate : lateRules.findSome? (·.singular? (front ++ '_' :: last)) with
      | some result =>
          rw [Option.getD_some]
          exact exists_of_findSome? hlateRules place_late hlate
      | none => exact ⟨last, rfl⟩

theorem four_le_length (hstart : StartsWithOxen (front ++ '_' :: last)) : 4 ≤ front.length := by
  by_contra hshort
  have hmem : '_' ∈ (front ++ '_' :: last).take 4 := by
    obtain ⟨count, hcount⟩ : ∃ count, 4 - front.length = count + 1 :=
      ⟨4 - front.length - 1, by omega⟩
    rw [List.take_append, hcount, List.take_succ_cons]
    exact List.mem_append_right _ List.mem_cons_self
  have hfold := List.mem_map_of_mem (f := foldCase) hmem
  rw [hstart] at hfold
  exact absurd hfold (by decide)

/-- Without its third and fourth letter, a name that starts with `oxen` has its last underscore
elsewhere, so that it does not start with the same words. -/
theorem take_append_drop_ne (hstart : StartsWithOxen (front ++ '_' :: last)) (hlast : '_' ∉ last)
    (changed : List Char) :
    (front ++ '_' :: last).take 2 ++ (front ++ '_' :: last).drop 4 ≠ front ++ '_' :: changed := by
  have hlength := four_le_length hstart
  -- The first word is long enough for both to be written out, so that the two texts can be compared
  -- from what follows their first two letters.
  match front, hlength with
  | first :: second :: third :: fourth :: rest, _ =>
      intro h
      simp only [List.cons_append, List.take_succ_cons, List.take_zero, List.drop_succ_cons,
        List.drop_zero, List.nil_append, List.cons.injEq, true_and] at h
      have hmoved : rest ++ '_' :: last = (third :: fourth :: rest) ++ '_' :: changed := h
      rcases List.append_eq_append_iff.1 hmoved with ⟨gap, hgap, htail⟩ | ⟨gap, hgap, -⟩
      · have htwo := congrArg List.length hgap
        simp only [List.length_cons, List.length_append] at htwo
        cases gap with
        | nil =>
            rw [List.length_nil] at htwo
            omega
        | cons c gap =>
            rw [List.cons_append, List.cons.injEq] at htail
            exact hlast (htail.2 ▸ List.mem_append_right gap List.mem_cons_self)
      · have htwo := congrArg List.length hgap
        simp only [List.length_cons, List.length_append] at htwo
        omega

end Table

/-- No word with a singular of its own has an underscore. -/
theorem lookup_fixed_eq_none {word : List Char} (hword : '_' ∈ word) :
    fixed.lookup (String.ofList (Text.lower word)) = none := by
  rw [List.lookup_eq_none_iff]
  intro entry hentry
  have hapart : (fixed.all fun entry => !entry.1.toList.contains '_') = true := by decide
  have hfree := List.all_eq_true.1 hapart entry hentry
  have hlower := Text.mem_lower (c := '_') (by decide) (by decide) hword
  rw [bne_iff_ne]
  intro heq
  rw [← heq, String.toList_ofList] at hfree
  simp [hlower] at hfree

/-- The rule for `oxen` is the first to apply to a word that is not excluded. -/
structure MeetsOxenRule (exclusions : List String) (word : String) : Prop where
  included : ∀ exclusion ∈ exclusions, Text.eqIgnoringAsciiCase exclusion word = false
  start : StartsWithOxen word.toList
  noEarly : ¬ EndsInEarlyPlural word.toList

theorem singularize_of_words {exclusions : List String} {word : String}
    (hincluded : ∀ exclusion ∈ exclusions, Text.eqIgnoringAsciiCase exclusion word = false)
    (hword : '_' ∈ word.toList) :
    singularize word exclusions = String.ofList (singularByRule word.toList) := by
  rw [singularize_of_included hincluded, lookup_fixed_eq_none hword, Option.getD_none]

/-- The words before the last are kept, unless the rule for `oxen` is the first to apply. That one
takes out the third and the fourth letter, wherever the first word ends, and leaves the last word as
it is. -/
theorem earlier_words_kept {word front last : String} (exclusions : List String)
    (hword : word = front ++ "_" ++ last) (hlast : '_' ∉ last.toList) :
    ((∃ changed, singularize word exclusions = front ++ "_" ++ changed) ↔
      ¬ MeetsOxenRule exclusions word) ∧
    (MeetsOxenRule exclusions word →
      singularize word exclusions =
        String.ofList (word.toList.take 2 ++ word.toList.drop 4)) := by
  have hletters : ∀ other : String,
      (front ++ "_" ++ other).toList = front.toList ++ '_' :: other.toList := by
    intro other
    rw [String.toList_append, String.toList_append, List.append_assoc]
    rfl
  have hcut : word.toList = front.toList ++ '_' :: last.toList := by rw [hword, hletters]
  have hmem : '_' ∈ word.toList := hcut ▸ List.mem_append_right _ List.mem_cons_self
  have hoxen : MeetsOxenRule exclusions word → singularize word exclusions =
      String.ofList (word.toList.take 2 ++ word.toList.drop 4) := by
    intro h
    rw [singularize_of_words h.included hmem, singularByRule_of_oxen hmem h.start h.noEarly]
  refine ⟨⟨?_, fun h => ?_⟩, hoxen⟩
  · rintro ⟨changed, hchanged⟩ h
    rw [hoxen h, ← String.toList_inj, String.toList_ofList, hletters, hcut] at hchanged
    exact take_append_drop_ne (hcut ▸ h.start) hlast _ hchanged
  · by_cases hincluded :
        ∀ exclusion ∈ exclusions, Text.eqIgnoringAsciiCase exclusion word = false
    · have hrules : ¬ StartsWithOxen (front.toList ++ '_' :: last.toList) ∨
          EndsInEarlyPlural (front.toList ++ '_' :: last.toList) := by
        rw [← hcut]
        by_contra hneither
        rw [not_or, not_not] at hneither
        exact h ⟨hincluded, hneither.1, hneither.2⟩
      obtain ⟨changed, hchanged⟩ := exists_singularByRule hrules
      refine ⟨String.ofList changed, ?_⟩
      rw [singularize_of_words hincluded hmem, hcut, hchanged, ← String.toList_inj,
        String.toList_ofList, hletters, String.toList_ofList]
    · exact ⟨last, by rw [singularize_of_excluded hincluded, hword]⟩

theorem first_word_of_categories_kept :
    "book_categories" = "book" ++ "_" ++ "categories" ∧ '_' ∉ "categories".toList ∧
      ¬ MeetsOxenRule [] "book_categories" ∧
      ∃ changed, singularize "book_categories" [] = "book" ++ "_" ++ changed := by
  have hlast : '_' ∉ "categories".toList := by decide
  have hrule : ¬ MeetsOxenRule [] "book_categories" := fun h => absurd h.start (by decide)
  exact ⟨by decide, hlast, hrule, (earlier_words_kept [] (by decide) hlast).1.2 hrule⟩

/-- The carts of oxen stay as they are, and their oxen become one. -/
theorem first_word_of_carts_changed :
    "oxen_carts" = "oxen" ++ "_" ++ "carts" ∧ '_' ∉ "carts".toList ∧
      singularize "oxen_carts" [] = "ox_carts" ∧
      ¬ ∃ changed, singularize "oxen_carts" [] = "oxen" ++ "_" ++ changed := by
  have hresult : singularize "oxen_carts" [] = "ox_carts" := by decide +kernel
  refine ⟨by decide, by decide, hresult, ?_⟩
  rintro ⟨changed, hchanged⟩
  rw [hresult] at hchanged
  have hstart : "oxen".toList <+: "ox_carts".toList :=
    ⟨("_" ++ changed).toList, by
      rw [hchanged, String.append_assoc, ← String.toList_append]⟩
  exact absurd hstart (by decide)

end LoaderGen.Naming
