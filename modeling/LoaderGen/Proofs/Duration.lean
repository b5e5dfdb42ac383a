import LoaderGen.Duration
import LoaderGen.Proofs.Outcome
import LoaderGen.Proofs.Text.Ascii
import LoaderGen.Text.Split
import Mathlib.Data.List.TakeWhile

/-!
# Which texts are durations

A duration is spelled as a number with a unit right behind it, any number of times, or as a bare
zero. No name of a unit has a digit or a point, so a text can be spelled in one way only: its
numbers reach as far as there are digits and points, and its units as far as there are none. Reading
cuts the text there, and takes every cut that is a number and a unit.
-/

namespace LoaderGen

namespace Duration

variable {cs number name rest : List Char} {digits places : Nat} {unit : TimeUnit}
  {parts : List Component} {input : String}

/-- A text of digits, one at least, with one point anywhere between them or none: the number that
the digits make, and how many of them stand behind the point. -/
inductive SpellsNumber : List Char → Nat → Nat → Prop where
  | whole {digits : List Char} (hne : digits ≠ []) (hdigits : ∀ c ∈ digits, c.isDigit = true) :
      SpellsNumber digits (digitsValue digits) 0
  | pointed {before after : List Char} (hne : before ++ after ≠ [])
      (hdigits : ∀ c ∈ before ++ after, c.isDigit = true) :
      SpellsNumber (before ++ '.' :: after) (digitsValue (before ++ after)) after.length

/-- The names of the units. A microsecond has an ordinary letter in front, the micro sign or the
Greek letter. -/
inductive SpellsUnit : List Char → TimeUnit → Prop where
  | nanosecond : SpellsUnit ['n', 's'] .nanosecond
  | letter : SpellsUnit ['u', 's'] .microsecond
  | microSign : SpellsUnit ['\u00b5', 's'] .microsecond
  | greekLetter : SpellsUnit ['\u03bc', 's'] .microsecond
  | millisecond : SpellsUnit ['m', 's'] .millisecond
  | second : SpellsUnit ['s'] .second
  | minute : SpellsUnit ['m'] .minute
  | hour : SpellsUnit ['h'] .hour
  | day : SpellsUnit ['d'] .day

/-- A text of numbers, each with a name of a unit right behind it, and of nothing else. -/
inductive Spells : List Char → List Component → Prop where
  | nil : Spells [] []
  | cons {number name rest : List Char} {digits places : Nat} {unit : TimeUnit}
      {parts : List Component} (hnumber : SpellsNumber number digits places)
      (hunit : SpellsUnit name unit) (hrest : Spells rest parts) :
      Spells (number ++ name ++ rest) (⟨digits, places, unit⟩ :: parts)

/-! ### Numbers -/

theorem point_not_mem (h : ∀ c ∈ number, c.isDigit = true) : '.' ∉ number := by
  intro hmem
  exact absurd (h '.' hmem) (by decide)

theorem SpellsNumber.ne_nil (h : SpellsNumber number digits places) : number ≠ [] := by
  cases h with
  | whole hne _ => exact hne
  | pointed _ _ => simp

theorem SpellsNumber.isNumeral (h : SpellsNumber number digits places) :
    ∀ c ∈ number, isNumeral c = true := by
  intro c hc
  rw [Duration.isNumeral, Bool.or_eq_true, beq_iff_eq]
  cases h with
  | whole _ hdigits => exact .inl (hdigits c hc)
  | @pointed before after _ hdigits =>
      rcases List.mem_append.1 hc with hbefore | hafter
      · exact .inl (hdigits c (List.mem_append_left after hbefore))
      · rcases List.mem_cons.1 hafter with hpoint | hafter
        · exact .inr hpoint
        · exact .inl (hdigits c (List.mem_append_right before hafter))

theorem readNumber_whole (hne : number ≠ []) (hdigits : ∀ c ∈ number, c.isDigit = true) :
    readNumber number = .ok (digitsValue number, 0) := by
  have hpoint : '.' ∉ number := point_not_mem hdigits
  have hsingle : number ≠ ['.'] := by
    intro heq
    exact hpoint (heq ▸ List.mem_singleton_self '.')
  have hdrop : number.dropWhile (· != '.') = [] :=
    List.dropWhile_eq_nil_iff.2 (Text.forall_mem_ne hpoint)
  rw [readNumber, if_neg (not_or.2 ⟨hne, hsingle⟩), List.count_eq_zero.2 hpoint,
    if_neg (by decide), hdrop, List.filter_eq_self.2 hdigits]
  rfl

theorem readNumber_pointed {before after : List Char} (hne : before ++ after ≠ [])
    (hdigits : ∀ c ∈ before ++ after, c.isDigit = true) :
    readNumber (before ++ '.' :: after) = .ok (digitsValue (before ++ after), after.length) := by
  obtain ⟨hbefore, hafter⟩ := List.forall_mem_append.1 hdigits
  have hempty : before ++ '.' :: after ≠ [] := by simp
  have hsingle : before ++ '.' :: after ≠ ['.'] := by
    intro heq
    have hlength := congrArg List.length heq
    rw [List.length_append, List.length_cons, List.length_singleton] at hlength
    apply hne
    rw [← List.length_eq_zero_iff, List.length_append]
    omega
  have hcount : (before ++ '.' :: after).count '.' = 1 := by
    rw [List.count_append, List.count_cons_self, List.count_eq_zero.2 (point_not_mem hbefore),
      List.count_eq_zero.2 (point_not_mem hafter)]
  have hfilter : (before ++ '.' :: after).filter Char.isDigit = before ++ after := by
    rw [List.filter_append, List.filter_cons_of_neg (by decide), List.filter_eq_self.2 hbefore,
      List.filter_eq_self.2 hafter]
  have hdrop : (before ++ '.' :: after).dropWhile (· != '.') = '.' :: after :=
    (Text.takeWhile_append_of_head (Text.forall_mem_ne (point_not_mem hbefore)) (by simp)).2
  rw [readNumber, if_neg (not_or.2 ⟨hempty, hsingle⟩), hcount, if_neg (by decide), hdrop, hfilter]
  rfl

theorem SpellsNumber.readNumber_eq (h : SpellsNumber number digits places) :
    readNumber number = .ok (digits, places) := by
  cases h with
  | whole hne hdigits => exact readNumber_whole hne hdigits
  | pointed hne hdigits => exact readNumber_pointed hne hdigits

/-- Digits and points that are neither none, nor a point alone, nor have two points spell a
number. -/
theorem exists_spellsNumber (hnumerals : ∀ c ∈ number, isNumeral c = true) (hne : number ≠ [])
    (hsingle : number ≠ ['.']) (hcount : number.count '.' ≤ 1) :
    ∃ digits places, SpellsNumber number digits places := by
  have hdigit : ∀ c ∈ number, c ≠ '.' → c.isDigit = true := by
    intro c hc hpoint
    simpa [isNumeral, hpoint] using hnumerals c hc
  by_cases hpoint : '.' ∈ number
  · obtain ⟨before, after, rfl⟩ := List.append_of_mem hpoint
    have hother : '.' ∉ before ++ after := by
      rw [List.count_append, List.count_cons_self] at hcount
      rw [← List.count_eq_zero, List.count_append]
      omega
    have hsome : before ++ after ≠ [] := by
      intro hnone
      obtain ⟨rfl, rfl⟩ := List.append_eq_nil_iff.1 hnone
      exact hsingle rfl
    refine ⟨_, _, .pointed hsome ?_⟩
    intro c hc
    apply hdigit c
    · rcases List.mem_append.1 hc with hbefore | hafter
      · exact List.mem_append_left _ hbefore
      · exact List.mem_append_right _ (List.mem_cons_of_mem '.' hafter)
    · intro heq
      exact hother (heq ▸ hc)
  · refine ⟨_, _, .whole hne ?_⟩
    intro c hc
    apply hdigit c hc
    intro heq
    exact hpoint (heq ▸ hc)

theorem readNumber_eq_ok (hnumerals : ∀ c ∈ number, isNumeral c = true) :
    readNumber number = .ok (digits, places) ↔ SpellsNumber number digits places := by
  constructor
  · intro h
    have hspells : ∃ digits places, SpellsNumber number digits places := by
      unfold readNumber at h
      dsimp only at h
      split at h
      · cases h
      · next hsome =>
        obtain ⟨hne, hsingle⟩ := not_or.1 hsome
        split at h
        · cases h
        · next hcount => exact exists_spellsNumber hnumerals hne hsingle (Nat.not_lt.1 hcount)
    obtain ⟨value, fraction, hspells⟩ := hspells
    obtain ⟨rfl, rfl⟩ := Prod.mk.inj (Except.ok.inj (hspells.readNumber_eq.symm.trans h))
    exact hspells
  · exact SpellsNumber.readNumber_eq

/-! ### Units -/

theorem spellsUnit_of_mem : ∀ entry ∈ TimeUnit.spellings, SpellsUnit entry.1 entry.2 := by
  simp only [TimeUnit.spellings, List.forall_mem_cons]
  exact ⟨.nanosecond, .letter, .microSign, .greekLetter, .millisecond, .second, .minute, .hour,
    .day, List.forall_mem_nil _⟩

theorem SpellsUnit.ofName?_eq (h : SpellsUnit name unit) : TimeUnit.ofName? name = some unit := by
  cases h <;> decide

theorem SpellsUnit.ne_nil (h : SpellsUnit name unit) : name ≠ [] := by
  cases h <;> decide

theorem SpellsUnit.not_isNumeral (h : SpellsUnit name unit) : ∀ c ∈ name, isNumeral c = false := by
  apply Text.forall_mem_of_all
  cases h <;> decide

theorem readUnit_eq_ok : readUnit name = .ok unit ↔ SpellsUnit name unit := by
  unfold readUnit
  constructor
  · intro h
    split at h
    · next hfound =>
      cases h
      exact spellsUnit_of_mem _ (mem_of_lookup_eq_some hfound)
    · cases h
  · intro h
    rw [h.ofName?_eq]

/-! ### The whole text -/

/-- A number and a name behind it are cut off where they end, if a numeral or nothing follows. -/
theorem components_append (hne : number ≠ []) (hnumber : ∀ c ∈ number, isNumeral c = true)
    (hname : name ≠ []) (hfree : ∀ c ∈ name, isNumeral c = false)
    (hrest : ∀ c ∈ rest.head?, isNumeral c = true) :
    components (number ++ name ++ rest) = (do
      let (digits, places) ← readNumber number
      let unit ← readUnit name
      let others ← components rest
      return ⟨digits, places, unit⟩ :: others) := by
  obtain ⟨first, number, rfl⟩ := List.exists_cons_of_ne_nil hne
  obtain ⟨hfirst, hnumber⟩ := List.forall_mem_cons.1 hnumber
  have hstop : ∀ c ∈ (name ++ rest).head?, isNumeral c = false := by
    intro c hc
    rw [List.head?_append_of_ne_nil _ hname] at hc
    exact hfree c (List.mem_of_mem_head? hc)
  obtain ⟨htake, hdrop⟩ := Text.takeWhile_append_of_head hnumber hstop
  have hpass : ∀ c ∈ name, (! isNumeral c) = true := by
    intro c hc
    rw [hfree c hc]
    rfl
  have hend : ∀ c ∈ rest.head?, (! isNumeral c) = false := by
    intro c hc
    rw [hrest c hc]
    rfl
  obtain ⟨hunit, hothers⟩ := Text.takeWhile_append_of_head hpass hend
  rw [List.append_assoc, List.cons_append, components, if_pos hfirst, htake, hdrop]
  simp only [hunit, hothers]

theorem Spells.head (h : Spells cs parts) : ∀ c ∈ cs.head?, isNumeral c = true := by
  cases h with
  | nil => simp
  | cons hnumber _ _ =>
      intro c hc
      rw [List.append_assoc, List.head?_append_of_ne_nil _ hnumber.ne_nil] at hc
      exact hnumber.isNumeral c (List.mem_of_mem_head? hc)

theorem Spells.components_eq (h : Spells cs parts) : components cs = .ok parts := by
  induction h with
  | nil => rw [components]
  | cons hnumber hunit hrest ih =>
      rw [components_append hnumber.ne_nil hnumber.isNumeral hunit.ne_nil hunit.not_isNumeral
        hrest.head, hnumber.readNumber_eq, readUnit_eq_ok.2 hunit, ih]
      rfl

theorem spells_of_components (h : components cs = .ok parts) : Spells cs parts := by
  fun_induction components cs generalizing parts with
  | case1 =>
      cases h
      exact .nil
  | case2 c rest hc ih =>
      obtain ⟨⟨digits, places⟩, hnumber, h⟩ := bind_eq_ok.1 h
      obtain ⟨unit, hunit, h⟩ := bind_eq_ok.1 h
      obtain ⟨others, hothers, h⟩ := bind_eq_ok.1 h
      cases h
      have hnumerals : ∀ numeral ∈ c :: rest.takeWhile isNumeral, isNumeral numeral = true :=
        List.forall_mem_cons.2 ⟨hc, fun numeral hmem => List.mem_takeWhile_imp hmem⟩
      have hspells := Spells.cons ((readNumber_eq_ok hnumerals).1 hnumber)
        (readUnit_eq_ok.1 hunit) (ih hothers)
      -- What was read as number, as unit and as the rest is all of the text.
      rwa [List.append_assoc, List.takeWhile_append_dropWhile, List.cons_append,
        List.takeWhile_append_dropWhile] at hspells
  | case3 => cases h

theorem components_eq_ok : components cs = .ok parts ↔ Spells cs parts :=
  ⟨spells_of_components, Spells.components_eq⟩

theorem Spells.eq_nil (h : Spells cs []) : cs = [] := by
  cases h
  rfl

theorem not_spells_zero : ¬ Spells "0".toList parts := by
  intro h
  have hread : (components "0".toList).isOk = false := by decide +kernel
  rw [h.components_eq] at hread
  cases hread

theorem parse_eq_ok_of_spells (hne : parts ≠ []) (h : Spells input.toList parts) :
    parse input = .ok (total parts) := by
  have hempty : input ≠ "" := by
    intro heq
    rw [heq] at h
    cases h.components_eq.symm.trans Spells.nil.components_eq
    exact hne rfl
  have hzero : input ≠ "0" := by
    intro heq
    rw [heq] at h
    exact not_spells_zero h
  rw [parse, if_neg hempty, if_neg hzero, h.components_eq]
  rfl

/-- The text is written as a duration: a bare zero, or numbers with their units, at least one. -/
def IsDuration (input : String) : Prop :=
  input = "0" ∨ ∃ parts, parts ≠ [] ∧ Spells input.toList parts

theorem isDuration_of_parse {duration : Duration} (h : parse input = .ok duration) :
    IsDuration input := by
  unfold parse at h
  split at h
  · cases h
  · next hempty =>
    split at h
    · next hzero => exact .inl hzero
    · obtain ⟨parts, hparts, -⟩ := map_eq_ok.1 h
      have hspells : Spells input.toList parts := components_eq_ok.1 hparts
      refine .inr ⟨parts, ?_, hspells⟩
      intro hnone
      rw [hnone] at hspells
      exact hempty (String.toList_eq_nil_iff.1 hspells.eq_nil)

theorem exists_parse_iff : (∃ duration, parse input = .ok duration) ↔ IsDuration input := by
  constructor
  · intro h
    obtain ⟨duration, hduration⟩ := h
    exact isDuration_of_parse hduration
  · intro h
    rcases h with rfl | ⟨parts, hne, hspells⟩
    · exact ⟨zero, rfl⟩
    · exact ⟨total parts, parse_eq_ok_of_spells hne hspells⟩

/-- Of the texts that are written as durations, whatever their numbers, each is read as one, and
each other text has a fault. The numbers and units that a text spells are those whose total it is. -/
theorem durations_accepted (input : String) :
    ((∃ duration, parse input = .ok duration) ↔ IsDuration input) ∧
      ((∃ fault, parse input = .error fault) ↔ ¬ IsDuration input) ∧
      ∀ parts, parts ≠ [] → Spells input.toList parts → parse input = .ok (total parts) := by
  refine ⟨exists_parse_iff, ?_, fun parts => parse_eq_ok_of_spells⟩
  rw [← exists_parse_iff, exists_eq_ok_iff, not_not]

/-- An hour with a point behind its digit, and half a microsecond. -/
def hourAndHalf : List Component := [⟨1, 0, .hour⟩, ⟨5, 1, .microsecond⟩]

theorem spells_hourAndHalf : Spells "1.h.5\u00b5s".toList hourAndHalf :=
  .cons (@SpellsNumber.pointed ['1'] [] (by decide) (Text.forall_mem_of_all (by decide))) .hour <|
  .cons (@SpellsNumber.pointed [] ['5'] (by decide) (Text.forall_mem_of_all (by decide))) .microSign
    .nil

theorem hourAndHalf_accepted :
    parse "1.h.5\u00b5s" = .ok (total hourAndHalf) ∧ (total hourAndHalf).nanos = 3600000000500 := by
  obtain ⟨-, -, htotal⟩ := durations_accepted "1.h.5\u00b5s"
  exact ⟨htotal hourAndHalf (by decide) spells_hourAndHalf, by decide +kernel⟩

end Duration

end LoaderGen
