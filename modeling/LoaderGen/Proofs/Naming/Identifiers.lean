import LoaderGen.Naming.Normalizer
import LoaderGen.Proofs.Options.Finalize
import LoaderGen.Proofs.Text.Ascii
import Mathlib.Data.List.Forall2

/-!
# Names are identifiers

The words of an ASCII name are its letters and digits, cut wherever it has anything else. Each word
is written with a capital or a digit first and keeps its letters up to their case, as an initialism
or not, so the words joined do too. An underscore goes in front only where they begin with a digit.
-/

namespace LoaderGen

namespace Naming

variable {name word cs kept : List Char} {words : List (List Char)}

/-- A capital and then letters and digits, or a digit behind an underscore and then letters and
digits. -/
inductive IsIdentifier : List Char → Prop where
  | capital {first : Char} {rest : List Char} (hfirst : first.isUpper = true)
      (hrest : ∀ c ∈ rest, c.isAlphanum = true) : IsIdentifier (first :: rest)
  | digit {first : Char} {rest : List Char} (hfirst : first.isDigit = true)
      (hrest : ∀ c ∈ rest, c.isAlphanum = true) : IsIdentifier ('_' :: first :: rest)

/-- A letter in one of its cases, or a digit, in the place of a character. -/
def StandsFor (written c : Char) : Prop :=
  written.isAlphanum = true ∧ written.toLower = c.toLower

theorem toUpper_standsFor {c : Char} (h : c.isAlphanum = true) : StandsFor c.toUpper c := by
  have hascii : ∀ n < 0x80, (Char.ofNat n).isAlphanum = true →
      StandsFor (Char.ofNat n).toUpper (Char.ofNat n) := by
    unfold StandsFor
    decide
  exact Text.forall_ascii (p := fun c => c.isAlphanum = true → StandsFor c.toUpper c) hascii
    (Text.ascii_of_isAlphanum h) h

theorem isUpper_or_isDigit_toUpper {c : Char} (h : c.isAlphanum = true) :
    c.toUpper.isUpper = true ∨ c.toUpper.isDigit = true := by
  have hascii : ∀ n < 0x80, (Char.ofNat n).isAlphanum = true →
      (Char.ofNat n).toUpper.isUpper = true ∨ (Char.ofNat n).toUpper.isDigit = true := by
    decide
  exact Text.forall_ascii
    (p := fun c => c.isAlphanum = true → c.toUpper.isUpper = true ∨ c.toUpper.isDigit = true) hascii
    (Text.ascii_of_isAlphanum h) h

theorem isAlphanum_of_forall₂ (h : List.Forall₂ StandsFor cs kept) :
    ∀ c ∈ cs, c.isAlphanum = true := by
  induction h with
  | nil => exact List.forall_mem_nil _
  | cons hfirst _ ih => exact List.forall_mem_cons.2 ⟨hfirst.1, ih⟩

theorem map_toLower_of_forall₂ (h : List.Forall₂ StandsFor cs kept) :
    cs.map Char.toLower = kept.map Char.toLower := by
  induction h with
  | nil => rfl
  | cons hfirst _ ih => rw [List.map_cons, List.map_cons, hfirst.2, ih]

/-! ### Words -/

theorem identifierWord_nil (isInitialism : String → Bool) :
    identifierWord isInitialism [] = [] := by
  unfold identifierWord
  split
  · rfl
  · rfl

theorem identifierWord_cons (isInitialism : String → Bool) {first : Char} {rest : List Char}
    (h : ∀ c ∈ first :: rest, c.isAlphanum = true) :
    ∃ tail, identifierWord isInitialism (first :: rest) = first.toUpper :: tail ∧
      (tail = rest.map Char.toUpper ∨ tail = rest) := by
  have hascii : ∀ c ∈ first :: rest, c.toNat < 0x80 := by
    intro c hc
    exact Text.ascii_of_isAlphanum (h c hc)
  unfold identifierWord
  split
  · exact ⟨rest.map Char.toUpper, Text.upper_ascii hascii, .inl rfl⟩
  · refine ⟨rest, ?_, .inr rfl⟩
    rw [Text.capitalize, Text.upperOf_ascii (hascii first List.mem_cons_self)]
    rfl

theorem forall₂_identifierWord (isInitialism : String → Bool)
    (h : ∀ c ∈ word, c.isAlphanum = true) :
    List.Forall₂ StandsFor (identifierWord isInitialism word) word := by
  cases word with
  | nil =>
      rw [identifierWord_nil]
      exact .nil
  | cons first rest =>
      obtain ⟨tail, hword, htail⟩ := identifierWord_cons isInitialism h
      obtain ⟨hfirst, hrest⟩ := List.forall_mem_cons.1 h
      rw [hword]
      apply List.Forall₂.cons (toUpper_standsFor hfirst)
      rcases htail with rfl | rfl
      · rw [List.forall₂_map_left_iff, List.forall₂_same]
        exact fun c hc => toUpper_standsFor (hrest c hc)
      · rw [List.forall₂_same]
        exact fun c hc => ⟨hrest c hc, rfl⟩

theorem forall₂_joined (isInitialism : String → Bool)
    (h : ∀ c ∈ words.flatten, c.isAlphanum = true) :
    List.Forall₂ StandsFor (words.flatMap (identifierWord isInitialism)) words.flatten := by
  induction words with
  | nil => exact .nil
  | cons word words ih =>
      rw [List.flatten_cons, List.forall_mem_append] at h
      rw [List.flatMap_cons, List.flatten_cons]
      exact List.rel_append (forall₂_identifierWord isInitialism h.1) (ih h.2)

/-- The words joined begin as the first of them that is not empty. -/
theorem head_joined (isInitialism : String → Bool)
    (h : ∀ c ∈ words.flatten, c.isAlphanum = true) :
    ∀ c ∈ (words.flatMap (identifierWord isInitialism)).head?,
      c.isUpper = true ∨ c.isDigit = true := by
  induction words with
  | nil => simp
  | cons word words ih =>
      rw [List.flatten_cons, List.forall_mem_append] at h
      rw [List.flatMap_cons]
      cases word with
      | nil =>
          rw [identifierWord_nil]
          exact ih h.2
      | cons first rest =>
          obtain ⟨tail, hword, -⟩ := identifierWord_cons isInitialism h.1
          intro c hc
          rw [hword, List.cons_append, List.head?_cons, Option.mem_some_iff] at hc
          rw [← hc]
          exact isUpper_or_isDigit_toUpper (h.1 first List.mem_cons_self)

theorem clean_ascii {c : Char} (h : c.toNat < 0x80) :
    clean c = if c.isAlphanum then c else '_' := by
  rw [clean, Text.isAlphanumeric_ascii h]

theorem clean_ne_underscore {c : Char} (h : c.toNat < 0x80) :
    (clean c != '_') = c.isAlphanum := by
  rw [clean_ascii h]
  cases halphanum : c.isAlphanum with
  | true =>
      rw [if_pos rfl, bne_iff_ne]
      intro heq
      rw [heq] at halphanum
      exact absurd halphanum (by decide)
  | false => rfl

theorem flatten_words (h : ∀ c ∈ name, c.toNat < 0x80) :
    ((name.map clean).splitOn '_').flatten = name.filter Char.isAlphanum := by
  have hkept : ∀ c ∈ name, ((· != '_') ∘ clean) c = c.isAlphanum := by
    intro c hc
    exact clean_ne_underscore (h c hc)
  have hsame : ∀ c ∈ name.filter Char.isAlphanum, clean c = id c := by
    intro c hc
    obtain ⟨hmem, halphanum⟩ := List.mem_filter.1 hc
    rw [clean_ascii (h c hmem), if_pos halphanum, id]
  rw [Text.flatten_splitOn, List.filter_map, List.filter_congr hkept, List.map_congr_left hsame,
    List.map_id]

/-! ### The digit in front -/

theorem guardDigit_eq_nil_iff : guardDigit cs = [] ↔ cs = [] := by
  cases cs with
  | nil => exact Iff.rfl
  | cons first rest =>
      unfold guardDigit
      split
      · simp
      · exact Iff.rfl

theorem filter_guardDigit (h : ∀ c ∈ cs, c.isAlphanum = true) :
    (guardDigit cs).filter Char.isAlphanum = cs := by
  unfold guardDigit
  split
  · rw [List.filter_cons_of_neg (by decide), List.filter_eq_self.2 h]
  · exact List.filter_eq_self.2 h

theorem isIdentifier_guardDigit (hne : cs ≠ []) (hall : ∀ c ∈ cs, c.isAlphanum = true)
    (hhead : ∀ c ∈ cs.head?, c.isUpper = true ∨ c.isDigit = true) :
    IsIdentifier (guardDigit cs) := by
  obtain ⟨first, rest, rfl⟩ := List.exists_cons_of_ne_nil hne
  have hrest : ∀ c ∈ rest, c.isAlphanum = true := (List.forall_mem_cons.1 hall).2
  unfold guardDigit
  rw [List.head?_cons, Option.map_some, Option.getD_some]
  split
  · next hdigit => exact .digit hdigit hrest
  · next hdigit => exact .capital ((hhead first rfl).resolve_right hdigit) hrest

theorem exists_joined (isInitialism : String → Bool) (h : ∀ c ∈ name, c.toNat < 0x80) :
    ∃ joined, normalize isInitialism name = guardDigit joined ∧
      List.Forall₂ StandsFor joined (name.filter Char.isAlphanum) ∧
      ∀ c ∈ joined.head?, c.isUpper = true ∨ c.isDigit = true := by
  have hwords := flatten_words h
  have hall : ∀ c ∈ ((name.map clean).splitOn '_').flatten, c.isAlphanum = true := by
    intro c hc
    rw [hwords] at hc
    exact (List.mem_filter.1 hc).2
  refine ⟨_, rfl, ?_, head_joined isInitialism hall⟩
  rw [← hwords]
  exact forall₂_joined isInitialism hall

end Naming

/-- The Go name of an ASCII name that is not renamed is nothing where the name has no letter and no
digit, and else an identifier; and its letters and digits are those of the name up to case. -/
theorem names_are_identifiers (options : Options) {name : String}
    (hascii : ∀ c ∈ name.toList, c.toNat < 0x80) (hrename : options.renames.find? name = none) :
    (options.goName name = "" ↔ ∀ c ∈ name.toList, c.isAlphanum = false) ∧
      ((∃ c ∈ name.toList, c.isAlphanum = true) →
        Naming.IsIdentifier (options.goName name).toList) ∧
      ((options.goName name).toList.filter Char.isAlphanum).map Char.toLower =
        (name.toList.filter Char.isAlphanum).map Char.toLower := by
  obtain ⟨joined, hjoined, hletters, hhead⟩ :=
    Naming.exists_joined options.initialismSet.contains hascii
  have hname : (options.goName name).toList = Naming.guardDigit joined := by
    simp only [Options.goName, hrename, hjoined, String.toList_ofList]
  have hall := Naming.isAlphanum_of_forall₂ hletters
  have hempty : joined = [] ↔ ∀ c ∈ name.toList, c.isAlphanum = false := by
    rw [← List.length_eq_zero_iff, hletters.length_eq, List.length_eq_zero_iff,
      List.filter_eq_nil_iff]
    simp only [Bool.not_eq_true]
  refine ⟨?_, ?_, ?_⟩
  · rw [← String.toList_eq_nil_iff, hname, Naming.guardDigit_eq_nil_iff, hempty]
  · intro hsome
    obtain ⟨c, hc, halphanum⟩ := hsome
    rw [hname]
    refine Naming.isIdentifier_guardDigit (fun hnone => ?_) hall hhead
    rw [hempty.1 hnone c hc] at halphanum
    cases halphanum
  · rw [hname, Naming.filter_guardDigit hall, Naming.map_toLower_of_forall₂ hletters]

/-- The first word begins with a digit, the second is empty and the last an initialism. -/
theorem identifier_of_factor :
    plainOptions.goName "2fa--user_id" = "_2faUserID" ∧
      Naming.IsIdentifier (plainOptions.goName "2fa--user_id").toList ∧
      ((plainOptions.goName "2fa--user_id").toList.filter Char.isAlphanum).map Char.toLower =
        "2fauserid".toList := by
  have hascii : ∀ c ∈ "2fa--user_id".toList, c.toNat < 0x80 :=
    Text.forall_mem_of_all (by decide +kernel)
  obtain ⟨-, hidentifier, hletters⟩ :=
    names_are_identifiers plainOptions hascii (by decide +kernel)
  exact ⟨by decide +kernel, hidentifier ⟨'2', by decide +kernel, by decide⟩,
    hletters.trans (by decide +kernel)⟩

end LoaderGen
