import LoaderGen.Proofs.Glob.Matching
import LoaderGen.Proofs.Glob.Reading
import LoaderGen.Proofs.Options.Compile
import LoaderGen.Proofs.Text.Ascii
import LoaderGen.Proofs.Text.Utf8
import Mathlib.Algebra.Ring.Nat

/-!
# Globs of letters and wildcards

A glob that has no classes, choices, bare slashes and commas is written as letters, each as it is or
behind a backslash, and the two wildcards. It can always be read, and what it matches is what can be
cut into pieces for its items, but the pieces are cut from bytes: a question mark takes one byte of a
character that can have several. So where wildcards stand side by side, they take characters of as
many bytes as there are question marks, or of no fewer if a star is among them.
-/

namespace LoaderGen.Glob

/-- The characters that are written behind a backslash where they stand for themselves. -/
def specials : List Char := ['*', '?', '[', ']', '\x7b', '\x7d', ',', '/', '\\']

inductive Item where
  | plain (c : Char) (h : c ∉ specials)
  | escaped (c : Char)
  | anyOne
  | anyRun
  deriving DecidableEq

namespace Item

/-- The item as it is written. -/
def text : Item → List Char
  | plain c _ => [c]
  | escaped c => ['\\', c]
  | anyOne => ['?']
  | anyRun => ['*']

def token : Item → Token
  | plain c _ => .literal c
  | escaped c => .literal c
  | anyOne => .anyByte
  | anyRun => .anyRun

/-- The character that the item stands for, unless it is a wildcard. -/
def letter? : Item → Option Char
  | plain c _ => some c
  | escaped c => some c
  | anyOne => none
  | anyRun => none

/-- The piece is one for the item, where `spell` says what stands for a character. -/
def Takes {α : Type} (spell : Char → List α) : Item → List α → Prop
  | plain c _, piece => piece = spell c
  | escaped c, piece => piece = spell c
  | anyOne, piece => piece.length = 1
  | anyRun, _ => True

end Item

/-- The glob of these items. -/
def globOf (items : List Item) : String := String.ofList (items.flatMap Item.text)

/-- The whole can be cut into consecutive pieces, one for each item in order. -/
def IsCut {α : Type} (spell : Char → List α) (items : List Item) (whole : List α) : Prop :=
  ∃ pieces, pieces.flatten = whole ∧ List.Forall₂ (Item.Takes spell) items pieces

/-- Wildcards side by side can take what has this size. -/
def TakesSize (wildcards : List Item) (size : Nat) : Prop :=
  wildcards.count .anyOne ≤ size ∧ (.anyRun ∉ wildcards → size = wildcards.count .anyOne)

/-- The characters can be cut so that each letter takes itself, and wildcards side by side take
characters by their size. -/
inductive IsCutBySize (size : Char → Nat) : List Item → List Char → Prop where
  | nil : IsCutBySize size [] []
  | letter {item : Item} {c : Char} {items : List Item} {cs : List Char}
      (hletter : item.letter? = some c) (hrest : IsCutBySize size items cs) :
      IsCutBySize size (item :: items) (c :: cs)
  | wildcards {wildcards items : List Item} {piece cs : List Char}
      (hwild : ∀ item ∈ wildcards, item.letter? = none)
      (hsize : TakesSize wildcards (piece.map size).sum) (hrest : IsCutBySize size items cs) :
      IsCutBySize size (wildcards ++ items) (piece ++ cs)

section Cuts

variable {α : Type} {spell : Char → List α} {item : Item} {items others : List Item}
  {whole : List α}

theorem isCut_nil : IsCut spell [] whole ↔ whole = [] := by
  constructor
  · intro h
    obtain ⟨pieces, rfl, hpieces⟩ := h
    cases hpieces
    rfl
  · intro h
    exact ⟨[], h.symm, .nil⟩

theorem isCut_cons : IsCut spell (item :: items) whole ↔
    ∃ piece rest, whole = piece ++ rest ∧ item.Takes spell piece ∧ IsCut spell items rest := by
  constructor
  · intro h
    obtain ⟨pieces, rfl, hpieces⟩ := h
    cases hpieces with
    | cons hpiece hrest => exact ⟨_, _, rfl, hpiece, _, rfl, hrest⟩
  · intro h
    obtain ⟨piece, _, rfl, hpiece, pieces, rfl, hrest⟩ := h
    exact ⟨piece :: pieces, rfl, .cons hpiece hrest⟩

theorem isCut_append : IsCut spell (items ++ others) whole ↔
    ∃ left right, whole = left ++ right ∧ IsCut spell items left ∧ IsCut spell others right := by
  induction items generalizing whole with
  | nil => simp [isCut_nil]
  | cons item items ih =>
      simp only [List.cons_append, isCut_cons, ih]
      constructor
      · intro h
        obtain ⟨piece, _, rfl, hpiece, left, right, rfl, hleft, hright⟩ := h
        exact ⟨piece ++ left, right, (List.append_assoc _ _ _).symm,
          ⟨piece, left, rfl, hpiece, hleft⟩, hright⟩
      · intro h
        obtain ⟨_, right, rfl, ⟨piece, left, rfl, hpiece, hleft⟩, hright⟩ := h
        exact ⟨piece, left ++ right, List.append_assoc _ _ _, hpiece, left, right, rfl, hleft,
          hright⟩

theorem takes_of_letter {c : Char} (h : item.letter? = some c) {piece : List α} :
    item.Takes spell piece ↔ piece = spell c := by
  cases item with
  | plain d hd =>
      cases h
      exact Iff.rfl
  | escaped d =>
      cases h
      exact Iff.rfl
  | anyOne => cases h
  | anyRun => cases h

/-- Pieces for wildcards side by side are there as soon as the size is right. -/
theorem isCut_wildcards {wildcards : List Item} (h : ∀ item ∈ wildcards, item.letter? = none) :
    IsCut spell wildcards whole ↔ TakesSize wildcards whole.length := by
  induction wildcards generalizing whole with
  | nil => simp [isCut_nil, TakesSize]
  | cons item items ih =>
      obtain ⟨hitem, hitems⟩ := List.forall_mem_cons.1 h
      simp only [isCut_cons, ih hitems]
      cases item with
      | plain c hc => cases hitem
      | escaped c => cases hitem
      | anyOne =>
          simp only [Item.Takes, TakesSize, List.count_cons_self, List.mem_cons, reduceCtorEq,
            false_or]
          constructor
          · intro hcut
            obtain ⟨piece, rest, rfl, hpiece, hleast, hexact⟩ := hcut
            rw [List.length_append, hpiece]
            exact ⟨by omega, fun hnone => by have := hexact hnone; omega⟩
          · intro hsize
            obtain ⟨hleast, hexact⟩ := hsize
            obtain ⟨first, rest, rfl⟩ : ∃ first rest, whole = first :: rest :=
              List.exists_cons_of_length_pos (by omega)
            rw [List.length_cons] at hleast hexact
            exact ⟨[first], rest, rfl, rfl, by omega, fun hnone => by have := hexact hnone; omega⟩
      | anyRun =>
          have hcount : (Item.anyRun :: items).count .anyOne = items.count .anyOne :=
            List.count_cons_of_ne (by decide)
          simp only [Item.Takes, TakesSize, hcount, List.mem_cons, true_or, not_true_eq_false,
            false_implies, and_true, true_and]
          constructor
          · intro hcut
            obtain ⟨piece, rest, rfl, hleast, -⟩ := hcut
            rw [List.length_append]
            omega
          · intro hleast
            refine ⟨whole.take (whole.length - items.count .anyOne),
              whole.drop (whole.length - items.count .anyOne), (List.take_append_drop _ _).symm, ?_⟩
            rw [List.length_drop]
            exact ⟨by omega, fun _ => by omega⟩

theorem IsCutBySize.isCut {cs : List Char}
    (h : IsCutBySize (fun c => (spell c).length) items cs) :
    IsCut spell items (cs.flatMap spell) := by
  induction h with
  | nil => exact isCut_nil.2 rfl
  | letter hletter _ ih => exact isCut_cons.2 ⟨_, _, rfl, (takes_of_letter hletter).2 rfl, ih⟩
  | @wildcards wildcards items piece cs hwild hsize _ ih =>
      rw [List.flatMap_append]
      refine isCut_append.2 ⟨_, _, rfl, (isCut_wildcards hwild).2 ?_, ih⟩
      rwa [List.length_flatMap]

/-- A cut of what spells a text goes through the letters of the text, and leaves characters whole
where wildcards stand. -/
theorem isCutBySize_of_isCut (hspell : Text.Locates spell) {wildcards : List Item} {cs : List Char}
    (hwild : ∀ item ∈ wildcards, item.letter? = none)
    (h : IsCut spell (wildcards ++ items) (cs.flatMap spell)) :
    IsCutBySize (fun c => (spell c).length) (wildcards ++ items) cs := by
  induction items generalizing wildcards cs with
  | nil =>
      rw [List.append_nil, isCut_wildcards hwild, List.length_flatMap] at h
      simpa using IsCutBySize.wildcards hwild h .nil
  | cons item items ih =>
      cases hletter : item.letter? with
      | none =>
          rw [← List.singleton_append, ← List.append_assoc] at h ⊢
          refine ih ?_ h
          exact List.forall_mem_append.2 ⟨hwild, List.forall_mem_singleton.2 hletter⟩
      | some c =>
          obtain ⟨left, right, hwhole, hleft, hright⟩ := isCut_append.1 h
          obtain ⟨piece, rest, rfl, hpiece, hrest⟩ := isCut_cons.1 hright
          obtain rfl := (takes_of_letter hletter).1 hpiece
          obtain ⟨before, after, rfl, rfl, rfl⟩ := hspell cs c left rest hwhole
          rw [isCut_wildcards hwild, List.length_flatMap] at hleft
          have hafter := ih (List.forall_mem_nil _) hrest
          exact .wildcards hwild hleft (.letter hletter hafter)

theorem isCut_iff (hspell : Text.Locates spell) {cs : List Char} :
    IsCut spell items (cs.flatMap spell) ↔
      IsCutBySize (fun c => (spell c).length) items cs :=
  ⟨fun h => isCutBySize_of_isCut hspell (List.forall_mem_nil _) h, IsCutBySize.isCut⟩

end Cuts

/-! ### Sizes -/

theorem sum_map_eq_zero {size : Char → Nat} (hpos : ∀ c, 0 < size c) {piece : List Char} :
    (piece.map size).sum = 0 ↔ piece = [] := by
  cases piece with
  | nil => simp
  | cons c rest =>
      have hc := hpos c
      simp only [List.map_cons, List.sum_cons, reduceCtorEq, iff_false]
      omega

/-- How characters are counted makes no difference where they count alike, or where nothing has to
have a certain size. -/
theorem IsCutBySize.congr {size other : Char → Nat} (hsize : ∀ c, 0 < size c)
    (hother : ∀ c, 0 < other c) {items : List Item} {cs : List Char}
    (h : IsCutBySize size items cs) (hsame : .anyOne ∉ items ∨ ∀ c ∈ cs, size c = other c) :
    IsCutBySize other items cs := by
  induction h with
  | nil => exact .nil
  | letter hletter _ ih =>
      refine .letter hletter (ih ?_)
      exact hsame.imp (fun hnone hmem => hnone (List.mem_cons_of_mem _ hmem))
        (fun hall => (List.forall_mem_cons.1 hall).2)
  | @wildcards wildcards items piece cs hwild htakes _ ih =>
      rcases hsame with hnone | hall
      · rw [List.mem_append, not_or] at hnone
        refine .wildcards hwild ?_ (ih (.inl hnone.2))
        unfold TakesSize at htakes ⊢
        rw [List.count_eq_zero.2 hnone.1, sum_map_eq_zero hsize] at htakes
        rw [List.count_eq_zero.2 hnone.1, sum_map_eq_zero hother]
        exact ⟨Nat.zero_le _, htakes.2⟩
      · obtain ⟨hpiece, hrest⟩ := List.forall_mem_append.1 hall
        refine .wildcards hwild ?_ (ih (.inr hrest))
        rwa [← List.map_congr_left hpiece]

/-! ### Reading -/

variable {items : List Item} {tokens : List Token} {bytes : List UInt8}

theorem matches_token {item : Item} :
    item.token.Matches bytes ↔ item.Takes Text.utf8Bytes bytes := by
  cases item with
  | plain c hc | escaped c => exact Token.matches_literal
  | anyOne =>
      constructor
      · intro h
        cases h
        rfl
      · intro h
        obtain ⟨b, rfl⟩ := List.length_eq_one_iff.1 h
        exact .anyByte
  | anyRun => exact iff_of_true .anyRun trivial

theorem matchesAll_tokens :
    MatchesAll (items.map Item.token) bytes ↔ IsCut Text.utf8Bytes items bytes := by
  induction items generalizing bytes with
  | nil => simp only [List.map_nil, matchesAll_nil, isCut_nil]
  | cons item items ih => simp only [List.map_cons, matchesAll_cons, isCut_cons, ih, matches_token]

theorem controls_subset : controls ⊆ specials := by decide

theorem head?_text_ne_slash (items : List Item) : (items.flatMap Item.text).head? ≠ some '/' := by
  cases items with
  | nil => simp
  | cons item items =>
      cases item with
      | plain c hc =>
          intro h
          cases h
          exact hc (by decide)
      | escaped c | anyOne | anyRun => simp [Item.text]

theorem head?_text_eq_star (h : (items.flatMap Item.text).head? = some '*') :
    ∃ rest, items = .anyRun :: rest := by
  cases items with
  | nil => simp at h
  | cons item items =>
      cases item with
      | plain c hc =>
          cases h
          exact absurd (by decide) hc
      | escaped c | anyOne => simp [Item.text] at h
      | anyRun => exact ⟨items, rfl⟩

theorem text_eq_nil_iff : items.flatMap Item.text = [] ↔ items = [] := by
  cases items with
  | nil => simp
  | cons item items => cases item <;> simp [Item.text]

theorem matchesAll_stars : MatchesAll [.anyRun, .anyRun] bytes := by
  have h : MatchesAll [.anyRun, .anyRun] (bytes ++ ([] ++ [])) := .cons .anyRun (.cons .anyRun .nil)
  simpa using h

/-- The last slash of a glob and two stars behind it ask for what the slash and the runs do. -/
theorem matchesAll_trailing :
    MatchesAll [.trailing] bytes ↔ MatchesAll [.literal '/', .anyRun, .anyRun] bytes := by
  have hslash : Text.utf8Bytes '/' = [slash] := by decide
  constructor
  · intro h
    obtain ⟨piece, _, rfl, hpiece, hnil⟩ := matchesAll_cons.1 h
    cases hnil
    cases hpiece with
    | @trailing bytes =>
        show MatchesAll _ ([slash] ++ bytes ++ [])
        rw [List.append_nil, ← hslash]
        exact .cons .literal matchesAll_stars
  · intro h
    obtain ⟨_, rest, rfl, hliteral, -⟩ := matchesAll_cons.1 h
    cases hliteral
    rw [hslash, List.singleton_append, ← List.append_nil (slash :: rest)]
    exact .cons .trailing .nil

/-- The tokens that are read match what the items' own tokens do. Two stars at the end are read as
one token, where nothing or a slash is before them. -/
theorem readFrom_text (items : List Item) (before : Option Char) (tokens : List Token)
    (hleading : .leading ∉ tokens)
    (hslash : before = some '/' → ∃ others, tokens = .literal '/' :: others) :
    ∃ result, readFrom before ⟨tokens, []⟩ (items.flatMap Item.text) = .ok result ∧
      ∀ bytes, Accepts result bytes ↔
        MatchesAll (tokens.reverse ++ items.map Item.token) bytes := by
  match items with
  | [] =>
      refine ⟨tokens.reverse, readFrom_nil, fun bytes => ?_⟩
      rw [accepts_of_not_mem (by simpa using hleading)]
      simp
  | .plain c hc :: rest =>
      have hcontrol : c ∉ controls := fun hmem => hc (controls_subset hmem)
      obtain ⟨result, hread, hresult⟩ := readFrom_text rest (some c) (.literal c :: tokens)
        (by simpa using hleading) (by simp)
      exact ⟨result, (readFrom_letter hcontrol).trans hread, by simpa [Item.token] using hresult⟩
  | .escaped c :: rest =>
      obtain ⟨result, hread, hresult⟩ := readFrom_text rest (some c) (.literal c :: tokens)
        (by simpa using hleading) (by simp)
      exact ⟨result, readFrom_escaped.trans hread, by simpa [Item.token] using hresult⟩
  | .anyOne :: rest =>
      obtain ⟨result, hread, hresult⟩ := readFrom_text rest (some '?') (.anyByte :: tokens)
        (by simpa using hleading) (by simp)
      exact ⟨result, readFrom_anyByte.trans hread, by simpa [Item.token] using hresult⟩
  | .anyRun :: rest =>
      by_cases hstar : ∃ others, rest = .anyRun :: others
      · obtain ⟨others, rfl⟩ := hstar
        show ∃ result,
          readFrom before ⟨tokens, []⟩ ('*' :: '*' :: others.flatMap Item.text) = .ok result ∧ _
        by_cases hwhole : tokens = [] ∧ others = []
        · obtain ⟨rfl, rfl⟩ := hwhole
          exact ⟨_, readFrom_onlyStars, fun bytes => iff_of_true (.inl rfl) matchesAll_stars⟩
        · by_cases hlast : before = some '/' ∧ others = []
          · obtain ⟨rfl, rfl⟩ := hlast
            obtain ⟨earlier, rfl⟩ := hslash rfl
            refine ⟨_, readFrom_lastStars, fun bytes => ?_⟩
            rw [accepts_of_not_mem (by simpa using hleading), List.reverse_cons, List.append_assoc]
            show _ ↔ MatchesAll (earlier.reverse ++ [.literal '/', .anyRun, .anyRun]) bytes
            rw [matchesAll_append, matchesAll_append]
            simp only [matchesAll_trailing]
          · obtain ⟨result, hread, hresult⟩ := readFrom_text others (some '*')
              (.anyRun :: .anyRun :: tokens) (by simpa using hleading) (by simp)
            have hsome : tokens ≠ [] ∨ others.flatMap Item.text ≠ [] := by
              rw [Ne, Ne, text_eq_nil_iff, ← not_and_or]
              exact hwhole
            have hopen : before ≠ some '/' ∨ others.flatMap Item.text ≠ [] := by
              rw [Ne, Ne, text_eq_nil_iff, ← not_and_or]
              exact hlast
            exact ⟨result, (readFrom_stars (head?_text_ne_slash others) hsome hopen).trans hread,
              by simpa [Item.token] using hresult⟩
      · have hhead : (rest.flatMap Item.text).head? ≠ some '*' :=
          fun h => hstar (head?_text_eq_star h)
        obtain ⟨result, hread, hresult⟩ := readFrom_text rest (some '*') (.anyRun :: tokens)
          (by simpa using hleading) (by simp)
        exact ⟨result, (readFrom_anyRun hhead).trans hread, by simpa [Item.token] using hresult⟩
termination_by items.length

/-! ### Matching -/

theorem exists_pattern (items : List Item) :
    ∃ pattern, Pattern.compile (globOf items) = .ok pattern ∧
      ∀ value, pattern.isMatch value = true ↔
        IsCut Text.utf8Bytes items (Text.bytesOf value) := by
  obtain ⟨tokens, hread, htokens⟩ := readFrom_text items none [] (List.not_mem_nil) (by simp)
  have hreads : read (globOf items) = .ok tokens := by
    rw [read, globOf, String.toList_ofList]
    exact hread
  refine ⟨⟨globOf items, tokens, hreads⟩, Pattern.compile_eq_ok.2 rfl, fun value => ?_⟩
  show isMatch tokens value = true ↔ _
  rw [isMatch_iff, htokens, List.reverse_nil, List.nil_append, matchesAll_tokens]

theorem locates_character : Text.Locates fun c => [c] := by
  intro cs c before after h
  rw [List.flatMap_singleton'] at h
  exact ⟨before, after, h, List.flatMap_singleton' before, List.flatMap_singleton' after⟩

theorem isCut_character {cs : List Char} :
    IsCut (fun c => [c]) items cs ↔ IsCutBySize (fun _ => 1) items cs := by
  have h : IsCut (fun c => [c]) items (cs.flatMap fun c => [c]) ↔
      IsCutBySize (fun _ => 1) items cs := isCut_iff locates_character
  rwa [List.flatMap_singleton'] at h

/-- A glob of letters and wildcards can be read, and it matches what can be cut into pieces for its
items, where a question mark takes a byte. In characters that is: letters take themselves, and
wildcards side by side take characters of as many bytes as they have question marks, or of no fewer
if there is a star. If a question mark took a character, the characters were counted instead, and
that is the same where there is no question mark, or every character is one byte. -/
theorem question_marks_take_bytes (items : List Item) :
    ∃ pattern, Pattern.compile (globOf items) = .ok pattern ∧
      ∀ value : String,
        (pattern.isMatch value = true ↔ IsCut Text.utf8Bytes items (Text.bytesOf value)) ∧
        (pattern.isMatch value = true ↔
          IsCutBySize (fun c => (Text.utf8Bytes c).length) items value.toList) ∧
        (IsCut (fun c => [c]) items value.toList ↔ IsCutBySize (fun _ => 1) items value.toList) ∧
        ((.anyOne ∉ items ∨ ∀ c ∈ value.toList, c.toNat < 0x80) →
          (pattern.isMatch value = true ↔ IsCut (fun c => [c]) items value.toList)) := by
  obtain ⟨pattern, hcompile, hmatch⟩ := exists_pattern items
  refine ⟨pattern, hcompile, fun value => ?_⟩
  have hsize : pattern.isMatch value = true ↔
      IsCutBySize (fun c => (Text.utf8Bytes c).length) items value.toList := by
    rw [hmatch, Text.bytesOf, isCut_iff Text.locates_utf8Bytes]
  refine ⟨hmatch value, hsize, isCut_character, fun hsame => ?_⟩
  have hone : ∀ c : Char, 0 < 1 := fun _ => Nat.one_pos
  have halike : .anyOne ∉ items ∨ ∀ c ∈ value.toList, (Text.utf8Bytes c).length = 1 :=
    hsame.imp_right fun hascii c hc => Text.length_utf8Bytes_eq_one (hascii c hc)
  rw [hsize, isCut_character]
  constructor
  · intro h
    exact h.congr Text.length_utf8Bytes_pos hone halike
  · intro h
    exact h.congr hone Text.length_utf8Bytes_pos
      (halike.imp_right fun hall c hc => (hall c hc).symm)

/-- A letter, any one, a star behind a backslash, and a run. -/
def starred : List Item := [.plain 'a' (by decide), .anyOne, .escaped '*', .anyRun]

theorem starred_taken :
    (∀ c ∈ "a.*b*".toList, c.toNat < 0x80) ∧
      ∃ pattern, Pattern.compile "a?\\**" = .ok pattern ∧ pattern.isMatch "a.*b*" = true := by
  have hglob : globOf starred = "a?\\**" := by decide +kernel
  have hascii : ∀ c ∈ "a.*b*".toList, c.toNat < 0x80 := Text.forall_mem_of_all (by decide +kernel)
  have hcut : IsCut (fun c => [c]) starred "a.*b*".toList :=
    ⟨[['a'], ['.'], ['*'], ['b', '*']], by decide +kernel,
      .cons rfl (.cons rfl (.cons rfl (.cons trivial .nil)))⟩
  obtain ⟨pattern, hcompile, hvalues⟩ := question_marks_take_bytes starred
  obtain ⟨-, -, -, hcharacters⟩ := hvalues "a.*b*"
  rw [hglob] at hcompile
  exact ⟨hascii, pattern, hcompile, (hcharacters (.inr hascii)).2 hcut⟩

/-- Any one between two letters. -/
def oneBetween : List Item := [.plain 'a' (by decide), .anyOne, .plain 'b' (by decide)]

/-- A letter of two bytes is one character, and no question mark takes it. -/
theorem accented_letter_not_taken :
    globOf oneBetween = "a?b" ∧ IsCut (fun c => [c]) oneBetween "a\u00e9b".toList ∧
      ∃ pattern, Pattern.compile "a?b" = .ok pattern ∧ pattern.isMatch "a\u00e9b" = false := by
  have hglob : globOf oneBetween = "a?b" := by decide +kernel
  have hcut : IsCut (fun c => [c]) oneBetween "a\u00e9b".toList :=
    ⟨[['a'], ['\u00e9'], ['b']], by decide +kernel, .cons rfl (.cons rfl (.cons rfl .nil))⟩
  have hlength : (Text.bytesOf "a\u00e9b").length = 4 := by decide +kernel
  obtain ⟨pattern, hcompile, hmatch⟩ := exists_pattern oneBetween
  rw [hglob] at hcompile
  refine ⟨hglob, hcut, pattern, hcompile, ?_⟩
  rw [Bool.eq_false_iff]
  intro h
  obtain ⟨first, _, hbytes, hfirst, hrest⟩ := isCut_cons.1 ((hmatch _).1 h)
  obtain ⟨middle, _, rfl, hmiddle, hrest⟩ := isCut_cons.1 hrest
  obtain ⟨last, _, rfl, hlast, hrest⟩ := isCut_cons.1 hrest
  have hfirst : first.length = 1 := (congrArg List.length hfirst).trans (by decide)
  have hmiddle : middle.length = 1 := hmiddle
  have hlast : last.length = 1 := (congrArg List.length hlast).trans (by decide)
  rw [hbytes, isCut_nil.1 hrest] at hlength
  simp only [List.length_append, List.length_nil] at hlength
  omega

end LoaderGen.Glob
