import LoaderGen.Proofs.Glob.Matching
import LoaderGen.Proofs.Glob.Reading
import LoaderGen.Proofs.Options.Compile
import LoaderGen.Proofs.Text.Utf8
import Mathlib.Algebra.Order.BigOperators.Group.List
import Mathlib.Algebra.Order.Ring.Nat

/-!
# Globs of one text

A glob whose characters are all read as themselves matches its own text and nothing else. No other
glob does: where a control character is not a question mark, the tokens spell fewer bytes than the
glob has, so its own text is matched only through a run, and then a longer text is matched too; and a
question mark takes other letters as well.
-/

namespace LoaderGen.Glob

variable {before : Option Char} {draft : Draft} {token : Token} {tokens : List Token}
  {branch : List Token} {branches : List (List Token)} {bytes : List UInt8} {c : Char}
  {cs : List Char}

/-! ### How many bytes tokens spell -/

mutual

/-- As many bytes as the token takes at most, but for runs. -/
def Token.weight : Token → Nat
  | .literal c => (Text.utf8Bytes c).length
  | .anyByte => 1
  | .anyRun => 0
  | .leading => 0
  | .trailing => 0
  | .between => 1
  | .oneOf _ _ => 1
  | .alternatives branches => weightAny branches

def weightAll : List Token → Nat
  | [] => 0
  | token :: tokens => token.weight + weightAll tokens

def weightAny : List (List Token) → Nat
  | [] => 0
  | branch :: branches => weightAll branch + weightAny branches

end

/-- The bytes can be taken apart at a place where any more bytes fit. -/
def Stretches (IsPiece : List UInt8 → Prop) (bytes : List UInt8) : Prop :=
  ∃ left right, bytes = left ++ right ∧ ∀ more, IsPiece (left ++ more ++ right)

mutual

/-- What a token takes is no longer than its weight, unless it is taken by a run. -/
theorem Token.short_or_stretches :
    (token : Token) → ∀ {bytes : List UInt8}, token.Matches bytes →
      bytes.length ≤ token.weight ∨ Stretches token.Matches bytes
  | .literal c, _, h => by
      cases h
      exact .inl (Nat.le_refl _)
  | .anyByte, _, h => by
      cases h
      exact .inl (Nat.le_refl _)
  | .anyRun, bytes, _ => .inr ⟨bytes, [], (List.append_nil bytes).symm, fun _ => .anyRun⟩
  | .leading, _, h => by
      cases h with
      | noLeading => exact .inl (Nat.le_refl _)
      | @leading bytes =>
          refine .inr ⟨[], bytes ++ [slash], rfl, fun more => ?_⟩
          rw [List.nil_append, ← List.append_assoc]
          exact .leading
  | .trailing, _, h => by
      cases h with
      | @trailing bytes => exact .inr ⟨[slash], bytes, rfl, fun more => .trailing⟩
  | .between, _, h => by
      cases h with
      | slashBetween => exact .inl (Nat.le_refl _)
      | @between bytes =>
          refine .inr ⟨[slash], bytes ++ [slash], rfl, fun more => ?_⟩
          rw [← List.append_assoc]
          exact .between
  | .oneOf negated ranges, _, h => by
      cases h
      exact .inl (Nat.le_refl _)
  | .alternatives branches, _, h => by
      cases h with
      | noAlternative => exact .inl (Nat.le_refl _)
      | @alternative _ branch _ hmem hbranch =>
          rcases short_or_stretches_any branches hmem hbranch with
            hshort | ⟨left, right, heq, hmore⟩
          · exact .inl hshort
          · exact .inr ⟨left, right, heq, fun more => .alternative hmem (hmore more)⟩

theorem short_or_stretches :
    (tokens : List Token) → ∀ {bytes : List UInt8}, MatchesAll tokens bytes →
      bytes.length ≤ weightAll tokens ∨ Stretches (MatchesAll tokens) bytes
  | [], _, h => by
      cases h
      exact .inl (Nat.le_refl _)
  | token :: tokens, _, h => by
      obtain ⟨piece, rest, rfl, hpiece, hrest⟩ := matchesAll_cons.1 h
      rcases Token.short_or_stretches token hpiece with hshort | ⟨left, right, rfl, hmore⟩
      · rcases short_or_stretches tokens hrest with hrestShort | ⟨left, right, rfl, hmore⟩
        · left
          rw [List.length_append, weightAll]
          omega
        · refine .inr ⟨piece ++ left, right, (List.append_assoc _ _ _).symm, fun more => ?_⟩
          rw [List.append_assoc piece, List.append_assoc piece]
          exact .cons hpiece (hmore more)
      · refine .inr ⟨left, right ++ rest, List.append_assoc _ _ _, fun more => ?_⟩
        rw [← List.append_assoc]
        exact .cons (hmore more) hrest

theorem short_or_stretches_any :
    (branches : List (List Token)) → ∀ {branch : List Token} {bytes : List UInt8},
      branch ∈ branches → MatchesAll branch bytes →
        bytes.length ≤ weightAny branches ∨ Stretches (MatchesAll branch) bytes
  | [], _, _, hmem, _ => by cases hmem
  | first :: branches, _, _, hmem, h => by
      rw [weightAny]
      rcases List.mem_cons.1 hmem with heq | hmem
      · rw [heq] at h ⊢
        exact (short_or_stretches first h).imp_left fun hshort => by omega
      · exact (short_or_stretches_any branches hmem h).imp_left fun hshort => by omega

end

/-! ### How many bytes a glob has -/

/-- As many bytes as the characters have. -/
def size (cs : List Char) : Nat := (cs.flatMap Text.utf8Bytes).length

@[simp] theorem size_nil : size [] = 0 := rfl

@[simp] theorem size_cons : size (c :: cs) = (Text.utf8Bytes c).length + size cs := by
  rw [size, List.flatMap_cons, List.length_append, size]

theorem size_lt_cons (c : Char) (cs : List Char) : size cs < size (c :: cs) := by
  have hpos := Text.length_utf8Bytes_pos c
  rw [size_cons]
  omega

theorem weightAll_eq_sum (tokens : List Token) :
    weightAll tokens = (tokens.map Token.weight).sum := by
  induction tokens with
  | nil => rfl
  | cons token tokens ih => rw [weightAll, ih, List.map_cons, List.sum_cons]

theorem weightAny_eq_sum (branches : List (List Token)) :
    weightAny branches = (branches.map weightAll).sum := by
  induction branches with
  | nil => rfl
  | cons branch branches ih => rw [weightAny, ih, List.map_cons, List.sum_cons]

theorem weightAll_reverse (tokens : List Token) : weightAll tokens.reverse = weightAll tokens := by
  rw [weightAll_eq_sum, weightAll_eq_sum, List.map_reverse, List.sum_reverse]

/-- As many bytes as what is read so far takes at most, but for runs. -/
def Draft.weight (draft : Draft) : Nat :=
  weightAll draft.tokens + (draft.groups.map fun group => weightAny group.1 + weightAll group.2).sum

namespace Draft

theorem weight_push (draft : Draft) (token : Token) :
    (draft.push token).weight = token.weight + draft.weight := by
  rw [weight, weight, push, weightAll, Nat.add_assoc]

theorem weight_openGroup (draft : Draft) : draft.openGroup.weight = draft.weight := by
  simp [weight, openGroup, weightAll, weightAny]

theorem weight_comma_le (draft : Draft) : draft.comma.weight ≤ draft.weight + 1 := by
  obtain ⟨tokens, groups⟩ := draft
  cases groups with
  | nil =>
      show (push ⟨tokens, []⟩ (.literal ',')).weight ≤ _
      have hcomma : (Token.literal ',').weight = 1 := by decide
      rw [weight_push, hcomma, Nat.add_comm]
  | cons group outer =>
      simp only [weight, comma, weightAll, List.map_cons, List.sum_cons, weightAny,
        weightAll_reverse]
      omega

theorem weight_closeGroup_le {closed : Draft} (h : draft.closeGroup = .ok closed) :
    closed.weight ≤ draft.weight := by
  obtain ⟨tokens, groups⟩ := draft
  cases groups with
  | nil => cases h
  | cons group outer =>
      cases h
      have hkept (all : List (List Token)) :
          weightAny (all.filter fun branch => !isVoid branch) ≤ weightAny all := by
        rw [weightAny_eq_sum, weightAny_eq_sum]
        exact (List.filter_sublist.map weightAll).sum_le_sum fun _ _ => Nat.zero_le _
      have hall := hkept (tokens.reverse :: group.1).reverse
      have hreverse : weightAny (tokens.reverse :: group.1).reverse =
          weightAll tokens + weightAny group.1 := by
        rw [weightAny_eq_sum, List.map_reverse, List.sum_reverse, ← weightAny_eq_sum, weightAny,
          weightAll_reverse]
      simp only [weight, weightAll, Token.weight, List.map_cons, List.sum_cons]
      omega

theorem weight_of_doubleStar {before after : Option Char} {next : Draft} {taken : Bool}
    (h : draft.doubleStar before after = (next, taken)) : next.weight ≤ draft.weight + 1 := by
  have hruns : ((draft.push .anyRun).push .anyRun).weight ≤ draft.weight + 1 := by
    simp only [weight_push, Token.weight]
    omega
  unfold doubleStar at h
  obtain rfl := congrArg Prod.fst h
  split
  · split
    · simp only [weight_push, Token.weight]
      omega
    · exact hruns
  · next last others htokens =>
    have hspanning (spanning : Token) (hlight : spanning.weight ≤ 1) :
        weight { draft with tokens := spanning :: others } ≤ draft.weight + 1 := by
      simp only [weight, htokens, weightAll]
      omega
    simp only
    split
    · refine hspanning _ ?_
      split
      · exact Nat.zero_le _
      · exact Nat.zero_le _
      · split
        · exact Nat.zero_le _
        · exact Nat.le_refl _
    · exact hruns

end Draft

namespace ClassDraft

theorem weight_of_read {draft : ClassDraft} {after : List Char}
    (h : draft.read cs = .ok (token, after)) : token.weight = 1 ∧ size after < size cs := by
  induction cs generalizing draft with
  | nil => cases h
  | cons c rest ih =>
      have hlt := size_lt_cons c rest
      rw [read] at h
      split at h
      · cases h
        exact ⟨rfl, hlt⟩
      · obtain ⟨next, -, hread⟩ := bind_eq_ok.1 h
        obtain ⟨hweight, hafter⟩ := ih hread
        exact ⟨hweight, Nat.lt_trans hafter hlt⟩

theorem weight_of_readWhole {after : List Char} (h : readWhole cs = .ok (token, after)) :
    token.weight = 1 ∧ size after < size cs := by
  unfold readWhole at h
  split at h
  · obtain ⟨hweight, hafter⟩ := weight_of_read h
    exact ⟨hweight, Nat.lt_trans hafter (size_lt_cons _ _)⟩
  · obtain ⟨hweight, hafter⟩ := weight_of_read h
    exact ⟨hweight, Nat.lt_trans hafter (size_lt_cons _ _)⟩
  · exact weight_of_read h

end ClassDraft

/-- The characters of which a glob has more bytes than its tokens take. -/
def spares : List Char := ['*', '[', '\x7b', '\x7d', '\\']

/-- One if a character of these is to spare. -/
def spare (cs : List Char) : Nat := if cs.any spares.contains then 1 else 0

theorem spare_le_one (cs : List Char) : spare cs ≤ 1 := by
  unfold spare
  split
  · exact Nat.le_refl _
  · exact Nat.zero_le _

theorem spare_cons_of_not_mem (h : c ∉ spares) : spare (c :: cs) = spare cs := by
  simp [spare, h]

theorem spare_eq_one (hc : c ∈ spares) (hmem : c ∈ cs) : spare cs = 1 :=
  if_pos (List.any_eq_true.2 ⟨c, hmem, List.contains_iff_mem.2 hc⟩)

/-- The tokens take no more bytes than the glob has, but for runs, and fewer if there is a control
character beside question marks. -/
theorem weight_of_readFrom (h : readFrom before draft cs = .ok tokens) :
    weightAll tokens + spare cs ≤ draft.weight + size cs := by
  fun_induction readFrom before draft cs generalizing tokens with
  | case1 before draft =>
      have hnone : spare [] = 0 := rfl
      have hfinished : weightAll tokens ≤ draft.weight := by
        unfold Draft.finish at h
        split at h
        · cases h
        · cases h
          rw [weightAll_reverse, Draft.weight]
          exact Nat.le_add_right _ _
      rw [hnone, size_nil]
      exact hfinished
  | case2 before draft rest ih =>
      have hih := ih h
      have hlt := size_lt_cons '?' rest
      rw [Draft.weight_push, Token.weight] at hih
      rw [spare_cons_of_not_mem (by decide)]
      omega
  | case3 before draft rest next hstars ih =>
      have hih := ih h
      have hspare := spare_le_one ('*' :: '*' :: rest)
      have hfirst := size_lt_cons '*' ('*' :: rest)
      have hsecond := size_lt_cons '*' rest
      have htail : size rest.tail ≤ size rest := by
        cases rest with
        | nil => exact Nat.le_refl _
        | cons c rest => exact Nat.le_of_lt (size_lt_cons c rest)
      have hnext := Draft.weight_of_doubleStar hstars
      omega
  | case4 before draft rest next taken hstars hnot ih =>
      have hih := ih h
      have hspare := spare_le_one ('*' :: '*' :: rest)
      have hfirst := size_lt_cons '*' ('*' :: rest)
      have hsecond := size_lt_cons '*' rest
      have hnext := Draft.weight_of_doubleStar hstars
      omega
  | case5 before draft rest hsingle ih =>
      have hih := ih h
      have hspare := spare_le_one ('*' :: rest)
      have hlt := size_lt_cons '*' rest
      rw [Draft.weight_push, Token.weight] at hih
      omega
  | case6 before draft rest token after hclass hlength ih =>
      have hih := ih h
      have hspare := spare_le_one ('[' :: rest)
      have hlt := size_lt_cons '[' rest
      obtain ⟨hweight, hafter⟩ := ClassDraft.weight_of_readWhole hclass
      rw [Draft.weight_push, hweight] at hih
      omega
  | case7 => cases h
  | case8 before draft rest ih =>
      have hih := ih h
      have hspare := spare_le_one ('\x7b' :: rest)
      have hlt := size_lt_cons '\x7b' rest
      rw [Draft.weight_openGroup] at hih
      omega
  | case9 before draft rest ih =>
      obtain ⟨closed, hclosed, hread⟩ := bind_eq_ok.1 h
      have hih := ih closed hread
      have hspare := spare_le_one ('\x7d' :: rest)
      have hlt := size_lt_cons '\x7d' rest
      have hle := Draft.weight_closeGroup_le hclosed
      omega
  | case10 before draft rest ih =>
      have hih := ih h
      have hlt := size_lt_cons ',' rest
      have hle := draft.weight_comma_le
      rw [spare_cons_of_not_mem (by decide)]
      omega
  | case11 => cases h
  | case12 before draft c rest ih =>
      have hih := ih h
      have hspare := spare_le_one ('\\' :: c :: rest)
      have hlt := size_lt_cons '\\' (c :: rest)
      rw [Draft.weight_push, Token.weight] at hih
      rw [size_cons] at hlt
      omega
  | case13 before draft c rest hany hstars hstar hclass hopen hclose hcomma hlast hescape ih =>
      have hih := ih h
      have hspare : c ∉ spares := by
        intro hmem
        simp only [spares, List.mem_cons, List.not_mem_nil, or_false] at hmem
        rcases hmem with heq | heq | heq | heq | heq
        · exact hstar heq
        · exact hclass heq
        · exact hopen heq
        · exact hclose heq
        · cases rest with
          | nil => exact hlast heq rfl
          | cons c rest => exact hescape c rest heq rfl
      rw [Draft.weight_push, Token.weight] at hih
      rw [spare_cons_of_not_mem hspare, size_cons]
      omega

/-! ### Globs that match their own text -/

/-- What a question mark is read as, and every character that is read as itself. -/
def letterToken (c : Char) : Token := if c = '?' then .anyByte else .literal c

theorem readFrom_letters (h : ∀ c ∈ cs, c = '?' ∨ c ∉ controls) :
    readFrom before ⟨tokens, []⟩ cs = .ok (tokens.reverse ++ cs.map letterToken) := by
  induction cs generalizing before tokens with
  | nil => rw [readFrom_nil, List.map_nil, List.append_nil]
  | cons c rest ih =>
      obtain ⟨hc, hrest⟩ := List.forall_mem_cons.1 h
      have htoken : readFrom before ⟨tokens, []⟩ (c :: rest) =
          readFrom (some c) ⟨letterToken c :: tokens, []⟩ rest := by
        by_cases hmark : c = '?'
        · rw [hmark, readFrom_anyByte]
          rfl
        · rw [readFrom_letter (hc.resolve_left hmark), letterToken, if_neg hmark]
      rw [htoken, ih hrest, List.reverse_cons, List.append_assoc, List.map_cons,
        List.singleton_append]

theorem matchesAll_literals : MatchesAll (cs.map Token.literal) bytes ↔
    bytes = cs.flatMap Text.utf8Bytes := by
  induction cs generalizing bytes with
  | nil => exact matchesAll_nil
  | cons c rest ih =>
      simp only [List.map_cons, matchesAll_cons, Token.matches_literal, ih, List.flatMap_cons]
      constructor
      · intro h
        obtain ⟨_, _, hbytes, rfl, rfl⟩ := h
        exact hbytes
      · intro h
        exact ⟨_, _, h, rfl, rfl⟩

/-- The text has no character that a glob reads as anything but itself. -/
def IsPlain (text : String) : Prop := ∀ c ∈ text.toList, c ∉ controls

instance (text : String) : Decidable (IsPlain text) := List.decidableBAll _ _

/-- Where it is plain, a text is a glob and matches itself alone. -/
theorem exists_literal {source : String} (h : IsPlain source) :
    ∃ pattern, Pattern.compile source = .ok pattern ∧
      ∀ text, pattern.isMatch text = true ↔ text = source := by
  have hliteral : source.toList.map letterToken = source.toList.map Token.literal := by
    refine List.map_congr_left fun c hc => if_neg fun hmark => h c hc ?_
    rw [hmark]
    decide
  have hreads : read source = .ok (source.toList.map Token.literal) := by
    rw [read, readFrom_letters fun c hc => .inr (h c hc), hliteral]
    rfl
  refine ⟨⟨source, _, hreads⟩, Pattern.compile_eq_ok.2 rfl, fun text => ?_⟩
  have hleading : Token.leading ∉ source.toList.map Token.literal := by simp
  show isMatch _ text = true ↔ _
  rw [isMatch_iff, accepts_of_not_mem hleading, matchesAll_literals, ← Text.bytesOf_inj]
  rfl

/-- What a question mark could take instead. -/
def unmarked (c : Char) : Char := if c = '?' then 'x' else c

theorem matchesAll_unmarked (cs : List Char) :
    MatchesAll (cs.map letterToken) ((cs.map unmarked).flatMap Text.utf8Bytes) := by
  induction cs with
  | nil => exact .nil
  | cons c rest ih =>
      refine .cons ?_ ih
      unfold letterToken unmarked
      split
      · exact .anyByte
      · exact .literal

/-- These characters are the only ones, besides none at all, that the tokens match. -/
def MatchesOnly (tokens : List Token) (cs : List Char) : Prop :=
  ∀ others : List Char, others ≠ [] →
    (Accepts tokens (others.flatMap Text.utf8Bytes) ↔ others = cs)

theorem MatchesOnly.matchesAll (h : MatchesOnly tokens cs) (hne : cs ≠ []) :
    MatchesAll tokens (cs.flatMap Text.utf8Bytes) := by
  rcases (h cs hne).2 rfl with hleading | hmatches
  · have hlonger := (h ('a' :: cs) (List.cons_ne_nil _ _)).1 (.inl hleading)
    exact absurd hlonger (List.cons_ne_self _ _)
  · exact hmatches

theorem MatchesOnly.not_mem_spares (h : MatchesOnly tokens cs)
    (hread : readFrom none {} cs = .ok tokens) (hc : c ∈ cs) : c ∉ spares := by
  intro hmem
  have hweight := weight_of_readFrom hread
  have hempty : Draft.weight {} = 0 := rfl
  rw [spare_eq_one hmem hc, hempty, size] at hweight
  rcases short_or_stretches tokens (h.matchesAll (List.ne_nil_of_mem hc)) with
    hshort | ⟨left, right, hcut, hstretch⟩
  · omega
  · -- A text that is longer by something put in between is matched too.
    obtain ⟨more, others, hmore, hothers⟩ := Text.exists_insertion cs hcut
    have hne : others ≠ [] := by
      intro hnil
      rw [hnil] at hothers
      simp [hmore] at hothers
    obtain rfl := (h others hne).1 (.inr (hothers ▸ hstretch more))
    have hlength := congrArg List.length (hcut.symm.trans hothers)
    have hpos := List.length_pos_iff.2 hmore
    simp only [List.length_append] at hlength
    omega

theorem MatchesOnly.not_mem_controls (h : MatchesOnly tokens cs)
    (hread : readFrom none {} cs = .ok tokens) (hc : c ∈ cs) : c ∉ controls := by
  have hletters : ∀ d ∈ cs, d = '?' ∨ d ∉ controls := by
    intro d hd
    by_cases hmark : d = '?'
    · exact .inl hmark
    · refine .inr fun hmem => h.not_mem_spares hread hd ?_
      simpa [controls, spares, hmark] using hmem
  intro hmem
  obtain rfl : c = '?' := (hletters c hc).resolve_right fun hnot => hnot hmem
  have htokens : tokens = cs.map letterToken := by
    rw [readFrom_letters hletters] at hread
    exact (Except.ok.inj hread).symm
  have hunmarked : cs.map unmarked = cs := by
    refine (h (cs.map unmarked) ?_).1 (.inr ?_)
    · simpa using List.ne_nil_of_mem hc
    · rw [htokens]
      exact matchesAll_unmarked cs
  rw [← hunmarked] at hc
  obtain ⟨d, -, hd⟩ := List.mem_map.1 hc
  unfold unmarked at hd
  split at hd
  · cases hd
  · contradiction

/-- The globs that match their own text and, but for the empty one, no other, are the plain texts. -/
theorem matches_itself_alone_iff {source : String} :
    (∃ pattern, Pattern.compile source = .ok pattern ∧
      ∀ text, text ≠ "" → (pattern.isMatch text = true ↔ text = source)) ↔ IsPlain source := by
  constructor
  · intro h
    obtain ⟨⟨text, tokens, hreads⟩, hcompile, hmatch⟩ := h
    obtain rfl : text = source := Pattern.compile_eq_ok.1 hcompile
    have honly : MatchesOnly tokens text.toList := by
      intro cs hcs
      have hne : String.ofList cs ≠ "" := by simpa using hcs
      have hof := hmatch (String.ofList cs) hne
      rw [← String.toList_inj, String.toList_ofList] at hof
      rw [← hof]
      show _ ↔ isMatch tokens (String.ofList cs) = true
      rw [isMatch_iff, Text.bytesOf, String.toList_ofList]
    intro c hc
    exact honly.not_mem_controls hreads hc
  · intro h
    obtain ⟨pattern, hcompile, hmatch⟩ := exists_literal h
    exact ⟨pattern, hcompile, fun text _ => hmatch text⟩

end LoaderGen.Glob
