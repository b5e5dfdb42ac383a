import LoaderGen.Glob.Basic

/-!
# What globs match

A glob matches bytes that can be cut into pieces, one for each token in turn. Matching keeps the
places where the tokens so far can end; a place is such an end exactly when the bytes before it are
a start that was reached and a piece for each token. So the whole text is matched exactly when it
can be cut.
-/

namespace LoaderGen.Glob

mutual

/-- The bytes are a piece for the token. -/
inductive Token.Matches : Token → List UInt8 → Prop where
  | literal {c : Char} : Token.Matches (.literal c) (Text.utf8Bytes c)
  | anyByte {b : UInt8} : Token.Matches .anyByte [b]
  | anyRun {bytes : List UInt8} : Token.Matches .anyRun bytes
  | noLeading : Token.Matches .leading []
  | leading {bytes : List UInt8} : Token.Matches .leading (bytes ++ [slash])
  | trailing {bytes : List UInt8} : Token.Matches .trailing (slash :: bytes)
  | slashBetween : Token.Matches .between [slash]
  | between {bytes : List UInt8} : Token.Matches .between (slash :: bytes ++ [slash])
  | oneOf {negated : Bool} {ranges : List (Char × Char)} {b : UInt8}
      (h : (ranges.any (rangeHolds · b) != negated) = true) :
      Token.Matches (.oneOf negated ranges) [b]
  | noAlternative : Token.Matches (.alternatives []) []
  | alternative {branches : List (List Token)} {branch : List Token} {bytes : List UInt8}
      (hmem : branch ∈ branches) (h : MatchesAll branch bytes) :
      Token.Matches (.alternatives branches) bytes

/-- The bytes can be cut into a piece for each token. -/
inductive MatchesAll : List Token → List UInt8 → Prop where
  | nil : MatchesAll [] []
  | cons {token : Token} {tokens : List Token} {piece bytes : List UInt8}
      (h : token.Matches piece) (hrest : MatchesAll tokens bytes) :
      MatchesAll (token :: tokens) (piece ++ bytes)

end

namespace Reach

variable {bytes before : List UInt8} {reach other : Reach}

/-- The place after these bytes is reached. -/
def Has (reach : Reach) (before : List UInt8) : Prop := reach[before.length]? = some true

/-- There is a place between any two bytes, and one at each end. -/
def Fits (reach : Reach) (bytes : List UInt8) : Prop := reach.length = bytes.length + 1

theorem fits_start : (start bytes).Fits bytes := by
  simp [Fits, start]

theorem Fits.step (h : reach.Fits bytes) (accepts : UInt8 → Bool) :
    (reach.step accepts bytes).Fits bytes := by
  unfold Fits at h ⊢
  simp only [Reach.step, List.length_cons, List.length_zipWith]
  omega

theorem length_onward (earlier : Bool) (reach : Reach) :
    (reach.onward earlier).length = reach.length := by
  induction reach generalizing earlier with
  | nil => rfl
  | cons reached rest ih => simp [onward, ih]

theorem Fits.onward (h : reach.Fits bytes) (earlier : Bool) :
    (reach.onward earlier).Fits bytes := by
  rw [Fits, length_onward]
  exact h

theorem Fits.either (h : reach.Fits bytes) (hother : other.Fits bytes) :
    (either reach other).Fits bytes := by
  unfold Fits at *
  simp only [Reach.either, List.length_zipWith]
  omega

theorem Fits.nowhere (h : reach.Fits bytes) : reach.nowhere.Fits bytes := by
  simpa [Fits, Reach.nowhere] using h

theorem has_start : (start bytes).Has before ↔ before = [] := by
  unfold Has start
  cases before with
  | nil => exact iff_of_true rfl rfl
  | cons b rest =>
      rw [List.length_cons, List.getElem?_cons_succ, List.getElem?_map]
      cases bytes[rest.length]? <;> simp

theorem has_step (accepts : UInt8 → Bool) (hinitial : before <+: bytes) :
    (reach.step accepts bytes).Has before ↔
      ∃ earlier b, before = earlier ++ [b] ∧ reach.Has earlier ∧ accepts b = true := by
  rcases List.eq_nil_or_concat before with rfl | ⟨earlier, b, hconcat⟩
  · simp [Has, step]
  · rw [List.concat_eq_append] at hconcat
    subst hconcat
    have hbyte : bytes[earlier.length]? = some b := by
      obtain ⟨after, rfl⟩ := hinitial
      simp
    have hplace : (reach.step accepts bytes).Has (earlier ++ [b]) ↔
        reach.Has earlier ∧ accepts b = true := by
      unfold Has step
      rw [List.length_append, List.length_singleton, List.getElem?_cons_succ,
        List.getElem?_zipWith, hbyte]
      cases reach[earlier.length]? <;> simp
    rw [hplace]
    constructor
    · intro h
      exact ⟨earlier, b, rfl, h⟩
    · intro h
      obtain ⟨other, c, heq, hreached⟩ := h
      obtain ⟨rfl, hb⟩ := List.append_inj' heq rfl
      cases hb
      exact hreached

theorem getElem?_onward (earlier : Bool) (reach : Reach) (i : Nat) :
    (reach.onward earlier)[i]? = some true ↔
      i < reach.length ∧ (earlier = true ∨ ∃ j ≤ i, reach[j]? = some true) := by
  induction reach generalizing earlier i with
  | nil => simp [onward]
  | cons reached rest ih =>
      cases i with
      | zero => simp [onward]
      | succ i =>
          rw [onward, List.getElem?_cons_succ, ih, List.length_cons, Nat.succ_lt_succ_iff,
            Bool.or_eq_true, or_assoc]
          refine and_congr_right fun _ => or_congr_right ?_
          constructor
          · intro h
            rcases h with hfirst | ⟨j, hj, hreached⟩
            · exact ⟨0, Nat.zero_le _, by simp [hfirst]⟩
            · exact ⟨j + 1, Nat.succ_le_succ hj, hreached⟩
          · intro h
            obtain ⟨j, hj, hreached⟩ := h
            cases j with
            | zero => exact .inl (by simpa using hreached)
            | succ j => exact .inr ⟨j, Nat.le_of_succ_le_succ hj, hreached⟩

theorem has_onward (h : reach.Fits bytes) (hinitial : before <+: bytes) :
    (reach.onward false).Has before ↔
      ∃ start piece, before = start ++ piece ∧ reach.Has start := by
  have hlt : before.length < reach.length := by
    have hle := hinitial.length_le
    unfold Fits at h
    omega
  unfold Has
  rw [getElem?_onward, and_iff_right hlt]
  constructor
  · intro hreached
    rcases hreached with hfalse | ⟨j, hj, hreached⟩
    · cases hfalse
    · refine ⟨before.take j, before.drop j, (List.take_append_drop j before).symm, ?_⟩
      rwa [List.length_take, Nat.min_eq_left hj]
  · intro hreached
    obtain ⟨start, piece, rfl, hreached⟩ := hreached
    exact .inr ⟨start.length, by simp, hreached⟩

theorem has_either (h : reach.Fits bytes) (hother : other.Fits bytes) (hinitial : before <+: bytes) :
    (either reach other).Has before ↔ reach.Has before ∨ other.Has before := by
  have hle := hinitial.length_le
  unfold Fits at h hother
  have hreach : before.length < reach.length := by omega
  have hothers : before.length < other.length := by omega
  unfold Has either
  rw [List.getElem?_zipWith, List.getElem?_eq_getElem hreach, List.getElem?_eq_getElem hothers]
  simp

theorem not_has_nowhere : ¬ reach.nowhere.Has before := by
  unfold Has nowhere
  rw [List.getElem?_map]
  cases reach[before.length]? <;> simp

theorem atEnd_iff (h : reach.Fits bytes) : reach.atEnd = true ↔ reach.Has bytes := by
  rw [atEnd, beq_iff_eq, Has, List.getLast?_eq_getElem?, h, Nat.add_sub_cancel]

/-- The places of `next` are those of `reach`, each one piece further that is of the given kind. -/
structure Leads (bytes : List UInt8) (reach : Reach) (IsPiece : List UInt8 → Prop) (next : Reach) :
    Prop where
  fits : next.Fits bytes
  has_iff : ∀ before, before <+: bytes →
    (next.Has before ↔ ∃ start piece, before = start ++ piece ∧ reach.Has start ∧ IsPiece piece)

section Leads

variable {IsPiece IsOther : List UInt8 → Prop} {next : Reach}

theorem Leads.congr (h : Leads bytes reach IsPiece next)
    (hpiece : ∀ piece, IsPiece piece ↔ IsOther piece) : Leads bytes reach IsOther next := by
  obtain rfl : IsPiece = IsOther := funext fun piece => propext (hpiece piece)
  exact h

theorem Fits.leads (h : reach.Fits bytes) : Leads bytes reach (· = []) reach where
  fits := h
  has_iff before _ := by simp

theorem Fits.leads_step (h : reach.Fits bytes) (accepts : UInt8 → Bool) :
    Leads bytes reach (fun piece => ∃ b, piece = [b] ∧ accepts b = true)
      (reach.step accepts bytes) where
  fits := h.step accepts
  has_iff before hinitial := by
    rw [has_step accepts hinitial]
    constructor
    · intro hreached
      obtain ⟨earlier, b, hbefore, hearlier, hb⟩ := hreached
      exact ⟨earlier, [b], hbefore, hearlier, b, rfl, hb⟩
    · intro hreached
      obtain ⟨earlier, piece, hbefore, hearlier, b, rfl, hb⟩ := hreached
      exact ⟨earlier, b, hbefore, hearlier, hb⟩

theorem Fits.leads_onward (h : reach.Fits bytes) :
    Leads bytes reach (fun _ => True) (reach.onward false) where
  fits := h.onward false
  has_iff before hinitial := by
    rw [has_onward h hinitial]
    simp only [and_true]

theorem Fits.leads_nowhere (h : reach.Fits bytes) :
    Leads bytes reach (fun _ => False) reach.nowhere where
  fits := h.nowhere
  has_iff before _ := by simp [not_has_nowhere]

theorem Leads.trans (h : Leads bytes reach IsPiece next) (hother : Leads bytes next IsOther other) :
    Leads bytes reach (fun piece => ∃ first second, piece = first ++ second ∧ IsPiece first ∧
      IsOther second) other where
  fits := hother.fits
  has_iff before hinitial := by
    rw [hother.has_iff before hinitial]
    constructor
    · intro hreached
      obtain ⟨middle, second, rfl, hmiddle, hsecond⟩ := hreached
      have hshort : middle <+: bytes := (List.prefix_append middle second).trans hinitial
      obtain ⟨start, first, rfl, hstart, hfirst⟩ := (h.has_iff middle hshort).1 hmiddle
      exact ⟨start, first ++ second, List.append_assoc _ _ _, hstart, first, second, rfl, hfirst,
        hsecond⟩
    · intro hreached
      obtain ⟨start, piece, rfl, hstart, first, second, rfl, hfirst, hsecond⟩ := hreached
      rw [← List.append_assoc] at hinitial ⊢
      have hshort : start ++ first <+: bytes :=
        (List.prefix_append (start ++ first) second).trans hinitial
      exact ⟨start ++ first, second, rfl, (h.has_iff _ hshort).2 ⟨start, first, rfl, hstart, hfirst⟩,
        hsecond⟩

theorem Leads.either (h : Leads bytes reach IsPiece next)
    (hother : Leads bytes reach IsOther other) :
    Leads bytes reach (fun piece => IsPiece piece ∨ IsOther piece) (either next other) where
  fits := h.fits.either hother.fits
  has_iff before hinitial := by
    rw [has_either h.fits hother.fits hinitial, h.has_iff before hinitial,
      hother.has_iff before hinitial]
    simp only [and_or_left, exists_or]

end Leads

end Reach

/-! ### Tokens -/

theorem leads_byte {bytes : List UInt8} {reach : Reach} (h : reach.Fits bytes) (b : UInt8) :
    Reach.Leads bytes reach (· = [b]) (reach.step (· == b) bytes) := by
  refine (h.leads_step (· == b)).congr fun piece => ?_
  simp only [beq_iff_eq, exists_eq_right]

theorem leads_literal {bytes : List UInt8} {reach : Reach} (h : reach.Fits bytes)
    (spelled : List UInt8) :
    Reach.Leads bytes reach (· = spelled)
      (spelled.foldl (fun reach b => Reach.step (· == b) bytes reach) reach) := by
  induction spelled generalizing reach with
  | nil => exact h.leads
  | cons b rest ih =>
      have hfirst := leads_byte h b
      refine (hfirst.trans (ih hfirst.fits)).congr fun piece => ?_
      constructor
      · intro hpiece
        obtain ⟨_, _, rfl, rfl, rfl⟩ := hpiece
        rfl
      · intro hpiece
        exact ⟨[b], rest, hpiece, rfl, rfl⟩

theorem Token.matches_literal {c : Char} {bytes : List UInt8} :
    Token.Matches (.literal c) bytes ↔ bytes = Text.utf8Bytes c := by
  constructor
  · intro h
    cases h
    rfl
  · intro h
    exact h ▸ .literal

theorem matchesAll_nil {bytes : List UInt8} : MatchesAll [] bytes ↔ bytes = [] := by
  constructor
  · intro h
    cases h
    rfl
  · intro h
    exact h ▸ .nil

theorem matchesAll_cons {token : Token} {tokens : List Token} {bytes : List UInt8} :
    MatchesAll (token :: tokens) bytes ↔
      ∃ piece rest, bytes = piece ++ rest ∧ token.Matches piece ∧ MatchesAll tokens rest := by
  constructor
  · intro h
    cases h with
    | cons h hrest => exact ⟨_, _, rfl, h, hrest⟩
  · intro h
    obtain ⟨piece, rest, rfl, h, hrest⟩ := h
    exact .cons h hrest

theorem matchesAll_append {first second : List Token} {bytes : List UInt8} :
    MatchesAll (first ++ second) bytes ↔
      ∃ left right, bytes = left ++ right ∧ MatchesAll first left ∧ MatchesAll second right := by
  induction first generalizing bytes with
  | nil =>
      simp only [List.nil_append, matchesAll_nil]
      constructor
      · intro h
        exact ⟨[], bytes, rfl, rfl, h⟩
      · intro h
        obtain ⟨left, right, rfl, rfl, hright⟩ := h
        exact hright
  | cons token tokens ih =>
      rw [List.cons_append, matchesAll_cons]
      constructor
      · intro h
        obtain ⟨piece, rest, rfl, hpiece, hrest⟩ := h
        obtain ⟨left, right, rfl, hleft, hright⟩ := ih.1 hrest
        exact ⟨piece ++ left, right, (List.append_assoc _ _ _).symm, .cons hpiece hleft, hright⟩
      · intro h
        obtain ⟨left, right, rfl, hleft, hright⟩ := h
        obtain ⟨piece, rest, rfl, hpiece, hrest⟩ := matchesAll_cons.1 hleft
        exact ⟨piece, rest ++ right, List.append_assoc _ _ _, hpiece,
          ih.2 ⟨rest, right, rfl, hrest, hright⟩⟩

mutual

theorem Token.leads_advance {bytes : List UInt8} {reach : Reach} (h : reach.Fits bytes) :
    (token : Token) → Reach.Leads bytes reach token.Matches (token.advance bytes reach)
  | .literal c => by
      rw [Token.advance]
      exact (leads_literal h (Text.utf8Bytes c)).congr fun piece => Token.matches_literal.symm
  | .anyByte => by
      rw [Token.advance]
      refine (h.leads_step _).congr fun piece => ?_
      constructor
      · intro hpiece
        obtain ⟨b, rfl, -⟩ := hpiece
        exact .anyByte
      · intro hpiece
        cases hpiece
        exact ⟨_, rfl, rfl⟩
  | .anyRun => by
      rw [Token.advance]
      refine h.leads_onward.congr fun piece => ?_
      exact iff_of_true trivial .anyRun
  | .leading => by
      rw [Token.advance]
      refine (h.leads.either (h.leads_onward.trans (leads_byte (h.onward false) slash))).congr
        fun piece => ?_
      constructor
      · intro hpiece
        rcases hpiece with rfl | ⟨bytes, _, rfl, -, rfl⟩
        · exact .noLeading
        · exact .leading
      · intro hpiece
        cases hpiece with
        | noLeading => exact .inl rfl
        | leading => exact .inr ⟨_, _, rfl, trivial, rfl⟩
  | .trailing => by
      have hslash := leads_byte h slash
      rw [Token.advance]
      refine (hslash.trans hslash.fits.leads_onward).congr fun piece => ?_
      constructor
      · intro hpiece
        obtain ⟨_, bytes, rfl, rfl, -⟩ := hpiece
        exact .trailing
      · intro hpiece
        cases hpiece
        exact ⟨[slash], _, rfl, rfl, trivial⟩
  | .between => by
      have hslash := leads_byte h slash
      rw [Token.advance]
      refine (hslash.either (hslash.trans (hslash.fits.leads_onward.trans
        (leads_byte (hslash.fits.onward false) slash)))).congr fun piece => ?_
      constructor
      · intro hpiece
        rcases hpiece with rfl | ⟨_, _, rfl, rfl, bytes, _, rfl, -, rfl⟩
        · exact .slashBetween
        · exact .between
      · intro hpiece
        cases hpiece with
        | slashBetween => exact .inl rfl
        | between => exact .inr ⟨[slash], _, rfl, rfl, _, _, rfl, trivial, rfl⟩
  | .oneOf negated ranges => by
      rw [Token.advance]
      refine (h.leads_step _).congr fun piece => ?_
      constructor
      · intro hpiece
        obtain ⟨b, rfl, hb⟩ := hpiece
        exact .oneOf hb
      · intro hpiece
        cases hpiece with
        | oneOf hb => exact ⟨_, rfl, hb⟩
  | .alternatives [] => by
      rw [Token.advance]
      refine h.leads.congr fun piece => ?_
      constructor
      · intro hpiece
        exact hpiece ▸ .noAlternative
      · intro hpiece
        cases hpiece with
        | noAlternative => rfl
        | alternative hmem _ => cases hmem
  | .alternatives (branch :: branches) => by
      rw [Token.advance]
      refine ((leads_advanceAll h branch).either (leads_advanceAny h branches)).congr fun piece => ?_
      constructor
      · intro hpiece
        rcases hpiece with hbranch | ⟨other, hother, hbranch⟩
        · exact .alternative List.mem_cons_self hbranch
        · exact .alternative (List.mem_cons_of_mem branch hother) hbranch
      · intro hpiece
        cases hpiece with
        | alternative hmem hbranch =>
            rcases List.mem_cons.1 hmem with rfl | hother
            · exact .inl hbranch
            · exact .inr ⟨_, hother, hbranch⟩

theorem leads_advanceAll {bytes : List UInt8} {reach : Reach} (h : reach.Fits bytes) :
    (tokens : List Token) →
      Reach.Leads bytes reach (MatchesAll tokens) (advanceAll bytes reach tokens)
  | [] => by
      rw [advanceAll]
      exact h.leads.congr fun piece => matchesAll_nil.symm
  | token :: tokens => by
      have hfirst := Token.leads_advance h token
      rw [advanceAll]
      refine (hfirst.trans (leads_advanceAll hfirst.fits tokens)).congr fun piece => ?_
      exact matchesAll_cons.symm

theorem leads_advanceAny {bytes : List UInt8} {reach : Reach} (h : reach.Fits bytes) :
    (branches : List (List Token)) →
      Reach.Leads bytes reach (fun piece => ∃ branch ∈ branches, MatchesAll branch piece)
        (advanceAny bytes reach branches)
  | [] => by
      rw [advanceAny]
      refine h.leads_nowhere.congr fun piece => ?_
      simp only [List.not_mem_nil, false_and, exists_false]
  | branch :: branches => by
      rw [advanceAny]
      refine ((leads_advanceAll h branch).either (leads_advanceAny h branches)).congr fun piece => ?_
      simp only [List.mem_cons, exists_eq_or_imp]

end

/-- The tokens match these bytes as a whole. Where there is nothing else, what would end in a slash
matches anything. -/
def Accepts (tokens : List Token) (bytes : List UInt8) : Prop :=
  tokens = [.leading] ∨ MatchesAll tokens bytes

theorem accepts_of_not_mem {tokens : List Token} {bytes : List UInt8}
    (h : .leading ∉ tokens) : Accepts tokens bytes ↔ MatchesAll tokens bytes := by
  refine or_iff_right fun heq => h ?_
  rw [heq]
  exact List.mem_singleton_self _

/-- Matching finds a cut wherever there is one. -/
theorem isMatch_iff {tokens : List Token} {text : String} :
    isMatch tokens text = true ↔ Accepts tokens (Text.bytesOf text) := by
  unfold isMatch
  split
  · exact iff_of_true rfl (.inl rfl)
  · next hother =>
    have hfits : (Reach.start (Text.bytesOf text)).Fits (Text.bytesOf text) := Reach.fits_start
    have hleads := leads_advanceAll hfits tokens
    rw [Reach.atEnd_iff hleads.fits, hleads.has_iff _ (List.prefix_refl _)]
    simp only [Reach.has_start]
    constructor
    · intro h
      obtain ⟨start, piece, hbytes, rfl, hpiece⟩ := h
      exact .inr (hbytes ▸ hpiece)
    · intro h
      rcases h with hleading | hmatches
      · exact absurd hleading hother
      · exact ⟨[], _, rfl, rfl, hmatches⟩

end LoaderGen.Glob
