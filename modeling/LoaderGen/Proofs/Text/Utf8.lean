import LoaderGen.Text.Utf8

/-!
# Characters among bytes

A character that is found anywhere among the bytes of a text is a character of the text: no other
character's bytes begin like it, and none has its first byte further back.
-/

namespace LoaderGen.Text

/-- Wherever the spelling of a character is found in that of a text, the text has the character. -/
def Locates {α : Type} (spell : Char → List α) : Prop :=
  ∀ (cs : List Char) (c : Char) (before after : List α),
    cs.flatMap spell = before ++ (spell c ++ after) →
      ∃ left right, cs = left ++ c :: right ∧ left.flatMap spell = before ∧
        right.flatMap spell = after

theorem utf8Bytes_ne_nil (c : Char) : utf8Bytes c ≠ [] := String.utf8EncodeChar_ne_nil

theorem length_utf8Bytes_pos (c : Char) : 0 < (utf8Bytes c).length :=
  List.length_pos_iff.2 (utf8Bytes_ne_nil c)

theorem utf8Bytes_append_inj {c d : Char} {a b : List UInt8}
    (h : utf8Bytes c ++ a = utf8Bytes d ++ b) : c = d ∧ a = b := by
  have hdecode : ∀ (e : Char) (rest : List UInt8),
      (utf8Bytes e ++ rest).toByteArray.utf8DecodeChar? 0 = some e := by
    intro e rest
    have hfirst := List.utf8DecodeChar?_utf8Encode_singleton_append (c := e) (b := rest.toByteArray)
    rwa [List.utf8Encode, List.flatMap_singleton, ← List.toByteArray_append] at hfirst
  obtain rfl : c = d := by
    have hc := hdecode c a
    rw [h, hdecode d b] at hc
    exact (Option.some.inj hc).symm
  exact ⟨rfl, List.append_cancel_left h⟩

/-- A character begins with a byte of which no character has one further back. -/
theorem exists_first (c : Char) : ∃ b rest, utf8Bytes c = b :: rest ∧ b.IsUTF8FirstByte := by
  obtain ⟨b, rest, hbytes⟩ := List.exists_cons_of_ne_nil (utf8Bytes_ne_nil c)
  have hzero : (utf8Bytes c)[0]? = some b := by
    rw [hbytes]
    rfl
  obtain ⟨hlt, hget⟩ := List.getElem?_eq_some_iff.1 hzero
  refine ⟨b, rest, hbytes, ?_⟩
  rw [← hget]
  exact UInt8.isUTF8FirstByte_getElem_utf8EncodeChar.2 rfl

theorem not_isFirst {c : Char} {b : UInt8} {before after : List UInt8} (hbefore : before ≠ [])
    (h : utf8Bytes c = before ++ b :: after) : ¬ b.IsUTF8FirstByte := by
  have hat : (utf8Bytes c)[before.length]? = some b := by
    rw [h, List.getElem?_append_right (Nat.le_refl _), Nat.sub_self]
    rfl
  obtain ⟨hlt, hget⟩ := List.getElem?_eq_some_iff.1 hat
  intro hfirst
  rw [← hget] at hfirst
  have hzero := UInt8.isUTF8FirstByte_getElem_utf8EncodeChar.1 hfirst
  exact hbefore (List.length_eq_zero_iff.1 hzero)

theorem locates_utf8Bytes : Locates utf8Bytes := by
  intro cs
  induction cs with
  | nil =>
      intro c before after h
      obtain ⟨-, hrest⟩ := List.append_eq_nil_iff.1 h.symm
      exact absurd (List.append_eq_nil_iff.1 hrest).1 (utf8Bytes_ne_nil c)
  | cons d rest ih =>
      intro c before after h
      rw [List.flatMap_cons] at h
      by_cases hbefore : before = []
      · obtain rfl := hbefore
        obtain ⟨rfl, rfl⟩ := utf8Bytes_append_inj h
        exact ⟨[], rest, rfl, rfl, rfl⟩
      · rcases List.append_eq_append_iff.1 h with ⟨further, rfl, hrest⟩ | ⟨inside, hbytes, hrest⟩
        · obtain ⟨left, right, rfl, rfl, rfl⟩ := ih c further after hrest
          exact ⟨d :: left, right, rfl, rfl, rfl⟩
        · cases inside with
          | nil =>
              rw [List.append_nil] at hbytes
              obtain ⟨left, right, rfl, hleft, rfl⟩ := ih c [] after hrest.symm
              refine ⟨d :: left, right, rfl, ?_, rfl⟩
              rw [List.flatMap_cons, hleft, List.append_nil, hbytes]
          | cons b inside =>
              -- The character would begin within the bytes of another.
              obtain ⟨first, others, hfirst, hisFirst⟩ := exists_first c
              rw [hfirst] at hrest
              obtain ⟨rfl, -⟩ := List.cons.inj hrest
              exact absurd hisFirst (not_isFirst hbefore hbytes)

/-- Bytes of a text can be taken apart anywhere and more of them put in, so that it is one again. -/
theorem exists_insertion (cs : List Char) {before after : List UInt8}
    (h : cs.flatMap utf8Bytes = before ++ after) :
    ∃ (more : List UInt8) (cs' : List Char), more ≠ [] ∧
      cs'.flatMap utf8Bytes = before ++ more ++ after := by
  induction cs generalizing before with
  | nil =>
      obtain ⟨rfl, rfl⟩ := List.append_eq_nil_iff.1 h.symm
      exact ⟨utf8Bytes 'a', ['a'], utf8Bytes_ne_nil 'a', by simp⟩
  | cons d rest ih =>
      rw [List.flatMap_cons] at h
      rcases List.append_eq_append_iff.1 h with ⟨further, rfl, hrest⟩ | ⟨inside, hbytes, rfl⟩
      · obtain ⟨more, cs', hmore, hcs⟩ := ih hrest
        exact ⟨more, d :: cs', hmore, by simp [hcs]⟩
      · -- Twice the character that is taken apart.
        refine ⟨inside ++ before, d :: d :: rest, ?_, by simp [hbytes]⟩
        intro hnone
        obtain ⟨rfl, rfl⟩ := List.append_eq_nil_iff.1 hnone
        exact utf8Bytes_ne_nil d hbytes

theorem length_utf8Bytes_eq_one {c : Char} (h : c.toNat < 0x80) : (utf8Bytes c).length = 1 := by
  rw [utf8Bytes, String.length_utf8EncodeChar, Char.utf8Size_eq_one_iff, UInt32.le_iff_toNat_le]
  exact Nat.le_of_lt_succ h

theorem bytesOf_inj {s t : String} : bytesOf s = bytesOf t ↔ s = t := by
  constructor
  · intro h
    rw [← String.toByteArray_inj, ← String.utf8Encode_toList, ← String.utf8Encode_toList]
    exact congrArg List.toByteArray h
  · intro h
    rw [h]

end LoaderGen.Text
