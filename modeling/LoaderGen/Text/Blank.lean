import LoaderGen.Text.Ranges

/-!
# White space

The twenty-five characters with the property White_Space, and trimming by them.
-/

namespace LoaderGen.Text

/-- The characters with the property White_Space. -/
def blankRanges : Ranges := [
  (0x9, 0xD), (0x20, 0x20), (0x85, 0x85), (0xA0, 0xA0), (0x1680, 0x1680), (0x2000, 0x200A),
  (0x2028, 0x2029), (0x202F, 0x202F), (0x205F, 0x205F), (0x3000, 0x3000)]

/-- White space of any script. -/
def isBlank (c : Char) : Bool := blankRanges.contains c

/-- The text without white space at its two ends. -/
def trim (cs : List Char) : List Char :=
  ((cs.dropWhile isBlank).reverse.dropWhile isBlank).reverse

theorem trim_eq_self {cs : List Char} (h : ∀ c ∈ cs, isBlank c = false) : trim cs = cs := by
  have hkept : ∀ {kept : List Char}, (∀ c ∈ kept, isBlank c = false) →
      kept.dropWhile isBlank = kept := by
    intro kept hkept
    cases kept with
    | nil => rfl
    | cons c rest =>
        have hc : ¬ isBlank c = true := by simp [hkept c List.mem_cons_self]
        exact List.dropWhile_cons_of_neg hc
  have hreverse : ∀ c ∈ cs.reverse, isBlank c = false := fun c hc => h c (List.mem_reverse.1 hc)
  rw [trim, hkept h, hkept hreverse, List.reverse_reverse]

theorem trim_prefix {c : Char} (hc : isBlank c = false) (cs : List Char) :
    trim (c :: cs) <+: c :: cs := by
  have hkept : (c :: cs).dropWhile isBlank = c :: cs :=
    List.dropWhile_cons_of_neg (by simp [hc])
  rw [trim, hkept]
  simpa using (List.dropWhile_suffix isBlank (l := (c :: cs).reverse)).reverse

/-- There is nothing but white space. -/
def isAllBlank (text : String) : Bool := text.toList.all isBlank

end LoaderGen.Text
