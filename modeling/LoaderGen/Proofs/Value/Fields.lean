import LoaderGen.Proofs.Value.Order

/-!
# Fields written and read back

A record type is written as fields, some of them only where they hold something, and read back by
their names, in whatever order they are listed by then. The names of the written fields are some of
the type's names, none of them twice, so reading takes every field and refuses none. A field that
was left out reads as what it was left out for, and what was left out is nowhere in the value.
-/

namespace LoaderGen.Value

variable {α : Type}

/-- The value holds nothing: it is null, an empty text or an empty list. -/
def isVoid : Value → Bool
  | null => true
  | text s => s.isEmpty
  | list items => items.isEmpty
  | _ => false

/-- The member of a record that has this name. -/
def member? (name : String) : Value → Option Value
  | record members => members.lookup name
  | _ => none

/-- Reading gives back whatever was written, after its records are ordered this way. -/
def Inverts (way : MemberOrder) (read : Value → Option α) (write : α → Value) : Prop :=
  ∀ a, read (arrange way (write a)) = some a

section Inverts

variable (way : MemberOrder)

theorem inverts_text : Inverts way text? text := by
  intro s
  rfl

theorem inverts_bool : Inverts way bool? bool := by
  intro b
  rfl

theorem intWithin?_int {low high n : Int} (hlow : low ≤ n) (hhigh : n ≤ high) :
    intWithin? low high (arrange way (int n)) = some n :=
  if_pos ⟨hlow, hhigh⟩

theorem inverts_byte : Inverts way byte? fun b : UInt8 => int b.toNat := by
  intro b
  have hbound : b.toNat < 256 := b.toNat_lt
  have hread : intWithin? 0 255 (arrange way (int b.toNat)) = some (b.toNat : Int) :=
    intWithin?_int way (by omega) (by omega)
  rw [byte?, hread, Option.map_some, Int.toNat_natCast, UInt8.ofNat_toNat]

theorem inverts_word32 : Inverts way word32? fun w : UInt32 => int w.toNat := by
  intro w
  have hbound : w.toNat < 4294967296 := w.toNat_lt
  have hread : intWithin? 0 4294967295 (arrange way (int w.toNat)) = some (w.toNat : Int) :=
    intWithin?_int way (by omega) (by omega)
  rw [word32?, hread, Option.map_some, Int.toNat_natCast, UInt32.ofNat_toNat]

theorem inverts_int32 : Inverts way int32? fun n : Int32 => int n.toInt := by
  intro n
  have hlow : -2147483648 ≤ n.toInt := n.le_toInt
  have hhigh : n.toInt < 2147483648 := n.toInt_lt
  have hread : intWithin? (-2147483648) 2147483647 (arrange way (int n.toInt)) = some n.toInt :=
    intWithin?_int way hlow (by omega)
  rw [int32?, hread, Option.map_some, Int32.ofInt_toInt]

variable {way} {read : Value → Option α} {write : α → Value}

theorem Inverts.listOf (h : Inverts way read write) :
    Inverts way (listOf? read) fun items => list (items.map write) := by
  intro items
  rw [arrange, arrangeItems_map]
  show (items.map fun a => arrange way (write a)).mapM read = some items
  induction items with
  | nil => rfl
  | cons a items ih =>
      rw [List.map_cons, List.mapM_cons, h a, ih]
      rfl

/-- Null is kept for what is absent, so nothing that is present may be written as null. -/
theorem Inverts.optional (h : Inverts way read write) (hvoid : ∀ a, (write a).isVoid = false)
    (a : α) : optional? read (arrange way (write a)) = some (some a) := by
  have hread : optional? read (arrange way (write a)) =
      (read (arrange way (write a))).map some := by
    have hpresent := hvoid a
    cases hwritten : write a with
    | null =>
        rw [hwritten] at hpresent
        cases hpresent
    | _ => rfl
  rw [hread, h a, Option.map_some]

end Inverts

section Among

/-- The names of the fields are some of these, in the same order. -/
def Fields.Among (fields : Fields) (names : List String) : Prop :=
  (fields.map Prod.fst).Sublist names

variable {fields others : Fields} {name key : String} {names : List String}

theorem Fields.Among.cons {v : Value} (h : fields.Among names) :
    Fields.Among ((name, v) :: fields) (name :: names) :=
  List.Sublist.cons_cons name h

theorem Fields.Among.append (h : fields.Among [name]) (hothers : others.Among names) :
    Fields.Among (fields ++ others) (name :: names) := by
  unfold Fields.Among at h hothers ⊢
  rw [List.map_append]
  exact h.append hothers

theorem Fields.Among.lookup_eq_none (h : fields.Among names) (hkey : key ∉ names) :
    fields.lookup key = none := by
  rw [List.lookup_eq_none_iff]
  intro field hfield
  rw [bne_iff_ne]
  intro hsame
  have hname : field.1 ∈ names := h.subset (List.mem_map_of_mem hfield)
  exact hkey (hsame ▸ hname)

theorem among_nil : Fields.Among [] [] :=
  List.Sublist.slnil

theorem among_unlessEmpty {s : String} : (unlessEmpty name s).Among [name] := by
  unfold unlessEmpty
  split
  · exact List.nil_sublist _
  · exact among_nil.cons

theorem among_whenSome {write : α → Value} {a : Option α} :
    (whenSome name write a).Among [name] := by
  cases a with
  | none => exact List.nil_sublist _
  | some a => exact among_nil.cons

theorem among_unlessNil {write : α → Value} {items : List α} :
    (unlessNil name write items).Among [name] := by
  unfold unlessNil
  split
  · exact List.nil_sublist _
  · exact among_nil.cons

theorem named?_eq_some (hnodup : (fields.map Prod.fst).Nodup)
    (hnames : ∀ name ∈ fields.map Prod.fst, name ∈ names) : named? names fields = some fields := by
  have hname : ∀ field ∈ fields, names.contains field.1 = true := by
    intro field hfield
    exact List.contains_iff_mem.2 (hnames field.1 (List.mem_map_of_mem hfield))
  have hpartition : fields.partition (fun field => names.contains field.1) = (fields, []) := by
    rw [List.partition_eq_filter_filter, List.filter_eq_self.2 hname]
    have hothers : fields.filter (not ∘ fun field => names.contains field.1) = [] := by
      rw [List.filter_eq_nil_iff]
      intro field hfield
      rw [Function.comp_apply, hname field hfield]
      decide
    rw [hothers]
  unfold named?
  rw [hpartition]
  exact if_pos ⟨hnodup, rfl⟩

/-- The members are the fields with their values ordered, as far as look-ups show. -/
def Fields.Lists (way : MemberOrder) (fields members : Fields) : Prop :=
  ∀ name, members.lookup name = (fields.lookup name).map (arrange way)

/-- Fields among the names of a type are all taken, so the type is read from the members listed. -/
theorem read_record {way : MemberOrder} {format : Format} {read : Fields → Option α} {a : α}
    (hnames : names.Nodup) (h : fields.Among names)
    (hread : ∀ members, fields.Lists way members → read members = some a) :
    ((arrange way (record fields)).fields? format names >>= read) = some a := by
  have hnodup := hnames.sublist h
  -- Ordering a record keeps its names, so these are still among the type's, and none is there twice.
  have hperm := perm_map_fst_order way fields
  have hmembers : (arrange way (record fields)).fields? format names =
      some (way.order (arrangeMembers way fields)) := by
    rw [arrange]
    refine named?_eq_some (hperm.nodup_iff.2 hnodup) ?_
    intro name hname
    exact h.subset (hperm.mem_iff.1 hname)
  rw [hmembers]
  exact hread _ (lookup_order way hnodup)

end Among

section Lookup

variable {key name : String}

@[simp] theorem lookup_unlessEmpty_of_ne (h : key ≠ name) (s : String) :
    (unlessEmpty name s).lookup key = none :=
  among_unlessEmpty.lookup_eq_none (List.mem_singleton.not.2 h)

@[simp] theorem lookup_whenSome_of_ne (h : key ≠ name) (write : α → Value) (a : Option α) :
    (whenSome name write a).lookup key = none :=
  among_whenSome.lookup_eq_none (List.mem_singleton.not.2 h)

@[simp] theorem lookup_unlessNil_of_ne (h : key ≠ name) (write : α → Value) (items : List α) :
    (unlessNil name write items).lookup key = none :=
  among_unlessNil.lookup_eq_none (List.mem_singleton.not.2 h)

variable {way : MemberOrder}

theorem Fields.Lists.required {fields members : Fields} (h : fields.Lists way members)
    (name : String) (read : Value → Option α) :
    members.required name read = (fields.lookup name).bind fun v => read (arrange way v) := by
  show (members.lookup name).bind read = _
  rw [h name, Option.bind_map]
  rfl

theorem Fields.Lists.orElse {fields members : Fields} (h : fields.Lists way members)
    (name : String) (absent : α) (read : Value → Option α) :
    members.orElse name absent read =
      (fields.lookup name).elim (some absent) fun v => read (arrange way v) := by
  unfold Fields.orElse
  rw [h name]
  cases fields.lookup name with
  | none => rfl
  | some v => rfl

@[simp] theorem elim_unlessEmpty (name s : String) :
    ((unlessEmpty name s).lookup name).elim (some "") (fun v => text? (arrange way v)) =
      some s := by
  unfold unlessEmpty
  split
  · next hempty =>
    rw [String.isEmpty_iff.1 hempty]
    rfl
  · rw [List.lookup_cons_self]
    rfl

theorem lookup_unlessEmpty_ne (name s : String) :
    (unlessEmpty name s).lookup name ≠ some (text "") := by
  unfold unlessEmpty
  split
  · exact (Option.some_ne_none _).symm
  · next hsome =>
    rw [List.lookup_cons_self]
    intro h
    cases h
    exact hsome rfl

theorem elim_whenSome {read : Value → Option α} {write : α → Value} (h : Inverts way read write)
    (hvoid : ∀ a, (write a).isVoid = false) (name : String) (a : Option α) :
    ((whenSome name write a).lookup name).elim (some none)
      (fun v => optional? read (arrange way v)) = some a := by
  cases a with
  | none => rfl
  | some a =>
      rw [whenSome, List.lookup_cons_self]
      exact h.optional hvoid a

theorem elim_unlessNil {read : Value → Option α} {write : α → Value} (h : Inverts way read write)
    (name : String) (items : List α) :
    ((unlessNil name write items).lookup name).elim (some [])
      (fun v => listOf? read (arrange way v)) = some items := by
  unfold unlessNil
  split
  · next hempty =>
    rw [List.isEmpty_iff.1 hempty]
    rfl
  · rw [List.lookup_cons_self]
    exact h.listOf items

end Lookup

section Trim

mutual

/-- Nothing in the value is null, and nothing is empty that is given for one of these names. -/
def isTrim (omitted : List String) : Value → Bool
  | null => false
  | list items => areTrim omitted items
  | record fields => membersTrim omitted fields
  | _ => true

def areTrim (omitted : List String) : List Value → Bool
  | [] => true
  | v :: rest => isTrim omitted v && areTrim omitted rest

def membersTrim (omitted : List String) : List (String × Value) → Bool
  | [] => true
  | (name, v) :: rest =>
    !(omitted.contains name && isVoid v) && isTrim omitted v && membersTrim omitted rest

end

variable {omitted : List String} {name : String} {write : α → Value}

theorem isTrim_text (omitted : List String) (s : String) : isTrim omitted (text s) = true :=
  rfl

theorem areTrim_map (h : ∀ a, isTrim omitted (write a) = true) (items : List α) :
    areTrim omitted (items.map write) = true := by
  induction items with
  | nil => rfl
  | cons a items ih => rw [List.map_cons, areTrim, h a, ih, Bool.and_self]

@[simp] theorem membersTrim_append (fields others : Fields) :
    membersTrim omitted (fields ++ others) =
      (membersTrim omitted fields && membersTrim omitted others) := by
  induction fields with
  | nil => rfl
  | cons field fields ih =>
      obtain ⟨name, v⟩ := field
      rw [List.cons_append, membersTrim, membersTrim, ih]
      simp only [Bool.and_assoc]

theorem membersTrim_single {v : Value} (hvoid : v.isVoid = false) (h : isTrim omitted v = true) :
    membersTrim omitted [(name, v)] = true := by
  rw [membersTrim, membersTrim, hvoid, h, Bool.and_false, Bool.not_false, Bool.and_self,
    Bool.and_self]

@[simp] theorem membersTrim_unlessEmpty (s : String) :
    membersTrim omitted (unlessEmpty name s) = true := by
  unfold unlessEmpty
  split
  · rfl
  · next hsome => exact membersTrim_single (Bool.eq_false_iff.2 hsome) rfl

theorem membersTrim_whenSome (hvoid : ∀ a, (write a).isVoid = false)
    (h : ∀ a, isTrim omitted (write a) = true) (a : Option α) :
    membersTrim omitted (whenSome name write a) = true := by
  cases a with
  | none => rfl
  | some a => exact membersTrim_single (hvoid a) (h a)

theorem membersTrim_unlessNil (h : ∀ a, isTrim omitted (write a) = true) (items : List α) :
    membersTrim omitted (unlessNil name write items) = true := by
  unfold unlessNil
  split
  · rfl
  · next hsome =>
    apply membersTrim_single
    · rw [isVoid, List.isEmpty_map]
      exact Bool.eq_false_iff.2 hsome
    · exact areTrim_map h items

end Trim

end LoaderGen.Value
