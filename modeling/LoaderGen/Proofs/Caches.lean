import LoaderGen.Proofs.Dropped
import LoaderGen.Proofs.Lookup

/-!
# Which entry decides a cache

The cache of a loader is decided by the first entry that is for it and of a kind that there is. An
entry at fault ends the run only where it decides, so one for a struct without a loader does no
harm, nor does one that comes after the deciding entry. Entries of unknown kinds decide nothing,
wherever they stand.
-/

namespace LoaderGen

namespace CacheEntry

variable {entry : CacheEntry} {struct : Struct}

/-- The kind of the entry is one that there is. -/
def IsActive (entry : CacheEntry) : Prop := entry.kind = "memory" ∨ entry.kind = "lru"

instance : DecidablePred IsActive := fun entry =>
  inferInstanceAs (Decidable (entry.kind = "memory" ∨ entry.kind = "lru"))

/-- The entry has the name of the struct's table, or that of its loader. -/
def IsFor (entry : CacheEntry) (struct : Struct) : Prop :=
  (entry.table ≠ "" ∧ entry.table = struct.fullTableName) ∨
    (entry.loaderName ≠ "" ∧ entry.loaderName = struct.loaderName)

/-- The entry bounds a cache by a size that is not positive, or by a time that cannot be read. -/
def IsFaulty (entry : CacheEntry) : Prop :=
  entry.kind = "lru" ∧
    (entry.size.toInt ≤ 0 ∨ ∃ fault, Duration.parse entry.ttl = .error fault)

/-- What comes of an entry that decides. The size is looked at before the time. -/
inductive Makes (entry : CacheEntry) : Except OptionsError CachePolicy → Prop where
  | memory (hkind : entry.kind = "memory") : entry.Makes (.ok .unboundedMemory)
  | lru {ttl : Duration} (hkind : entry.kind = "lru") (hsize : 0 < entry.size.toInt)
      (httl : Duration.parse entry.ttl = .ok ttl) :
      entry.Makes (.ok (.boundedLru entry.size.toInt.toNat ttl))
  | sizeFault (hkind : entry.kind = "lru") (hsize : entry.size.toInt ≤ 0) :
      entry.Makes (.error (.cacheSize entry.target entry.size))
  | ttlFault {fault : Duration.Fault} (hkind : entry.kind = "lru") (hsize : 0 < entry.size.toInt)
      (httl : Duration.parse entry.ttl = .error fault) :
      entry.Makes (.error (.cacheTtl entry.target entry.ttl fault))

theorem targets_iff :
    entry.targets struct.fullTableName struct.loaderName = true ↔ entry.IsFor struct := by
  simp [targets, IsFor]

theorem policy_of_not_isActive (h : ¬ entry.IsActive) : entry.policy = .ok none := by
  obtain ⟨hmemory, hlru⟩ := not_or.1 h
  rw [policy, if_neg hmemory, if_neg hlru]

theorem Makes.policy_eq {outcome : Except OptionsError CachePolicy} (h : entry.Makes outcome) :
    entry.policy = outcome.map some := by
  cases h with
  | memory hkind =>
      rw [policy, if_pos hkind]
      rfl
  | lru hkind hsize httl =>
      simp only [policy, hkind, if_pos hsize, httl]
      rfl
  | sizeFault hkind hsize =>
      simp only [policy, hkind, if_neg (Int.not_lt.2 hsize)]
      rfl
  | ttlFault hkind hsize httl =>
      simp only [policy, hkind, if_pos hsize, httl]
      rfl

theorem exists_makes (h : entry.IsActive) : ∃ outcome, entry.Makes outcome := by
  obtain hmemory | hlru := h
  · exact ⟨_, .memory hmemory⟩
  · by_cases hsize : 0 < entry.size.toInt
    · cases httl : Duration.parse entry.ttl with
      | ok ttl => exact ⟨_, .lru hlru hsize httl⟩
      | error fault => exact ⟨_, .ttlFault hlru hsize httl⟩
    · exact ⟨_, .sizeFault hlru (Int.not_lt.1 hsize)⟩

theorem isFaulty_iff : entry.IsFaulty ↔ ∃ e, entry.Makes (.error e) := by
  constructor
  · rintro ⟨hlru, hsize | ⟨fault, httl⟩⟩
    · exact ⟨_, .sizeFault hlru hsize⟩
    · by_cases hsize : 0 < entry.size.toInt
      · exact ⟨_, .ttlFault hlru hsize httl⟩
      · exact ⟨_, .sizeFault hlru (Int.not_lt.1 hsize)⟩
  · rintro ⟨e, hmakes⟩
    cases hmakes with
    | sizeFault hkind hsize => exact ⟨hkind, .inl hsize⟩
    | ttlFault hkind hsize httl => exact ⟨hkind, .inr ⟨_, httl⟩⟩

theorem policy_eq_error_iff {e : OptionsError} : entry.policy = .error e ↔ entry.Makes (.error e) := by
  refine ⟨fun h => ?_, fun h => h.policy_eq⟩
  by_cases hactive : entry.IsActive
  · obtain ⟨outcome, hmakes⟩ := exists_makes hactive
    rw [hmakes.policy_eq, map_eq_error] at h
    exact h ▸ hmakes
  · rw [policy_of_not_isActive hactive] at h
    cases h

theorem isSound_iff : entry.IsSound ↔ ¬ entry.IsFaulty := by
  simp only [IsSound, exists_eq_ok_iff, isFaulty_iff, policy_eq_error_iff]

/-- An entry that is not at fault makes a policy, or it is inert. -/
theorem not_isFaulty_iff :
    ¬ entry.IsFaulty ↔ (∃ policy, entry.Makes (.ok policy)) ∨ ¬ entry.IsActive := by
  constructor
  · intro hsound
    by_cases hactive : entry.IsActive
    · obtain ⟨outcome, hmakes⟩ := exists_makes hactive
      cases outcome with
      | ok policy => exact .inl ⟨policy, hmakes⟩
      | error e => exact absurd (isFaulty_iff.2 ⟨e, hmakes⟩) hsound
    · exact .inr hactive
  · rintro (⟨policy, hmakes⟩ | hinert)
    · exact isSound_iff.1 ⟨some policy, hmakes.policy_eq⟩
    · exact isSound_iff.1 ⟨none, policy_of_not_isActive hinert⟩

theorem Makes.size_pos {size : Nat} {ttl : Duration}
    (h : entry.Makes (.ok (.boundedLru size ttl))) : 0 < size := by
  cases h with
  | lru hkind hsize httl => omega

end CacheEntry

namespace Struct

variable {struct : Struct} {cache rest : List CacheEntry} {entry : CacheEntry}

/-- The entry decides: it is the first one for the struct that is of a kind that there is. -/
def DecidedBy (struct : Struct) (cache : List CacheEntry) (entry : CacheEntry) : Prop :=
  IsFirst (fun entry => entry.IsActive ∧ entry.IsFor struct) cache entry

/-- What comes of the entries for a struct: what the deciding one makes, or without one no cache. -/
inductive CacheIs (struct : Struct) (cache : List CacheEntry) :
    Except OptionsError CachePolicy → Prop where
  | decided {entry : CacheEntry} {outcome : Except OptionsError CachePolicy}
      (hentry : struct.DecidedBy cache entry) (hmakes : entry.Makes outcome) :
      struct.CacheIs cache outcome
  | undecided (hnone : ∀ entry ∈ cache, ¬ (entry.IsActive ∧ entry.IsFor struct)) :
      struct.CacheIs cache (.ok .noCache)

/-- The cache that the loader of the struct is assigned. -/
def assignedPolicy (struct : Struct) (cache : List CacheEntry) : Except OptionsError CachePolicy :=
  Loader.assignPolicy cache struct.fullTableName struct.loaderName

theorem assignedPolicy_cons_of_makes (hfor : entry.IsFor struct)
    {outcome : Except OptionsError CachePolicy} (hmakes : entry.Makes outcome) :
    struct.assignedPolicy (entry :: rest) = outcome := by
  rw [assignedPolicy, Loader.assignPolicy, if_pos (CacheEntry.targets_iff.2 hfor), hmakes.policy_eq]
  cases outcome with
  | ok policy => rfl
  | error e => rfl

/-- An entry that cannot decide is passed over. -/
theorem assignedPolicy_cons_of_not (h : ¬ (entry.IsActive ∧ entry.IsFor struct)) :
    struct.assignedPolicy (entry :: rest) = struct.assignedPolicy rest := by
  rw [assignedPolicy, Loader.assignPolicy]
  split
  · next htargets =>
    have hinert : ¬ entry.IsActive := fun hactive => h ⟨hactive, CacheEntry.targets_iff.1 htargets⟩
    rw [CacheEntry.policy_of_not_isActive hinert]
    rfl
  · rfl

theorem assignedPolicy_append_of_not {before : List CacheEntry}
    (h : ∀ entry ∈ before, ¬ (entry.IsActive ∧ entry.IsFor struct)) :
    struct.assignedPolicy (before ++ rest) = struct.assignedPolicy rest := by
  induction before with
  | nil => rfl
  | cons entry before ih =>
      obtain ⟨hentry, hbefore⟩ := List.forall_mem_cons.1 h
      rw [List.cons_append, assignedPolicy_cons_of_not hentry, ih hbefore]

theorem assignedPolicy_filter (struct : Struct) (cache : List CacheEntry) :
    struct.assignedPolicy (cache.filter (·.IsActive)) = struct.assignedPolicy cache := by
  induction cache with
  | nil => rfl
  | cons entry cache ih =>
      by_cases hactive : entry.IsActive
      · rw [List.filter_cons_of_pos (by simpa using hactive)]
        by_cases hfor : entry.IsFor struct
        · obtain ⟨outcome, hmakes⟩ := CacheEntry.exists_makes hactive
          rw [assignedPolicy_cons_of_makes hfor hmakes, assignedPolicy_cons_of_makes hfor hmakes]
        · rw [assignedPolicy_cons_of_not fun h => hfor h.2, ih,
            assignedPolicy_cons_of_not fun h => hfor h.2]
      · rw [List.filter_cons_of_neg (by simpa using hactive), ih,
          assignedPolicy_cons_of_not fun h => hactive h.1]

theorem decidedBy_or_undecided (struct : Struct) (cache : List CacheEntry) :
    (∃ entry, struct.DecidedBy cache entry) ∨
      ∀ entry ∈ cache, ¬ (entry.IsActive ∧ entry.IsFor struct) := by
  have hdecides : ∀ entry : CacheEntry, entry.IsActive ∧ entry.IsFor struct ↔
      decide entry.IsActive = true ∧
        entry.targets struct.fullTableName struct.loaderName = true := by
    intro entry
    rw [decide_eq_true_eq, CacheEntry.targets_iff]
  cases hfound : (cache.filter (·.IsActive)).find?
      (·.targets struct.fullTableName struct.loaderName) with
  | some entry => exact .inl ⟨entry, (find?_filter_eq_some hdecides).1 hfound⟩
  | none => exact .inr ((find?_filter_eq_none hdecides).1 hfound)

theorem CacheIs.assignedPolicy_eq {outcome : Except OptionsError CachePolicy}
    (h : struct.CacheIs cache outcome) : struct.assignedPolicy cache = outcome := by
  cases h with
  | decided hentry hmakes =>
      obtain ⟨before, after, rfl, hdecides, hbefore⟩ := hentry
      rw [assignedPolicy_append_of_not hbefore,
        assignedPolicy_cons_of_makes hdecides.2 hmakes]
  | undecided hnone =>
      have hpass : struct.assignedPolicy (cache ++ []) = .ok .noCache :=
        assignedPolicy_append_of_not hnone
      rwa [List.append_nil] at hpass

theorem assignedPolicy_eq_iff {outcome : Except OptionsError CachePolicy} :
    struct.assignedPolicy cache = outcome ↔ struct.CacheIs cache outcome := by
  refine ⟨fun h => ?_, CacheIs.assignedPolicy_eq⟩
  -- Something comes of the entries in any case, and it is what the search gives.
  obtain ⟨found, hfound⟩ : ∃ found, struct.CacheIs cache found := by
    obtain ⟨entry, hentry⟩ | hnone := struct.decidedBy_or_undecided cache
    · obtain ⟨outcome, hmakes⟩ := CacheEntry.exists_makes hentry.has.1
      exact ⟨outcome, .decided hentry hmakes⟩
    · exact ⟨_, .undecided hnone⟩
  rw [← h, hfound.assignedPolicy_eq]
  exact hfound

theorem cacheIs_error_iff {e : OptionsError} :
    struct.CacheIs cache (.error e) ↔
      ∃ entry, struct.DecidedBy cache entry ∧ entry.Makes (.error e) := by
  constructor
  · intro h
    cases h with
    | decided hentry hmakes => exact ⟨_, hentry, hmakes⟩
  · rintro ⟨entry, hentry, hmakes⟩
    exact .decided hentry hmakes

/-- The entry that decides for the struct is at fault. -/
def MeetsFault (struct : Struct) (cache : List CacheEntry) : Prop :=
  ∃ entry, struct.DecidedBy cache entry ∧ entry.IsFaulty

theorem meetsFault_iff : struct.MeetsFault cache ↔ ∃ e, struct.CacheIs cache (.error e) := by
  simp only [cacheIs_error_iff, MeetsFault, CacheEntry.isFaulty_iff]
  constructor
  · rintro ⟨entry, hentry, e, hmakes⟩
    exact ⟨e, entry, hentry, hmakes⟩
  · rintro ⟨e, entry, hentry, hmakes⟩
    exact ⟨entry, hentry, e, hmakes⟩

theorem CacheIs.size_pos {size : Nat} {ttl : Duration}
    (h : struct.CacheIs cache (.ok (.boundedLru size ttl))) : 0 < size := by
  cases h with
  | decided hentry hmakes => exact hmakes.size_pos

end Struct

namespace Loader

variable {struct : Struct} {cache : List CacheEntry} {exclude : List String}

theorem ofStruct_eq_map (cache : List CacheEntry) (struct : Struct) :
    ofStruct cache struct =
      (struct.assignedPolicy cache).map fun policy => ⟨struct, struct.loaderName, policy⟩ :=
  rfl

/-- The loader is the one of the struct, with what the entries make of its cache. -/
structure IsOf (loader : Loader) (struct : Struct) (cache : List CacheEntry) : Prop where
  struct_eq : loader.struct = struct
  name_eq : loader.name = struct.loaderName
  cacheIs : struct.CacheIs cache (.ok loader.cache)

theorem ofStruct_eq_ok {loader : Loader} :
    ofStruct cache struct = .ok loader ↔ loader.IsOf struct cache := by
  rw [ofStruct_eq_map, map_eq_ok]
  simp only [Struct.assignedPolicy_eq_iff]
  constructor
  · rintro ⟨policy, hpolicy, rfl⟩
    exact ⟨rfl, rfl, hpolicy⟩
  · rintro ⟨rfl, hname, hpolicy⟩
    exact ⟨loader.cache, hpolicy, by rw [← hname]⟩

theorem ofStruct_eq_error {e : OptionsError} :
    ofStruct cache struct = .error e ↔ struct.CacheIs cache (.error e) := by
  rw [ofStruct_eq_map, map_eq_error, Struct.assignedPolicy_eq_iff]

/-- Entries of unknown kinds can be put in and taken out. -/
theorem assign_congr {structs : List Struct} {others : List CacheEntry}
    (h : others.filter (·.IsActive) = cache.filter (·.IsActive)) :
    assign structs others exclude = assign structs cache exclude := by
  have hsame : ofStruct others = ofStruct cache := by
    funext struct
    rw [ofStruct_eq_map, ofStruct_eq_map, ← Struct.assignedPolicy_filter, h,
      Struct.assignedPolicy_filter]
  rw [assign, assign, hsame]

theorem assign_eq_ok {structs : List Struct} {loaders : List Loader} :
    assign structs cache exclude = .ok loaders ↔
      List.Forall₂ (fun struct loader => loader.IsOf struct cache)
        (structs.filter fun struct => struct.GetsLoader exclude) loaders := by
  simp only [assign, filter_isWanted, mapM_eq_ok, ofStruct_eq_ok]

theorem exists_isOf_of_mem {structs : List Struct} {loaders : List Loader}
    (h : List.Forall₂ (fun struct loader => loader.IsOf struct cache) structs loaders)
    {loader : Loader} (hloader : loader ∈ loaders) : ∃ struct, loader.IsOf struct cache := by
  obtain ⟨struct, -, hof⟩ := exists_of_mem_forall₂ h hloader
  exact ⟨struct, hof⟩

theorem exists_ofStruct_iff :
    (∃ loader, ofStruct cache struct = .ok loader) ↔ ¬ struct.MeetsFault cache := by
  rw [Struct.meetsFault_iff]
  simp only [← ofStruct_eq_error]
  cases ofStruct cache struct with
  | ok loader => simp
  | error e => simp

theorem assign_eq_error {structs : List Struct} {e : OptionsError} :
    assign structs cache exclude = .error e ↔
      ∃ struct, IsFirst (·.MeetsFault cache)
          (structs.filter fun struct => struct.GetsLoader exclude) struct ∧
        struct.CacheIs cache (.error e) := by
  simp only [assign, filter_isWanted, mapM_eq_error_iff_isFirst, ofStruct_eq_error,
    Struct.meetsFault_iff]

theorem exists_assign_error_iff {structs : List Struct} :
    (∃ e, assign structs cache exclude = .error e) ↔
      ∃ struct ∈ structs, struct.GetsLoader exclude ∧ struct.MeetsFault cache := by
  have hok : (∃ loaders, assign structs cache exclude = .ok loaders) ↔
      ∀ struct ∈ structs, struct.GetsLoader exclude → ¬ struct.MeetsFault cache := by
    simp only [assign, filter_isWanted, exists_mapM_eq_ok, exists_ofStruct_iff, List.mem_filter,
      decide_eq_true_eq, and_imp]
  cases h : assign structs cache exclude with
  | ok loaders =>
      have hnone := hok.1 ⟨loaders, h⟩
      simp only [reduceCtorEq, exists_false, false_iff]
      rintro ⟨struct, hstruct, hgets, hfault⟩
      exact hnone struct hstruct hgets hfault
  | error e =>
      rw [h] at hok
      simp only [reduceCtorEq, exists_false, false_iff, not_forall, not_not] at hok
      obtain ⟨struct, hstruct, hgets, hfault⟩ := hok
      exact ⟨fun _ => ⟨struct, hstruct, hgets, hfault⟩, fun _ => ⟨e, rfl⟩⟩

end Loader

/-- Assigning caches fails exactly on a faulty entry that decides for a struct with a loader, and
with the fault of the first such struct. Otherwise every struct that gets a loader has one, in
order, with the cache that its deciding entry makes, or none where no entry decides. A bounded cache
has room for something. Entries of unknown kinds change nothing, wherever they stand. -/
theorem caches_by_deciding_entries (structs : List Struct) (cache : List CacheEntry)
    (exclude : List String) :
    ((∃ e, Loader.assign structs cache exclude = .error e) ↔
      ∃ struct ∈ structs, struct.GetsLoader exclude ∧
        ∃ entry, struct.DecidedBy cache entry ∧ entry.IsFaulty) ∧
    (∀ e, Loader.assign structs cache exclude = .error e ↔
      ∃ struct, IsFirst (fun struct => ∃ entry, struct.DecidedBy cache entry ∧ entry.IsFaulty)
          (structs.filter fun struct => struct.GetsLoader exclude) struct ∧
        ∃ entry, struct.DecidedBy cache entry ∧ entry.Makes (.error e)) ∧
    (∀ loaders, Loader.assign structs cache exclude = .ok loaders ↔
      List.Forall₂ (fun struct loader => loader.IsOf struct cache)
        (structs.filter fun struct => struct.GetsLoader exclude) loaders) ∧
    (∀ loaders, Loader.assign structs cache exclude = .ok loaders → ∀ loader ∈ loaders,
      ∀ size ttl, loader.cache = .boundedLru size ttl → 0 < size) ∧
    ∀ others, others.filter (·.IsActive) = cache.filter (·.IsActive) →
      Loader.assign structs others exclude = Loader.assign structs cache exclude := by
  refine ⟨Loader.exists_assign_error_iff, fun e => ?_, fun loaders => Loader.assign_eq_ok,
    fun loaders h loader hloader size ttl hcache => ?_, fun others => Loader.assign_congr⟩
  · simp only [Loader.assign_eq_error, Struct.cacheIs_error_iff]
    exact Iff.rfl
  · obtain ⟨struct, hof⟩ := Loader.exists_isOf_of_mem (Loader.assign_eq_ok.1 h) hloader
    have hmakes := hof.cacheIs
    rw [hcache] at hmakes
    exact hmakes.size_pos

/-- Books and authors, each with one key. -/
def keyedStructs : List Struct :=
  [keyed "Book" "books", keyed "Author" "authors"]
where
  keyed (type table : String) : Struct :=
    { type := .named type
      table := { schema := "public", name := table }
      comment := ""
      fields := [{ (default : Field) with isPrimaryKey := true }] }

/-- The entry of an unknown kind comes first for authors, and one without a size last. -/
def keyedCache : List CacheEntry := [
  { table := "public.authors", kind := "disk", ttl := "later" },
  { table := "public.books", kind := "lru", ttl := "later", size := 10 },
  { loaderName := "AuthorLoader", kind := "lru", ttl := "1m", size := 10 },
  { table := "public.authors", kind := "lru" }]

/-- The fault of the books ends the run unless they are excluded. The authors have the cache of the
entry with the name of their loader, with the one before it or without. -/
theorem caches_of_books_and_authors :
    (∃ e, Loader.assign keyedStructs keyedCache [] = .error e) ∧
    ∃ loaders, Loader.assign keyedStructs keyedCache ["public.books"] = .ok loaders ∧
      loaders.map (fun loader => (loader.name, loader.cache)) =
        [("AuthorLoader", .boundedLru 10 (.atMost 60000000000))] ∧
      List.Forall₂ (fun struct loader => loader.IsOf struct keyedCache)
        (keyedStructs.filter fun struct => struct.GetsLoader ["public.books"]) loaders ∧
      (∀ loader ∈ loaders, ∀ size ttl, loader.cache = .boundedLru size ttl → 0 < size) ∧
      Loader.assign keyedStructs keyedCache.tail ["public.books"] = .ok loaders := by
  have hrun : (Loader.assign keyedStructs keyedCache ["public.books"]).toOption.map
      (·.map fun loader => (loader.name, loader.cache)) =
      some [("AuthorLoader", .boundedLru 10 (.atMost 60000000000))] := by
    decide +kernel
  have hinert : keyedCache.tail.filter (·.IsActive) = keyedCache.filter (·.IsActive) := by decide
  obtain ⟨loaders, hloaders, hcaches⟩ := Option.map_eq_some_iff.1 hrun
  have hassign := toOption_eq_some.1 hloaders
  have hdecides : (keyedStructs.keyed "Book" "books").DecidedBy keyedCache
      { table := "public.books", kind := "lru", ttl := "later", size := 10 } :=
    ⟨keyedCache.take 1, keyedCache.drop 2, rfl, ⟨.inr rfl, .inl (by decide)⟩, by
      simp [keyedCache, CacheEntry.IsActive]⟩
  have hfaulty : CacheEntry.IsFaulty
      { table := "public.books", kind := "lru", ttl := "later", size := 10 } :=
    ⟨rfl, .inr ⟨.expectedNumber, by decide +kernel⟩⟩
  have hmissed := caches_by_deciding_entries keyedStructs keyedCache []
  obtain ⟨-, -, hok, hsize, hothers⟩ :=
    caches_by_deciding_entries keyedStructs keyedCache ["public.books"]
  refine ⟨hmissed.1.2 ⟨_, List.mem_cons_self, ⟨List.not_mem_nil, rfl⟩, _, hdecides, hfaulty⟩,
    loaders, hassign, hcaches, (hok loaders).1 hassign, hsize loaders hassign, ?_⟩
  rw [hothers keyedCache.tail hinert, hassign]

end LoaderGen
