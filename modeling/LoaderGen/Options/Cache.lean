import LoaderGen.Options.Error
import LoaderGen.Value.Basic

/-!
# Caches of loaders

A loader can keep what it has loaded, without bound or as many entries as a size and a time to live
allow. An entry of the options names the loaders that it is for by their table or their name.
-/

namespace LoaderGen

inductive CachePolicy where
  | noCache
  | unboundedMemory
  | boundedLru (size : Nat) (ttl : Duration)
  deriving DecidableEq, Repr

namespace CachePolicy

/-- The kind of cache as the options name it. -/
def tag : CachePolicy → String
  | noCache => "no-cache"
  | unboundedMemory => "memory"
  | boundedLru _ _ => "lru"

def isLru : CachePolicy → Bool
  | boundedLru _ _ => true
  | _ => false

end CachePolicy

structure CacheEntry where
  table : String := ""
  loaderName : String := ""
  /-- The kind of cache; an unknown kind makes the entry inert. -/
  kind : String := ""
  ttl : String := ""
  size : Int64 := 0
  deriving DecidableEq, Repr, Inhabited

namespace CacheEntry

/-- The entry is for the loader of this table and name. -/
def targets (entry : CacheEntry) (table loaderName : String) : Bool :=
  (!entry.table.isEmpty && entry.table == table) ||
    (!entry.loaderName.isEmpty && entry.loaderName == loaderName)

def target (entry : CacheEntry) : String :=
  if entry.table.isEmpty then entry.loaderName else entry.table

/-- The policy that the entry asks for; none when the entry is inert. -/
def policy (entry : CacheEntry) : Except OptionsError (Option CachePolicy) :=
  if entry.kind = "memory" then .ok (some .unboundedMemory)
  else if entry.kind = "lru" then
    if 0 < entry.size.toInt then
      match Duration.parse entry.ttl with
      | .ok ttl => .ok (some (.boundedLru entry.size.toInt.toNat ttl))
      | .error fault => .error (.cacheTtl entry.target entry.ttl fault)
    else .error (.cacheSize entry.target entry.size)
  else .ok none

def ofValue? (format : Format) (v : Value) : Option CacheEntry := do
  let fields ← v.fields? format ["table", "loader_name", "type", "ttl", "size"]
  return {
    table := ← fields.orElse "table" "" Value.text?
    loaderName := ← fields.orElse "loader_name" "" Value.text?
    kind := ← fields.orElse "type" "" Value.text?
    ttl := ← fields.orElse "ttl" "" Value.text?
    size := ← fields.orElse "size" 0 Value.int64? }

end CacheEntry

end LoaderGen
