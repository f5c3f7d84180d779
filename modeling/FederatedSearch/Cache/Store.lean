import FederatedSearch.Relation.Graph
import FederatedSearch.Statistics

/-!
# Caches

A cache keeps the outcome of searches by key. Entries may have a time to live, in seconds: an
entry that has reached this age is not found any more, but it stays until it is purged or
replaced.
-/

namespace FederatedSearch

/-- The outcome of a search, and when it was stored. -/
structure CacheEntry where
  relations : List GraphRelation
  /-- The statistics of the sources that were cut short, by name. -/
  statistics : List (String × SourceStatistics)
  created : Int
  deriving Inhabited

/-- A cache in memory. Without a time to live entries stay fresh for ever. -/
structure MemoryCache where
  timeToLive : Option Int
  entries : List (String × CacheEntry)
  deriving Inhabited

namespace MemoryCache

/-- A cache without entries. -/
def empty (timeToLive : Option Int) : MemoryCache := ⟨timeToLive, []⟩

/-- Whether an entry has reached the time to live. -/
def isExpired (c : MemoryCache) (now : Int) (entry : CacheEntry) : Bool :=
  match c.timeToLive with
  | some limit => limit ≤ now - entry.created
  | none => false

/-- The fresh entry under a key. -/
def get? (c : MemoryCache) (now : Int) (key : String) : Option CacheEntry :=
  (c.entries.lookup key).filter fun entry => !c.isExpired now entry

/-- Stores an entry under a key, in place of any older one. -/
def put (c : MemoryCache) (key : String) (entry : CacheEntry) : MemoryCache :=
  { c with entries := (key, entry) :: c.entries.filter (·.1 != key) }

/-- Drops the entries that are not fresh. -/
def purge (c : MemoryCache) (now : Int) : MemoryCache :=
  { c with entries := c.entries.filter fun entry => !c.isExpired now entry.2 }

/-- How many entries are stored, fresh or not. -/
def size (c : MemoryCache) : Nat :=
  c.entries.length

end MemoryCache

/-- Why a cache could not be used. -/
inductive CacheError
  | unavailable (reason : String)
  deriving DecidableEq, Repr

/-- The message for a cache that could not be used. -/
def CacheError.message : CacheError → String
  | unavailable reason => "cache store unavailable: " ++ reason

/-- Where the outcome of searches is kept. -/
inductive CacheStore
  | memory (cache : MemoryCache)
  /-- A store that answers neither questions nor requests. -/
  | offline (error : CacheError)
  /-- A store that finds nothing and keeps nothing. -/
  | readOnly (error : CacheError)
  deriving Inhabited

namespace CacheStore

/-- The fresh entry under a key. -/
def get? (s : CacheStore) (now : Int) (key : String) : Except CacheError (Option CacheEntry) :=
  match s with
  | memory cache => .ok (cache.get? now key)
  | offline e => .error e
  | readOnly _ => .ok none

/-- Stores an entry under a key. -/
def put (s : CacheStore) (key : String) (entry : CacheEntry) : Except CacheError CacheStore :=
  match s with
  | memory cache => .ok (.memory (cache.put key entry))
  | offline e => .error e
  | readOnly e => .error e

end CacheStore

end FederatedSearch
