import FederatedSearch.Cache.Key
import FederatedSearch.Cache.Store
import FederatedSearch.Federation.Run
import FederatedSearch.Processor.Basic

/-!
# Searches

A search puts one query to one backend, or to all that take part in global searches, and merges
what they add into one graph. It never fails as a whole: what went wrong is told beside what was
found. The outcome of a search without faults is remembered under the key of its text.
-/

namespace FederatedSearch

/-- How much a search may find. -/
structure Limits where
  /-- How many records a query may ask for. -/
  maxRowcount : Nat
  /-- How many relations one backend may collect before it is truncated. -/
  resultCap : Nat
  deriving DecidableEq, Repr, Inhabited

/-- One limit for both. -/
def Limits.uniform (limit : Nat) : Limits := ⟨limit, limit⟩

/-- The outcome of a search. -/
structure SearchResult where
  relations : List GraphRelation
  /-- The statistics of the backends that were truncated. -/
  statistics : SortedMap SourceStatistics
  truncated : Bool
  /-- The native queries that were run, by backend. -/
  queries : SortedMap (List String)
  error : Option String
  deriving Inhabited

namespace SearchResult

/-- A search that found nothing because of a fault. -/
def failed (message : String) : SearchResult :=
  ⟨[], [], false, [], some message⟩

/-- A search that was made before. -/
def ofCache (entry : CacheEntry) : SearchResult :=
  ⟨entry.relations, entry.statistics, !entry.statistics.isEmpty, [], none⟩

/-- The outcome of a search as it is shown. -/
def shown (r : SearchResult) : Json :=
  .object <|
    [("relations", .array (r.relations.map GraphRelation.shown)),
      ("stats", .object (r.statistics.map fun (name, s) => (name, s.shown))),
      ("truncated", .bool r.truncated),
      ("debug", .object (r.queries.map fun (name, texts) => (name, .strings texts)))] ++
      optionalMember "error" (r.error.map .string)

end SearchResult

/-- Backends that are searched together, and what goes along with each search. -/
structure Federation where
  registry : Registry
  cache : Option CacheStore
  processors : List Processor
  limits : Limits
  /-- How many native queries the backends have run, by name. -/
  executions : SortedMap Nat

/-- The relations that processors make of others, and the faults of the processors. -/
def processAll : List Processor → List GraphRelation → List GraphRelation × List ProcessorError
  | [], relations => (relations, [])
  | p :: rest, relations =>
    let (relations, fault) := p.process relations
    let (relations, faults) := processAll rest relations
    (relations, fault.toList ++ faults)

namespace Federation

/-- A federation without cache and processors that has not been searched yet. -/
def ofRegistry (registry : Registry) (limits : Limits) : Federation :=
  ⟨registry, none, [], limits, []⟩

/-- The backends that are asked under a name. -/
def backendsFor (f : Federation) (name : String) : Option (List Backend) :=
  if name = globalName then some f.registry.globalBackends
  else (SortedMap.get? f.registry name).map fun b => [b]

/-- The federation after backends have taken part in a search: with what they have learnt. -/
def absorb (f : Federation) (cs : List Contribution) : Federation :=
  { f with
    registry := cs.foldl (fun r c => r.register c.run.backend) f.registry
    executions := (cs.filter (0 < ·.run.executions)).foldl
      (fun counts c =>
        SortedMap.insert c.name ((SortedMap.get? counts c.name).getD 0 + c.run.executions) counts)
      f.executions }

/-- The graph that contributions add up to, each relation once. -/
def mergeCollectors (cs : List Contribution) : Collector :=
  cs.foldl (fun collected c => collected.merge c.collector) .empty

/-- The statistics of the backends that were truncated. -/
def truncatedStatistics (cs : List Contribution) : SortedMap SourceStatistics :=
  SortedMap.ofList <| (cs.filter (·.truncated)).map fun c => (c.name, c.run.progress.statistics.top)

/-- The native queries of the backends that were asked anything. -/
def askedQueries (cs : List Contribution) : SortedMap (List String) :=
  SortedMap.ofList <| (cs.filter (!·.queries.isEmpty)).map fun c =>
    (c.name, c.queries.map NativeQuery.text)

/-- The messages of a search: what could not be asked, what failed, and what was waited for in
vain. -/
def sourceMessages (cancel : Option Nat) (cs : List Contribution) : List String :=
  cs.flatMap (·.rejections) ++ cs.flatMap (·.failures) ++ lateMessages cancel cs

/-- Several messages as one, if there are any. -/
def joinMessages (messages : List String) : Option String :=
  if messages.isEmpty then none else some ("; ".intercalate messages)

/-- The outcome of a search in which some backends took part. Warnings come from the cache. -/
def combine (f : Federation) (cancel : Option Nat) (warnings : List String)
    (cs : List Contribution) : SearchResult :=
  let (relations, faults) := processAll f.processors (mergeCollectors cs).relations
  let messages := sourceMessages cancel cs ++ warnings ++ faults.map ProcessorError.message
  ⟨relations, truncatedStatistics cs, cs.any (·.truncated), askedQueries cs, joinMessages messages⟩

/-- Remembers the outcome of a search without faults. A cache that cannot keep it is no fault of
the search. -/
def remember (f : Federation) (now : Int) (key : String) (r : SearchResult) : Federation :=
  match r.error, f.cache with
  | none, some cache =>
    match cache.put key ⟨r.relations, r.statistics, now⟩ with
    | .ok cache => { f with cache := some cache }
    | .error _ => f
  | _, _ => f

/-- What the cache says about a key: an entry, or else the warnings for the search. -/
def remembered (f : Federation) (now : Int) (key : String) : Except (List String) CacheEntry :=
  match f.cache with
  | none => .error []
  | some cache =>
    match cache.get? now key with
    | .ok (some entry) => .ok entry
    | .ok none => .error []
    | .error e => .error ["Can't query cache: " ++ e.message]

/-- The message for a name under which no backend is known. -/
def unknownSource : String := "Unknown data source requested"

/-- Searches the backend with a name, or all that take part in global searches. The search may be
cancelled after some milliseconds. -/
def search (f : Federation) (now : Int) (source text : String) (cancel : Option Nat) :
    SearchResult × Federation :=
  let key := cacheKey text
  match f.remembered now key with
  | .ok entry => (.ofCache entry, f)
  | .error warnings =>
    match f.backendsFor source with
    | none => (.failed unknownSource, f)
    | some backends =>
      match Query.prepare text f.limits.maxRowcount with
      | .error e => (.failed e.message, f)
      | .ok q =>
        let cs := backends.map fun b => Contribution.ofBackend b f.limits.resultCap q
        let result := f.combine cancel warnings cs
        (result, (f.absorb cs).remember now key result)

/-- Searches the source that a query text names. -/
def query (f : Federation) (now : Int) (text : String) (cancel : Option Nat) :
    SearchResult × Federation :=
  match Query.target text with
  | .ok source => f.search now source text cancel
  | .error e => (.failed e.message, f)

end Federation

end FederatedSearch
