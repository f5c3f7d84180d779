import FederatedSearch.Proofs.Federation.Merging
import FederatedSearch.Proofs.Processor.Distinctness

/-!
# Searches that show no relation twice

What the backends of a search have collected is merged into one collector, and then handed from
processor to processor. The merged relations repeat none exactly when equal ones have one key, and
nothing that comes after looks for repetitions: they stay away as long as each processor separates
what it is given. In whatever order the tasks of the backends have run, this is so for what they
have collected.
-/

namespace FederatedSearch

open GraphRelation

namespace Federation

variable {f : Federation} {now : Int} {source text : String} {cancel : Option Nat}
  {warnings : List String}

/-- What the backends add to a search: nothing, when there are none of the name or the text is not
one of a query. -/
def contributionsTo (f : Federation) (source text : String) : List Contribution :=
  match f.backendsFor source, Query.prepare text f.limits.maxRowcount with
  | some backends, .ok q => backends.map fun b => .ofBackend b f.limits.resultCap q
  | _, _ => []

/-- The relations of a search that the cache has no entry for are those that its backends add up
to, as processors leave them. -/
theorem relations_search (uncached : f.remembered now (cacheKey text) = .error warnings) :
    (f.search now source text cancel).1.relations =
      (f.combine cancel warnings (f.contributionsTo source text)).relations := by
  have nothing : (f.combine cancel warnings []).relations = [] := processAll_nil f.processors
  unfold search contributionsTo
  simp only [uncached]
  cases f.backendsFor source with
  | none => exact nothing.symm
  | some backends =>
    cases Query.prepare text f.limits.maxRowcount with
    | error e => exact nothing.symm
    | ok q => rfl

/-- A search that the cache has no entry for shows what its backends add up to, in whatever order
their tasks have run. When all processors are taxonomies, it shows no relation twice exactly when
equal relations have been collected under one key, no taxonomy has links for two places of a node,
and none of the links is there already. When there are modifications, it does so exactly when the
last of them has made no two relations equal that differed in nothing but what its rules name, and
the taxonomies after it keep to the same. -/
theorem allDistinct_search_iff (f : Federation) {now : Int} {text : String}
    {warnings : List String} (uncached : f.remembered now (cacheKey text) = .error warnings)
    (source : String) (cancel : Option Nat) :
    (f.search now source text cancel).1.relations =
        (f.combine cancel warnings (f.contributionsTo source text)).relations ∧
      ∀ cs : List Contribution,
        let collected := mergeCollectors cs
        let shown := (f.combine cancel warnings cs).relations
        ((∀ p ∈ f.processors, p.isTaxonomy = true) →
            (AllDistinct shown ↔
              collected.KeysAgree ∧ SeparateAll f.processors collected.relations)) ∧
          ∀ before p ps, f.processors = before ++ p :: ps → p.isTaxonomy = false →
            (∀ q ∈ ps, q.isTaxonomy = true) →
            (AllDistinct shown ↔
              SeparateAll (p :: ps) (processAll before collected.relations).1) := by
  refine ⟨relations_search uncached, fun cs => ?_⟩
  intro collected shown
  have consistent : collected.Consistent := (mergeCollectors_spec cs).1
  have processed : shown = (processAll f.processors collected.relations).1 := rfl
  rw [processed]
  constructor
  · intro add
    rw [← consistent.allDistinct_iff]
    exact allDistinct_processAll_iff add
  · intro before p ps split rewrites add
    rw [split]
    exact allDistinct_processAll_append_iff rewrites add

/-- Without a cache there is no entry for a search. -/
theorem remembered_of_no_cache (none : f.cache = none) (now : Int) (key : String) :
    f.remembered now key = .error [] := by
  rw [remembered, none]

/-- A source of addresses and the hosts that they lead to. A record has its address in two fields,
of which some are joined with the host. -/
def ofAddresses (fields : List String) (records : List (String × String))
    (processors : List Processor) : Federation :=
  let node (field group : String) : NodeDefinition := ⟨field, group, group, [], []⟩
  let record (address host : String) : Record :=
    ⟨[("host", .string host), ("ip", .string address), ("peer", .string address)]⟩
  let definitions := fields.map fun field => ⟨node field "ip", node "host" "host", none⟩
  { ofRegistry (.ofBackends [.ofStore
      ⟨"kv", true, true, true, 1, [], [], definitions, none⟩ (.lookup "ip")
      (.keyValue (.ofRecords "ip" (records.map fun r => record r.1 r.2)))]) (.uniform 500) with
    processors }

/-- One of two hosts is renamed, and linked with an entry by its new name. -/
theorem allDistinct_search_iff_renamed :
    let rule : ReplacementRule := ⟨"id", ⟨.one (.single 'x'), []⟩, "z"⟩
    let rename := Processor.modification "rename" (some "host") [rule]
    let tags := Processor.taxonomy "tags" "id" (some "host") [("z", "scanner")]
    let f := ofAddresses ["ip"] [("1", "x"), ("1", "y")] [rename, tags]
    let text := "FROM kv WHERE ip = '1'"
    let shown := (f.search 0 "kv" text none).1.relations
    shown.length = 3 ∧ AllDistinct shown := by
  intro rule rename tags f text shown
  let cs := f.contributionsTo "kv" text
  let found := (mergeCollectors cs).relations
  have uncached : f.remembered 0 (cacheKey text) = .error [] := remembered_of_no_cache rfl ..
  have different : (found.zip (Modification.apply (some "host") [rule] found).1).Pairwise
      fun a b => ¬ a.2.Equal b.2 := by decide +kernel
  have apart : rename.Separates found := by
    refine different.imp ?_
    intro a b unequal _
    exact unequal
  have once : tags.Separates (rename.process found).1 :=
    ⟨by decide +kernel, by decide +kernel⟩
  obtain ⟨same, exactly⟩ := f.allDistinct_search_iff uncached "kv" none
  have distinct : AllDistinct (f.combine none [] cs).relations :=
    ((exactly cs).2 [] rename [tags] rfl rfl (by simp [tags, Processor.isTaxonomy])).mpr
      ⟨apart, once, trivial⟩
  exact ⟨by decide +kernel, (congrArg AllDistinct same).mpr distinct⟩

/-- An address that leads to two hosts is linked with its entry once for each of them, so that the
link is shown twice. So is a relation that two definitions make of two fields, under two keys,
without any processor. -/
theorem not_allDistinct_search :
    let tags := Processor.taxonomy "tags" "id" (some "ip") [("1", "scanner")]
    let linked := ofAddresses ["ip"] [("1", "x"), ("1", "y")] [tags]
    let joined := ofAddresses ["ip", "peer"] [("1", "x")] []
    let text := "FROM kv WHERE ip = '1'"
    linked.remembered 0 (cacheKey text) = .error [] ∧
      (linked.search 0 "kv" text none).1.relations.length = 4 ∧
      ¬ AllDistinct (linked.search 0 "kv" text none).1.relations ∧
      joined.remembered 0 (cacheKey text) = .error [] ∧
      ¬ (mergeCollectors (joined.contributionsTo "kv" text)).KeysAgree ∧
      (joined.search 0 "kv" text none).1.relations.length = 2 ∧
      ¬ AllDistinct (joined.search 0 "kv" text none).1.relations := by
  intro tags linked joined text
  have unlinked : linked.remembered 0 (cacheKey text) = .error [] := remembered_of_no_cache rfl ..
  have unjoined : joined.remembered 0 (cacheKey text) = .error [] := remembered_of_no_cache rfl ..
  refine ⟨unlinked, ?_, ?_, unjoined, ?_, ?_, ?_⟩
  · decide +kernel
  · decide +kernel
  · decide +kernel
  · decide +kernel
  · decide +kernel

end Federation

end FederatedSearch
