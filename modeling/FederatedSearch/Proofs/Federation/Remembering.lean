import FederatedSearch.Federation.Search

/-!
# What a cache remembers

A federation hands its cache on from one search to the next. Every entry of it was stored by an
earlier search that had no fault, under the key of that search's text (`Kept`); one search keeps
this so, and then any number of searches does. The key holds the text alone. A search that is
answered from the cache gets what was found for that text, whatever source it names.
-/

namespace FederatedSearch

/-- A search that is asked for. -/
structure Request where
  now : Int
  source : String
  text : String
  /-- When the search is cancelled, in milliseconds. -/
  cancel : Option Nat

/-- A request with the federation that it is put to. -/
structure Call where
  request : Request
  asked : Federation

namespace Call

/-- What the search finds, and the federation after it. -/
def outcome (c : Call) : SearchResult × Federation :=
  c.asked.search c.request.now c.request.source c.request.text c.request.cancel

/-- What the search finds. -/
def result (c : Call) : SearchResult :=
  c.outcome.1

/-- The federation after the search. -/
def after (c : Call) : Federation :=
  c.outcome.2

/-- The key under which the search is remembered. -/
def key (c : Call) : String :=
  cacheKey c.request.text

/-- The entry that the cache has for the search. -/
def answer? (c : Call) : Option CacheEntry :=
  (c.asked.remembered c.request.now c.key).toOption

/-- The search finds nothing in the cache, ends without a fault, and its outcome is put into the
cache as an entry. -/
structure Stores (c : Call) (key : String) (entry : CacheEntry) : Prop where
  unanswered : c.answer? = none
  faultless : c.result.error = none
  ownKey : key = c.key
  outcome : entry = ⟨c.result.relations, c.result.statistics, c.request.now⟩
  kept : ∃ store store', c.asked.cache = some store ∧ store.put key entry = .ok store' ∧
    c.after.cache = some store'

end Call

/-- Searches one after the other, each with the federation that the searches before it left. -/
def Federation.history : Federation → List Request → List Call
  | _, [] => []
  | f, r :: rest => ⟨r, f⟩ :: history (Call.after ⟨r, f⟩) rest

/-- Remembering an outcome leaves the cache as it is, or the outcome has no fault and is put into
the cache. -/
theorem Federation.remember_cache (f : Federation) (now : Int) (key : String) (r : SearchResult) :
    (f.remember now key r).cache = f.cache ∨
      r.error = none ∧ ∃ store store', f.cache = some store ∧
        store.put key ⟨r.relations, r.statistics, now⟩ = .ok store' ∧
        (f.remember now key r).cache = some store' := by
  cases fault : r.error with
  | some message =>
    left
    unfold remember
    simp only [fault]
  | none =>
    cases present : f.cache with
    | none =>
      left
      unfold remember
      simp only [fault, present]
    | some store =>
      cases stored : store.put key ⟨r.relations, r.statistics, now⟩ with
      | error e =>
        left
        unfold remember
        simp only [fault, present, stored]
      | ok store' =>
        right
        refine ⟨rfl, store, store', rfl, stored, ?_⟩
        unfold remember
        simp only [fault, present, stored]

/-- The entries that a store keeps. -/
def CacheStore.entries : CacheStore → List (String × CacheEntry)
  | memory cache => cache.entries
  | offline _ => []
  | readOnly _ => []

namespace CacheStore

variable {store store' : CacheStore} {now : Int} {key : String} {entry : CacheEntry}

/-- What a store finds under a key is one of its entries. -/
theorem mem_entries_of_get? (found : store.get? now key = .ok (some entry)) :
    (key, entry) ∈ store.entries := by
  cases store with
  | memory cache =>
    have fresh : cache.get? now key = some entry := by simpa [get?] using found
    rw [MemoryCache.get?, Option.filter_eq_some_iff] at fresh
    obtain ⟨before, after, same, _⟩ := List.lookup_eq_some_iff.mp fresh.1
    rw [entries, same]
    exact List.mem_append_right _ (List.mem_cons_self ..)
  | offline e => cases found
  | readOnly e => cases found

/-- Storing adds one entry and keeps no others than those that were there. -/
theorem mem_entries_of_put (stored : store.put key entry = .ok store')
    {item : String × CacheEntry} (member : item ∈ store'.entries) :
    item = (key, entry) ∨ item ∈ store.entries := by
  cases store with
  | memory cache =>
    cases stored
    rcases List.mem_cons.mp member with new | old
    · exact .inl new
    · exact .inr (List.mem_filter.mp old).1
  | offline e => cases stored
  | readOnly e => cases stored

end CacheStore

namespace Call

variable {c : Call} {entry : CacheEntry}

/-- A search that the cache has an entry for shows that entry and changes nothing. -/
theorem outcome_of_answer (answered : c.answer? = some entry) :
    c.outcome = (.ofCache entry, c.asked) := by
  have known : c.asked.remembered c.request.now (cacheKey c.request.text) = .ok entry := by
    unfold answer? key at answered
    cases found : c.asked.remembered c.request.now (cacheKey c.request.text) with
    | ok e =>
      rw [found] at answered
      cases answered
      rfl
    | error warnings =>
      rw [found] at answered
      cases answered
  unfold outcome Federation.search
  simp only [known]

/-- The cache answers with one of its entries under the key of the search. -/
theorem mem_entries_of_answer (answered : c.answer? = some entry) :
    ∃ store, c.asked.cache = some store ∧ (c.key, entry) ∈ store.entries := by
  unfold answer? Federation.remembered at answered
  cases present : c.asked.cache with
  | none =>
    rw [present] at answered
    cases answered
  | some store =>
    rw [present] at answered
    dsimp only at answered
    refine ⟨store, rfl, ?_⟩
    cases found : store.get? c.request.now c.key with
    | error e =>
      rw [found] at answered
      cases answered
    | ok entry? =>
      rw [found] at answered
      cases entry? with
      | none => cases answered
      | some known =>
        cases answered
        exact CacheStore.mem_entries_of_get? found

/-- A search leaves the cache as it is, or stores its outcome. -/
theorem after_cache (c : Call) :
    c.after.cache = c.asked.cache ∨ ∃ entry, c.Stores c.key entry := by
  cases known : c.asked.remembered c.request.now (cacheKey c.request.text) with
  | ok entry =>
    left
    unfold after outcome Federation.search
    simp only [known]
  | error warnings =>
    have unanswered : c.answer? = none := by
      unfold answer? key
      rw [known]
      rfl
    cases backends : c.asked.backendsFor c.request.source with
    | none =>
      left
      unfold after outcome Federation.search
      simp only [known, backends]
    | some bs =>
      cases prepared : Query.prepare c.request.text c.asked.limits.maxRowcount with
      | error e =>
        left
        unfold after outcome Federation.search
        simp only [known, backends, prepared]
      | ok q =>
        have searched : ∃ absorbed : Federation, absorbed.cache = c.asked.cache ∧
            c.after = absorbed.remember c.request.now c.key c.result := by
          unfold after result key outcome Federation.search
          simp only [known, backends, prepared]
          exact ⟨c.asked.absorb (bs.map fun b =>
            Contribution.ofBackend b c.asked.limits.resultCap q), rfl, rfl⟩
        obtain ⟨absorbed, same, left⟩ := searched
        rcases Federation.remember_cache absorbed c.request.now c.key c.result with
          unchanged | ⟨faultless, store, store', present, put, kept⟩
        · exact .inl ((congrArg Federation.cache left).trans (unchanged.trans same))
        · exact .inr ⟨_, unanswered, faultless, rfl, rfl, store, store', same ▸ present, put,
            (congrArg Federation.cache left).trans kept⟩

end Call

/-- Every entry of a cache was stored by a search of the past. -/
def Kept (past : List Call) (cache : Option CacheStore) : Prop :=
  ∀ store, cache = some store → ∀ item ∈ store.entries, ∃ c ∈ past, c.Stores item.1 item.2

/-- One more search keeps a cache to what searches have stored. -/
theorem Kept.after {past : List Call} {c : Call} (kept : Kept past c.asked.cache) :
    Kept (past ++ [c]) c.after.cache := by
  have earlier : ∀ {item : String × CacheEntry}, (∃ e ∈ past, e.Stores item.1 item.2) →
      ∃ e ∈ past ++ [c], e.Stores item.1 item.2 := by
    rintro item ⟨e, member, stores⟩
    exact ⟨e, List.mem_append_left _ member, stores⟩
  intro store present item member
  rcases c.after_cache with same | ⟨entry, stores⟩
  · exact earlier (kept store (same ▸ present) item member)
  · obtain ⟨before, after, found, put, left⟩ := stores.kept
    cases left.symm.trans present
    rcases CacheStore.mem_entries_of_put put member with rfl | old
    · exact ⟨c, List.mem_append_right _ (List.mem_singleton_self c), stores⟩
    · exact earlier (kept before found item old)

/-- Whatever is searched for, each search finds a cache that holds what searches before it have
stored. -/
theorem Kept.history {f : Federation} {before : List Call} (kept : Kept before f.cache)
    {requests : List Request} {past later : List Call} {call : Call}
    (split : f.history requests = past ++ call :: later) :
    Kept (before ++ past) call.asked.cache := by
  induction requests generalizing f before past with
  | nil => simp [Federation.history] at split
  | cons r rest ih =>
    rw [Federation.history] at split
    cases past with
    | nil =>
      obtain ⟨rfl, rfl⟩ := List.cons.inj split
      rw [List.append_nil]
      exact kept
    | cons first past =>
      obtain ⟨rfl, others⟩ := List.cons.inj split
      have further := ih kept.after others
      rwa [List.append_assoc] at further

/-- A search that is answered from a cache shows the relations and the statistics that an earlier
search for a text of the same key has stored. Nothing ties the sources of the two. -/
theorem Federation.exists_stores_of_answer {f : Federation} {requests : List Request}
    {past later : List Call} {call : Call} {entry : CacheEntry}
    (unused : ∀ store, f.cache = some store → store.entries = [])
    (split : f.history requests = past ++ call :: later) (answered : call.answer? = some entry) :
    ∃ earlier ∈ past, earlier.key = call.key ∧ earlier.Stores call.key entry ∧
      call.result.relations = earlier.result.relations ∧
      call.result.statistics = earlier.result.statistics := by
  have kept : Kept [] f.cache := by
    intro store present item member
    rw [unused store present] at member
    cases member
  obtain ⟨store, present, member⟩ := Call.mem_entries_of_answer answered
  obtain ⟨earlier, before, stores⟩ : ∃ e ∈ past, e.Stores call.key entry :=
    kept.history split store present _ member
  have shown : call.result = .ofCache entry := by
    rw [Call.result, Call.outcome_of_answer answered]
  refine ⟨earlier, before, stores.ownKey.symm, stores, ?_, ?_⟩
  · rw [shown, stores.outcome]
    rfl
  · rw [shown, stores.outcome]
    rfl

/-- Two sources, of one record each, that are searched with an empty cache. -/
def Federation.twoHosts : Federation :=
  let node (field : String) : NodeDefinition := ⟨field, field, field, [], []⟩
  let backend (name : String) : Backend := .ofStore
    ⟨name, true, true, true, 1, [], [], [⟨node "ip", node "host", none⟩], none⟩ (.lookup "ip")
    (.keyValue (.ofRecords "ip" [⟨[("host", .string name), ("ip", .string "1")]⟩]))
  { ofRegistry (.ofBackends [backend "a", backend "b"]) (.uniform 500) with
    cache := some (.memory (.empty none)) }

/-- A search that is repeated later, with its text among blanks, is answered with what it has
found before. -/
theorem Federation.exists_stores_of_answer_repeated :
    let first : Call := ⟨⟨0, "a", "FROM a WHERE ip = '1'", none⟩, twoHosts⟩
    let second : Call := ⟨⟨60, "a", "  FROM a WHERE ip = '1' ", none⟩, first.after⟩
    twoHosts.history [first.request, second.request] = [first, second] ∧
      second.answer?.isSome = true ∧ second.result.relations.length = 1 ∧
      second.result.relations = first.result.relations ∧
      second.result.statistics = first.result.statistics := by
  intro first second
  have answered : second.answer?.isSome = true := by decide +kernel
  obtain ⟨entry, known⟩ := Option.isSome_iff_exists.mp answered
  have unused : ∀ store, twoHosts.cache = some store → store.entries = [] := by
    rintro store ⟨⟩
    rfl
  have split : twoHosts.history [first.request, second.request] = [first] ++ second :: [] := rfl
  obtain ⟨earlier, before, _, _, relations, statistics⟩ :=
    exists_stores_of_answer unused split known
  cases List.mem_singleton.mp before
  exact ⟨rfl, answered, by decide +kernel, relations, statistics⟩

/-- Two sources that are asked in the same words: the second is answered for with the relation of
the first, though no search before it has asked the second. -/
theorem Federation.answer_of_other_source :
    let first : Call := ⟨⟨0, "a", "FROM a WHERE ip = '1'", none⟩, twoHosts⟩
    let second : Call := ⟨⟨0, "b", "FROM a WHERE ip = '1'", none⟩, first.after⟩
    twoHosts.history [first.request, second.request] = [first, second] ∧
      second.answer?.isSome = true ∧ second.result.relations.map (·.source) = ["a"] ∧
      ¬ ∃ earlier ∈ [first], earlier.request.source = second.request.source ∧
        second.result.relations = earlier.result.relations ∧
        second.result.statistics = earlier.result.statistics := by
  intro first second
  refine ⟨rfl, by decide +kernel, by decide +kernel, ?_⟩
  rintro ⟨earlier, before, same, _⟩
  cases List.mem_singleton.mp before
  exact absurd same (by decide)

end FederatedSearch
