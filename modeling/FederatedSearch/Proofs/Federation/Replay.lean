import FederatedSearch.Proofs.Federation.Remembering
import FederatedSearch.Proofs.SortedMap

/-!
# Replaying what is remembered

What a search finds in a cache is the outcome of the last search that has stored something under
its key (`StoredLast`). One search keeps this so for each entry of the cache, and then any number
of searches does. The outcome is shown as it was, less the native queries. That it was truncated
is not stored with it: this is told from its statistics, of which a search has some exactly when
it is truncated.
-/

namespace FederatedSearch

/-! ## Truncated searches -/

/-- Whatever backends add to a search, it is truncated exactly when it shows statistics. -/
theorem Federation.truncated_combine (f : Federation) (cancel : Option Nat)
    (warnings : List String) (cs : List Contribution) :
    (f.combine cancel warnings cs).truncated =
      !(f.combine cancel warnings cs).statistics.isEmpty := by
  have told : (truncatedStatistics cs).isEmpty = !cs.any (·.truncated) := by
    rw [truncatedStatistics, SortedMap.isEmpty_ofList, List.isEmpty_map, Bool.eq_iff_iff]
    simp [List.isEmpty_iff, List.filter_eq_nil_iff]
  have shown : (f.combine cancel warnings cs).truncated = cs.any (·.truncated) := rfl
  have counted : (f.combine cancel warnings cs).statistics = truncatedStatistics cs := rfl
  rw [shown, counted, told, Bool.not_not]

/-- A search is answered from the cache, or fails before any backend is asked, or shows what
backends add to it. -/
theorem Call.result_cases (c : Call) :
    (∃ entry, c.result = .ofCache entry) ∨ (∃ message, c.result = .failed message) ∨
      ∃ warnings cs, c.result = c.asked.combine c.request.cancel warnings cs := by
  unfold result outcome Federation.search
  cases known : c.asked.remembered c.request.now (cacheKey c.request.text) with
  | ok entry =>
    simp only [known]
    exact .inl ⟨_, rfl⟩
  | error warnings =>
    right
    cases backends : c.asked.backendsFor c.request.source with
    | none =>
      simp only [known]
      exact .inl ⟨_, rfl⟩
    | some bs =>
      cases prepared : Query.prepare c.request.text c.asked.limits.maxRowcount with
      | error e =>
        simp only [known]
        exact .inl ⟨_, rfl⟩
      | ok q =>
        simp only [known]
        exact .inr ⟨_, _, rfl⟩

/-- Every search is truncated exactly when it shows statistics. -/
theorem Call.truncated_result (c : Call) : c.result.truncated = !c.result.statistics.isEmpty := by
  rcases c.result_cases with ⟨entry, shown⟩ | ⟨message, shown⟩ | ⟨warnings, cs, shown⟩
  · rw [shown]
    rfl
  · rw [shown]
    rfl
  · rw [shown]
    exact Federation.truncated_combine ..

/-! ## The last search to store -/

/-- The last of some searches to store anything under a key has stored this entry. -/
def StoredLast (past : List Call) (item : String × CacheEntry) : Prop :=
  ∃ before c between, past = before ++ c :: between ∧ c.Stores item.1 item.2 ∧
    ∀ later ∈ between, ∀ entry, ¬ later.Stores item.1 entry

namespace StoredLast

variable {past : List Call} {c : Call} {item : String × CacheEntry}

/-- The search that comes last and stores an entry is the last to store it. -/
theorem of_stores (stores : c.Stores item.1 item.2) : StoredLast (past ++ [c]) item :=
  ⟨past, c, [], rfl, stores, by simp⟩

/-- A search that stores nothing under a key leaves the last one to store there as it is. -/
theorem append (last : StoredLast past item) (silent : ∀ entry, ¬ c.Stores item.1 entry) :
    StoredLast (past ++ [c]) item := by
  obtain ⟨before, earlier, between, rfl, stores, none⟩ := last
  refine ⟨before, earlier, between ++ [c], by simp, stores, fun later member => ?_⟩
  rcases List.mem_append.mp member with inside | new
  · exact none later inside
  · cases List.mem_singleton.mp new
    exact silent

end StoredLast

/-- What a store holds after storing: the new entry, and those under other keys. -/
theorem CacheStore.eq_or_mem_entries_of_put {store store' : CacheStore} {key : String}
    {entry : CacheEntry} (stored : store.put key entry = .ok store')
    {item : String × CacheEntry} (member : item ∈ store'.entries) :
    item = (key, entry) ∨ item ∈ store.entries ∧ item.1 ≠ key := by
  cases store with
  | memory cache =>
    cases stored
    rcases List.mem_cons.mp member with new | old
    · exact .inl new
    · rw [List.mem_filter] at old
      exact .inr ⟨old.1, by simpa using old.2⟩
  | offline e => cases stored
  | readOnly e => cases stored

/-- Every entry of a cache was stored by the last search to store anything under its key. -/
def Latest (past : List Call) (cache : Option CacheStore) : Prop :=
  ∀ store, cache = some store → ∀ item ∈ store.entries, StoredLast past item

/-- One more search keeps this so: it stores nothing, or its entry takes the place of any other
under its key. -/
theorem Latest.after {past : List Call} {c : Call} (latest : Latest past c.asked.cache) :
    Latest (past ++ [c]) c.after.cache := by
  intro store present item member
  -- An entry that is put drives out all others under its key, and leaves those under other keys.
  by_cases storing : ∃ entry, c.Stores c.key entry
  · obtain ⟨entry, stores⟩ := storing
    obtain ⟨before, after, found, put, left⟩ := stores.kept
    cases left.symm.trans present
    rcases CacheStore.eq_or_mem_entries_of_put put member with rfl | ⟨old, other⟩
    · exact .of_stores stores
    · exact (latest before found item old).append fun _ own => other own.ownKey
  · have silent : ∀ entry, ¬ c.Stores item.1 entry :=
      fun entry stores => storing ⟨entry, stores.ownKey ▸ stores⟩
    have same : c.after.cache = c.asked.cache := c.after_cache.resolve_right storing
    exact (latest store (same ▸ present) item member).append silent

/-- A cache in memory stays one. -/
theorem Call.exists_memory_after {c : Call} {cache : MemoryCache}
    (remembering : c.asked.cache = some (.memory cache)) :
    ∃ cache', c.after.cache = some (.memory cache') := by
  rcases c.after_cache with same | ⟨entry, stores⟩
  · exact ⟨cache, same.trans remembering⟩
  · obtain ⟨store, store', present, put, left⟩ := stores.kept
    cases present.symm.trans remembering
    cases put
    exact ⟨_, left⟩

/-! ## Any number of searches -/

namespace Federation

variable {f : Federation}

/-- The federation that searches leave, one made after the other. -/
def afterAll (f : Federation) (requests : List Request) : Federation :=
  requests.foldl (fun f r => Call.after ⟨r, f⟩) f

/-- Each search of a history is put to the federation that those before it have left. -/
theorem asked_of_history {requests : List Request} {past later : List Call} {call : Call}
    (split : f.history requests = past ++ call :: later) :
    call.asked = f.afterAll (past.map Call.request) ∧
      past = f.history (past.map Call.request) := by
  induction requests generalizing f past with
  | nil => simp [history] at split
  | cons r rest ih =>
    rw [history] at split
    cases past with
    | nil =>
      obtain ⟨rfl, rfl⟩ := List.cons.inj split
      exact ⟨rfl, rfl⟩
    | cons first past =>
      obtain ⟨rfl, others⟩ := List.cons.inj split
      obtain ⟨asked, same⟩ := ih others
      exact ⟨asked, congrArg (List.cons _) same⟩

/-- Whatever is searched for, each entry is that of the last search to store under its key. -/
theorem latest_history {before : List Call} (latest : Latest before f.cache)
    (requests : List Request) :
    Latest (before ++ f.history requests) (f.afterAll requests).cache := by
  induction requests generalizing f before with
  | nil =>
    rw [history, List.append_nil]
    exact latest
  | cons r rest ih =>
    have further := ih (latest.after (c := ⟨r, f⟩))
    rwa [List.append_assoc] at further

/-- Searches leave a cache in memory. -/
theorem exists_memory_afterAll {cache : MemoryCache} (remembering : f.cache = some (.memory cache))
    (requests : List Request) :
    ∃ kept, (f.afterAll requests).cache = some (.memory kept) := by
  induction requests generalizing f cache with
  | nil => exact ⟨cache, remembering⟩
  | cons r rest ih =>
    obtain ⟨_, next⟩ := Call.exists_memory_after (c := ⟨r, f⟩) remembering
    exact ih next

/-- With a cache in memory that holds nothing at first, searches leave entries only under the keys
of searches without a fault. A search that is answered from the cache shows no fault and no native
queries, and the relations, the statistics and the truncation that were shown by the search that
stored the entry: the last to store anything under that key. -/
theorem replays_of_answer {cache : MemoryCache} (remembering : f.cache = some (.memory cache))
    (unused : cache.entries = []) (requests : List Request) :
    (∃ kept, (f.afterAll requests).cache = some (.memory kept) ∧
      ∀ item ∈ kept.entries, ∃ earlier ∈ f.history requests,
        item.1 = cacheKey earlier.request.text ∧ earlier.result.error = none) ∧
    ∀ past call later entry, f.history requests = past ++ call :: later →
      call.answer? = some entry →
        call.result.error = none ∧ call.result.queries = [] ∧
        ∃ before earlier between, past = before ++ earlier :: between ∧
          earlier.Stores call.key entry ∧
          (∀ c ∈ between, ∀ other, ¬ c.Stores call.key other) ∧
          earlier.result.error = none ∧
          call.result.relations = earlier.result.relations ∧
          call.result.statistics = earlier.result.statistics ∧
          call.result.truncated = earlier.result.truncated := by
  have latest : Latest [] f.cache := by
    intro store present item member
    cases remembering.symm.trans present
    rw [CacheStore.entries, unused] at member
    cases member
  constructor
  · obtain ⟨kept, present⟩ := exists_memory_afterAll remembering requests
    refine ⟨kept, present, fun item member => ?_⟩
    obtain ⟨before, earlier, between, split, stores, _⟩ :=
      latest_history latest requests _ present item member
    rw [List.nil_append] at split
    refine ⟨earlier, ?_, stores.ownKey, stores.faultless⟩
    rw [split]
    exact List.mem_append_right _ (List.mem_cons_self ..)
  · intro past call later entry split answered
    obtain ⟨asked, same⟩ := asked_of_history split
    obtain ⟨store, present, member⟩ := Call.mem_entries_of_answer answered
    obtain ⟨before, earlier, between, earlierCalls, stores, silent⟩ : StoredLast past _ := by
      rw [same]
      exact latest_history latest _ store (asked ▸ present) _ member
    have shown : call.result = .ofCache entry := by
      rw [Call.result, Call.outcome_of_answer answered]
    have outcome : entry = _ := stores.outcome
    refine ⟨?_, ?_, before, earlier, between, earlierCalls, stores, silent, stores.faultless,
      ?_, ?_, ?_⟩
    · rw [shown]
      rfl
    · rw [shown]
      rfl
    · rw [shown, outcome]
      rfl
    · rw [shown, outcome]
      rfl
    · rw [shown, outcome, earlier.truncated_result]
      rfl

/-- A source of two records with a cap of one relation: the search is truncated, another source is
asked for in vain, and the search that is repeated within a minute is truncated again, with the
statistics of the first. -/
theorem replays_of_answer_truncated :
    let node (field : String) : NodeDefinition := ⟨field, field, field, [], []⟩
    let source : Source := ⟨"a", true, true, true, 1, ["host"], [],
      [⟨node "ip", node "host", none⟩], none⟩
    let r (host : String) : Record := ⟨[("host", .string host), ("ip", .string "1")]⟩
    let b := Backend.ofStore source (.lookup "ip") (.keyValue (.ofRecords "ip" [r "x", r "y"]))
    let f : Federation := { ofRegistry (.ofBackends [b]) ⟨500, 1⟩ with
      cache := some (.memory (.empty (some 60))) }
    let first : Call := ⟨⟨0, "a", "FROM a WHERE ip = '1'", none⟩, f⟩
    let lost : Call := ⟨⟨10, "b", "FROM b WHERE ip = '1'", none⟩, first.after⟩
    let second : Call := ⟨⟨20, "a", " FROM a WHERE ip = '1'", none⟩, lost.after⟩
    f.history [first.request, lost.request, second.request] = [first, lost, second] ∧
      second.answer?.isSome = true ∧ lost.result.error.isSome = true ∧
      second.result.error = none ∧ second.result.queries = [] ∧
      second.result.relations = first.result.relations ∧
      second.result.statistics = first.result.statistics ∧
      first.result.truncated = true ∧ second.result.truncated = true := by
  intro node source r b f first lost second
  have answered : second.answer?.isSome = true := by decide +kernel
  have failed : lost.result.error.isSome = true := by decide +kernel
  have truncated : first.result.truncated = true := by decide +kernel
  obtain ⟨entry, known⟩ := Option.isSome_iff_exists.mp answered
  have split : f.history [first.request, lost.request, second.request] =
      [first, lost] ++ second :: [] := rfl
  obtain ⟨faultless, silent, before, earlier, between, past, _, _, whole, relations, statistics,
    same⟩ := (replays_of_answer rfl rfl _).2 _ _ _ _ split known
  have member : earlier ∈ [first, lost] := past ▸ List.mem_append_right _ (List.mem_cons_self ..)
  rcases List.mem_cons.mp member with rfl | other
  · exact ⟨rfl, answered, failed, faultless, silent, relations, statistics, truncated,
      same.trans truncated⟩
  · rw [List.mem_singleton.mp other] at whole
    rw [whole] at failed
    cases failed

end Federation

end FederatedSearch
