import FederatedSearch.Json.Reader
import FederatedSearch.Proofs.SortedMap
import FederatedSearch.Record

/-!
# Listed paths and looking them up

The fields of records are listed by walking down into their objects; a field is looked up by taking
its path apart at the dots. `Json.Leads` says which keys lead to which values, and both are described
by it: what is listed are the paths of the keys that lead to anything but a nonempty object
(`Json.mem_leafPaths_iff`), and what steps lead to is what keys lead to (`Record.leads_of_descend`,
`Record.descend_of_leads`). They agree on records without dots in their keys and without `null`
(`mem_recordFields_iff_shows`).
-/

namespace FederatedSearch

namespace Json

/-- Keys that lead from a value down through objects to a value. -/
inductive Leads : Json → List String → Json → Prop
  | here (value : Json) : Leads value [] value
  | member {members : List (String × Json)} {key : String} {inner leaf : Json} {keys : List String}
    (member : (key, inner) ∈ members) (further : Leads inner keys leaf) :
    Leads (.object members) (key :: keys) leaf

/-- Whether a value is an object that paths go on into. -/
def isBranch : Json → Bool
  | .object (_ :: _) => true
  | _ => false

/-- All objects that keys lead to have members of some form. -/
def EveryObject (form : Members → Prop) (value : Json) : Prop :=
  ∀ keys members, Leads value keys (.object members) → form members

section Leads

variable {value inner leaf : Json} {key : String} {keys : List String} {members : Members}
  {form : Members → Prop}

/-- No keys lead to the value itself. -/
theorem leads_nil_iff : Leads value [] leaf ↔ leaf = value := by
  constructor
  · rintro ⟨⟩
    rfl
  · rintro rfl
    exact .here leaf

/-- Keys lead through the member of the first key. -/
theorem leads_cons_iff : Leads (.object members) (key :: keys) leaf ↔
    ∃ inner, (key, inner) ∈ members ∧ Leads inner keys leaf := by
  constructor
  · rintro (_ | ⟨member, further⟩)
    exact ⟨_, member, further⟩
  · rintro ⟨inner, member, further⟩
    exact .member member further

/-- Every object in an object has a form when this one has and those in its members have. -/
theorem everyObject_object_iff : EveryObject form (.object members) ↔
    form members ∧ ∀ entry ∈ members, EveryObject form entry.2 := by
  constructor
  · intro every
    exact ⟨every [] members (.here _), fun entry member keys inner leads =>
      every (entry.1 :: keys) inner (.member member leads)⟩
  · rintro ⟨outer, every⟩ keys inner leads
    cases leads with
    | here => exact outer
    | member member further => exact every _ member _ _ further

/-- A value that is no object has none below it. -/
theorem everyObject_of_not_object (other : ∀ members, value ≠ .object members) :
    EveryObject form value := by
  rintro keys members leads
  cases leads with
  | here => exact absurd rfl (other members)
  | member member further => exact absurd rfl (other _)

mutual

/-- Objects that are read list their members by increasing key. -/
theorem sorted_of_toJson? {depth : Nat} : (draft : Draft) → {value : Json} →
    draft.toJson? depth = some value → EveryObject SortedMap.Sorted value
  | .object members, value, read => by
    rw [Draft.toJson?] at read
    split at read
    · cases read
    · obtain ⟨entries, inner, rfl⟩ := Option.map_eq_some_iff.mp read
      refine everyObject_object_iff.mpr ⟨SortedMap.sorted_ofList entries, fun entry inside => ?_⟩
      exact sorted_of_membersToJson? members inner entry (SortedMap.mem_of_mem_ofList inside)
  | .array items, value, read => by
    rw [Draft.toJson?] at read
    split at read
    · cases read
    · obtain ⟨values, _, rfl⟩ := Option.map_eq_some_iff.mp read
      exact everyObject_of_not_object (by simp)
  | .null, value, read => by
    cases read
    exact everyObject_of_not_object (by simp)
  | .bool b, value, read => by
    cases read
    exact everyObject_of_not_object (by simp)
  | .number n, value, read => by
    obtain ⟨n, _, rfl⟩ := Option.map_eq_some_iff.mp read
    exact everyObject_of_not_object (by simp)
  | .string s, value, read => by
    obtain ⟨s, _, rfl⟩ := Option.map_eq_some_iff.mp read
    exact everyObject_of_not_object (by simp)

/-- The objects in the members of a draft come out sorted. -/
theorem sorted_of_membersToJson? {depth : Nat} : (members : List (Option String × Draft)) →
    {entries : List (String × Json)} → Draft.membersToJson? depth members = some entries →
    ∀ entry ∈ entries, EveryObject SortedMap.Sorted entry.2
  | [], entries, read => by
    cases read
    exact List.forall_mem_nil _
  | (key, draft) :: rest, entries, read => by
    simp only [Draft.membersToJson?, Option.bind_eq_bind, Option.bind_eq_some_iff] at read
    obtain ⟨name, _, value, first, others, later, same⟩ := read
    cases same
    exact List.forall_mem_cons.mpr
      ⟨sorted_of_toJson? draft first, sorted_of_membersToJson? rest later⟩

end

end Leads

/-! ## What is listed -/

/-- The path from a prefix along some keys. -/
def dotted (start : String) (keys : List String) : String :=
  keys.foldl (fun path key => path ++ "." ++ key) start

/-- The characters of a path are those of its keys with dots in between. -/
theorem toList_dotted (start : String) (keys : List String) :
    (dotted start keys).toList = ['.'].intercalate ((start :: keys).map String.toList) := by
  induction keys generalizing start with
  | nil => simp [dotted]
  | cons key keys ih =>
    have further : dotted start (key :: keys) = dotted (start ++ "." ++ key) keys := rfl
    rw [further, ih]
    cases keys with
    | nil => simp [List.intercalate_cons_cons]
    | cons next keys => simp [List.intercalate_cons_cons]

/-- No keys lead away from what is no nonempty object. -/
theorem leads_iff_of_not_branch {value leaf : Json} {keys : List String}
    (ends : value.isBranch = false) : Leads value keys leaf ↔ keys = [] ∧ leaf = value := by
  constructor
  · intro leads
    cases leads with
    | here => exact ⟨rfl, rfl⟩
    | member inside further =>
      obtain ⟨_, _, rfl⟩ := List.exists_cons_of_ne_nil (List.ne_nil_of_mem inside)
      cases ends
  · rintro ⟨rfl, rfl⟩
    exact .here leaf

/-- A value that does not branch is one leaf. -/
theorem leafPaths_of_not_branch {value : Json} (ends : value.isBranch = false) (start : String) :
    value.leafPaths start = [start] := by
  rw [leafPaths]
  rintro _ _ rfl
  cases ends

/-- The path of a value that does not branch is the one shown. -/
theorem mem_leafPaths_of_not_branch {value : Json} {path start : String}
    (ends : value.isBranch = false) : path ∈ value.leafPaths start ↔
      ∃ keys leaf, Leads value keys leaf ∧ leaf.isBranch = false ∧ path = dotted start keys := by
  rw [leafPaths_of_not_branch ends, List.mem_singleton]
  constructor
  · rintro rfl
    exact ⟨[], value, .here value, ends, rfl⟩
  · rintro ⟨keys, leaf, leads, _, rfl⟩
    obtain ⟨rfl, rfl⟩ := (leads_iff_of_not_branch ends).mp leads
    rfl

mutual

/-- Listed are the paths along keys that lead to anything but a nonempty object. -/
theorem mem_leafPaths_iff (path start : String) : (value : Json) → (path ∈ value.leafPaths start ↔
    ∃ keys leaf, Leads value keys leaf ∧ leaf.isBranch = false ∧ path = dotted start keys)
  | .object (member :: rest) => by
    rw [leafPaths, mem_memberPaths_iff path start (member :: rest)]
    constructor
    · rintro ⟨key, inner, keys, leaf, inside, leads, ends, rfl⟩
      exact ⟨key :: keys, leaf, .member inside leads, ends, rfl⟩
    · rintro ⟨keys, leaf, leads, ends, rfl⟩
      cases leads with
      | here => cases ends
      | member inside leads => exact ⟨_, _, _, leaf, inside, leads, ends, rfl⟩
  | .object [] | .null | .bool _ | .number _ | .string _ | .array _ =>
    mem_leafPaths_of_not_branch rfl

/-- The paths through the members of an object go on from their keys. -/
theorem mem_memberPaths_iff (path start : String) : (members : List (String × Json)) →
    (path ∈ memberPaths start members ↔ ∃ key inner keys leaf, (key, inner) ∈ members ∧
      Leads inner keys leaf ∧ leaf.isBranch = false ∧ path = dotted (start ++ "." ++ key) keys)
  | [] => by simp [memberPaths]
  | (key, inner) :: rest => by
    rw [memberPaths, List.mem_append, mem_leafPaths_iff path (start ++ "." ++ key) inner,
      mem_memberPaths_iff path start rest]
    constructor
    · rintro (⟨keys, leaf, leads, ends, rfl⟩ | ⟨further, value, keys, leaf, inside, leads, ends, rfl⟩)
      · exact ⟨key, inner, keys, leaf, List.mem_cons_self .., leads, ends, rfl⟩
      · exact ⟨further, value, keys, leaf, List.mem_cons_of_mem _ inside, leads, ends, rfl⟩
    · rintro ⟨found, value, keys, leaf, inside, leads, ends, rfl⟩
      rcases List.mem_cons.mp inside with same | later
      · cases same
        exact .inl ⟨keys, leaf, leads, ends, rfl⟩
      · exact .inr ⟨found, value, keys, leaf, later, leads, ends, rfl⟩

end

end Json

namespace Record

open Json (Leads dotted)

section Lookup

variable {r : Record} {value leaf : Json} {path : String} {keys : List String}

/-- A path is listed when it goes along keys that lead to anything but a nonempty object. -/
theorem mem_fieldPaths_iff : path ∈ r.fieldPaths ↔ ∃ key keys leaf,
    Leads r.toJson (key :: keys) leaf ∧ leaf.isBranch = false ∧ path = dotted key keys := by
  simp only [fieldPaths, List.mem_flatMap, Json.mem_leafPaths_iff, toJson, Json.leads_cons_iff]
  constructor
  · rintro ⟨⟨key, inner⟩, inside, keys, leaf, leads, ends, rfl⟩
    exact ⟨key, keys, leaf, ⟨inner, inside, leads⟩, ends, rfl⟩
  · rintro ⟨key, keys, leaf, ⟨inner, inside, leads⟩, ends, rfl⟩
    exact ⟨(key, inner), inside, keys, leaf, leads, ends, rfl⟩

/-! ## What is looked up -/

/-- Taking a path apart is splitting it at its dots. -/
theorem pathSteps_eq_splitOn (l : List Char) : pathSteps l = l.splitOn '.' := by
  induction l with
  | nil => rfl
  | cons c l ih =>
    obtain ⟨step, more, steps⟩ := List.exists_cons_of_ne_nil (List.splitOn_ne_nil '.' l)
    rw [pathSteps, ih, List.splitOn_cons_eq_if_modifyHead, steps]
    by_cases dot : c = '.'
    · simp [dot]
    · simp [dot]

/-- Steps lead to nothing that keys do not lead to. -/
theorem leads_of_descend {steps : List (List Char)} (found : descend value steps = some leaf) :
    Leads value (steps.map String.ofList) leaf := by
  induction steps generalizing value with
  | nil =>
    cases found
    exact .here leaf
  | cons step more ih =>
    rw [descend] at found
    split at found
    · rename_i inner here
      cases value with
      | object members => exact .member (SortedMap.mem_of_get? here) (ih found)
      | _ => cases here
    · cases found

/-- Keys lead where their steps lead, as each key stands once in each object. -/
theorem descend_of_leads (sorted : value.EveryObject SortedMap.Sorted)
    (leads : Leads value keys leaf) : descend value (keys.map String.toList) = some leaf := by
  induction leads with
  | here value => rfl
  | @member members key inner leaf keys inside further ih =>
    obtain ⟨outer, every⟩ := Json.everyObject_object_iff.mp sorted
    have found : (Json.object members).member? (String.ofList key.toList) = some inner := by
      rw [String.ofList_toList]
      exact outer.get?_of_mem inside
    rw [List.map_cons, descend, found]
    exact ih (every _ inside)

/-- A leaf is present when it is not null. -/
theorem present?_eq_some_iff : value.present? = some leaf ↔ value = leaf ∧ leaf ≠ .null := by
  cases value with
  | null =>
    constructor
    · rintro ⟨⟩
    · rintro ⟨rfl, present⟩
      exact absurd rfl present
  | _ =>
    constructor
    · rintro ⟨⟩
      exact ⟨rfl, by simp⟩
    · rintro ⟨rfl, _⟩
      rfl

/-- A value is found under the path as a key, or by taking steps. -/
theorem of_lookup (found : r.lookup path = some value) :
    SortedMap.get? r.members path = some value ∨ r.nested? path = some value := by
  rw [lookup] at found
  split at found
  · rename_i whole
    cases found
    obtain ⟨literal, here, present⟩ := Option.bind_eq_some_iff.mp whole
    obtain ⟨rfl, _⟩ := present?_eq_some_iff.mp present
    exact .inl here
  · obtain ⟨inner, here, present⟩ := Option.bind_eq_some_iff.mp found
    obtain ⟨rfl, _⟩ := present?_eq_some_iff.mp present
    exact .inr here

/-- What is looked up is found along keys that the path is made of. -/
theorem exists_leads_of_lookup (found : r.lookup path = some value) :
    ∃ key keys, Leads r.toJson (key :: keys) value ∧ path = dotted key keys := by
  rcases of_lookup found with whole | nested
  · exact ⟨path, [], .member (SortedMap.mem_of_get? whole) (.here value), rfl⟩
  · rw [nested?] at nested
    split at nested
    · have leads := leads_of_descend nested
      obtain ⟨step, more, steps⟩ :=
        List.exists_cons_of_ne_nil (List.splitOn_ne_nil '.' path.toList)
      rw [pathSteps_eq_splitOn, steps] at leads
      refine ⟨_, _, leads, String.toList_inj.mp ?_⟩
      have back : List.intercalate ['.'] (path.toList.splitOn '.') = path.toList :=
        List.intercalate_splitOn '.'
      rw [steps] at back
      rw [Json.toList_dotted, ← List.map_cons, List.map_map, ← back]
      simp
    · cases nested

/-! ## Both together -/

/-- A field can be seen under a path: something is found there that is no nonempty object. -/
def Shows (r : Record) (path : String) : Prop :=
  ∃ value, r.lookup path = some value ∧ value.isBranch = false

/-- All objects in a record list their members by increasing key. -/
def IsSorted (r : Record) : Prop :=
  r.toJson.EveryObject SortedMap.Sorted

/-- No key in a record holds a dot, and no value is `null`. -/
def IsPlain (r : Record) : Prop :=
  r.toJson.EveryObject fun members => ∀ entry ∈ members, '.' ∉ entry.1.toList ∧ entry.2 ≠ .null

/-- A record that is read from a text is sorted. -/
theorem isSorted_of_ofText? {text : String} (read : Json.ofText? text = some value)
    (record : ofJson? value = some r) : r.IsSorted := by
  obtain ⟨draft, _, typed⟩ := Option.bind_eq_some_iff.mp read
  cases value with
  | object members =>
    cases record
    exact Json.sorted_of_toJson? draft typed
  | _ => cases record

/-- What can be seen is listed. -/
theorem mem_fieldPaths_of_shows (shows : r.Shows path) : path ∈ r.fieldPaths := by
  obtain ⟨value, found, ends⟩ := shows
  obtain ⟨key, keys, leads, rfl⟩ := exists_leads_of_lookup found
  exact mem_fieldPaths_iff.mpr ⟨key, keys, value, leads, ends, rfl⟩

/-- No key on the way down a plain record holds a dot, and none leads to `null`. -/
theorem plain_of_leads (plain : value.EveryObject fun members =>
      ∀ entry ∈ members, '.' ∉ entry.1.toList ∧ entry.2 ≠ .null)
    (leads : Leads value keys leaf) :
    (∀ key ∈ keys, '.' ∉ key.toList) ∧ (keys ≠ [] → leaf ≠ .null) := by
  induction leads with
  | here value => exact ⟨List.forall_mem_nil _, fun some => absurd rfl some⟩
  | @member members key inner leaf keys inside further ih =>
    obtain ⟨outer, every⟩ := Json.everyObject_object_iff.mp plain
    obtain ⟨undotted, present⟩ := outer _ inside
    obtain ⟨others, later⟩ := ih (every _ inside)
    refine ⟨List.forall_mem_cons.mpr ⟨undotted, others⟩, fun _ => ?_⟩
    cases keys with
    | nil => rwa [Json.leads_nil_iff.mp further]
    | cons next keys => exact later (List.cons_ne_nil _ _)

/-- A value that stands under the path as a key is what is looked up. -/
theorem lookup_of_get? (found : SortedMap.get? r.members path = some value)
    (present : value ≠ .null) : r.lookup path = some value := by
  rw [lookup, found, Option.bind_some, present?_eq_some_iff.mpr ⟨rfl, present⟩]

/-- Without such a key steps are taken. -/
theorem lookup_of_nested? (absent : SortedMap.get? r.members path = none)
    (found : r.nested? path = some value) (present : value ≠ .null) :
    r.lookup path = some value := by
  rw [lookup, absent, Option.bind_none, found, Option.bind_some]
  exact present?_eq_some_iff.mpr ⟨rfl, present⟩

/-- In a plain record, what keys lead to is looked up under their path. -/
theorem lookup_dotted {key : String} (sorted : r.IsSorted) (plain : r.IsPlain)
    (leads : Leads r.toJson (key :: keys) leaf) : r.lookup (dotted key keys) = some leaf := by
  obtain ⟨undotted, below⟩ := plain_of_leads plain leads
  have present := below (List.cons_ne_nil _ _)
  cases keys with
  | nil =>
    obtain ⟨inner, inside, further⟩ := Json.leads_cons_iff.mp leads
    rw [← Json.leads_nil_iff.mp further] at inside
    exact lookup_of_get? ((sorted [] _ (.here _)).get?_of_mem inside) present
  | cons next keys =>
    have characters := Json.toList_dotted key (next :: keys)
    have dot : '.' ∈ (dotted key (next :: keys)).toList := by
      rw [characters, List.map_cons, List.map_cons, List.intercalate_cons_cons]
      simp
    have steps : pathSteps (dotted key (next :: keys)).toList =
        (key :: next :: keys).map String.toList := by
      rw [characters, pathSteps_eq_splitOn]
      exact List.splitOn_intercalate '.' (by simpa using undotted) (by simp)
    refine lookup_of_nested? ?_ ?_ present
    · rw [Option.eq_none_iff_forall_ne_some]
      intro value whole
      exact (plain [] _ (.here _) _ (SortedMap.mem_of_get? whole)).1 dot
    · rw [nested?, if_pos (List.contains_iff_mem.mpr dot), steps]
      exact descend_of_leads sorted leads

/-- In a plain record nothing else is listed than what can be seen. -/
theorem mem_fieldPaths_iff_shows (sorted : r.IsSorted) (plain : r.IsPlain) :
    path ∈ r.fieldPaths ↔ r.Shows path := by
  refine ⟨fun listed => ?_, mem_fieldPaths_of_shows⟩
  obtain ⟨key, keys, leaf, leads, ends, rfl⟩ := mem_fieldPaths_iff.mp listed
  exact ⟨leaf, lookup_dotted sorted plain leads, ends⟩

end Lookup

end Record

/-- The fields of records are listed in increasing order, each once, and among them is every path
under which a record shows anything but a nonempty object. When no key holds a dot and nothing is
`null`, these are all of them. -/
theorem mem_recordFields_iff_shows (records : List Record) :
    (recordFields records).Pairwise (· < ·) ∧
      (∀ path, (∃ r ∈ records, r.Shows path) → path ∈ recordFields records) ∧
      ((∀ r ∈ records, r.IsSorted ∧ r.IsPlain) →
        ∀ path, path ∈ recordFields records ↔ ∃ r ∈ records, r.Shows path) := by
  refine ⟨pairwise_sortedDistinct _, ?_, fun plain path => ?_⟩
  · rintro path ⟨r, inside, shows⟩
    rw [recordFields, mem_sortedDistinct, List.mem_flatMap]
    exact ⟨r, inside, r.mem_fieldPaths_of_shows shows⟩
  · rw [recordFields, mem_sortedDistinct, List.mem_flatMap]
    refine exists_congr fun r => and_congr_right fun inside => ?_
    exact r.mem_fieldPaths_iff_shows (plain r inside).1 (plain r inside).2

/-- A field with an empty key is listed and looked up under a path that ends with a dot. -/
theorem mem_recordFields_iff_shows_empty_key :
    (∀ r ∈ [Record.mk [("a", .object [("", .bool true)])]], r.IsSorted ∧ r.IsPlain) ∧
      ("a." ∈ recordFields [⟨[("a", .object [("", .bool true)])]⟩] ↔
        ∃ r ∈ [Record.mk [("a", .object [("", .bool true)])]], r.Shows "a.") := by
  have every (form : Json.Members → Prop) (outer : form [("a", .object [("", .bool true)])])
      (inner : form [("", .bool true)]) :
      (Record.mk [("a", .object [("", .bool true)])]).toJson.EveryObject form := by
    refine Json.everyObject_object_iff.mpr ⟨outer, List.forall_mem_singleton.mpr ?_⟩
    refine Json.everyObject_object_iff.mpr ⟨inner, List.forall_mem_singleton.mpr ?_⟩
    exact Json.everyObject_of_not_object (by simp)
  have plain : ∀ r ∈ [Record.mk [("a", .object [("", .bool true)])]],
      r.IsSorted ∧ r.IsPlain := by
    refine List.forall_mem_singleton.mpr ⟨every _ ?_ ?_, every _ ?_ ?_⟩
    · exact List.pairwise_singleton _ _
    · exact List.pairwise_singleton _ _
    · exact List.forall_mem_singleton.mpr ⟨by decide, by simp⟩
    · exact List.forall_mem_singleton.mpr ⟨by decide, by simp⟩
  exact ⟨plain, (mem_recordFields_iff_shows _).2.2 plain "a."⟩

end FederatedSearch
