import FederatedSearch.Proofs.Query.LikeMeaning
import FederatedSearch.Proofs.Sql.Agreement
import FederatedSearch.Proofs.Text.Lowering

/-!
# LIKE in a database

A statement compares a column with a pattern in lower case. All letters of the pattern are lowered,
but the database knows the case of ASCII letters alone: of a column it lowers no others, and no
others are the same to it in two cases. A stored text without wildcards is therefore found by itself
exactly when it has no capital letter beyond ASCII (`mem_records_like_self_iff`).
-/

namespace FederatedSearch

/-- A text that a pattern spells out: it has no wildcards, and no character of code 0, with which
the text of a statement would end. -/
structure IsSpelledOut (s : String) : Prop where
  percent : '%' ∉ s.toList
  underscore : '_' ∉ s.toList
  nulFree : IsNulFree s

namespace Sql

open Text (SameAscii LowersAsAscii)

/-! ## Texts of a form -/

/-- A database finds a text to be of the form of a pattern, up to the case of ASCII letters. -/
theorem likeMatches_iff (pattern text : List Char) :
    likeMatches pattern text = true ↔ Like.Fits SameAscii pattern text := by
  fun_induction likeMatches pattern text with
  | case1 text => rw [Like.fits_nil_iff, List.isEmpty_iff]
  | case2 pattern text ihShort ihLong =>
    rw [Bool.or_eq_true, ihShort, Like.fits_percent_iff]
    refine or_congr_right ?_
    cases text with
    | nil => simp
    | cons c rest => simpa using ihLong
  | case3 p pattern single =>
    rw [Like.fits_of_ne_percent_iff single]
    simp
  | case4 p pattern c text single ih =>
    rw [Like.fits_of_ne_percent_iff single, Bool.and_eq_true, ih]
    simp [SameAscii]

/-- The pattern of a statement is compared with the text of a cell. -/
theorem truth_like_iff [Numerals] {columns : List Column} {row : List Cell} {name s : String}
    (stored : (operand columns row name).1 = .text s) (pattern : String) :
    (Condition.like name false pattern).truth columns row = some true ↔
      Like.Fits SameAscii pattern.toList s.toList := by
  have compared : (Condition.like name false pattern).truth columns row
      = some (likeMatches pattern.toList (asciiLowerText s).toList) := by
    rw [Condition.truth, stored]
    rfl
  rw [compared, Option.some_inj, likeMatches_iff, asciiLowerText, String.toList_ofList]
  exact Like.fits_map_iff fun _ _ => Text.sameAscii_asciiLower_iff

/-- A text without wildcards is of the form of its pattern in a statement exactly when both
lower-case forms treat its letters alike. -/
theorem fits_lowercase_self_iff {s : String} (spelled : IsSpelledOut s) :
    Like.Fits SameAscii (Text.lowercase s).toList s.toList ↔ ∀ c ∈ s.toList, LowersAsAscii c := by
  rw [Text.lowercase, String.toList_ofList, Like.fits_iff_forall₂,
    Text.forall₂_lowercaseFrom_iff]
  · exact mt (Text.mem_of_mem_lowercaseFrom · (by decide) (by decide)) spelled.percent
  · exact mt (Text.mem_of_mem_lowercaseFrom · (by decide) (by decide)) spelled.underscore

/-! ## Rows that are selected -/

section Rows

variable {columns : List Column} {row : List Cell} {t : Table} {r : Record}

/-- Rows of one record have the same text under the name of a column. -/
theorem operand_of_get?_rowRecord
    (distinct : columns.Pairwise fun a b => sameName a.name b.name = false) {name s : String}
    (found : SortedMap.get? (rowRecord columns row).members name = some (.string s)) :
    (operand columns row name).1 = .text s := by
  by_cases named : ∃ entry ∈ columns.zip row, entry.1.name = name
  · obtain ⟨⟨column, cell⟩, entry, rfl⟩ := named
    rw [operand_of_mem distinct entry]
    rw [get?_rowRecord distinct entry, Option.some_inj] at found
    cases cell with
    | text u => exact congrArg Cell.text (Json.string.inj found)
    | real x =>
      rw [Cell.toJson, Json.ofDouble] at found
      split at found <;> cases found
    | _ => cases found
  · have absent : SortedMap.get? (rowRecord columns row).members name = none :=
      SortedMap.get?_ofList_of_not_mem (by simpa using named)
    rw [absent] at found
    cases found

/-- A statement with room for all rows selects those that its condition is true of. -/
theorem mem_select_iff [Numerals] {s : Select} (start : s.offset = 0) (room : t.rows.length ≤ s.limit) :
    r ∈ t.select s ↔
      ∃ row ∈ t.rows, s.condition.truth t.columns row = some true ∧
        rowRecord t.columns row = r := by
  have fits : ((t.rows.filter fun row => s.condition.truth t.columns row == some true).mergeSort
      fun a b => rowOrder t.columns s.orderBy a b != .gt).length ≤ s.limit := by
    rw [List.length_mergeSort]
    exact (List.length_filter_le _ _).trans room
  simp only [Table.select, start, List.drop_zero, List.take_of_length_le fits, List.mem_map,
    List.mem_mergeSort, List.mem_filter, beq_iff_eq, and_assoc]

end Rows

/-- A query asks with LIKE for a text that a row of a table holds. The statement is written and run,
and it finds the record of the row exactly when both lower-case forms treat the letters of the text
alike: those that a database knows and those that the pattern is put into. -/
theorem mem_records_like_self_iff [Numerals] {db : Database} {name : String} {t : Table} {q : Query}
    {column : Column} {row : List Cell} {s : String} (threshold : Nat)
    (found : db.table? name = some t)
    (distinct : t.columns.Pairwise fun a b => sameName a.name b.name = false)
    (inside : row ∈ t.rows) (entry : (column, .text s) ∈ t.columns.zip row)
    (spelled : IsSpelledOut s) (asked : q.predicate = .compare column.name .like (.string s))
    (start : q.offset = 0) (room : t.rows.length ≤ q.rowcount) (counted : q.rowcount < 2 ^ 63) :
    ∃ statement records,
      (Compiler.sql name .sqlite threshold).compile q = .ok statement ∧
      (Store.relational db name).execute statement.native = .ok records ∧
      (rowRecord t.columns row ∈ records ↔ ∀ c ∈ s.toList, LowersAsAscii c) := by
  let condition := Condition.like column.name false (Text.lowercase s)
  let statement : Select := ⟨name, condition, q.orderBy, q.rowcount, q.offset⟩
  have written : conditionOf threshold q.predicate = .ok condition := by
    rw [asked, conditionOf_compare]
    rfl
  have stored : SortedMap.get? (rowRecord t.columns row).members column.name = some (.string s) :=
    get?_rowRecord distinct entry
  have decides {other : List Cell} (same : rowRecord t.columns other = rowRecord t.columns row) :
      condition.truth t.columns other = some true ↔ ∀ c ∈ s.toList, LowersAsAscii c := by
    rw [truth_like_iff (operand_of_get?_rowRecord distinct (same ▸ stored)),
      fits_lowercase_self_iff spelled]
  have within : statement.isWithinLimits = true := by
    refine isWithinLimits_iff.mpr ⟨counted, start.trans_lt (by decide), ?_⟩
    rw [Condition.depth]
    decide
  refine ⟨_, t.select statement, compile_of_conditionOf name written,
    execute_relational (s := statement) found rfl within name, ?_⟩
  rw [mem_select_iff start room]
  constructor
  · rintro ⟨other, -, truth, same⟩
    exact (decides same).mp truth
  · intro alike
    exact ⟨row, inside, (decides rfl).mpr alike, rfl⟩

/-- A text with a capital letter of ASCII and a small letter beyond it is found. -/
theorem mem_records_like_self_iff_street :
    let t : Table := ⟨"t", [⟨"n", .integer⟩, ⟨"f", .text⟩],
      [[.integer 1, .null], [.integer 2, .text "Weg ß"]]⟩
    let row : List Cell := [.integer 2, .text "Weg ß"]
    let q : Query := ⟨"t", .compare "f" .like (.string "Weg ß"), [⟨"n", true⟩], 0, 500⟩
    (Database.mk [t]).table? "t" = some t ∧
    (t.columns.Pairwise fun a b => sameName a.name b.name = false) ∧ row ∈ t.rows ∧
    ((⟨"f", .text⟩ : Column), Cell.text "Weg ß") ∈ t.columns.zip row ∧ IsSpelledOut "Weg ß" ∧
    t.rows.length ≤ q.rowcount ∧ q.rowcount < 2 ^ 63 ∧
    (∀ c ∈ "Weg ß".toList, LowersAsAscii c) ∧
    ∃ statement records,
      (Compiler.sql "t" .sqlite 5).compile q = .ok statement ∧
      (Store.relational ⟨[t]⟩ "t").execute statement.native = .ok records ∧
      (rowRecord t.columns row ∈ records ↔ ∀ c ∈ "Weg ß".toList, LowersAsAscii c) := by
  intro t row q
  have found : (Database.mk [t]).table? "t" = some t := List.find?_cons_of_pos (by decide +kernel)
  have distinct : t.columns.Pairwise fun a b => sameName a.name b.name = false := by
    decide +kernel
  have inside : row ∈ t.rows := by simp [t, row]
  have entry : ((⟨"f", .text⟩ : Column), Cell.text "Weg ß") ∈ t.columns.zip row := by
    simp [t, row]
  have spelled : IsSpelledOut "Weg ß" := ⟨by decide, by decide, by decide⟩
  have alike : "Weg ß".toList.all (fun c => decide (LowersAsAscii c)) = true := by
    decide +kernel
  refine ⟨found, distinct, inside, entry, spelled, by decide, by decide,
    fun c member => of_decide_eq_true (List.all_eq_true.mp alike c member), ?_⟩
  exact mem_records_like_self_iff 5 found distinct inside entry spelled rfl rfl (by decide)
    (by decide)

/-- The capital letter É is not found: a database keeps it as it is, and asks for its small form. -/
theorem not_mem_records_like_self :
    let t : Table := ⟨"t", [⟨"f", .text⟩], [[.text "É"]]⟩
    IsSpelledOut "É" ∧
    ∃ q statement,
      Query.prepare "FROM t WHERE f LIKE 'É'" 500 = .ok q ∧
      (Compiler.sql "t" .sqlite 5).compile q = .ok statement ∧
      (Store.relational ⟨[t]⟩ "t").execute statement.native = .ok [] := by
  intro t
  have found : (Database.mk [t]).table? "t" = some t := List.find?_cons_of_pos (by decide +kernel)
  let statement : Select := ⟨"t", .like "f" false "é", [], 500, 0⟩
  have lowered : Text.lowercase "É" = "é" := by decide +kernel
  have written : conditionOf 5 (.compare "f" .like (.string "É")) = .ok (.like "f" false "é") := by
    rw [conditionOf_compare, ← lowered]
    rfl
  have missed : (Condition.like "f" false "é").truth t.columns [.text "É"] = some false := by
    cbv
  have nothing : t.select statement = [] := by
    simp [Table.select, t, statement, missed]
  refine ⟨⟨by decide, by decide, by decide⟩,
    ⟨"t", .compare "f" .like (.string "É"), [], 0, 500⟩, _, by decide +kernel,
    compile_of_conditionOf "t" written, ?_⟩
  rw [← nothing]
  exact execute_relational (s := statement) found rfl (by decide) "t"

end Sql

end FederatedSearch
