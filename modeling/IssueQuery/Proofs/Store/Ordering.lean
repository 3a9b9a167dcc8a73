import IssueQuery.Proofs.Store.Found
import IssueQuery.Proofs.Text.Order
import Mathlib.Data.List.Perm.Basic

/-!
Ordered searches. An ordering only permutes what the conditions find, and it sorts by its entries one after the
other, each with a direction of its own. An entry for a column that an earlier entry has tells no more rows apart.
-/

namespace IssueQuery
open Sql Text Std

/-- One value of a column stands before another: first what is unset, then numbers by their size, then texts by
their bytes. -/
inductive Cell.Before : Cell → Cell → Prop
  | unset {b : Cell} (set : b ≠ .null) : Before .null b
  | integer {m n : Int} (less : m < n) : Before (.integer m) (.integer n)
  | kind {n : Int} {t : String} : Before (.integer n) (.text t)
  | text {s t : String} (less : bytes s < bytes t) : Before (.text s) (.text t)

theorem compareValues_eq_lt {a b : Cell} : compareValues a b = .lt ↔ a.Before b := by
  constructor
  · intro less
    cases a with
    | null => exact .unset (by rintro rfl; cases less)
    | integer m =>
      cases b with
      | null => cases less
      | integer n => exact .integer (Std.compare_eq_lt.1 less)
      | text t => exact .kind
    | text s =>
      cases b with
      | null | integer => cases less
      | text t => exact .text (compare_eq_lt_bytes.1 less)
  · intro before
    cases before with
    | unset set => cases b <;> first | rfl | exact absurd rfl set
    | integer less => exact Std.compare_eq_lt.2 less
    | kind => rfl
    | text less => exact compare_eq_lt_bytes.2 less

theorem compareValues_eq_eq {a b : Cell} : compareValues a b = .eq ↔ a = b := by
  cases a <;> cases b <;> simp [compareValues]

namespace SortKey

def Before (key : SortKey) (a b : Row) : Prop :=
  ∃ column, Column.ofName? key.field = some column ∧
    match key.direction with
    | .asc => (a.value column).Before (b.value column)
    | .desc => (b.value column).Before (a.value column)

def Ties (key : SortKey) (a b : Row) : Prop :=
  ∀ column, Column.ofName? key.field = some column → a.value column = b.value column

/-- The rows may stand so: the first entry that tells them apart puts the first row in front. -/
def InOrder : List SortKey → Row → Row → Prop
  | [], _, _ => True
  | key :: rest, a, b => key.Before a b ∨ key.Ties a b ∧ InOrder rest a b

/-- The entries without those for a column that an earlier entry has. -/
def firsts : List SortKey → List SortKey
  | [] => []
  | key :: rest =>
    key :: (firsts rest).filter fun other => Column.ofName? other.field ≠ Column.ofName? key.field

theorem compare_eq_lt {key : SortKey} {a b : Row} : key.compare a b = .lt ↔ key.Before a b := by
  unfold SortKey.compare Before
  cases Column.ofName? key.field with
  | none => simp
  | some column =>
    cases key.direction with
    | asc => simp [compareValues_eq_lt]
    | desc => simp [compareValues_eq_lt, OrientedCmp.gt_iff_lt]

theorem compare_eq_eq {key : SortKey} {a b : Row} : key.compare a b = .eq ↔ key.Ties a b := by
  unfold SortKey.compare Ties
  cases Column.ofName? key.field with
  | none => simp
  | some column => cases key.direction <;> simp [compareValues_eq_eq]

theorem compareAll_cons (key : SortKey) (rest : List SortKey) (a b : Row) :
    compareAll (key :: rest) a b = (key.compare a b).then (compareAll rest a b) := rfl

theorem compareAll_ne_gt {keys : List SortKey} {a b : Row} : compareAll keys a b ≠ .gt ↔ InOrder keys a b := by
  induction keys with
  | nil => simp [compareAll, InOrder]
  | cons key rest ih =>
    rw [InOrder, ← compare_eq_lt, ← compare_eq_eq, ← ih, compareAll_cons]
    cases key.compare a b <;> simp

/-- Rows that an entry tells not apart are told apart by no other entry for its column. -/
theorem compareAll_filter {key : SortKey} {a b : Row} (ties : key.Ties a b) (keys : List SortKey) :
    compareAll (keys.filter fun other => Column.ofName? other.field ≠ Column.ofName? key.field) a b =
      compareAll keys a b := by
  induction keys with
  | nil => rfl
  | cons other rest ih =>
    by_cases same : Column.ofName? other.field = Column.ofName? key.field
    · have also : other.compare a b = .eq := by
        rw [compare_eq_eq, Ties, same]
        exact ties
      rw [List.filter_cons_of_neg (by simpa using same), ih, compareAll_cons, also, Ordering.eq_then]
    · rw [List.filter_cons_of_pos (by simpa using same), compareAll_cons, compareAll_cons, ih]

theorem compareAll_firsts (keys : List SortKey) (a b : Row) :
    compareAll (firsts keys) a b = compareAll keys a b := by
  induction keys with
  | nil => rfl
  | cons key rest ih =>
    rw [firsts, compareAll_cons, compareAll_cons]
    cases order : key.compare a b with
    | lt | gt => rfl
    | eq => rw [compareAll_filter (compare_eq_eq.1 order), ih]

theorem mem_of_firsts {keys : List SortKey} {key : SortKey} (member : key ∈ firsts keys) : key ∈ keys := by
  induction keys with
  | nil => exact member
  | cons first rest ih =>
    rcases List.mem_cons.1 member with rfl | later
    · exact List.mem_cons_self
    · exact List.mem_cons_of_mem _ (ih (List.mem_of_mem_filter later))

end SortKey

def Store.Answers (store : Store) (query : Query) (issues : List Issue) : Prop :=
  ∃ filter, query.compile = .ok filter ∧ store.find filter = .ok issues

namespace Query

theorem Answerable.reordered {query : Query} (answerable : query.Answerable) {keys : List SortKey}
    (known : ∀ key ∈ keys, key ∈ query.ordering) : Answerable ⟨query.conditions, keys⟩ where
  valid := by
    obtain ⟨conditions, ordering⟩ := validate_ok.1 answerable.valid
    exact validate_ok.2 ⟨conditions, fun key member => ordering key (known key member)⟩
  fields := answerable.fields
  keys key member := answerable.keys key (known key member)
  keywords := answerable.keywords

def sortedRows (query : Query) (store : Store) : List Row :=
  (store.rows.filter query.selects).mergeSort fun a b => SortKey.compareAll query.ordering a b != .gt

theorem sortedRows_perm (query : Query) (store : Store) :
    (query.sortedRows store).Perm (store.rows.filter query.selects) :=
  List.mergeSort_perm _ _

/-- A search reads the sorted rows, all of them or nothing. -/
theorem find_sortedRows {query : Query} (answerable : query.Answerable) (store : Store) :
    (∃ filter, query.compile = .ok filter ∧
      store.find filter = ((query.sortedRows store).mapM Row.read).mapError BadTime.error) ∧
      (query.sortedRows store).Pairwise (SortKey.InOrder query.ordering) := by
  obtain ⟨filter, terms, compiled, said, found⟩ := query.find_rows answerable store
  have sorted : (store.rows.filter query.selects).mergeSort
      (fun a b => SortTerm.compareAll terms a b != .gt) = query.sortedRows store := by
    simp only [sortedRows, SortTerm.compareAll_said said]
  rw [sorted] at found
  refine ⟨⟨filter, compiled, found⟩, ?_⟩
  rw [← sorted]
  refine (SortTerm.sorted terms _).imp ?_
  intro a b ordered
  rw [SortTerm.compareAll_said said] at ordered
  exact SortKey.compareAll_ne_gt.1 ordered

theorem answers_sortedRows {query : Query} {store : Store} (answerable : query.Answerable)
    (readable : ∀ row ∈ store.rows, ∃ issue, row.read = .ok issue) :
    (∃ issues, store.Answers query issues ∧ issues.map Except.ok = (query.sortedRows store).map Row.read) ∧
      (query.sortedRows store).Pairwise (SortKey.InOrder query.ordering) := by
  obtain ⟨⟨filter, compiled, found⟩, sorted⟩ := find_sortedRows answerable store
  refine ⟨?_, sorted⟩
  obtain ⟨issues, read, same⟩ := mapM_read fun row member =>
    readable row (List.mem_of_mem_filter ((query.sortedRows_perm store).mem_iff.1 member))
  refine ⟨issues, ⟨filter, compiled, ?_⟩, same⟩
  rw [found, read]
  rfl

end Query

/-- An ordering permutes what the conditions find and sorts it by its entries, of which those that repeat a column
have no effect. -/
theorem Store.find_ordered {query : Query} (answerable : query.Answerable) {store : Store}
    (readable : ∀ row ∈ store.rows, ∃ issue, row.read = .ok issue) :
    ∃ found unordered : List Issue, ∃ rows : List Row,
      store.Answers query found ∧ store.Answers ⟨query.conditions, []⟩ unordered ∧ found.Perm unordered ∧
      rows.Perm (store.rows.filter query.selects) ∧ found.map Except.ok = rows.map Row.read ∧
      rows.Pairwise (SortKey.InOrder query.ordering) ∧
      store.Answers ⟨query.conditions, SortKey.firsts query.ordering⟩ found := by
  have empty : Query.Answerable ⟨query.conditions, []⟩ := answerable.reordered (List.forall_mem_nil _)
  have fewer : Query.Answerable ⟨query.conditions, SortKey.firsts query.ordering⟩ :=
    answerable.reordered fun key member => SortKey.mem_of_firsts member
  obtain ⟨⟨found, answer, same⟩, sorted⟩ := Query.answers_sortedRows answerable readable
  obtain ⟨⟨unordered, plain, sameUnordered⟩, _⟩ := Query.answers_sortedRows empty readable
  obtain ⟨⟨again, other, sameAgain⟩, _⟩ := Query.answers_sortedRows fewer readable
  have perm := query.sortedRows_perm store
  have inject : ∀ l m : List Issue, (l.map (Except.ok (ε := BadTime))).Perm (m.map Except.ok) → l.Perm m :=
    fun l m => (List.map_perm_map_iff fun _ _ => Except.ok.inj).1
  have unchanged : again = found := by
    have rows : Query.sortedRows ⟨query.conditions, SortKey.firsts query.ordering⟩ store = query.sortedRows store := by
      simp only [Query.sortedRows, SortKey.compareAll_firsts]
      rfl
    rw [rows, ← same] at sameAgain
    exact List.map_injective_iff.2 (fun _ _ => Except.ok.inj) sameAgain
  refine ⟨found, unordered, query.sortedRows store, answer, plain, ?_, perm, same, sorted, unchanged ▸ other⟩
  apply inject
  rw [same, sameUnordered]
  exact (perm.trans (Query.sortedRows_perm ⟨query.conditions, []⟩ store).symm).map Row.read

instance (keys : List SortKey) (a b : Row) : Decidable (SortKey.InOrder keys a b) :=
  decidable_of_iff _ SortKey.compareAll_ne_gt

def busyQuery : Query where
  conditions := [.predicate ⟨"STATUS", .ne, ["dropped"]⟩]
  ordering := [⟨"Priority", .desc⟩, ⟨"resolved", .asc⟩, ⟨"priority", .asc⟩, ⟨"rowid", .desc⟩]

def busyRow (id : Int) (priority : String) (resolved : Option String) (status : String := "open") : Row :=
  ⟨id, "a", "", status, "", priority, resolved, "2024-01-01T00:00:00+00:00", "2024-01-01T00:00:00+00:00"⟩

def busyStore : Store where
  rows := [busyRow 3 "high" (some "2024-03-01T00:00:00+00:00"), busyRow 4 "high" none, busyRow 5 "High" none,
    busyRow 6 "low" none "dropped", busyRow 9 "low" none, busyRow 10 "low" none]

def busyRows : List Row :=
  [busyRow 10 "low" none, busyRow 9 "low" none, busyRow 4 "high" none,
    busyRow 3 "high" (some "2024-03-01T00:00:00+00:00"), busyRow 5 "High" none]

theorem busyStore_ordered :
    SortKey.firsts busyQuery.ordering = [⟨"Priority", .desc⟩, ⟨"resolved", .asc⟩, ⟨"rowid", .desc⟩] ∧
      ∃ found : List Issue, busyStore.Answers busyQuery found ∧ found.map Except.ok = busyRows.map Row.read ∧
        busyStore.Answers ⟨busyQuery.conditions, SortKey.firsts busyQuery.ordering⟩ found := by
  have answerable : busyQuery.Answerable :=
    ⟨by decide +kernel, by decide +kernel, by decide +kernel, by decide +kernel⟩
  obtain ⟨found, _, rows, answer, _, _, perm, same, sorted, fewer⟩ :=
    Store.find_ordered answerable (busyStore.readable_of_isOk (by decide +kernel))
  have chosen : rows.Perm busyRows := perm.trans (by decide +kernel)
  -- no two of the rows tie, so there is one way to sort them
  have apart : ∀ a ∈ busyRows, ∀ b ∈ busyRows, SortKey.InOrder busyQuery.ordering a b →
      SortKey.InOrder busyQuery.ordering b a → a = b := by decide +kernel
  have listed : busyRows.Pairwise (SortKey.InOrder busyQuery.ordering) := by decide +kernel
  have rowsSame : rows = busyRows :=
    chosen.eq_of_pairwise (fun a b first second => apart a (chosen.mem_iff.1 first) b second) sorted listed
  exact ⟨by decide +kernel, found, answer, rowsSame ▸ same, fewer⟩

end IssueQuery
