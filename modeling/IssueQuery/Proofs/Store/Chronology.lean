import IssueQuery.Proofs.Filter.Grouping
import IssueQuery.Proofs.Query.Printed
import IssueQuery.Proofs.Store.Inserted
import IssueQuery.Proofs.Time.Order
import Mathlib.Data.List.Permutation

/-!
Times in a store. A search that is ordered by a time gives issues in the order of the moments that its clocks show,
however many digits the fractions of their seconds have; a clock goes on to the next second where a moment has a
thousand million nanoseconds or more and its minute goes on. A search that compares a time with what JSON output has
for it goes by texts that name UTC in two ways.
-/

namespace IssueQuery
open Sql Text

def TimeColumn.column : TimeColumn → Column
  | resolved => .resolved
  | createdAt => .createdAt
  | updatedAt => .updatedAt

namespace Issue

def time (issue : Issue) : TimeColumn → Option Instant
  | .resolved => issue.resolved
  | .createdAt => some issue.createdAt
  | .updatedAt => some issue.updatedAt

theorem Readable.time {issue : Issue} (readable : issue.Readable) {column : TimeColumn} {t : Instant}
    (set : issue.time column = some t) : t.HasPlainYear := by
  cases column with
  | resolved => exact readable.resolved t set
  | createdAt =>
    cases set
    exact readable.createdAt
  | updatedAt =>
    cases set
    exact readable.updatedAt

theorem time_settled (issue : Issue) (column : TimeColumn) :
    issue.settled.time column = (issue.time column).map Instant.settled := by
  cases column <;> rfl

theorem value_time (issue : Issue) (column : TimeColumn) :
    issue.row.value column.column = (issue.time column).elim .null fun t => .text t.stored := by
  cases column with
  | resolved => cases shape : issue.resolved <;> simp [row, Row.ofIssue, Row.value, TimeColumn.column, time, shape]
  | _ => rfl

end Issue

/-- The order of times, one that is not set before all others. -/
def compareTimes : Option Instant → Option Instant → Ordering
  | none, none => .eq
  | none, some _ => .lt
  | some _, none => .gt
  | some t, some u => t.compare u

theorem Issue.compareValues_time {a b : Issue} (first : a.Readable) (second : b.Readable) (column : TimeColumn) :
    compareValues (a.row.value column.column) (b.row.value column.column) =
      compareTimes (a.settled.time column) (b.settled.time column) := by
  rw [value_time, value_time, time_settled, time_settled]
  cases left : a.time column with
  | none => cases b.time column <;> rfl
  | some t =>
    cases right : b.time column with
    | none => rfl
    | some u => exact Instant.compare_stored (first.time left) (second.time right)

/-- Stored times stand to each other by their bytes as the moments that their clocks show, so a search that is ordered
by a time gives the issues that it selects in the order of these moments, those without one first. They are the
moments that were stored where leap seconds are at the ends of minutes. -/
theorem Store.find_chronological :
    (∀ t u : Instant, t.HasPlainYear → u.HasPlainYear →
      Ord.compare (bytes t.stored) (bytes u.stored) = t.settled.compare u.settled ∧
        (t.HasPlainSecond → u.HasPlainSecond → Ord.compare (bytes t.stored) (bytes u.stored) = t.compare u)) ∧
    ∀ issues : List Issue, (∀ issue ∈ issues, issue.Readable) →
      ∀ (query : Query) (column : TimeColumn) (field : String) (keys : List SortKey), query.Answerable →
        Column.ofName? field = some column.column → query.ordering = ⟨field, .asc⟩ :: keys →
        ∃ filter found, query.compile = .ok filter ∧ (Store.empty.insertAll issues).find filter = .ok found ∧
          found.Perm (((Issue.numbered issues).filter fun issue => query.selects issue.row).map Issue.settled) ∧
          (found.Pairwise fun a b => compareTimes (a.time column) (b.time column) ≠ .gt) ∧
          ((∀ issue ∈ issues, issue.HasPlainSeconds) →
            found.Perm ((Issue.numbered issues).filter fun issue => query.selects issue.row)) := by
  constructor
  · intro t u plain other
    have shown : Ord.compare (bytes t.stored) (bytes u.stored) = t.settled.compare u.settled := by
      rw [compare_bytes, Instant.compare_stored plain other]
    refine ⟨shown, fun first second => ?_⟩
    rw [shown, Instant.settled_of_plain first, Instant.settled_of_plain second]
  · intro issues readable query column field keys answerable named ordered
    obtain ⟨filter, found, compiled, answer, perm, sorted⟩ := Query.finds_inserted answerable readable
    refine ⟨filter, found, compiled, answer, perm, sorted.imp_of_mem ?_, fun plain => ?_⟩
    · intro a b first second before after
      have given : ∀ issue ∈ found, issue.Readable ∧ issue.settled = issue := by
        intro issue member
        obtain ⟨origin, inside, rfl⟩ := List.mem_map.1 (perm.mem_iff.1 member)
        have year := Issue.Readable.numbered readable origin (List.mem_of_mem_filter inside)
        exact ⟨year.settled, Issue.settled_settled origin⟩
      obtain ⟨left, settled⟩ := given a first
      obtain ⟨right, settled'⟩ := given b second
      apply before
      rw [ordered, SortKey.compareAll, List.foldr_cons, SortKey.compare, named, Option.elim_some,
        Issue.compareValues_time left right column, settled, settled']
      simp only [after]
      rfl
    · rwa [Issue.map_settled fun issue member =>
        Issue.HasPlainSeconds.numbered plain issue (List.mem_of_mem_filter member)] at perm

def moment (text : String) : Instant :=
  (Instant.readStrict? text).getD newYear

def lastHalf : Instant :=
  moment "2016-12-31T23:59:59.5Z"

def lastMoments : List Instant :=
  [newYear, moment "2016-12-31T23:59:60Z", lastHalf, moment "2016-12-31T23:59:59.500000001Z",
    moment "2016-12-31T23:59:59Z"]

example : lastMoments.map Instant.stored =
    ["2024-01-01T00:00:00+00:00", "2016-12-31T23:59:60+00:00", "2016-12-31T23:59:59.500+00:00",
      "2016-12-31T23:59:59.500000001+00:00", "2016-12-31T23:59:59+00:00"] := by
  decide +kernel

def lastIssues : List Issue :=
  .new "open" newYear :: lastMoments.map fun t => { Issue.new "done" newYear with resolved := some t }

theorem lastMoments_plain : ∀ t ∈ lastMoments, t.HasPlainYear := by
  decide +kernel

theorem lastMoments_settled : ∀ t ∈ lastMoments, t.HasPlainSecond := by
  decide +kernel

theorem lastIssues_readable : ∀ issue ∈ lastIssues, issue.Readable := by
  intro issue member
  rcases List.mem_cons.1 member with rfl | resolved
  · exact Issue.readable_new _ (by decide)
  · obtain ⟨t, inside, rfl⟩ := List.mem_map.1 resolved
    have year : newYear.HasPlainYear := by decide
    exact ⟨fun other same => Option.some.inj same ▸ lastMoments_plain t inside, year, year⟩

theorem lastIssues_settled : ∀ issue ∈ lastIssues, issue.HasPlainSeconds := by
  intro issue member
  have second : newYear.HasPlainSecond := by decide
  rcases List.mem_cons.1 member with rfl | resolved
  · exact ⟨by decide, second, second⟩
  · obtain ⟨t, inside, rfl⟩ := List.mem_map.1 resolved
    exact ⟨fun other same => Option.some.inj same ▸ lastMoments_settled t inside, second, second⟩

theorem lastIssues_chronological :
    (∀ t ∈ lastMoments, ∀ u ∈ lastMoments, Ord.compare (bytes t.stored) (bytes u.stored) = t.compare u) ∧
      ∃ filter found, Query.compile ⟨[], [⟨"Resolved", .asc⟩, ⟨"title", .desc⟩]⟩ = .ok filter ∧
        (Store.empty.insertAll lastIssues).find filter = .ok found ∧ found.Perm (Issue.numbered lastIssues) ∧
        found.Pairwise fun a b => compareTimes a.resolved b.resolved ≠ .gt := by
  obtain ⟨texts, searches⟩ := Store.find_chronological
  obtain ⟨filter, found, compiled, answer, _, sorted, whole⟩ := searches lastIssues lastIssues_readable
    ⟨[], [⟨"Resolved", .asc⟩, ⟨"title", .desc⟩]⟩ .resolved "Resolved" [⟨"title", .desc⟩]
    ⟨by decide +kernel, by decide +kernel, by decide +kernel, by decide +kernel⟩ (by decide +kernel) rfl
  have perm := whole lastIssues_settled
  refine ⟨?_, filter, found, compiled, answer, ?_, sorted⟩
  · intro t first u second
    exact (texts t u (lastMoments_plain t first) (lastMoments_plain u second)).2 (lastMoments_settled t first)
      (lastMoments_settled u second)
  have all : (Issue.numbered lastIssues).filter (fun issue =>
      Query.selects ⟨[], [⟨"Resolved", .asc⟩, ⟨"title", .desc⟩]⟩ issue.row) = Issue.numbered lastIssues :=
    List.filter_eq_self.2 fun _ _ => rfl
  rwa [all] at perm

def noon : Instant :=
  moment "2024-03-01T12:00:00Z"

/-- Noon with so many nanoseconds that its clock shows a later second than it has. -/
def longNoon : Instant :=
  (Instant.ofParts? noon.date noon.second 1500000000).getD noon

def longIssues : List Issue :=
  [.new "a" longNoon, .new "b" (moment "2024-03-01T12:00:01Z")]

/-- The moment is before the next second, but its text is after that second's, and a search gives its issue last. -/
theorem longNoon_misplaced :
    longNoon.HasPlainYear ∧ longNoon.compare (moment "2024-03-01T12:00:01Z") = .lt ∧
      Ord.compare (bytes longNoon.stored) (bytes (moment "2024-03-01T12:00:01Z").stored) = .gt ∧
      ∃ filter found, Query.compile ⟨[], [⟨"created_at", .asc⟩]⟩ = .ok filter ∧
        (Store.empty.insertAll longIssues).find filter = .ok found ∧ found.map Issue.id = [2, 1] := by
  have readable : ∀ issue ∈ longIssues, issue.Readable := by
    rw [longIssues, List.forall_mem_cons, List.forall_mem_singleton]
    constructor <;> exact Issue.readable_new _ (by decide +kernel)
  have answerable : Query.Answerable ⟨[], [⟨"created_at", .asc⟩]⟩ :=
    ⟨by decide +kernel, by decide +kernel, by decide +kernel, by decide +kernel⟩
  obtain ⟨filter, found, compiled, answer, perm, sorted⟩ := Query.finds_inserted answerable readable
  refine ⟨by decide +kernel, by decide +kernel, by decide +kernel, filter, found, compiled, answer, ?_⟩
  have all : (Issue.numbered longIssues).filter (fun issue =>
      Query.selects ⟨[], [⟨"created_at", .asc⟩]⟩ issue.row) = Issue.numbered longIssues :=
    List.filter_eq_self.2 fun _ _ => rfl
  rw [all] at perm
  rcases List.perm_pair.1 perm with rfl | rfl
  · have ordered := List.rel_of_pairwise_cons sorted List.mem_cons_self
    exact absurd (by decide +kernel) ordered
  · rfl

theorem Operator.single_of_comparison {operator : Operator} {comparison : Comparison}
    (compares : operator.comparison? = some comparison) :
    operator ≠ .isIn ∧ operator.takesKeyword = false ∧ operator.takes 1 = true := by
  cases operator <;> first | exact ⟨by decide, rfl, rfl⟩ | cases compares

namespace Query

def comparing (column : TimeColumn) (operator : Operator) (instant : Instant) : String :=
  column.name ++ " " ++ operator.text ++ " \"" ++ instant.json ++ "\""

section

variable {operator : Operator} {comparison : Comparison} {u : Instant}

theorem writable_json (plain : u.HasPlainYear) : Token.IsWritable u.json := by
  constructor
  · intro empty
    have length := congrArg (fun text => text.toList.length) empty
    simp [Instant.toList_json] at length
  · rw [Instant.toList_json]
    intro member
    rcases List.mem_append.1 member with inside | last
    · exact absurd (Instant.mem_written plain inside).1 (by decide)
    · exact absurd last (by decide)

theorem parse_comparing (column : TimeColumn) (plain : operator ≠ .isIn) (year : u.HasPlainYear) :
    parse (comparing column operator u) = .ok ⟨[.predicate ⟨column.name, operator, [u.json]⟩], []⟩ := by
  have spelled : comparing column operator u =
      Token.spell [.word column.name, .operator operator, .quoted u.json] := by
    apply String.toList_inj.1
    simp [comparing, Token.spell_cons, Token.spaced, Token.describe, Token.text]
  have spellable : ∀ token ∈ [Token.word column.name, .operator operator, .quoted u.json], token.Spellable := by
    have named : (Token.word column.name).Spellable := by
      have inside : column.name.toList.all isWord = true := by
        cases column <;> decide +kernel
      refine ⟨?_, List.all_eq_true.1 inside, ?_⟩ <;> cases column <;> decide
    simp only [List.forall_mem_cons]
    exact ⟨named, trivial, writable_json year, List.forall_mem_nil _⟩
  have apart : [Token.word column.name, .operator operator, .quoted u.json].IsChain Token.Apart := by
    refine .cons_cons ⟨by simp, by simp⟩ (.cons_cons ⟨by simp, by simp⟩ (.singleton _))
  have clear : [Token.word column.name, .operator operator, .quoted u.json].IsChain Token.Clear := by
    refine .cons_cons ?_ (.cons_cons ?_ (.singleton _))
    · intro op same
      cases same
    · rintro op same _ (paren | paren) <;> cases paren
  have derived : Element.Derives [.word column.name, .operator operator, .quoted u.json]
      [.predicate ⟨column.name, operator, [u.json]⟩] :=
    .single (.word column.name) plain (by intro keyword same; cases same) .nil
  have conditions : .order .orderBy ∉ [Token.word column.name, .operator operator, .quoted u.json] := by
    simp
  have split := splitOrdering_printed conditions []
  rw [orderingTokens, List.append_nil] at split
  have unordered : SortKey.parseAll (Token.separated ([].map SortKey.tokens)) = .ok [] := SortKey.Derives.nil.parseAll
  rw [parse, spelled, Token.tokenize_spell spellable apart, ofTokens, split]
  simp only
  rw [derived.parseLevel clear, unordered]
  rfl

theorem ofName?_name (column : TimeColumn) : Column.ofName? column.name = some column.column := by
  cases column <;> decide +kernel

theorem isIdentifier_name (column : TimeColumn) : isIdentifier column.name = true := by
  cases column <;> decide +kernel

theorem answerable_comparing (column : TimeColumn) (compares : operator.comparison? = some comparison)
    (value : String) :
    Answerable ⟨[.predicate ⟨column.name, operator, [value]⟩], []⟩ := by
  obtain ⟨_, plain, takes⟩ := operator.single_of_comparison compares
  constructor
  · refine validate_ok.2 ⟨?_, List.forall_mem_nil _⟩
    exact List.forall_mem_singleton.2 (Predicate.validate_ok.2 ⟨isIdentifier_name column, takes⟩)
  · refine List.forall_mem_singleton.2 ?_
    rw [ofName?_name]
    rfl
  · exact List.forall_mem_nil _
  · refine List.forall_mem_singleton.2 fun keyword => ?_
    rw [plain] at keyword
    cases keyword

theorem truth_single (p : Predicate) (row : Row) : truth ⟨[.predicate p], []⟩ row = p.normal.truth row := by
  change Truth.or (Truth.and (p.normal.truth row) .yes) .no = p.normal.truth row
  cases p.normal.truth row <;> rfl

/-- The stored text is compared with the text of the query. -/
theorem selects_comparing (column : TimeColumn) (compares : operator.comparison? = some comparison)
    (ordered : comparison ≠ .like) {issue : Issue} (readable : issue.Readable) (year : u.HasPlainYear) :
    selects ⟨[.predicate ⟨column.name, operator, [u.json]⟩], []⟩ issue.row = true ↔
      ∃ t ∈ issue.time column, comparison.accepts (t.besideJson u) = true := by
  obtain ⟨_, plain, _⟩ := operator.single_of_comparison compares
  have normal : Predicate.normal ⟨column.name, operator, [u.json]⟩ = ⟨column.name, operator, [u.json]⟩ :=
    if_neg (Bool.eq_false_iff.1 plain)
  rw [selects, truth_single, normal, Predicate.truth, ofName?_name, Option.elim_some,
    Operator.truth_compared compares, issue.value_time]
  cases set : issue.time column with
  | none =>
    have unset : comparison.test .null u.json = .unknown := by
      cases comparison <;> rfl
    simp [unset]
  | some t =>
    have text : comparison.test (.text t.stored) u.json = .ofBool (comparison.accepts (t.besideJson u)) := by
      rw [← Instant.compare_json (readable.time set) year]
      cases comparison <;> first | rfl | exact absurd rfl ordered
    simp only [Option.elim_some, text, Option.mem_def, Option.some.injEq, exists_eq_left']
    cases comparison.accepts (t.besideJson u) <;> decide

theorem prepare_comparing (column : TimeColumn) (compares : operator.comparison? = some comparison)
    (year : u.HasPlainYear) {filter : Filter}
    (compiled : compile ⟨[.predicate ⟨column.name, operator, [u.json]⟩], []⟩ = .ok filter) :
    prepare (comparing column operator u) = .ok ⟨⟨[.predicate ⟨column.name, operator, [u.json]⟩], []⟩, filter⟩ := by
  obtain ⟨other, _, _⟩ := operator.single_of_comparison compares
  have filled : blank (comparing column operator u).toList = false :=
    List.all_eq_false.2 ⟨'"', by simp [comparing], by decide⟩
  have valid := (answerable_comparing column compares u.json).valid
  exact prepare_eq_ok.2 ⟨filled, parse_comparing column other year, valid, compiled⟩

end

end Query

/-- A query that compares a time column with a moment as JSON output has it finds the issues for which the stored
text stands so to the moment's, which is as the moments that their clocks show stand unless the one starts with the
digits of the other. -/
theorem Store.find_compared {issues : List Issue} (readable : ∀ issue ∈ issues, issue.Readable) (column : TimeColumn)
    {u : Instant} (year : u.HasPlainYear) :
    (∀ (operator : Operator) (comparison : Comparison), operator.comparison? = some comparison → comparison ≠ .like →
      ∃ prepared found, Query.prepare (Query.comparing column operator u) = .ok prepared ∧
        (Store.empty.insertAll issues).find prepared.filter = .ok found ∧
        ∀ issue ∈ Issue.numbered issues,
          (issue.settled ∈ found ↔ ∃ t ∈ issue.time column, comparison.accepts (t.besideJson u) = true)) ∧
    ∀ issue ∈ issues, ∀ t ∈ issue.time column,
      (t.besideJson u = t.settled.compare u.settled ↔ ¬u.written [] <+: t.written []) ∧
        (t.HasPlainSecond → u.HasPlainSecond → t.settled.compare u.settled = t.compare u) := by
  constructor
  · intro operator comparison compares ordered
    obtain ⟨filter, found, compiled, answer, perm, _⟩ :=
      Query.finds_inserted (Query.answerable_comparing column compares u.json) readable
    refine ⟨_, found, Query.prepare_comparing column compares year compiled, answer, ?_⟩
    intro issue member
    rw [perm.mem_iff, Issue.settled_mem_map member,
      Query.selects_comparing column compares ordered (Issue.Readable.numbered readable issue member) year]
  · intro issue member t set
    refine ⟨Instant.besideJson_eq_compare ((readable issue member).time set) year, fun first second => ?_⟩
    rw [Instant.settled_of_plain first, Instant.settled_of_plain second]

theorem lastIssues_compared :
    Query.comparing .resolved .gt lastHalf = "resolved > \"2016-12-31T23:59:59.500Z\"" ∧
      ∃ prepared found, Query.prepare (Query.comparing .resolved .gt lastHalf) = .ok prepared ∧
        (Store.empty.insertAll lastIssues).find prepared.filter = .ok found ∧
        ∀ issue ∈ Issue.numbered lastIssues, (issue ∈ found ↔ issue.id ∈ [2, 3]) := by
  have year : lastHalf.HasPlainYear := by decide +kernel
  obtain ⟨prepared, found, accepted, answer, selected⟩ :=
    (Store.find_compared lastIssues_readable .resolved year).1 .gt .gt rfl (by decide)
  refine ⟨by decide +kernel, prepared, found, accepted, answer, ?_⟩
  intro issue member
  have after : ∀ issue ∈ Issue.numbered lastIssues,
      (∃ t ∈ issue.time .resolved, Comparison.gt.accepts (t.besideJson lastHalf) = true) ↔ issue.id ∈ [2, 3] := by
    decide +kernel
  rw [← after issue member, ← selected issue member,
    Issue.settled_eq_self.2 (Issue.HasPlainSeconds.numbered lastIssues_settled issue member)]

def noonIssues : List Issue :=
  [.new "a" noon, .new "b" (moment "2024-03-01T12:00:00.5Z")]

/-- The issue that was created at noon is not found by its time, nor the one created after it as later. -/
theorem noonIssues_missed :
    Query.comparing .createdAt .eq noon = "created_at = \"2024-03-01T12:00:00Z\"" ∧
      ∀ operator ∈ [Operator.eq, .gt], ∃ prepared,
        Query.prepare (Query.comparing .createdAt operator noon) = .ok prepared ∧
          (Store.empty.insertAll noonIssues).find prepared.filter = .ok [] := by
  have readable : ∀ issue ∈ noonIssues, issue.Readable := by
    rw [noonIssues, List.forall_mem_cons, List.forall_mem_singleton]
    constructor <;> exact Issue.readable_new _ (by decide +kernel)
  refine ⟨by decide +kernel, ?_⟩
  intro operator member
  obtain ⟨comparison, compares⟩ : ∃ comparison, operator.comparison? = some comparison := by
    rcases List.mem_pair.1 member with rfl | rfl <;> exact ⟨_, rfl⟩
  have missed : ∀ operator ∈ [Operator.eq, .gt], ∀ issue ∈ Issue.numbered noonIssues,
      ¬Query.selects ⟨[.predicate ⟨TimeColumn.createdAt.name, operator, [noon.json]⟩], []⟩ issue.row = true := by
    decide +kernel
  obtain ⟨filter, found, compiled, answer, perm, _⟩ :=
    Query.finds_inserted (Query.answerable_comparing .createdAt compares noon.json) readable
  rw [List.filter_eq_nil_iff.2 (missed operator member)] at perm
  rw [perm.eq_nil] at answer
  exact ⟨_, Query.prepare_comparing .createdAt compares (by decide +kernel) compiled, answer⟩

end IssueQuery
