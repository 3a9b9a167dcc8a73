import IssueQuery.Proofs.Filter.Lists
import IssueQuery.Proofs.Store.Runs

/-!
The lines of a listing. A newline in a field of an issue ends a line like any other, so a listing has one line for
each issue if and only if no issue in it holds a newline where it shows.
-/

namespace IssueQuery
open Sql

theorem length_splitOn (mark : Char) (text : List Char) : (text.splitOn mark).length = text.count mark + 1 := by
  induction text with
  | nil => rfl
  | cons c rest ih =>
    rw [List.splitOn_cons_eq_if_modifyHead, List.count_cons]
    split
    · rw [List.length_cons, ih]
    · rw [List.length_modifyHead, ih]

namespace Issue

def shown (issue : Issue) : List String :=
  [issue.status, issue.priority, issue.title, issue.assignee]

/-- No field that shows ends the line. -/
def OnOneLine (issue : Issue) : Prop :=
  ∀ field ∈ issue.shown, '\n' ∉ field.toList

instance (issue : Issue) : Decidable issue.OnOneLine :=
  inferInstanceAs (Decidable (∀ _ ∈ _, _))

def shownText (issue : Issue) : List Char :=
  issue.shown.flatMap String.toList

theorem newline_not_mem_id (id : Int) : '\n' ∉ (toString id).toList := by
  have digits : ∀ n : Nat, '\n' ∉ (toString n).toList := by
    intro n member
    exact absurd (digits_of_index member) (by decide)
  cases id with
  | ofNat n => exact digits n
  | negSucc n =>
    intro member
    change '\n' ∈ ("-" ++ toString (n + 1)).toList at member
    rw [String.toList_append, List.mem_append] at member
    rcases member with sign | inside
    · exact absurd sign (by decide)
    · exact digits _ inside

theorem toList_line (issue : Issue) :
    issue.line.toList = '#' :: ((toString issue.id).toList ++ (" [".toList ++ (issue.status.toList ++
      ("] [".toList ++ (issue.priority.toList ++ ("] ".toList ++ (issue.title.toList ++
        if issue.assignee.isEmpty then [] else " (@".toList ++ (issue.assignee.toList ++ [')'])))))))) := by
  have plain : ∀ text : String, toString text = text := fun _ => rfl
  unfold line
  split <;> simp [plain]

/-- A line is ended as often as its fields end it. -/
theorem count_line (issue : Issue) : issue.line.toList.count '\n' = issue.shownText.count '\n' := by
  have id : (toString issue.id).toList.count '\n' = 0 := List.count_eq_zero.2 (newline_not_mem_id issue.id)
  rw [toList_line]
  split
  · next unassigned =>
    have empty : issue.assignee = "" := String.isEmpty_iff.1 unassigned
    simp only [List.count_cons, List.count_append, id, shownText, shown, empty]
    simp
  · simp only [List.count_cons, List.count_append, id, shownText, shown]
    simp

theorem onOneLine_iff {issue : Issue} : issue.OnOneLine ↔ '\n' ∉ issue.shownText := by
  simp [OnOneLine, shownText]

theorem toList_listing (issues : List Issue) :
    (listing issues).toList = issues.flatMap fun issue => issue.line.toList ++ ['\n'] := by
  rw [listing, String.toList_join, List.flatMap_map]
  simp

/-- Each line of a listing is cut where its fields end it. -/
theorem splitOn_listing (issues : List Issue) :
    (listing issues).toList.splitOn '\n' = issues.flatMap (fun issue => issue.line.toList.splitOn '\n') ++ [[]] := by
  rw [toList_listing]
  induction issues with
  | nil => rfl
  | cons issue rest ih =>
    rw [List.flatMap_cons, List.flatMap_cons, List.append_assoc, List.singleton_append, List.splitOn_append_cons_self,
      ih, List.append_assoc]

theorem length_splitOn_listing (issues : List Issue) :
    ((listing issues).toList.splitOn '\n').length = issues.length + (issues.flatMap shownText).count '\n' + 1 := by
  rw [splitOn_listing, List.length_append, List.length_singleton]
  congr 1
  induction issues with
  | nil => rfl
  | cons issue rest ih =>
    rw [List.flatMap_cons, List.length_append, ih, length_splitOn, count_line, List.length_cons, List.flatMap_cons,
      List.count_append]
    omega

/-- There is one line for each issue exactly if no field that shows holds a newline. -/
theorem listing_lines_iff (issues : List Issue) :
    (listing issues).toList.splitOn '\n' = issues.map (fun issue => issue.line.toList) ++ [[]] ↔
      ∀ issue ∈ issues, issue.OnOneLine := by
  constructor
  · intro lines issue member
    have length := congrArg List.length lines
    rw [length_splitOn_listing, List.length_append, List.length_map, List.length_singleton] at length
    have none : (issues.flatMap shownText).count '\n' = 0 := by omega
    rw [List.count_eq_zero] at none
    exact onOneLine_iff.2 fun inside => none (List.mem_flatMap.2 ⟨issue, member, inside⟩)
  · intro single
    rw [splitOn_listing, List.map_eq_flatMap]
    congr 1
    apply List.flatMap_congr
    intro issue member
    apply List.splitOn_eq_singleton
    rw [← List.count_eq_zero, count_line]
    exact List.count_eq_zero.2 (onOneLine_iff.1 (single issue member))

end Issue

namespace Store

theorem row_of_found {store : Store} {filter : Filter} {issues : List Issue} (found : store.find filter = .ok issues) :
    ∀ issue ∈ issues, ∃ row ∈ store.rows, row.read = .ok issue := by
  intro issue member
  cases read : Select.ofSql filter.select.sql with
  | error cause =>
    unfold find at found
    dsimp only at found
    rw [read] at found
    cases found
  | ok select =>
    rw [find_select store read] at found
    have same := map_of_mapM (mapError_eq_ok.1 found)
    obtain ⟨row, inside, back⟩ := List.mem_map.1 (same ▸ List.mem_map_of_mem member)
    have sorted := List.mergeSort_perm (store.rows.filter (select.matchesRow filter.select.bindings)) fun a b =>
      SortTerm.compareAll select.ordering a b != .gt
    exact ⟨row, List.mem_of_mem_filter (sorted.mem_iff.1 inside), back⟩

theorem find_of_findByText {store : Store} {text : String} {issues : List Issue}
    (found : store.findByText text = .ok issues) :
    ∃ filter, store.find filter = .ok issues := by
  rw [findByText] at found
  split at found
  · cases found
  · next prepared _ => exact ⟨prepared.filter, mapError_eq_ok.1 found⟩

def everyIssue : Query :=
  ⟨[], [⟨"id", .asc⟩]⟩

theorem findByText_everyIssue {issues : List Issue} (readable : ∀ issue ∈ issues, issue.Readable) :
    ∃ found, (holding issues).findByText everyIssue.print = .ok found ∧
      found.Perm ((Issue.numbered issues).map Issue.settled) := by
  have answerable : everyIssue.Answerable := ⟨by decide, by decide, by decide, by decide⟩
  obtain ⟨filter, found, compiled, answer, perm, _⟩ := Query.finds_inserted answerable readable
  rw [show Store.empty.insertAll issues = holding issues from insertAll_holding [] issues] at answer
  have prepared : Query.prepare everyIssue.print = .ok ⟨everyIssue, filter⟩ :=
    Query.prepare_eq_ok.2 ⟨by decide +kernel, Query.parse_print answerable.valid nofun, answerable.valid, compiled⟩
  refine ⟨found, ?_, ?_⟩
  · rw [findByText, prepared]
    dsimp only
    rw [answer]
    rfl
  · have all : (Issue.numbered issues).filter (fun issue => everyIssue.selects issue.row) = Issue.numbered issues :=
      List.filter_eq_self.2 fun _ _ => rfl
    rwa [all] at perm

/-- Whatever is found is printed with one line for each issue, and that is the line of the issue. -/
def ListsByLine (store : Store) : Prop :=
  ∀ text issues printed, store.findByText text = .ok issues → store.query text .text = .ok printed →
    printed.toList.splitOn '\n' = issues.map (fun issue => issue.line.toList) ++ [[]]

theorem query_listing {store : Store} {text : String} {issues : List Issue}
    (found : store.findByText text = .ok issues) : store.query text .text = .ok (Issue.listing issues) := by
  rw [query, found]
  rfl

/-- Among issues that can be read, every listing has its lines exactly if every issue shows on one. -/
theorem listsByLine_holding {issues : List Issue} (readable : ∀ issue ∈ issues, issue.Readable) :
    (holding issues).ListsByLine ↔ ∀ issue ∈ issues, issue.OnOneLine := by
  constructor
  · intro lists issue member
    obtain ⟨found, answer, perm⟩ := findByText_everyIssue readable
    have single := (Issue.listing_lines_iff found).1 (lists _ _ _ answer (query_listing answer))
    obtain ⟨place, inside, rfl⟩ := List.getElem_of_mem member
    exact single { issues[place].settled with id := (place : Int) + 1 }
      (perm.mem_iff.2 (List.mem_map_of_mem (List.mem_mapIdx.2 ⟨place, inside, rfl⟩)))
  · intro single text found printed answer shows
    rw [query_listing answer] at shows
    cases shows
    obtain ⟨filter, searched⟩ := find_of_findByText answer
    refine (Issue.listing_lines_iff found).2 fun issue member => ?_
    obtain ⟨row, inside, back⟩ := row_of_found searched issue member
    obtain ⟨origin, held, id, rfl⟩ := mem_holding inside
    rw [Row.read_ofIssue (readable origin held)] at back
    cases back
    exact single origin held

/-- After any operations on a new database, a listing is cut into the lines of its issues and those that newlines in
their fields add; so it has one line for each issue, and that is the line of the issue, exactly if no field that shows
holds a newline. If what the operations have inserted can be read, all listings are like that exactly if this holds of
every issue among it. -/
theorem query_lines (operations : List Operation) :
    (∀ text issues, (run operations (migrate none)).2.findByText text = .ok issues →
      ∃ printed, (run operations (migrate none)).2.query text .text = .ok printed ∧
        printed.toList.splitOn '\n' = issues.flatMap (fun issue => issue.line.toList.splitOn '\n') ++ [[]] ∧
        (printed.toList.splitOn '\n').length =
          issues.length + (issues.flatMap Issue.shownText).count '\n' + 1 ∧
        (printed.toList.splitOn '\n' = issues.map (fun issue => issue.line.toList) ++ [[]] ↔
          ∀ issue ∈ issues, issue.OnOneLine)) ∧
      ((∀ issue ∈ Operation.inserted operations, issue.Readable) →
        ((run operations (migrate none)).2.ListsByLine ↔
          ∀ issue ∈ Operation.inserted operations, issue.OnOneLine)) := by
  constructor
  · intro text issues found
    exact ⟨Issue.listing issues, query_listing found, Issue.splitOn_listing issues,
      Issue.length_splitOn_listing issues, Issue.listing_lines_iff issues⟩
  · intro readable
    rw [(run_kept operations).held]
    exact listsByLine_holding readable

def forgedIssue : Issue :=
  Issue.new "a\n#2 [open] [medium] b" newYear

def forgedRun : List Operation :=
  [.create ⟨"a\n#2 [open] [medium] b", none, "open", "medium", none, none⟩ newYear]

theorem forgedRun_inserted : Operation.inserted forgedRun = [forgedIssue] := by
  decide +kernel

theorem forgedIssue_readable : ∀ issue ∈ [forgedIssue], issue.Readable := by
  intro issue member
  cases List.mem_singleton.1 member
  exact ⟨by decide, by decide, by decide⟩

theorem findByText_forged :
    (run forgedRun (migrate none)).2.findByText everyIssue.print = .ok [{ forgedIssue with id := 1 }] := by
  obtain ⟨found, answer, perm⟩ := findByText_everyIssue forgedIssue_readable
  rw [(run_kept forgedRun).held, forgedRun_inserted, answer, List.perm_singleton.1 perm]
  rfl

theorem forgedRun_listed :
    (∃ printed, (run forgedRun (migrate none)).2.query everyIssue.print .text = .ok printed ∧
      (printed.toList.splitOn '\n').length = 1 + 1 + 1) ∧
      ¬(run forgedRun (migrate none)).2.ListsByLine ∧
      (run [.insert (Issue.new "a" newYear)] (migrate none)).2.ListsByLine := by
  have readable : ∀ issue ∈ Operation.inserted forgedRun, issue.Readable := by
    rw [forgedRun_inserted]
    exact forgedIssue_readable
  have plain : ∀ issue ∈ Operation.inserted [.insert (Issue.new "a" newYear)], issue.Readable := by
    intro issue member
    cases List.mem_singleton.1 member
    exact ⟨by decide, by decide, by decide⟩
  obtain ⟨searches, lines⟩ := query_lines forgedRun
  refine ⟨?_, ?_, ((query_lines _).2 plain).2 (by decide)⟩
  · obtain ⟨printed, shows, _, count, _⟩ := searches _ _ findByText_forged
    exact ⟨printed, shows, count⟩
  · rw [lines readable, forgedRun_inserted]
    decide

/-- One issue that is found prints two lines, and the second reads as the line of another issue. -/
theorem forgedTitle_adds_line :
    (run forgedRun (migrate none)).1 = [.stored 1] ∧
      (∃ issue, (run forgedRun (migrate none)).2.findByText everyIssue.print = .ok [issue]) ∧
      (run forgedRun (migrate none)).2.query everyIssue.print .text =
        .ok "#1 [open] [medium] a\n#2 [open] [medium] b\n" ∧
      Issue.line { Issue.new "b" newYear with id := 2 } = "#2 [open] [medium] b" := by
  refine ⟨by decide +kernel, ⟨_, findByText_forged⟩, ?_, by decide +kernel⟩
  rw [query_listing findByText_forged]
  decide +kernel

end Store

end IssueQuery
