import IssueQuery.Sql.Parser
import Mathlib.Data.Option.Basic

/-!
Names of columns. Whatever names a column, in either letter case, can stand in SQL text, and a statement is
refused for no name but one of its own that is no column.
-/

namespace IssueQuery

theorem toLower_of_ascii (c : Char) (beyond : 128 ≤ c.toNat) : c.toLower = c := by
  apply dif_neg
  rintro ⟨_, upper⟩
  have bound : c.toNat ≤ 90 := upper
  omega

theorem ascii_letter_cases : ∀ n : Fin 128, (Char.ofNat n).toLower.toUpper = (Char.ofNat n).toUpper ∧
    ((Char.ofNat n).isDigit = true → (Char.ofNat n).toLower.isDigit = true) := by
  decide +kernel

theorem toUpper_toLower (c : Char) : c.toLower.toUpper = c.toUpper := by
  by_cases ascii : c.toNat < 128
  · have both := (ascii_letter_cases ⟨c.toNat, ascii⟩).1
    rwa [Char.ofNat_toNat] at both
  · rw [toLower_of_ascii c (Nat.le_of_not_lt ascii)]

theorem isDigit_toLower {c : Char} (digit : c.isDigit = true) : c.toLower.isDigit = true := by
  by_cases ascii : c.toNat < 128
  · have both := (ascii_letter_cases ⟨c.toNat, ascii⟩).2
    rw [Char.ofNat_toNat] at both
    exact both digit
  · rw [toLower_of_ascii c (Nat.le_of_not_lt ascii)]
    exact digit

def Column.names : List String :=
  Column.all.map Column.name ++ Column.idAliases

theorem Column.lower_mem_names {name : String} (found : (Column.ofName? name).isSome) :
    String.ofList (name.toList.map Char.toLower) ∈ Column.names := by
  rw [Column.names, List.mem_append]
  unfold Column.ofName? at found
  simp only at found
  split at found
  · next column same =>
    have equal := List.find?_some same
    exact Or.inl (List.mem_map.2 ⟨column, List.mem_of_find?_eq_some same, beq_iff_eq.1 equal⟩)
  · split at found
    · next member => exact Or.inr member
    · cases found

namespace Sql

/-- The text can stand as the name of a column: it starts with no digit and is no keyword. -/
structure IsColumnWord (text : String) : Prop where
  letter : ∀ c ∈ text.toList.head?, c.isDigit = false
  free : text.toList.map Char.toUpper ∉ reservedWords.map String.toList

theorem isColumnWord_of_column {name : String} (found : (Column.ofName? name).isSome) : IsColumnWord name := by
  have member := Column.lower_mem_names found
  have letters : ∀ lower ∈ Column.names, lower.toList.head?.all (fun c => !c.isDigit) = true := by
    decide +kernel
  have free : ∀ lower ∈ Column.names, lower.toList.map Char.toUpper ∉ reservedWords.map String.toList := by
    decide +kernel
  constructor
  · intro c head
    cases digit : c.isDigit with
    | false => rfl
    | true =>
      have start : c.toLower ∈ (String.ofList (name.toList.map Char.toLower)).toList.head? := by
        rw [String.toList_ofList, List.head?_map, Option.mem_def.1 head]
        rfl
      have letter := (Option.all_eq_true _ _).1 (letters _ member) _ start
      rw [isDigit_toLower digit] at letter
      cases letter
  · have upper := free _ member
    rwa [String.toList_ofList, List.map_map, show Char.toUpper ∘ Char.toLower = Char.toUpper from
      funext toUpper_toLower] at upper

def Expr.columns : Expr → List ColumnName
  | test column _ => [column]
  | not inner => inner.columns
  | and left right | or left right => left.columns ++ right.columns

theorem ColumnName.unknown?_eq_some {column fault : ColumnName} (found : column.unknown? = some fault) :
    fault = column ∧ Column.ofName? column.name = none := by
  unfold ColumnName.unknown? at found
  split at found
  · next unknown =>
    cases found
    exact ⟨rfl, Option.isNone_iff_eq_none.1 unknown⟩
  · cases found

theorem Search.test_fault {search : Search} {column fault : ColumnName} {t : Test}
    (found : (search.test column t).fault = some fault) :
    search.fault = some fault ∨ column.unknown? = some fault := by
  have either {first second : Option ColumnName} (found : (first <|> second) = some fault) :
      first = some fault ∨ second = some fault :=
    ((Option.orElse_eq_some first second fault).1 found).imp_right And.right
  unfold Search.test at found
  split at found
  · exact (either found).symm
  · exact (either found).symm
  · exact (either found).symm
  · exact (either found).symm
  · exact either found
  · exact either found
  · exact .inl found
  · exact either found

/-- The fault is the one there was, or a column of the expression that does not exist. -/
theorem Search.expr_fault {e : Expr} {search : Search} {fault : ColumnName}
    (found : (search.expr e).fault = some fault) :
    search.fault = some fault ∨ fault ∈ e.columns ∧ Column.ofName? fault.name = none := by
  induction e generalizing search with
  | test column t =>
    rw [Search.expr] at found
    split at found
    · exact .inl found
    · split at found
      · exact .inl found
      · rcases Search.test_fault found with before | missing
        · exact .inl before
        · obtain ⟨rfl, unknown⟩ := ColumnName.unknown?_eq_some missing
          exact .inr ⟨List.mem_singleton.2 rfl, unknown⟩
  | not inner ih =>
    simp only [Search.expr] at found
    split at found
    · exact .inl found
    · split at found
      · exact .inl found
      · split at found
        · exact .inl found
        · exact ih found
  | and left right first second | or left right first second =>
    simp only [Search.expr] at found
    split at found
    · exact .inl found
    · split at found
      · exact .inl found
      · split at found
        · exact .inl found
        · rcases second found with between | ⟨member, unknown⟩
          · rcases first between with before | ⟨member, unknown⟩
            · exact .inl before
            · exact .inr ⟨List.mem_append_left _ member, unknown⟩
          · exact .inr ⟨List.mem_append_right _ member, unknown⟩

/-- A name that is reported as missing is one of the statement's, and no column has it. -/
theorem Select.unknownColumn?_eq_some {select : Select} {fault : ColumnName}
    (found : select.unknownColumn? = some fault) :
    (fault ∈ select.condition.elim [] Expr.columns ∨ fault ∈ select.ordering.map SortTerm.column) ∧
      Column.ofName? fault.name = none := by
  obtain ⟨condition, ordering⟩ := select
  rw [Select.unknownColumn?] at found
  cases tested : (condition.elim {} fun e => ({} : Search).expr e).fault with
  | some column =>
    rw [tested] at found
    cases found
    cases condition with
    | none => cases tested
    | some e =>
      rcases Search.expr_fault tested with before | ⟨member, unknown⟩
      · cases before
      · exact ⟨.inl member, unknown⟩
  | none =>
    rw [tested] at found
    obtain ⟨column, member, missing⟩ := List.exists_of_findSome?_eq_some found
    obtain ⟨rfl, unknown⟩ := ColumnName.unknown?_eq_some missing
    exact ⟨.inr member, unknown⟩

end Sql

end IssueQuery
