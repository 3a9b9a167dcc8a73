import IssueQuery.Proofs.Query.Fields
import IssueQuery.Query.Prepare

/-!
Refusals of a query. Reading, checking and compiling find fault with nothing but the query, so a text is refused with
a client's error only.
-/

namespace IssueQuery

theorem Failure.isClient_iff {failure : Failure} :
    failure.isClient = true ↔
      failure = .emptyQuery ∨ (∃ field found, failure = .unknownOperator field found) ∨
        (∃ operator, failure = .missingValue operator) ∨ (∃ field, failure = .malformedIn field) ∨
        (∃ operator value, failure = .invalidLiteral operator value) ∨ ∃ fault, failure = .invalidQuery fault := by
  cases failure <;> simp [isClient]

/-- Where there is no result the query is at fault. -/
def BlamesQuery {α : Type} (result : Except Failure α) : Prop :=
  ∀ failure, result = .error failure → failure.isClient = true

namespace BlamesQuery

variable {α β : Type}

theorem ok (a : α) : BlamesQuery (.ok a) :=
  nofun

theorem error {failure : Failure} (client : failure.isClient = true) : BlamesQuery (.error failure : Except _ α) := by
  intro other same
  cases same
  exact client

theorem bind {first : Except Failure α} {next : α → Except Failure β} (start : BlamesQuery first)
    (rest : ∀ a, BlamesQuery (next a)) : BlamesQuery (first >>= next) := by
  intro failure failed
  rcases error_of_bind failed with refused | ⟨a, _, refused⟩
  · exact start failure refused
  · exact rest a failure refused

end BlamesQuery

/-! Reading. -/

theorem Token.fieldName_blames (place : FieldPlace) (token : Token) : BlamesQuery (token.fieldName place) := by
  unfold fieldName
  split
  · exact .ok _
  · split
    · exact .ok _
    · exact .error rfl
  · exact .error rfl

namespace Predicate

theorem parseValues_blames (field : String) (operator : Operator) (tokens : List Token) :
    BlamesQuery (parseValues field operator tokens) := by
  unfold parseValues
  split
  · split
    · exact .ok _
    · exact .error rfl
  · split
    · exact .error rfl
    · exact .error rfl
    · exact .ok _

theorem parse_blames (field : String) (tokens : List Token) : BlamesQuery (parse field tokens) := by
  unfold parse
  split
  · exact .error rfl
  · exact (parseValues_blames field _ _).bind fun _ => .ok _
  · exact .error rfl

end Predicate

theorem Element.parseLevel_blames (tokens : List Token) : BlamesQuery (parseLevel tokens) := by
  fun_induction parseLevel tokens with
  | case1 => exact .ok _
  | case2 rest split => exact .error rfl
  | case3 rest inner after split group others => exact group.bind fun _ => others.bind fun _ => .ok _
  | case4 m rest others => exact others.bind fun _ => .ok _
  | case5 rest => exact .ok _
  | case6 token rest _ _ _ others =>
    refine (token.fieldName_blames .condition).bind fun field => ?_
    split
    · next failure parsed => exact .error (Predicate.parse_blames field rest failure parsed)
    · next found after parsed => exact (others field found after parsed).bind fun _ => .ok _

theorem SortKey.parseAll_blames (tokens : List Token) : BlamesQuery (parseAll tokens) := by
  fun_induction parseAll tokens with
  | case1 => exact .ok _
  | case2 token rest others =>
    exact (token.fieldName_blames .ordering).bind fun _ => others.bind fun _ => .ok _

theorem Query.parse_blames (text : String) : BlamesQuery (parse text) :=
  (Element.parseLevel_blames _).bind fun _ => (SortKey.parseAll_blames _).bind fun _ => .ok _

/-! Checking. -/

theorem Predicate.validate_blames (predicate : Predicate) : BlamesQuery predicate.validate := by
  unfold Predicate.validate
  split
  · exact .error rfl
  · split
    · exact .error rfl
    · exact .ok _

theorem SortKey.validate_blames (key : SortKey) : BlamesQuery key.validate := by
  unfold SortKey.validate
  split
  · exact .ok _
  · exact .error rfl

theorem Query.validate_blames (query : Query) : BlamesQuery query.validate := by
  intro failure refused
  rcases validate_error refused with ⟨p, _, fault⟩ | ⟨key, _, fault⟩
  · exact p.validate_blames failure fault
  · exact key.validate_blames failure fault

/-! Compiling. -/

namespace Predicate

theorem scalar_blames (predicate : Predicate) : BlamesQuery predicate.scalar := by
  unfold scalar
  split
  · exact .error rfl
  · exact .ok _

theorem keyword_blames (operator : Operator) (value : String) : BlamesQuery (keyword operator value) := by
  unfold keyword
  dsimp only
  split
  · exact .ok _
  · exact .error rfl

theorem compile_blames (predicate : Predicate) (index : Nat) : BlamesQuery (predicate.compile index) := by
  unfold Predicate.compile
  dsimp only
  split
  · exact .ok _
  · exact predicate.scalar_blames.bind fun _ => (keyword_blames _ _).bind fun _ => .ok _
  · exact predicate.scalar_blames.bind fun _ => (keyword_blames _ _).bind fun _ => .ok _
  · exact predicate.scalar_blames.bind fun _ => .ok _

end Predicate

mutual

theorem Element.compile_blames (element : Element) (index : Nat) : BlamesQuery (element.compile index) := by
  cases element with
  | marker m => exact .ok _
  | group elements => exact (Element.compileLevel_blames elements .and .empty index).bind fun _ => .ok _
  | predicate p => exact (p.compile_blames index).bind fun _ => .ok _

theorem Element.compileLevel_blames (elements : List Element) (ambient : Marker) (filter : Filter) (index : Nat) :
    BlamesQuery (compileLevel elements ambient filter index) := by
  cases elements with
  | nil => exact .ok _
  | cons element rest =>
    exact (element.compile_blames index).bind fun _ => Element.compileLevel_blames rest _ _ _

end

namespace Query

theorem compile_blames (query : Query) : BlamesQuery query.compile :=
  (Element.compileLevel_blames _ _ _ _).bind fun _ => .ok _

/-- A text is refused only with an error that lies in it. -/
theorem prepare_blames (text : String) : BlamesQuery (prepare text) := by
  unfold prepare
  dsimp only
  split
  · exact .error rfl
  · exact (parse_blames text).bind fun query =>
      query.validate_blames.bind fun _ => query.compile_blames.bind fun _ => .ok _

end Query

end IssueQuery
