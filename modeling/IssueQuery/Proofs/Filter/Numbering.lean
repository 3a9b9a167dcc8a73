import IssueQuery.Proofs.Filter.Parts
import Mathlib.Data.List.Forall2

/-!
Numbering in reading order. A predicate is numbered by its place among all predicates of its level, at whatever depth
it stands, and it alone decides whether it can be compiled.
-/

namespace IssueQuery

/-! Why conditions cannot be compiled. -/

def refusal? {α : Type} : Except Failure α → Option Failure
  | .ok _ => none
  | .error e => some e

theorem refusal?_eq_some {α : Type} {result : Except Failure α} {e : Failure} :
    refusal? result = some e ↔ result = .error e := by
  cases result <;> simp [refusal?]

/-- The number of a predicate plays no part in whether it can be compiled. -/
theorem Predicate.refusal_index (predicate : Predicate) (i j : Nat) :
    refusal? (predicate.compile i) = refusal? (predicate.compile j) := by
  obtain ⟨field, operator, values⟩ := predicate
  cases operator with
  | isIn | is | isNot => rfl
  | _ => cases values <;> rfl

mutual

/-- An element is refused for the first of its predicates that is refused on its own. -/
theorem Element.refusal_compile (element : Element) (index alone : Nat) :
    refusal? (element.compile index) = element.predicates.findSome? fun p => refusal? (p.compile alone) := by
  cases element with
  | marker m => rfl
  | predicate p =>
    rw [Element.compile, Element.predicates, List.findSome?_singleton, p.refusal_index alone index]
    cases p.compile index <;> rfl
  | group elements =>
    rw [Element.compile, Element.predicates, ← Element.refusal_compileLevel elements .and .empty index alone]
    cases Element.compileLevel elements .and .empty index <;> rfl

theorem Element.refusal_compileLevel (elements : List Element) (ambient : Marker) (filter : Filter)
    (index alone : Nat) :
    refusal? (compileLevel elements ambient filter index) =
      (levelPredicates elements).findSome? fun p => refusal? (p.compile alone) := by
  cases elements with
  | nil => rfl
  | cons element rest =>
    rw [Element.compileLevel, Element.levelPredicates, List.findSome?_append, ← element.refusal_compile index alone]
    cases element.compile index with
    | error e => rfl
    -- neither the filter so far nor the next number matters to what follows
    | ok result => exact Element.refusal_compileLevel rest _ _ _ alone

end

/-! What the predicates of a level bind. -/

/-- The parameter of a predicate that has this number: all values of a list, and otherwise the first one. -/
inductive Predicate.Binds : Predicate × Nat → Param → Prop
  | list (field : String) (values : List String) (index : Nat) :
    Binds (⟨field, .isIn, values⟩, index) ⟨"values" ++ toString index, .list values⟩
  | scalar (field : String) {operator : Operator} (plain : operator ≠ .isIn) (value : String) (rest : List String)
    (index : Nat) : Binds (⟨field, operator, value :: rest⟩, index) ⟨"value" ++ toString index, .scalar value⟩

theorem Predicate.params_normal (predicate : Predicate) (index : Nat) :
    predicate.normal.params index = predicate.params index := by
  obtain ⟨field, operator, values⟩ := predicate
  cases operator <;> rfl

theorem numberedParams_normal (index : Nat) (predicates : List Predicate) :
    numberedParams index (predicates.map Predicate.normal) = numberedParams index predicates := by
  rw [numberedParams, List.zipIdx_map, List.flatMap_map]
  exact List.flatMap_congr fun numbered _ => numbered.1.params_normal numbered.2

theorem Predicate.Compiles.binds {predicate : Predicate} (compiles : predicate.Compiles) (index : Nat) :
    List.Forall₂ Binds ([(predicate, index)].filter fun numbered => !numbered.1.operator.takesKeyword)
      (predicate.params index) := by
  obtain ⟨field, operator, values⟩ := predicate
  cases operator with
  | isIn => exact .cons (.list field values index) .nil
  | is | isNot => exact .nil
  | _ =>
    obtain ⟨value, rest, rfl⟩ := List.exists_cons_of_ne_nil compiles
    refine .cons (.scalar field ?_ value rest index) .nil
    nofun

theorem numberedParams_binds {predicates : List Predicate} (compiles : ∀ p ∈ predicates, p.Compiles) (index : Nat) :
    List.Forall₂ Predicate.Binds
      ((predicates.zipIdx index).filter fun numbered => !numbered.1.operator.takesKeyword)
      (numberedParams index predicates) := by
  induction predicates generalizing index with
  | nil => exact .nil
  | cons p rest ih =>
    rw [List.forall_mem_cons] at compiles
    rw [List.zipIdx_cons, ← List.singleton_append, List.filter_append, numberedParams, List.zipIdx_cons,
      List.flatMap_cons]
    exact List.rel_append (compiles.1.binds index) (ih compiles.2 (index + 1))

/-- A level that compiles moves the index on by the number of its predicates, at all depths, and adds one parameter
for each of them but those with a keyword: in reading order, and named for its place in that order. A level is refused
for the first of its predicates that is refused on its own, whatever number that has. -/
theorem Element.compileLevel_numbered (elements : List Element) (ambient : Marker) (filter : Filter) (index : Nat) :
    (∀ next after, compileLevel elements ambient filter index = .ok (next, after) →
      after = index + (levelPredicates elements).length ∧
        ∃ added, next.params = filter.params ++ added ∧
          List.Forall₂ Predicate.Binds (((levelPredicates elements).zipIdx index).filter fun numbered =>
            !numbered.1.operator.takesKeyword) added) ∧
      ∀ alone e, compileLevel elements ambient filter index = .error e ↔
        (levelPredicates elements).findSome? (fun p => refusal? (p.compile alone)) = some e := by
  constructor
  · intro next after compiled
    have compiles := compiles_of_levelOk compiled
    rw [compileLevel_ok elements ambient filter index compiles] at compiled
    cases compiled
    refine ⟨rfl, numberedParams index (levelPredicates elements), ?_, numberedParams_binds compiles index⟩
    rw [Filter.extend, parts_predicates, numberedParams_normal]
  · intro alone e
    rw [← refusal?_eq_some, refusal_compileLevel elements ambient filter index alone]

def mixedLevel : List Element :=
  [.predicate ⟨"title", .eq, ["a", "b"]⟩, .marker .not,
    .group [.predicate ⟨"priority", .isIn, ["1", "2"]⟩, .marker .or, .group [],
      .predicate ⟨"category", .isNot, ["null"]⟩],
    .predicate ⟨"status", .ne, ["open"]⟩]

/-- A level whose first refused predicate stands in brackets, before another one. -/
def refusedLevel : List Element :=
  mixedLevel ++ [.group [.group [.predicate ⟨"category", .is, ["5"]⟩]], .predicate ⟨"title", .gt, []⟩]

theorem mixedLevel_numbered :
    (∃ next, Element.compileLevel mixedLevel .or ⟨none, [⟨"value0", .scalar "x"⟩], []⟩ 7 = .ok (next, 11) ∧
      ∃ added, next.params = ⟨"value0", .scalar "x"⟩ :: added ∧
        List.Forall₂ Predicate.Binds
          [(⟨"title", .eq, ["a", "b"]⟩, 7), (⟨"priority", .isIn, ["1", "2"]⟩, 8), (⟨"status", .ne, ["open"]⟩, 10)]
          added) ∧
      Element.compileLevel refusedLevel .or .empty 7 = .error (.invalidLiteral "IS" "5") :=
  ⟨⟨_, rfl, ((Element.compileLevel_numbered mixedLevel .or _ 7).1 _ _ rfl).2⟩,
    ((Element.compileLevel_numbered refusedLevel .or .empty 7).2 0 _).mpr rfl⟩

end IssueQuery
