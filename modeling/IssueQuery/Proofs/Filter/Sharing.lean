import IssueQuery.Proofs.Filter.Appending
import IssueQuery.Proofs.Filter.Placeholders

/-!
Two queries in one filter. Each of them is numbered from zero, so the names of the filter are apart only where no place
has a parameter of one kind in both. As long as they are, every placeholder stands for the value of its own predicate.
-/

namespace IssueQuery
open Sql

/-- No place among the predicates of the two queries has a parameter of one kind in both. -/
def Query.Apart (first second : Query) : Prop :=
  ∀ pair ∈ first.predicates.zip second.predicates, ∀ stem ∈ pair.1.operator.stem?, stem ∉ pair.2.operator.stem?

/-- Under the name of a parameter the filter has its value, and under each of its placeholders the value of that. -/
structure Filter.Gives (filter : Filter) (param : Param) : Prop where
  found : filter.param? param.name = some param.value
  bound : ∀ binding ∈ param.bindings, filter.select.bindings.lookup binding.1 = some binding.2

theorem Filter.find_param {params : List Param} (distinct : (params.map Param.name).Nodup) {param : Param}
    (member : param ∈ params) : params.find? (fun other => other.name == param.name) = some param := by
  induction params with
  | nil => cases member
  | cons first rest ih =>
    rw [List.map_cons, List.nodup_cons] at distinct
    rcases List.mem_cons.1 member with rfl | member
    · exact List.find?_cons_of_pos (beq_self_eq_true _)
    · have different : first.name ≠ param.name := by
        intro same
        exact distinct.1 (same ▸ List.mem_map_of_mem member)
      rw [List.find?_cons_of_neg (by simpa using different)]
      exact ih distinct.2 member

theorem Filter.gives {filter : Filter} (distinct : (filter.params.map Param.name).Nodup)
    (plain : ∀ param ∈ filter.params, '_' ∉ param.name.toList) : ∀ param ∈ filter.params, filter.Gives param := by
  intro param member
  constructor
  · rw [param?, find_param distinct member]
    rfl
  · intro binding bound
    exact lookup_of_mem (bindings_nodup distinct plain) (List.mem_flatMap.2 ⟨param, member, bound⟩)

/-! Which names the parameters of two queries share. -/

theorem Query.params_compile {query : Query} {filter : Filter} (compiled : query.compile = .ok filter) :
    filter.params = numberedParams 0 query.predicates := by
  obtain ⟨_, rfl⟩ := Query.compile_eq_ok.1 compiled
  rw [NormalQuery.filter, Query.normal_predicates, numberedParams_normal]

theorem Predicate.Compiles.named {predicate : Predicate} (compiles : predicate.Compiles) {stem : String}
    (kind : stem ∈ predicate.operator.stem?) (index : Nat) :
    ∃ param ∈ predicate.params index, param.name = stem ++ toString index := by
  obtain ⟨field, operator, values⟩ := predicate
  cases operator with
  | isIn =>
    cases kind
    exact ⟨_, List.mem_singleton_self _, rfl⟩
  | is | isNot => cases kind
  | _ =>
    cases kind
    obtain ⟨value, rest, rfl⟩ := List.exists_cons_of_ne_nil compiles
    exact ⟨_, List.mem_singleton_self _, rfl⟩

theorem Query.apart_iff {first second : Query} (compiles : ∀ p ∈ first.predicates, p.Compiles)
    (others : ∀ p ∈ second.predicates, p.Compiles) :
    (∀ a ∈ numberedParams 0 first.predicates, ∀ b ∈ numberedParams 0 second.predicates, a.name ≠ b.name) ↔
      first.Apart second := by
  constructor
  · intro names pair member stem kind again
    obtain ⟨i, place⟩ := List.mem_iff_getElem?.1 member
    obtain ⟨left, right⟩ := List.getElem?_zip_eq_some.1 place
    obtain ⟨a, inside, called⟩ := (compiles _ (List.mem_of_getElem? left)).named kind i
    obtain ⟨b, outside, same⟩ := (others _ (List.mem_of_getElem? right)).named again i
    exact names a (List.mem_flatMap.2 ⟨(pair.1, i), List.mk_mem_zipIdx_iff_getElem?.2 left, inside⟩) b
      (List.mem_flatMap.2 ⟨(pair.2, i), List.mk_mem_zipIdx_iff_getElem?.2 right, outside⟩) (called.trans same.symm)
  · intro apart a member b other same
    obtain ⟨⟨p, i⟩, left, inside⟩ := List.mem_flatMap.1 member
    obtain ⟨⟨q, j⟩, right, outside⟩ := List.mem_flatMap.1 other
    obtain ⟨stem, kind, called⟩ := Predicate.name_params inside
    obtain ⟨further, again, name⟩ := Predicate.name_params outside
    rw [called, name] at same
    obtain ⟨rfl, rfl⟩ := numbered_inj (Operator.stem_letters kind).1 (Operator.stem_letters again).1 same
    rw [List.mk_mem_zipIdx_iff_getElem?] at left right
    have place : (first.predicates.zip second.predicates)[i]? = some (p, q) :=
      List.getElem?_zip_eq_some.2 ⟨left, right⟩
    exact apart (p, q) (List.mem_of_getElem? place) stem kind again

/-! The statement of a filter that is put together from two. -/

def Sql.connected (connector : Connector) : Option (List Piece) → Option (List Piece) → Option (List Piece)
  | clause, none => clause
  | none, clause => clause
  | some clause, some added => some (clause ++ .blank :: [.word connector.text] ++ .blank :: added)

theorem Sql.names_connected (connector : Connector) (clause added : Option (List Piece)) :
    ((connected connector clause added).getD []).flatMap Piece.names =
      (clause.getD []).flatMap Piece.names ++ (added.getD []).flatMap Piece.names := by
  cases clause with
  | none => cases added <;> rfl
  | some clause =>
    cases added with
    | none => exact (List.append_nil _).symm
    | some added =>
      simp only [connected, Option.getD_some, List.flatMap_append, List.flatMap_cons, List.flatMap_nil,
        List.append_assoc]
      rfl

theorem Sql.fits_connected (connector : Connector) {clause added : Option (List Piece)}
    (fit : ∀ pieces ∈ clause, Fits pieces) (fits : ∀ pieces ∈ added, Fits pieces) :
    ∀ pieces ∈ connected connector clause added, Fits pieces := by
  cases clause with
  | none => cases added <;> exact fits
  | some clause =>
    cases added with
    | none => exact fit
    | some added =>
      rintro pieces ⟨⟩
      exact ((fit clause rfl).blank connector.fits).blank (fits added rfl)

/-- Parameters of other names do not get in the way of a list. -/
theorem Sql.Supplied.mono {params more : List Param} {pieces : List Piece} (supplied : Supplied params pieces)
    (inside : params ⊆ more) (named : ∀ param ∈ more, IsName param.name)
    (apart : ∀ a ∈ params, ∀ b ∈ more, a.name = b.name → b ∈ params) : Supplied more pieces := by
  refine ⟨named, ?_, ?_⟩
  · intro name count member
    obtain ⟨param, known, same⟩ := supplied.present name count member
    exact ⟨param, inside known, same⟩
  · intro name count member param known same
    obtain ⟨own, listed, called⟩ := supplied.present name count member
    exact supplied.counted name count member param (apart own listed param known (called.trans same.symm)) same

theorem Sql.Supplied.connected {params : List Param} {connector : Connector} {clause added : Option (List Piece)}
    (named : ∀ param ∈ params, IsName param.name) (supplied : ∀ pieces ∈ clause, Supplied params pieces)
    (further : ∀ pieces ∈ added, Supplied params pieces) :
    ∀ pieces ∈ Sql.connected connector clause added, Supplied params pieces := by
  cases clause with
  | none => cases added <;> exact further
  | some clause =>
    cases added with
    | none => exact supplied
    | some added =>
      have either : ∀ {name count}, Piece.list name count ∈ clause ++ .blank :: [.word connector.text] ++
          .blank :: added → Piece.list name count ∈ clause ∨ Piece.list name count ∈ added := by
        intro name count member
        simpa [Piece.word] using member
      rintro pieces ⟨⟩
      refine ⟨named, ?_, ?_⟩
      · intro name count member
        rcases either member with member | member
        · exact (supplied clause rfl).present name count member
        · exact (further added rfl).present name count member
      · intro name count member
        rcases either member with member | member
        · exact (supplied clause rfl).counted name count member
        · exact (further added rfl).counted name count member

/-- Two filters without a common name are laid out one behind the other. -/
theorem Filter.LaidOut.append {filter more : Filter} {clause added : Option (List Piece)} {keys others : List SortKey}
    (laid : filter.LaidOut clause keys) (next : more.LaidOut added others)
    (named : ∀ param ∈ filter.params ++ more.params, IsName param.name)
    (apart : ∀ a ∈ filter.params, ∀ b ∈ more.params, a.name ≠ b.name) (connector : Connector) :
    (filter.append connector more).LaidOut (connected connector clause added) (keys ++ others) := by
  constructor
  · rw [Filter.append, laid.text, next.text]
    cases clause with
    | none => cases added <;> rfl
    | some clause =>
      cases added with
      | none => rfl
      | some added =>
        simp only [Option.map_some, connected]
        congr 1
        rw [← String.toList_inj]
        simp [spell_append, spell_cons, Piece.word]
  · rw [Filter.append, laid.ordering, next.ordering, List.map_append]
  · exact fits_connected connector laid.fit next.fit
  · intro key member
    exact (List.mem_append.1 member).elim (laid.named key) (next.named key)
  · refine Supplied.connected named ?_ ?_
    · intro pieces member
      refine (laid.supplied pieces member).mono (List.subset_append_left _ _) named ?_
      intro a inside b either same
      exact (List.mem_append.1 either).resolve_right fun other => apart a inside b other same
    · intro pieces member
      refine (next.supplied pieces member).mono (List.subset_append_right _ _) named ?_
      intro b inside a either same
      exact (List.mem_append.1 either).resolve_left fun other => apart a other b inside same.symm

theorem Filter.bindings_append (filter : Filter) (connector : Connector) (more : Filter) :
    (filter.append connector more).select.bindings = filter.select.bindings ++ more.select.bindings :=
  List.flatMap_append

/-- What two valid queries without a common name are compiled to is bound like one query. -/
theorem Query.bound_append {first second : Query} {filter other : Filter} (compiled : first.compile = .ok filter)
    (alone : second.compile = .ok other) (valid : first.validate = .ok ()) (known : second.validate = .ok ())
    (apart : ∀ a ∈ filter.params, ∀ b ∈ other.params, a.name ≠ b.name) (connector : Connector) :
    placeholders (filter.append connector other).select.sql =
        (filter.append connector other).select.bindings.map Prod.fst ∧
      (filter.append connector other).select.bindings.map Prod.snd =
        ((first.predicates ++ second.predicates).filter fun p => !p.operator.takesKeyword).flatMap
          Predicate.values := by
  obtain ⟨compiles, rfl⟩ := Query.compile_eq_ok.1 compiled
  obtain ⟨others, rfl⟩ := Query.compile_eq_ok.1 alone
  have sound := Query.sound_normal valid compiles
  have sounds := Query.sound_normal known others
  have named : ∀ param ∈ first.normal.filter.params ++ second.normal.filter.params, IsName param.name := by
    intro param member
    exact (List.mem_append.1 member).elim (first.normal.supplied.named param) (second.normal.supplied.named param)
  have laid := NormalQuery.laidOut sound
  have next := NormalQuery.laidOut sounds
  constructor
  · rw [(laid.append next named apart connector).placeholders, names_connected, ← laid.placeholders,
      ← next.placeholders, NormalQuery.placeholders_select sound, NormalQuery.placeholders_select sounds,
      Filter.bindings_append, List.map_append]
  · rw [Filter.bindings_append, List.map_append, Query.values_select sound, Query.values_select sounds,
      List.filter_append, List.flatMap_append]

/-! Two queries that are compiled one after the other. -/

theorem Query.names_append {first second : Query} {filter other : Filter} (compiled : first.compile = .ok filter)
    (alone : second.compile = .ok other) :
    ((filter.params ++ other.params).map Param.name).Nodup ↔
      ∀ a ∈ filter.params, ∀ b ∈ other.params, a.name ≠ b.name := by
  rw [Query.params_compile compiled, Query.params_compile alone, List.map_append, List.nodup_append]
  constructor
  · rintro ⟨_, _, disjoint⟩ a member b known
    exact disjoint _ (List.mem_map_of_mem member) _ (List.mem_map_of_mem known)
  · intro apart
    refine ⟨numberedParams_nodup 0 first.predicates, numberedParams_nodup 0 second.predicates, ?_⟩
    intro name inside further outside
    obtain ⟨a, member, rfl⟩ := List.mem_map.1 inside
    obtain ⟨b, known, rfl⟩ := List.mem_map.1 outside
    exact apart a member b known

/-- A filter keeps the values of the query that came first. All its parameters have their values, and its placeholders
too, if no place has a parameter of one kind in both queries; else a name occurs twice. -/
theorem Query.compileInto_apart {first second : Query} {filter other : Filter} (compiled : first.compile = .ok filter)
    (alone : second.compile = .ok other) :
    ∃ both, (first.compileInto .empty >>= second.compileInto) = .ok both ∧
      List.Forall₂ Predicate.Binds ((first.predicates.zipIdx ++ second.predicates.zipIdx).filter fun numbered =>
        !numbered.1.operator.takesKeyword) both.params ∧
      (∀ param ∈ filter.params, both.param? param.name = some param.value) ∧
      ((both.params.map Param.name).Nodup ↔ first.Apart second) ∧
      (first.Apart second →
        (∀ param ∈ both.params, both.Gives param) ∧ (both.select.bindings.map Prod.fst).Nodup ∧
        (first.validate = .ok () → second.validate = .ok () →
          placeholders both.select.sql = both.select.bindings.map Prod.fst ∧
            both.select.bindings.map Prod.snd =
              ((first.predicates ++ second.predicates).filter fun p => !p.operator.takesKeyword).flatMap
                Predicate.values)) := by
  have compiles := (Query.compile_eq_ok.1 compiled).1
  have others := (Query.compile_eq_ok.1 alone).1
  have params := Query.params_compile compiled
  have further := Query.params_compile alone
  have kinds : (∀ a ∈ filter.params, ∀ b ∈ other.params, a.name ≠ b.name) ↔ first.Apart second := by
    rw [params, further]
    exact Query.apart_iff compiles others
  have nodup : ((filter.params ++ other.params).map Param.name).Nodup ↔ first.Apart second :=
    (Query.names_append compiled alone).trans kinds
  refine ⟨filter.append second.connector other, ?_, ?_, ?_, nodup, ?_⟩
  · exact (congrArg (· >>= second.compileInto) compiled).trans (Query.compileInto_compiled alone filter)
  · rw [Filter.append, params, further, List.filter_append]
    exact List.rel_append (numberedParams_binds compiles 0) (numberedParams_binds others 0)
  · intro param member
    rw [params] at member
    have found := Filter.find_param (numberedParams_nodup 0 first.predicates) member
    rw [Filter.param?, Filter.append, List.find?_append, params, found]
    rfl
  · intro apart
    have plain : ∀ param ∈ filter.params ++ other.params, '_' ∉ param.name.toList := by
      intro param member
      rw [params, further] at member
      exact (List.mem_append.1 member).elim (numberedParams_plain param) (numberedParams_plain param)
    refine ⟨Filter.gives (nodup.2 apart) plain, bindings_nodup (nodup.2 apart) plain, ?_⟩
    intro valid known
    exact Query.bound_append compiled alone valid known (kinds.2 apart) second.connector

def openOrUrgent : Query where
  conditions := [.predicate ⟨"status", .ne, ["open"]⟩, .marker .or, .predicate ⟨"priority", .isIn, ["high", "low"]⟩]
  ordering := []

def assignedUnresolved : Query where
  conditions := [.marker .not, .group [.predicate ⟨"assignee", .isIn, ["bob", "eve"]⟩],
    .predicate ⟨"resolved", .is, ["null"]⟩, .predicate ⟨"title", .contains, ["x"]⟩]
  ordering := [⟨"id", .desc⟩]

theorem openOrUrgent_then_assignedUnresolved :
    openOrUrgent.Apart assignedUnresolved ∧ openOrUrgent.validate = .ok () ∧ assignedUnresolved.validate = .ok () ∧
      ∃ both, (openOrUrgent.compileInto .empty >>= assignedUnresolved.compileInto) = .ok both ∧
        (both.params.map Param.name).Nodup ∧ both.param? "values0" = some (.list ["bob", "eve"]) ∧
        placeholders both.select.sql = [":value0", ":values1_0", ":values1_1", ":values0_0", ":values0_1", ":value2"] ∧
        both.select.bindings.map Prod.snd = ["open", "high", "low", "bob", "eve", "x"] := by
  have apart : openOrUrgent.Apart assignedUnresolved := by unfold Query.Apart; decide +kernel
  have valid : openOrUrgent.validate = .ok () := by decide +kernel
  have known : assignedUnresolved.validate = .ok () := by decide +kernel
  have compiled : openOrUrgent.compile = .ok openOrUrgent.normal.filter := by decide +kernel
  have alone : assignedUnresolved.compile = .ok assignedUnresolved.normal.filter := by decide +kernel
  have whole : (openOrUrgent.compileInto .empty >>= assignedUnresolved.compileInto) =
      .ok (openOrUrgent.normal.filter.append .and assignedUnresolved.normal.filter) := by decide +kernel
  obtain ⟨both, built, _, _, names, bound⟩ := Query.compileInto_apart compiled alone
  obtain ⟨gives, _, placed⟩ := bound apart
  obtain ⟨placeholders, values⟩ := placed valid known
  cases built.symm.trans whole
  refine ⟨apart, valid, known, _, whole, names.2 apart, ?_, ?_, ?_⟩
  · exact (gives ⟨"values0", .list ["bob", "eve"]⟩ (by decide +kernel)).found
  · rw [placeholders]
    decide +kernel
  · rw [values]
    decide +kernel

def openOnly : Query where
  conditions := [.predicate ⟨"status", .eq, ["open"]⟩]
  ordering := []

def bobsOnly : Query where
  conditions := [.predicate ⟨"assignee", .eq, ["bob"]⟩]
  ordering := []

/-- Both queries number their one value as the first one, and its name leads to the value of the query before. -/
theorem openOnly_then_bobsOnly :
    ∃ both, (openOnly.compileInto .empty >>= bobsOnly.compileInto) = .ok both ∧
      both.clause = some "issue.status = :value0 AND issue.assignee = :value0" ∧
      both.params = [⟨"value0", .scalar "open"⟩, ⟨"value0", .scalar "bob"⟩] ∧
      ¬(both.params.map Param.name).Nodup ∧ both.param? "value0" = some (.scalar "open") := by
  refine ⟨openOnly.normal.filter.append .and bobsOnly.normal.filter, ?_, ?_, ?_, ?_, ?_⟩ <;> decide +kernel

end IssueQuery
