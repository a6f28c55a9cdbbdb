import CorpusQuery.Search.Strategy

namespace CorpusQuery.Search

/-! What resolved columns and the choice of a strategy say about a matrix. -/

open Sql

/-- The layer is the one that the schema has under its id. -/
def TimedLayer.InSchema (schema : Schema) (layer : TimedLayer) : Prop :=
  (schema.entry? layer.id).bind TimedLayer.ofEntry? = some layer

theorem TimedLayer.InSchema.eq_of_id_eq {schema : Schema} {left right : TimedLayer}
    (leftKnown : left.InSchema schema) (rightKnown : right.InSchema schema)
    (same : left.id = right.id) : left = right := by
  unfold InSchema at leftKnown rightKnown
  rw [same, rightKnown] at leftKnown
  exact (Option.some.inj leftKnown).symm

theorem inSchema_of_entry? {schema : Schema} {id : String} {layer : TimedLayer}
    (found : (schema.entry? id).bind TimedLayer.ofEntry? = some layer) :
    layer.InSchema schema := by
  obtain ⟨entry, known, timed⟩ := Option.bind_eq_some_iff.1 found
  have named : entry.layer.id = id := by simpa using List.find?_some known
  have same : layer.id = id := by
    unfold TimedLayer.ofEntry? at timed
    split at timed
    · cases timed; exact named
    · contradiction
  unfold TimedLayer.InSchema
  rw [same, found]

theorem LayerMatch.inSchema_of_resolve? {schema : Schema} {wanted : LayerMatch}
    {found : ResolvedMatch} (resolved : wanted.resolve? schema = some found) :
    found.layer.InSchema schema := by
  obtain ⟨layer, known, rfl⟩ := Option.map_eq_some_iff.1 resolved
  exact inSchema_of_entry? known

theorem Matrix.columns_of_resolve {schema : Schema} {matrix : Matrix}
    {columns : List ResolvedColumn} (resolved : matrix.resolve schema = .ok columns) :
    columns = matrix.columns.map (Column.resolve schema) := by
  unfold resolve at resolved
  split at resolved
  · contradiction
  · exact (acceptWithout_eq_ok.1 resolved).2.symm

theorem Matrix.columns_ne_nil_of_resolve {schema : Schema} {matrix : Matrix}
    {columns : List ResolvedColumn} (resolved : matrix.resolve schema = .ok columns) :
    columns ≠ [] := by
  rw [columns_of_resolve resolved]
  unfold resolve at resolved
  split at resolved
  · contradiction
  · rename_i asked
    simpa using asked

/-- A match without problems is on a layer in time. -/
theorem LayerMatch.resolve?_of_problems {schema : Schema} {column : Nat} {targeted : Bool}
    {wanted : LayerMatch} (none : wanted.problems schema column targeted = []) :
    ∃ layer, wanted.resolve? schema = some ⟨wanted, layer⟩ := by
  have ofEntry := (List.append_eq_nil_iff.1 none).2
  split at ofEntry
  · contradiction
  · rename_i entry known
    split at ofEntry
    · rename_i isTemporal
      unfold Storage.isTemporal at isTemporal
      split at isTemporal
      · rename_i scope table stored
        exact ⟨⟨entry.layer, scope, table⟩, by simp [resolve?, known, TimedLayer.ofEntry?, stored]⟩
      · contradiction
    · contradiction

theorem Column.wanted_of_problems {schema : Schema} {index : Nat} {targeted : Bool}
    {layers : List LayerMatch} (none : LayerMatch.problemsOf schema index targeted layers = []) :
    (layers.filterMap (LayerMatch.resolve? schema)).map ResolvedMatch.wanted = layers := by
  induction layers generalizing targeted with
  | nil => rfl
  | cons wanted rest ih =>
      obtain ⟨first, others⟩ := List.append_eq_nil_iff.1 none
      obtain ⟨layer, found⟩ := LayerMatch.resolve?_of_problems first
      rw [List.filterMap_cons_some found, List.map_cons, ih others]

/-- An accepted matrix has all its matches resolved. -/
theorem Matrix.wanted_of_resolve {schema : Schema} {matrix : Matrix}
    {columns : List ResolvedColumn} (resolved : matrix.resolve schema = .ok columns) :
    columns.map (fun column => column.found.map ResolvedMatch.wanted) =
      matrix.columns.map Column.layers := by
  have inColumns (index : Nat) (targeted : Bool) (columns : List Column)
      (none : Column.problemsFrom schema index targeted columns = []) :
      columns.map (fun column => (column.resolve schema).found.map ResolvedMatch.wanted) =
        columns.map Column.layers := by
    induction columns generalizing index targeted with
    | nil => rfl
    | cons column rest ih =>
        obtain ⟨first, others⟩ := List.append_eq_nil_iff.1 none
        rw [List.map_cons, List.map_cons, ih _ _ others]
        exact congrArg (· :: _) (Column.wanted_of_problems (List.append_eq_nil_iff.1 first).2)
  rw [columns_of_resolve resolved, List.map_map]
  unfold resolve at resolved
  split at resolved
  · contradiction
  · exact inColumns 0 false matrix.columns (acceptWithout_eq_ok.1 resolved).1

theorem Matrix.inSchema_of_resolve {schema : Schema} {matrix : Matrix}
    {columns : List ResolvedColumn} (resolved : matrix.resolve schema = .ok columns)
    {column : ResolvedColumn} (within : column ∈ columns) {found : ResolvedMatch}
    (member : found ∈ column.found) : found.layer.InSchema schema := by
  rw [columns_of_resolve resolved] at within
  obtain ⟨source, _, rfl⟩ := List.mem_map.1 within
  obtain ⟨wanted, _, resolvedMatch⟩ := List.mem_filterMap.1 member
  exact LayerMatch.inSchema_of_resolve? resolvedMatch

/-! ### Chains -/

/-- The column of a word in a chain. -/
def Link.column (link : Link) : ResolvedColumn :=
  ⟨[link.found], link.adjacency⟩

namespace ResolvedColumn

theorem eq_column_of_link? {column : ResolvedColumn} {link : Link}
    (found : column.link? = some link) : column = link.column := by
  unfold link? at found
  split at found
  · rename_i only single
    split at found
    · contradiction
    · cases found
      cases column
      simp_all [Link.column]
  · contradiction

theorem eq_map_of_mapM_link? {columns : List ResolvedColumn} {links : List Link}
    (found : columns.mapM link? = some links) : columns = links.map Link.column := by
  induction columns generalizing links with
  | nil =>
      obtain rfl : [] = links := by simpa using found
      rfl
  | cons column rest ih =>
      rw [List.mapM_cons] at found
      obtain ⟨link, single, others⟩ := Option.bind_eq_some_iff.1 found
      obtain ⟨tail, following, same⟩ := Option.bind_eq_some_iff.1 others
      obtain rfl : link :: tail = links := by simpa using same
      rw [List.map_cons, ← eq_column_of_link? single, ← ih following]

/-- The columns of a chain are its words, all of them of one layer of words. -/
theorem chain?_spec {schema : Schema} {columns : List ResolvedColumn} {chain : WordChain}
    (found : chain? schema columns = some chain) :
    columns = chain.links.map Link.column ∧ chain.layer.scope = .word ∧
      ∀ link ∈ chain.links, link.found.layer.id = chain.layer.id := by
  unfold chain? at found
  split at found
  · rename_i first rest links
    split at found
    · rename_i accepted
      cases found
      simp only [Bool.and_eq_true, List.all_eq_true, beq_iff_eq] at accepted
      obtain ⟨⟨_, orthography⟩, sameLayer⟩ := accepted
      refine ⟨eq_map_of_mapM_link? links, ?_, ?_⟩
      · simp only [TimedLayer.isOrthography, Bool.and_eq_true, beq_iff_eq] at orthography
        exact orthography.1
      · intro link member
        rcases List.mem_cons.1 member with rfl | later
        · rfl
        · exact sameLayer link later
    · contradiction
  · contradiction

theorem chain?_of_strategy {schema : Schema} {linked : String → Bool}
    {columns : List ResolvedColumn} {chain : WordChain}
    (chosen : strategy schema linked columns = .orthographyChain chain) :
    chain? schema columns = some chain := by
  unfold strategy at chosen
  split at chosen
  · rename_i found
    cases chosen
    exact found
  · split at chosen <;> contradiction

theorem eq_of_span? {linked : String → Bool} {columns : List ResolvedColumn}
    {found : ResolvedMatch} (span : span? linked columns = some found) :
    ∃ adjacency, columns = [⟨[found], adjacency⟩] := by
  unfold span? at span
  split at span
  · rename_i only adjacency
    split at span
    · cases span
      exact ⟨adjacency, rfl⟩
    · contradiction
  · contradiction

theorem span?_of_strategy {schema : Schema} {linked : String → Bool}
    {columns : List ResolvedColumn} {found : ResolvedMatch}
    (chosen : strategy schema linked columns = .spanScan found) :
    span? linked columns = some found := by
  unfold strategy at chosen
  split at chosen
  · contradiction
  · split at chosen
    · rename_i known
      cases chosen
      exact known
    · contradiction

end ResolvedColumn

/-- All words of a chain are rows of its layer. -/
theorem layer_eq_of_chain? {schema : Schema} {matrix : Matrix} {columns : List ResolvedColumn}
    {chain : WordChain} (resolved : matrix.resolve schema = .ok columns)
    (found : ResolvedColumn.chain? schema columns = some chain) {link : Link}
    (member : link ∈ chain.links) : link.found.layer = chain.layer := by
  obtain ⟨rfl, _, sameId⟩ := ResolvedColumn.chain?_spec found
  have known {link : Link} (member : link ∈ chain.links) : link.found.layer.InSchema schema :=
    Matrix.inSchema_of_resolve resolved (List.mem_map_of_mem member) (List.mem_singleton.2 rfl)
  exact (known member).eq_of_id_eq (known (List.mem_cons_self ..)) (sameId link member)

/-! ### Accepted searches -/

/-- The plan that a strategy makes, if it makes one. -/
theorem planOf_cases {schema : Schema} {linked : String → Bool} {confidence : Option Int64}
    {columns : List ResolvedColumn} {strategy : Strategy} {plan : Plan}
    (planned : planOf schema linked confidence columns strategy = .ok plan) :
    (∃ chain turns, strategy = .orthographyChain chain ∧
      plan = chain.plan schema turns confidence) ∨
    (∃ found, strategy = .spanScan found ∧ plan = SpanScan.plan confidence found) ∨
    (∃ turns words, strategy = .general ∧
      plan = Setting.plan ⟨schema, turns, words, linked, confidence⟩ columns) := by
  cases strategy with
  | orthographyChain chain =>
      cases inTime : turnsAndWords schema with
      | error problem => simp [planOf, inTime, bind, Except.bind] at planned
      | ok both =>
          simp only [planOf, inTime, bind, Except.bind, pure, Except.pure, Except.ok.injEq] at planned
          exact .inl ⟨chain, both.1, rfl, planned.symm⟩
  | spanScan found =>
      cases planned
      exact .inr (.inl ⟨found, rfl, rfl⟩)
  | general =>
      cases inTime : turnsAndWords schema with
      | error problem => simp [planOf, inTime, bind, Except.bind] at planned
      | ok both =>
          simp only [planOf, inTime, bind, Except.bind, pure, Except.pure, Except.ok.injEq] at planned
          exact .inr (.inr ⟨both.1, both.2, rfl, planned.symm⟩)

/-- An accepted search is that of a plan for its columns. -/
theorem Matrix.plan_of_select {schema : Schema} {linked : String → Bool} {options : Options}
    {matrix : Matrix} {statement : Select}
    (selected : matrix.select schema linked options = .ok statement) :
    ∃ columns plan, matrix.resolve schema = .ok columns ∧
      planOf schema linked options.minConfidence columns
        (ResolvedColumn.strategy schema linked columns) = .ok plan ∧
      statement = plan.restricted options := by
  unfold select at selected
  cases resolved : matrix.resolve schema with
  | error problem => simp [resolved, bind, Except.bind] at selected
  | ok columns =>
      simp only [resolved, bind, Except.bind] at selected
      split at selected
      · contradiction
      · rename_i plan planned
        cases selected
        exact ⟨columns, plan, rfl, planned, rfl⟩

theorem Matrix.select_of_plan {schema : Schema} {linked : String → Bool} {options : Options}
    {matrix : Matrix} {columns : List ResolvedColumn} {plan : Plan}
    (resolved : matrix.resolve schema = .ok columns)
    (planned : planOf schema linked options.minConfidence columns
      (ResolvedColumn.strategy schema linked columns) = .ok plan) :
    matrix.select schema linked options = .ok (plan.restricted options) := by
  simp only [select, resolved, bind, Except.bind]
  rw [planned]
  rfl

end CorpusQuery.Search
