import CorpusQuery.Proofs.Search.PlanScope

namespace CorpusQuery.Search

/-! Which of the annotations that a search reports are told from others by its order.

The number of an annotation tells it from all others.  So does its place in its turn,
where the layer has one annotation for each word. -/

open Sql

/-! ### What is reported, and what the order knows of it -/

/-- The number of the row is that of the defining annotation, of the segment or of the
target. -/
def Reports (statement : Select) (row : Alias) : Prop :=
  [row.id.piece] ∈ (statement.columns.drop 5).take 3

def IsTarget (statement : Select) (row : Alias) : Prop :=
  statement.columns[7]? = some [row.id.piece]

instance (statement : Select) (row : Alias) : Decidable (Reports statement row) :=
  inferInstanceAs (Decidable (_ ∈ _))

/-- The layer has one annotation for each word. -/
def TimedLayer.isSingle (schema : Schema) (layer : TimedLayer) : Bool :=
  schema.plays .word layer.id || (layer.scope == .word && !layer.layer.peers)

/-- The rows that stand for the words of the columns. -/
def columnWords (schema : Schema) (columns : List ResolvedColumn) : List WordRow :=
  columns.zipIdx.filterMap fun (column, index) =>
    (Setting.foundWord? index 0 column.found).or ((timed? schema .word).map (⟨.word index, ·⟩))

/-- The row is the word of a column, on a layer with one annotation for each word. -/
def IsSingleWord (schema : Schema) (words : List WordRow) (row : Alias) : Prop :=
  ∃ word ∈ words, word.row = row ∧ word.layer.isSingle schema

/-- Terms that leave no choice of the annotation that a row is: its number is among
them, or else its turn and its place there, which no other annotation of its layer
has. -/
inductive Identifies (schema : Schema) (words : List WordRow) (terms : List Fragment)
    (row : Alias) : Prop
  | number (among : [row.id.piece] ∈ terms)
  | place (single : IsSingleWord schema words row)
      (turn : ∃ cell ∈ Alias.turn.id :: words.map (·.row.turnId), [cell.piece] ∈ terms)
      (placed : [row.ordinalInTurn.piece] ∈ terms)

/-! ### Terms -/

/-- The terms of a plan's statement are its cells. -/
theorem mem_terms {cells : List Cell} {cell : Cell} :
    [cell.piece] ∈ cells.map (fun cell => [cell.piece]) ↔ cell ∈ cells :=
  List.mem_map_of_injective fun _ _ same => Cell.piece_injective (List.cons.inj same).1

theorem piece_id_inj {left right : Alias} : left.id.piece = right.id.piece ↔ left = right :=
  ⟨fun same => congrArg Cell.row (Cell.piece_injective same), fun same => same ▸ rfl⟩

theorem reports_restricted {plan : Plan} {options : Options} {row : Alias} :
    Reports (plan.restricted options) row ↔
      row = plan.result.defining ∨ row ∈ plan.result.segment ∨ row = plan.result.target := by
  change [row.id.piece] ∈ [[plan.result.defining.id.piece],
    Result.orNull (plan.result.segment.map Alias.id), [plan.result.target.id.piece]] ↔ _
  have noNull : row.id.piece ≠ .words "NULL" := Piece.noConfusion
  cases plan.result.segment <;> simp [piece_id_inj, Result.orNull, noNull, eq_comm]

theorem isTarget_restricted {plan : Plan} {options : Options} {row : Alias} :
    IsTarget (plan.restricted options) row ↔ row = plan.result.target := by
  change some [plan.result.target.id.piece] = some [row.id.piece] ↔ _
  simp [piece_id_inj, eq_comm]

/-! ### The three strategies -/

theorem mem_columnWords {schema : Schema} {columns : List ResolvedColumn} {index : Nat}
    {column : ResolvedColumn} (place : columns[index]? = some column) {word : WordRow}
    (known : Setting.foundWord? index 0 column.found = some word) :
    word ∈ columnWords schema columns :=
  List.mem_filterMap.2 ⟨(column, index), List.mem_zipIdx_iff_getElem?.2 place, by simp [known]⟩

theorem ResolvedColumn.isSingle_of_chain? {schema : Schema} {columns : List ResolvedColumn}
    {chain : WordChain} (found : chain? schema columns = some chain) :
    chain.layer.isSingle schema := by
  unfold chain? at found
  split at found
  · split at found
    · rename_i accepted
      cases found
      simp only [Bool.and_eq_true, TimedLayer.isOrthography, Bool.or_eq_true] at accepted
      obtain ⟨⟨-, isWord, played | ⟨-, alone⟩⟩, -⟩ := accepted
      · simp [TimedLayer.isSingle, WordChain.layer, played]
      · simp [TimedLayer.isSingle, WordChain.layer, isWord, alone]
    · contradiction
  · contradiction

/-- A chain reports words of its columns, and comes by their places in the turn. -/
theorem WordChain.identifies {schema : Schema} {matrix : Matrix} {columns : List ResolvedColumn}
    {chain : WordChain} (resolved : matrix.resolve schema = .ok columns)
    (found : ResolvedColumn.chain? schema columns = some chain) (turns : TimedLayer)
    (confidence : Option Int64) {row : Alias}
    (reported : row = chain.lastRow ∨ row = chain.targetRow) :
    Identifies schema (columnWords schema columns)
      ((chain.plan schema turns confidence).order.map fun cell => [cell.piece]) row := by
  obtain ⟨targetColumn, targetInside, isTarget⟩ := chain.targetRow_column
  obtain ⟨column, inside, rfl⟩ : ∃ column < chain.links.length, row = .found column 0 := by
    rcases reported with rfl | rfl
    · exact ⟨chain.rest.length, Nat.lt_succ_self _, rfl⟩
    · exact ⟨targetColumn, targetInside, isTarget⟩
  have word {index : Nat} (inside : index < chain.links.length) :
      Setting.linkWord chain.links[index] index ∈ columnWords schema columns := by
    obtain ⟨rfl, isWord, sameId⟩ := ResolvedColumn.chain?_spec found
    have layer := layer_eq_of_chain? resolved found (List.getElem_mem inside)
    have place : (chain.links.map Link.column)[index]? = some chain.links[index].column := by
      simp [inside]
    refine mem_columnWords place ?_
    simp [Link.column, Setting.foundWord?, ResolvedMatch.scope, layer, isWord, Setting.linkWord]
  refine .place ⟨_, word inside, rfl, ?_⟩ ⟨firstRow.turnId, ?_, mem_terms.2 ?_⟩ (mem_terms.2 ?_)
  · rw [Setting.linkWord, layer_eq_of_chain? resolved found (List.getElem_mem inside)]
    exact ResolvedColumn.isSingle_of_chain? found
  · exact List.mem_cons_of_mem _ (List.mem_map.2 ⟨_, word (Nat.succ_pos _), rfl⟩)
  · simp [plan]
  · have placed : (Alias.found column 0).ordinalInTurn ∈
        (List.range chain.links.length).map fun column => Alias.ordinalInTurn (.found column 0) :=
      List.mem_map.2 ⟨column, List.mem_range.2 inside, rfl⟩
    exact List.mem_cons_of_mem _ (List.mem_cons_of_mem _ placed)

theorem SpanScan.identifies (schema : Schema) (words : List WordRow) (confidence : Option Int64)
    (found : ResolvedMatch) :
    Identifies schema words ((plan confidence found).order.map fun cell => [cell.piece]) row :=
  .number (mem_terms.2 (by simp [plan]))

namespace Setting

variable (setting : Setting)

theorem words_blocks (inTime : timed? setting.schema .word = some setting.words)
    (columns : List ResolvedColumn) :
    (setting.blocksFrom 0 none columns).map Block.word = columnWords setting.schema columns := by
  rw [words_blocksFrom, columnWords, ← List.filterMap_eq_map]
  refine List.filterMap_congr fun entry _ => ?_
  simp only [inTime, Option.map_some, Function.comp, word]
  cases foundWord? entry.2 0 entry.1.found <;> rfl

/-- The number of a row is among the terms only for the turn, and for a target that is
no column's word. -/
theorem id_mem_order {words : List WordRow} {target row : Alias} :
    row.id ∈ order words target ↔
      row = .turn ∨ row = target ∧ row ∉ words.map WordRow.row := by
  have ofWord : row.id ∉ words.map (·.row.ordinalInTurn) := by
    simp [Alias.id, Alias.ordinalInTurn]
  have number {other : Alias} : row.id = other.id ↔ row = other := by
    simp [Alias.id]
  have graph : row.id ≠ Alias.turn.graph := by
    simp [Alias.id, Alias.graph]
  unfold order
  simp only [List.mem_cons, List.mem_append, graph, number, ofWord, false_or, List.cons_append]
  split
  · rename_i known
    simp only [List.not_mem_nil, or_false]
    refine ⟨.inl, fun either => either.elim id ?_⟩
    rintro ⟨rfl, other⟩
    exact known.resolve_right other
  · rename_i other
    rw [List.mem_singleton, number]
    refine or_congr_right ⟨fun same => ⟨same, fun isWord => other (.inr (same ▸ isWord))⟩, And.left⟩

theorem identifies_iff (inTime : timed? setting.schema .word = some setting.words)
    (columns : List ResolvedColumn) {row : Alias} :
    Identifies setting.schema (columnWords setting.schema columns)
        ((setting.plan columns).order.map fun cell => [cell.piece]) row ↔
      row = .turn ∨ IsSingleWord setting.schema (columnWords setting.schema columns) row ∨
        row = (setting.plan columns).result.target ∧
          row ∉ (columnWords setting.schema columns).map WordRow.row := by
  have terms : (setting.plan columns).order =
      order (columnWords setting.schema columns) (setting.plan columns).result.target := by
    rw [← setting.words_blocks inTime]
    rfl
  rw [terms]
  constructor
  · rintro (number | ⟨single, -, -⟩)
    · exact (id_mem_order.1 (mem_terms.1 number)).imp_right .inr
    · exact .inr (.inl single)
  · rintro (isTurn | single | isTarget)
    · exact .number (mem_terms.2 (id_mem_order.2 (.inl isTurn)))
    · refine .place single ⟨Alias.turn.id, List.mem_cons_self .., mem_terms.2 ?_⟩ (mem_terms.2 ?_)
      · simp [order]
      · obtain ⟨word, isWord, rfl, -⟩ := single
        have placed : word.row.ordinalInTurn ∈
            (columnWords setting.schema columns).map (·.row.ordinalInTurn) :=
          List.mem_map_of_mem isWord
        simp [order, placed]
    · exact .number (mem_terms.2 (id_mem_order.2 (.inr isTarget)))

end Setting

/-! ### All searches -/

theorem timed?_word_of_planOf {schema : Schema} {linked : String → Bool}
    {confidence : Option Int64} {columns : List ResolvedColumn} {plan : Plan}
    (planned : planOf schema linked confidence columns .general = .ok plan) :
    ∃ turns words, timed? schema .word = some words ∧
      plan = Setting.plan ⟨schema, turns, words, linked, confidence⟩ columns := by
  simp only [planOf, turnsAndWords] at planned
  split at planned
  · rename_i turns words _ inTime
    exact ⟨turns, words, inTime, (Except.ok.inj planned).symm⟩
  · contradiction

/-- Every search reports a defining annotation and a target.  The order tells each
reported annotation from others where the strategy is one of the special ones.
Otherwise it does so for the turn, for the word of a column on a layer with one
annotation for each word, and for the target if it is no column's word. -/
theorem order_identifies_iff {schema : Schema} {linked : String → Bool} {options : Options}
    {matrix : Matrix} {statement : Select}
    (selected : matrix.select schema linked options = .ok statement) :
    (∃ row : Alias, statement.columns[5]? = some [row.id.piece]) ∧ (∃ row, IsTarget statement row) ∧
    ∃ columns, matrix.resolve schema = .ok columns ∧
      ∀ row, Reports statement row →
        (Identifies schema (columnWords schema columns) statement.order row ↔
          ResolvedColumn.strategy schema linked columns ≠ .general ∨ row = .turn ∨
            IsSingleWord schema (columnWords schema columns) row ∨
            IsTarget statement row ∧ row ∉ (columnWords schema columns).map WordRow.row) := by
  obtain ⟨columns, plan, resolved, planned, rfl⟩ := Matrix.plan_of_select selected
  refine ⟨⟨plan.result.defining, rfl⟩, ⟨plan.result.target, rfl⟩, columns, resolved,
    fun row reported => ?_⟩
  rw [isTarget_restricted]
  rw [reports_restricted] at reported
  change Identifies schema _ (plan.order.map fun cell => [cell.piece]) row ↔ _
  cases chosen : ResolvedColumn.strategy schema linked columns with
  | orthographyChain chain =>
      rw [chosen] at planned
      obtain ⟨_, turns, same, rfl⟩ | ⟨_, same, -⟩ | ⟨_, _, same, -⟩ := planOf_cases planned
      · cases same
        refine iff_of_true (chain.identifies resolved
          (ResolvedColumn.chain?_of_strategy chosen) _ _ ?_) (.inl (by simp))
        simpa [WordChain.plan, WordChain.result] using reported
      · contradiction
      · contradiction
  | spanScan found =>
      rw [chosen] at planned
      cases planned
      obtain rfl : row = SpanScan.row := by
        simpa [SpanScan.plan] using reported
      exact iff_of_true (SpanScan.identifies _ _ _ _) (.inl (by simp))
  | general =>
      rw [chosen] at planned
      obtain ⟨turns, words, inTime, rfl⟩ := timed?_word_of_planOf planned
      exact (Setting.identifies_iff ⟨schema, turns, words, linked, _⟩ inTime columns).trans
        (by simp)

/-! ### A segment beside the target -/

namespace SegmentBeside

def schema : Schema :=
  .ofEntries
    [⟨{ Layer.ofId "turn" with tableId := some 11, alignment := .interval },
        .temporal .phrase 11⟩,
      ⟨{ Layer.ofId "word" with
          parentId := some "turn", tableId := some 0, alignment := .interval },
        .temporal .word 0⟩,
      ⟨{ Layer.ofId "segment" with
          parentId := some "word", tableId := some 1, alignment := .interval, peers := true },
        .temporal .segment 1⟩]
    { turn := some "turn", word := some "word" }

/-- The word is what the search is after, but its segments define the matches. -/
def matrix : Matrix :=
  ⟨[⟨[{ id := "word", pattern := some "the", target := true }, { id := "segment" }], 1⟩]⟩

end SegmentBeside

theorem word_of_segment_identified : ∃ statement,
    SegmentBeside.matrix.select SegmentBeside.schema (fun _ => false) {} = .ok statement ∧
    ∃ columns, SegmentBeside.matrix.resolve SegmentBeside.schema = .ok columns ∧
      Identifies SegmentBeside.schema (columnWords SegmentBeside.schema columns) statement.order
        (.found 0 0) := by
  obtain ⟨-, -, columns, resolved, identified⟩ := @order_identifies_iff SegmentBeside.schema
    (fun _ => false) {} SegmentBeside.matrix _ rfl
  refine ⟨_, rfl, columns, resolved, (identified _ (by decide +kernel)).2 ?_⟩
  obtain rfl := Except.ok.inj (show Except.ok _ = Except.ok columns from resolved)
  exact .inr (.inr (.inl ⟨⟨.found 0 0, _⟩, List.mem_cons_self .., rfl, by decide +kernel⟩))

/-- Matches of the same word with different segments come in no order. -/
theorem segment_not_identified : ∃ statement columns,
    SegmentBeside.matrix.select SegmentBeside.schema (fun _ => false) {} = .ok statement ∧
    SegmentBeside.matrix.resolve SegmentBeside.schema = .ok columns ∧
    Reports statement (.found 0 1) ∧
    ¬Identifies SegmentBeside.schema (columnWords SegmentBeside.schema columns) statement.order
      (.found 0 1) := by
  refine ⟨_, _, rfl, rfl, by decide +kernel, ?_⟩
  rintro (number | ⟨-, -, placed⟩)
  · exact absurd number (by decide +kernel)
  · exact absurd placed (by decide +kernel)

end CorpusQuery.Search
