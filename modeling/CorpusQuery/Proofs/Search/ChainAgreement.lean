import CorpusQuery.Proofs.Schema.Construction
import CorpusQuery.Proofs.Search.ChainPlan
import CorpusQuery.Proofs.Search.Respelling
import CorpusQuery.Proofs.Sql.Evaluation

namespace CorpusQuery.Search

/-! Word chains find what the turn plan of the same columns finds.

The two statements differ in the source that they start from, and in what they call
the graph and the number of the turn: the chain reads them off its first word. -/

open Sql WordChain

/-! ### Sources after the first two -/

theorem equal_fragment (left right : Cell) :
    (Tie.equal left right).fragment = [left.piece, .words " = ", right.piece] := rfl

/-- What the two plans tie a word to is the same turn. -/
theorem shape_ofLayer (layer : TimedLayer) (row : Alias) (ties : List Tie) :
    (Source.ofLayer layer row (.equal row.turnId Alias.turn.id :: ties)).join.shape inTurn =
      (Source.ofLayer layer row (.equal row.turnId firstRow.turnId :: ties)).join.shape inTurn := by
  simp [Join.shape, Source.join, Source.ofLayer, equal_fragment]

theorem shapes_after {setting : Setting} {layer : TimedLayer} (column : Nat) (earlier : Link)
    {before : Setting.Block} (adjacency : before.adjacency = earlier.adjacency)
    (row : before.word.row = .found column 0) {rest : List Link}
    (words : ∀ link ∈ rest, link.found.scope = .word)
    (sameLayer : ∀ link ∈ rest, link.found.layer = layer) :
    ((setting.blocksFrom (column + 1) (some before) (rest.map Link.column)).flatMap
        (Setting.Block.sources setting)).map (·.join.shape inTurn) =
      (sourcesAfter layer setting.confidence column earlier rest).map (·.join.shape inTurn) := by
  induction rest generalizing column earlier before with
  | nil => rfl
  | cons link rest ih =>
      rw [List.map_cons, Setting.blocksFrom_link (words link (by simp)), sourcesAfter]
      simp only [List.flatMap_cons, Setting.sources_linkBlock, List.map_append, List.map_cons,
        shape_ofLayer, Option.toList_some, List.map_nil, adjacency, row,
        sameLayer link (by simp)]
      rw [ih (column + 1) link rfl rfl (fun later member => words later (by simp [member]))
        fun later member => sameLayer later (by simp [member])]

/-! ### The two statements -/

section Statements

variable {schema : Schema} {turns words : TimedLayer} {linked : String → Bool} {options : Options}
  {chain : WordChain}

/-- The statement of a chain. -/
def chainSelect (schema : Schema) (turns : TimedLayer) (options : Options) (chain : WordChain) :
    Select :=
  (chain.plan schema turns options.minConfidence).restricted options

/-- The statement of the turn plan. -/
def turnSelect (schema : Schema) (turns words : TimedLayer) (linked : String → Bool)
    (options : Options) (columns : List ResolvedColumn) : Select :=
  (Setting.plan ⟨schema, turns, words, linked, options.minConfidence⟩ columns).restricted options

/-- What joins the turn to the words, and the first word to the turn. -/
def turnTie (turns : TimedLayer) : Join :=
  (Source.ofLayer turns .turn [.equal Alias.turn.id firstRow.turnId]).join

def firstTie (layer : TimedLayer) : Join :=
  (Source.ofLayer layer firstRow [.equal firstRow.turnId Alias.turn.id]).join

/-- The joins of a chain after the first. -/
def chainRest (options : Options) (chain : WordChain) : List Join :=
  (Source.thresholdAnchors options.minConfidence firstRow ++
      sourcesAfter chain.layer options.minConfidence 0 chain.first chain.rest).map Source.join ++
    options.joins [firstRow.graph.piece] (some turnSpeaker)

/-- The joins of the turn plan after the first. -/
def turnRest (setting : Setting) (options : Options) (chain : WordChain) : List Join :=
  (Source.thresholdAnchors setting.confidence firstRow ++
      (setting.blocksFrom 1 (some (Setting.linkBlock [] chain.first 0))
        (chain.rest.map Link.column)).flatMap (Setting.Block.sources setting)).map Source.join ++
    options.joins [Alias.turn.graph.piece] (some turnSpeaker)

theorem origin_ofLayer (layer : TimedLayer) (row : Alias) (ties : List Tie) :
    (Source.ofLayer layer row ties).join.source.sql = layerTable layer.table := by
  simp [Source.ofLayer, Source.join, Table.name, Piece.sql]

theorem origin_words (table : String) : Fragment.sql [.words table] = table := by
  simp [Piece.sql]

theorem source_chainSelect :
    (chainSelect schema turns options chain).source =
      relation (layerTable chain.layer.table) firstRow.name :=
  rfl

theorem source_turnSelect (columns : List ResolvedColumn) :
    (turnSelect schema turns words linked options columns).source =
      relation (layerTable turns.table) Alias.turn.name :=
  rfl

theorem joins_chainSelect :
    (chainSelect schema turns options chain).joins = turnTie turns :: chainRest options chain := by
  simp [chainSelect, Plan.restricted, Options.restrict, Plan.select, WordChain.plan, turnTie,
    chainRest, Result.speaker?, WordChain.result]

variable (isWord : ∀ link ∈ chain.links, link.found.scope = .word)
  (sameLayer : ∀ link ∈ chain.links, link.found.layer = chain.layer)

include isWord sameLayer

theorem joins_turnSelect :
    (turnSelect schema turns words linked options (chain.links.map Link.column)).joins =
      firstTie chain.layer ::
        turnRest ⟨schema, turns, words, linked, options.minConfidence⟩ options chain := by
  simp [turnSelect, Plan.restricted, Options.restrict, Plan.select, firstTie, turnRest,
    Setting.joins_plan_links isWord, Setting.result_plan_links isWord sameLayer, Result.speaker?]

theorem shapes_rest :
    (turnRest ⟨schema, turns, words, linked, options.minConfidence⟩ options chain).map
        (Join.shape inTurn) =
      (chainRest options chain).map (Join.shape inTurn) := by
  have after := @shapes_after ⟨schema, turns, words, linked, options.minConfidence⟩ chain.layer 0
    chain.first (Setting.linkBlock [] chain.first 0) rfl rfl chain.rest
    (fun link member => isWord link (by simp [links, member]))
    fun link member => sameLayer link (by simp [links, member])
  have confined : (options.joins [Alias.turn.graph.piece] (some turnSpeaker)).map
        (Join.shape inTurn) =
      (options.joins [firstRow.graph.piece] (some turnSpeaker)).map (Join.shape inTurn) := by
    unfold Options.joins
    split
    · simp [Options.mainParticipantJoin_some, Join.shape]
    · rfl
  simp only [turnRest, chainRest, List.map_append, List.map_map, confined]
  congr 2

theorem conditions_agree :
    (chainSelect schema turns options chain).conditions.map (List.map inTurn) =
      (turnSelect schema turns words linked options
        (chain.links.map Link.column)).conditions.map (List.map inTurn) := by
  have confined := Options.map_conditions_congr
    (show [firstRow.graph.piece].map inTurn = [Alias.turn.graph.piece].map inTurn by simp) options
    (some turnSpeaker)
  simp [chainSelect, turnSelect, Plan.restricted, Options.restrict, Plan.select, WordChain.plan,
    Setting.conditions_plan_links isWord, Setting.result_plan_links isWord sameLayer,
    Result.speaker?, WordChain.result, confined]

theorem order_agrees :
    (chainSelect schema turns options chain).order.map (List.map inTurn) =
      (turnSelect schema turns words linked options
        (chain.links.map Link.column)).order.map (List.map inTurn) := by
  simp [chainSelect, turnSelect, Plan.restricted, Options.restrict, Plan.select, WordChain.plan,
    Setting.order_plan_links isWord sameLayer]

theorem columns_agree :
    (chainSelect schema turns options chain).columns.map (List.map inTurn) =
      (turnSelect schema turns words linked options
        (chain.links.map Link.column)).columns.map (List.map inTurn) := by
  simp [chainSelect, turnSelect, Plan.restricted, Options.restrict, Plan.select, WordChain.plan,
    Setting.result_plan_links isWord sameLayer, Result.columns, Result.speaker?, WordChain.result,
    Result.orNull]

omit isWord sameLayer in
theorem sources_eq (select : Select) {table : Int64} {row : Alias} {first : Join}
    {rest : List Join} (source : select.source = relation (layerTable table) row.name)
    (joins : select.joins = first :: rest) :
    select.sources =
      (layerTable table, row.name) :: (first.source.sql, first.row) ::
        rest.map fun join => (join.source.sql, join.row) := by
  rw [Select.sources, source, joins, row.relation_layerTable]
  rfl

omit isWord sameLayer in
theorem params_equalTie (layer : TimedLayer) (row : Alias) (left right : Cell) :
    (Source.ofLayer layer row [.equal left right]).join.render.params = [] := by
  rw [Join.params_render]
  simp [Source.join, Source.ofLayer, Join.render, equal_fragment, Cell.piece, Piece.params,
    apply_ite Fragment.params]

theorem params_agree :
    (chainSelect schema turns options chain).statement.params =
      (turnSelect schema turns words linked options
        (chain.links.map Link.column)).statement.params := by
  have columns := flatMap_params_congr
    (@columns_agree schema turns words linked options chain isWord sameLayer)
  have conditions := flatMap_params_congr
    (@conditions_agree schema turns words linked options chain isWord sameLayer)
  have order := flatMap_params_congr
    (@order_agrees schema turns words linked options chain isWord sameLayer)
  have joins : (chainSelect schema turns options chain).joins.flatMap (·.render.params) =
      (turnSelect schema turns words linked options
        (chain.links.map Link.column)).joins.flatMap (·.render.params) := by
    rw [joins_chainSelect, joins_turnSelect isWord sameLayer, List.flatMap_cons, List.flatMap_cons,
      turnTie, params_equalTie, firstTie, params_equalTie,
      params_of_shapes (@shapes_rest schema turns words linked options chain isWord sameLayer)]
  rw [Select.statement, Select.statement, Select.params_render, Select.params_render, columns,
    conditions, order, joins, source_chainSelect, source_turnSelect, params_relation,
    params_relation]
  rfl

theorem clauses_agree :
    (chainSelect schema turns options chain).Agree inTurn
      (turnSelect schema turns words linked options (chain.links.map Link.column)) where
  params := params_agree isWord sameLayer
  into := rfl
  distinct := rfl
  limit := rfl
  columns := columns_agree isWord sameLayer
  sources := by
    rw [sources_eq _ source_chainSelect joins_chainSelect,
      sources_eq _ (source_turnSelect _) (joins_turnSelect isWord sameLayer),
      sources_of_shapes (shapes_rest isWord sameLayer), turnTie, firstTie, origin_ofLayer,
      origin_ofLayer]
    exact List.Perm.swap ..
  joinConditions := by
    simp only [Select.joinConditions]
    rw [joins_chainSelect, joins_turnSelect isWord sameLayer, List.flatMap_cons, List.flatMap_cons,
      List.map_append, List.map_append, conditions_of_shapes (shapes_rest isWord sameLayer)]
    simp [turnTie, firstTie, Source.join, Source.ofLayer, equal_fragment]
  conditions := conditions_agree isWord sameLayer
  order := order_agrees isWord sameLayer

/-! ### The rows that they return -/

omit isWord sameLayer in
theorem turnTie_eq (turns : TimedLayer) :
    turnTie turns =
      .tied [.words (layerTable turns.table)] (Alias.turn.name, "annotation_id")
        (firstRow.name, "turn_annotation_id") :=
  rfl

omit sameLayer in
/-- The rows that are joined after the first two are neither of them. -/
theorem row_of_mem_turnRest {join : Join}
    (member : join ∈ turnRest ⟨schema, turns, words, linked, options.minConfidence⟩ options chain) :
    join.row ≠ firstRow.name ∧ join.row ≠ Alias.turn.name := by
  have named {row : Alias} (notFirst : row ≠ firstRow) (notTurn : row ≠ .turn) :
      row.name ≠ firstRow.name ∧ row.name ≠ Alias.turn.name :=
    ⟨fun same => notFirst (Alias.name_injective same), fun same => notTurn (Alias.name_injective same)⟩
  rcases List.mem_append.1 member with planned | confined
  · obtain ⟨source, within, rfl⟩ := List.mem_map.1 planned
    rcases List.mem_append.1 within with anchor | later
    · obtain ⟨edge, row⟩ := Source.row_of_mem_thresholdAnchors anchor
      rw [Source.join, row]
      exact named (by simp [firstRow]) (by simp)
    · have rows := List.mem_map_of_mem (f := Source.row) later
      rw [Setting.rows_of_links fun link within => isWord link (by simp [links, within])] at rows
      obtain ⟨column, following, own⟩ := List.mem_flatMap.1 rows
      have after := (List.mem_range'_1.1 following).1
      rcases mem_linkRows own with row | ⟨edge, row⟩ <;> rw [Source.join, row]
      · exact named (by simp [firstRow]; omega) (by simp)
      · exact named (by simp [firstRow]) (by simp)
  · unfold Options.joins at confined
    split at confined
    · obtain rfl := List.mem_singleton.1 confined
      rw [Options.mainParticipantJoin_some]
      decide
    · contradiction

/-- Every word carries the graph of its turn. -/
def GraphsOfTurns (words turns : TimedLayer) (database : Database) : Prop :=
  ∀ word ∈ database.records (layerTable words.table),
    ∀ turn ∈ database.records (layerTable turns.table),
      word "turn_annotation_id" = turn "annotation_id" → turn "annotation_id" ≠ .null →
        word "ag_id" = turn "ag_id"

variable {database : Database} (sameGraphs : GraphsOfTurns chain.layer turns database)

include sameGraphs in
omit isWord sameLayer in
/-- Once the turn is tied to the first word, both names of the turn mean the same. -/
theorem knows_of_mem_pairs {frame : Frame}
    (member : frame ∈ ((chainSelect schema turns options chain).start database).flatMap
      ((turnTie turns).frames database)) : frame.Knows inTurn := by
  rw [Select.start, source_chainSelect,
    firstRow.relation_layerTable, turnTie_eq,
    ← origin_words (layerTable chain.layer.table)] at member
  obtain ⟨word, isWord, turn, isTurn, rfl, same, numbered⟩ :=
    @key_eq_of_mem_tied_pairs database (firstRow.name, "turn_annotation_id")
      (Alias.turn.name, "annotation_id") (by decide) _ _ (by decide) (by decide) frame member
  rw [origin_words] at isWord isTurn
  have first := (Frame.with_other (show firstRow.name ≠ Alias.turn.name by decide)
    (Frame.empty.with firstRow.name word) turn).trans (Frame.with_same ..)
  have last := Frame.with_same (Frame.empty.with firstRow.name word) Alias.turn.name turn
  refine knows_inTurn ?_ ?_
  · exact (Piece.token_column first _).trans
      ((congrArg _ (sameGraphs word isWord turn isTurn same numbered)).trans
        (Piece.token_column last _).symm)
  · exact (Piece.token_column first _).trans
      ((congrArg _ same).trans (Piece.token_column last _).symm)

include sameGraphs

theorem frames_agree :
    ((chainSelect schema turns options chain).frames database).Perm
        ((turnSelect schema turns words linked options
          (chain.links.map Link.column)).frames database) ∧
      ∀ frame ∈ (chainSelect schema turns options chain).frames database, frame.Knows inTurn := by
  let fast := chainSelect schema turns options chain
  let slow := turnSelect schema turns words linked options (chain.links.map Link.column)
  let rest := turnRest ⟨schema, turns, words, linked, options.minConfidence⟩ options chain
  -- One statement begins with the first word and joins its turn, the other the other way
  -- round.  All further joins are in the same order and say the same.
  have pairs : ((fast.start database).flatMap ((turnTie turns).frames database)).Perm
      ((slow.start database).flatMap ((firstTie chain.layer).frames database)) := by
    have swapped := @tied_pairs_perm database (firstRow.name, "turn_annotation_id")
      (Alias.turn.name, "annotation_id") (by decide) [.words (layerTable chain.layer.table)]
      [.words (layerTable turns.table)] (by decide) (by decide)
    rw [origin_words, origin_words] at swapped
    rw [Select.start, Select.start, source_chainSelect, source_turnSelect,
      firstRow.relation_layerTable, Alias.turn.relation_layerTable]
    exact swapped
  have shapes : rest.map (Join.shape inTurn) = (chainRest options chain).map (Join.shape inTurn) :=
    shapes_rest isWord sameLayer
  obtain ⟨joined, knows⟩ := @joinAll_eq database _ _ _ _ shapes
    (fun frame member => @knows_of_mem_pairs schema _ options _ _ sameGraphs frame member)
    fun join member frame knows record =>
      knows_inTurn_with knows (row_of_mem_turnRest isWord member).1
        (row_of_mem_turnRest isWord member).2 record
  have fastFrames : joinAll database fast.joins (fast.start database) =
      joinAll database rest ((fast.start database).flatMap ((turnTie turns).frames database)) := by
    rw [joined, joins_chainSelect]
    rfl
  have slowFrames : joinAll database slow.joins (slow.start database) =
      joinAll database rest
        ((slow.start database).flatMap ((firstTie chain.layer).frames database)) := by
    rw [joins_turnSelect isWord sameLayer]
    rfl
  rw [← fastFrames] at knows
  refine ⟨?_, fun frame member => knows frame (List.mem_filter.1 member).1⟩
  have kept : fast.frames database =
      (joinAll database fast.joins (fast.start database)).filter (database.meets slow.conditions) :=
    List.filter_congr fun frame member =>
      (knows frame member).meets_eq (conditions_agree isWord sameLayer)
  change (fast.frames database).Perm (slow.frames database)
  rw [kept, Select.frames, fastFrames, slowFrames]
  exact (joinAll_perm rest pairs).filter _

end Statements

/-- The statement of a word chain is the one that the turn plan has for its columns:
they say the same of the first word and of its turn, and where every word carries the
graph of its turn they return the same rows in the same order. -/
theorem chain_agrees_with_turn_plan {schema : Schema} {linked : String → Bool} {options : Options}
    {matrix : Matrix} {columns : List ResolvedColumn} {chain : WordChain}
    {turns words : TimedLayer} (resolved : matrix.resolve schema = .ok columns)
    (chosen : ResolvedColumn.strategy schema linked columns = .orthographyChain chain)
    (inTime : turnsAndWords schema = .ok (turns, words)) :
    ∃ fast slow plan,
      matrix.select schema linked options = .ok fast ∧
      planOf schema linked options.minConfidence columns .general = .ok plan ∧
      slow = plan.restricted options ∧
      fast.columns.length = 13 ∧
      fast.Agree inTurn slow ∧
      ∀ database, GraphsOfTurns chain.layer turns database →
        (∃ rows, fast.Returns database rows) ∧
          ∀ rows, fast.Returns database rows ↔ slow.Returns database rows := by
  have found := ResolvedColumn.chain?_of_strategy chosen
  obtain ⟨columnsOfLinks, wordLayer, -⟩ := ResolvedColumn.chain?_spec found
  have sameLayer : ∀ link ∈ chain.links, link.found.layer = chain.layer :=
    fun _ member => layer_eq_of_chain? resolved found member
  have isWord : ∀ link ∈ chain.links, link.found.scope = .word := by
    intro link member
    rw [ResolvedMatch.scope, sameLayer link member, wordLayer]
  refine ⟨chainSelect schema turns options chain,
    turnSelect schema turns words linked options columns, _, ?_, ?_, rfl, rfl, ?_, ?_⟩
  · have planned : planOf schema linked options.minConfidence columns (.orthographyChain chain) =
        .ok (chain.plan schema turns options.minConfidence) := by
      simp only [planOf, inTime]
      rfl
    simp only [Matrix.select, resolved, bind, Except.bind, chosen, planned]
    rfl
  · simp only [planOf, inTime]
    rfl
  · rw [columnsOfLinks]
    exact clauses_agree isWord sameLayer
  · intro database sameGraphs
    obtain ⟨perm, knows⟩ := @frames_agree schema turns words linked options chain isWord sameLayer
      database sameGraphs
    rw [columnsOfLinks]
    refine ⟨Select.exists_returns database rfl rfl, Select.returns_iff_of_perm rfl rfl perm ?_ ?_⟩
    · exact fun frame member => (knows frame member).values_eq (order_agrees isWord sameLayer)
    · exact fun frame member => (knows frame member).values_eq (columns_agree isWord sameLayer)

/-! ### Two words of one turn -/

namespace TwoWords

def schema : Schema :=
  .ofEntries
    [⟨{ Layer.ofId "turn" with tableId := some 11 }, .temporal .phrase 11⟩,
      ⟨{ Layer.ofId "word" with tableId := some 0, parentId := some "turn" }, .temporal .word 0⟩]
    { turn := some "turn", word := some "word" }

def matrix : Matrix :=
  ⟨[⟨[{ id := "word" }], 1⟩, ⟨[{ id := "word", target := true }], 1⟩]⟩

/-- A turn of the second graph. -/
def turn : Record
  | "annotation_id" => .integer 7
  | "ag_id" => .integer 2
  | "label" => .text "31"
  | _ => .null

/-- A word of the turn, at its place. -/
def word (id : Int) (place : Int) : Record
  | "annotation_id" => .integer id
  | "turn_annotation_id" => .integer 7
  | "ag_id" => .integer 2
  | "start_anchor_id" => .integer place
  | "end_anchor_id" => .integer (place + 1)
  | "ordinal_in_turn" => .integer place
  | _ => .null

def records (table : String) : List Record :=
  if table = "annotation_layer_11" then [turn]
  else if table = "annotation_layer_0" then [word 40 1, word 41 2, word 42 3]
  else []

def holds : List Token → Bool
  | [.datum left, .piece (.words " = "), .datum right] => left = right ∧ left ≠ .null
  | [.datum (.integer left), .piece (.words " = "), .datum (.integer right),
      .piece (.words " + 1")] => left = right + 1
  | _ => false

def value : List Token → Datum
  | [.datum datum] => datum
  | [.piece (.bound (.integer number))] => .integer number.toInt
  | [.piece (.words "0")] => .integer 0
  | [.piece (.words "CAST"), .piece .opening, .datum (.text label), .piece (.words " AS SIGNED"),
      .piece .closing] => .integer (label.toInt?.getD 0)
  | [.piece (.words "CONCAT"), .piece .opening, .piece (.marker stem), .piece (.words ", "),
      .datum (.integer number), .piece .closing] => .text (stem ++ toString number)
  | _ => .null

/-- Nothing comes before numbers, and numbers by their size. -/
def order : Datum → Datum → Bool
  | .null, _ => true
  | .integer _, .null => false
  | .integer left, .integer right => left ≤ right
  | .integer _, _ => true
  | _, .null => false
  | _, .integer _ => false
  | _, _ => true

theorem turn_or_word_of_mem_records {table : String} {record : Record}
    (member : record ∈ records table) : record = turn ∨ ∃ id place, record = word id place := by
  unfold records at member
  split at member
  · exact .inl (List.mem_singleton.1 member)
  · split at member
    · simp only [List.mem_cons, List.not_mem_nil, or_false] at member
      rcases member with rfl | rfl | rfl <;> exact .inr ⟨_, _, rfl⟩
    · contradiction

theorem isKey_of_mem_records {table : String} {record : Record} (member : record ∈ records table)
    {column : String} (numbered : column ∈ keyColumns) : (record column).isKey := by
  simp only [keyColumns, List.mem_cons, List.not_mem_nil, or_false] at numbered
  rcases turn_or_word_of_mem_records member with rfl | ⟨id, place, rfl⟩ <;>
    rcases numbered with rfl | rfl | rfl <;> rfl

theorem graph_of_mem_records {table : String} {record : Record} (member : record ∈ records table) :
    record "ag_id" = .integer 2 := by
  rcases turn_or_word_of_mem_records member with rfl | ⟨id, place, rfl⟩ <;> rfl

def database : Database where
  records := records
  holds _ := holds
  value _ := value
  order := order
  order_total left right := by
    cases left <;> cases right <;> simp [order]
    omega
  order_trans first second third := by
    cases first <;> cases second <;> cases third <;> simp [order]
    omega
  keys _ _ member _ numbered := isKey_of_mem_records member numbered
  holds_equal _ left right := by simp [holds]
  holds_null _ datum := by simp [holds]

end TwoWords

theorem two_words_agree :
    ∃ fast slow, TwoWords.matrix.select TwoWords.schema (fun _ => true) {} = .ok fast ∧
      fast.Agree inTurn slow ∧
      ∃ rows, fast.Returns TwoWords.database rows ∧ slow.Returns TwoWords.database rows := by
  have sameGraphs {words turns : TimedLayer} : GraphsOfTurns words turns TwoWords.database :=
    fun word isWord turn isTurn _ _ =>
      (TwoWords.graph_of_mem_records isWord).trans (TwoWords.graph_of_mem_records isTurn).symm
  obtain ⟨fast, slow, plan, built, _, _, _, agree, same⟩ :=
    @chain_agrees_with_turn_plan TwoWords.schema (fun _ => true) {} TwoWords.matrix _ _ _ _ rfl rfl rfl
  obtain ⟨⟨rows, returned⟩, iff⟩ := same TwoWords.database sameGraphs
  exact ⟨fast, slow, built, agree, rows, returned, (iff rows).1 returned⟩

end CorpusQuery.Search
