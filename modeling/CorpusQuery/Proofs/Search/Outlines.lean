import CorpusQuery.Search.Strategy

namespace CorpusQuery.Search

/-! Searches without what their patterns and bounds say, and without the threshold that
anchors have to reach.  The outline of a plan is the plan of the matrix's outline. -/

/-! ### Matrices -/

namespace LayerMatch

/-- The match with each of its values, an empty pattern apart, put in place of the same
one. -/
def outline (wanted : LayerMatch) : LayerMatch :=
  { wanted with
    pattern := wanted.pattern.map fun pattern => if pattern = "" then "" else "."
    min := wanted.min.map fun _ => default
    max := wanted.max.map fun _ => default }

variable (wanted : LayerMatch)

@[simp] theorem id_outline : wanted.outline.id = wanted.id := rfl

@[simp] theorem negated_outline : wanted.outline.negated = wanted.negated := rfl

@[simp] theorem target_outline : wanted.outline.target = wanted.target := rfl

@[simp] theorem anchoredStart_outline : wanted.outline.anchoredStart = wanted.anchoredStart := rfl

@[simp] theorem anchoredEnd_outline : wanted.outline.anchoredEnd = wanted.anchoredEnd := rfl

@[simp] theorem isAnchored_outline : wanted.outline.isAnchored = wanted.isAnchored := rfl

theorem labelRegex_outline : wanted.outline.labelRegex = wanted.labelRegex.map fun _ => "^(.)$" := by
  cases pattern : wanted.pattern with
  | none => simp [labelRegex, pattern?, outline, pattern]
  | some text =>
      by_cases empty : text = ""
      · simp [labelRegex, pattern?, outline, pattern, empty, Option.filter]
      · simp [labelRegex, pattern?, outline, pattern, empty, Option.filter]

@[simp] theorem isSome_labelRegex_outline :
    wanted.outline.labelRegex.isSome = wanted.labelRegex.isSome := by
  rw [labelRegex_outline, Option.isSome_map]

@[simp] theorem hasRange_outline : wanted.outline.hasRange = wanted.hasRange := by
  simp [hasRange, outline]

@[simp] theorem hasCondition_outline : wanted.outline.hasCondition = wanted.hasCondition := by
  simp [hasCondition]

@[simp] theorem problems_outline (schema : Schema) (column : Nat) (targeted : Bool) :
    wanted.outline.problems schema column targeted = wanted.problems schema column targeted := by
  simp [problems]

@[simp] theorem problemsOf_outline (schema : Schema) (column : Nat) (targeted : Bool)
    (layers : List LayerMatch) :
    problemsOf schema column targeted (layers.map outline) =
      problemsOf schema column targeted layers := by
  induction layers generalizing targeted with
  | nil => rfl
  | cons wanted rest ih => simp [problemsOf, ih]

end LayerMatch

def ResolvedMatch.outline (found : ResolvedMatch) : ResolvedMatch :=
  { found with wanted := found.wanted.outline }

@[simp] theorem ResolvedMatch.wanted_outline (found : ResolvedMatch) :
    found.outline.wanted = found.wanted.outline := rfl

@[simp] theorem ResolvedMatch.layer_outline (found : ResolvedMatch) :
    found.outline.layer = found.layer := rfl

@[simp] theorem ResolvedMatch.scope_outline (found : ResolvedMatch) :
    found.outline.scope = found.scope := rfl

@[simp] theorem LayerMatch.resolve?_outline (schema : Schema) (wanted : LayerMatch) :
    wanted.outline.resolve? schema = (wanted.resolve? schema).map ResolvedMatch.outline := by
  rw [resolve?, resolve?, id_outline, Option.map_map]
  rfl

def ResolvedColumn.outline (column : ResolvedColumn) : ResolvedColumn :=
  { column with found := column.found.map ResolvedMatch.outline }

namespace Column

def outline (column : Column) : Column :=
  { column with layers := column.layers.map LayerMatch.outline }

@[simp] theorem resolve_outline (schema : Schema) (column : Column) :
    column.outline.resolve schema = (column.resolve schema).outline := by
  simp only [resolve, outline, ResolvedColumn.outline, List.filterMap_map, List.map_filterMap,
    Function.comp_def, LayerMatch.resolve?_outline]

@[simp] theorem problemsFrom_outline (schema : Schema) (index : Nat) (targeted : Bool)
    (columns : List Column) :
    problemsFrom schema index targeted (columns.map outline) =
      problemsFrom schema index targeted columns := by
  induction columns generalizing index targeted with
  | nil => rfl
  | cons column rest ih =>
      have own : column.outline.ownProblems index = column.ownProblems index := by
        have empty : column.outline.layers.isEmpty = column.layers.isEmpty := List.isEmpty_map
        rw [ownProblems, ownProblems, empty]
        rfl
      have target : column.outline.hasTarget = column.hasTarget := by
        simp [hasTarget, outline, Function.comp_def]
      have layers : column.outline.layers = column.layers.map LayerMatch.outline := rfl
      simp [problemsFrom, own, target, layers, ih]

end Column

namespace Matrix

def outline (matrix : Matrix) : Matrix :=
  { matrix with columns := matrix.columns.map Column.outline }

theorem resolve_outline (schema : Schema) (matrix : Matrix) :
    matrix.outline.resolve schema =
      (matrix.resolve schema).map (List.map ResolvedColumn.outline) := by
  unfold resolve
  have problems : matrix.outline.problems schema = matrix.problems schema := by
    simp [Matrix.problems, outline]
  have empty : matrix.outline.columns.isEmpty = matrix.columns.isEmpty := by
    simp [outline]
  rw [empty, problems]
  split
  · rfl
  · unfold acceptWithout
    split
    · simp [outline, Except.map, Function.comp_def]
    · rfl

end Matrix

/-! ### Strategies -/

def Link.outline (link : Link) : Link :=
  { link with found := link.found.outline }

def WordChain.outline (chain : WordChain) : WordChain :=
  ⟨chain.first.outline, chain.rest.map Link.outline⟩

def Strategy.outline : Strategy → Strategy
  | .orthographyChain chain => .orthographyChain chain.outline
  | .spanScan found => .spanScan found.outline
  | .general => .general

@[simp] theorem Strategy.name_outline (strategy : Strategy) :
    strategy.outline.name = strategy.name := by
  cases strategy <;> rfl

namespace ResolvedColumn

theorem link?_outline (column : ResolvedColumn) :
    column.outline.link? = column.link?.map Link.outline := by
  obtain ⟨found, adjacency⟩ := column
  match found with
  | [] => rfl
  | [found] =>
      by_cases anchored : found.wanted.isAnchored <;> simp [link?, outline, anchored, Link.outline]
  | _ :: _ :: _ => rfl

theorem mapM_link?_outline (columns : List ResolvedColumn) :
    (columns.map outline).mapM link? = (columns.mapM link?).map (List.map Link.outline) := by
  induction columns with
  | nil => rfl
  | cons column rest ih =>
      rw [List.map_cons, List.mapM_cons, List.mapM_cons, ih, link?_outline]
      cases column.link? <;> cases rest.mapM link? <;> rfl

theorem chain?_outline (schema : Schema) (columns : List ResolvedColumn) :
    chain? schema (columns.map outline) = (chain? schema columns).map WordChain.outline := by
  unfold chain?
  rw [mapM_link?_outline]
  match columns.mapM link? with
  | none => rfl
  | some [] => rfl
  | some (first :: rest) =>
      have same : (rest.map Link.outline).all
            (·.found.layer.id == first.outline.found.layer.id) =
          rest.all (·.found.layer.id == first.found.layer.id) := by
        rw [List.all_map]
        rfl
      have orthography : first.outline.found.layer.isOrthography schema =
          first.found.layer.isOrthography schema := rfl
      simp only [Option.map_some, List.map_cons, same, orthography]
      split <;> rfl

theorem span?_outline (linked : String → Bool) (columns : List ResolvedColumn) :
    span? linked (columns.map outline) = (span? linked columns).map ResolvedMatch.outline := by
  match columns with
  | [] => rfl
  | [⟨[], _⟩] => rfl
  | [⟨[found], _⟩] =>
      simp only [span?, outline, List.map_cons, List.map_nil]
      split <;> rename_i accepted <;> simp_all
  | [⟨_ :: _ :: _, _⟩] => rfl
  | ⟨[], _⟩ :: _ :: _ => rfl
  | ⟨[_], _⟩ :: _ :: _ => rfl
  | ⟨_ :: _ :: _, _⟩ :: _ :: _ => rfl

theorem strategy_outline (schema : Schema) (linked : String → Bool)
    (columns : List ResolvedColumn) :
    strategy schema linked (columns.map outline) = (strategy schema linked columns).outline := by
  unfold strategy
  rw [chain?_outline, span?_outline]
  cases chain? schema columns with
  | some chain => rfl
  | none => cases span? linked columns <;> rfl

end ResolvedColumn

/-! ### Rows and conditions -/

/-- The threshold put in place of the same one. -/
def anyThreshold (confidence : Option Int64) : Option Int64 :=
  confidence.map fun _ => 0

def Tie.outline : Tie → Tie
  | .trusted anchor _ => .trusted anchor 0
  | tie => tie

namespace Tie

variable (ordering : Ordering) (left right : Cell)

@[simp] theorem outline_compare :
    (compare ordering left right).outline = compare ordering left right := rfl

@[simp] theorem outline_equal : (equal left right).outline = equal left right := rfl

@[simp] theorem outline_following : (following left right).outline = following left right := rfl

@[simp] theorem outline_preceding : (preceding left right).outline = preceding left right := rfl

@[simp] theorem outline_adjacent (distance : Nat) (later earlier : Alias) :
    (adjacent distance later earlier).outline = adjacent distance later earlier := by
  unfold adjacent
  split <;> rfl

end Tie

def Source.outline (source : Source) : Source :=
  { source with ties := source.ties.map Tie.outline }

namespace Source

@[simp] theorem row_outline (source : Source) : source.outline.row = source.row := rfl

@[simp] theorem outline_ofLayer (layer : TimedLayer) (row : Alias) (ties : List Tie) :
    (ofLayer layer row ties).outline = ofLayer layer row (ties.map Tie.outline) := rfl

@[simp] theorem outline_anchor (confidence : Option Int64) (row : Alias) (edge : Edge)
    (ties : List Tie) :
    (anchor confidence row edge ties).outline =
      anchor (anyThreshold confidence) row edge (ties.map Tie.outline) := by
  cases confidence <;> simp [anchor, outline, anyThreshold, Tie.outline, Tie.equal]

@[simp] theorem outline_thresholdAnchors (confidence : Option Int64) (row : Alias) :
    (thresholdAnchors confidence row).map outline =
      thresholdAnchors (anyThreshold confidence) row := by
  cases confidence <;> simp [thresholdAnchors, anyThreshold]

/-- Which of several sources of one row is kept is the same in the outlines. -/
theorem outline_once (sources : List Source) :
    (once sources).map outline = once (sources.map outline) := by
  have added (known : List Source) :
      (sources.foldl addOnce known).map outline =
        (sources.map outline).foldl addOnce (known.map outline) := by
    induction sources generalizing known with
    | nil => rfl
    | cons source rest ih =>
        have one : (addOnce known source).map outline =
            addOnce (known.map outline) source.outline := by
          have same : (known.map outline).any (·.row == source.outline.row) =
              known.any (·.row == source.row) := by
            rw [List.any_map]
            rfl
          rw [addOnce, addOnce, same]
          split <;> simp
        rw [List.foldl_cons, ih, one, List.map_cons, List.foldl_cons]
  exact added []

end Source

def Condition.outline : Condition → Condition
  | .label row wanted => .label row wanted.outline
  | .absentOr row tie => .absentOr row tie.outline
  | .noOtherWord words ties => .noOtherWord words (ties.map Tie.outline)
  | condition => condition

namespace Condition

@[simp] theorem outline_ofLabel (row : Alias) (wanted : LayerMatch) :
    (ofLabel row wanted).map outline = ofLabel row wanted.outline := by
  rw [ofLabel, ofLabel, LayerMatch.hasCondition_outline]
  split <;> rfl

end Condition

def Plan.outline (plan : Plan) : Plan :=
  { plan with
    joins := plan.joins.map Source.outline
    conditions := plan.conditions.map Condition.outline }

/-! ### Scans and chains -/

theorem SpanScan.outline_plan (confidence : Option Int64) (found : ResolvedMatch) :
    (SpanScan.plan confidence found).outline =
      SpanScan.plan (anyThreshold confidence) found.outline := by
  simp [SpanScan.plan, Plan.outline]

namespace WordChain

theorem outline_sourcesAfter (layer : TimedLayer) (confidence : Option Int64) (column : Nat)
    (earlier : Link) (rest : List Link) :
    (sourcesAfter layer confidence column earlier rest).map Source.outline =
      sourcesAfter layer (anyThreshold confidence) column earlier.outline
        (rest.map Link.outline) := by
  induction rest generalizing column earlier with
  | nil => rfl
  | cons link rest ih => simp [sourcesAfter, ih, Link.outline]

@[simp] theorem links_outline (chain : WordChain) :
    chain.outline.links = chain.links.map Link.outline := rfl

theorem outline_conditions (chain : WordChain) :
    chain.conditions.map Condition.outline = chain.outline.conditions := by
  simp [conditions, List.zipIdx_map, List.map_flatMap, List.flatMap_map, Link.outline]

theorem result_outline (schema : Schema) (chain : WordChain) :
    chain.outline.result schema = chain.result schema := by
  have last : chain.outline.lastRow = chain.lastRow := by
    simp [lastRow, outline]
  have target : chain.outline.targetRow = chain.targetRow := by
    rw [targetRow, targetRow, links_outline, List.findIdx?_map]
    simp [outline, Link.outline, Function.comp_def]
  have layer : chain.outline.layer = chain.layer := rfl
  rw [result, result, last, target, layer]

theorem outline_plan (schema : Schema) (turns : TimedLayer) (confidence : Option Int64)
    (chain : WordChain) :
    (chain.plan schema turns confidence).outline =
      chain.outline.plan schema turns (anyThreshold confidence) := by
  have layer : chain.outline.layer = chain.layer := rfl
  simp [plan, Plan.outline, outline_sourcesAfter, outline_conditions, result_outline, layer]
  rfl

end WordChain

/-! ### Turn plans -/

def Part.outline (part : Part) : Part :=
  { part with
    found := part.found.outline
    sources := part.sources.map Source.outline
    conditions := part.conditions.map Condition.outline }

namespace Setting

def outline (setting : Setting) : Setting :=
  { setting with confidence := anyThreshold setting.confidence }

variable (setting : Setting)

theorem foundWord?_outline (column place : Nat) (found : List ResolvedMatch) :
    foundWord? column place (found.map ResolvedMatch.outline) = foundWord? column place found := by
  induction found generalizing place with
  | nil => rfl
  | cons first rest ih => simp [foundWord?, ih]

@[simp] theorem word_outline (column : Nat) (found : List ResolvedMatch) :
    setting.outline.word column (found.map ResolvedMatch.outline) = setting.word column found := by
  rw [word, word, foundWord?_outline]
  rfl

@[simp] theorem outline_wordSources (word : WordRow) (ties : List Tie) :
    (setting.wordSources word ties).map Source.outline =
      setting.outline.wordSources word (ties.map Tie.outline) := by
  simp [wordSources, outline]

@[simp] theorem outline_nextWord (column : Nat) (word : WordRow) :
    (setting.nextWord column word).outline = setting.outline.nextWord column word := rfl

@[simp] theorem outline_previousWord (column : Nat) (word : WordRow) :
    (setting.previousWord column word).outline = setting.outline.previousWord column word := rfl

@[simp] theorem outline_startIfAny (row : Alias) : (startIfAny row).outline = startIfAny row := rfl

/-! Every part is about the same rows, whatever its match asks of the label. -/

section

variable (column : Nat) (word : WordRow) (found : ResolvedMatch) (row : Alias)

theorem outline_turnPart :
    (setting.turnPart column word found).outline =
      setting.outline.turnPart column word found.outline := by
  cases start : found.wanted.anchoredStart <;> cases stop : found.wanted.anchoredEnd <;>
    simp [turnPart, Part.outline, Condition.outline, start, stop]

@[simp] theorem outline_covering (tie : Tie) :
    (setting.covering word found row tie).map Source.outline =
      setting.outline.covering word found.outline row tie.outline := by
  simp [covering, outline]

@[simp] theorem outline_sharing (tie : Tie) :
    (sharing word found row tie).outline = sharing word found.outline row tie.outline := by
  cases start : found.wanted.anchoredStart <;> cases stop : found.wanted.anchoredEnd <;>
    simp [sharing, start, stop]

theorem outline_intervalPart (tie otherTie : Tie) :
    (setting.intervalPart word found row tie otherTie).outline =
      setting.outline.intervalPart word found.outline row tie.outline otherTie.outline := by
  have linked : setting.outline.linked = setting.linked := rfl
  simp only [intervalPart, ResolvedMatch.wanted_outline, ResolvedMatch.layer_outline,
    LayerMatch.isAnchored_outline, linked]
  split
  · simp [Part.outline]
  · cases start : found.wanted.anchoredStart <;> cases stop : found.wanted.anchoredEnd <;>
      simp [Part.outline, Condition.outline, outline, start, stop]

theorem outline_utterancePart (tie : Tie) :
    (setting.utterancePart column word found row tie).outline =
      setting.outline.utterancePart column word found.outline row tie.outline := by
  cases start : found.wanted.anchoredStart <;> cases stop : found.wanted.anchoredEnd <;>
    simp [utterancePart, Part.outline, Condition.outline, start, stop]

theorem outline_withinWordPart (number : Cell) (earlier : Option Alias) :
    (setting.withinWordPart word found row number earlier).outline =
      setting.outline.withinWordPart word found.outline row number earlier := by
  cases earlier <;> simp [withinWordPart, Part.outline, wordNumber, outline]

theorem outline_structuralPart (place : Nat) (earlier : Option Alias) :
    (setting.structuralPart column place word earlier found).outline =
      setting.outline.structuralPart column place word earlier found.outline := by
  have schema : setting.outline.schema = setting.schema := rfl
  simp only [structuralPart, ResolvedMatch.layer_outline, ResolvedMatch.scope_outline, schema]
  split
  · rfl
  · split
    · exact setting.outline_turnPart column word found
    · cases found.scope with
      | word => exact setting.outline_withinWordPart ..
      | segment => exact setting.outline_withinWordPart ..
      | phrase =>
          simp only
          split
          · exact setting.outline_utterancePart ..
          · exact setting.outline_intervalPart ..
      | span => exact setting.outline_intervalPart ..

theorem outline_part (place : Nat) (earlier : Option Alias) :
    (setting.part column place word earlier found).outline =
      setting.outline.part column place word earlier found.outline := by
  have structural := setting.outline_structuralPart column word found place earlier
  simp only [part, ← structural]
  simp [Part.outline]

end

theorem outline_partsFrom (column : Nat) (word : WordRow) (place : Nat) (earlier : Option Alias)
    (found : List ResolvedMatch) :
    (setting.partsFrom column word place earlier found).map Part.outline =
      setting.outline.partsFrom column word place earlier (found.map ResolvedMatch.outline) := by
  induction found generalizing place earlier with
  | nil => rfl
  | cons first rest ih =>
      have segment : setting.outline.segmentAfter column place earlier first.outline =
          setting.segmentAfter column place earlier first := rfl
      simp [partsFrom, outline_part, segment, ih]

def Block.outline (block : Block) : Block :=
  { block with
    ties := block.ties.map Tie.outline
    parts := block.parts.map Part.outline }

theorem outline_blocksFrom (column : Nat) (earlier : Option Block)
    (columns : List ResolvedColumn) :
    (setting.blocksFrom column earlier columns).map Block.outline =
      setting.outline.blocksFrom column (earlier.map Block.outline)
        (columns.map ResolvedColumn.outline) := by
  induction columns generalizing column earlier with
  | nil => rfl
  | cons resolved rest ih =>
      have ties (row : Alias) :
          (earlier.toList.map fun before =>
              Tie.adjacent before.adjacency row before.word.row).map Tie.outline =
            (earlier.map Block.outline).toList.map fun before =>
              Tie.adjacent before.adjacency row before.word.row := by
        cases earlier <;> simp [Block.outline]
      simp only [blocksFrom, List.map_cons, ih, Option.map_some, Block.outline, outline_partsFrom,
        ties, ResolvedColumn.outline, word_outline]

theorem outline_sources (block : Block) :
    (block.sources setting).map Source.outline = block.outline.sources setting.outline := by
  simp [Block.sources, Block.outline, List.map_flatMap, List.flatMap_map, Part.outline]

end Setting

namespace Part

theorem defining?_outline (parts : List Part) :
    defining? (parts.map outline) = (defining? parts).map outline := by
  have kinds : isSegment ∘ outline = isSegment ∧ isWord ∘ outline = isWord ∧
      isInterval ∘ outline = isInterval := ⟨rfl, rfl, rfl⟩
  simp only [defining?, ← List.map_reverse, List.find?_map, kinds, Option.map_or]

theorem marked?_outline (parts : List Part) :
    marked? (parts.map outline) = (marked? parts).map outline := by
  rw [marked?, marked?, List.find?_map]
  rfl

end Part

namespace Setting

variable (setting : Setting)

theorem result_outline (first last : WordRow) (parts : List Part) :
    setting.outline.result first last (parts.map Part.outline) = setting.result first last parts := by
  have reported (found : Option Part) :
      (found.map Part.outline).map (fun part => (⟨part.row, part.found.layer⟩ : WordRow)) =
        found.map fun part => ⟨part.row, part.found.layer⟩ := by
    cases found <;> rfl
  have segment : ((parts.map Part.outline).find? Part.isSegment).map Part.row =
      (parts.find? Part.isSegment).map Part.row := by
    rw [List.find?_map, Option.map_map]
    rfl
  simp only [result, Part.defining?_outline, Part.marked?_outline, reported, segment]
  rfl

theorem outline_plan (columns : List ResolvedColumn) :
    (setting.plan columns).outline =
      setting.outline.plan (columns.map ResolvedColumn.outline) := by
  have blocks : setting.outline.blocksFrom 0 none (columns.map ResolvedColumn.outline) =
      (setting.blocksFrom 0 none columns).map Block.outline :=
    (setting.outline_blocksFrom 0 none columns).symm
  simp only [plan, blocks]
  generalize setting.blocksFrom 0 none columns = known
  have words : (known.map Block.outline).map Block.word = known.map Block.word := by
    rw [List.map_map]
    rfl
  have parts : (known.map Block.outline).flatMap Block.parts =
      (known.flatMap Block.parts).map Part.outline := by
    simp [List.flatMap_map, List.map_flatMap, Block.outline]
  have joins : (Source.once (known.flatMap (Block.sources setting))).map Source.outline =
      Source.once ((known.map Block.outline).flatMap (Block.sources setting.outline)) := by
    rw [Source.outline_once, List.map_flatMap, List.flatMap_map]
    simp only [outline_sources]
  have conditions (found : List Part) :
      (found.flatMap Part.conditions).map Condition.outline =
        (found.map Part.outline).flatMap Part.conditions := by
    simp [List.flatMap_map, List.map_flatMap, Part.outline]
  simp only [Plan.outline, words, parts, joins, conditions, result_outline]
  rfl

end Setting

/-! ### Plans of matrices -/

theorem outline_planOf (schema : Schema) (linked : String → Bool) (confidence : Option Int64)
    (columns : List ResolvedColumn) (strategy : Strategy) :
    (planOf schema linked confidence columns strategy).map Plan.outline =
      planOf schema linked (anyThreshold confidence) (columns.map ResolvedColumn.outline)
        strategy.outline := by
  cases strategy with
  | orthographyChain chain =>
      cases inTime : turnsAndWords schema with
      | error problem => simp [planOf, Strategy.outline, inTime, bind, Except.bind, Except.map]
      | ok both =>
          simp [planOf, Strategy.outline, inTime, bind, Except.bind, pure, Except.pure, Except.map,
            WordChain.outline_plan]
  | spanScan found => exact congrArg Except.ok (SpanScan.outline_plan confidence found)
  | general =>
      cases inTime : turnsAndWords schema with
      | error problem => simp [planOf, Strategy.outline, inTime, bind, Except.bind, Except.map]
      | ok both =>
          simp [planOf, Strategy.outline, inTime, bind, Except.bind, pure, Except.pure, Except.map,
            Setting.outline_plan, Setting.outline]

namespace Matrix

/-- The plan of the strategy that a matrix is searched by. -/
def plan (schema : Schema) (linked : String → Bool) (confidence : Option Int64)
    (matrix : Matrix) : Except QueryError Plan := do
  let columns ← matrix.resolve schema
  planOf schema linked confidence columns (ResolvedColumn.strategy schema linked columns)

theorem select_eq (schema : Schema) (linked : String → Bool) (options : Options)
    (matrix : Matrix) :
    matrix.select schema linked options =
      (matrix.plan schema linked options.minConfidence).map (Plan.restricted options) := by
  unfold select plan
  cases matrix.resolve schema with
  | error problem => rfl
  | ok columns =>
      simp only [bind, Except.bind]
      cases planOf schema linked options.minConfidence columns
        (ResolvedColumn.strategy schema linked columns) <;> rfl

theorem outline_plan (schema : Schema) (linked : String → Bool) (confidence : Option Int64)
    (matrix : Matrix) :
    (matrix.plan schema linked confidence).map Plan.outline =
      matrix.outline.plan schema linked (anyThreshold confidence) := by
  unfold plan
  rw [resolve_outline]
  cases matrix.resolve schema with
  | error problem => rfl
  | ok columns =>
      simp only [bind, Except.bind, Except.map, ResolvedColumn.strategy_outline]
      exact outline_planOf ..

theorem strategy_outline (schema : Schema) (linked : String → Bool) (matrix : Matrix) :
    matrix.outline.strategy schema linked =
      (matrix.strategy schema linked).map Strategy.outline := by
  unfold strategy
  rw [resolve_outline]
  cases matrix.resolve schema with
  | error problem => rfl
  | ok columns =>
      simp only [bind, Except.bind, Except.map, pure, Except.pure, ResolvedColumn.strategy_outline]

end Matrix

end CorpusQuery.Search
