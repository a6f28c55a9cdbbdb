import CorpusQuery.Proofs.Number.Integer
import CorpusQuery.Proofs.Search.Scope
import CorpusQuery.Proofs.Sql.Evaluation

namespace CorpusQuery.Search

/-! The tables that the rows of a plan are in.

A row has its name from a column, and from the place of a match in it.  What layer it is an
annotation of can be told from the name, and every strategy reads it from the table of this
layer. -/

open Sql

/-! ### Layers of rows -/

/-- The layer that the row is an annotation of, if there is such a column and match. -/
def Alias.layer? (schema : Schema) (columns : List ResolvedColumn) : Alias → Option TimedLayer
  | .turn => timed? schema .turn
  | .found column place => (columns[column]?.bind (·.found[place]?)).map ResolvedMatch.layer
  | .word column | .next column | .previous column =>
      if column < columns.length then timed? schema .word else none
  | .anchor .. | .otherWord | .otherStart => none

/-- The table that the row is in. -/
def Alias.table? (schema : Schema) (columns : List ResolvedColumn) : Alias → Option Table
  | .anchor row _ => (row.layer? schema columns).map fun _ => .anchors
  | row => (row.layer? schema columns).map fun layer => .layer layer.table

section

variable {schema : Schema} {columns : List ResolvedColumn}

theorem Alias.layer?_found {column place : Nat} {resolved : ResolvedColumn}
    {found : ResolvedMatch} (known : columns[column]? = some resolved)
    (placed : resolved.found[place]? = some found) :
    (Alias.found column place).layer? schema columns = some found.layer := by
  simp [layer?, known, placed]

theorem inSchema_of_timed? {role : Role} {layer : TimedLayer}
    (inTime : timed? schema role = some layer) : layer.InSchema schema := by
  obtain ⟨entry, designated, timed⟩ := Option.bind_eq_some_iff.1 inTime
  obtain ⟨id, -, named⟩ := Option.bind_eq_some_iff.1 designated
  exact inSchema_of_entry? (Option.bind_eq_some_iff.2 ⟨entry, named, timed⟩)

/-- The layer of turns is the one that plays their part. -/
theorem timed?_of_plays {role : Role} {layer : TimedLayer} (known : layer.InSchema schema)
    (plays : schema.plays role layer.id) : timed? schema role = some layer := by
  rw [timed?, Schema.designated?, eq_of_beq plays, Option.bind_some]
  exact known

theorem turnsAndWords_eq_ok {turns words : TimedLayer} :
    turnsAndWords schema = .ok (turns, words) ↔
      timed? schema .turn = some turns ∧ timed? schema .word = some words := by
  unfold turnsAndWords
  split
  · rename_i turns words inTime others
    simp [inTime, others]
  · rename_i none
    simp only [reduceCtorEq, false_iff, not_and]
    exact fun inTime others => none _ _ inTime others

/-! ### Backing -/

namespace Source

/-- The source reads the table that its row is in. -/
def IsBacked (schema : Schema) (columns : List ResolvedColumn) (source : Source) : Prop :=
  source.row.table? schema columns = some source.table

theorem isBacked_anchor {row : Alias} {layer : TimedLayer}
    (known : row.layer? schema columns = some layer) (confidence : Option Int64) (edge : Edge)
    (ties : List Tie) : (anchor confidence row edge ties).IsBacked schema columns := by
  simp [IsBacked, anchor, Alias.table?, known]

theorem isBacked_thresholdAnchors {row : Alias} {layer : TimedLayer}
    (known : row.layer? schema columns = some layer) (confidence : Option Int64) :
    ∀ source ∈ thresholdAnchors confidence row, source.IsBacked schema columns := by
  unfold thresholdAnchors
  split
  · simp [isBacked_anchor known]
  · simp

end Source

/-- A row that is one of a layer is in the table of this layer. -/
theorem Alias.table?_of_layer? {row : Alias} {layer : TimedLayer}
    (known : row.layer? schema columns = some layer) :
    row.table? schema columns = some (.layer layer.table) := by
  cases row with
  | anchor | otherWord | otherStart => contradiction
  | turn | found | word | next | previous => simp [table?, known]

theorem Source.isBacked_ofLayer {row : Alias} {layer : TimedLayer}
    (known : row.layer? schema columns = some layer) (ties : List Tie) :
    (ofLayer layer row ties).IsBacked schema columns :=
  Alias.table?_of_layer? known

/-- Other words are sought among the words. -/
def Condition.IsBacked (schema : Schema) : Condition → Prop
  | .noOtherWord words _ => timed? schema .word = some words
  | _ => True

theorem Condition.isBacked_ofLabel (row : Alias) (wanted : LayerMatch) :
    ∀ condition ∈ ofLabel row wanted, condition.IsBacked schema := by
  intro condition member
  obtain rfl := eq_of_mem_ofLabel member
  trivial

structure Part.IsBacked (schema : Schema) (columns : List ResolvedColumn) (part : Part) :
    Prop where
  row : part.row.layer? schema columns = some part.found.layer
  sources : ∀ source ∈ part.sources, source.IsBacked schema columns
  conditions : ∀ condition ∈ part.conditions, condition.IsBacked schema

/-- Each row of the plan is read from the table that it is in, and what is recorded as the
target is of the layer that it is recorded with. -/
structure Plan.IsBacked (schema : Schema) (columns : List ResolvedColumn) (plan : Plan) :
    Prop where
  row : plan.row.layer? schema columns = some plan.layer
  joins : ∀ source ∈ plan.joins, source.IsBacked schema columns
  conditions : ∀ condition ∈ plan.conditions, condition.IsBacked schema
  target : plan.result.target.layer? schema columns = some plan.result.targetLayer

end

/-! ### Turn plans -/

namespace Setting

theorem exists_of_mem_partsFrom {setting : Setting} {column start : Nat} {word : WordRow}
    {earlier : Option Alias} {found : List ResolvedMatch} {part : Part}
    (member : part ∈ setting.partsFrom column word start earlier found) :
    ∃ place item segment, found[place]? = some item ∧
      part = setting.part column (start + place) word segment item := by
  induction found generalizing start earlier with
  | nil => contradiction
  | cons first rest ih =>
      rcases List.mem_cons.1 member with rfl | later
      · exact ⟨0, first, earlier, rfl, rfl⟩
      · obtain ⟨place, item, segment, placed, same⟩ := ih later
        refine ⟨place + 1, item, segment, placed, ?_⟩
        rw [same, Nat.add_assoc, Nat.add_comm 1]

theorem exists_of_mem_blocksFrom {setting : Setting} {start : Nat} {earlier : Option Block}
    {columns : List ResolvedColumn} {block : Block}
    (member : block ∈ setting.blocksFrom start earlier columns) :
    ∃ index resolved, columns[index]? = some resolved ∧
      block.word = setting.word (start + index) resolved.found ∧
      block.parts = setting.partsFrom (start + index) block.word 0 none resolved.found := by
  induction columns generalizing start earlier with
  | nil => contradiction
  | cons first rest ih =>
      rcases List.mem_cons.1 member with rfl | later
      · exact ⟨0, first, rfl, rfl, rfl⟩
      · obtain ⟨index, resolved, known, word, parts⟩ := ih later
        refine ⟨index + 1, resolved, known, ?_, ?_⟩
        · rw [word, Nat.add_assoc, Nat.add_comm 1]
        · rw [parts, Nat.add_assoc, Nat.add_comm 1]

theorem foundWord?_eq_some {column start : Nat} {found : List ResolvedMatch} {word : WordRow}
    (known : foundWord? column start found = some word) :
    ∃ place item, found[place]? = some item ∧ item.scope = .word ∧
      word = ⟨.found column (start + place), item.layer⟩ := by
  induction found generalizing start with
  | nil => contradiction
  | cons first rest ih =>
      unfold foundWord? at known
      split at known
      · rename_i isWord
        exact ⟨0, first, rfl, isWord, (Option.some.inj known).symm⟩
      · obtain ⟨place, item, placed, isWord, same⟩ := ih known
        refine ⟨place + 1, item, placed, isWord, ?_⟩
        rw [same, Nat.add_assoc, Nat.add_comm 1]

/-- The turns and words of the setting are those of the schema. -/
structure InTime (setting : Setting) : Prop where
  turns : timed? setting.schema .turn = some setting.turns
  words : timed? setting.schema .word = some setting.words

variable {setting : Setting} (inTime : setting.InTime) {columns : List ResolvedColumn}

include inTime

theorem layer?_word {column : Nat} {resolved : ResolvedColumn}
    (known : columns[column]? = some resolved) :
    (setting.word column resolved.found).row.layer? setting.schema columns =
      some (setting.word column resolved.found).layer := by
  unfold word
  cases found : foundWord? column 0 resolved.found with
  | none =>
      have inside : column < columns.length := (List.getElem?_eq_some_iff.1 known).1
      simp [Alias.layer?, inside, inTime.words]
  | some word =>
      obtain ⟨place, item, placed, -, rfl⟩ := foundWord?_eq_some found
      rw [Nat.zero_add]
      exact Alias.layer?_found known placed

section Part

variable {column place : Nat} (inside : column < columns.length) {word : WordRow}
  (ofWord : word.row.layer? setting.schema columns = some word.layer) {found : ResolvedMatch}
  (known : found.layer.InSchema setting.schema)
  (ofMatch : (Alias.found column place).layer? setting.schema columns = some found.layer)

omit inTime in
include ofWord ofMatch in
theorem isBacked_covering (tie : Tie) :
    ∀ source ∈ setting.covering word found (.found column place) tie,
      source.IsBacked setting.schema columns := by
  simp [covering, Source.isBacked_anchor ofWord, Source.isBacked_anchor ofMatch,
    Source.isBacked_ofLayer ofMatch]

include inside

theorem layer?_neighbours :
    (Alias.next column).layer? setting.schema columns = some setting.words ∧
      (Alias.previous column).layer? setting.schema columns = some setting.words := by
  simp [Alias.layer?, inside, inTime.words]

theorem isBacked_neighbours (word : WordRow) :
    ((setting.nextWord column word).IsBacked setting.schema columns ∧
      (startIfAny (.next column)).IsBacked setting.schema columns) ∧
    (setting.previousWord column word).IsBacked setting.schema columns ∧
      (startIfAny (.previous column)).IsBacked setting.schema columns := by
  obtain ⟨next, previous⟩ := layer?_neighbours inTime inside
  simp [nextWord, previousWord, startIfAny, Source.IsBacked, Alias.table?, next, previous]

include known in
theorem isBacked_turnPart (plays : setting.schema.plays .turn found.layer.id) :
    (setting.turnPart column word found).IsBacked setting.schema columns where
  row := timed?_of_plays known plays
  sources := by
    obtain ⟨⟨next, -⟩, -⟩ := isBacked_neighbours inTime inside word
    unfold turnPart
    split
    · exact List.forall_mem_singleton.2 next
    · simp
  conditions := by
    unfold turnPart
    cases found.wanted.anchoredStart <;> cases found.wanted.anchoredEnd <;>
      simp [Condition.IsBacked]

include ofWord ofMatch

omit inside in
theorem isBacked_intervalPart (tie otherTie : Tie) :
    (setting.intervalPart word found (.found column place) tie otherTie).IsBacked
      setting.schema columns := by
  have covering := isBacked_covering ofWord ofMatch tie
  unfold intervalPart
  split
  · refine ⟨ofMatch, ?_, by simp⟩
    simp [sharing, Source.isBacked_ofLayer ofMatch]
  · refine ⟨ofMatch, covering, ?_⟩
    cases found.wanted.anchoredStart <;> cases found.wanted.anchoredEnd <;>
      simp [Condition.IsBacked, inTime.words]

theorem isBacked_utterancePart (tie : Tie) :
    (setting.utterancePart column word found (.found column place) tie).IsBacked
      setting.schema columns := by
  have covering := isBacked_covering ofWord ofMatch tie
  obtain ⟨next, previous⟩ := isBacked_neighbours inTime inside word
  unfold utterancePart
  refine ⟨ofMatch, ?_, ?_⟩
  · refine List.forall_mem_append.2 ⟨List.forall_mem_append.2 ⟨covering, ?_⟩, ?_⟩
    · split
      · simpa using previous
      · simp
    · split
      · simpa using next
      · simp
  · cases found.wanted.anchoredStart <;> cases found.wanted.anchoredEnd <;>
      simp [Condition.IsBacked]

include known

theorem isBacked_structuralPart (earlier : Option Alias) :
    (setting.structuralPart column place word earlier found).IsBacked setting.schema columns := by
  have withinWord (number : Cell) (earlier : Option Alias) :
      (setting.withinWordPart word found (.found column place) number earlier).IsBacked
        setting.schema columns :=
    ⟨ofMatch, by simp [withinWordPart, Source.isBacked_ofLayer ofMatch], by simp [withinWordPart]⟩
  unfold structuralPart
  simp only
  split
  · exact ⟨ofMatch, by simp, by simp⟩
  · split
    · rename_i plays
      exact isBacked_turnPart inTime inside known plays
    · split
      · exact withinWord _ _
      · exact withinWord _ _
      · split
        · exact isBacked_utterancePart inTime inside ofWord ofMatch _
        · exact isBacked_intervalPart inTime ofWord ofMatch _ _
      · exact isBacked_intervalPart inTime ofWord ofMatch _ _

theorem isBacked_part (earlier : Option Alias) :
    (setting.part column place word earlier found).IsBacked setting.schema columns := by
  obtain ⟨row, sources, conditions⟩ :=
    isBacked_structuralPart inTime inside ofWord known ofMatch earlier
  exact ⟨row, sources,
    List.forall_mem_append.2 ⟨conditions, Condition.isBacked_ofLabel _ _⟩⟩

end Part

omit inTime in
theorem isBacked_result {first last : WordRow} {parts : List Part}
    (ofLast : last.row.layer? setting.schema columns = some last.layer)
    (backed : ∀ part ∈ parts, part.IsBacked setting.schema columns) :
    let result := setting.result first last parts
    result.target.layer? setting.schema columns = some result.targetLayer := by
  have chosen {part? : Option Part} (within : ∀ part ∈ part?, part ∈ parts) {other : WordRow}
      (otherwise : other.row.layer? setting.schema columns = some other.layer) :
      let row := (part?.map fun part => (⟨part.row, part.found.layer⟩ : WordRow)).getD other
      row.row.layer? setting.schema columns = some row.layer := by
    cases part? with
    | none => exact otherwise
    | some part => exact (backed part (within part rfl)).row
  exact chosen (fun _ => List.mem_of_find?_eq_some)
    (chosen (fun _ => Part.mem_of_defining?) ofLast)

variable (known : ∀ resolved ∈ columns, ∀ found ∈ resolved.found,
  found.layer.InSchema setting.schema)

include known

theorem isBacked_parts {block : Block} (member : block ∈ setting.blocksFrom 0 none columns) :
    block.word.row.layer? setting.schema columns = some block.word.layer ∧
      ∀ part ∈ block.parts, part.IsBacked setting.schema columns := by
  obtain ⟨index, resolved, placed, word, parts⟩ := exists_of_mem_blocksFrom member
  rw [Nat.zero_add] at word parts
  have ofWord := layer?_word inTime placed
  rw [← word] at ofWord
  refine ⟨ofWord, fun part inBlock => ?_⟩
  rw [parts] at inBlock
  obtain ⟨place, found, segment, at_, rfl⟩ := exists_of_mem_partsFrom inBlock
  rw [Nat.zero_add]
  exact isBacked_part inTime (List.getElem?_eq_some_iff.1 placed).1 ofWord
    (known resolved (List.mem_of_getElem? placed) found (List.mem_of_getElem? at_))
    (Alias.layer?_found placed at_) segment

theorem isBacked_plan (asked : columns ≠ []) :
    (setting.plan columns).IsBacked setting.schema columns where
  row := inTime.turns
  joins := by
    intro source member
    obtain ⟨block, inBlocks, inside⟩ := List.mem_flatMap.1 (Source.mem_of_mem_once member)
    obtain ⟨ofWord, parts⟩ := isBacked_parts inTime known inBlocks
    rcases List.mem_append.1 inside with ofWordSources | inPart
    · rcases List.mem_cons.1 ofWordSources with rfl | isAnchor
      · exact Source.isBacked_ofLayer ofWord _
      · exact Source.isBacked_thresholdAnchors ofWord _ source isAnchor
    · obtain ⟨part, inBlock, within⟩ := List.mem_flatMap.1 inPart
      exact (parts part inBlock).sources source within
  conditions := by
    intro condition member
    obtain ⟨part, inParts, within⟩ := List.mem_flatMap.1 member
    obtain ⟨block, inBlocks, inBlock⟩ := List.mem_flatMap.1 inParts
    exact ((isBacked_parts inTime known inBlocks).2 part inBlock).conditions condition within
  target := by
    have some : setting.blocksFrom 0 none columns ≠ [] := by
      cases columns with
      | nil => contradiction
      | cons => simp [blocksFrom]
    have words : (setting.blocksFrom 0 none columns).map Block.word ≠ [] := by simpa using some
    obtain ⟨block, inBlocks, isLast⟩ := List.mem_map.1 (List.getLast_mem words)
    refine isBacked_result ?_ fun part member => ?_
    · rw [List.getLast?_eq_some_getLast words, Option.getD_some, ← isLast]
      exact (isBacked_parts inTime known inBlocks).1
    · obtain ⟨block, inBlocks, inBlock⟩ := List.mem_flatMap.1 member
      exact (isBacked_parts inTime known inBlocks).2 part inBlock

end Setting

/-! ### Conditions on other words -/

theorem layerTable_injective : Function.Injective layerTable :=
  fun _ _ same => Number.text_injective ((String.append_right_inj _).1 same)

namespace Condition

/-- Of the conditions of plans only those on other words begin so. -/
theorem exists_noOtherWord {condition : Condition} {rest : Fragment}
    (begins : condition.fragment = .not :: .words "EXISTS " :: rest) :
    ∃ words ties, condition = .noOtherWord words ties := by
  cases condition with
  | noOtherWord words ties => exact ⟨words, ties, rfl⟩
  | first | absent => simp [fragment, Cell.piece] at begins
  | absentOr => simp [fragment, Fragment.parenthesized] at begins
  | label row wanted =>
      simp only [fragment, labelFragment] at begins
      split at begins
      · simp [Cell.piece] at begins
      -- What is negated is a range in parentheses; a range itself begins with a cast.
      · split at begins
        · simp [Fragment.parenthesized] at begins
        · cases least : wanted.min <;> cases most : wanted.max <;>
            simp [bounds, least, most, numericLabel, apply, Fragment.conjunction, Fragment.join]
              at begins

/-- The text of the condition names the table. -/
theorem table_eq_of_fragment {words others : TimedLayer} {ties more : List Tie}
    (same : (noOtherWord words ties).fragment = (noOtherWord others more).fragment) :
    words.table = others.table := by
  simp only [fragment, existing, Fragment.parenthesized, Select.subquery, Select.render,
    Alias.relation_layerTable, Select.selectClause, Fragment.commaList, Fragment.join,
    List.cons_append, List.nil_append, List.cons.injEq, Piece.words.injEq, true_and] at same
  exact layerTable_injective same.1

end Condition

/-- What confines a search is no negation. -/
theorem Options.ne_not_of_mem_conditions {options : Options} {result : Result}
    {condition rest : Fragment}
    (member : condition ∈ options.conditions [result.graph.piece] result.speaker?) :
    condition ≠ .not :: rest := by
  rintro rfl
  simp only [conditions, List.mem_append, List.mem_map, Option.mem_toList] at member
  rcases member with ((⟨filter, -, same⟩ | ⟨filter, -, same⟩) | isMain) | ⟨access, -, same⟩
  · simp [transcriptCondition, Cell.piece] at same
  · cases speaker : result.speaker? with
    | none => simp [participantCondition, speaker, Cell.piece] at same
    | some cast =>
        obtain ⟨_, _, rfl⟩ := Option.map_eq_some_iff.1 speaker
        simp [participantCondition, speaker, turnSpeaker, apply] at same
  · split at isMain <;> simp at isMain
  · cases access <;> simp [Access.restriction, Fragment.parenthesized] at same

/-! ### All plans -/

theorem scope_eq_of_chain? {schema : Schema} {matrix : Matrix} {columns : List ResolvedColumn}
    {chain : WordChain} (resolved : matrix.resolve schema = .ok columns)
    (found : ResolvedColumn.chain? schema columns = some chain) {link : Link}
    (member : link ∈ chain.links) : link.found.scope = .word := by
  rw [ResolvedMatch.scope, layer_eq_of_chain? resolved found member]
  exact (ResolvedColumn.chain?_spec found).2.1

namespace WordChain

variable {schema : Schema} {turns layer : TimedLayer} {columns : List ResolvedColumn}

theorem isBacked_sourcesAfter {confidence : Option Int64} {column : Nat} {earlier : Link}
    {rest : List Link}
    (known : ∀ index < rest.length,
      (Alias.found (column + 1 + index) 0).layer? schema columns = some layer) :
    ∀ source ∈ sourcesAfter layer confidence column earlier rest,
      source.IsBacked schema columns := by
  induction rest generalizing column earlier with
  | nil => simp [sourcesAfter]
  | cons link rest ih =>
      have here := known 0 (Nat.succ_pos _)
      refine List.forall_mem_cons.2 ⟨Source.isBacked_ofLayer here _, List.forall_mem_append.2
        ⟨Source.isBacked_thresholdAnchors here _, ih fun index inside => ?_⟩⟩
      have later := known (index + 1) (Nat.succ_lt_succ inside)
      have place : column + 1 + (index + 1) = column + 1 + 1 + index := by omega
      rwa [place] at later

/-- A chain has its first word in front, and its turn behind it. -/
theorem isBacked_plan {matrix : Matrix} {chain : WordChain}
    (resolved : matrix.resolve schema = .ok columns)
    (found : ResolvedColumn.chain? schema columns = some chain)
    (inTime : timed? schema .turn = some turns) (confidence : Option Int64) :
    (chain.plan schema turns confidence).IsBacked schema columns := by
  have word {column : Nat} (inside : column < chain.links.length) :
      (Alias.found column 0).layer? schema columns = some chain.layer := by
    obtain ⟨rfl, -, -⟩ := ResolvedColumn.chain?_spec found
    have at_ : (chain.links.map Link.column)[column]? = some chain.links[column].column := by
      simp [inside]
    rw [← layer_eq_of_chain? resolved found (List.getElem_mem inside)]
    exact Alias.layer?_found at_ rfl
  have first := word (Nat.succ_pos _)
  have turn : Alias.turn.layer? schema columns = some turns := inTime
  obtain ⟨targetColumn, targetInside, isTarget⟩ := chain.targetRow_column
  constructor
  · exact first
  · refine List.forall_mem_cons.2 ⟨Source.isBacked_ofLayer turn _, List.forall_mem_append.2
      ⟨Source.isBacked_thresholdAnchors first _, isBacked_sourcesAfter fun index inside => ?_⟩⟩
    exact word (by simpa [links, Nat.add_comm 1] using inside)
  · intro condition member
    obtain ⟨⟨link, column⟩, -, inside⟩ := List.mem_flatMap.1 member
    exact Condition.isBacked_ofLabel _ _ condition inside
  · rw [plan, result, isTarget]
    exact word targetInside

end WordChain

theorem SpanScan.isBacked_plan {schema : Schema} {found : ResolvedMatch} {adjacency : Nat}
    (confidence : Option Int64) :
    (plan confidence found).IsBacked schema [⟨[found], adjacency⟩] where
  row := rfl
  joins := List.forall_mem_singleton.2 (Source.isBacked_anchor rfl _ _ _)
  conditions := Condition.isBacked_ofLabel _ _
  target := rfl

/-- A plan is that of its strategy, for the schema's turns and words where it needs them. -/
theorem planOf_inTime {schema : Schema} {linked : String → Bool} {confidence : Option Int64}
    {columns : List ResolvedColumn} {strategy : Strategy} {plan : Plan}
    (planned : planOf schema linked confidence columns strategy = .ok plan) :
    (∃ found, strategy = .spanScan found ∧ plan = SpanScan.plan confidence found) ∨
    ∃ setting : Setting, setting.InTime ∧ setting.schema = schema ∧ setting.linked = linked ∧
      setting.confidence = confidence ∧
      ((∃ chain, strategy = .orthographyChain chain ∧
          plan = chain.plan schema setting.turns confidence) ∨
        strategy = .general ∧ plan = setting.plan columns) := by
  cases both : turnsAndWords schema with
  | error problem =>
      cases strategy with
      | spanScan found =>
          cases planned
          exact .inl ⟨found, rfl, rfl⟩
      | orthographyChain | general => simp [planOf, both, bind, Except.bind] at planned
  | ok pair =>
      obtain ⟨turns, words⟩ := pair
      obtain ⟨inTime, others⟩ := turnsAndWords_eq_ok.1 both
      have timed : Setting.InTime ⟨schema, turns, words, linked, confidence⟩ := ⟨inTime, others⟩
      cases strategy with
      | orthographyChain chain =>
          simp only [planOf, both, bind, Except.bind, pure, Except.pure, Except.ok.injEq] at planned
          exact .inr ⟨_, timed, rfl, rfl, rfl, .inl ⟨chain, rfl, planned.symm⟩⟩
      | spanScan found =>
          cases planned
          exact .inl ⟨found, rfl, rfl⟩
      | general =>
          simp only [planOf, both, bind, Except.bind, pure, Except.pure, Except.ok.injEq] at planned
          exact .inr ⟨_, timed, rfl, rfl, rfl, .inr ⟨rfl, planned.symm⟩⟩

/-- Whatever the strategy is, each row is read from the table that it is in. -/
theorem isBacked_planOf {schema : Schema} {linked : String → Bool} {confidence : Option Int64}
    {matrix : Matrix} {columns : List ResolvedColumn} {plan : Plan}
    (resolved : matrix.resolve schema = .ok columns)
    (planned : planOf schema linked confidence columns
      (ResolvedColumn.strategy schema linked columns) = .ok plan) :
    plan.IsBacked schema columns := by
  rcases planOf_inTime planned with ⟨found, chosen, rfl⟩ |
    ⟨setting, inTime, rfl, -, -, ⟨chain, chosen, rfl⟩ | ⟨-, rfl⟩⟩
  · obtain ⟨adjacency, rfl⟩ :=
      ResolvedColumn.eq_of_span? (ResolvedColumn.span?_of_strategy chosen)
    exact SpanScan.isBacked_plan confidence
  · exact WordChain.isBacked_plan resolved (ResolvedColumn.chain?_of_strategy chosen)
      inTime.turns confidence
  · exact Setting.isBacked_plan inTime
      (fun _ within _ member => Matrix.inSchema_of_resolve resolved within member)
      (Matrix.columns_ne_nil_of_resolve resolved)

/-! ### Statements -/

section

variable {schema : Schema} {columns : List ResolvedColumn}

/-- Rows that are looked up by their names are of layers of the schema. -/
theorem inSchema_of_layer? {matrix : Matrix} (resolved : matrix.resolve schema = .ok columns)
    {row : Alias} {layer : TimedLayer} (known : row.layer? schema columns = some layer) :
    layer.InSchema schema := by
  cases row with
  | turn => exact inSchema_of_timed? known
  | found column place =>
      obtain ⟨found, at_, rfl⟩ := Option.map_eq_some_iff.1 known
      obtain ⟨column, within, listed⟩ := Option.bind_eq_some_iff.1 at_
      exact Matrix.inSchema_of_resolve resolved (List.mem_of_getElem? within)
        (List.mem_of_getElem? listed)
  | word column | next column | previous column =>
      exact inSchema_of_timed? (Option.ite_none_right_eq_some.1 known).2
  | anchor | otherWord | otherStart => contradiction

namespace Plan

/-- Each row of the plan is read once. -/
theorem InScope.count_name {plan : Plan} (inScope : plan.InScope) (options : Options)
    {row : Alias} (member : row ∈ plan.rows) :
    (plan.restricted options).rows.count row.name = 1 := by
  refine List.count_eq_one_of_mem (inScope.nodup_rows options) ?_
  rw [rows_restricted]
  exact List.mem_append_left _ (List.mem_map_of_mem member)

theorem sources_restricted (plan : Plan) (options : Options) :
    (plan.restricted options).sources =
      (layerTable plan.layer.table, plan.row.name) ::
        plan.joins.map (fun source => (source.table.name, source.row.name)) ++
        (options.joins [plan.result.graph.piece] plan.result.speaker?).map fun join =>
          (join.source.sql, join.row) := by
  have join (source : Source) : source.join.source.sql = source.table.name := by
    simp [Source.join, Piece.sql]
  simp only [Select.sources, restricted, Options.restrict, select, Alias.relation_layerTable,
    List.map_append, List.map_map, List.cons_append, Function.comp_def, join]
  rfl

variable {plan : Plan} (backed : plan.IsBacked schema columns) (options : Options)

include backed

/-- A row of the plan is read from the table of its layer. -/
theorem mem_sources {row : Alias} (inPlan : row ∈ plan.rows) {layer : TimedLayer}
    (known : row.layer? schema columns = some layer) :
    (layerTable layer.table, row.name) ∈ (plan.restricted options).sources := by
  rw [sources_restricted]
  refine List.mem_append_left _ ?_
  rcases List.mem_cons.1 inPlan with rfl | joined
  · obtain rfl := Option.some.inj (known.symm.trans backed.row)
    exact List.mem_cons_self ..
  · obtain ⟨source, member, rfl⟩ := List.mem_map.1 joined
    have table : source.table = .layer layer.table :=
      Option.some.inj ((backed.joins source member).symm.trans (Alias.table?_of_layer? known))
    refine List.mem_cons_of_mem _ (List.mem_map.2 ⟨source, member, ?_⟩)
    rw [table]
    rfl

/-- Other words are sought in the table of the words. -/
theorem timed?_of_mem_conditions {others : TimedLayer} {ties : List Tie}
    (member : (Condition.noOtherWord others ties).fragment ∈
      (plan.restricted options).conditions) :
    ∃ words, timed? schema .word = some words ∧ others.table = words.table := by
  rcases List.mem_append.1 member with own | confining
  · obtain ⟨condition, inPlan, same⟩ := List.mem_map.1 own
    obtain ⟨words, more, rfl⟩ := Condition.exists_noOtherWord same
    exact ⟨words, backed.conditions _ inPlan, (Condition.table_eq_of_fragment same).symm⟩
  · exact absurd rfl (Options.ne_not_of_mem_conditions confining)

theorem table?_of_mem_sources {source : String × String}
    (member : source ∈ (plan.restricted options).sources) :
    source.2 = "main_participant" ∨
      ∃ (row : Alias) (table : Table), row.table? schema columns = some table ∧
        source = (table.name, row.name) := by
  rw [sources_restricted] at member
  rcases List.mem_append.1 member with own | restricting
  · rcases List.mem_cons.1 own with rfl | joined
    · exact .inr ⟨plan.row, .layer plan.layer.table, Alias.table?_of_layer? backed.row, rfl⟩
    · obtain ⟨read, inPlan, rfl⟩ := List.mem_map.1 joined
      exact .inr ⟨read.row, read.table, backed.joins read inPlan, rfl⟩
  · obtain ⟨join, isJoin, rfl⟩ := List.mem_map.1 restricting
    have named := List.mem_map_of_mem isJoin (f := Join.row)
    rw [Options.rows_joins] at named
    split at named
    · exact .inl (List.mem_singleton.1 named)
    · contradiction

end Plan

end

end CorpusQuery.Search
