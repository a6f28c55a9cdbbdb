import Mathlib.Data.List.Find
import CorpusQuery.Proofs.Search.Order
import CorpusQuery.Proofs.Search.Tables
import CorpusQuery.Proofs.Uid

namespace CorpusQuery.Search

/-! Which annotation a search is after, and how it is recorded.

The choice is made among the matches of the matrix, whatever becomes of them in a plan: the
one that is marked, or else the one that tells matches from others. -/

open Sql

/-! ### The choice -/

/-- A match with its column and its place there. -/
structure Placed where
  column : Nat
  place : Nat
  found : ResolvedMatch
deriving DecidableEq

/-- All matches in their order. -/
def placed (columns : List ResolvedColumn) : List Placed :=
  columns.zipIdx.flatMap fun (resolved, column) =>
    resolved.found.zipIdx.map fun (found, place) => ⟨column, place, found⟩

namespace Placed

def isSegment (item : Placed) : Bool :=
  item.found.scope == .segment

def isWord (item : Placed) : Bool :=
  item.found.scope == .word

/-- A phrase or span that is no turn. -/
def isInterval (schema : Schema) (item : Placed) : Bool :=
  (item.found.scope == .phrase || item.found.scope == .span) &&
    !schema.plays .turn item.found.layer.id

/-- The first segment, or else the last word, or else the last phrase or span that is no
turn. -/
def defining? (schema : Schema) (items : List Placed) : Option Placed :=
  (items.find? isSegment).or ((items.reverse.find? isWord).or
    (items.reverse.find? (isInterval schema)))

def marked? (items : List Placed) : Option Placed :=
  items.find? (·.found.wanted.target)

/-- A match on the layer of turns stands for the turn, unless it is the word of its column. -/
def row (schema : Schema) (words : List WordRow) (item : Placed) : Alias :=
  if (words[item.column]?.map WordRow.row) = some (.found item.column item.place) then
    .found item.column item.place
  else if schema.plays .turn item.found.layer.id then .turn
  else .found item.column item.place

end Placed

/-- The annotation that tells a match from others: that of the defining match, or else the word
of the last column. -/
def definingRow? (schema : Schema) (columns : List ResolvedColumn) : Option WordRow :=
  let words := columnWords schema columns
  ((Placed.defining? schema (placed columns)).map fun item =>
    ⟨item.row schema words, item.found.layer⟩).or words.getLast?

/-- The annotation that a search is after: that of the marked match, or else the defining
one. -/
def targetRow? (schema : Schema) (columns : List ResolvedColumn) : Option WordRow :=
  ((Placed.marked? (placed columns)).map fun item =>
    ⟨item.row schema (columnWords schema columns), item.found.layer⟩).or
      (definingRow? schema columns)

/-- What is recorded is what is chosen among the matches. -/
structure Reported (schema : Schema) (columns : List ResolvedColumn) (result : Result) :
    Prop where
  defining : (definingRow? schema columns).map WordRow.row = some result.defining
  target : targetRow? schema columns = some ⟨result.target, result.targetLayer⟩
  segment : result.segment = none ↔
    ∀ column ∈ columns, ∀ found ∈ column.found, found.scope ≠ .segment

/-! ### The choice among parts -/

/-- The row of a part, and the match that it is for. -/
def Part.own (part : Part) : Alias × ResolvedMatch :=
  (part.row, part.found)

namespace Setting

variable (setting : Setting)

theorem own_part (column place : Nat) (word : WordRow) (earlier : Option Alias)
    (found : ResolvedMatch) :
    (setting.part column place word earlier found).own =
      (if word.row = .found column place then .found column place
        else if setting.schema.plays .turn found.layer.id then .turn
        else .found column place, found) := by
  have interval (word : WordRow) (row : Alias) (tie otherTie : Tie) :
      (setting.intervalPart word found row tie otherTie).own = (row, found) := by
    unfold intervalPart
    split <;> rfl
  change (setting.structuralPart column place word earlier found).own = _
  unfold structuralPart
  simp only
  split
  · rfl
  · split
    · rfl
    · split
      · rfl
      · rfl
      · split
        · rfl
        · exact interval ..
      · exact interval ..

section Own

variable {setting} {words : List WordRow}

theorem own_partsFrom {column : Nat} {word : WordRow} (listed : words[column]? = some word)
    (place : Nat) (earlier : Option Alias) (found : List ResolvedMatch) :
    (setting.partsFrom column word place earlier found).map Part.own =
      (found.zipIdx place).map fun (item, place) =>
        (Placed.row setting.schema words ⟨column, place, item⟩, item) := by
  induction found generalizing place earlier with
  | nil => rfl
  | cons first rest ih =>
      rw [partsFrom, List.map_cons, ih, own_part, List.zipIdx_cons, List.map_cons]
      simp only [Placed.row, listed, Option.map_some, Option.some.injEq]

theorem own_blocksFrom {start : Nat} {columns : List ResolvedColumn}
    (listed : ∀ (index : Nat) (resolved : ResolvedColumn), columns[index]? = some resolved →
      words[start + index]? = some (setting.word (start + index) resolved.found))
    (earlier : Option Block) :
    ((setting.blocksFrom start earlier columns).flatMap Block.parts).map Part.own =
      (columns.zipIdx start).flatMap fun (resolved, column) =>
        resolved.found.zipIdx.map fun (item, place) =>
          (Placed.row setting.schema words ⟨column, place, item⟩, item) := by
  induction columns generalizing start earlier with
  | nil => rfl
  | cons first rest ih =>
      have later : ∀ (index : Nat) (resolved : ResolvedColumn), rest[index]? = some resolved →
          words[start + 1 + index]? = some (setting.word (start + 1 + index) resolved.found) := by
        intro index resolved known
        rw [Nat.add_assoc, Nat.add_comm 1]
        exact listed (index + 1) resolved known
      rw [blocksFrom, List.flatMap_cons, List.map_append, ih later, List.zipIdx_cons,
        List.flatMap_cons]
      exact congrArg (· ++ _) (own_partsFrom (listed 0 first rfl) 0 none first.found)

end Own

end Setting

theorem mem_placed {columns : List ResolvedColumn} {item : Placed} :
    item ∈ placed columns ↔ ∃ resolved, columns[item.column]? = some resolved ∧
      resolved.found[item.place]? = some item.found := by
  rw [placed, List.mem_flatMap]
  constructor
  · rintro ⟨⟨resolved, column⟩, within, member⟩
    obtain ⟨⟨found, place⟩, inside, rfl⟩ := List.mem_map.1 member
    exact ⟨resolved, List.mk_mem_zipIdx_iff_getElem?.1 within,
      List.mk_mem_zipIdx_iff_getElem?.1 inside⟩
  · rintro ⟨resolved, within, inside⟩
    exact ⟨(resolved, item.column), List.mk_mem_zipIdx_iff_getElem?.2 within,
      List.mem_map.2 ⟨(item.found, item.place), List.mk_mem_zipIdx_iff_getElem?.2 inside, rfl⟩⟩

/-- A search of both lists alike finds the same row and match. -/
theorem Part.map_find? {parts : List Part} {items : List Placed}
    {own : Placed → Alias × ResolvedMatch} (same : parts.map Part.own = items.map own)
    {ofPart : Part → Bool} {ofItem : Placed → Bool} (test : Alias × ResolvedMatch → Bool)
    (first : ∀ part, ofPart part = test part.own)
    (second : ∀ item ∈ items, ofItem item = test (own item)) :
    (parts.find? ofPart).map Part.own = (items.find? ofItem).map own := by
  obtain rfl : ofPart = test ∘ Part.own := funext first
  rw [List.find?_congr second]
  exact List.find?_map.symm.trans ((congrArg (List.find? test) same).trans List.find?_map)

namespace Setting

variable {setting : Setting} (inTime : setting.InTime) {columns : List ResolvedColumn}

include inTime

theorem getElem?_columnWords {column : Nat} {resolved : ResolvedColumn}
    (known : columns[column]? = some resolved) :
    (columnWords setting.schema columns)[column]? =
      some (setting.word column resolved.found) := by
  rw [← setting.words_blocks inTime.words, words_blocksFrom]
  simp [known]

/-- The parts of a plan are those of the matches. -/
theorem own_parts (columns : List ResolvedColumn) :
    ((setting.blocksFrom 0 none columns).flatMap Block.parts).map Part.own =
      (placed columns).map fun item =>
        (item.row setting.schema (columnWords setting.schema columns), item.found) := by
  have listed : ∀ (index : Nat) (resolved : ResolvedColumn), columns[index]? = some resolved →
      (columnWords setting.schema columns)[0 + index]? =
        some (setting.word (0 + index) resolved.found) := by
    intro index resolved known
    rw [Nat.zero_add]
    exact getElem?_columnWords inTime known
  rw [own_blocksFrom listed, placed, List.map_flatMap]
  simp only [List.map_map]
  rfl

/-- The turn stands for the phrases and spans of its layer and no others. -/
theorem isInterval_eq {item : Placed} (member : item ∈ placed columns) :
    item.isInterval setting.schema =
      ((item.found.scope == .phrase || item.found.scope == .span) &&
        item.row setting.schema (columnWords setting.schema columns) != .turn) := by
  unfold Placed.isInterval
  cases interval : item.found.scope == .phrase || item.found.scope == .span with
  | false => rfl
  | true =>
      obtain ⟨resolved, within, inside⟩ := mem_placed.1 member
      have noWord : (setting.word item.column resolved.found).row ≠
          .found item.column item.place := by
        rcases setting.word_cases item.column resolved.found with
          row | ⟨place, other, row, known, isWord⟩
        · simp [row]
        · rw [row]
          rintro ⟨⟩
          obtain rfl : other = item.found := Option.some.inj (known.symm.trans inside)
          simp [isWord] at interval
      rw [Placed.row, getElem?_columnWords inTime within, Option.map_some,
        if_neg (by simpa using noWord)]
      cases setting.schema.plays .turn item.found.layer.id <;> simp

theorem defining?_parts (columns : List ResolvedColumn) :
    (Part.defining? ((setting.blocksFrom 0 none columns).flatMap Block.parts)).map Part.own =
      (Placed.defining? setting.schema (placed columns)).map fun item =>
        (item.row setting.schema (columnWords setting.schema columns), item.found) := by
  have same := own_parts inTime columns
  have turned := congrArg List.reverse same
  rw [← List.map_reverse, ← List.map_reverse] at turned
  unfold Part.defining? Placed.defining?
  rw [Option.map_or, Option.map_or, Option.map_or, Option.map_or]
  refine congrArg₂ _ ?_ (congrArg₂ _ ?_ ?_)
  · exact Part.map_find? same (fun own => own.2.scope == .segment) (fun _ => rfl) fun _ _ => rfl
  · exact Part.map_find? turned (fun own => own.2.scope == .word) (fun _ => rfl) fun _ _ => rfl
  · exact Part.map_find? turned
      (fun own => (own.2.scope == .phrase || own.2.scope == .span) && own.1 != .turn)
      (fun _ => rfl) fun item member => isInterval_eq inTime (List.mem_reverse.1 member)

theorem marked?_parts (columns : List ResolvedColumn) :
    (Part.marked? ((setting.blocksFrom 0 none columns).flatMap Block.parts)).map Part.own =
      (Placed.marked? (placed columns)).map fun item =>
        (item.row setting.schema (columnWords setting.schema columns), item.found) :=
  Part.map_find? (own_parts inTime columns) (fun own => own.2.wanted.target) (fun _ => rfl)
    fun _ _ => rfl

omit inTime in
/-- The first choice, or else another row. -/
theorem chosen_row {part? : Option Part} {item? : Option Placed}
    (same : part?.map Part.own = item?.map fun item =>
      (item.row setting.schema (columnWords setting.schema columns), item.found))
    (otherwise : WordRow) :
    (item?.map fun item =>
        (⟨item.row setting.schema (columnWords setting.schema columns), item.found.layer⟩ :
          WordRow)).or (some otherwise) =
      some ((part?.map fun part => (⟨part.row, part.found.layer⟩ : WordRow)).getD otherwise) := by
  cases part? with
  | none =>
      obtain rfl := Option.map_eq_none_iff.1 same.symm
      rfl
  | some part =>
      obtain ⟨item, rfl, known⟩ := Option.map_eq_some_iff.1 same.symm
      obtain ⟨row, found⟩ := Prod.mk.inj known
      simp [row, found]

/-- A plan by turns records what is chosen among the matches. -/
theorem reported_plan (asked : columns ≠ []) :
    Reported setting.schema columns (setting.plan columns).result := by
  have words := setting.words_blocks inTime.words columns
  obtain ⟨last, isLast⟩ : ∃ last, (columnWords setting.schema columns).getLast? = some last := by
    obtain ⟨resolved, rest, rfl⟩ := List.exists_cons_of_ne_nil asked
    have first := @getElem?_columnWords setting inTime (resolved :: rest) 0 resolved rfl
    exact ⟨_, List.getLast?_eq_some_getLast (List.ne_nil_of_mem (List.mem_of_getElem? first))⟩
  have defining := chosen_row (defining?_parts inTime columns) last
  rw [← isLast] at defining
  have target := chosen_row (marked?_parts inTime columns)
    (((Part.defining? ((setting.blocksFrom 0 none columns).flatMap Block.parts)).map
      fun part => (⟨part.row, part.found.layer⟩ : WordRow)).getD last)
  rw [← defining] at target
  refine ⟨?_, ?_, ?_⟩
  · rw [definingRow?, defining]
    simp [plan, result, words, isLast]
  · rw [targetRow?, definingRow?, target]
    simp [plan, result, words, isLast]
  · have segments := @Part.map_find? _ _ _ (own_parts inTime columns) Part.isSegment
      Placed.isSegment (fun own => own.2.scope == .segment) (fun _ => rfl) fun _ _ => rfl
    have absent : (setting.plan columns).result.segment = none ↔
        (placed columns).find? Placed.isSegment = none := by
      change Option.map Part.row _ = none ↔ _
      rw [Option.map_eq_none_iff, ← Option.map_eq_none_iff (f := Part.own), segments,
        Option.map_eq_none_iff]
    rw [absent, List.find?_eq_none]
    simp only [Placed.isSegment, beq_iff_eq]
    constructor
    · intro none column within found member
      obtain ⟨index, known⟩ := List.getElem?_of_mem within
      obtain ⟨place, at_⟩ := List.getElem?_of_mem member
      exact none ⟨index, place, found⟩ (mem_placed.2 ⟨column, known, at_⟩)
    · intro none item member
      obtain ⟨column, known, at_⟩ := mem_placed.1 member
      exact none column (List.mem_of_getElem? known) item.found (List.mem_of_getElem? at_)

end Setting

/-! ### All plans -/

theorem ResolvedColumn.scope_of_span? {linked : String → Bool} {columns : List ResolvedColumn}
    {found : ResolvedMatch} (span : span? linked columns = some found) : found.scope = .span := by
  unfold span? at span
  split at span
  · split at span
    · rename_i accepted
      cases span
      simp only [Bool.and_eq_true, beq_iff_eq] at accepted
      exact accepted.1.1
    · contradiction
  · contradiction

namespace SpanScan

variable {linked : String → Bool} {columns : List ResolvedColumn} {found : ResolvedMatch}
  (span : ResolvedColumn.span? linked columns = some found) (confidence : Option Int64)

include span

theorem segment_plan : (plan confidence found).result.segment = none ↔
    ∀ column ∈ columns, ∀ found ∈ column.found, found.scope ≠ .segment := by
  obtain ⟨adjacency, rfl⟩ := ResolvedColumn.eq_of_span? span
  simp [plan, ResolvedColumn.scope_of_span? span]

/-- The scan of a layer that is none of turns finds what it is after. -/
theorem reported_plan {schema : Schema} (other : ¬schema.plays .turn found.layer.id) :
    Reported schema columns (plan confidence found).result := by
  have isSpan := ResolvedColumn.scope_of_span? span
  have segment := segment_plan span confidence
  obtain ⟨adjacency, rfl⟩ := ResolvedColumn.eq_of_span? span
  have listed : placed [⟨[found], adjacency⟩] = [⟨0, 0, found⟩] := rfl
  have stands (words : List WordRow) : Placed.row schema words ⟨0, 0, found⟩ = row := by
    simp [Placed.row, other, row]
  have defining : definingRow? schema [⟨[found], adjacency⟩] = some ⟨row, found.layer⟩ := by
    simp [definingRow?, listed, Placed.defining?, Placed.isSegment, Placed.isWord,
      Placed.isInterval, isSpan, other, stands]
  refine ⟨by rw [defining]; rfl, ?_, segment⟩
  rw [targetRow?, defining, listed]
  cases marked : found.wanted.target <;> simp [Placed.marked?, marked, stands, plan]

end SpanScan

/-- Unless turns are scanned, a plan records what is chosen among the matches. -/
theorem reported_planOf {schema : Schema} {linked : String → Bool} {confidence : Option Int64}
    {matrix : Matrix} {columns : List ResolvedColumn} {plan : Plan}
    (resolved : matrix.resolve schema = .ok columns)
    (planned : planOf schema linked confidence columns
      (ResolvedColumn.strategy schema linked columns) = .ok plan)
    (other : ∀ found, ResolvedColumn.strategy schema linked columns = .spanScan found →
      ¬schema.plays .turn found.layer.id) :
    Reported schema columns plan.result := by
  have asked := Matrix.columns_ne_nil_of_resolve resolved
  rcases planOf_inTime planned with ⟨found, chosen, rfl⟩ |
    ⟨setting, inTime, rfl, -, -, ⟨chain, chosen, rfl⟩ | ⟨-, rfl⟩⟩
  · exact SpanScan.reported_plan (ResolvedColumn.span?_of_strategy chosen) _ (other found chosen)
  · have isChain := ResolvedColumn.chain?_of_strategy chosen
    obtain ⟨rfl, -, -⟩ := ResolvedColumn.chain?_spec isChain
    have sameLayer : ∀ link ∈ chain.links, link.found.layer = chain.layer := fun _ =>
      layer_eq_of_chain? resolved isChain
    have words : ∀ link ∈ chain.links, link.found.scope = .word := fun _ =>
      scope_eq_of_chain? resolved isChain
    obtain ⟨defining, target, segment⟩ := Setting.reported_plan inTime asked
    rw [Setting.result_plan_links words sameLayer] at defining target segment
    exact ⟨defining, target, segment⟩
  · exact Setting.reported_plan inTime asked

/-! ### Statements -/

/-- The statement records the annotation of this row, which it reads from the table of its
layer, with its uid. -/
structure RecordsTarget (schema : Schema) (statement : Select) (target : WordRow) : Prop where
  number : statement.columns[7]? = some [target.row.id.piece]
  uid : statement.columns[12]? =
    some (uidFrom (Storage.temporalStem target.layer.scope target.layer.table)
      [target.row.id.piece])
  known : target.layer.InSchema schema
  source : (layerTable target.layer.table, target.row.name) ∈ statement.sources
  once : statement.rows.count target.row.name = 1
  reads : ∀ number : Int64, 0 ≤ number → ∃ uid,
    Uid.read? (Storage.temporalStem target.layer.scope target.layer.table ++
      Number.text number) = some uid ∧
    uid.belongsTo (.temporal target.layer.scope target.layer.table) ∧ uid.number = number

theorem Plan.recordsTarget {schema : Schema} {matrix : Matrix} {columns : List ResolvedColumn}
    {plan : Plan} (resolved : matrix.resolve schema = .ok columns)
    (backed : plan.IsBacked schema columns) (inScope : plan.InScope) (options : Options) :
    RecordsTarget schema (plan.restricted options)
      ⟨plan.result.target, plan.result.targetLayer⟩ := by
  have among : plan.result.target ∈ plan.rows := by
    have known := (List.append_subset.1 inScope.inScope.rowsKnown).1
      (show plan.result.target ∈ plan.result.rows by simp [Result.rows])
    exact (List.perm_append_singleton _ _).mem_iff.1 known
  refine ⟨rfl, rfl, inSchema_of_layer? resolved backed.target,
    mem_sources backed options among backed.target, inScope.count_name options among,
    fun number nonneg => ?_⟩
  refine ⟨.temporal plan.result.targetLayer.scope plan.result.targetLayer.table number,
    (Uid.read?_temporal ..).trans (if_pos nonneg), ?_, rfl⟩
  simp [Uid.belongsTo]

/-- A search records one annotation as its target, by its number and its uid, and reads it from
the table of its layer.  It is the one that is marked, or else the defining one, unless a scan
goes through the turns themselves: a scan reports the only match it has.  The segment is null
exactly if no match is on a layer of segments. -/
theorem target_recorded {schema : Schema} {linked : String → Bool} {options : Options}
    {matrix : Matrix} {statement : Select}
    (selected : matrix.select schema linked options = .ok statement) :
    ∃ columns target, matrix.resolve schema = .ok columns ∧
      RecordsTarget schema statement target ∧
      ((∀ found, ResolvedColumn.strategy schema linked columns = .spanScan found →
          ¬schema.plays .turn found.layer.id) →
        targetRow? schema columns = some target ∧
          (definingRow? schema columns).map (fun word => [word.row.id.piece]) =
            statement.columns[5]?) ∧
      (∀ found, ResolvedColumn.strategy schema linked columns = .spanScan found →
        target = ⟨SpanScan.row, found.layer⟩ ∧
          statement.columns[5]? = some [SpanScan.row.id.piece]) ∧
      (statement.columns[6]? = some [.words "NULL"] ↔
        ∀ column ∈ columns, ∀ found ∈ column.found, found.scope ≠ .segment) := by
  obtain ⟨columns, plan, resolved, planned, rfl⟩ := Matrix.plan_of_select selected
  have backed := isBacked_planOf resolved planned
  have inScope := inScope_planOf (Matrix.columns_ne_nil_of_resolve resolved) planned
  have isNull : (plan.restricted options).columns[6]? = some [.words "NULL"] ↔
      plan.result.segment = none := by
    change some (Result.orNull (plan.result.segment.map Alias.id)) = _ ↔ _
    cases plan.result.segment <;> simp [Result.orNull, Cell.piece]
  refine ⟨columns, _, resolved, Plan.recordsTarget resolved backed inScope options, ?_, ?_, ?_⟩
  · intro other
    have reported := reported_planOf resolved planned other
    refine ⟨reported.target, ?_⟩
    have row := congrArg (Option.map fun row : Alias => [row.id.piece]) reported.defining
    rw [Option.map_map] at row
    exact row
  · intro found chosen
    rw [chosen] at planned
    cases planned
    exact ⟨rfl, rfl⟩
  · rw [isNull]
    -- A scan is of spans only, and so it has no segment either way.
    by_cases scan : ∃ found, ResolvedColumn.strategy schema linked columns = .spanScan found
    · obtain ⟨found, chosen⟩ := scan
      have isSpan := ResolvedColumn.span?_of_strategy chosen
      rw [chosen] at planned
      cases planned
      exact SpanScan.segment_plan isSpan _
    · exact (reported_planOf resolved planned fun found chosen =>
        absurd ⟨found, chosen⟩ scan).segment

/-- The clause of the second word is what the search is after. -/
theorem aroundWords_target_recorded : ∃ statement target,
    AroundWords.matrix.select AroundWords.schema AroundWords.linked AroundWords.options =
      .ok statement ∧
    RecordsTarget AroundWords.schema statement target ∧ target.row = .found 1 1 := by
  obtain ⟨columns, target, resolved, recorded, chosen, -, -⟩ := @target_recorded
    AroundWords.schema AroundWords.linked AroundWords.options AroundWords.matrix _ rfl
  obtain rfl := Except.ok.inj (show Except.ok _ = Except.ok columns from resolved)
  refine ⟨_, target, rfl, recorded, ?_⟩
  have noScan := chosen fun found scan => by cases show Strategy.general = .spanScan found from scan
  exact Option.some.inj ((congrArg (Option.map WordRow.row) noScan.1).symm.trans rfl)

/-! ### Scans of turns -/

namespace FreeTurns

/-- Turns are stored as spans are. -/
def schema : Schema :=
  .ofEntries
    [⟨{ Layer.ofId "turn" with
          tableId := some 11, alignment := .interval, scope := some .span }, .temporal .span 11⟩,
      ⟨{ Layer.ofId "word" with
          parentId := some "turn", tableId := some 0, alignment := .interval },
        .temporal .word 0⟩]
    { turn := some "turn", word := some "word" }

def matrix : Matrix :=
  ⟨[⟨[{ id := "turn" }], 1⟩]⟩

end FreeTurns

/-- Where turns are scanned, a turn is reported although no match but one of turns is there. -/
theorem scanned_turn_no_word : ∃ statement columns,
    FreeTurns.matrix.select FreeTurns.schema (fun _ => false) {} = .ok statement ∧
    FreeTurns.matrix.resolve FreeTurns.schema = .ok columns ∧
    (targetRow? FreeTurns.schema columns).map WordRow.row = some (.word 0) ∧
    IsTarget statement (.found 0 0) ∧ ¬IsTarget statement (.word 0) := by
  refine ⟨_, _, rfl, rfl, rfl, isTarget_restricted.2 rfl, fun isTarget => ?_⟩
  cases isTarget_restricted.1 isTarget

end CorpusQuery.Search
