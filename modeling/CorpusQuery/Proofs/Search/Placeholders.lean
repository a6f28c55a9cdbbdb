import CorpusQuery.Proofs.Filter.Operands
import CorpusQuery.Proofs.Search.Columns

namespace CorpusQuery.Search

/-! Each value that a search binds stands in the place of its own placeholder, in
the order in which sources and conditions are written. -/

open Sql

/-! ### Rows and what ties them together -/

/-- No character of a word stands for a value or begins a literal. -/
theorem isSilent_of_isBare {text : String} (bare : IsBare text) : IsSilent text := by
  intro c member
  have word := bare c member
  simp only [isSilent, isMark, Bool.and_eq_true, bne_iff_ne, Bool.not_eq_true',
    Bool.or_eq_false_iff, beq_eq_false_iff_ne]
  refine ⟨?_, ?_, ?_⟩ <;> rintro rfl <;> exact absurd word (by decide)

@[simp] theorem Alias.isSilent_name (row : Alias) : IsSilent row.name :=
  isSilent_of_isBare row.isWord_name.bare

@[simp] theorem Cell.isAligned_piece {cell : Cell} (plain : cell.IsPlain) :
    cell.piece.IsAligned :=
  Piece.isAligned_column cell.row.isSilent_name (isSilent_of_isBare plain.bare)

theorem Tie.isAligned_fragment {tie : Tie} (plain : tie.IsPlain) : tie.fragment.IsAligned := by
  cases tie with
  | compare ordering left right =>
      cases ordering <;> simp +decide [fragment, Ordering.symbol, plain.1, plain.2]
  | following left right => simp +decide [fragment, plain.1, plain.2]
  | preceding left right => simp +decide [fragment, plain.1, plain.2]
  | within distance left right => simp +decide [fragment, plain.1, plain.2]
  | trusted anchor threshold => simp +decide [fragment]

theorem Source.isAligned_join {source : Source} (plain : source.IsPlain) :
    source.join.IsAligned where
  source := by
    cases table : source.table <;> simp +decide [Source.join, table, Table.name]
  row := by simp [Source.join]
  on := List.forall_mem_map.2 fun tie member => Tie.isAligned_fragment (plain tie member)

/-! ### Conditions and results -/

namespace Condition

theorem isAligned_numericLabel (row : Alias) : (numericLabel row).IsAligned := by
  simp +decide [numericLabel]

theorem isAligned_bounds (row : Alias) (wanted : LayerMatch) :
    ∀ bound ∈ bounds row wanted, bound.IsAligned := by
  cases least : wanted.min <;> cases most : wanted.max <;>
    simp +decide [bounds, least, most, isAligned_numericLabel]

theorem isAligned_labelFragment (row : Alias) (wanted : LayerMatch) :
    (labelFragment row wanted).IsAligned := by
  unfold labelFragment
  split
  · cases wanted.negated <;> simp +decide
  · have range := Fragment.isAligned_conjunction.2 (isAligned_bounds row wanted)
    cases wanted.negated <;> simp +decide [range]

theorem isAligned_noOtherWord (words : TimedLayer) {ties : List Tie}
    (plain : ∀ tie ∈ ties, tie.IsPlain) : (noOtherWord words ties).fragment.IsAligned := by
  refine Fragment.isAligned_cons.2 ⟨by decide, isAligned_existing ?_⟩
  exact Select.isAligned_rows (by decide) (by simp) (by simp +decide)
    (List.forall_mem_map.2 fun tie member => Tie.isAligned_fragment (plain tie member))

theorem isAligned_fragment {condition : Condition} (plain : condition.IsPlain) :
    condition.fragment.IsAligned := by
  cases condition with
  | label row wanted => exact isAligned_labelFragment row wanted
  | first word => simp +decide [fragment]
  | absent row => simp +decide [fragment]
  | absentOr row tie => simp +decide [fragment, Tie.isAligned_fragment plain]
  | noOtherWord words ties => exact isAligned_noOtherWord words plain

end Condition

/-! ### Statements -/

theorem Result.isAligned_columns {result : Result} (plain : result.IsPlain) (searchId : Int64) :
    ∀ column ∈ result.columns searchId, column.IsAligned := by
  obtain ⟨graph, start, stop, placing⟩ := plain
  have orNull (cell : Option Cell) (known : ∀ found ∈ cell, Cell.IsPlain found) :
      (orNull cell).IsAligned := by
    cases cell with
    | none => decide
    | some found => simp [Result.orNull, known found rfl]
  simp only [columns, List.forall_mem_cons]
  refine ⟨by simp, by simp [graph], ?_, by simp [start], by simp [stop], by simp,
    orNull _ (by simp), by simp, orNull _ ?_, orNull _ ?_, orNull _ ?_, by decide,
    isAligned_uidFrom _ (by simp), by simp⟩
  · cases known : result.placing <;> simp +decide [speaker?, known]
  all_goals
    intro cell member
    obtain ⟨place, known, rfl⟩ := Option.map_eq_some_iff.1 member
    simp [placing place known]

theorem isSilent_resultTable : IsSilent resultTable :=
  isSilent_append.2
    ⟨isSilent_append.2 ⟨by decide, isSilent_intercalate (by decide) (by decide)⟩, by decide⟩

theorem Plan.isAligned_select {plan : Plan} (plain : plan.IsPlain) (searchId : Int64) :
    (plan.select searchId).IsAligned where
  into := by simp [Plan.select, isSilent_resultTable]
  columns := Result.isAligned_columns plain.result searchId
  source := by simp [Plan.select]
  joins := List.forall_mem_map.2 fun source member =>
    Source.isAligned_join (plain.joins source member)
  conditions := List.forall_mem_map.2 fun condition member =>
    Condition.isAligned_fragment (plain.conditions condition member)
  order := List.forall_mem_map.2 fun cell member => by simp [plain.order cell member]
  limit := by simp [Plan.select]

/-- All fragments of the caller's have closed quotes and a placeholder for each value. -/
structure Options.IsAligned (options : Options) : Prop where
  transcripts : ∀ filter ∈ options.transcripts, Fragment.IsAligned filter
  participants : ∀ filter ∈ options.participants, Fragment.IsAligned filter
  access : ∀ access ∈ options.access, Access.IsAligned access

namespace Options

variable {options : Options} (given : options.IsAligned) {graph : Fragment}
  (graphAligned : graph.IsAligned) {speaker : Option Fragment}
  (speakerAligned : ∀ fragment ∈ speaker, Fragment.IsAligned fragment)

include graphAligned speakerAligned

theorem isAligned_participantCondition {filter : Fragment} (aligned : filter.IsAligned) :
    (participantCondition graph speaker filter).IsAligned := by
  cases speaker with
  | none => simp +decide [participantCondition, graphAligned, aligned]
  | some fragment => simp +decide [participantCondition, speakerAligned fragment rfl, aligned]

theorem isAligned_joins : ∀ join ∈ options.joins graph speaker, join.IsAligned := by
  unfold joins
  split
  · cases speaker with
    | none => simp +decide [mainParticipantJoin, graphAligned]
    | some fragment =>
        simp +decide [mainParticipantJoin, graphAligned, speakerAligned fragment rfl]
  · simp

include given

theorem isAligned_conditions :
    ∀ condition ∈ options.conditions graph speaker, condition.IsAligned := by
  have transcripts : ∀ filter ∈ options.transcripts,
      (transcriptCondition graph filter).IsAligned := fun filter known => by
    simp +decide [transcriptCondition, graphAligned, given.transcripts filter known]
  have participants : ∀ filter ∈ options.participants,
      (participantCondition graph speaker filter).IsAligned := fun filter known =>
    isAligned_participantCondition graphAligned speakerAligned (given.participants filter known)
  have access : ∀ access ∈ options.access, (Access.restriction access graph).IsAligned :=
    fun access known => Access.isAligned_restriction (given.access access known) graphAligned
  refine List.forall_mem_append.2 ⟨List.forall_mem_append.2 ⟨List.forall_mem_append.2
    ⟨by simpa using transcripts, by simpa using participants⟩, ?_⟩, by simpa using access⟩
  split <;> simp +decide

theorem isAligned_restrict {select : Select} (aligned : select.IsAligned) :
    (options.restrict graph speaker select).IsAligned :=
  { aligned with
    joins := List.forall_mem_append.2
      ⟨aligned.joins, isAligned_joins graphAligned speakerAligned⟩
    conditions := List.forall_mem_append.2
      ⟨aligned.conditions, isAligned_conditions given graphAligned speakerAligned⟩ }

end Options

/-- All values of a search's statement keep to their placeholders. -/
theorem Matrix.isAligned_select {schema : Schema} {linked : String → Bool} {options : Options}
    {matrix : Matrix} {statement : Select}
    (selected : matrix.select schema linked options = .ok statement) (given : options.IsAligned) :
    statement.IsAligned := by
  obtain ⟨columns, plan, -, planned, rfl⟩ := plan_of_select selected
  have plain := isPlain_planOf planned
  refine Options.isAligned_restrict given (by simp [plain.result.graph]) ?_
    (Plan.isAligned_select plain options.searchId)
  intro speaker known
  obtain ⟨place, -, rfl⟩ := Option.map_eq_some_iff.1 known
  exact isAligned_turnSpeaker

end CorpusQuery.Search
