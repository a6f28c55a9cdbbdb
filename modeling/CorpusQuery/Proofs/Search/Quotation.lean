import CorpusQuery.Proofs.Filter.Quotation
import CorpusQuery.Proofs.Search.Columns

namespace CorpusQuery.Search

/-! The only literals of a search are the stem of its uids and what a restriction has in it.
All else that it writes is bound or made of words. -/

open Sql

/-! ### Rows, conditions and results -/

@[simp] theorem Cell.piece_ne_marker (cell : Cell) (text : String) : cell.piece ≠ .marker text :=
  nofun

@[simp] theorem Tie.hasNoMarker_fragment (tie : Tie) : tie.fragment.HasNoMarker := by
  cases tie <;> simp [fragment]

namespace Condition

theorem isSetOff_labelFragment (row : Alias) (wanted : LayerMatch) :
    (labelFragment row wanted).IsSetOff := by
  have number : (numericLabel row).HasNoMarker := by simp [numericLabel, apply]
  have bare : ∀ bound ∈ bounds row wanted, bound.HasNoMarker := by
    cases least : wanted.min <;> cases most : wanted.max <;> simp [bounds, least, most, number]
  have range : (Fragment.conjunction (bounds row wanted)).IsSetOff :=
    Fragment.isSetOff_join (by decide) fun bound member => (bare bound member).isSetOff
  unfold labelFragment
  split
  · exact Fragment.HasNoMarker.isSetOff (by simp)
  · simp only
    split
    · exact range.parenthesized.cons rfl
    · exact range

theorem isSetOff_noOtherWord (words : TimedLayer) (ties : List Tie) :
    (noOtherWord words ties).fragment.IsSetOff := by
  have all : ∀ column ∈ ([[.words "*"]] : List Fragment), column.IsSetOff := by decide
  refine Fragment.IsSetOff.cons (isSetOff_existing ?_) rfl
  exact
    { into := by simp
      columns := all
      source := Fragment.isSetOff_relation (layerTable words.table) Alias.otherWord.name
      joins := List.forall_mem_singleton.2 (Join.isSetOff_inner _ (Fragment.isSetOff_singleton _)
        (List.forall_mem_singleton.2 (Tie.hasNoMarker_fragment _).isSetOff))
      conditions := List.forall_mem_map.2 fun tie _ => tie.hasNoMarker_fragment.isSetOff
      order := by simp
      limit := by simp }

theorem isSetOff_fragment (condition : Condition) : condition.fragment.IsSetOff := by
  cases condition with
  | label row wanted => exact isSetOff_labelFragment row wanted
  | noOtherWord words ties => exact isSetOff_noOtherWord words ties
  | first word => exact Fragment.HasNoMarker.isSetOff (by simp [fragment])
  | absent row => exact Fragment.HasNoMarker.isSetOff (by simp [fragment])
  | absentOr row tie =>
      exact Fragment.HasNoMarker.isSetOff
        (by simp [fragment, Fragment.disjunction, Fragment.join])

end Condition

/-- The stem is set off from the number behind it by a comma. -/
theorem Result.isSetOff_columns (result : Result) (searchId : Int64) :
    ∀ column ∈ result.columns searchId, column.IsSetOff := by
  have orNull (cell : Option Cell) : (orNull cell).IsSetOff := by
    cases cell <;> exact Fragment.isSetOff_singleton _
  have speaker : (result.speaker?.getD [.words "NULL"]).IsSetOff := by
    cases known : result.placing <;> simp [Result.speaker?, known] <;> decide
  have uid (stem : String) (number : Piece) : (uidFrom stem [number]).IsSetOff :=
    isSetOff_apply _ ((Fragment.isSetOff_singleton (.marker stem)).words (by decide)
      (Fragment.isSetOff_singleton number))
  simp only [columns, List.forall_mem_cons]
  exact ⟨Fragment.isSetOff_singleton _, Fragment.isSetOff_singleton _, speaker,
    Fragment.isSetOff_singleton _, Fragment.isSetOff_singleton _, Fragment.isSetOff_singleton _,
    orNull _, Fragment.isSetOff_singleton _, orNull _, orNull _, orNull _,
    Fragment.isSetOff_singleton _, uid _ _, List.forall_mem_nil _⟩

/-! ### Statements -/

theorem Plan.isSetOff_select (plan : Plan) (searchId : Int64) :
    (plan.select searchId).IsSetOff where
  into := by rintro _ ⟨⟩; exact Fragment.isSetOff_singleton _
  columns := plan.result.isSetOff_columns searchId
  source := Fragment.isSetOff_relation (layerTable plan.layer.table) plan.row.name
  joins := List.forall_mem_map.2 fun source _ => ⟨Fragment.isSetOff_singleton _,
    List.forall_mem_map.2 fun tie _ => tie.hasNoMarker_fragment.isSetOff⟩
  conditions := List.forall_mem_map.2 fun condition _ => condition.isSetOff_fragment
  order := List.forall_mem_map.2 fun _ _ => Fragment.isSetOff_singleton _
  limit := by simp [Plan.select]

/-- All literals in the caller's fragments end before what follows them, as those of plain
texts do. -/
structure Options.IsSetOff (options : Options) : Prop where
  transcripts : ∀ filter ∈ options.transcripts, Fragment.IsSetOff filter
  participants : ∀ filter ∈ options.participants, Fragment.IsSetOff filter
  access : ∀ access ∈ options.access, Access.IsSetOff access

namespace Options

variable {options : Options} {graph : Fragment} (graphBare : graph.HasNoMarker)
  {speaker : Option Fragment} (speakerBare : ∀ fragment ∈ speaker, Fragment.HasNoMarker fragment)

include graphBare speakerBare

theorem isSetOff_joins : ∀ join ∈ options.joins graph speaker,
    join.source.IsSetOff ∧ ∀ condition ∈ join.on, condition.IsSetOff := by
  have ofRow (column : String) {fragment : Fragment} (bare : fragment.HasNoMarker) :
      Fragment.IsSetOff ([.column "main_participant" column, .words " = "] ++ fragment) :=
    Fragment.HasNoMarker.isSetOff (by simp [bare])
  unfold joins
  split
  · refine List.forall_mem_singleton.2 ?_
    cases speaker with
    | none =>
        exact Join.isSetOff_inner _ (by decide)
          (List.forall_mem_singleton.2 (ofRow _ graphBare))
    | some fragment =>
        exact Join.isSetOff_inner _ (by decide) (List.forall_mem_cons.2
          ⟨ofRow _ graphBare, List.forall_mem_singleton.2 (ofRow _ (speakerBare fragment rfl))⟩)
  · exact List.forall_mem_nil _

theorem isSetOff_conditions (given : options.IsSetOff) :
    ∀ condition ∈ options.conditions graph speaker, condition.IsSetOff := by
  have among {item : Fragment} (bare : item.HasNoMarker) {list : Fragment}
      (listed : list.IsSetOff) : Fragment.IsSetOff (item ++ .words " IN " :: list.parenthesized) :=
    bare.append (listed.parenthesized.cons rfl)
  have participant {filter : Fragment} (setOff : filter.IsSetOff) :
      (participantCondition graph speaker filter).IsSetOff := by
    cases speaker with
    | none => exact among graphBare (setOff.parenthesized.cons rfl)
    | some fragment => exact among (speakerBare fragment rfl) setOff
  refine List.forall_mem_append.2 ⟨List.forall_mem_append.2 ⟨List.forall_mem_append.2
    ⟨List.forall_mem_map.2 ?_, List.forall_mem_map.2 ?_⟩, ?_⟩, List.forall_mem_map.2 ?_⟩
  · exact fun filter member =>
      among graphBare (given.transcripts filter (Option.mem_toList.1 member))
  · exact fun filter member =>
      participant (given.participants filter (Option.mem_toList.1 member))
  · split <;> decide
  · exact fun access member =>
      Access.isSetOff_restriction graphBare (given.access access (Option.mem_toList.1 member))

end Options

theorem Matrix.isSetOff_select {schema : Schema} {linked : String → Bool} {options : Options}
    {matrix : Matrix} {statement : Select}
    (selected : matrix.select schema linked options = .ok statement) (given : options.IsSetOff) :
    statement.IsSetOff := by
  obtain ⟨columns, plan, -, -, rfl⟩ := plan_of_select selected
  have graph : Fragment.HasNoMarker [plan.result.graph.piece] := by simp
  have speaker : ∀ fragment ∈ plan.result.speaker?, Fragment.HasNoMarker fragment := by
    intro fragment known
    obtain ⟨place, -, rfl⟩ := Option.map_eq_some_iff.1 known
    decide
  have own := plan.isSetOff_select options.searchId
  exact { own with
    joins := List.forall_mem_append.2 ⟨own.joins, Options.isSetOff_joins graph speaker⟩
    conditions :=
      List.forall_mem_append.2 ⟨own.conditions, Options.isSetOff_conditions graph speaker given⟩ }

end CorpusQuery.Search
