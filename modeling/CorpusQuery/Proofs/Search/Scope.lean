import CorpusQuery.Proofs.Access
import CorpusQuery.Proofs.Search.Names
import CorpusQuery.Proofs.Search.PlanScope
import CorpusQuery.Proofs.Sql.Scope

namespace CorpusQuery

/-! The statement of a search gives each of its rows a name of its own, ties it to
rows before it, and refers to no other rows. -/

open Sql

namespace Search

/-! ### Conditions -/

theorem Cell.within_piece {cell : Cell} {scope : List String} (known : cell.row.name ∈ scope) :
    Fragment.Within scope [cell.piece] :=
  .column known _ Fragment.within_nil

theorem Tie.within_fragment {tie : Tie} {scope : List String}
    (known : tie.rows.map Alias.name ⊆ scope) : tie.fragment.Within scope :=
  ⟨_, tie.scopes_fragment, known⟩

namespace Condition

variable {scope : List String}

theorem within_labelFragment {row : Alias} (known : row.name ∈ scope) (wanted : LayerMatch) :
    (labelFragment row wanted).Within scope := by
  have label : Fragment.Within scope [row.label.piece] := Cell.within_piece known
  have number : (numericLabel row).Within scope :=
    .words (by decide) (Fragment.Within.parenthesized
      (label.append (.words (by decide) Fragment.within_nil)))
  have bounds : ∀ bound ∈ bounds row wanted, bound.Within scope := by
    have bound (operator : String) (plain : IsUnqualified operator) (value : Param) :
        Fragment.Within scope (numericLabel row ++ [.words operator, .bound value]) :=
      number.append (.words plain (.bound value Fragment.within_nil))
    unfold Condition.bounds
    cases wanted.min <;> cases wanted.max <;> simp +decide [bound]
  unfold labelFragment
  split
  · refine label.append (.words ?_ (.bound _ Fragment.within_nil))
    split <;> decide
  · have range := Fragment.Within.conjunction bounds
    simp only
    split
    · exact .not range.parenthesized
    · exact range

theorem within_noOtherWord (words : TimedLayer) {ties : List Tie}
    (known : (noOtherWord words ties).rows.map Alias.name ⊆ scope) :
    (noOtherWord words ties).fragment.Within scope := by
  let others : Select :=
    { columns := [[.words "*"]]
      source := relation (layerTable words.table) Alias.otherWord.name
      joins :=
        [.inner [.words Table.anchors.name] Alias.otherStart.name
          [(Tie.equal ⟨.otherStart, "anchor_id"⟩ (Alias.otherWord.anchorId .start)).fragment]]
      conditions := ties.map Tie.fragment }
  have source (scope : List String) : others.source.Uses [Alias.otherWord.name] scope :=
    Fragment.uses_relation scope (by decide) (isUnqualified_layerTable words.table)
  have rows : others.rows = [Alias.otherWord.name, Alias.otherStart.name] := by
    simp [others, Select.rows, (source []).introduced_eq]
  have tied : ∀ tie ∈ ties, tie.fragment.Within (others.rows ++ scope) := by
    intro tie member
    refine Tie.within_fragment fun name inside => ?_
    obtain ⟨row, mentioned, rfl⟩ := List.mem_map.1 inside
    by_cases inner : row = .otherWord ∨ row = .otherStart
    · rcases inner with rfl | rfl <;> simp [rows]
    · refine List.mem_append_right _ (known (List.mem_map_of_mem ?_))
      rw [not_or] at inner
      exact List.mem_filter.2 ⟨List.mem_flatMap.2 ⟨tie, member, mentioned⟩, by simp [inner]⟩
  have closed : others.IsClosed scope := by
    constructor
    · rfl
    · exact List.forall_mem_singleton.2 (.words (by decide) Fragment.within_nil)
    · rw [(source []).introduced_eq]
      exact source _
    · refine List.forall_mem_singleton.2 ?_
      rw [Join.row_inner]
      refine Join.uses_inner (by decide) (.inr (.words (by decide) Fragment.within_nil)) ?_
      exact List.forall_mem_singleton.2 (Tie.within_fragment (by simp [rows]))
    · exact List.forall_mem_map.2 tied
    · exact List.forall_mem_nil _
    · rfl
  exact .not closed.existing

theorem within_fragment (condition : Condition) (known : condition.rows.map Alias.name ⊆ scope) :
    condition.fragment.Within scope := by
  cases condition with
  | label row wanted => exact within_labelFragment (known (by simp [rows])) wanted
  | first word => exact .column (known (by simp [rows])) _ (.words (by decide) Fragment.within_nil)
  | absent row => exact .column (known (by simp [rows])) _ (.words (by decide) Fragment.within_nil)
  | absentOr row tie =>
      have absent : Fragment.Within scope [row.id.piece, .words " IS NULL"] :=
        .column (known (by simp [rows])) _ (.words (by decide) Fragment.within_nil)
      have tied : tie.fragment.Within scope :=
        Tie.within_fragment fun name member => known (List.mem_cons_of_mem _ member)
      exact (Fragment.Within.disjunction (by simp [absent, tied])).parenthesized
  | noOtherWord words ties => exact within_noOtherWord words known

end Condition

/-! ### Results and joins -/

namespace Result

variable {result : Result} {scope : List String} (known : result.rows.map Alias.name ⊆ scope)

include known

theorem within_speaker : ∀ speaker ∈ result.speaker?, Fragment.Within scope speaker := by
  intro speaker member
  obtain ⟨placing, placed, rfl⟩ := Option.map_eq_some_iff.1 member
  have turn : "turn" ∈ scope := known (List.mem_map.2 ⟨.turn, by simp [rows, placed], rfl⟩)
  exact .words (by decide)
    (Fragment.Within.parenthesized (.column turn _ (.words (by decide) Fragment.within_nil)))

theorem within_columns (searchId : Int64) :
    ∀ column ∈ result.columns searchId, column.Within scope := by
  have cell {cell : Cell} (member : cell.row ∈ result.rows) : Fragment.Within scope [cell.piece] :=
    Cell.within_piece (known (List.mem_map_of_mem member))
  have null : Fragment.Within scope [.words "NULL"] := .words (by decide) Fragment.within_nil
  have orNull (cell? : Option Cell) (members : ∀ cell ∈ cell?, cell.row ∈ result.rows) :
      (orNull cell?).Within scope := by
    cases cell? with
    | none => exact null
    | some found => exact cell (members found rfl)
  have placed (of : Placing → Cell)
      (recorded : ∀ placing ∈ result.placing, (of placing).row ∈ result.rows) :
      (Result.orNull (result.placing.map of)).Within scope := by
    refine orNull _ fun cell member => ?_
    obtain ⟨placing, known, rfl⟩ := Option.map_eq_some_iff.1 member
    exact recorded placing known
  have speaker : (result.speaker?.getD [.words "NULL"]).Within scope := by
    cases spoken : result.speaker? with
    | none => exact null
    | some fragment => exact within_speaker known fragment spoken
  have target : result.target ∈ result.rows := by simp [rows]
  have uid : (uidFrom (Storage.temporalStem result.targetLayer.scope result.targetLayer.table)
      [result.target.id.piece]).Within scope :=
    .words (by decide) (Fragment.Within.parenthesized
      (.marker _ (.words (by decide) (cell target))))
  simp only [columns, List.forall_mem_cons]
  refine ⟨.bound _ Fragment.within_nil, cell (by simp [rows]), speaker, cell (by simp [rows]),
    cell (by simp [rows]), cell (by simp [rows]), orNull _ ?_, cell target, placed _ ?_,
    placed _ ?_, placed _ ?_, .words (by decide) Fragment.within_nil, uid, by simp⟩
  · rintro _ member
    obtain ⟨segment, known, rfl⟩ := Option.map_eq_some_iff.1 member
    simp [rows, known]
  all_goals
    intro placing known
    simp [rows, Option.mem_def.1 known]

end Result

namespace Source

theorem introduced_join (source : Source) : source.join.render.introduced = [source.row.name] := by
  have plain : IsUnqualified source.table.name := by
    cases source.table with
    | layer number => exact isUnqualified_layerTable number
    | anchors => decide
  have on : ∀ condition ∈ source.join.on,
      condition.Within (source.mentioned.map Alias.name) := by
    intro condition member
    obtain ⟨tie, inTies, rfl⟩ := List.mem_map.1 member
    exact Tie.within_fragment
      (List.map_subset _ fun row inside => List.mem_flatMap.2 ⟨tie, inTies, inside⟩)
  exact (Join.uses_render source.row.name_ne_empty
    (.inr (.words plain Fragment.within_nil)) on).introduced_eq

theorem IsTied.join {known : List Alias} {source : Source} (tied : source.IsTied known) :
    source.join.IsTied (known.map Alias.name) := by
  have mentioned : source.join.on.flatMap Fragment.free = source.mentioned.map Alias.name := by
    simp only [Source.join, Source.mentioned, List.flatMap_map, List.map_flatMap, Tie.free_fragment]
  obtain ⟨own, ⟨row, isKnown, inTies⟩, only⟩ := tied
  constructor
  · intro none
    rw [none, List.flatMap_nil] at mentioned
    exact List.ne_nil_of_mem (List.mem_map_of_mem own) mentioned.symm
  · rw [mentioned]
    exact List.mem_map_of_mem own
  · rw [mentioned]
    exact ⟨_, List.mem_map_of_mem isKnown, List.mem_map_of_mem inTies⟩
  · rw [mentioned]
    rintro name member
    obtain ⟨row, inside, rfl⟩ := List.mem_map.1 member
    exact (only row inside).imp (congrArg Alias.name) List.mem_map_of_mem

/-- All joins are tied to the first row or to those of joins before them. -/
theorem AllTied.joins {known : List Alias} {sources : List Source}
    (tied : AllTied known sources) :
    Join.AllTied (known.map Alias.name) (sources.map Source.join) := by
  intro before join after split
  obtain ⟨earlier, others, rfl, rfl, rest⟩ := List.map_eq_append_iff.1 split
  obtain ⟨source, later, rfl, rfl, rfl⟩ := List.map_eq_cons_iff.1 rest
  have here : source.IsTied (known ++ earlier.map Source.row) :=
    (allTied_append.1 tied).2.1.mono (by simp)
  have names : (known ++ earlier.map Source.row).map Alias.name =
      known.map Alias.name ++ (earlier.map Source.join).map Join.row := by
    simp [Source.join]
  exact names ▸ here.join

end Source

/-! ### Options -/

namespace Options

/-- The caller's fragments are not looked into. -/
structure IsGiven (options : Options) : Prop where
  transcripts : ∀ filter ∈ options.transcripts, Fragment.IsGiven filter
  participants : ∀ filter ∈ options.participants, Fragment.IsGiven filter
  access : ∀ access ∈ options.access, Access.IsGiven access

/-- The same options, where all fragments of the caller's are plain texts. -/
def asGiven (options : Options) : Options :=
  { options with
    transcripts := options.transcripts.map Fragment.asGiven
    participants := options.participants.map Fragment.asGiven
    access := options.access.map Access.asGiven }

theorem isGiven_asGiven (options : Options) : options.asGiven.IsGiven := by
  have filters {filter? : Option Fragment} :
      ∀ filter ∈ filter?.map Fragment.asGiven, Fragment.IsGiven filter := by
    intro filter member
    obtain ⟨fragment, -, rfl⟩ := Option.map_eq_some_iff.1 member
    exact fragment.isGiven_asGiven
  refine ⟨filters, filters, fun access member => ?_⟩
  obtain ⟨restriction, -, rfl⟩ := Option.map_eq_some_iff.1 member
  exact restriction.isGiven_asGiven

theorem query_conditions_asGiven (options : Options) (graph : Fragment)
    (speaker : Option Fragment) :
    (options.asGiven.conditions graph speaker).map Fragment.query =
      (options.conditions graph speaker).map Fragment.query := by
  have transcripts (filter : Fragment) : (transcriptCondition graph filter.asGiven).query =
      (transcriptCondition graph filter).query := by
    simp [transcriptCondition, Fragment.query, Fragment.parenthesized]
  have participants (filter : Fragment) :
      (participantCondition graph speaker filter.asGiven).query =
        (participantCondition graph speaker filter).query := by
    cases speaker <;> simp [participantCondition, Fragment.query, Fragment.parenthesized]
  obtain ⟨_, _, _, mainOnly, _, _⟩ := options
  cases mainOnly <;>
    simp [conditions, asGiven, Option.toList_map, Function.comp_def, transcripts, participants,
      Access.query_restriction_asGiven]

variable {scope : List String} {graph : Cell} (graphKnown : graph.row.name ∈ scope)
  {speaker : Option Fragment} (speakerKnown : ∀ fragment ∈ speaker, Fragment.Within scope fragment)

include graphKnown speakerKnown

/-- The main participant is joined by the graph, and by the speaker if there is one. -/
theorem mainParticipantJoin_eq : ∃ source more,
    mainParticipantJoin [graph.piece] speaker = .inner source "main_participant"
      ([.column "main_participant" "ag_id", .words " = ", graph.piece] :: more) ∧
    source.Within ("main_participant" :: scope) ∧
    ∀ condition ∈ [.column "main_participant" "ag_id", .words " = ", graph.piece] :: more,
      Fragment.Within ("main_participant" :: scope) condition := by
  have ofGraph : Fragment.Within ("main_participant" :: scope)
      [.column "main_participant" "ag_id", .words " = ", graph.piece] :=
    .column (by simp) _ (.words (by decide) (Cell.within_piece (by simp [graphKnown])))
  cases speaker with
  | none =>
      refine ⟨_, _, rfl, ?_, List.forall_mem_singleton.2 ofGraph⟩
      exact (Fragment.Within.words (by decide)
        (.words (by decide) Fragment.within_nil)).parenthesized
  | some fragment =>
      refine ⟨_, _, rfl, .words (by decide) Fragment.within_nil,
        List.forall_mem_cons.2 ⟨ofGraph, List.forall_mem_singleton.2 ?_⟩⟩
      exact .column (by simp) _ (.words (by decide)
        ((speakerKnown fragment rfl).mono (List.subset_cons_self ..)))

theorem isTied_mainParticipantJoin : (mainParticipantJoin [graph.piece] speaker).IsTied scope := by
  obtain ⟨source, more, same, -, within⟩ := mainParticipantJoin_eq graphKnown speakerKnown
  have free : Fragment.free [.column "main_participant" "ag_id", .words " = ", graph.piece] =
      ["main_participant", graph.row.name] := by
    have scopes := (Fragment.scopes_column "main_participant" "ag_id").cons
      ((Fragment.scopes_words (by decide : IsUnqualified " = ")).cons
        (Fragment.scopes_column graph.row.name graph.column))
    exact (congrArg Level.free scopes.scope).trans (Level.free_of_mentioned _)
  rw [same, Join.inner_eq]
  refine .of_first (List.mem_filter.2 ⟨List.mem_cons_self .., ?_⟩) ?_
    ⟨graph.row.name, graphKnown, ?_⟩ ?_
  · rw [Fragment.isBlank_cons_of_visible (by decide)]
    rfl
  · simp [free]
  · simp [free]
  · exact fun condition member => within condition (List.mem_filter.1 member).1

omit graphKnown speakerKnown in
theorem rows_joins (options : Options) (graph : Fragment) (speaker : Option Fragment) :
    (options.joins graph speaker).map Join.row =
      if options.mainParticipantOnly then ["main_participant"] else [] := by
  unfold joins
  split
  · cases speaker <;> simp [mainParticipantJoin]
  · rfl

theorem introduced_joins (options : Options) :
    ∀ join ∈ options.joins [graph.piece] speaker, join.render.introduced = [join.row] := by
  unfold joins
  split
  · obtain ⟨source, more, same, known, within⟩ := mainParticipantJoin_eq graphKnown speakerKnown
    rw [same, List.forall_mem_singleton, Join.row_inner]
    exact (Join.uses_inner (by decide) (.inr known) within).introduced_eq
  · exact List.forall_mem_nil _

theorem allTied_joins (options : Options) :
    Join.AllTied scope (options.joins [graph.piece] speaker) := by
  unfold joins
  split
  · exact Join.allTied_singleton (isTied_mainParticipantJoin graphKnown speakerKnown)
  · exact Join.allTied_nil _

theorem within_conditions {options : Options} (given : options.IsGiven) :
    ∀ condition ∈ options.conditions [graph.piece] speaker,
      condition.Within (scope ++ (options.joins [graph.piece] speaker).map Join.row) := by
  have ofGraph : Fragment.Within scope [graph.piece] := Cell.within_piece graphKnown
  have among {item filter : Fragment} (itemWithin : item.Within scope) (isGiven : filter.IsGiven) :
      (item ++ .words " IN " :: filter.parenthesized).Within scope :=
    itemWithin.append (.words (by decide) isGiven.within.parenthesized)
  have participant (filter : Fragment) (isGiven : filter.IsGiven) :
      (participantCondition [graph.piece] speaker filter).Within scope := by
    cases speaker with
    | none =>
        exact ofGraph.append (.words (by decide) (Fragment.Within.parenthesized
          (.words (by decide) isGiven.within.parenthesized)))
    | some fragment => exact among (speakerKnown fragment rfl) isGiven
  have outside {condition : Fragment} (within : condition.Within scope) :
      condition.Within (scope ++ (options.joins [graph.piece] speaker).map Join.row) :=
    within.mono (List.subset_append_left ..)
  refine List.forall_mem_append.2 ⟨List.forall_mem_append.2 ⟨List.forall_mem_append.2
    ⟨List.forall_mem_map.2 ?_, List.forall_mem_map.2 ?_⟩, ?_⟩, List.forall_mem_map.2 ?_⟩
  · exact fun filter member =>
      outside (among ofGraph (given.transcripts filter (Option.mem_toList.1 member)))
  · exact fun filter member =>
      outside (participant filter (given.participants filter (Option.mem_toList.1 member)))
  · rw [rows_joins]
    split
    · exact List.forall_mem_singleton.2
        (.column (by simp) _ (.words (by decide) Fragment.within_nil))
    · exact List.forall_mem_nil _
  · exact fun access member => outside
      (access.within_restriction ofGraph (given.access access (Option.mem_toList.1 member)))

end Options

/-! ### Searches -/

namespace Plan

variable (plan : Plan) (options : Options)

/-- What the options join to the plan. -/
def restrictingJoins : List Join :=
  options.joins [plan.result.graph.piece] plan.result.speaker?

theorem introduced_source : (plan.restricted options).source.introduced = [plan.row.name] :=
  (Fragment.uses_relation [] plan.row.name_ne_empty
    (isUnqualified_layerTable plan.layer.table)).introduced_eq

theorem row_joins :
    (plan.joins.map Source.join).map Join.row = (plan.joins.map Source.row).map Alias.name := by
  simp [Source.join]

theorem rows_restricted : (plan.restricted options).rows =
    plan.rows.map Alias.name ++ (plan.restrictingJoins options).map Join.row := by
  rw [Select.rows, introduced_source]
  change [plan.row.name] ++
    (plan.joins.map Source.join ++ plan.restrictingJoins options).map Join.row = _
  rw [List.map_append, row_joins]
  rfl

theorem names_subset {others : List Alias}
    (subset : others ⊆ plan.joins.map Source.row ++ [plan.row]) :
    others.map Alias.name ⊆ plan.rows.map Alias.name :=
  List.map_subset _ fun row member => by
    simpa [Plan.rows, or_comm] using subset member

namespace InScope

variable {plan} (inScope : plan.InScope)

include inScope

theorem result_subset : plan.result.rows.map Alias.name ⊆ plan.rows.map Alias.name :=
  plan.names_subset (List.append_subset.1 inScope.inScope.rowsKnown).1

theorem graph_mem : plan.result.graph.row.name ∈ plan.rows.map Alias.name :=
  inScope.result_subset (List.mem_map_of_mem (by simp [Result.rows]))

theorem nodup_rows : (plan.restricted options).rows.Nodup := by
  rw [rows_restricted, restrictingJoins, Options.rows_joins]
  refine (inScope.distinct.map Alias.name_injective).append (by split <;> simp) ?_
  intro name isRow isMain
  obtain ⟨row, -, rfl⟩ := List.mem_map.1 isRow
  split at isMain
  · exact row.name_ne_mainParticipant (List.mem_singleton.1 isMain)
  · contradiction

theorem allTied_joins :
    Join.AllTied [plan.row.name] (plan.joins.map Source.join ++ plan.restrictingJoins options) := by
  refine Join.AllTied.append inScope.inScope.tied.joins ?_
  rw [row_joins]
  exact Options.allTied_joins inScope.graph_mem (Result.within_speaker inScope.result_subset)
    options

theorem within_clauses {options : Options} (given : options.IsGiven) :
    let restricted := plan.restricted options
    ∀ fragment ∈ restricted.columns ++ restricted.conditions ++ restricted.order,
      fragment.Within restricted.rows := by
  intro restricted
  have own {fragment : Fragment} (within : fragment.Within (plan.rows.map Alias.name)) :
      fragment.Within restricted.rows :=
    within.mono (rows_restricted plan options ▸ List.subset_append_left ..)
  refine List.forall_mem_append.2
    ⟨List.forall_mem_append.2 ⟨?_, List.forall_mem_append.2 ⟨?_, ?_⟩⟩, ?_⟩
  · exact fun column member =>
      own (Result.within_columns inScope.result_subset options.searchId column member)
  · exact List.forall_mem_map.2 fun condition member => own (condition.within_fragment
      (plan.names_subset (inScope.inScope.conditionsKnown condition member)))
  · rw [rows_restricted]
    exact Options.within_conditions inScope.graph_mem (Result.within_speaker inScope.result_subset)
      given
  · refine List.forall_mem_map.2 fun cell member => own (Cell.within_piece ?_)
    exact plan.names_subset (List.append_subset.1 inScope.inScope.rowsKnown).2
      (List.mem_map_of_mem (List.mem_map_of_mem member))

theorem isScoped {options : Options} (given : options.IsGiven) :
    (plan.restricted options).IsScoped where
  source := ⟨_, plan.introduced_source options⟩
  named := List.forall_mem_append.2 ⟨List.forall_mem_map.2 fun source _ => source.introduced_join,
    Options.introduced_joins inScope.graph_mem (Result.within_speaker inScope.result_subset)
      options⟩
  distinct := inScope.nodup_rows options
  tied := by
    rw [introduced_source]
    exact inScope.allTied_joins options
  clauses fragment member := (inScope.within_clauses given fragment member).free_subset

end InScope

end Plan

theorem Plan.query_restricted_asGiven (plan : Plan) (options : Options) :
    (plan.restricted options.asGiven).statement.query =
      (plan.restricted options).statement.query := by
  refine Select.render_congr Fragment.compositional_query "\n" (plan.restricted options) ?_
  rw [List.map_append, Options.query_conditions_asGiven, ← List.map_append]
  rfl

/-- The rows of a search have names of their own, each joined row is tied to rows
before it, and no clause refers to other rows, where the caller's fragments are taken
as plain texts.  No row is left out of the joins for its name but those that several
matches have in common. -/
theorem select_scoped {schema : Schema} {linked : String → Bool} {options : Options}
    {matrix : Matrix} {statement : Select}
    (selected : matrix.select schema linked options = .ok statement) :
    (∃ view, matrix.select schema linked options.asGiven = .ok view ∧
      view.statement.query = statement.statement.query ∧ view.IsScoped) ∧
      ∀ turns words columns,
        Setting.AsksOnce ⟨schema, turns, words, linked, options.minConfidence⟩ columns := by
  obtain ⟨columns, plan, resolved, planned, rfl⟩ := Matrix.plan_of_select selected
  have inScope := inScope_planOf (Matrix.columns_ne_nil_of_resolve resolved) planned
  refine ⟨⟨plan.restricted options.asGiven, ?_, plan.query_restricted_asGiven options,
    inScope.isScoped options.isGiven_asGiven⟩, fun _ _ _ => Setting.asksOnce _ _⟩
  exact Matrix.select_of_plan resolved planned

/-- The turn and the utterance of the first word have the word after it in common. -/
theorem aroundWords_scoped : ∃ statement view : Select,
    AroundWords.matrix.select AroundWords.schema AroundWords.linked AroundWords.options =
      .ok statement ∧
    view.statement.query = statement.statement.query ∧
    view.rows =
      ["turn", "search_0_0", "search_0_0_start", "search_0_0_end", "next_0", "search_0_2",
        "search_0_2_start", "search_0_2_end", "previous_0", "previous_0_start", "next_0_start",
        "search_0_3", "word_1", "word_1_start", "word_1_end", "search_1_0", "search_1_0_start",
        "search_1_0_end", "search_1_1", "search_1_1_start", "search_1_1_end",
        "main_participant"] ∧
    view.IsScoped := by
  obtain ⟨⟨view, found, same, isScoped⟩, -⟩ := @select_scoped AroundWords.schema
    AroundWords.linked AroundWords.options AroundWords.matrix _ rfl
  refine ⟨_, view, rfl, same, ?_, isScoped⟩
  obtain rfl := Except.ok.inj (show Except.ok _ = Except.ok view from found)
  decide +kernel

end Search

end CorpusQuery
