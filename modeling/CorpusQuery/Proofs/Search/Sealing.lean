import CorpusQuery.Proofs.Filter.Sealing
import CorpusQuery.Proofs.Search.Columns

namespace CorpusQuery

/-! No condition that a search has, be it of the statement or of a join, shows an `OR`.
Of the caller's fragments, which stand in parentheses, only nesting is asked. -/

open Sql

/-! ### Words -/

namespace Sql

theorem words_of_bare {text : List Char} (bare : ∀ c ∈ text, isWordChar c) :
    words text = [text] := by
  induction text with
  | nil => rfl
  | cons c rest ih =>
      obtain ⟨first, others⟩ := List.forall_mem_cons.1 bare
      rw [words, if_pos first, ih others, List.modifyHead_cons]

theorem isOrdinary_of_isWordChar {c : Char} (word : isWordChar c) : isOrdinary c := by
  simp only [isOrdinary, isMark, Bool.and_eq_true, bne_iff_ne, Bool.not_eq_true',
    Bool.or_eq_false_iff, beq_eq_false_iff_ne]
  refine ⟨⟨?_, ?_⟩, ?_, ?_⟩ <;> rintro rfl <;> exact absurd word (by decide)

theorem IsWord.sealed {text : String} (word : IsWord text) : Sealed text.toList := by
  obtain ⟨nested, shown⟩ :=
    after_ordinary fun c member => isOrdinary_of_isWordChar (word.bare c member)
  refine ⟨nested, fun only member same => ?_⟩
  rw [shown, words_of_bare word.bare, List.mem_singleton] at member
  have long : 2 < text.toList.length := by
    rw [String.length_toList]
    exact word.long
  have short := congrArg List.length same
  rw [List.length_map, member] at short
  exact absurd short (Nat.ne_of_gt long)

theorem Fragment.isSealed_wordColumn {row name : String} (first : IsWord row)
    (second : IsWord name) : IsSealed [.column row name] := by
  have named : Sealed ('.' :: name.toList) :=
    Sealed.ordinary_append (show ∀ c ∈ ['.'], isOrdinary c by decide) (by decide) second.sealed
      (by decide)
  have whole : Sealed (row.toList ++ '.' :: name.toList) :=
    first.sealed.append named (by simp [isWordChar])
  simpa [IsSealed, Piece.sql] using whole

theorem Join.isSealed_inner {source : Fragment} {row : String} {on : List Fragment}
    (all : ∀ condition ∈ on, condition.IsSealed) :
    ∀ condition ∈ (inner source row on).on, condition.IsSealed := by
  rw [inner_eq]
  exact fun condition member => all condition (List.mem_filter.1 member).1

/-- No condition of the statement or of its joins shows an `OR`. -/
structure Select.IsSealed (select : Select) : Prop where
  joins : ∀ join ∈ select.joins, ∀ condition ∈ join.on, condition.IsSealed
  conditions : ∀ condition ∈ select.conditions, condition.IsSealed

end Sql

namespace Search

theorem Cell.IsPlain.isSealed {cell : Cell} (plain : cell.IsPlain) : Fragment.IsSealed [cell.piece] :=
  Fragment.isSealed_wordColumn cell.row.isWord_name plain

/-! ### Ties -/

namespace Tie

theorem isSealed_compare {left right : Cell} (first : left.IsPlain) (second : right.IsPlain)
    (ordering : Ordering) : (compare ordering left right).fragment.IsSealed := by
  have spaced : Fragment.Spaced (' ' :: ordering.symbol.toList ++ [' ']) := by
    cases ordering <;> decide
  have written : " " ++ ordering.symbol ++ " " =
      String.ofList (' ' :: ordering.symbol.toList ++ [' ']) := by
    simp [← String.toList_inj]
  rw [fragment, written]
  exact first.isSealed.between second.isSealed spaced

/-- The `AND` of a range is within the condition, and no connective of the statement. -/
theorem isSealed_within {left right : Cell} (first : left.IsPlain) (second : right.IsPlain)
    (distance : Nat) : (within distance left right).fragment.IsSealed := by
  have added : Fragment.IsSealed [.words " + ", .words (toString distance)] :=
    (isSealed_natural distance).cons_words (show ∀ c ∈ [' ', '+', ' '], isOrdinary c by decide)
      (by decide) (by decide)
  have upper : Fragment.IsSealed ([right.piece] ++ [.words " + ", .words (toString distance)]) :=
    second.isSealed.append added (by simp [Piece.sql, isWordChar])
  have range : Fragment.IsSealed ([right.piece] ++
      .words " + 1 AND " :: ([right.piece] ++ [.words " + ", .words (toString distance)])) :=
    second.isSealed.between upper (by decide)
  have whole : Fragment.IsSealed ([left.piece] ++ .words " BETWEEN " :: ([right.piece] ++
      .words " + 1 AND " :: ([right.piece] ++ [.words " + ", .words (toString distance)]))) :=
    first.isSealed.between range (by decide)
  have same : (within distance left right).fragment.sql = Fragment.sql ([left.piece] ++
      .words " BETWEEN " :: ([right.piece] ++ .words " + 1 AND " ::
        ([right.piece] ++ [.words " + ", .words (toString distance)]))) := by
    simp [fragment, Piece.sql, ← String.append_assoc]
  rwa [Fragment.IsSealed, same]

theorem isSealed_fragment {tie : Tie} (plain : tie.IsPlain) : tie.fragment.IsSealed := by
  cases tie with
  | compare ordering left right => exact isSealed_compare plain.1 plain.2 ordering
  | following left right =>
      exact plain.1.isSealed.between (plain.2.isSealed.followed (by decide)) (by decide)
  | preceding left right =>
      exact plain.1.isSealed.between (plain.2.isSealed.followed (by decide)) (by decide)
  | within distance left right => exact isSealed_within plain.1 plain.2 distance
  | trusted anchor threshold =>
      have status : Fragment.IsSealed [.column anchor.name "alignment_status"] :=
        Fragment.isSealed_wordColumn anchor.isWord_name (by decide)
      exact status.between (Fragment.isSealed_bound _) (by decide)

end Tie

/-! ### Conditions and joins -/

namespace Condition

theorem isSealed_label (row : Alias) : Fragment.IsSealed [row.label.piece] :=
  row.isPlain_cells.2.2.1.isSealed

theorem isSealed_numericLabel (row : Alias) : (numericLabel row).IsSealed :=
  isSealed_apply ((isSealed_label row).isNested.append (by decide)) (by decide)

theorem isSealed_bounds (row : Alias) (wanted : LayerMatch) :
    ∀ bound ∈ bounds row wanted, bound.IsSealed := by
  refine List.forall_mem_append.2 ⟨List.forall_mem_map.2 fun least _ => ?_,
    List.forall_mem_map.2 fun most _ => ?_⟩
  · exact (isSealed_numericLabel row).between (Fragment.isSealed_bound _) (by decide)
  · exact (isSealed_numericLabel row).between (Fragment.isSealed_bound _) (by decide)

theorem isSealed_labelFragment (row : Alias) (wanted : LayerMatch) :
    (labelFragment row wanted).IsSealed := by
  unfold labelFragment
  split
  · cases wanted.negated with
    | false => exact (isSealed_label row).between (Fragment.isSealed_bound _) (by decide)
    | true => exact (isSealed_label row).between (Fragment.isSealed_bound _) (by decide)
  · have range := Fragment.isSealed_conjunction (isSealed_bounds row wanted)
    cases wanted.negated with
    | false => exact range
    | true => exact range.isNested.parenthesized.not

theorem isSealed_noOtherWord (words : TimedLayer) {ties : List Tie}
    (plain : ∀ tie ∈ ties, tie.IsPlain) : (noOtherWord words ties).fragment.IsSealed := by
  have start : (Tie.equal ⟨.otherStart, "anchor_id"⟩ (Alias.otherWord.anchorId .start)).IsPlain := by
    simp
  refine (isSealed_existing (Select.isNested_rows ?_ ?_ ?_ ?_)).not
  · decide
  · exact isNested_relation (nested_layerTable words.table) (by decide)
  · exact List.forall_mem_singleton.2 (Join.isNested_inner (by decide) (by decide)
      (List.forall_mem_singleton.2 (Tie.isSealed_fragment start).isNested))
  · exact List.forall_mem_map.2 fun tie member => (Tie.isSealed_fragment (plain tie member)).isNested

theorem isSealed_fragment {condition : Condition} (plain : condition.IsPlain) :
    condition.fragment.IsSealed := by
  cases condition with
  | label row wanted => exact isSealed_labelFragment row wanted
  | first word => exact word.isPlain_cells.2.2.2.2.2.1.isSealed.followed (by decide)
  | absent row => exact row.isPlain_cells.1.isSealed.followed (by decide)
  | absentOr row tie =>
      refine Fragment.IsNested.parenthesized (Fragment.isNested_disjunction ?_)
      exact List.forall_mem_cons.2 ⟨(row.isPlain_cells.1.isSealed.followed (by decide)).isNested,
        List.forall_mem_singleton.2 (Tie.isSealed_fragment plain).isNested⟩
  | noOtherWord words ties => exact isSealed_noOtherWord words plain

end Condition

theorem Source.isSealed_join {source : Source} (plain : source.IsPlain) :
    ∀ condition ∈ source.join.on, condition.IsSealed :=
  List.forall_mem_map.2 fun tie member => Tie.isSealed_fragment (plain tie member)

theorem Plan.isSealed_select {plan : Plan} (plain : plan.IsPlain) (searchId : Int64) :
    (plan.select searchId).IsSealed where
  joins := List.forall_mem_map.2 fun source member =>
    Source.isSealed_join (plain.joins source member)
  conditions := List.forall_mem_map.2 fun condition member =>
    Condition.isSealed_fragment (plain.conditions condition member)

/-! ### Filters -/

/-- All fragments of the caller's have closed quotes and well-nested parentheses. -/
structure Options.IsNested (options : Options) : Prop where
  transcripts : ∀ filter ∈ options.transcripts, Fragment.IsNested filter
  participants : ∀ filter ∈ options.participants, Fragment.IsNested filter
  access : ∀ fragment, options.access = some (.condition fragment) → fragment.IsNested

namespace Options

variable {options : Options} {graph : Fragment} {speaker : Option Fragment}
  (graphSealed : graph.IsSealed) (speakerSealed : ∀ fragment ∈ speaker, Fragment.IsSealed fragment)

include graphSealed

theorem isSealed_transcriptCondition {filter : Fragment} (nested : filter.IsNested) :
    (transcriptCondition graph filter).IsSealed :=
  graphSealed.between nested.parenthesized (by decide)

include speakerSealed

theorem isSealed_participantCondition {filter : Fragment} (nested : filter.IsNested) :
    (participantCondition graph speaker filter).IsSealed := by
  cases speaker with
  | some speaker => exact (speakerSealed speaker rfl).between nested.parenthesized (by decide)
  | none =>
      refine graphSealed.between (Fragment.IsNested.parenthesized ?_) (by decide)
      exact .words (by decide) nested.parenthesized.isNested

theorem isSealed_joins :
    ∀ join ∈ options.joins graph speaker, ∀ condition ∈ join.on, condition.IsSealed := by
  have column {name : String} (word : IsWord name) :
      Fragment.IsSealed [.column "main_participant" name] :=
    Fragment.isSealed_wordColumn (by decide) word
  have ofGraph := (column (show IsWord "ag_id" by decide)).between graphSealed
    (show Fragment.Spaced [' ', '=', ' '] by decide)
  unfold joins
  split
  · refine List.forall_mem_singleton.2 ?_
    cases speaker with
    | none => exact Join.isSealed_inner (List.forall_mem_singleton.2 ofGraph)
    | some speaker =>
        have ofSpeaker := (column (show IsWord "speaker_number" by decide)).between
          (speakerSealed speaker rfl) (show Fragment.Spaced [' ', '=', ' '] by decide)
        exact Join.isSealed_inner
          (List.forall_mem_cons.2 ⟨ofGraph, List.forall_mem_singleton.2 ofSpeaker⟩)
  · simp

theorem isSealed_conditions (given : options.IsNested) :
    ∀ condition ∈ options.conditions graph speaker, condition.IsSealed := by
  refine List.forall_mem_append.2 ⟨List.forall_mem_append.2 ⟨List.forall_mem_append.2 ⟨?_, ?_⟩, ?_⟩, ?_⟩
  · exact List.forall_mem_map.2 fun filter member =>
      isSealed_transcriptCondition graphSealed (given.transcripts filter (Option.mem_toList.1 member))
  · exact List.forall_mem_map.2 fun filter member =>
      isSealed_participantCondition graphSealed speakerSealed
        (given.participants filter (Option.mem_toList.1 member))
  · split
    · exact List.forall_mem_singleton.2
        ((Fragment.isSealed_wordColumn (by decide) (by decide)).followed (by decide))
    · simp
  · exact List.forall_mem_map.2 fun access member =>
      Access.isSealed_restriction graphSealed.isNested fun fragment same =>
        given.access fragment (by rw [← same]; exact Option.mem_toList.1 member)

theorem isSealed_restrict (given : options.IsNested) {select : Select} (whole : select.IsSealed) :
    (options.restrict graph speaker select).IsSealed where
  joins := List.forall_mem_append.2 ⟨whole.joins, isSealed_joins graphSealed speakerSealed⟩
  conditions := List.forall_mem_append.2
    ⟨whole.conditions, isSealed_conditions graphSealed speakerSealed given⟩

end Options

/-- No condition of a search shows an `OR`. -/
theorem Plan.isSealed_restricted {plan : Plan} {options : Options} (plain : plan.IsPlain)
    (given : options.IsNested) : (plan.restricted options).IsSealed := by
  refine Options.isSealed_restrict plain.result.graph.isSealed (fun speaker known => ?_) given
    (isSealed_select plain options.searchId)
  obtain ⟨placing, -, rfl⟩ := Option.map_eq_some_iff.1 known
  exact Filter.Target.isSealed_turnSpeaker

end Search

end CorpusQuery
