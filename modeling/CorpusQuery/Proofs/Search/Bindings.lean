import CorpusQuery.Proofs.Search.Sources
import CorpusQuery.Proofs.Sql.Clauses

namespace CorpusQuery

/-! Which values a search binds, and in what order. -/

open Sql

namespace Search

/-! ### What is asked of labels -/

/-- The values that a match binds: its pattern, so that it matches whole labels, or
else its bounds. -/
def LayerMatch.values (wanted : LayerMatch) : List Param :=
  match wanted.pattern.filter (· != "") with
  | some pattern => [.text ("^(" ++ pattern ++ ")$")]
  | none => wanted.min.toList.map .number ++ wanted.max.toList.map .number

namespace Condition

theorem params_numericLabel (row : Alias) : (numericLabel row).params = [] :=
  rfl

theorem params_bounds (row : Alias) (wanted : LayerMatch) :
    (bounds row wanted).flatMap Fragment.params =
      wanted.min.toList.map .number ++ wanted.max.toList.map .number := by
  cases least : wanted.min <;> cases most : wanted.max <;>
    simp [bounds, least, most, params_numericLabel, Piece.params]

theorem params_labelFragment (row : Alias) (wanted : LayerMatch) :
    (labelFragment row wanted).params = wanted.values := by
  unfold labelFragment LayerMatch.values LayerMatch.labelRegex LayerMatch.pattern?
  cases wanted.pattern.filter (· != "") with
  | some pattern => cases wanted.negated <;> rfl
  | none => cases wanted.negated <;> simp [params_bounds, Piece.params]

/-- What asks nothing of labels binds no values either. -/
theorem params_ofLabel (row : Alias) (wanted : LayerMatch) :
    (ofLabel row wanted).flatMap (·.fragment.params) = wanted.values := by
  unfold ofLabel
  cases asks : wanted.hasCondition with
  | true => simp [fragment, params_labelFragment]
  | false =>
      simp only [LayerMatch.hasCondition, LayerMatch.labelRegex, LayerMatch.pattern?,
        LayerMatch.hasRange, Option.isSome_map, Bool.or_eq_false_iff, Option.isSome_eq_false_iff,
        Option.isNone_iff_eq_none] at asks
      obtain ⟨noPattern, noMin, noMax⟩ := asks
      simp [LayerMatch.values, noPattern, noMin, noMax]

end Condition

/-! ### Thresholds -/

/-- Whether the row is an anchor that has to reach the threshold. -/
def Alias.isMeasured : Alias → Bool
  | .anchor (.found ..) _ | .anchor (.word _) _ => true
  | _ => false

theorem Alias.eq_anchor_of_isShared {row word : Alias} (shared : row.isShared [word])
    (measured : row.isMeasured) : ∃ edge, row = .anchor word edge := by
  cases row with
  | anchor inner edge =>
      simp only [isShared, List.contains_eq_mem, List.mem_singleton, Bool.or_eq_true,
        decide_eq_true_eq] at shared
      rcases shared with rfl | neighbour
      · exact ⟨edge, rfl⟩
      · cases inner <;> simp_all [isNeighbour, isMeasured]
  | _ => contradiction

def Tie.IsBare (tie : Tie) : Prop :=
  tie.fragment.params = []

@[simp] theorem Tie.isBare_compare (ordering : Ordering) (left right : Cell) :
    (Tie.compare ordering left right).IsBare :=
  rfl

@[simp] theorem Tie.isBare_equal (left right : Cell) : (Tie.equal left right).IsBare :=
  rfl

@[simp] theorem Tie.isBare_following (left right : Cell) : (Tie.following left right).IsBare :=
  rfl

@[simp] theorem Tie.isBare_preceding (left right : Cell) : (Tie.preceding left right).IsBare :=
  rfl

@[simp] theorem Tie.isBare_adjacent (distance : Nat) (later earlier : Alias) :
    (Tie.adjacent distance later earlier).IsBare := by
  unfold adjacent
  split <;> rfl

namespace Condition

@[simp] theorem params_first (word : Alias) : (first word).fragment.params = [] :=
  rfl

@[simp] theorem params_absent (row : Alias) : (absent row).fragment.params = [] :=
  rfl

@[simp] theorem params_absentOr (row : Alias) {tie : Tie} (bare : tie.IsBare) :
    (absentOr row tie).fragment.params = [] := by
  have tied : tie.fragment.params = [] := bare
  simp [fragment, Fragment.disjunction, Fragment.join, Cell.piece, Piece.params, tied]

@[simp] theorem params_noOtherWord (words : TimedLayer) {ties : List Tie}
    (bare : ∀ tie ∈ ties, tie.IsBare) : (noOtherWord words ties).fragment.params = [] := by
  have tied : (ties.map Tie.fragment).flatMap Fragment.params = [] := by
    rw [List.flatMap_map]
    exact List.flatMap_eq_nil_iff.2 bare
  have joined : (Join.inner [.words Table.anchors.name] Alias.otherStart.name
      [(Tie.equal ⟨.otherStart, "anchor_id"⟩
        (Alias.otherWord.anchorId .start)).fragment]).render.params = [] := by
    decide
  simp [fragment, existing, Select.subquery, Select.params_render, Piece.params, joined, tied]

end Condition

/-- A source binds the threshold if its row has to reach it, and nothing else. -/
def Source.Binds (confidence : Option Int64) (source : Source) : Prop :=
  source.join.render.params =
    if source.row.isMeasured then confidence.toList.map .integer else []

namespace Source

variable {confidence : Option Int64}

theorem params_join (source : Source) :
    source.join.render.params = source.ties.flatMap (·.fragment.params) := by
  rw [Join.params_render_of_bare rfl, join, List.flatMap_map]

theorem binds_of_bare {source : Source} (free : source.row.isMeasured = false)
    (bare : ∀ tie ∈ source.ties, tie.IsBare) : source.Binds confidence := by
  rw [Binds, params_join, free, List.flatMap_eq_nil_iff.2 bare]
  rfl

theorem binds_anchor {row : Alias} {edge : Edge} (measured : (row.anchor edge).isMeasured)
    {ties : List Tie} (bare : ∀ tie ∈ ties, tie.IsBare) :
    (anchor confidence row edge ties).Binds confidence := by
  have others : ties.flatMap (·.fragment.params) = [] := List.flatMap_eq_nil_iff.2 bare
  have trusted : (confidence.toList.map (Tie.trusted (row.anchor edge))).flatMap
      (·.fragment.params) = confidence.toList.map .integer := by
    cases confidence <;> rfl
  have first :
      (Tie.equal ⟨row.anchor edge, "anchor_id"⟩ (row.anchorId edge)).fragment.params = [] :=
    rfl
  rw [Binds, params_join, anchor, if_pos measured]
  simp only [List.flatMap_cons, List.flatMap_append, first, trusted, others, List.nil_append,
    List.append_nil]

theorem binds_thresholdAnchors {row : Alias} (measured : ∀ edge, (row.anchor edge).isMeasured) :
    ∀ source ∈ thresholdAnchors confidence row, source.Binds confidence := by
  unfold thresholdAnchors
  split
  · simp [binds_anchor (measured _)]
  · simp

theorem countP_thresholdAnchors (row : Alias) (measured : ∀ edge, (row.anchor edge).isMeasured)
    (least : Int64) :
    ((thresholdAnchors (some least) row).map Source.row).countP Alias.isMeasured = 2 := by
  simp [thresholdAnchors, anchor, measured]

/-- Sources that bind no more than they should bind the threshold as often as they
have anchors that should reach it. -/
theorem params_joins (confidence : Option Int64) {sources : List Source}
    (binds : ∀ source ∈ sources, source.Binds confidence) :
    (sources.map join).flatMap (fun join => join.render.params) =
      confidence.toList.flatMap fun least =>
        List.replicate ((sources.map Source.row).countP Alias.isMeasured) (.integer least) := by
  induction sources with
  | nil => cases confidence <;> rfl
  | cons source rest ih =>
      obtain ⟨first, others⟩ := List.forall_mem_cons.1 binds
      rw [List.map_cons, List.flatMap_cons, first, ih others]
      cases confidence with
      | none => simp
      | some least =>
          cases measured : source.row.isMeasured <;> simp [measured, List.replicate_succ]

end Source

namespace Setting

variable {setting : Setting}

section Part

variable {word : WordRow} (measured : ∀ edge, (word.row.anchor edge).isMeasured)

include measured

theorem binds_covering (found : ResolvedMatch) (column place : Nat) {tie : Tie}
    (bare : tie.IsBare) :
    ∀ source ∈ setting.covering word found (.found column place) tie,
      source.Binds setting.confidence := by
  refine List.forall_mem_cons.2 ⟨Source.binds_anchor (measured .start) (by simp),
    List.forall_mem_cons.2 ⟨Source.binds_of_bare rfl ?_, List.forall_mem_cons.2 ⟨?_,
      List.forall_mem_singleton.2 ?_⟩⟩⟩
  · simpa [Source.ofLayer] using bare
  · exact Source.binds_anchor rfl (by simp)
  · exact Source.binds_anchor rfl (by simp)

theorem binds_intervalPart (found : ResolvedMatch) (column place : Nat) {tie otherTie : Tie}
    (bare : tie.IsBare) :
    ∀ source ∈ (setting.intervalPart word found (.found column place) tie otherTie).sources,
      source.Binds setting.confidence := by
  unfold intervalPart
  split
  · refine List.forall_mem_singleton.2 (Source.binds_of_bare rfl ?_)
    cases atStart : found.wanted.anchoredStart <;> cases atEnd : found.wanted.anchoredEnd <;>
      simpa [sharing, Source.ofLayer, atStart, atEnd] using bare
  · exact binds_covering measured found column place bare

theorem binds_structuralPart (column place : Nat) (earlier : Option Alias)
    (found : ResolvedMatch) :
    ∀ source ∈ (setting.structuralPart column place word earlier found).sources,
      source.Binds setting.confidence := by
  have next : (setting.nextWord column word).Binds setting.confidence :=
    Source.binds_of_bare rfl (by simp [nextWord])
  have previous : (setting.previousWord column word).Binds setting.confidence :=
    Source.binds_of_bare rfl (by simp [previousWord])
  have nextStart : (startIfAny (.next column)).Binds setting.confidence :=
    Source.binds_of_bare rfl (by simp [startIfAny])
  have previousStart : (startIfAny (.previous column)).Binds setting.confidence :=
    Source.binds_of_bare rfl (by simp [startIfAny])
  have withinWord (number : Cell) (segment : Option Alias) :
      ∀ source ∈ (setting.withinWordPart word found (.found column place) number segment).sources,
        source.Binds setting.confidence :=
    List.forall_mem_singleton.2 (Source.binds_of_bare rfl (by simp [Source.ofLayer]))
  unfold structuralPart
  simp only
  split
  · simp
  · split
    · unfold turnPart
      split <;> simp [next]
    · split
      · exact withinWord _ _
      · exact withinWord _ _
      · split
        · refine List.forall_mem_append.2 ⟨List.forall_mem_append.2
            ⟨binds_covering measured found column place rfl, ?_⟩, ?_⟩
          · split <;> simp [previous, previousStart]
          · split <;> simp [next, nextStart]
        · exact binds_intervalPart measured found column place rfl
      · exact binds_intervalPart measured found column place rfl

end Part

/-- What a match asks of its surroundings has nothing to bind. -/
theorem params_structuralPart (column place : Nat) (word : WordRow) (earlier : Option Alias)
    (found : ResolvedMatch) :
    ∀ condition ∈ (setting.structuralPart column place word earlier found).conditions,
      condition.fragment.params = [] := by
  have interval (row : Alias) (tie : Tie) {otherTie : Tie} (bare : otherTie.IsBare) :
      ∀ condition ∈ (setting.intervalPart word found row tie otherTie).conditions,
        condition.fragment.params = [] := by
    unfold intervalPart
    split
    · simp
    · refine List.forall_mem_append.2 ⟨?_, ?_⟩ <;> split <;> simp [bare]
  unfold structuralPart
  simp only
  split
  · simp
  · split
    · refine List.forall_mem_append.2 ⟨?_, ?_⟩ <;> split <;> simp
    · split
      · simp [withinWordPart]
      · simp [withinWordPart]
      · split
        · refine List.forall_mem_append.2 ⟨?_, ?_⟩ <;> split <;> simp
        · exact interval _ _ rfl
      · exact interval _ _ rfl

theorem params_part (column place : Nat) (word : WordRow) (earlier : Option Alias)
    (found : ResolvedMatch) :
    (setting.part column place word earlier found).conditions.flatMap (·.fragment.params) =
      found.wanted.values := by
  change ((setting.structuralPart column place word earlier found).conditions ++
    Condition.ofLabel _ _).flatMap _ = _
  rw [List.flatMap_append, Condition.params_ofLabel,
    List.flatMap_eq_nil_iff.2 (params_structuralPart column place word earlier found),
    List.nil_append]

theorem params_partsFrom (column : Nat) (word : WordRow) (place : Nat) (earlier : Option Alias)
    (found : List ResolvedMatch) :
    ((setting.partsFrom column word place earlier found).flatMap Part.conditions).flatMap
        (·.fragment.params) =
      found.flatMap (·.wanted.values) := by
  induction found generalizing place earlier with
  | nil => rfl
  | cons first rest ih =>
      rw [partsFrom, List.flatMap_cons, List.flatMap_append, params_part, ih, List.flatMap_cons]

theorem params_blocksFrom (column : Nat) (earlier : Option Block) (columns : List ResolvedColumn) :
    (((setting.blocksFrom column earlier columns).flatMap Block.parts).flatMap
        Part.conditions).flatMap (·.fragment.params) =
      columns.flatMap fun resolved => resolved.found.flatMap (·.wanted.values) := by
  induction columns generalizing column earlier with
  | nil => rfl
  | cons resolved rest ih =>
      rw [blocksFrom, List.flatMap_cons, List.flatMap_append, List.flatMap_append,
        params_partsFrom, ih, List.flatMap_cons]

theorem measured_word (column : Nat) (found : List ResolvedMatch) (edge : Edge) :
    ((setting.word column found).row.anchor edge).isMeasured := by
  rcases setting.word_cases column found with same | ⟨place, _, same, _⟩ <;> rw [same] <;> rfl

theorem binds_partsFrom {word : WordRow} (measured : ∀ edge, (word.row.anchor edge).isMeasured)
    (column place : Nat) (earlier : Option Alias) (found : List ResolvedMatch) :
    ∀ source ∈ (setting.partsFrom column word place earlier found).flatMap Part.sources,
      source.Binds setting.confidence := by
  induction found generalizing place earlier with
  | nil => simp [partsFrom]
  | cons first rest ih =>
      rw [partsFrom, List.flatMap_cons]
      exact List.forall_mem_append.2
        ⟨binds_structuralPart measured column place earlier first, ih _ _⟩

theorem binds_wordSources {word : WordRow} (free : word.row.isMeasured = false)
    (measured : ∀ edge, (word.row.anchor edge).isMeasured) {ties : List Tie}
    (bare : ∀ tie ∈ ties, tie.IsBare) :
    ∀ source ∈ setting.wordSources word ties, source.Binds setting.confidence :=
  List.forall_mem_cons.2
    ⟨Source.binds_of_bare free (by simpa [Source.ofLayer] using bare),
      Source.binds_thresholdAnchors measured⟩

theorem binds_blocksFrom (column : Nat) (earlier : Option Block) (columns : List ResolvedColumn) :
    ∀ source ∈ (setting.blocksFrom column earlier columns).flatMap (Block.sources setting),
      source.Binds setting.confidence := by
  induction columns generalizing column earlier with
  | nil => simp [blocksFrom]
  | cons resolved rest ih =>
      have measured := setting.measured_word column resolved.found
      have free : (setting.word column resolved.found).row.isMeasured = false := by
        rcases setting.word_cases column resolved.found with same | ⟨place, _, same, _⟩ <;>
          rw [same] <;> rfl
      rw [blocksFrom, List.flatMap_cons]
      refine List.forall_mem_append.2 ⟨List.forall_mem_append.2
        ⟨binds_wordSources free measured (by simp), ?_⟩, ih _ _⟩
      exact binds_partsFrom measured column 0 none resolved.found

/-! ### How many anchors have to reach the threshold -/

/-- The anchors of a column that have to reach the threshold, if there is one. -/
def measuredRows (setting : Setting) (column : Nat) (found : List ResolvedMatch) : List Alias :=
  let word := setting.word column found
  [.anchor word.row .start, .anchor word.row .stop] ++
    (found.zipIdx.flatMap fun (item, place) => setting.ownRows column place word item).filter
      Alias.isMeasured

theorem mem_measuredRows {least : Int64} (threshold : setting.confidence = some least)
    {column : Nat} {found : List ResolvedMatch} {row : Alias} :
    row ∈ setting.measuredRows column found ↔
      row ∈ setting.columnRows column found ∧ row.isMeasured := by
  have anchors : (Source.thresholdAnchors setting.confidence (setting.word column found).row).map
      Source.row =
        [.anchor (setting.word column found).row .start,
          .anchor (setting.word column found).row .stop] := by
    simp [Source.thresholdAnchors, threshold, Source.anchor]
  have measured := setting.measured_word column found
  unfold measuredRows columnRows
  simp only [anchors, List.mem_append, List.mem_filter, List.mem_flatMap, List.mem_cons,
    List.not_mem_nil, or_false]
  constructor
  · rintro ((rfl | rfl) | ⟨⟨entry, within, inside⟩, isMeasured⟩)
    · exact ⟨.inl (.inr (.inl rfl)), measured _⟩
    · exact ⟨.inl (.inr (.inr rfl)), measured _⟩
    · rw [← filter_rows] at inside
      exact ⟨.inr ⟨entry, within, (List.mem_filter.1 inside).1⟩, isMeasured⟩
  · rintro ⟨(rfl | isAnchor) | ⟨entry, within, inside⟩, isMeasured⟩
    · rcases setting.word_cases column found with same | ⟨place, _, same, _⟩ <;>
        rw [same] at isMeasured <;> contradiction
    · exact .inl isAnchor
    · cases shared : row.isShared [(setting.word column found).row] with
      | false =>
          refine .inr ⟨⟨entry, within, ?_⟩, isMeasured⟩
          rw [← filter_rows]
          exact List.mem_filter.2 ⟨inside, by simp [shared]⟩
      | true =>
          obtain ⟨edge, rfl⟩ := Alias.eq_anchor_of_isShared shared isMeasured
          cases edge with
          | start => exact .inl (.inl rfl)
          | stop => exact .inl (.inr rfl)

theorem nodup_measuredRows (column : Nat) (found : List ResolvedMatch) :
    (setting.measuredRows column found).Nodup := by
  refine List.Nodup.append (by simp) ((nodup_flatMap_ownRows ..).filter _) ?_
  intro row isAnchor isOwn
  obtain ⟨⟨item, place⟩, -, inside⟩ := List.mem_flatMap.1 (List.mem_filter.1 isOwn).1
  obtain ⟨other, rfl | ⟨edge, rfl⟩⟩ := ownRows_cases inside
  · simp at isAnchor
  · simp only [List.mem_cons, Alias.anchor.injEq, List.not_mem_nil, or_false] at isAnchor
    exact isAnchor.elim (fun same => other same.1.symm) fun same => other same.1.symm

theorem column?_of_mem_measuredRows {column : Nat} {found : List ResolvedMatch} {row : Alias}
    (member : row ∈ setting.measuredRows column found) : row.column? = some column := by
  rcases List.mem_append.1 member with isAnchor | isOwn
  · simp only [List.mem_cons, List.not_mem_nil, or_false] at isAnchor
    rcases isAnchor with rfl | rfl <;> exact setting.column?_word column found
  · exact column?_of_mem_columnRows
      (columnRows_of_mem_own (List.mem_cons_of_mem _ (List.mem_filter.1 isOwn).1))

/-- Among the matches that bring in rows of their own, those that cover a word have
anchors; a match that is the column's word itself is none of them. -/
theorem length_measured_ownRows {column place : Nat} {found : List ResolvedMatch}
    {item : ResolvedMatch} (within : (item, place) ∈ found.zipIdx) :
    ((setting.ownRows column place (setting.word column found) item).filter
        Alias.isMeasured).length =
      if !setting.schema.plays .turn item.layer.id && setting.covers item then 2 else 0 := by
  -- Only a match of a word layer is the column's word, and those cover nothing.
  have wordLayer (same : (setting.word column found).row = .found column place) :
      setting.covers item = false := by
    rcases setting.word_cases column found with isOwn | ⟨other, first, row, known, isWord⟩
    · rw [isOwn] at same
      contradiction
    · obtain ⟨-, rfl⟩ := Alias.found.inj (row.symm.trans same)
      obtain rfl := Option.some.inj (known.symm.trans (List.mk_mem_zipIdx_iff_getElem?.1 within))
      simp [covers, isWord]
  unfold ownRows
  by_cases same : (setting.word column found).row = .found column place
  · simp [same, wordLayer same]
  · have anchors : [Alias.anchor (.found column place) .start,
        .anchor (.found column place) .stop].filter Alias.isMeasured =
          [.anchor (.found column place) .start, .anchor (.found column place) .stop] :=
      rfl
    cases setting.schema.plays .turn item.layer.id <;> cases setting.covers item <;>
      simp [same, anchors, Alias.isMeasured]

theorem length_measuredRows (column : Nat) (found : List ResolvedMatch) :
    (setting.measuredRows column found).length =
      2 + 2 * found.countP fun item =>
        !setting.schema.plays .turn item.layer.id && setting.covers item := by
  have sum (counts : ResolvedMatch → Bool) (items : List ResolvedMatch) :
      (items.map fun item => if counts item then 2 else 0).sum = 2 * items.countP counts := by
    induction items with
    | nil => rfl
    | cons item rest ih =>
        rw [List.map_cons, List.sum_cons, ih, List.countP_cons]
        split <;> omega
  unfold measuredRows
  rw [List.length_append, List.filter_flatMap, List.length_flatMap, ← sum]
  congr 2
  conv_rhs => rw [← List.zipIdx_map_fst 0 found, List.map_map]
  exact List.map_congr_left fun entry within => length_measured_ownRows within

/-- Every anchor that has to reach the threshold is joined once. -/
theorem countP_measured_once {least : Int64} (threshold : setting.confidence = some least)
    (columns : List ResolvedColumn) :
    ((Source.once ((setting.blocksFrom 0 none columns).flatMap (Block.sources setting))).map
        Source.row).countP Alias.isMeasured =
      ((columns.zipIdx).flatMap fun (resolved, index) =>
        setting.measuredRows index resolved.found).length := by
  rw [List.countP_eq_length_filter]
  -- Neither list has a row twice, so that it is enough for them to have the same rows.
  refine List.Perm.length_eq
    ((List.perm_ext_iff_of_nodup ((Source.nodup_rows_once _).filter _) ?_).2 ?_)
  · exact nodup_flatMap_zipIdx Alias.column? id Function.injective_id
      (fun _ _ => nodup_measuredRows _ _)
      fun _ _ _ inside => column?_of_mem_measuredRows inside
  · intro row
    rw [List.mem_filter, Source.mem_rows_once, rows_blocksFrom]
    simp only [List.mem_flatMap, mem_measuredRows threshold]
    constructor
    · rintro ⟨⟨entry, within, inside⟩, measured⟩
      exact ⟨entry, within, inside, measured⟩
    · rintro ⟨entry, within, inside, measured⟩
      exact ⟨⟨entry, within, inside⟩, measured⟩

end Setting

/-- Whether the match is found by anchors of its own: a phrase or span that is not
the turn, and does not have the anchors of words to be found by.  The ends of
utterances are always looked for. -/
def ResolvedMatch.isMeasured (schema : Schema) (linked : String → Bool) (found : ResolvedMatch) :
    Bool :=
  !schema.plays .turn found.layer.id &&
    match found.scope with
    | .phrase =>
        schema.plays .utterance found.layer.id ||
          !(found.wanted.isAnchored && linked found.layer.id)
    | .span => !(found.wanted.isAnchored && linked found.layer.id)
    | _ => false

/-- How many anchors have to reach the threshold. -/
def Strategy.measured (schema : Schema) (linked : String → Bool) (columns : List ResolvedColumn) :
    Strategy → Nat
  | .orthographyChain _ => 2 * columns.length
  | .spanScan _ => 1
  | .general =>
      2 * columns.length +
        2 * (columns.flatMap ResolvedColumn.found).countP (ResolvedMatch.isMeasured schema linked)

/-- The values of a plan for the columns, where `count` anchors have to reach the
threshold. -/
structure Plan.Binds (confidence : Option Int64) (columns : List ResolvedColumn) (count : Nat)
    (plan : Plan) : Prop where
  joins : (plan.joins.map Source.join).flatMap (fun join => join.render.params) =
    confidence.toList.flatMap fun least => List.replicate count (.integer least)
  conditions : plan.conditions.flatMap (·.fragment.params) =
    columns.flatMap fun resolved => resolved.found.flatMap (·.wanted.values)

theorem Setting.binds_plan (setting : Setting) (columns : List ResolvedColumn) :
    (setting.plan columns).Binds setting.confidence columns
      (Strategy.general.measured setting.schema setting.linked columns) := by
  refine ⟨?_, params_blocksFrom 0 none columns⟩
  refine (Source.params_joins _ fun source member =>
    binds_blocksFrom 0 none columns source (Source.mem_of_mem_once member)).trans ?_
  cases threshold : setting.confidence with
  | none => rfl
  | some least =>
      have lengths (start : Nat) : ((columns.zipIdx start).flatMap fun (resolved, index) =>
          setting.measuredRows index resolved.found).length =
            Strategy.general.measured setting.schema setting.linked columns := by
        induction columns generalizing start with
        | nil => rfl
        | cons resolved rest ih =>
            have counted : (fun item : ResolvedMatch =>
                !setting.schema.plays .turn item.layer.id && setting.covers item) =
              ResolvedMatch.isMeasured setting.schema setting.linked := rfl
            rw [List.zipIdx_cons, List.flatMap_cons, List.length_append, ih, length_measuredRows,
              counted]
            simp only [Strategy.measured, List.length_cons, List.flatMap_cons, List.countP_append]
            omega
      rw [countP_measured_once threshold, lengths]

theorem WordChain.binds_sourcesAfter (layer : TimedLayer) (confidence : Option Int64)
    (column : Nat) (earlier : Link) (rest : List Link) :
    (∀ source ∈ sourcesAfter layer confidence column earlier rest, source.Binds confidence) ∧
      ∀ least, confidence = some least →
        ((sourcesAfter layer confidence column earlier rest).map Source.row).countP
          Alias.isMeasured = 2 * rest.length := by
  induction rest generalizing column earlier with
  | nil => simp [sourcesAfter]
  | cons link others ih =>
      obtain ⟨binds, counted⟩ := ih (column + 1) link
      refine ⟨List.forall_mem_cons.2 ⟨Source.binds_of_bare rfl (by simp [Source.ofLayer]),
        List.forall_mem_append.2 ⟨Source.binds_thresholdAnchors fun _ => rfl, binds⟩⟩, ?_⟩
      rintro least rfl
      have free : (Alias.found (column + 1) 0).isMeasured = false := rfl
      have anchors := Source.countP_thresholdAnchors (.found (column + 1) 0)
        (fun _ => rfl) least
      simp only [sourcesAfter, Source.ofLayer, List.cons_append, List.map_cons, List.map_append,
        List.countP_cons, List.countP_append, free, anchors, counted least rfl, List.length_cons]
      simp only [Bool.false_eq_true, if_false]
      omega

theorem WordChain.countP_measured_plan (schema : Schema) (turns : TimedLayer) (least : Int64)
    (chain : WordChain) :
    ((chain.plan schema turns (some least)).joins.map Source.row).countP Alias.isMeasured =
      2 * chain.links.length := by
  have counted := (binds_sourcesAfter chain.layer (some least) 0 chain.first chain.rest).2 least rfl
  have free : firstRow.isMeasured = false ∧ Alias.turn.isMeasured = false := ⟨rfl, rfl⟩
  have anchors := Source.countP_thresholdAnchors firstRow (fun _ => rfl) least
  simp only [plan, Source.ofLayer, List.cons_append, List.map_cons, List.map_append,
    List.countP_cons, List.countP_append, free, anchors, counted, links, List.length_cons]
  simp only [Bool.false_eq_true, if_false]
  omega

theorem WordChain.params_labels (links : List Link) (start : Nat) :
    ((links.zipIdx start).flatMap fun entry =>
      Condition.ofLabel (.found entry.2 0) entry.1.found.wanted).flatMap (·.fragment.params) =
        links.flatMap (·.found.wanted.values) := by
  induction links generalizing start with
  | nil => rfl
  | cons link rest ih =>
      rw [List.zipIdx_cons, List.flatMap_cons, List.flatMap_append, Condition.params_ofLabel, ih,
        List.flatMap_cons]

theorem WordChain.binds_plan (schema : Schema) (turns : TimedLayer)
    (confidence : Option Int64) (chain : WordChain) :
    (chain.plan schema turns confidence).Binds confidence (chain.links.map Link.column)
      (2 * chain.links.length) := by
  obtain ⟨binds, -⟩ := binds_sourcesAfter chain.layer confidence 0 chain.first chain.rest
  constructor
  · refine (Source.params_joins confidence ?_).trans ?_
    · exact List.forall_mem_cons.2 ⟨Source.binds_of_bare rfl (by simp [Source.ofLayer]),
        List.forall_mem_append.2 ⟨Source.binds_thresholdAnchors fun _ => rfl, binds⟩⟩
    · cases confidence with
      | none => rfl
      | some least => rw [countP_measured_plan]
  · refine (params_labels chain.links 0).trans ?_
    simp [List.flatMap_map, Link.column]

theorem SpanScan.binds_plan (confidence : Option Int64) (found : ResolvedMatch) (adjacency : Nat) :
    (plan confidence found).Binds confidence [⟨[found], adjacency⟩] 1 := by
  constructor
  · refine (Source.params_joins confidence
      (List.forall_mem_singleton.2 (Source.binds_anchor rfl (by simp)))).trans ?_
    rfl
  · simp [plan, Condition.params_ofLabel]

theorem binds_planOf {schema : Schema} {linked : String → Bool} {confidence : Option Int64}
    {columns : List ResolvedColumn} {plan : Plan}
    (planned : planOf schema linked confidence columns
      (ResolvedColumn.strategy schema linked columns) = .ok plan) :
    plan.Binds confidence columns
      ((ResolvedColumn.strategy schema linked columns).measured schema linked columns) := by
  rcases planOf_cases planned with
    ⟨chain, turns, chosen, rfl⟩ | ⟨found, chosen, rfl⟩ | ⟨turns, words, chosen, rfl⟩
  · have columnsOf := (ResolvedColumn.chain?_spec (ResolvedColumn.chain?_of_strategy chosen)).1
    rw [chosen]
    have binds := chain.binds_plan schema turns confidence
    rw [← columnsOf] at binds
    simpa [Strategy.measured, columnsOf] using binds
  · obtain ⟨adjacency, same⟩ := ResolvedColumn.eq_of_span? (ResolvedColumn.span?_of_strategy chosen)
    rw [chosen, same]
    exact SpanScan.binds_plan confidence found adjacency
  · rw [chosen]
    exact Setting.binds_plan ⟨schema, turns, words, linked, confidence⟩ columns

/-! ### Filters -/

end Search

namespace Access

/-- The values that a restriction binds. -/
def values : Access → List Param
  | .condition fragment => fragment.params
  | .user id => [.text id, .text id]

/-- The rows of roles bind the user, before what ties them to the graph. -/
theorem params_permitted {permitted : Select} (bare : permitted.subquery.params = [])
    (unlimited : permitted.order = [] ∧ permitted.limit = none) (id : String) {graph : Fragment}
    (bareGraph : graph.params = []) (row : String)
    (visible : Text.allBlank (row ++ "." ++ "ag_id") = false) :
    ((permitted.restrict [.column "role" "user_id", .words " = ", .bound (.text id)]).restrict
      (.column row "ag_id" :: .words " = " :: graph)).subquery.params = [.text id] := by
  have shown : Text.allBlank (Piece.column row "ag_id").sql = false := visible
  have userShown : Text.allBlank (Piece.column "role" "user_id").sql = false := by decide
  have before := (Select.params_render " " permitted).symm.trans bare
  simp only [unlimited, List.flatMap_nil, Option.toList_none, List.append_nil,
    List.append_eq_nil_iff] at before
  rw [Select.restrict_of_visible _ shown, Select.restrict_of_visible _ userShown, Select.subquery,
    Select.params_render]
  simp [before, unlimited, bareGraph, Piece.params]

theorem params_restriction (access : Access) {graph : Fragment} (bare : graph.params = []) :
    (access.restriction graph).params = access.values := by
  cases access with
  | condition fragment => exact Fragment.params_parenthesized fragment
  | user id =>
      have attributes : (byAttribute id graph).params = [.text id] := by
        unfold byAttribute
        rw [Fragment.params_cons, Fragment.params_parenthesized,
          params_permitted (by decide) ⟨rfl, rfl⟩ id bare _ (by decide)]
        rfl
      have corpora : (byCorpus id graph).params = [.text id] := by
        unfold byCorpus
        rw [Fragment.params_cons, Fragment.params_parenthesized,
          params_permitted (by decide) ⟨rfl, rfl⟩ id bare _ (by decide)]
        rfl
      simp [restriction, values, Fragment.disjunction, Fragment.join, attributes, corpora,
        Piece.params]

end Access

namespace Search

namespace Options

variable {graph : Fragment} {speaker : Option Fragment}

/-- The values of what confines a search, in the order of the filters. -/
def values (options : Options) : List Param :=
  options.transcripts.toList.flatMap Fragment.params ++
    options.participants.toList.flatMap Fragment.params ++
    options.access.toList.flatMap Access.values

section

variable (bare : graph.params = []) (bareSpeaker : ∀ fragment ∈ speaker, fragment.params = [])

include bare bareSpeaker

theorem params_joins (options : Options) :
    (options.joins graph speaker).flatMap (fun join => join.render.params) = [] := by
  have inner (source : Fragment) (row : String) (on : List Fragment) (free : source.params = [])
      (unbound : ∀ condition ∈ on, condition.params = []) :
      (Join.inner source row on).render.params = [] := by
    rw [Join.inner, Join.foldl_adding, Join.params_render_of_bare free]
    exact List.flatMap_eq_nil_iff.2 fun condition member =>
      unbound condition (List.mem_filter.1 member).1
  unfold joins
  split
  · cases speaker with
    | none =>
        simp [mainParticipantJoin, inner, Piece.params, bare]
    | some fragment =>
        simp [mainParticipantJoin, inner, Piece.params, bare, bareSpeaker fragment rfl]
  · rfl

theorem params_conditions (options : Options) :
    (options.conditions graph speaker).flatMap Fragment.params = options.values := by
  have participant (filter : Fragment) :
      (participantCondition graph speaker filter).params = filter.params := by
    cases speaker with
    | none => simp [participantCondition, Piece.params, bare]
    | some fragment => simp [participantCondition, Piece.params, bareSpeaker fragment rfl]
  unfold conditions values
  cases options.transcripts <;> cases options.participants <;>
    cases options.mainParticipantOnly <;> cases options.access <;>
    simp [transcriptCondition, participant, Piece.params, bare, Access.params_restriction _ bare]

end

end Options

/-! ### Searches -/

theorem Result.params_columns (result : Result) (searchId : Int64) :
    (result.columns searchId).flatMap Fragment.params = [.integer searchId] := by
  have orNull (cell : Option Cell) : (orNull cell).params = [] := by
    cases cell <;> rfl
  have speaker : (result.speaker?.getD [.words "NULL"]).params = [] := by
    unfold speaker?
    cases result.placing <;> rfl
  simp [columns, orNull, speaker, uidFrom, apply, Cell.piece, Piece.params]

theorem Plan.params_restricted {confidence : Option Int64} {columns : List ResolvedColumn}
    {count : Nat} {plan : Plan} (binds : plan.Binds confidence columns count) (options : Options) :
    (plan.restricted options).statement.params =
      .integer options.searchId ::
        (confidence.toList.flatMap fun least => List.replicate count (.integer least)) ++
        (columns.flatMap fun resolved => resolved.found.flatMap (·.wanted.values)) ++
        options.values := by
  have bareGraph : Fragment.params [plan.result.graph.piece] = [] := rfl
  have bareSpeaker : ∀ speaker ∈ plan.result.speaker?, Fragment.params speaker = [] := by
    intro speaker known
    obtain ⟨place, -, rfl⟩ := Option.map_eq_some_iff.1 known
    rfl
  have order : (plan.order.map fun cell => [cell.piece]).flatMap Fragment.params = [] := by
    rw [List.flatMap_map]
    exact List.flatMap_eq_nil_iff.2 fun _ _ => rfl
  have conditions : (plan.conditions.map Condition.fragment).flatMap Fragment.params =
      columns.flatMap fun resolved => resolved.found.flatMap (·.wanted.values) := by
    rw [List.flatMap_map, binds.conditions]
  rw [Select.statement, Select.params_render]
  simp only [restricted, Options.restrict, select, List.flatMap_append, Result.params_columns,
    params_relation, binds.joins, conditions, order,
    Options.params_joins bareGraph bareSpeaker, Options.params_conditions bareGraph bareSpeaker]
  simp [Piece.params]

/-- The values of a search are its number, the threshold for each anchor that has to
reach it, what the matches ask of labels, match after match, and the values of the
filters. -/
theorem params_of_select {schema : Schema} {linked : String → Bool} {options : Options}
    {matrix : Matrix} {columns : List ResolvedColumn} {statement : Select}
    (resolved : matrix.resolve schema = .ok columns)
    (selected : matrix.select schema linked options = .ok statement) :
    statement.statement.params =
      .integer options.searchId ::
        (options.minConfidence.toList.flatMap fun least =>
          List.replicate
            ((ResolvedColumn.strategy schema linked columns).measured schema linked columns)
            (.integer least)) ++
        (matrix.columns.flatMap fun column => column.layers.flatMap LayerMatch.values) ++
        options.values := by
  obtain ⟨others, plan, same, planned, rfl⟩ := Matrix.plan_of_select selected
  obtain rfl := Except.ok.inj (resolved.symm.trans same)
  have values : (columns.flatMap fun resolved => resolved.found.flatMap (·.wanted.values)) =
      matrix.columns.flatMap fun column => column.layers.flatMap LayerMatch.values := by
    have wanted := congrArg (List.flatMap (List.flatMap LayerMatch.values))
      (Matrix.wanted_of_resolve resolved)
    simpa only [List.flatMap_map] using wanted
  rw [Plan.params_restricted (binds_planOf planned), values]

theorem fourIntervals_params : ∃ statement,
    AroundWords.matrix.select AroundWords.schema AroundWords.linked AroundWords.options =
      .ok statement ∧
    statement.statement.params =
      .integer 9 :: List.replicate 10 (.integer 50) ++
        [.text "^(a|the)$", .number (.zero false), .text "t1", .text "u1", .text "u1"] := by
  have resolved : ∃ columns, AroundWords.matrix.resolve AroundWords.schema = .ok columns ∧
      (ResolvedColumn.strategy AroundWords.schema AroundWords.linked columns).measured
        AroundWords.schema AroundWords.linked columns = 10 :=
    ⟨_, rfl, by decide +kernel⟩
  obtain ⟨columns, resolved, measured⟩ := resolved
  refine ⟨_, rfl, ?_⟩
  rw [params_of_select resolved rfl, measured]
  decide +kernel

end Search

end CorpusQuery
