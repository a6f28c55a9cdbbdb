import CorpusQuery.Proofs.Search.Bindings
import CorpusQuery.Proofs.Search.Scope

namespace CorpusQuery

/-! Which anchors a search checks the status of.  All that have to be there are checked
where they are joined, each of them once.  What is left to show of a plan is for which
ends of its interval there are such anchors. -/

open Sql

/-! ### Conditions on the status -/

namespace Sql

def Piece.isStatus : Piece → Bool
  | .column _ name => name == "alignment_status"
  | _ => false

namespace Piece

@[simp] theorem isStatus_words (text : String) : (words text).isStatus = false :=
  rfl

@[simp] theorem isStatus_and : and.isStatus = false :=
  rfl

@[simp] theorem isStatus_bound (value : Param) : (bound value).isStatus = false :=
  rfl

end Piece

/-- No column in the fragment is the status of an anchor. -/
def Fragment.IsStatusFree (fragment : Fragment) : Prop :=
  ∀ piece ∈ fragment, piece.isStatus = false

instance (fragment : Fragment) : Decidable fragment.IsStatusFree :=
  inferInstanceAs (Decidable (∀ piece ∈ fragment, _))

namespace Fragment

theorem IsStatusFree.any_eq_false {fragment : Fragment} (free : fragment.IsStatusFree) :
    fragment.any Piece.isStatus = false :=
  List.any_eq_false.2 fun piece member => Bool.eq_false_iff.1 (free piece member)

theorem additive_isStatusFree : Additive IsStatusFree :=
  additive_forall_mem _

theorem IsStatusFree.append {left right : Fragment} (first : left.IsStatusFree)
    (second : right.IsStatusFree) : (left ++ right).IsStatusFree :=
  List.forall_mem_append.2 ⟨first, second⟩

theorem IsStatusFree.words {rest : Fragment} (others : rest.IsStatusFree) (text : String) :
    IsStatusFree (.words text :: rest) :=
  List.forall_mem_cons.2 ⟨rfl, others⟩

theorem isStatusFree_words (text : String) : IsStatusFree [.words text] :=
  List.forall_mem_singleton.2 rfl

theorem IsStatusFree.parenthesized {fragment : Fragment} (free : fragment.IsStatusFree) :
    fragment.parenthesized.IsStatusFree :=
  IsStatusFree.append (List.forall_mem_cons.2 ⟨rfl, free⟩) (List.forall_mem_singleton.2 rfl)

theorem IsStatusFree.disjunction {fragments : List Fragment}
    (all : ∀ fragment ∈ fragments, fragment.IsStatusFree) : (disjunction fragments).IsStatusFree :=
  additive_isStatusFree.join (by decide) all

theorem IsGiven.isStatusFree {fragment : Fragment} (given : fragment.IsGiven) :
    fragment.IsStatusFree := by
  intro piece member
  obtain ⟨sql, params, rfl⟩ := given piece member
  rfl

end Fragment

namespace Join

/-- An anchor that has to be there. -/
def IsAnchor (join : Join) : Prop :=
  join.kind = .inner ∧ join.source = [.words "anchor"]

def statusConditions (join : Join) : List Fragment :=
  join.on.filter (·.any Piece.isStatus)

/-- The status is asked for once, and has to be the threshold or better. -/
def Reaches (least : Int64) (join : Join) : Prop :=
  join.statusConditions =
    [[.column join.row "alignment_status", .words " >= ", .bound (.integer least)]]

theorem isStatusFree_inner {source : Fragment} (bare : source.IsStatusFree) {row : String}
    {on : List Fragment} (all : ∀ condition ∈ on, condition.IsStatusFree) :
    (inner source row on).render.IsStatusFree := by
  rw [inner_eq]
  have named : Fragment.IsStatusFree [.named row] := List.forall_mem_singleton.2 rfl
  exact holds_render Fragment.additive_isStatusFree (by decide)
    (fun _ _ => Fragment.isStatusFree_words _) named bare fun condition member =>
      all condition (List.mem_filter.1 member).1

end Join

/-- Rows without an order of their own, under conditions that are not on the status. -/
theorem isStatusFree_existing {select : Select} (into : select.into = none)
    (order : select.order = []) (limit : select.limit = none)
    (clauses : ∀ clause ∈ select.columns ++ select.source :: select.joins.map Join.render ++
      select.conditions, clause.IsStatusFree) : (existing select).IsStatusFree := by
  refine Fragment.IsStatusFree.words (Fragment.IsStatusFree.parenthesized ?_) _
  simp only [List.forall_mem_append, List.forall_mem_cons, List.forall_mem_map] at clauses
  obtain ⟨⟨columns, source, joins⟩, conditions⟩ := clauses
  exact Select.holds_render Fragment.additive_isStatusFree (by decide)
    (fun _ _ => Fragment.isStatusFree_words _) (by simp [into]) columns source joins conditions
    (by simp [order]) (by simp [limit])

end Sql

/-! ### What confines a search -/

namespace Access

variable {graph : Fragment} (free : graph.IsStatusFree)

include free

/-- What a role of a user permits, for rows of the graph. -/
theorem isStatusFree_permitted {permitted : Select} (into : permitted.into = none)
    (order : permitted.order = []) (limit : permitted.limit = none)
    (clauses : ∀ clause ∈ permitted.columns ++ permitted.source ::
      permitted.joins.map Join.render ++ permitted.conditions, clause.IsStatusFree)
    (id : String) {piece : Piece} (visible : Text.allBlank piece.sql = false)
    (other : piece.isStatus = false) :
    (existing ((permitted.restrict [.column "role" "user_id", .words " = ",
      .bound (.text id)]).restrict (piece :: .words " = " :: graph))).IsStatusFree := by
  rw [Select.restrict_of_visible _ visible, Select.restrict_of_visible _ (by decide)]
  refine isStatusFree_existing into order limit ?_
  rw [← List.append_assoc, ← List.append_assoc]
  refine List.forall_mem_append.2 ⟨List.forall_mem_append.2 ⟨clauses, ?_⟩, ?_⟩
  · exact List.forall_mem_singleton.2 (by simp [Fragment.IsStatusFree, Piece.isStatus])
  · exact List.forall_mem_singleton.2 (List.forall_mem_cons.2 ⟨other, free.words _⟩)

theorem isStatusFree_restriction {access : Access} (given : access.IsGiven) :
    (access.restriction graph).IsStatusFree := by
  cases access with
  | condition fragment =>
      exact Fragment.IsStatusFree.parenthesized (Fragment.IsGiven.isStatusFree given)
  | user id =>
      refine Fragment.IsStatusFree.parenthesized (Fragment.IsStatusFree.disjunction ?_)
      refine List.forall_mem_cons.2 ⟨?_, List.forall_mem_singleton.2 ?_⟩
      · exact isStatusFree_permitted free rfl rfl rfl (by decide +kernel) id (by decide) rfl
      · exact isStatusFree_permitted free rfl rfl rfl (by decide +kernel) id (by decide) rfl

end Access

namespace Search

theorem Options.isStatusFree_conditions {options : Options} (given : options.IsGiven)
    {graph : Fragment} (graphFree : graph.IsStatusFree) {speaker : Option Fragment}
    (speakerFree : ∀ fragment ∈ speaker, Fragment.IsStatusFree fragment) :
    ∀ condition ∈ options.conditions graph speaker, condition.IsStatusFree := by
  have among {item filter : Fragment} (free : item.IsStatusFree) (isGiven : filter.IsGiven) :
      Fragment.IsStatusFree (item ++ .words " IN " :: filter.parenthesized) :=
    free.append (isGiven.isStatusFree.parenthesized.words _)
  have participant (filter : Fragment) (isGiven : filter.IsGiven) :
      (participantCondition graph speaker filter).IsStatusFree := by
    cases speaker with
    | none =>
        have listed : Fragment.IsStatusFree
            (.words "SELECT ag_id FROM transcript_speaker WHERE speaker_number IN " ::
              filter.parenthesized) := isGiven.isStatusFree.parenthesized.words _
        exact graphFree.append (listed.parenthesized.words _)
    | some fragment => exact among (speakerFree fragment rfl) isGiven
  refine List.forall_mem_append.2 ⟨List.forall_mem_append.2 ⟨List.forall_mem_append.2
    ⟨List.forall_mem_map.2 ?_, List.forall_mem_map.2 ?_⟩, ?_⟩, List.forall_mem_map.2 ?_⟩
  · exact fun filter member =>
      among graphFree (given.transcripts filter (Option.mem_toList.1 member))
  · exact fun filter member =>
      participant filter (given.participants filter (Option.mem_toList.1 member))
  · split <;> decide
  · exact fun access member =>
      access.isStatusFree_restriction graphFree (given.access access (Option.mem_toList.1 member))

/-- The main participant is no anchor, and its status is not asked for. -/
theorem Options.joins_spec (options : Options) {graph : Fragment} (graphFree : graph.IsStatusFree)
    {speaker : Option Fragment}
    (speakerFree : ∀ fragment ∈ speaker, Fragment.IsStatusFree fragment) :
    ∀ join ∈ options.joins graph speaker,
      ¬join.IsAnchor ∧ ∀ condition ∈ join.on, condition.IsStatusFree := by
  unfold joins
  split
  · have ofRow (column : String) (other : (column == "alignment_status") = false)
        {fragment : Fragment} (free : fragment.IsStatusFree) :
        Fragment.IsStatusFree ([.column "main_participant" column, .words " = "] ++ fragment) :=
      List.forall_mem_cons.2 ⟨other, free.words _⟩
    refine List.forall_mem_singleton.2 ?_
    cases speaker with
    | none =>
        have other : Fragment.parenthesized
            [.words "SELECT ag_id, MAX(main_speaker) AS main_speaker ",
              .words "FROM transcript_speaker GROUP BY ag_id"] ≠ [.words "anchor"] := by decide
        rw [mainParticipantJoin, Join.inner_eq]
        refine ⟨fun isAnchor => absurd isAnchor.2 other, fun condition member => ?_⟩
        obtain rfl := List.mem_singleton.1 (List.mem_filter.1 member).1
        exact ofRow "ag_id" (by decide) graphFree
    | some fragment =>
        have other : ([.words "transcript_speaker"] : Fragment) ≠ [.words "anchor"] := by decide
        rw [mainParticipantJoin, Join.inner_eq]
        refine ⟨fun isAnchor => absurd isAnchor.2 other, fun condition member => ?_⟩
        have either := (List.mem_filter.1 member).1
        simp only [List.mem_cons, List.not_mem_nil, or_false] at either
        rcases either with rfl | rfl
        · exact ofRow "ag_id" (by decide) graphFree
        · exact ofRow "speaker_number" (by decide) (speakerFree fragment rfl)
  · simp

/-! ### Ties -/

/-- The cell is the status of an anchor. -/
def Cell.isStatus (cell : Cell) : Bool :=
  cell.column == "alignment_status"

@[simp] theorem Cell.isStatus_piece (cell : Cell) : cell.piece.isStatus = cell.isStatus :=
  rfl

@[simp] theorem Alias.isStatus_cells (row : Alias) :
    row.id.isStatus = false ∧ row.graph.isStatus = false ∧ row.label.isStatus = false ∧
      row.turnId.isStatus = false ∧ row.wordId.isStatus = false ∧
      row.ordinalInTurn.isStatus = false ∧ row.ordinalInWord.isStatus = false := by
  simp +decide [Cell.isStatus, id, graph, label, turnId, wordId, ordinalInTurn, ordinalInWord]

@[simp] theorem Alias.isStatus_edges (row : Alias) (edge : Edge) :
    (row.anchorId edge).isStatus = false ∧ (row.offset edge).isStatus = false := by
  cases edge <;> simp +decide [Cell.isStatus, anchorId, offset, Edge.name]

@[simp] theorem Alias.isStatus_wordOf (schema : Schema) (layer : TimedLayer) (row : Alias) :
    (row.wordOf schema layer).isStatus = false := by
  unfold wordOf
  split <;> simp

@[simp] theorem Cell.isStatus_columns (row : Alias) :
    isStatus ⟨row, "anchor_id"⟩ = false ∧ isStatus ⟨row, "offset"⟩ = false := by
  simp +decide [isStatus]

/-- No cell of the tie is the status of an anchor. -/
def Tie.IsStatusFree : Tie → Prop
  | .compare _ left right => left.isStatus = false ∧ right.isStatus = false
  | .following left right => left.isStatus = false ∧ right.isStatus = false
  | .preceding left right => left.isStatus = false ∧ right.isStatus = false
  | .within _ left right => left.isStatus = false ∧ right.isStatus = false
  | .trusted .. => False

namespace Tie

section

variable {left right : Cell}

@[simp] theorem isStatusFree_compare {ordering : Ordering} :
    (compare ordering left right).IsStatusFree ↔
      left.isStatus = false ∧ right.isStatus = false :=
  Iff.rfl

@[simp] theorem isStatusFree_equal :
    (equal left right).IsStatusFree ↔ left.isStatus = false ∧ right.isStatus = false :=
  Iff.rfl

@[simp] theorem isStatusFree_following :
    (following left right).IsStatusFree ↔ left.isStatus = false ∧ right.isStatus = false :=
  Iff.rfl

@[simp] theorem isStatusFree_preceding :
    (preceding left right).IsStatusFree ↔ left.isStatus = false ∧ right.isStatus = false :=
  Iff.rfl

end

@[simp] theorem isStatusFree_adjacent (distance : Nat) (later earlier : Alias) :
    (adjacent distance later earlier).IsStatusFree := by
  unfold adjacent
  split <;> simp [IsStatusFree]

theorem IsStatusFree.fragment {tie : Tie} (free : tie.IsStatusFree) :
    tie.fragment.IsStatusFree := by
  cases tie with
  | compare ordering left right => simpa [Tie.fragment, Fragment.IsStatusFree] using free
  | following left right => simpa [Tie.fragment, Fragment.IsStatusFree] using free
  | preceding left right => simpa [Tie.fragment, Fragment.IsStatusFree] using free
  | within distance left right =>
      obtain ⟨first, second⟩ := free
      simp [Tie.fragment, Fragment.IsStatusFree, first, second]
  | trusted anchor threshold => contradiction

end Tie

/-! ### Sources -/

/-- What a source has to do with the status of anchors.  One of a layer's rows has
nothing to do with it, an anchor that has to be there is checked if there is a threshold,
and one that may be missing is not. -/
inductive Source.IsChecked (confidence : Option Int64) : Source → Prop
  | ofLayer {source : Source} {table : Int64} (ofTable : source.table = .layer table)
      (other : source.row.isMeasured = false) (free : ∀ tie ∈ source.ties, tie.IsStatusFree) :
      IsChecked confidence source
  | anchor (row : Alias) (edge : Edge) {ties : List Tie} (free : ∀ tie ∈ ties, tie.IsStatusFree) :
      IsChecked confidence (.anchor confidence row edge ties)
  | startIfAny {row : Alias} (neighbour : row.isNeighbour) :
      IsChecked confidence (Setting.startIfAny row)

theorem layerTable_ne_anchor (table : Int64) : layerTable table ≠ "anchor" := by
  intro same
  have chars : "annotation_layer_".toList ++ (Number.text table).toList = "anchor".toList :=
    String.toList_append.symm.trans (congrArg String.toList same)
  have third : ("annotation_layer_".toList ++ (Number.text table).toList)[2]? = some 'n' :=
    List.getElem?_append_left (by decide)
  rw [chars] at third
  exact absurd third (by decide)

namespace Source

variable {confidence : Option Int64} {source : Source}

theorem isChecked_thresholdAnchors (row : Alias) :
    ∀ source ∈ thresholdAnchors confidence row, source.IsChecked confidence := by
  unfold thresholdAnchors
  split
  · exact List.forall_mem_cons.2 ⟨.anchor row .start (by simp),
      List.forall_mem_singleton.2 (.anchor row .stop (by simp))⟩
  · simp

namespace IsChecked

theorem isStatusFree (checked : source.IsChecked none) :
    ∀ condition ∈ source.join.on, condition.IsStatusFree := by
  refine List.forall_mem_map.2 fun tie member => Tie.IsStatusFree.fragment ?_
  cases checked with
  | ofLayer ofTable other free => exact free tie member
  | anchor row edge free =>
      rcases List.mem_cons.1 member with rfl | later
      · simp
      · exact free tie later
  | startIfAny neighbour =>
      obtain rfl := List.mem_singleton.1 member
      simp

theorem reaches {least : Int64} (checked : source.IsChecked (some least))
    (isAnchor : source.join.IsAnchor) : source.join.Reaches least := by
  cases checked with
  | ofLayer ofTable other free =>
      have named : source.table.name = "anchor" := by
        simpa [Join.IsAnchor, Source.join] using isAnchor.2
      rw [ofTable] at named
      exact absurd named (layerTable_ne_anchor _)
  | anchor row edge free =>
      rename_i ties
      have tied : (Tie.equal ⟨row.anchor edge, "anchor_id"⟩
          (row.anchorId edge)).fragment.any Piece.isStatus = false :=
        (Tie.IsStatusFree.fragment (Tie.isStatusFree_equal.2 (by simp))).any_eq_false
      have others : (ties.map Tie.fragment).filter (·.any Piece.isStatus) = [] := by
        refine List.filter_eq_nil_iff.2 fun condition member => ?_
        obtain ⟨tie, inTies, rfl⟩ := List.mem_map.1 member
        exact Bool.eq_false_iff.1 (free tie inTies).fragment.any_eq_false
      change ((Tie.equal _ _).fragment :: (Tie.trusted (row.anchor edge) least).fragment ::
        ties.map Tie.fragment).filter (·.any Piece.isStatus) = _
      have trusted : (Tie.trusted (row.anchor edge) least).fragment.any Piece.isStatus = true :=
        Bool.or_eq_true_iff.2 (.inl rfl)
      simp only [List.filter_cons, tied, trusted, others, if_true, Bool.false_eq_true, if_false]
      rfl
  | startIfAny neighbour => exact absurd isAnchor.1 JoinKind.noConfusion

/-- The anchor of a row that is no neighbour has to be there. -/
theorem eq_anchor (checked : source.IsChecked confidence) {row : Alias} {edge : Edge}
    (same : source.row = .anchor row edge) (measured : (row.anchor edge).isMeasured) :
    ∃ ties, source = .anchor confidence row edge ties := by
  cases checked with
  | ofLayer ofTable other free =>
      rw [same, measured] at other
      contradiction
  | anchor inner innerEdge free =>
      cases same
      exact ⟨_, rfl⟩
  | startIfAny neighbour =>
      cases same
      cases row <;> contradiction

end IsChecked

end Source

/-! ### Conditions -/

namespace Condition

theorem isStatusFree_ofLabel {row : Alias} {wanted : LayerMatch} :
    ∀ condition ∈ ofLabel row wanted, condition.fragment.IsStatusFree := by
  have numeric (text : String) (value : Param) :
      Fragment.IsStatusFree (numericLabel row ++ [.words text, .bound value]) := by
    have label : (numericLabel row).IsStatusFree := by
      refine Fragment.IsStatusFree.words (Fragment.IsStatusFree.parenthesized ?_) _
      simp [Fragment.IsStatusFree]
    exact label.append (by simp [Fragment.IsStatusFree])
  have range : (Fragment.conjunction (bounds row wanted)).IsStatusFree := by
    refine Fragment.additive_isStatusFree.join (by decide) (List.forall_mem_append.2 ⟨?_, ?_⟩)
    · exact List.forall_mem_map.2 fun bound _ => numeric " >= " (.number bound)
    · exact List.forall_mem_map.2 fun bound _ => numeric " < " (.number bound)
  unfold ofLabel
  split
  · refine List.forall_mem_singleton.2 ?_
    unfold fragment labelFragment
    simp only
    split
    · simp [Fragment.IsStatusFree]
    · split
      · exact List.forall_mem_cons.2 ⟨rfl, range.parenthesized⟩
      · exact range
  · simp

theorem isStatusFree_first (word : Alias) : (first word).fragment.IsStatusFree := by
  simp [fragment, Fragment.IsStatusFree]

theorem isStatusFree_absent (row : Alias) : (absent row).fragment.IsStatusFree := by
  simp [fragment, Fragment.IsStatusFree]

theorem isStatusFree_absentOr (row : Alias) {tie : Tie} (free : tie.IsStatusFree) :
    (absentOr row tie).fragment.IsStatusFree := by
  refine Fragment.IsStatusFree.parenthesized (Fragment.IsStatusFree.disjunction ?_)
  refine List.forall_mem_cons.2 ⟨?_, List.forall_mem_singleton.2 free.fragment⟩
  simp [Fragment.IsStatusFree]

theorem isStatusFree_noOtherWord (words : TimedLayer) {ties : List Tie}
    (free : ∀ tie ∈ ties, tie.IsStatusFree) : (noOtherWord words ties).fragment.IsStatusFree := by
  refine List.forall_mem_cons.2 ⟨rfl, isStatusFree_existing rfl rfl rfl ?_⟩
  have source : (relation (layerTable words.table) Alias.otherWord.name).IsStatusFree := by
    unfold relation
    split <;> exact List.forall_mem_cons.2 ⟨rfl, by decide⟩
  refine List.forall_mem_append.2 ⟨List.forall_mem_cons.2 ⟨by decide, List.forall_mem_cons.2
    ⟨source, ?_⟩⟩, List.forall_mem_map.2 fun tie member => (free tie member).fragment⟩
  exact List.forall_mem_singleton.2 (Join.isStatusFree_inner (by decide) (by decide))

end Condition

/-! ### Parts and blocks -/

structure Part.IsChecked (confidence : Option Int64) (part : Part) : Prop where
  sources : ∀ source ∈ part.sources, source.IsChecked confidence
  conditions : ∀ condition ∈ part.conditions, condition.fragment.IsStatusFree

namespace Setting

variable (setting : Setting)

theorem isChecked_ofLayer {confidence : Option Int64} (layer : TimedLayer) {row : Alias}
    (other : row.isMeasured = false) {ties : List Tie} (free : ∀ tie ∈ ties, tie.IsStatusFree) :
    (Source.ofLayer layer row ties).IsChecked confidence :=
  .ofLayer rfl other free

theorem isChecked_nextWord (column : Nat) (word : WordRow) :
    (setting.nextWord column word).IsChecked setting.confidence :=
  .ofLayer rfl rfl (by simp [nextWord])

theorem isChecked_previousWord (column : Nat) (word : WordRow) :
    (setting.previousWord column word).IsChecked setting.confidence :=
  .ofLayer rfl rfl (by simp [previousWord])

theorem isChecked_turnPart (column : Nat) (word : WordRow) (found : ResolvedMatch) :
    (setting.turnPart column word found).IsChecked setting.confidence := by
  have next := setting.isChecked_nextWord column word
  constructor <;> cases atStart : found.wanted.anchoredStart <;>
    cases atEnd : found.wanted.anchoredEnd <;>
    simp [turnPart, atStart, atEnd, next, Condition.isStatusFree_first,
      Condition.isStatusFree_absent]

theorem isChecked_covering (word : WordRow) (found : ResolvedMatch) (column place : Nat)
    {tie : Tie} (free : tie.IsStatusFree) :
    ∀ source ∈ setting.covering word found (.found column place) tie,
      source.IsChecked setting.confidence := by
  refine List.forall_mem_cons.2 ⟨.anchor _ _ (by simp), List.forall_mem_cons.2
    ⟨isChecked_ofLayer _ rfl (by simpa using free), List.forall_mem_cons.2
      ⟨.anchor _ _ (by simp), List.forall_mem_singleton.2 (.anchor _ _ (by simp))⟩⟩⟩

theorem isChecked_intervalPart (word : WordRow) (found : ResolvedMatch) (column place : Nat)
    {tie otherTie : Tie} (free : tie.IsStatusFree) (otherFree : otherTie.IsStatusFree) :
    (setting.intervalPart word found (.found column place) tie otherTie).IsChecked
      setting.confidence := by
  unfold intervalPart
  split
  · refine ⟨List.forall_mem_singleton.2 (isChecked_ofLayer _ rfl ?_), by simp⟩
    cases atStart : found.wanted.anchoredStart <;> cases atEnd : found.wanted.anchoredEnd <;>
      simp [free]
  · refine ⟨setting.isChecked_covering word found column place free,
      List.forall_mem_append.2 ⟨?_, ?_⟩⟩
    · split
      · exact List.forall_mem_singleton.2
          (Condition.isStatusFree_noOtherWord _ (by simp [otherFree]))
      · simp
    · split
      · exact List.forall_mem_singleton.2
          (Condition.isStatusFree_noOtherWord _ (by simp [otherFree]))
      · simp

theorem isChecked_utterancePart (column place : Nat) (word : WordRow) (found : ResolvedMatch)
    {tie : Tie} (free : tie.IsStatusFree) :
    (setting.utterancePart column word found (.found column place) tie).IsChecked
      setting.confidence := by
  have next := setting.isChecked_nextWord column word
  have previous := setting.isChecked_previousWord column word
  refine ⟨List.forall_mem_append.2 ⟨List.forall_mem_append.2
    ⟨setting.isChecked_covering word found column place free, ?_⟩, ?_⟩,
      List.forall_mem_append.2 ⟨?_, ?_⟩⟩
  · split
    · exact List.forall_mem_cons.2 ⟨previous, List.forall_mem_singleton.2 (.startIfAny rfl)⟩
    · simp
  · split
    · exact List.forall_mem_cons.2 ⟨next, List.forall_mem_singleton.2 (.startIfAny rfl)⟩
    · simp
  · split
    · exact List.forall_mem_singleton.2 (Condition.isStatusFree_absentOr _ (by simp))
    · simp
  · split
    · exact List.forall_mem_singleton.2 (Condition.isStatusFree_absentOr _ (by simp))
    · simp

theorem isChecked_withinWordPart (word : WordRow) (found : ResolvedMatch) (column place : Nat)
    {number : Cell} (free : number.isStatus = false) (earlier : Option Alias) :
    (setting.withinWordPart word found (.found column place) number earlier).IsChecked
      setting.confidence :=
  ⟨List.forall_mem_singleton.2 (isChecked_ofLayer _ rfl (by simp [wordNumber, free])),
    by simp [withinWordPart]⟩

theorem isChecked_structuralPart (column place : Nat) (word : WordRow) (earlier : Option Alias)
    (found : ResolvedMatch) :
    (setting.structuralPart column place word earlier found).IsChecked setting.confidence := by
  unfold structuralPart
  simp only
  split
  · exact ⟨by simp, by simp⟩
  · split
    · exact setting.isChecked_turnPart column word found
    · split
      · exact setting.isChecked_withinWordPart word found _ _ (by simp) none
      · exact setting.isChecked_withinWordPart word found _ _ (by simp) earlier
      · split
        · exact setting.isChecked_utterancePart column place word found (by simp)
        · exact setting.isChecked_intervalPart word found _ _ (by simp) (by simp)
      · exact setting.isChecked_intervalPart word found _ _ (by simp) (by simp)

theorem isChecked_part (column place : Nat) (word : WordRow) (earlier : Option Alias)
    (found : ResolvedMatch) :
    (setting.part column place word earlier found).IsChecked setting.confidence := by
  obtain ⟨sources, conditions⟩ := setting.isChecked_structuralPart column place word earlier found
  exact ⟨sources, List.forall_mem_append.2 ⟨conditions, Condition.isStatusFree_ofLabel⟩⟩

theorem isChecked_partsFrom (column : Nat) (word : WordRow) (place : Nat)
    (earlier : Option Alias) (found : List ResolvedMatch) :
    ∀ part ∈ setting.partsFrom column word place earlier found,
      part.IsChecked setting.confidence := by
  induction found generalizing place earlier with
  | nil => simp [partsFrom]
  | cons first rest ih => exact List.forall_mem_cons.2 ⟨setting.isChecked_part .., ih _ _⟩

theorem isChecked_blocksFrom (column : Nat) (earlier : Option Block)
    (columns : List ResolvedColumn) :
    ∀ block ∈ setting.blocksFrom column earlier columns,
      (∀ source ∈ block.sources setting, source.IsChecked setting.confidence) ∧
        ∀ part ∈ block.parts, part.IsChecked setting.confidence := by
  induction columns generalizing column earlier with
  | nil => simp [blocksFrom]
  | cons resolved rest ih =>
      have parts := setting.isChecked_partsFrom column
        (setting.word column resolved.found) 0 none resolved.found
      have word : (setting.word column resolved.found).row.isMeasured = false := by
        rcases setting.word_cases column resolved.found with same | ⟨place, _, same, _⟩ <;>
          rw [same] <;> rfl
      refine List.forall_mem_cons.2 ⟨⟨List.forall_mem_append.2 ⟨List.forall_mem_cons.2
        ⟨isChecked_ofLayer _ word (by simp), Source.isChecked_thresholdAnchors _⟩, ?_⟩, parts⟩,
          ih _ _⟩
      intro source member
      obtain ⟨part, within, inside⟩ := List.mem_flatMap.1 member
      exact (parts part within).sources source inside

end Setting

/-! ### Plans -/

/-- All anchors that have to be there are checked, and nothing else is. -/
structure Plan.IsChecked (confidence : Option Int64) (plan : Plan) : Prop where
  joins : ∀ source ∈ plan.joins, source.IsChecked confidence
  conditions : ∀ condition ∈ plan.conditions, condition.fragment.IsStatusFree
  graph : plan.result.graph.isStatus = false

namespace Setting

variable (setting : Setting) (columns : List ResolvedColumn)

theorem isChecked_plan : (setting.plan columns).IsChecked setting.confidence where
  joins source member := by
    obtain ⟨block, within, inside⟩ := List.mem_flatMap.1 (Source.mem_of_mem_once member)
    exact (setting.isChecked_blocksFrom _ _ _ block within).1 source inside
  conditions condition member := by
    obtain ⟨part, inParts, inside⟩ := List.mem_flatMap.1 member
    obtain ⟨block, within, inBlock⟩ := List.mem_flatMap.1 inParts
    exact ((setting.isChecked_blocksFrom _ _ _ block within).2 part inBlock).conditions
      condition inside
  graph := by simp [plan, result]

/-- With a threshold, both anchors of each column's word are joined. -/
theorem anchor_mem_plan {least : Int64} (threshold : setting.confidence = some least)
    {block : Block} (within : block ∈ setting.blocksFrom 0 none columns) (edge : Edge) :
    .anchor block.word.row edge ∈ (setting.plan columns).joins.map Source.row := by
  refine Source.mem_rows_once.2 (List.mem_map.2 ?_)
  refine ⟨.anchor setting.confidence block.word.row edge [],
    List.mem_flatMap.2 ⟨block, within, List.mem_append_left _ (List.mem_cons_of_mem _ ?_)⟩, rfl⟩
  rw [Source.thresholdAnchors, threshold]
  cases edge <;> simp

theorem exists_block_of_columns (asked : columns ≠ []) :
    ∃ first ∈ setting.blocksFrom 0 none columns, ∃ last ∈ setting.blocksFrom 0 none columns,
      (setting.plan columns).result.start = first.word.row.anchorId .start ∧
      (setting.plan columns).result.stop = last.word.row.anchorId .stop := by
  obtain ⟨resolved, rest, rfl⟩ := List.exists_cons_of_ne_nil asked
  have some : setting.blocksFrom 0 none (resolved :: rest) ≠ [] := by simp [blocksFrom]
  refine ⟨_, List.head_mem some, _, List.getLast_mem some, ?_, ?_⟩
  · simp [plan, result, List.head?_eq_some_head some]
  · simp [plan, result, List.getLast?_eq_some_getLast some]

theorem isMeasured_word {block : Block} (within : block ∈ setting.blocksFrom 0 none columns)
    (edge : Edge) : (block.word.row.anchor edge).isMeasured := by
  have word : block.word ∈ (setting.blocksFrom 0 none columns).map Block.word :=
    List.mem_map_of_mem within
  rw [words_blocksFrom] at word
  obtain ⟨entry, -, same⟩ := List.mem_map.1 word
  exact same ▸ setting.measured_word entry.2 entry.1.found edge

end Setting

namespace WordChain

variable (schema : Schema) (turns : TimedLayer) (confidence : Option Int64) (chain : WordChain)

theorem isChecked_sourcesAfter (layer : TimedLayer) (column : Nat) (earlier : Link)
    (rest : List Link) :
    ∀ source ∈ sourcesAfter layer confidence column earlier rest, source.IsChecked confidence := by
  induction rest generalizing column earlier with
  | nil => simp [sourcesAfter]
  | cons link others ih =>
      refine List.forall_mem_cons.2 ⟨Setting.isChecked_ofLayer _ rfl (by simp), ?_⟩
      exact List.forall_mem_append.2 ⟨Source.isChecked_thresholdAnchors _, ih _ _⟩

theorem isChecked_plan : (chain.plan schema turns confidence).IsChecked confidence where
  joins := List.forall_mem_cons.2 ⟨Setting.isChecked_ofLayer _ rfl (by simp),
    List.forall_mem_append.2
      ⟨Source.isChecked_thresholdAnchors _, isChecked_sourcesAfter _ _ _ _ _⟩⟩
  conditions condition member := by
    obtain ⟨_, -, inside⟩ := List.mem_flatMap.1 member
    exact Condition.isStatusFree_ofLabel condition inside
  graph := by simp [plan, result]

theorem anchor_mem_plan {least : Int64} {column : Nat} (inside : column < chain.links.length)
    (edge : Edge) : .anchor (.found column 0) edge ∈
      (chain.plan schema turns (some least)).joins.map Source.row := by
  have among : .anchor (.found column 0) edge ∈ (chain.plan schema turns (some least)).rows := by
    refine (perm_rows_plan ..).mem_iff.2 (List.mem_cons_of_mem _
      (List.mem_flatMap.2 ⟨column, List.mem_range.2 inside, List.mem_cons_of_mem _ ?_⟩))
    cases edge <;> simp [Source.thresholdAnchors, Source.anchor]
  exact (List.mem_cons.1 among).resolve_left Alias.noConfusion

end WordChain

theorem SpanScan.isChecked_plan (confidence : Option Int64) (found : ResolvedMatch) :
    (plan confidence found).IsChecked confidence where
  joins := List.forall_mem_singleton.2 (.anchor _ _ (by simp))
  conditions := Condition.isStatusFree_ofLabel
  graph := by simp [plan]

/-! ### Statements -/

/-- The anchor at one end of the row is joined, and has to be there. -/
def JoinsAnchor (statement : Select) (row : Alias) (edge : Edge) : Prop :=
  ∃ join ∈ statement.joins, join.IsAnchor ∧
    [.column join.row "anchor_id", .words " = ", (row.anchorId edge).piece] ∈ join.on

namespace Plan

variable {plan : Plan} {confidence : Option Int64}

theorem isStatusFree_graph (checked : plan.IsChecked confidence) :
    Fragment.IsStatusFree [plan.result.graph.piece] :=
  List.forall_mem_singleton.2 checked.graph

theorem isStatusFree_speaker (plan : Plan) :
    ∀ speaker ∈ plan.result.speaker?, Fragment.IsStatusFree speaker := by
  intro speaker known
  obtain ⟨_, -, rfl⟩ := Option.map_eq_some_iff.1 known
  decide

theorem reaches_of_isChecked {least : Int64} (checked : plan.IsChecked (some least))
    (options : Options) :
    ∀ join ∈ (plan.restricted options).joins, join.IsAnchor → join.Reaches least := by
  refine List.forall_mem_append.2 ⟨List.forall_mem_map.2 fun source member => ?_, ?_⟩
  · exact (checked.joins source member).reaches
  · intro join member isAnchor
    exact absurd isAnchor (options.joins_spec (isStatusFree_graph checked)
      plan.isStatusFree_speaker join member).1

theorem isStatusFree_of_isChecked (checked : plan.IsChecked none) {options : Options}
    (given : options.IsGiven) :
    ∀ clause ∈ (plan.restricted options).joins.flatMap Join.on ++
      (plan.restricted options).conditions, clause.IsStatusFree := by
  refine List.forall_mem_append.2 ⟨fun clause member => ?_, List.forall_mem_append.2 ⟨?_, ?_⟩⟩
  · obtain ⟨join, within, inside⟩ := List.mem_flatMap.1 member
    rcases List.mem_append.1 within with own | ofOptions
    · obtain ⟨source, isSource, rfl⟩ := List.mem_map.1 own
      exact (checked.joins source isSource).isStatusFree clause inside
    · exact (options.joins_spec (isStatusFree_graph checked) plan.isStatusFree_speaker join
        ofOptions).2 clause inside
  · exact List.forall_mem_map.2 checked.conditions
  · exact Options.isStatusFree_conditions given (isStatusFree_graph checked)
      plan.isStatusFree_speaker

theorem joinsAnchor_of_mem (checked : plan.IsChecked confidence) (options : Options) {row : Alias}
    {edge : Edge} (measured : (row.anchor edge).isMeasured)
    (joined : .anchor row edge ∈ plan.joins.map Source.row) :
    JoinsAnchor (plan.restricted options) row edge := by
  obtain ⟨source, member, same⟩ := List.mem_map.1 joined
  obtain ⟨ties, rfl⟩ := (checked.joins source member).eq_anchor same measured
  exact ⟨_, List.mem_append_left _ (List.mem_map_of_mem member), ⟨rfl, rfl⟩,
    List.mem_cons_self ..⟩

end Plan

/-! ### The ends of what is reported -/

/-- What is reported goes from the start of one row to the end of another.  With a
threshold the anchor at the start is joined, and that at the end if `both` are. -/
structure Plan.Spans (plan : Plan) (confidence : Option Int64) (first last : Alias)
    (both : Prop) : Prop where
  start : plan.result.start = first.anchorId .start
  stop : plan.result.stop = last.anchorId .stop
  startJoined : ∀ least, confidence = some least → ∀ options,
    JoinsAnchor (plan.restricted options) first .start
  stopJoined : ∀ least, confidence = some least → ∀ options,
    (JoinsAnchor (plan.restricted options) last .stop ↔ both)

theorem WordChain.spans (schema : Schema) (turns : TimedLayer) (confidence : Option Int64)
    (chain : WordChain) :
    (chain.plan schema turns confidence).Spans confidence firstRow chain.lastRow True := by
  have joined {least : Int64} (threshold : confidence = some least) {column : Nat}
      (inside : column < chain.links.length) (edge : Edge) (options : Options) :
      JoinsAnchor ((chain.plan schema turns confidence).restricted options) (.found column 0)
        edge := by
    subst threshold
    exact Plan.joinsAnchor_of_mem (chain.isChecked_plan schema turns _) options rfl
      (chain.anchor_mem_plan schema turns inside edge)
  exact
    { start := rfl
      stop := rfl
      startJoined := fun _ threshold => joined threshold (Nat.succ_pos _) .start
      stopJoined := fun _ threshold options =>
        iff_of_true (joined threshold (Nat.lt_succ_self _) .stop options) trivial }

theorem Setting.exists_spans (setting : Setting) {columns : List ResolvedColumn}
    (asked : columns ≠ []) :
    ∃ first last, (setting.plan columns).Spans setting.confidence first last True := by
  obtain ⟨first, firstWithin, last, lastWithin, start, stop⟩ :=
    setting.exists_block_of_columns columns asked
  have joined {least : Int64} (threshold : setting.confidence = some least) {block : Block}
      (within : block ∈ setting.blocksFrom 0 none columns) (edge : Edge) (options : Options) :
      JoinsAnchor ((setting.plan columns).restricted options) block.word.row edge :=
    Plan.joinsAnchor_of_mem (setting.isChecked_plan columns) options
      (setting.isMeasured_word columns within edge)
      (setting.anchor_mem_plan columns threshold within edge)
  exact ⟨first.word.row, last.word.row,
    { start
      stop
      startJoined := fun _ threshold => joined threshold firstWithin .start
      stopJoined := fun _ threshold options =>
        iff_of_true (joined threshold lastWithin .stop options) trivial }⟩

/-- A scan of spans joins no anchor but that at the start. -/
theorem SpanScan.spans (confidence : Option Int64) (found : ResolvedMatch) :
    (plan confidence found).Spans confidence row row False := by
  have checked := isChecked_plan confidence found
  refine ⟨rfl, rfl, fun _ _ options => Plan.joinsAnchor_of_mem checked options rfl ?_,
    fun _ _ options => iff_of_false ?_ id⟩
  · exact List.mem_singleton_self _
  · rintro ⟨join, member, isAnchor, tied⟩
    rcases List.mem_append.1 member with own | ofOptions
    · obtain rfl := List.mem_singleton.1 own
      cases confidence <;>
        simp [Source.join, Source.anchor, Tie.equal, Tie.fragment, Cell.piece, Alias.anchorId,
          Edge.name] at tied
    · exact (options.joins_spec (Plan.isStatusFree_graph checked)
        (Plan.isStatusFree_speaker _) join ofOptions).1 isAnchor

theorem exists_spans_planOf {schema : Schema} {linked : String → Bool}
    {confidence : Option Int64} {columns : List ResolvedColumn} (asked : columns ≠ [])
    {strategy : Strategy} {plan : Plan}
    (planned : planOf schema linked confidence columns strategy = .ok plan) :
    plan.IsChecked confidence ∧ ∃ first last,
      plan.Spans confidence first last (∀ found, strategy ≠ .spanScan found) := by
  rcases planOf_cases planned with
    ⟨chain, turns, rfl, rfl⟩ | ⟨found, rfl, rfl⟩ | ⟨turns, words, rfl, rfl⟩
  · exact ⟨chain.isChecked_plan schema turns confidence, _, _, by
      simpa using chain.spans schema turns confidence⟩
  · exact ⟨SpanScan.isChecked_plan confidence found, _, _, by
      simpa using SpanScan.spans confidence found⟩
  · obtain ⟨first, last, spans⟩ :=
      Setting.exists_spans ⟨schema, turns, words, linked, confidence⟩ asked
    exact ⟨Setting.isChecked_plan ⟨schema, turns, words, linked, confidence⟩ columns, first, last,
      by simpa using spans⟩

/-- Where a threshold is set, each anchor that has to be there is checked once, and the
start of what is reported is such an anchor.  Its end is one too, unless the spans of one
layer are scanned.  Without a threshold nothing but the caller's own fragments may look
at the status of an anchor. -/
theorem anchors_checked {schema : Schema} {linked : String → Bool} {options : Options}
    {matrix : Matrix} {statement : Select}
    (selected : matrix.select schema linked options = .ok statement) :
    ∃ columns first last, matrix.resolve schema = .ok columns ∧
      statement.columns[3]? = some [(Alias.anchorId first .start).piece] ∧
      statement.columns[4]? = some [(Alias.anchorId last .stop).piece] ∧
      (∀ least, options.minConfidence = some least →
        (∀ join ∈ statement.joins, join.IsAnchor → join.Reaches least) ∧
        JoinsAnchor statement first .start ∧
        (JoinsAnchor statement last .stop ↔
          ∀ found, ResolvedColumn.strategy schema linked columns ≠ .spanScan found)) ∧
      (options.minConfidence = none →
        ∃ view, matrix.select schema linked options.asGiven = .ok view ∧
          view.statement.query = statement.statement.query ∧
          ∀ clause ∈ view.joins.flatMap Join.on ++ view.conditions, clause.IsStatusFree) := by
  obtain ⟨columns, plan, resolved, planned, rfl⟩ := Matrix.plan_of_select selected
  have asked := Matrix.columns_ne_nil_of_resolve resolved
  obtain ⟨checked, first, last, spans⟩ := exists_spans_planOf asked planned
  refine ⟨columns, first, last, resolved, ?_, ?_, fun least threshold => ⟨?_, ?_, ?_⟩,
    fun none => ⟨plan.restricted options.asGiven, ?_, plan.query_restricted_asGiven options, ?_⟩⟩
  · exact congrArg (fun cell => some [Cell.piece cell]) spans.start
  · exact congrArg (fun cell => some [Cell.piece cell]) spans.stop
  · exact Plan.reaches_of_isChecked (threshold ▸ checked) options
  · exact spans.startJoined least threshold options
  · exact spans.stopJoined least threshold options
  · exact Matrix.select_of_plan resolved planned
  · exact Plan.isStatusFree_of_isChecked (none ▸ checked) options.isGiven_asGiven

/-! ### Spans whose end is not checked -/

namespace FreeSpans

def matrix : Matrix :=
  ⟨[⟨[{ id := "topic", pattern := some "news" }], 1⟩]⟩

def options : Options :=
  { minConfidence := some 50 }

end FreeSpans

/-- Of what lies around words both ends are checked, of a span its start. -/
theorem freeSpans_checked :
    (∃ statement first,
      FreeSpans.matrix.select AroundWords.schema (fun _ => false) FreeSpans.options =
        .ok statement ∧
      statement.columns[3]? = some [(Alias.anchorId first .start).piece] ∧
      JoinsAnchor statement first .start ∧
      ∀ join ∈ statement.joins, join.IsAnchor → join.Reaches 50) ∧
    ∃ statement first last,
      AroundWords.matrix.select AroundWords.schema AroundWords.linked AroundWords.options =
        .ok statement ∧
      statement.columns[3]? = some [(Alias.anchorId first .start).piece] ∧
      statement.columns[4]? = some [(Alias.anchorId last .stop).piece] ∧
      JoinsAnchor statement first .start ∧ JoinsAnchor statement last .stop ∧
      ∀ join ∈ statement.joins, join.IsAnchor → join.Reaches 50 := by
  constructor
  · obtain ⟨_, first, _, -, start, -, checked, -⟩ := @anchors_checked AroundWords.schema
      (fun _ => false) FreeSpans.options FreeSpans.matrix _ rfl
    obtain ⟨reaches, joined, -⟩ := checked 50 rfl
    exact ⟨_, first, rfl, start, joined, reaches⟩
  · obtain ⟨columns, first, last, resolved, start, stop, checked, -⟩ := @anchors_checked
      AroundWords.schema AroundWords.linked AroundWords.options AroundWords.matrix _ rfl
    obtain rfl := Except.ok.inj (show Except.ok _ = Except.ok columns from resolved)
    obtain ⟨reaches, startJoined, stopJoined⟩ := checked 50 rfl
    refine ⟨_, first, last, rfl, start, stop, startJoined, stopJoined.2 fun found scan => ?_,
      reaches⟩
    cases show Strategy.general = .spanScan found from scan

/-- The topic is reported up to an anchor whose status nobody has looked at. -/
theorem freeSpans_end_unchecked : ∃ statement,
    FreeSpans.matrix.select AroundWords.schema (fun _ => false) FreeSpans.options =
      .ok statement ∧
    statement.columns[4]? = some [(SpanScan.row.anchorId .stop).piece] ∧
    ¬JoinsAnchor statement SpanScan.row .stop :=
  ⟨_, rfl, rfl, ((SpanScan.spans (some 50) _).stopJoined 50 rfl FreeSpans.options).1⟩

end Search

end CorpusQuery
