import CorpusQuery.Proofs.Search.Names
import CorpusQuery.Proofs.Sql.Evaluation
import CorpusQuery.Proofs.Sql.Likeness
import CorpusQuery.Search.Restriction
import CorpusQuery.Search.WordChain

namespace CorpusQuery

/-! Statements in which the graph and the turn of a match go by other names. -/

open Sql

/-! ### What confines a search -/

theorem Access.map_restriction_congr {f : Piece → Piece} {left right : Fragment}
    (same : left.map f = right.map f) (access : Access) :
    (access.restriction left).map f = (access.restriction right).map f := by
  cases access with
  | condition fragment => rfl
  | user id => exact alike_restriction_user (Fragment.compositional_map f).congruence rfl same

namespace Search

namespace Options

section

variable {f : Piece → Piece} {left right : Fragment} (same : left.map f = right.map f)

include same

theorem map_conditions_congr (options : Options) (speaker : Option Fragment) :
    (options.conditions left speaker).map (List.map f) =
      (options.conditions right speaker).map (List.map f) := by
  have transcripts : List.map f ∘ transcriptCondition left =
      List.map f ∘ transcriptCondition right := by
    funext filter
    simp only [Function.comp_apply, transcriptCondition, List.map_append, same]
  have participants : List.map f ∘ participantCondition left speaker =
      List.map f ∘ participantCondition right speaker := by
    funext filter
    cases speaker with
    | some speaker => rfl
    | none => simp only [Function.comp_apply, participantCondition, List.map_append, same]
  have restrictions : (List.map f ∘ fun access : Access => access.restriction left) =
      List.map f ∘ fun access : Access => access.restriction right :=
    funext fun access => Access.map_restriction_congr same access
  simp only [conditions, List.map_append, List.map_map, transcripts, participants, restrictions]

end

/-- The row of a speaker of a graph. -/
theorem mainParticipantJoin_some (graph speaker : Fragment) :
    mainParticipantJoin graph (some speaker) =
      ⟨.inner, [.words "transcript_speaker"], "main_participant",
        [.column "main_participant" "ag_id" :: .words " = " :: graph,
          .column "main_participant" "speaker_number" :: .words " = " :: speaker]⟩ := by
  have graphVisible := Fragment.isBlank_cons_of_visible
    (show Text.allBlank (Piece.column "main_participant" "ag_id").sql = false by decide)
  have speakerVisible := Fragment.isBlank_cons_of_visible
    (show Text.allBlank (Piece.column "main_participant" "speaker_number").sql = false by decide)
  simp [mainParticipantJoin, Join.inner, Join.adding, graphVisible, speakerVisible]

end Options

/-! ### The turn of the first word -/

open WordChain

/-- The graph and the turn of the first word, called by the turn's own columns. -/
def inTurn (piece : Piece) : Piece :=
  if piece = firstRow.graph.piece then Alias.turn.graph.piece
  else if piece = firstRow.turnId.piece then Alias.turn.id.piece
  else piece

@[simp] theorem inTurn_graph : inTurn firstRow.graph.piece = Alias.turn.graph.piece :=
  if_pos rfl

@[simp] theorem inTurn_turnId : inTurn firstRow.turnId.piece = Alias.turn.id.piece := by
  rw [inTurn, if_neg (by decide), if_pos rfl]

theorem inTurn_of_row_ne {cell : Cell} (other : cell.row ≠ firstRow) :
    inTurn cell.piece = cell.piece := by
  rw [inTurn, if_neg, if_neg]
  · exact fun same => other (congrArg Cell.row (Cell.piece_injective same))
  · exact fun same => other (congrArg Cell.row (Cell.piece_injective same))

@[simp] theorem inTurn_words (text : String) : inTurn (.words text) = .words text := rfl

@[simp] theorem inTurn_turn_graph : inTurn Alias.turn.graph.piece = Alias.turn.graph.piece :=
  inTurn_of_row_ne (by decide)

@[simp] theorem inTurn_turn_id : inTurn Alias.turn.id.piece = Alias.turn.id.piece :=
  inTurn_of_row_ne (by decide)

theorem params_map_inTurn (fragment : Fragment) :
    Fragment.params (fragment.map inTurn) = fragment.params := by
  induction fragment with
  | nil => rfl
  | cons piece rest ih =>
      have own : (inTurn piece).params = piece.params := by
        unfold inTurn
        split
        · rename_i same; rw [same]; rfl
        · split
          · rename_i same; rw [same]; rfl
          · rfl
      rw [List.map_cons, Fragment.params_cons, Fragment.params_cons, own, ih]

theorem flatMap_params_congr {left right : List Fragment}
    (same : left.map (List.map inTurn) = right.map (List.map inTurn)) :
    left.flatMap Fragment.params = right.flatMap Fragment.params := by
  have onMapped (fragments : List Fragment) :
      (fragments.map (List.map inTurn)).flatMap Fragment.params =
        fragments.flatMap Fragment.params := by
    rw [List.flatMap_map]
    exact List.flatMap_congr fun fragment _ => params_map_inTurn fragment
  rw [← onMapped left, same, onMapped right]

/-- The first word says of the turn what the turn says of itself. -/
theorem knows_inTurn {frame : Frame}
    (graph : firstRow.graph.piece.token frame = Alias.turn.graph.piece.token frame)
    (turn : firstRow.turnId.piece.token frame = Alias.turn.id.piece.token frame) :
    frame.Knows inTurn := by
  intro piece
  unfold inTurn
  split
  · rename_i same
    rw [same, graph]
  · split
    · rename_i same
      rw [same, turn]
    · rfl

/-- More rows do not change that. -/
theorem knows_inTurn_with {frame : Frame} (knows : frame.Knows inTurn) {row : String}
    (notFirst : row ≠ firstRow.name) (notTurn : row ≠ Alias.turn.name) (record : Record) :
    (frame.with row record).Knows inTurn := by
  have kept (cell : Cell) (other : row ≠ cell.row.name) :
      cell.piece.token (frame.with row record) = cell.piece.token frame := by
    simp only [Cell.piece, Piece.token, Frame.with_other other.symm]
  refine knows_inTurn ?_ ?_
  · rw [kept _ notFirst, kept _ notTurn, ← knows firstRow.graph.piece, inTurn_graph]
  · rw [kept _ notFirst, kept _ notTurn, ← knows firstRow.turnId.piece, inTurn_turnId]

/-- What is bound does not depend on the names of columns. -/
theorem params_of_shapes {left right : List Join}
    (same : left.map (Join.shape inTurn) = right.map (Join.shape inTurn)) :
    left.flatMap (fun join => join.render.params) =
      right.flatMap (fun join => join.render.params) := by
  replace same := forall₂_of_map_eq same
  induction same with
  | nil => rfl
  | @cons first second _ _ heads _ ih =>
      obtain ⟨kinds, sources, rows, conditions⟩ :
          first.kind = second.kind ∧ first.source = second.source ∧ first.row = second.row ∧
            first.on.map (List.map inTurn) = second.on.map (List.map inTurn) := by
        simpa [Join.shape] using heads
      have head : first.render.params = second.render.params := by
        rw [first.params_render, second.params_render, kinds, sources, rows,
          flatMap_params_congr conditions]
      rw [List.flatMap_cons, List.flatMap_cons, head, ih]

end Search

end CorpusQuery
