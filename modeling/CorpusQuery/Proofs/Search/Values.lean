import CorpusQuery.Proofs.Search.Outlines
import CorpusQuery.Proofs.Search.Sources
import CorpusQuery.Proofs.Sql.Likeness

namespace CorpusQuery.Search

/-! No value of a search has a say in how it is done or in the text of its statement.
All that values can make of a statement is other values in the same places. -/

open Sql

/-! ### Plans -/

theorem Tie.shape_outline (tie : Tie) : tie.outline.fragment.shape = tie.fragment.shape := by
  cases tie <;> rfl

namespace Condition

theorem shape_bounds_outline (row : Alias) (wanted : LayerMatch) :
    List.Forall₂ Fragment.SameShape (bounds row wanted.outline) (bounds row wanted) := by
  have compared (operator : String) (left right : Number.Binary64) :
      Fragment.SameShape (numericLabel row ++ [.words operator, .bound (.number left)])
        (numericLabel row ++ [.words operator, .bound (.number right)]) := by
    have like := Fragment.likeness_sameShape
    exact like.append (like.refl _) (like.cons _ rfl)
  refine List.rel_append ?_ ?_
  · cases least : wanted.min with
    | none => simp [LayerMatch.outline, least]
    | some bound =>
        simp only [LayerMatch.outline, least]
        exact .cons (compared _ _ _) .nil
  · cases most : wanted.max with
    | none => simp [LayerMatch.outline, most]
    | some bound =>
        simp only [LayerMatch.outline, most]
        exact .cons (compared _ _ _) .nil

theorem shape_labelFragment_outline (row : Alias) (wanted : LayerMatch) :
    (labelFragment row wanted.outline).shape = (labelFragment row wanted).shape := by
  unfold labelFragment
  rw [LayerMatch.labelRegex_outline, LayerMatch.negated_outline]
  cases wanted.labelRegex with
  | some regex => rfl
  | none =>
      have like := Fragment.likeness_sameShape
      have range := like.join [.words " ", .and] (shape_bounds_outline row wanted)
      cases wanted.negated with
      | true => exact like.cons .not (like.parenthesized range)
      | false => exact range

theorem shape_outline (condition : Condition) :
    condition.outline.fragment.shape = condition.fragment.shape := by
  have like := Fragment.likeness_sameShape
  cases condition with
  | label row wanted => exact shape_labelFragment_outline row wanted
  | first word => rfl
  | absent row => rfl
  | absentOr row tie =>
      exact like.parenthesized
        (like.join _ (.cons (like.refl _) (.cons tie.shape_outline .nil)))
  | noOtherWord words ties =>
      have tied : List.Forall₂ Fragment.SameShape
          ((ties.map Tie.outline).map Tie.fragment) (ties.map Tie.fragment) := by
        rw [List.map_map, List.forall₂_map_left_iff, List.forall₂_map_right_iff]
        exact List.forall₂_same.2 fun tie _ => tie.shape_outline
      let others : Select :=
        { columns := [[.words "*"]]
          source := relation (layerTable words.table) Alias.otherWord.name
          joins :=
            [.inner [.words Table.anchors.name] Alias.otherStart.name
              [(Tie.equal ⟨.otherStart, "anchor_id"⟩
                (Alias.otherWord.anchorId .start)).fragment]] }
      exact like.cons .not (like.existing (Select.alike_conditions like others tied))

end Condition

theorem Source.alike_join {left right : Source} (same : left.outline = right.outline) :
    left.join.Alike Fragment.SameShape right.join := by
  have ties : List.Forall₂ Fragment.SameShape
      (left.ties.map Tie.fragment) (right.ties.map Tie.fragment) := by
    refine List.rel_map ?_ (forall₂_of_map_eq (congrArg Source.ties same :))
    intro tie other alike
    rw [Fragment.SameShape, ← tie.shape_outline, alike, other.shape_outline]
  have table : left.table = right.table := (congrArg Source.table same :)
  have row : left.row = right.row := (congrArg Source.row same :)
  exact ⟨(congrArg Source.kind same :), by rw [Source.join, Source.join, table],
    by rw [Source.join, Source.join, row], ties⟩

theorem Plan.alike_select {left right : Plan} (same : left.outline = right.outline)
    (searchId other : Int64) :
    (left.select searchId).Alike Fragment.SameShape (right.select other) := by
  have layer : left.layer = right.layer := (congrArg Plan.layer same :)
  have row : left.row = right.row := (congrArg Plan.row same :)
  have result : left.result = right.result := (congrArg Plan.result same :)
  have order : left.order = right.order := (congrArg Plan.order same :)
  refine ⟨rfl, rfl, ?_, ?_, ?_, ?_, ?_, rfl⟩
  · simp only [Plan.select, result, Result.columns]
    exact .cons rfl (Fragment.likeness_sameShape.forall₂_refl _)
  · simp only [Plan.select, layer, row]
  · refine List.rel_map ?_ (forall₂_of_map_eq (congrArg Plan.joins same :))
    intro _ _ alike
    exact Source.alike_join alike
  · refine List.rel_map ?_ (forall₂_of_map_eq (congrArg Plan.conditions same :))
    intro condition other alike
    rw [Fragment.SameShape, ← condition.shape_outline, alike, other.shape_outline]
  · simp only [Plan.select, order]

/-! ### Options -/

/-- Options that differ at most in the number of the search, in the threshold if there is
one, in the values of the filters, and in the user whose transcripts are searched. -/
structure Options.Alike (left right : Options) : Prop where
  transcripts : Option.Rel Fragment.SameShape left.transcripts right.transcripts
  participants : Option.Rel Fragment.SameShape left.participants right.participants
  mainParticipantOnly : left.mainParticipantOnly = right.mainParticipantOnly
  minConfidence : left.minConfidence.isSome = right.minConfidence.isSome
  access : Option.Rel Access.Alike left.access right.access

theorem forall₂_toList {related : α → β → Prop} {left : Option α} {right : Option β}
    (same : Option.Rel related left right) : List.Forall₂ related left.toList right.toList := by
  cases same with
  | none => exact .nil
  | some one => exact .cons one .nil

namespace Options

theorem alike_participantCondition (graph : Fragment) (speaker : Option Fragment)
    {left right : Fragment} (same : left.SameShape right) :
    (participantCondition graph speaker left).SameShape
      (participantCondition graph speaker right) := by
  have like := Fragment.likeness_sameShape
  cases speaker with
  | some speaker => exact like.append (like.refl _) (like.cons _ (like.parenthesized same))
  | none =>
      exact like.append (like.refl _)
        (like.cons _ (like.parenthesized (like.cons _ (like.parenthesized same))))

variable {left right : Options} (same : left.Alike right) (graph : Fragment)
  (speaker : Option Fragment)

include same

theorem alike_conditions :
    List.Forall₂ Fragment.SameShape (left.conditions graph speaker)
      (right.conditions graph speaker) := by
  have like := Fragment.likeness_sameShape
  have transcripts : List.Forall₂ Fragment.SameShape
      (left.transcripts.toList.map (transcriptCondition graph))
      (right.transcripts.toList.map (transcriptCondition graph)) := by
    refine List.rel_map ?_ (forall₂_toList same.transcripts)
    intro _ _ one
    exact like.append (like.refl graph) (like.cons _ (like.parenthesized one))
  have participants : List.Forall₂ Fragment.SameShape
      (left.participants.toList.map (participantCondition graph speaker))
      (right.participants.toList.map (participantCondition graph speaker)) := by
    refine List.rel_map ?_ (forall₂_toList same.participants)
    intro _ _ one
    exact alike_participantCondition graph speaker one
  have access : List.Forall₂ Fragment.SameShape
      (left.access.toList.map (·.restriction graph))
      (right.access.toList.map (·.restriction graph)) := by
    refine List.rel_map ?_ (forall₂_toList same.access)
    intro _ _ one
    exact Access.alike_restriction like (fun _ _ => rfl) one graph
  rw [conditions, conditions, same.mainParticipantOnly]
  exact List.rel_append
    (List.rel_append (List.rel_append transcripts participants) (like.forall₂_refl _)) access

theorem alike_restrict {select other : Select}
    (statements : select.Alike Fragment.SameShape other) :
    (left.restrict graph speaker select).Alike Fragment.SameShape
      (right.restrict graph speaker other) := by
  have joins : left.joins graph speaker = right.joins graph speaker := by
    rw [Options.joins, Options.joins, same.mainParticipantOnly]
  have more := (Select.alike_refl Fragment.likeness_sameShape
    { joins := right.joins graph speaker }).joins
  exact { statements with
    joins := List.rel_append statements.joins (joins ▸ more)
    conditions := List.rel_append statements.conditions (alike_conditions same graph speaker) }

end Options

/-! ### Searches -/

/-- Patterns, bounds and thresholds are bound, and so are the values of the filters, the
number of the search and the user.  Searches that differ in nothing else are done in the
same way by statements of the same text with as many values, or none has a statement. -/
theorem values_bound {schema : Schema} {linked : String → Bool} {options others : Options}
    (same : options.Alike others) {matrix other : Matrix}
    (outlines : matrix.outline = other.outline) :
    (matrix.strategy schema linked).map Strategy.name =
        (other.strategy schema linked).map Strategy.name ∧
      SameOutcome (matrix.select schema linked options) (other.select schema linked others) := by
  constructor
  · have name (matrix : Matrix) : (matrix.strategy schema linked).map Strategy.name =
        (matrix.outline.strategy schema linked).map Strategy.name := by
      rw [Matrix.strategy_outline]
      cases matrix.strategy schema linked with
      | error problem => rfl
      | ok strategy => simp [Except.map]
    rw [name matrix, name other, outlines]
  · have threshold : anyThreshold options.minConfidence = anyThreshold others.minConfidence := by
      have given := same.minConfidence
      cases one : options.minConfidence <;> cases another : others.minConfidence <;>
        simp_all [anyThreshold]
    -- Both plans have the outline of the plan of one and the same matrix.
    have plans : (matrix.plan schema linked options.minConfidence).map Plan.outline =
        (other.plan schema linked others.minConfidence).map Plan.outline := by
      rw [Matrix.outline_plan, Matrix.outline_plan, outlines, threshold]
    rw [Matrix.select_eq, Matrix.select_eq]
    cases planned : matrix.plan schema linked options.minConfidence with
    | error problem =>
        cases failed : other.plan schema linked others.minConfidence with
        | error another => exact .failed problem another
        | ok plan => simp [planned, failed, Except.map] at plans
    | ok plan =>
        cases found : other.plan schema linked others.minConfidence with
        | error problem => simp [planned, found, Except.map] at plans
        | ok another =>
            have outline : plan.outline = another.outline := by
              simpa [planned, found, Except.map] using plans
            refine .compiled fun gap => Select.Alike.render Fragment.likeness_sameShape ?_ gap
            have result : plan.result = another.result := (congrArg Plan.result outline :)
            rw [Plan.restricted, Plan.restricted, result]
            exact Options.alike_restrict same _ _ (Plan.alike_select outline _ _)

namespace AroundWords

/-- Another pattern and another bound. -/
def otherMatrix : Matrix :=
  ⟨[⟨[{ id := "word", pattern := some "' OR 1=1 -- ?" }, { id := "turn", anchoredEnd := true },
        { id := "utterance", anchoredStart := true, anchoredEnd := true },
        { id := "topic", anchoredStart := true }], 2⟩,
      ⟨[{ id := "topic", max := some .nan, negated := true },
        { id := "clause", anchoredEnd := true, target := true }], 1⟩]⟩

def otherOptions : Options :=
  { searchId := -1
    minConfidence := some 100
    mainParticipantOnly := true
    transcripts := some [.given "SELECT ag_id FROM transcript WHERE name = ?" [.integer 5]]
    access := some (.user "') OR (1=1") }

end AroundWords

theorem aroundWords_bound :
    (AroundWords.otherMatrix.strategy AroundWords.schema AroundWords.linked).map Strategy.name =
        .ok "General" ∧
      ∃ statement other,
        AroundWords.matrix.select AroundWords.schema AroundWords.linked AroundWords.options =
          .ok statement ∧
        AroundWords.otherMatrix.select AroundWords.schema AroundWords.linked
          AroundWords.otherOptions = .ok other ∧
        statement.statement.sql = other.statement.sql ∧
        statement.statement.params.length = other.statement.params.length := by
  have same : AroundWords.options.Alike AroundWords.otherOptions :=
    { transcripts := .some rfl
      participants := .none
      mainParticipantOnly := rfl
      minConfidence := rfl
      access := .some (.user _ _) }
  have outlines : AroundWords.matrix.outline = AroundWords.otherMatrix.outline := rfl
  obtain ⟨strategies, outcome⟩ := @values_bound AroundWords.schema AroundWords.linked _ _ same _ _
    outlines
  have selected : ∃ statement, AroundWords.matrix.select AroundWords.schema AroundWords.linked
      AroundWords.options = .ok statement := ⟨_, rfl⟩
  obtain ⟨statement, selected⟩ := selected
  rw [selected] at outcome
  generalize found : AroundWords.otherMatrix.select AroundWords.schema AroundWords.linked
    AroundWords.otherOptions = result at outcome
  cases outcome with
  | @compiled _ other shapes =>
      obtain ⟨sql, count⟩ := Prod.mk.inj (shapes "\n")
      exact ⟨strategies.symm.trans rfl, statement, other, selected, rfl, sql, count⟩

end CorpusQuery.Search
