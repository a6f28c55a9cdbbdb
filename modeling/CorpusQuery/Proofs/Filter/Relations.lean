import CorpusQuery.Proofs.Filter.Predicates
import CorpusQuery.Proofs.Filter.Terms

namespace CorpusQuery.Filter

/-! The subject's row, and the rows of other layers by what ties them to it.  They are terms
where the rows are known that are asked for. -/

open Sql

/-! ### Targets -/

namespace Target

variable {target : Target} {gaps : Prop} {known : List String}

/-- The graph of the row is a column of it. -/
theorem isTerm_graph? (subject : target.row.1 ∈ known) {graph : Fragment}
    (found : target.graph? = some graph) :
    IsTerm gaps target.Allows known graph ∧ ∃ column, .column target.row.1 column ∈ graph := by
  unfold graph? at found
  split at found
  · cases found
    exact ⟨.column subject (by decide), _, List.mem_cons_self ..⟩
  · cases found
    exact ⟨.column subject (by decide), _, List.mem_cons_self ..⟩
  · cases found
    exact ⟨.column subject (by decide), _, List.mem_cons_self ..⟩
  · contradiction

theorem turnTable?_eq {schema : Schema} {table : String}
    (found : turnTable? schema = some table) : ∃ number, table = layerTable number := by
  obtain ⟨entry, -, stored⟩ := Option.bind_eq_some_iff.1 found
  obtain ⟨number, -, rfl⟩ := Option.map_eq_some_iff.1 stored
  exact ⟨number, rfl⟩

/-- The rows of turns. -/
theorem composes_turns {schema : Schema} {table : String} (found : turnTable? schema = some table)
    {columns conditions : List Fragment}
    (columnTerms : ∀ column ∈ columns, IsTerm gaps target.Allows ("turn" :: known) column)
    (conditionTerms : ∀ condition ∈ conditions,
      IsTerm gaps target.Allows ("turn" :: known) condition) :
    target.Composes gaps known { columns, source := relation table "turn", conditions } := by
  obtain ⟨number, rfl⟩ := turnTable?_eq found
  exact composes_table (isOperand_layerTable number) (by decide) (by decide)
    (fun member => absurd (target.names_subset member) (by decide)) columnTerms
    conditionTerms

/-- The speaker of the row is found by a column of it. -/
theorem isTerm_speaker? (subject : target.row.1 ∈ known) {schema : Schema} {speaker : Fragment}
    (found : target.speaker? schema = some speaker) :
    IsTerm gaps target.Allows known speaker ∧
      ∃ column, .column target.row.1 column ∈ speaker := by
  unfold speaker? at found
  split at found
  · cases found
    exact ⟨.column subject (by decide), _, List.mem_cons_self ..⟩
  · cases found
    exact ⟨.column subject (by decide), _, List.mem_cons_self ..⟩
  · split at found
    · obtain ⟨table, turns, rfl⟩ := Option.map_eq_some_iff.1 found
      refine ⟨(composes_turns turns ?_ ?_).subquery (List.cons_ne_nil _ _), ?_⟩
      · exact List.forall_mem_singleton.2 (isTerm_turnSpeaker (List.mem_cons_self ..))
      · exact List.forall_mem_singleton.2 (isTerm_equalColumns (List.mem_cons_self ..)
          (List.mem_cons_of_mem _ subject) (by decide) (by decide))
      · refine ⟨"turn_annotation_id", List.mem_cons_of_mem _ (List.mem_append_left _ ?_)⟩
        exact (Select.infix_render_of_mem_conditions (List.mem_singleton_self _) " ").subset
          (by simp [equalColumns, compareColumns, row])
    · contradiction
  · contradiction

/-- The row of a target has a graph or a speaker. -/
theorem graph?_or_speaker? (resolved : target ≠ .unresolved) (schema : Schema) :
    target.graph?.isSome ∨ (target.speaker? schema).isSome := by
  cases target with
  | attributed layer owner name => cases owner <;> simp [graph?, speaker?]
  | unresolved => contradiction
  | _ => simp [graph?, speaker?]

theorem row_of_isInterval (inTime : target.isInterval) : target.row.1 = "annotation" := by
  cases target <;> first | rfl | contradiction

end Target

namespace Scene

/-! ### What is found on the way -/

section

variable (scene : Scene) (known : List String)

/-- Nothing is a problem, and the rows that are asked for are known. -/
structure Admits (found : Noted α) : Prop where
  faultless : found.problems = []
  anchors : found.anchors = true → scene.target.isInterval = true →
    "start_anchor" ∈ known ∧ "end_anchor" ∈ known
  transcript : found.transcript = true → "transcript" ∈ known

/-- Where it is admitted, what is found is as it should be, and no transcript is asked for
but that of an annotation. -/
def Finds (holds : α → Prop) (found : Noted α) : Prop :=
  scene.Admits known found →
    holds found.value ∧ (found.transcript = true → scene.target.row.1 = "annotation")

end

variable {scene : Scene} {known : List String}

namespace Finds

variable {holds : α → Prop} {behind : β → Prop}

theorem pure {value : α} (own : holds value) : scene.Finds known holds (pure value) :=
  fun _ => ⟨own, nofun⟩

theorem bind {found : Noted α} {next : α → Noted β} (first : scene.Finds known holds found)
    (second : ∀ value, holds value → scene.Finds known behind (next value)) :
    scene.Finds known behind (found >>= next) := by
  rintro ⟨faultless, anchors, transcript⟩
  rw [Noted.problems_bind, List.append_eq_nil_iff] at faultless
  change (found.anchors || (next found.value).anchors) = true → _ at anchors
  change (found.transcript || (next found.value).transcript) = true → _ at transcript
  rw [Bool.or_eq_true] at anchors transcript
  obtain ⟨own, ofFirst⟩ :=
    first ⟨faultless.1, fun asked => anchors (.inl asked), fun asked => transcript (.inl asked)⟩
  obtain ⟨others, ofSecond⟩ := second found.value own
    ⟨faultless.2, fun asked => anchors (.inr asked), fun asked => transcript (.inr asked)⟩
  exact ⟨others, fun asked => ((Bool.or_eq_true _ _).mp asked).elim ofFirst ofSecond⟩

theorem imp {found : Noted α} {more : α → Prop} (first : scene.Finds known holds found)
    (weaker : ∀ value, holds value → more value) : scene.Finds known more found :=
  fun admits => (first admits).imp (weaker _) id

theorem problem (problem : Problem) (value : α) :
    scene.Finds known holds (Noted.problem problem value) :=
  fun admits => absurd admits.faultless (List.cons_ne_nil _ _)

theorem notApplicable (resolved : scene.target ≠ .unresolved) (construct : String) (value : α) :
    scene.Finds known holds (scene.notApplicable construct value) := by
  unfold Scene.notApplicable
  split
  · contradiction
  · exact problem _ value

theorem notApplicable_bind (resolved : scene.target ≠ .unresolved) (construct : String) (value : α)
    (next : α → Noted β) :
    scene.Finds known behind (scene.notApplicable construct value >>= next) := by
  have none : scene.Finds known (fun _ => False) (scene.notApplicable construct value) :=
    .notApplicable resolved construct value
  exact none.bind fun _ impossible => impossible.elim

theorem usingAnchors {value : α}
    (own : (scene.target.isInterval = true → "start_anchor" ∈ known ∧ "end_anchor" ∈ known) →
      holds value) : scene.Finds known holds (Noted.usingAnchors value) :=
  fun admits => ⟨own (admits.anchors rfl), nofun⟩

theorem usingTranscript {value : α} (annotated : scene.target.row.1 = "annotation")
    (own : "transcript" ∈ known → holds value) :
    scene.Finds known holds (Noted.usingTranscript value) :=
  fun admits => ⟨own (admits.transcript rfl), fun _ => annotated⟩

end Finds

/-! ### The subject's row -/

variable {gaps : Prop}

theorem isTerm_uidOrNumber {allowed : Select → Prop} (storage : Option Storage) {number : Fragment}
    (term : IsTerm gaps allowed known number) :
    IsTerm gaps allowed known (uidOrNumber storage number) := by
  unfold uidOrNumber
  cases found : storage.bind (uidOf? · number) with
  | none => exact term
  | some uid =>
      obtain ⟨known, -, stemmed⟩ := Option.bind_eq_some_iff.1 found
      obtain ⟨stem, -, rfl⟩ := Option.map_eq_some_iff.1 stemmed
      exact isTerm_uidFrom stem term

section

variable (resolved : scene.target ≠ .unresolved) (subject : scene.target.row.1 ∈ known)

theorem finds_intervalAttribute (inTime : scene.target.isInterval)
    (subject : scene.target.row.1 ∈ known) (layer : Layer) (storage : Storage)
    (attr : Attribute) :
    scene.Finds known (IsTerm gaps scene.target.Allows known)
      (scene.intervalAttribute layer storage attr) := by
  have annotated := Target.row_of_isInterval inTime
  rw [annotated] at subject
  cases attr with
  | id => exact .pure (isTerm_uidOrNumber _ (.column subject (by decide)))
  | layerId => exact .pure (.marker _)
  | label => exact .pure (.column subject (by decide))
  | confidence => exact .pure (.column subject (by decide))
  | parentId => exact .pure (isTerm_uidOrNumber _ (.column subject (by decide)))
  | graphId => exact .usingTranscript annotated fun isKnown => .column isKnown (by decide)
  | startOffset => exact .usingAnchors fun both => .column (both inTime).1 (by decide)
  | endOffset => exact .usingAnchors fun both => .column (both inTime).2 (by decide)
  | startConfidence => exact .usingAnchors fun both => .column (both inTime).1 (by decide)
  | endConfidence => exact .usingAnchors fun both => .column (both inTime).2 (by decide)

theorem isTerm_ownerName {layer : Layer} {owner : Owner} {name : String}
    (subject : "annotation" ∈ known) :
    IsTerm gaps (Target.attributed layer owner name).Allows known ownerName := by
  refine (Target.composes_table (by decide) (by decide) (by decide) (by simp [Target.names]) ?_
    ?_).subquery (List.cons_ne_nil _ _)
  · exact List.forall_mem_singleton.2 (.column (List.mem_cons_self ..) (by decide))
  · exact List.forall_mem_singleton.2 (isTerm_equalColumns (List.mem_cons_self ..)
      (List.mem_cons_of_mem _ subject) (by decide) (by decide))

theorem finds_attributedAttribute {layer : Layer} {owner : Owner} {name : String}
    (attributed : scene.target = .attributed layer owner name) (storage : Storage)
    (subject : scene.target.row.1 ∈ known) (attr : Attribute) :
    scene.Finds known (IsTerm gaps scene.target.Allows known)
      (scene.attributedAttribute layer owner storage attr) := by
  have annotated : scene.target.row.1 = "annotation" := by
    rw [attributed]
    cases owner <;> rfl
  have resolved : scene.target ≠ .unresolved := by simp [attributed]
  rw [annotated] at subject
  unfold attributedAttribute
  split
  · exact .pure (isTerm_uidOrNumber _ (.column subject (by decide)))
  · exact .pure (.marker _)
  · exact .pure (.column subject (by decide))
  · exact .pure (.column subject (by decide))
  · split
    · exact .usingTranscript annotated fun isKnown => .column isKnown (by decide)
    · exact .pure (attributed ▸ isTerm_ownerName subject)
  · split
    · exact .usingTranscript annotated fun isKnown => .column isKnown (by decide)
    · exact .notApplicable resolved _ _
  · exact .notApplicable resolved _ _

include resolved subject

theorem finds_ownAttribute (attr : Attribute) :
    scene.Finds known (IsTerm gaps scene.target.Allows known) (scene.ownAttribute attr) := by
  unfold ownAttribute
  split
  · rename_i inTime
    exact finds_intervalAttribute (by rw [inTime]; rfl) subject _ _ _
  · rename_i attributed
    exact finds_attributedAttribute attributed _ subject _
  · rename_i participants
    have speaker : "speaker" ∈ known := by simpa [participants, Target.row] using subject
    split
    · exact .pure (.column speaker (by decide))
    · exact .pure (.column speaker (by decide))
    · exact .pure (.marker _)
    · exact .notApplicable resolved _ _
  · rename_i transcripts
    have transcript : "transcript" ∈ known := by simpa [transcripts, Target.row] using subject
    split
    · exact .pure (.column transcript (by decide))
    · exact .pure (.column transcript (by decide))
    · exact .pure (.column transcript (by decide))
    · exact .notApplicable resolved _ _
  · contradiction

end

/-! ### Rows of other layers -/

/-- The rows by which those of another layer are found. -/
def relatedRows : Storage → List String
  | .temporal .. => ["related", "related_start", "related_end"]
  | .entity .episode => ["related", "related_transcript"]
  | _ => ["related"]

theorem related_mem_relatedRows (storage : Storage) : "related" ∈ relatedRows storage := by
  unfold relatedRows
  split <;> simp

theorem isTerm_labelColumn {allowed : Select → Prop} (storage : Storage)
    (isKnown : "related" ∈ known) : IsTerm gaps allowed known (labelColumn storage) := by
  unfold labelColumn
  split <;> exact .column isKnown (by decide)

theorem isTerm_relatedColumn? {allowed : Select → Prop} {layer : Layer} {storage : Storage}
    (rows : relatedRows storage ⊆ known) {attr : Attribute} {column : Fragment}
    (found : scene.relatedColumn? layer storage attr = some column) :
    IsTerm gaps allowed known column := by
  have related : "related" ∈ known := rows (related_mem_relatedRows storage)
  cases storage with
  | temporal scope table =>
      have first : "related_start" ∈ known := rows (by simp [relatedRows])
      have last : "related_end" ∈ known := rows (by simp [relatedRows])
      cases attr <;> cases found
      · exact isTerm_uidOrNumber _ (.column related (by decide))
      · exact .marker _
      · exact isTerm_labelColumn _ related
      · exact isTerm_uidOrNumber _ (.column related (by decide))
      · exact .column first (by decide)
      · exact .column last (by decide)
      · exact .column related (by decide)
      · exact .column first (by decide)
      · exact .column last (by decide)
  | attributed owner name =>
      cases attr <;> cases found
      · exact isTerm_uidOrNumber _ (.column related (by decide))
      · exact .marker _
      · exact isTerm_labelColumn _ related
      · exact .column related (by decide)
  | entity entity =>
      cases attr <;> cases found
      · exact isTerm_labelColumn _ related
      · exact .marker _
      · exact isTerm_labelColumn _ related

/-- A column of those who speak where. -/
theorem composes_speakings {target : Target} {column : String} (named : IsName column)
    {conditions : List Fragment}
    (terms : ∀ condition ∈ conditions,
      IsTerm gaps target.Allows ("transcript_speaker" :: known) condition) :
    target.Composes gaps known (speakings column conditions) :=
  Target.composes_table (by decide) (by decide) (by decide)
    (fun member => absurd (target.names_subset member) (by decide))
    (List.forall_mem_singleton.2 (.words named.isOperand)) terms

/-- A column of a row is among those of a statement, one of whose conditions has a column of
the subject's row in it. -/
theorem ties_within {subject row name column : String} {rows : List String} (isRow : row ∈ rows)
    {select : Select} {condition : Fragment} (member : condition ∈ select.conditions)
    (inside : .column subject column ∈ condition) :
    Fragment.Ties subject rows (within [.column row name] select) :=
  ⟨row, name, " IN ", select.subquery.parenthesized, column, rfl, isRow, by simp,
    List.mem_cons_of_mem _ (List.mem_append_left _
      ((Select.infix_render_of_mem_conditions member " ").subset inside))⟩

theorem ties_equals {subject row name column : String} {rows : List String} (isRow : row ∈ rows)
    {value : Fragment} (inside : .column subject column ∈ value) :
    Fragment.Ties subject rows (.column row name :: .words " = " :: value) :=
  ⟨row, name, " = ", value, column, rfl, isRow, by simp, inside⟩

/-- Annotations in time that overlap the subject's row share its turn or graph. -/
theorem overlapping_ties {target : Target} {place : String} {rows : List String}
    (isPlace : IsName place) (isRelated : ["related", "related_start", "related_end"] ⊆ rows)
    (isRow : "annotation" ∈ known) (first : "start_anchor" ∈ known) (last : "end_anchor" ∈ known) :
    let conditions :=
      [equalColumns ("related", place) ("annotation", place),
        compareColumns "<" ("related_start", "offset") ("end_anchor", "offset"),
        compareColumns "<" ("start_anchor", "offset") ("related_end", "offset")]
    (∀ condition ∈ conditions, IsTerm gaps target.Allows (rows ++ known) condition) ∧
      ∃ condition ∈ conditions, condition.Ties "annotation" rows := by
  intro conditions
  have own {row : String} (member : row ∈ ["related", "related_start", "related_end"]) :
      row ∈ rows ++ known := List.mem_append_left _ (isRelated member)
  have places : (IsName "related" ∧ IsName place) ∧ IsName "annotation" ∧ IsName place :=
    ⟨⟨by decide, isPlace⟩, by decide, isPlace⟩
  refine ⟨List.forall_mem_cons.2 ⟨?_, List.forall_mem_cons.2 ⟨?_, List.forall_mem_singleton.2 ?_⟩⟩,
    _, List.mem_cons_self .., ties_equals (isRelated (by simp)) (List.mem_singleton_self _)⟩
  · exact isTerm_equalColumns (own (by simp)) (List.mem_append_right _ isRow) places.1 places.2
  · exact isTerm_compared (own (by simp)) (by decide) (by decide) (by decide)
      (.column (List.mem_append_right _ last) (by decide))
  · exact isTerm_compared (List.mem_append_right _ first) (by decide) (by decide) (by decide)
      (.column (own (by simp)) (by decide))

section

variable {rows : List String} (subject : scene.target.row.1 ∈ known)

include subject

theorem ofGraph?_ties {column : String × String} (isRow : column.1 ∈ rows)
    (named : IsName column.1 ∧ IsName column.2) {condition : Fragment}
    (found : scene.ofGraph? column = some condition) :
    IsTerm gaps scene.target.Allows (rows ++ known) condition ∧
      condition.Ties scene.target.row.1 rows := by
  have isKnown : column.1 ∈ rows ++ known := List.mem_append_left _ isRow
  have outside : scene.target.row.1 ∈ rows ++ known := List.mem_append_right _ subject
  unfold ofGraph? at found
  split at found
  · rename_i graph known
    cases found
    obtain ⟨term, name, inside⟩ := Target.isTerm_graph? outside known
    exact ⟨isTerm_equals isKnown named term, ties_equals isRow inside⟩
  · rename_i speaker known
    cases found
    obtain ⟨term, name, inside⟩ := Target.isTerm_speaker? (List.mem_cons_of_mem _ outside) known
    have leads : Fragment.Leads [.words "speaker_number = "] := by decide
    refine ⟨(composes_speakings (by decide) ?_).within (List.cons_ne_nil _ _)
      (.column isKnown named), ties_within isRow (List.mem_singleton_self _)
        (List.mem_cons_of_mem _ inside)⟩
    exact List.forall_mem_singleton.2 (.behind (by decide) leads term)
  · contradiction

theorem ofSpeaker?_ties (isRow : "related" ∈ rows) {condition : Fragment}
    (found : scene.ofSpeaker? = some condition) :
    IsTerm gaps scene.target.Allows (rows ++ known) condition ∧
      condition.Ties scene.target.row.1 rows := by
  have isKnown : "related" ∈ rows ++ known := List.mem_append_left _ isRow
  have outside : scene.target.row.1 ∈ rows ++ known := List.mem_append_right _ subject
  unfold ofSpeaker? at found
  split at found
  · rename_i speaker known
    cases found
    obtain ⟨term, name, inside⟩ := Target.isTerm_speaker? outside known
    exact ⟨isTerm_equals isKnown (by decide) term,
      ties_equals isRow inside⟩
  · rename_i graph _ known
    cases found
    obtain ⟨term, name, inside⟩ := Target.isTerm_graph? (List.mem_cons_of_mem _ outside) known
    have leads : Fragment.Leads [.words "ag_id = "] := by decide
    refine ⟨(composes_speakings (by decide) ?_).within (List.cons_ne_nil _ _)
      (.column isKnown (by decide)), ties_within isRow (List.mem_singleton_self _)
        (List.mem_cons_of_mem _ inside)⟩
    exact List.forall_mem_singleton.2 (.behind (by decide) leads term)
  · contradiction

theorem ofInterval?_ties {scope : Scope}
    (isRelated : ["related", "related_start", "related_end"] ⊆ rows)
    (anchors : scene.target.isInterval = true → "start_anchor" ∈ known ∧ "end_anchor" ∈ known)
    {conditions : List Fragment} (found : scene.ofInterval? scope = some conditions) :
    (∀ condition ∈ conditions, IsTerm gaps scene.target.Allows (rows ++ known) condition) ∧
      ∃ condition ∈ conditions, condition.Ties scene.target.row.1 rows := by
  have isRow : "related" ∈ rows := isRelated (by simp)
  have isKnown {row : String} (member : row ∈ ["related", "related_start", "related_end"]) :
      row ∈ rows ++ known := List.mem_append_left _ (isRelated member)
  have outside : scene.target.row.1 ∈ rows ++ known := List.mem_append_right _ subject
  unfold ofInterval? at found
  split at found
  · rename_i inTime
    have annotated := Target.row_of_isInterval inTime
    obtain ⟨first, last⟩ := anchors inTime
    have named : IsName (if scope.hasTurn && scene.target.hasTurn then "turn_annotation_id"
        else "ag_id") := by
      split <;> decide
    cases found
    rw [annotated] at subject ⊢
    exact overlapping_ties named isRelated subject first last
  · split at found
    · rename_i graph known
      cases found
      obtain ⟨term, name, inside⟩ := Target.isTerm_graph? outside known
      refine ⟨List.forall_mem_singleton.2 ?_, _, List.mem_singleton_self _,
        ties_equals isRow inside⟩
      exact isTerm_equals (isKnown (by simp)) (by decide) term
    · rename_i speaker _ known
      split at found
      · obtain ⟨table, turns, rfl⟩ := Option.map_eq_some_iff.1 found
        obtain ⟨term, name, inside⟩ := Target.isTerm_speaker? (List.mem_cons_of_mem _ outside) known
        refine ⟨List.forall_mem_singleton.2 ?_, _, List.mem_singleton_self _,
          ties_within isRow (List.mem_singleton_self _)
            (List.mem_append_right _ (List.mem_cons_of_mem _ inside))⟩
        refine (Target.composes_turns turns ?_ ?_).within (List.cons_ne_nil _ _)
          (.column (isKnown (by simp)) (by decide))
        · exact List.forall_mem_singleton.2 (.column (List.mem_cons_self ..) (by decide))
        · have whole := IsTerm.between equals_between.1 equals_between.2
            (isTerm_turnSpeaker (List.mem_cons_self ..)) term
          rw [List.append_assoc] at whole
          exact List.forall_mem_singleton.2 whole
      · contradiction
    · contradiction

theorem ofMainSpeaker_ties (resolved : scene.target ≠ .unresolved) (isRow : "related" ∈ rows) :
    (∀ condition ∈ scene.ofMainSpeaker,
        IsTerm gaps scene.target.Allows (rows ++ known) condition) ∧
      ∃ condition ∈ scene.ofMainSpeaker, condition.Ties scene.target.row.1 rows := by
  have isKnown : "related" ∈ rows ++ known := List.mem_append_left _ isRow
  have outside : scene.target.row.1 ∈ rows ++ known := List.mem_append_right _ subject
  unfold ofMainSpeaker
  constructor
  · refine List.forall_mem_cons.2 ⟨(composes_speakings (by decide) ?_).within
      (List.cons_ne_nil _ _) (.column isKnown (by decide)), ?_⟩
    · refine List.forall_mem_append.2 ⟨fun condition member => ?_, List.forall_mem_singleton.2
        (.words (by decide))⟩
      obtain ⟨graph, known, rfl⟩ := List.mem_map.1 member
      have leads : Fragment.Leads [.words "ag_id = "] := by decide
      exact .behind (by decide) leads
        (Target.isTerm_graph? (List.mem_cons_of_mem _ outside) (Option.mem_toList.1 known)).1
    · intro condition member
      obtain ⟨speaker, known, rfl⟩ := List.mem_map.1 member
      exact isTerm_equals isKnown (by decide)
        (Target.isTerm_speaker? outside (Option.mem_toList.1 known)).1
  · rcases Target.graph?_or_speaker? resolved scene.schema with some | some
    · obtain ⟨graph, known⟩ := Option.isSome_iff_exists.1 some
      obtain ⟨-, name, inside⟩ := @Target.isTerm_graph? _ gaps _ outside _ known
      have listed : .words "ag_id = " :: graph ∈
          scene.target.graph?.toList.map fun graph => .words "ag_id = " :: graph :=
        List.mem_map_of_mem (Option.mem_toList.2 known)
      exact ⟨_, List.mem_cons_self .., ties_within isRow (List.mem_append_left _ listed)
        (List.mem_cons_of_mem _ inside)⟩
    · obtain ⟨speaker, known⟩ := Option.isSome_iff_exists.1 some
      obtain ⟨-, name, inside⟩ := @Target.isTerm_speaker? _ gaps _ outside _ _ known
      have listed : .column "related" "speaker_number" :: .words " = " :: speaker ∈
          (scene.target.speaker? scene.schema).toList.map fun speaker =>
            .column "related" "speaker_number" :: .words " = " :: speaker :=
        List.mem_map_of_mem (Option.mem_toList.2 known)
      exact ⟨_, List.mem_cons_of_mem _ listed, ties_equals isRow inside⟩

end

/-- The rows of a table and of those joined to it, tied to the subject's row. -/
theorem isComposed_relatedRows {target : Target} {table : String} (operand : IsOperand table)
    {joins : List Join} {rows : List String}
    (named : "related" :: joins.map Join.row = rows)
    (apart : ∀ row ∈ rows,
      row ∉ ["annotation", "start_anchor", "end_anchor", "transcript", "speaker"])
    (simple : ∀ join ∈ joins, join.IsSimple ∧
      ∀ condition ∈ join.on, IsTerm gaps target.Allows (rows ++ known) condition)
    {conditions : List Fragment}
    (terms : ∀ condition ∈ conditions, IsTerm gaps target.Allows (rows ++ known) condition)
    (tied : ∃ condition ∈ conditions, condition.Ties target.row.1 rows) {order : List Fragment}
    (sorted : ∀ term ∈ order, IsTerm gaps target.Allows (rows ++ known) term) :
    Related.IsComposed target gaps known
        { rows := { source := relation table "related", joins, conditions }, order } ∧
      Select.rows { source := relation table "related", joins, conditions } = rows := by
  have same : Select.rows { source := relation table "related", joins, conditions } = rows := by
    rw [Select.rows, (Fragment.uses_relation [] (by decide) operand.1).introduced_eq, ← named]
    rfl
  have isTied : Select.IsTiedTo target.row.1
      { source := relation table "related", joins, conditions } := by
    rw [Select.IsTiedTo, same]
    exact tied
  refine ⟨⟨?_, same ▸ sorted⟩, same⟩
  exact
    { allows := ⟨fun row member inside => apart row (same ▸ member) (target.names_subset inside),
        fun _ => isTied⟩
      simple := ⟨rfl, ⟨table, "related", rfl, operand, by decide⟩,
        fun join member => (simple join member).1,
        fun _ limited => absurd limited (Option.not_mem_none _)⟩
      columns := List.forall_mem_nil _
      joins := same ▸ fun join member => (simple join member).2
      conditions := same ▸ terms
      order := List.forall_mem_nil _ }

/-- The rows of a table alone, in the order of one of their columns. -/
theorem isComposed_relatedTable {target : Target} {table name : String}
    (operand : IsOperand table) (named : IsName name) {conditions : List Fragment}
    (terms : ∀ condition ∈ conditions,
      IsTerm gaps target.Allows (["related"] ++ known) condition)
    (tied : ∃ condition ∈ conditions, condition.Ties target.row.1 ["related"]) :
    Related.IsComposed target gaps known
        { rows := { source := relation table "related", conditions }
          order := [[.column "related" name]] } ∧
      Select.rows { source := relation table "related", conditions } = ["related"] :=
  isComposed_relatedRows operand rfl (by decide) (List.forall_mem_nil _) terms tied
    (List.forall_mem_singleton.2 (.column (List.mem_cons_self ..) ⟨by decide, named⟩))

/-- A row that is joined on a single condition. -/
theorem joined_related {target : Target} {table row : String} {rows : List String}
    {condition : Fragment} (operand : IsOperand table) (named : IsName row)
    (term : IsTerm gaps target.Allows (rows ++ known) condition) :
    (Join.inner [.words table] row [condition]).IsSimple ∧
      ∀ other ∈ (Join.inner [.words table] row [condition]).on,
        IsTerm gaps target.Allows (rows ++ known) other :=
  Join.isSimple_inner named (.inr ⟨table, rfl, operand⟩) (List.cons_ne_nil _ _)
    (List.forall_mem_singleton.2 term)

section

variable (resolved : scene.target ≠ .unresolved) (subject : scene.target.row.1 ∈ known)

include resolved subject

theorem isComposed_related? {storage : Storage} {related : Related}
    (found : scene.related? storage = some related)
    (anchors : storage.isTemporal = true → scene.target.isInterval = true →
      "start_anchor" ∈ known ∧ "end_anchor" ∈ known) :
    related.IsComposed scene.target gaps known ∧ related.rows.rows = relatedRows storage := by
  have isRow : "related" ∈ ["related"] := List.mem_singleton_self _
  have ofAttribute (name : String) :
      IsTerm gaps scene.target.Allows (["related"] ++ known) (namedAttribute name) :=
    isTerm_equals (List.mem_cons_self ..) (by decide) (.marker name)
  unfold related? at found
  split at found
  · obtain ⟨conditions, tied, rfl⟩ := Option.map_eq_some_iff.1 found
    obtain ⟨terms, ties⟩ := ofInterval?_ties subject (List.Subset.refl _) (anchors rfl) tied
    refine isComposed_relatedRows (isOperand_layerTable _) (by simp) (by decide) ?_ terms ties ?_
    · exact List.forall_mem_cons.2 ⟨joined_related (by decide) (by decide)
          (isTerm_equalColumns (by simp) (by simp) (by decide) (by decide)),
        List.forall_mem_singleton.2 (joined_related (by decide) (by decide)
          (isTerm_equalColumns (by simp) (by simp) (by decide) (by decide)))⟩
    · refine List.forall_mem_cons.2 ⟨.column (by simp) (by decide),
        List.forall_mem_cons.2 ⟨.column (by simp) (by decide),
          List.forall_mem_singleton.2 (.column (by simp) (by decide))⟩⟩
  · obtain ⟨condition, tied, rfl⟩ := Option.map_eq_some_iff.1 found
    obtain ⟨term, ties⟩ := ofGraph?_ties subject isRow (by decide) tied
    exact isComposed_relatedTable (by decide) (by decide)
      (List.forall_mem_cons.2 ⟨ofAttribute _, List.forall_mem_singleton.2 term⟩)
      ⟨condition, by simp, ties⟩
  · obtain ⟨condition, tied, rfl⟩ := Option.map_eq_some_iff.1 found
    obtain ⟨term, ties⟩ := ofSpeaker?_ties subject isRow tied
    exact isComposed_relatedTable (by decide) (by decide)
      (List.forall_mem_cons.2 ⟨ofAttribute _, List.forall_mem_singleton.2 term⟩)
      ⟨condition, by simp, ties⟩
  · obtain ⟨condition, tied, rfl⟩ := Option.map_eq_some_iff.1 found
    obtain ⟨term, ties⟩ := ofGraph?_ties subject isRow (by decide) tied
    exact isComposed_relatedTable (by decide) (by decide) (List.forall_mem_singleton.2 term)
      ⟨condition, List.mem_singleton_self _, ties⟩
  · obtain ⟨condition, tied, rfl⟩ := Option.map_eq_some_iff.1 found
    have isTranscript : "related_transcript" ∈ ["related", "related_transcript"] := by simp
    obtain ⟨term, ties⟩ := ofGraph?_ties subject isTranscript (by decide) tied
    refine isComposed_relatedRows (by decide) (by simp) (by decide) ?_
      (List.forall_mem_singleton.2 term) ⟨condition, List.mem_singleton_self _, ties⟩ ?_
    · exact List.forall_mem_singleton.2 (joined_related (by decide) (by decide)
        (isTerm_equalColumns (by simp) (by simp) (by decide) (by decide)))
    · exact List.forall_mem_singleton.2 (.column (by simp) (by decide))
  · obtain ⟨condition, tied, rfl⟩ := Option.map_eq_some_iff.1 found
    obtain ⟨term, ties⟩ := ofSpeaker?_ties subject isRow tied
    exact isComposed_relatedTable (by decide) (by decide) (List.forall_mem_singleton.2 term)
      ⟨condition, List.mem_singleton_self _, ties⟩
  · cases found
    obtain ⟨terms, ties⟩ := ofMainSpeaker_ties subject resolved isRow
    exact isComposed_relatedTable (by decide) (by decide) terms ties

end

end Scene

end CorpusQuery.Filter
