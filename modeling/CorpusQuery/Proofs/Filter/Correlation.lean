import CorpusQuery.Proofs.Access
import CorpusQuery.Proofs.Expression.RoundTrip
import CorpusQuery.Proofs.Filter.Composition
import CorpusQuery.Proofs.Filter.Confinement

namespace CorpusQuery

/-! The statement of an expression refers to no rows but those that it introduces, and its
subqueries are about the subject's row. -/

open Sql

/-! ### Restrictions -/

namespace Access

variable {target : Filter.Target} {gaps : Prop} {known : List String}

open CorpusQuery.Filter

section Permitted

variable {table row : String} (operand : IsOperand table) (named : IsName row)
  {permission on : List Fragment} (tied : on ≠ [])
  (permits : ∀ condition ∈ permission,
    IsTerm gaps target.Allows (["role", "role_permission", row] ++ known) condition)
  (terms : ∀ condition ∈ on,
    IsTerm gaps target.Allows (["role", "role_permission", row] ++ known) condition)

include operand named tied permits terms

/-- The permissions of a role are joined, and the rows of the table that they are about. -/
theorem joins_permitted :
    ∀ join ∈ ((roles permission).join (.inner [.words table] row on)).joins,
      join.IsSimple ∧ ∀ condition ∈ join.on,
        IsTerm gaps target.Allows (["role", "role_permission", row] ++ known) condition := by
  have userRoles : IsTerm gaps target.Allows (["role", "role_permission", row] ++ known)
      (equalColumns ("role_permission", "user_role_id") ("role", "role_id")) :=
    isTerm_equalColumns (by simp) (by simp) (by decide) (by decide)
  have transcripts : IsTerm gaps target.Allows (["role", "role_permission", row] ++ known)
      [.column "role_permission" "entity", .words " REGEXP ", .marker ".*t.*"] :=
    isTerm_compared (by simp) (by decide) (by decide) (by decide) (.marker _)
  refine List.forall_mem_cons.2 ⟨?_, List.forall_mem_singleton.2 ?_⟩
  · exact Join.isSimple_inner (by decide) (.inl rfl) (List.cons_ne_nil _ _)
      (List.forall_mem_cons.2 ⟨userRoles,
        List.forall_mem_append.2 ⟨permits, List.forall_mem_singleton.2 transcripts⟩⟩)
  · exact Join.isSimple_inner named (.inr ⟨table, rfl, operand⟩) tied terms

/-- What a role of a user permits, for the rows of a table. -/
theorem composes_permitted
    (apart : ∀ name ∈ ["role", "role_permission", row], name ∉ "related" :: target.names)
    {graph : Fragment}
    (ofGraph : IsTerm gaps target.Allows (["role", "role_permission", row] ++ known) graph)
    (id : String) :
    target.Composes gaps known
      ((((roles permission).join (.inner [.words table] row on)).restrict
        [.column "role" "user_id", .words " = ", .bound (.text id)]).restrict
          (.column row "ag_id" :: .words " = " :: graph)) := by
  have rows := rows_permitted permission on table row
  have joins := joins_permitted operand named tied permits terms
  have ofUser : IsTerm gaps target.Allows (["role", "role_permission", row] ++ known)
      [.column "role" "user_id", .words " = ", .bound (.text id)] :=
    isTerm_equals (by simp) (by decide) (.bound _)
  have all : target.Composes gaps known ((roles permission).join (.inner [.words table] row on)) :=
    { allows := ⟨fun name member inside =>
        apart name (rows ▸ member) (List.mem_cons_of_mem _ inside),
        fun related => absurd (List.mem_cons_self ..) (apart "related" (rows ▸ related))⟩
      simple := ⟨rfl, ⟨"role", "role", rfl, by decide, by decide⟩,
        fun join member => (joins join member).1,
        fun _ limited => absurd limited (Option.not_mem_none _)⟩
      columns := List.forall_mem_singleton.2 (.words (by decide))
      joins := rows ▸ fun join member => (joins join member).2
      conditions := List.forall_mem_nil _
      order := List.forall_mem_nil _ }
  have own := all.restrict (rows ▸ ofUser)
  refine own.restrict ?_
  rw [Select.rows_restrict, rows]
  exact isTerm_equals (by simp) ⟨named, by decide⟩ ofGraph

end Permitted

theorem apart_of_other {row : String} (other : row ∉ ["related", "annotation", "start_anchor",
    "end_anchor", "transcript", "speaker"]) : row ∉ "related" :: target.names := fun member =>
  other (List.cons_subset_cons _ target.names_subset member)

/-- The restriction to what a user may see, for a column with the graph. -/
theorem isTerm_restriction (id : String) {row : String} (isKnown : row ∈ known)
    (named : IsName row) :
    IsTerm gaps target.Allows known ((Access.user id).restriction [.column row "ag_id"]) := by
  have ofGraph (rows : List String) :
      IsTerm gaps target.Allows (rows ++ known) [.column row "ag_id"] :=
    .column (List.mem_append_right _ isKnown) ⟨named, by decide⟩
  have matched {rows : List String} {left name right other : String} (leftKnown : left ∈ rows)
      (rightKnown : right ∈ rows) (leftNamed : IsName left ∧ IsName name)
      (rightNamed : IsName right ∧ IsName other) :
      IsTerm gaps target.Allows (rows ++ known)
        [.column left name, .words " REGEXP ", .column right other] :=
    isTerm_compared (List.mem_append_left _ leftKnown) leftNamed (by decide) (by decide)
      (.column (List.mem_append_left _ rightKnown) rightNamed)
  have ownNames {row : String} (other : row ∉ ["related", "annotation", "start_anchor",
      "end_anchor", "transcript", "speaker"]) :
      ∀ name ∈ ["role", "role_permission", row], name ∉ "related" :: target.names :=
    List.forall_mem_cons.2 ⟨apart_of_other (by decide),
      List.forall_mem_cons.2 ⟨apart_of_other (by decide),
        List.forall_mem_singleton.2 (apart_of_other other)⟩⟩
  have byAttribute : IsTerm gaps target.Allows known (byAttribute id [.column row "ag_id"]) := by
    refine (composes_permitted (by decide) (by decide) (List.cons_ne_nil _ _)
      (List.forall_mem_nil _) ?_ (ownNames (by decide)) (ofGraph _) id).existing ?_
    · exact List.forall_mem_cons.2 ⟨isTerm_equalColumns (by simp) (by simp) (by decide) (by decide),
        List.forall_mem_singleton.2 (matched (by simp) (by simp) (by decide) (by decide))⟩
    · simp [roles, Select.join]
  have byCorpus : IsTerm gaps target.Allows known (byCorpus id [.column row "ag_id"]) := by
    refine (composes_permitted (by decide) (by decide) (List.cons_ne_nil _ _)
      (List.forall_mem_singleton.2 ?_) (List.forall_mem_singleton.2 ?_) (ownNames (by decide))
      (ofGraph _) id).existing ?_
    · exact isTerm_equals (by simp) (by decide) (.marker _)
    · exact matched (by simp) (by simp) (by decide) (by decide)
    · simp [roles, Select.join]
  exact isTerm_disjunction (fun none => absurd none (List.cons_ne_nil _ _))
    (List.forall_mem_cons.2 ⟨byAttribute, List.forall_mem_singleton.2 byCorpus⟩)

end Access

namespace Filter

/-! ### Groups that keep to the subject's row -/

/-- A group has no row of its own among those of the statement, and if it is about another
layer, it is a subquery with a condition that ties it to the subject's row. -/
structure IsCorrelated (rows : List String) (subject : String) (group : Fragment) : Prop where
  apart : ∀ row ∈ group.introduced, row ∉ rows
  tied : "related" ∈ group.introduced → ∃ select : Select,
    group = select.subquery ∧ group.introduced = select.rows ∧ select.IsTiedTo subject

theorem isCorrelated_of_nil {rows : List String} {subject : String} {group : Fragment}
    (nothing : group.introduced = []) : IsCorrelated rows subject group where
  apart row member := by simp [nothing] at member
  tied related := by simp [nothing] at related

namespace Target

variable {target : Target} {known : List String}

theorem Allows.isCorrelated {select : Select} (allows : target.Allows select)
    (introduced : select.subquery.introduced = select.rows) :
    IsCorrelated target.names target.row.1 select.subquery where
  apart row member := allows.apart row (introduced ▸ member)
  tied related := ⟨select, rfl, introduced, allows.tied (introduced ▸ related)⟩

/-- A clause of a statement about the target: it refers to known rows only, and its groups
keep to the target's row. -/
structure Sound (target : Target) (known : List String) (fragment : Fragment) : Prop where
  within : fragment.Within known
  groups : fragment.AllGroups (IsCorrelated target.names target.row.1)

theorem sound_of_isTerm {gaps : Prop} {fragment : Fragment}
    (term : IsTerm gaps target.Allows known fragment) : target.Sound known fragment where
  within := term.within
  groups := term.allGroups.imp fun group kind => by
    rcases kind with nothing | ⟨select, allows, rfl, introduced⟩
    · exact isCorrelated_of_nil nothing
    · exact allows.isCorrelated introduced

theorem sound_of_isFlat {fragment : Fragment} (within : fragment.Within known)
    (flat : fragment.IsFlat) : target.Sound known fragment :=
  ⟨within, flat.allGroups⟩

theorem sound_of_isGiven {fragment : Fragment} (given : fragment.IsGiven) :
    target.Sound known fragment := by
  refine sound_of_isFlat given.within ⟨fun member => ?_, fun member => ?_⟩ <;>
    · obtain ⟨sql, params, other⟩ := given _ member
      contradiction

theorem Sound.parenthesized {fragment : Fragment} (sound : target.Sound known fragment) :
    target.Sound known fragment.parenthesized :=
  ⟨sound.within.parenthesized,
    sound.groups.parenthesized (isCorrelated_of_nil sound.within.introduced_eq)⟩

/-! ### Statements -/

/-- The row of a target is that of a table. -/
theorem row_eq (target : Target) :
    ∃ table, target.row.2 = relation table target.row.1 ∧ IsOperand table ∧
      IsName target.row.1 := by
  have annotated : IsName "annotation" := by decide
  have attributes : IsOperand "annotation_transcript" ∧ IsOperand "annotation_participant" := by
    decide
  have speaker : IsName "speaker" := by decide
  have transcript : IsName "transcript" := by decide
  cases target with
  | intervals layer scope table => exact ⟨_, rfl, isOperand_layerTable table, annotated⟩
  | attributed layer owner name =>
      cases owner with
      | transcript => exact ⟨_, rfl, attributes.1, annotated⟩
      | participant => exact ⟨_, rfl, attributes.2, annotated⟩
  | participants layer mainOnly => exact ⟨"speaker", rfl, speaker.isOperand, speaker⟩
  | transcripts => exact ⟨"transcript", rfl, transcript.isOperand, transcript⟩
  | unresolved => exact ⟨"transcript", rfl, transcript.isOperand, transcript⟩

theorem isTerm_own {gaps : Prop} (subject : target.row.1 ∈ known) :
    ∀ condition ∈ target.own, IsTerm gaps target.Allows known condition := by
  unfold own
  split
  · rename_i layer owner name
    have annotated : (attributed layer owner name).row.1 = "annotation" := by cases owner <;> rfl
    exact List.forall_mem_singleton.2
      (isTerm_equals (annotated ▸ subject) (by decide) (.marker name))
  · have trails : Fragment.Trails [.words " <> 0"] := by decide
    refine List.forall_mem_singleton.2 ((composes_table (by decide) (by decide) (by decide)
      (fun member => absurd (names_subset _ member) (by decide)) ?_ ?_).existing
        (List.cons_ne_nil _ _))
    · exact List.forall_mem_singleton.2 (.words (by decide))
    · exact List.forall_mem_cons.2
        ⟨isTerm_equalColumns (by simp) (List.mem_cons_of_mem _ subject) (by decide) (by decide),
          List.forall_mem_singleton.2
            (.before (by decide) trails (.column (List.mem_cons_self ..) (by decide)))⟩
  · exact List.forall_mem_nil _

/-- The restriction to what a user may see, of the row's graph or of those of its speaker. -/
theorem isTerm_accessCondition (resolved : target ≠ .unresolved) (subject : target.row.1 ∈ known)
    (schema : Schema) (id : String) :
    IsTerm True target.Allows known (target.accessCondition schema (.user id)) := by
  obtain ⟨table, -, -, named⟩ := target.row_eq
  have ofSpeaker : IsName target.row.1 ∧ IsName "speaker_number" := ⟨named, by decide⟩
  rw [accessCondition_eq_restriction resolved]
  unfold restriction
  dsimp only
  split
  · exact Access.isTerm_restriction id subject named
  · refine (composes_table (by decide) (by decide) (by decide)
      (fun member => absurd (target.names_subset member) (by decide)) ?_ ?_).existing
        (List.cons_ne_nil _ _)
    · exact List.forall_mem_singleton.2 (.words (by decide))
    · exact List.forall_mem_cons.2
        ⟨isTerm_equalColumns (by simp) (List.mem_cons_of_mem _ subject) (by decide) ofSpeaker,
          List.forall_mem_singleton.2
            (Access.isTerm_restriction id (List.mem_cons_self ..) (by decide))⟩

theorem sound_accessCondition (resolved : target ≠ .unresolved) (subject : target.row.1 ∈ known)
    (schema : Schema) {access : Access} (given : access.IsGiven) :
    target.Sound known (target.accessCondition schema access) := by
  cases access with
  | condition fragment => exact (sound_of_isGiven given).parenthesized
  | user id => exact sound_of_isTerm (isTerm_accessCondition resolved subject schema id)

/-- The anchors are joined that some clause asks for. -/
def joinsAnchors (target : Target) (options : Options) (condition : Noted Fragment) : Bool :=
  target.isInterval && (condition.anchors || ordered options.order)

theorem select_eq (schema : Schema) (target : Target) (options : Options)
    (condition : Noted Fragment) :
    target.select schema options condition =
      { columns := options.select.getD [.column target.row.1 "*"] ::
          target.layerId?.toList.map fun id => [.marker id, .words " AS layer"]
        source := target.row.2
        joins := (if target.joinsAnchors options condition then anchorJoins else []) ++
          if condition.transcript then [transcriptJoin] else []
        conditions := (target.own ++ [condition.value] ++
          options.extra.toList.map Fragment.parenthesized ++
          options.access.toList.map (target.accessCondition schema)).filter (!·.isBlank)
        order := target.orderTerms options.order
        limit := options.limit } := by
  unfold select joinsAnchors
  simp only [Select.foldl_restrict, List.nil_append]

theorem rows_select (schema : Schema) (target : Target) (options : Options)
    (condition : Noted Fragment) :
    (target.select schema options condition).rows =
      target.row.1 ::
        ((if target.joinsAnchors options condition then ["start_anchor", "end_anchor"] else []) ++
          if condition.transcript then ["transcript"] else []) := by
  obtain ⟨table, source, operand, named⟩ := target.row_eq
  rw [select_eq, Select.rows]
  dsimp only
  rw [source, (Fragment.uses_relation [] named.ne_empty operand.1).introduced_eq, List.map_append,
    List.singleton_append]
  congr 2
  · split <;> rfl
  · split <;> rfl

/-- The anchors and the transcript are joined by columns of the annotation. -/
theorem isTied_joins : ∀ join ∈ anchorJoins ++ [transcriptJoin], join.IsTied ["annotation"] := by
  have first : (Join.inner [.words "anchor"] "start_anchor"
      [equalColumns ("start_anchor", "anchor_id") ("annotation", "start_anchor_id")]).IsTied
        ["annotation"] := ⟨by decide, by decide, by decide, by decide⟩
  have last : (Join.inner [.words "anchor"] "end_anchor"
      [equalColumns ("end_anchor", "anchor_id") ("annotation", "end_anchor_id")]).IsTied
        ["annotation"] := ⟨by decide, by decide, by decide, by decide⟩
  have transcript : transcriptJoin.IsTied ["annotation"] :=
    ⟨by decide, by decide, by decide, by decide⟩
  exact List.forall_mem_cons.2 ⟨first, List.forall_mem_cons.2 ⟨last,
    List.forall_mem_singleton.2 transcript⟩⟩

theorem isSimple_joins {gaps : Prop} (annotated : "annotation" ∈ known) :
    ∀ join ∈ anchorJoins ++ [transcriptJoin], join.row ∈ known → join.IsSimple ∧
      ∀ condition ∈ join.on, IsTerm gaps target.Allows known condition := by
  have joined {table row name column : String} (operand : IsOperand table)
      (rowNamed : IsName row ∧ IsName name) (named : IsName column) :
      let join := Join.inner [.words table] row [equalColumns (row, name) ("annotation", column)]
      join.row ∈ known → join.IsSimple ∧
        ∀ condition ∈ join.on, IsTerm gaps target.Allows known condition := by
    intro join isKnown
    have isAnnotated : IsName "annotation" := by decide
    exact Join.isSimple_inner rowNamed.1 (.inr ⟨table, rfl, operand⟩) (List.cons_ne_nil _ _)
      (List.forall_mem_singleton.2 (isTerm_equalColumns (Join.row_inner _ row _ ▸ isKnown)
        annotated rowNamed ⟨isAnnotated, named⟩))
  refine List.forall_mem_cons.2 ⟨?_, List.forall_mem_cons.2 ⟨?_, List.forall_mem_singleton.2 ?_⟩⟩
  · exact joined (by decide) (by decide) (by decide)
  · exact joined (by decide) (by decide) (by decide)
  · exact joined (by decide) (by decide) (by decide)

/-- The joins of a statement are those of annotations. -/
theorem joins_select {options : Options} {condition : Noted Fragment}
    (annotated : condition.transcript = true → target.row.1 = "annotation") (schema : Schema) :
    ∀ join ∈ (target.select schema options condition).joins,
      join ∈ anchorJoins ++ [transcriptJoin] ∧ target.row.1 = "annotation" := by
  rw [select_eq]
  refine List.forall_mem_append.2 ⟨?_, ?_⟩
  · split
    · rename_i joined
      exact fun join member => ⟨List.mem_append_left _ member,
        row_of_isInterval (Bool.and_eq_true_iff.1 joined).1⟩
    · exact List.forall_mem_nil _
  · split
    · rename_i joined
      exact fun join member => ⟨List.mem_append_right _ member, annotated joined⟩
    · exact List.forall_mem_nil _

theorem sound_standardOrder (subject : target.row.1 ∈ known)
    (anchors : target.isInterval = true → "start_anchor" ∈ known ∧ "end_anchor" ∈ known) :
    ∀ term ∈ target.standardOrder, target.Sound known term := by
  have column {row name : String} (isKnown : row ∈ known) :
      target.Sound known [.column row name] :=
    sound_of_isFlat (.column isKnown name Fragment.within_nil) (by simp [Fragment.IsFlat])
  cases target with
  | intervals layer scope table =>
      obtain ⟨first, last⟩ := anchors rfl
      have annotated : "annotation" ∈ known := subject
      simp [standardOrder, column annotated, column first, column last]
  | attributed layer owner name =>
      cases owner with
      | transcript =>
          have annotated : "annotation" ∈ known := subject
          simp [standardOrder, column annotated]
      | participant =>
          have annotated : "annotation" ∈ known := subject
          simp [standardOrder, column annotated]
  | participants layer mainOnly =>
      have speaker : "speaker" ∈ known := subject
      simp [standardOrder, column speaker]
  | transcripts =>
      have transcript : "transcript" ∈ known := subject
      simp [standardOrder, column transcript]
  | unresolved => simp [standardOrder]

/-- All fragments of the caller's are taken as they are. -/
structure Options.IsGiven (options : Options) : Prop where
  select : ∀ columns ∈ options.select, Fragment.IsGiven columns
  access : ∀ access ∈ options.access, Access.IsGiven access
  extra : ∀ condition ∈ options.extra, Fragment.IsGiven condition
  order : ∀ terms, options.order = .after terms → ∀ term ∈ terms, term.IsGiven
  limit : ∀ count ∈ options.limit, Fragment.IsGiven count

/-- Where the condition asks for no transcript but an annotation's, and is sound where the rows
are known that it asks for. -/
structure Fits (target : Target) (condition : Noted Fragment) : Prop where
  annotated : condition.transcript = true → target.row.1 = "annotation"
  sound : ∀ known, target.row.1 ∈ known →
    (condition.anchors = true → target.isInterval = true →
      "start_anchor" ∈ known ∧ "end_anchor" ∈ known) →
    (condition.transcript = true → "transcript" ∈ known) → target.Sound known condition.value

section

variable {schema : Schema} {options : Options} {condition : Noted Fragment}

theorem subject_mem_rows : target.row.1 ∈ (target.select schema options condition).rows :=
  rows_select schema target options condition ▸ List.mem_cons_self ..

theorem anchors_mem_rows (joined : target.joinsAnchors options condition) :
    "start_anchor" ∈ (target.select schema options condition).rows ∧
      "end_anchor" ∈ (target.select schema options condition).rows := by
  simp [rows_select, joined]

theorem rows_subset_names (annotated : condition.transcript = true → target.row.1 = "annotation") :
    (target.select schema options condition).rows ⊆ target.names ∧
      (target.select schema options condition).rows.Nodup := by
  rw [rows_select]
  cases asked : condition.transcript with
  | true =>
      have isAnnotated := annotated asked
      cases target with
      | intervals | attributed =>
          rw [isAnnotated]
          split <;> simp [names]
      | participants layer mainOnly => simp [row] at isAnnotated
      | transcripts | unresolved => exact absurd isAnnotated (by decide)
  | false =>
      cases target with
      | intervals =>
          split <;> simp [names, row]
      | attributed layer owner name =>
          cases owner <;> simp [names, row, joinsAnchors, isInterval]
      | participants | transcripts | unresolved =>
          simp [names, row, joinsAnchors, isInterval]

variable (resolved : target ≠ .unresolved) (given : options.IsGiven) (fits : target.Fits condition)

include resolved given fits

theorem sound_clauses :
    let statement := target.select schema options condition
    ∀ fragment ∈ statement.columns ++ statement.conditions ++ statement.order,
      target.Sound statement.rows fragment := by
  intro statement
  have subject : target.row.1 ∈ statement.rows := subject_mem_rows
  have joined (asked : condition.anchors || ordered options.order) (inTime : target.isInterval) :
      "start_anchor" ∈ statement.rows ∧ "end_anchor" ∈ statement.rows :=
    anchors_mem_rows (Bool.and_eq_true_iff.2 ⟨inTime, asked⟩)
  have clauses := select_eq schema target options condition
  have columns : statement.columns = _ := congrArg Select.columns clauses
  have conditions : statement.conditions = _ := congrArg Select.conditions clauses
  have order : statement.order = target.orderTerms options.order := congrArg Select.order clauses
  rw [columns, conditions, order]
  refine List.forall_mem_append.2 ⟨List.forall_mem_append.2 ⟨?_, ?_⟩, ?_⟩
  · refine List.forall_mem_cons.2 ⟨?_, List.forall_mem_map.2 fun id _ => ?_⟩
    · cases chosen : options.select with
      | none =>
          exact sound_of_isFlat (.column subject "*" Fragment.within_nil)
            (by simp [Fragment.IsFlat])
      | some columns => exact sound_of_isGiven (given.select columns chosen)
    · exact sound_of_isFlat (.marker id (.words (by decide) Fragment.within_nil))
        (by simp [Fragment.IsFlat])
  · intro fragment member
    refine List.forall_mem_append.2 ⟨List.forall_mem_append.2 ⟨List.forall_mem_append.2
      ⟨?_, List.forall_mem_singleton.2 ?_⟩, ?_⟩, ?_⟩ fragment (List.mem_filter.1 member).1
    · have own : ∀ condition ∈ target.own, IsTerm True target.Allows statement.rows condition :=
        isTerm_own subject
      exact fun condition member => sound_of_isTerm (own condition member)
    · refine fits.sound _ subject (fun asked => joined (by simp [asked])) fun asked => ?_
      rw [rows_select]
      simp [asked]
    · refine List.forall_mem_map.2 fun extra member => ?_
      exact (sound_of_isGiven (given.extra extra (Option.mem_toList.1 member))).parenthesized
    · refine List.forall_mem_map.2 fun access member => ?_
      exact sound_accessCondition resolved subject schema
        (given.access access (Option.mem_toList.1 member))
  · cases chosen : options.order with
    | standard => exact sound_standardOrder subject (joined (by simp [chosen, ordered]))
    | after terms =>
        refine List.forall_mem_append.2 ⟨fun term member => ?_,
          sound_standardOrder subject (joined (by simp [chosen, ordered]))⟩
        exact sound_of_isGiven (given.order terms chosen term member)
    | unordered => exact List.forall_mem_nil _

omit resolved given in
/-- Each join of the statement is that of a table, on terms. -/
theorem isSimple_joins_select :
    let statement := target.select schema options condition
    ∀ join ∈ statement.joins, join.IsSimple ∧
      ∀ condition ∈ join.on, IsTerm True target.Allows statement.rows condition := by
  intro statement join member
  obtain ⟨isJoin, annotated⟩ := joins_select fits.annotated schema join member
  have subject : "annotation" ∈ statement.rows := annotated ▸ subject_mem_rows
  exact isSimple_joins subject join isJoin
    (List.mem_append_right _ (List.mem_map_of_mem member))

omit resolved given fits in
theorem introduced_select :
    (target.select schema options condition).source.introduced = [target.row.1] := by
  obtain ⟨table, source, operand, named⟩ := target.row_eq
  rw [congrArg Select.source (select_eq schema target options condition), source,
    (Fragment.uses_relation [] named.ne_empty operand.1).introduced_eq]

theorem isScoped_select : (target.select schema options condition).IsScoped where
  source := ⟨target.row.1, introduced_select⟩
  named join member := by
    obtain ⟨simple, terms⟩ := isSimple_joins_select fits join member
    exact (simple.uses fun condition member => (terms condition member).within).introduced_eq
  distinct := (rows_subset_names fits.annotated).2
  tied := by
    rw [introduced_select]
    refine Join.allTied_of_isTied fun join member => ?_
    obtain ⟨isJoin, annotated⟩ := joins_select fits.annotated schema join member
    exact annotated ▸ isTied_joins join isJoin
  clauses fragment member :=
    (sound_clauses resolved given fits fragment member).within.free_subset

/-- All groups of the statement keep to the target's row. -/
theorem isCorrelated_of_mem_groups (gap : String) {group : Fragment}
    (member : group ∈ ((target.select schema options condition).render gap).groups) :
    IsCorrelated (target.select schema options condition).rows target.row.1 group := by
  have clauses := @sound_clauses target schema options condition resolved given fits
  have same := select_eq schema target options condition
  have all : (target.select schema options condition).AllGroups
      (IsCorrelated target.names target.row.1) :=
    { into := congrArg Select.into same
      columns := fun column member =>
        (clauses column (List.mem_append_left _ (List.mem_append_left _ member))).groups
      source := by
        obtain ⟨table, source, -⟩ := target.row_eq
        rw [congrArg Select.source same, source]
        exact allGroups_relation table _
      joins := fun join member => by
        obtain ⟨simple, terms⟩ := isSimple_joins_select fits join member
        exact simple.allGroups fun condition member =>
          (sound_of_isTerm (terms condition member)).groups
      conditions := fun condition member =>
        (clauses condition (List.mem_append_left _ (List.mem_append_right _ member))).groups
      order := fun term member => (clauses term (List.mem_append_right _ member)).groups
      limit := fun count member => by
        have limited : options.limit = some count :=
          (congrArg Select.limit same).symm.trans member
        have sound : target.Sound [] count := sound_of_isGiven (given.limit count limited)
        exact sound.groups }
  obtain ⟨apart, tied⟩ := (all.render gap).of_mem_groups member
  exact ⟨fun row member inside => apart row member ((rows_subset_names fits.annotated).1 inside),
    tied⟩

end

/-! ### The caller's fragments -/

def RowOrder.asGiven : RowOrder → RowOrder
  | .after terms => .after (terms.map Fragment.asGiven)
  | order => order

/-- The options with no more to see of the caller's fragments than texts with values. -/
def Options.asGiven (options : Options) : Options where
  select := options.select.map Fragment.asGiven
  access := options.access.map Access.asGiven
  extra := options.extra.map Fragment.asGiven
  order := options.order.asGiven
  limit := options.limit.map Fragment.asGiven

theorem Options.isGiven_asGiven (options : Options) : options.asGiven.IsGiven := by
  have mapped (fragment? : Option Fragment) :
      ∀ fragment ∈ fragment?.map Fragment.asGiven, Fragment.IsGiven fragment := by
    intro fragment member
    obtain ⟨given, -, rfl⟩ := Option.map_eq_some_iff.1 member
    exact given.isGiven_asGiven
  refine ⟨mapped _, fun access member => ?_, mapped _, fun terms same => ?_, mapped _⟩
  · obtain ⟨given, -, rfl⟩ := Option.map_eq_some_iff.1 member
    exact given.isGiven_asGiven
  · cases order : options.order with
    | after others =>
        rw [asGiven, order, RowOrder.asGiven, RowOrder.after.injEq] at same
        exact same ▸ List.forall_mem_map.2 fun term _ => term.isGiven_asGiven
    | standard | unordered => simp [asGiven, order, RowOrder.asGiven] at same

theorem query_conditions_asGiven (schema : Schema) (target : Target) (options : Options)
    (condition : Fragment) :
    (target.own ++ [condition] ++ options.asGiven.extra.toList.map Fragment.parenthesized ++
        options.asGiven.access.toList.map (target.accessCondition schema)).map Fragment.query =
      (target.own ++ [condition] ++ options.extra.toList.map Fragment.parenthesized ++
        options.access.toList.map (target.accessCondition schema)).map Fragment.query := by
  have extras : (options.asGiven.extra.toList.map Fragment.parenthesized).map Fragment.query =
      (options.extra.toList.map Fragment.parenthesized).map Fragment.query := by
    cases chosen : options.extra <;>
      simp [Options.asGiven, chosen, Fragment.query, Fragment.parenthesized]
  have restrictions : (options.asGiven.access.toList.map (target.accessCondition schema)).map
        Fragment.query =
      (options.access.toList.map (target.accessCondition schema)).map Fragment.query := by
    cases chosen : options.access with
    | none => simp [Options.asGiven, chosen]
    | some access =>
        cases access with
        | condition fragment =>
            simpa [Options.asGiven, chosen, accessCondition, Access.asGiven] using
              Access.query_restriction_asGiven (.condition fragment) []
        | user id => simp [Options.asGiven, chosen, Access.asGiven]
  rw [List.map_append, List.map_append, extras, restrictions, ← List.map_append,
    ← List.map_append]

theorem query_orderTerms_asGiven (target : Target) (order : RowOrder) :
    (target.orderTerms order.asGiven).map Fragment.query =
      (target.orderTerms order).map Fragment.query := by
  cases order with
  | after terms => simp [RowOrder.asGiven, orderTerms, Fragment.query_asGiven]
  | standard | unordered => rfl

/-- The statement is the same whether the caller's fragments are looked into or not. -/
theorem query_select_asGiven (schema : Schema) (target : Target) (options : Options)
    (condition : Noted Fragment) :
    (target.select schema options.asGiven condition).statement.query =
      (target.select schema options condition).statement.query := by
  have anchors : target.joinsAnchors options.asGiven condition =
      target.joinsAnchors options condition := by
    cases options with
    | mk select access extra order limit => cases order <;> rfl
  rw [select_eq, select_eq, anchors]
  refine Select.SameClauses.render Fragment.compositional_query ?_ "\n"
  refine ⟨rfl, rfl, ?_, rfl, rfl,
    Fragment.query_visible_congr (query_conditions_asGiven schema target options _),
    query_orderTerms_asGiven target options.order, ?_⟩
  · cases chosen : options.select <;> simp [Options.asGiven, chosen, Fragment.query_asGiven]
  · cases limited : options.limit <;> simp [Options.asGiven, limited, Fragment.query_asGiven]

end Target

/-! ### Expressions -/

/-- No row is asked for to find out what the subject is. -/
theorem Target.asks_resolve (schema : Schema) (subject : Subject) :
    (resolve schema subject).anchors = false ∧ (resolve schema subject).transcript = false := by
  cases subject with
  | layer id =>
      change (resolveLayer schema id).anchors = false ∧ (resolveLayer schema id).transcript = false
      unfold resolveLayer
      split <;> exact ⟨rfl, rfl⟩
  | participants | transcripts => exact ⟨rfl, rfl⟩

theorem select_eq_ok {schema : Schema} {subject : Subject} {options : Target.Options}
    {expression : Expression} {statement : Select} :
    let found := examine schema subject expression
    select schema subject options expression = .ok statement ↔ found.problems = [] ∧
      found.value.1.select schema options { found with value := found.value.2 } = statement :=
  acceptWithout_eq_ok

/-- Only the expression asks for rows. -/
theorem asks_examine (schema : Schema) (subject : Subject) (expression : Expression) :
    let found := examine schema subject expression
    let condition := Scene.condition ⟨schema, (Target.resolve schema subject).value⟩ expression
    found.anchors = condition.anchors ∧ found.transcript = condition.transcript := by
  intro found condition
  obtain ⟨noAnchors, noTranscript⟩ := Target.asks_resolve schema subject
  constructor
  · change ((Target.resolve schema subject).anchors || _) = _
    rw [noAnchors, Bool.false_or]
    exact Bool.or_false _
  · change ((Target.resolve schema subject).transcript || _) = _
    rw [noTranscript, Bool.false_or]
    exact Bool.or_false _

/-- Where nothing is a problem, the target is known and the condition fits it. -/
theorem fits_examine {text : String} {expression : Expression}
    (accepted : Expression.parse text = .ok expression) {schema : Schema} {subject : Subject}
    (faultless : (examine schema subject expression).problems = []) :
    let found := examine schema subject expression
    found.value.1 ≠ .unresolved ∧ found.value.1.Fits { found with value := found.value.2 } := by
  intro found
  let scene : Scene := ⟨schema, (Target.resolve schema subject).value⟩
  obtain ⟨anchors, transcript⟩ := asks_examine schema subject expression
  rw [problems_examine, List.append_eq_nil_iff] at faultless
  have resolved : scene.target ≠ .unresolved := fun unknown =>
    Target.problems_of_unresolved unknown faultless.1
  have built := Expression.built_of_parse accepted
  have terms (known : List String) (subject : scene.target.row.1 ∈ known) :=
    scene.finds_condition True resolved subject expression built fun _ _ => trivial
  refine ⟨resolved, fun asked => ?_, fun known isKnown isAnchors isTranscript => ?_⟩
  · have everything := terms ["start_anchor", "end_anchor", "transcript", scene.target.row.1]
      (by simp) ⟨faultless.2, fun _ _ => by simp, fun _ => by simp⟩
    exact everything.2 (transcript ▸ asked)
  · have found := terms known isKnown ⟨faultless.2, fun asked => isAnchors (anchors ▸ asked),
      fun asked => isTranscript (transcript ▸ asked)⟩
    exact Target.sound_of_isTerm found.1

/-- The statement of an expression refers to no rows but its own, each of them tied to those
before it, where the caller's fragments are taken as plain texts.  No group in it, however deep,
has a row of its own with the name of one of the statement's, so that these are meant wherever
they are named, and each subquery about another layer has a condition that ties it to the
subject's row. -/
theorem select_correlated {text : String} {expression : Expression}
    (accepted : Expression.parse text = .ok expression) {schema : Schema} {subject : Subject}
    {options : Target.Options} {statement : Select}
    (selected : select schema subject options expression = .ok statement) :
    ∃ target view, (Target.resolve schema subject).value = target ∧
      select schema subject options.asGiven expression = .ok view ∧
      view.statement.query = statement.statement.query ∧ view.IsScoped ∧
      view.source.introduced = [target.row.1] ∧
      ∀ group ∈ view.statement.groups, IsCorrelated view.rows target.row.1 group := by
  obtain ⟨faultless, rfl⟩ := select_eq_ok.1 selected
  obtain ⟨resolved, fits⟩ := fits_examine accepted faultless
  have given := options.isGiven_asGiven
  exact ⟨_, _, rfl, select_eq_ok.2 ⟨faultless, rfl⟩, Target.query_select_asGiven _ _ _ _,
    Target.isScoped_select resolved given fits, Target.introduced_select, fun group member =>
    Target.isCorrelated_of_mem_groups resolved given fits "\n" member⟩

/-! ### Rows of one layer among those of another -/

namespace Among

def schema : Schema :=
  .ofEntries
    [⟨{ Layer.ofId "word" with tableId := some 0 }, .temporal .word 0⟩,
      ⟨{ Layer.ofId "topic" with tableId := some 3 }, .temporal .span 3⟩,
      ⟨{ Layer.ofId "gender" with attributeKey := some ⟨.participant, "gender"⟩ },
        .attributed .participant "gender"⟩]
    { word := some "word" }

def expression : Expression :=
  .and [.compare (.own .graphId) .ne .null, .includesAny (.labels "topic") (.labels "gender")]

end Among

/-- A value of words is looked for among those of their speakers: three statements one in the
other, two of them with rows of the same name. -/
theorem among_correlated :
    Expression.parse Among.expression.display = .ok Among.expression ∧
      ∃ statement view : Select,
        select Among.schema (.layer "word") {} Among.expression = .ok statement ∧
        view.statement.query = statement.statement.query ∧ view.IsScoped ∧
        view.rows = ["annotation", "start_anchor", "end_anchor", "transcript"] ∧
        ∀ group ∈ view.statement.groups, IsCorrelated view.rows "annotation" group := by
  have built : Among.expression.Built := by
    simp [Among.expression, Expression.Built, Expression.BuiltAll, Operand.Built]
  have plain : Among.expression.Plain := by
    simp [Among.expression, Expression.Plain, Expression.PlainAll, Operand.Plain]
  have accepted : Expression.parse Among.expression.display = .ok Among.expression :=
    Expression.parse_display_of_plain built plain
  have faultless : (examine Among.schema (.layer "word") Among.expression).problems = [] := by
    decide +kernel
  have selected : select Among.schema (.layer "word") {} Among.expression = .ok _ :=
    select_eq_ok.2 ⟨faultless, rfl⟩
  obtain ⟨target, view, rfl, found, same, isScoped, -, correlated⟩ :=
    select_correlated accepted selected
  obtain ⟨-, rfl⟩ := select_eq_ok.1 found
  exact ⟨accepted, _, _, selected, same, isScoped,
    (Target.rows_select ..).trans (by decide +kernel), correlated⟩

end Filter

end CorpusQuery
