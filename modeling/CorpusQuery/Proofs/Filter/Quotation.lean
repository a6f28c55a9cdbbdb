import CorpusQuery.Proofs.Filter.Correlation
import CorpusQuery.Proofs.Sql.Literals

namespace CorpusQuery

/-! The literals in the statement of an expression: the ids of layers, the names of attributes
and the stems of uids.  Each of them ends in front of what follows it there. -/

open Sql

/-! ### What is made of other fragments -/

theorem isSetOff_apply (function : String) {argument : Fragment} (setOff : argument.IsSetOff) :
    (apply function argument).IsSetOff :=
  setOff.parenthesized.cons rfl

theorem isSetOff_disjunction {fragments : List Fragment}
    (all : ∀ fragment ∈ fragments, fragment.IsSetOff) :
    (Fragment.disjunction fragments).parenthesized.IsSetOff :=
  (Fragment.isSetOff_join (by decide) all).parenthesized

theorem isSetOff_existing {rows : Select} (setOff : rows.IsSetOff) : (existing rows).IsSetOff :=
  (setOff.render (by decide)).parenthesized.cons rfl

/-! ### Restrictions -/

namespace Access

/-- Of an access only a condition of the caller's can have literals that go on. -/
def IsSetOff : Access → Prop
  | .condition fragment => fragment.IsSetOff
  | .user _ => True

variable {graph : Fragment} (bare : graph.HasNoMarker)

include bare

theorem isSetOff_permitted {permitted : Select} (setOff : permitted.IsSetOff) (id row : String) :
    (existing ((permitted.restrict [.column "role" "user_id", .words " = ",
      .bound (.text id)]).restrict (.column row "ag_id" :: .words " = " :: graph))).IsSetOff := by
  refine isSetOff_existing ((setOff.restrict ?_).restrict ?_)
  · exact Fragment.HasNoMarker.isSetOff (by simp)
  · exact (bare.isSetOff.cons rfl).cons rfl

theorem isSetOff_restriction {access : Access} (setOff : access.IsSetOff) :
    (access.restriction graph).IsSetOff := by
  cases access with
  | condition fragment => exact Fragment.IsSetOff.parenthesized setOff
  | user id =>
      have byAttribute : (byAttribute id graph).IsSetOff :=
        isSetOff_permitted bare ⟨by decide, by decide, by decide, by decide, by decide, by decide,
          by decide⟩ id "access_attribute"
      have byCorpus : (byCorpus id graph).IsSetOff :=
        isSetOff_permitted bare ⟨by decide, by decide, by decide, by decide, by decide, by decide,
          by decide⟩ id "access_transcript"
      exact isSetOff_disjunction
        (List.forall_mem_cons.2 ⟨byAttribute, List.forall_mem_singleton.2 byCorpus⟩)

end Access

namespace Filter

namespace Target

/-- All literals in the caller's fragments end before what follows them, as those of plain
texts do. -/
structure Options.IsSetOff (options : Options) : Prop where
  select : ∀ columns ∈ options.select, Fragment.IsSetOff columns
  access : ∀ access ∈ options.access, Access.IsSetOff access
  extra : ∀ condition ∈ options.extra, Fragment.IsSetOff condition
  order : ∀ terms, options.order = .after terms → ∀ term ∈ terms, term.IsSetOff
  limit : ∀ count ∈ options.limit, Fragment.IsSetOff count

variable {target : Target}

theorem isSetOff_orderTerms {order : RowOrder}
    (given : ∀ terms, order = .after terms → ∀ term ∈ terms, term.IsSetOff) :
    ∀ term ∈ target.orderTerms order, term.IsSetOff := by
  have standard : ∀ term ∈ target.standardOrder, term.IsSetOff := by
    unfold standardOrder
    split <;> decide
  cases order with
  | standard => exact standard
  | after terms => exact List.forall_mem_append.2 ⟨given terms rfl, standard⟩
  | unordered => exact List.forall_mem_nil _

theorem isSetOff_own : ∀ condition ∈ target.own, condition.IsSetOff := fun condition member =>
  (isTerm_own (List.mem_singleton_self _) condition member : IsTerm True _ _ _).isSetOff

theorem isSetOff_accessCondition (resolved : target ≠ .unresolved) (schema : Schema)
    {access : Access} (setOff : access.IsSetOff) :
    (target.accessCondition schema access).IsSetOff := by
  cases access with
  | condition fragment => exact Fragment.IsSetOff.parenthesized setOff
  | user id =>
      exact (isTerm_accessCondition resolved (List.mem_singleton_self _) schema id).isSetOff

/-- Among the columns the id of a layer is kept apart from the next one by its name. -/
theorem isSetOff_select (resolved : target ≠ .unresolved) (schema : Schema) {options : Options}
    (given : options.IsSetOff) {condition : Noted Fragment} (setOff : condition.value.IsSetOff) :
    (target.select schema options condition).IsSetOff := by
  have joins : ∀ join ∈ anchorJoins ++ [transcriptJoin],
      join.source.IsSetOff ∧ ∀ condition ∈ join.on, condition.IsSetOff := by
    decide
  rw [select_eq]
  refine
    { into := by simp
      columns := List.forall_mem_cons.2 ⟨?_, List.forall_mem_map.2 fun _ _ => ?_⟩
      source := ?_
      joins := List.forall_mem_append.2 ⟨?_, ?_⟩
      conditions := fun condition member => ?_
      order := isSetOff_orderTerms given.order
      limit := given.limit }
  · cases chosen : options.select with
    | none => exact Fragment.isSetOff_singleton _
    | some columns => exact given.select columns chosen
  · exact (Fragment.isSetOff_singleton (.marker _)).words (by decide) Fragment.isSetOff_nil
  · obtain ⟨table, source, -⟩ := target.row_eq
    exact source ▸ Fragment.isSetOff_relation table target.row.1
  · split
    · exact fun join member => joins join (List.mem_append_left _ member)
    · exact List.forall_mem_nil _
  · split
    · exact fun join member => joins join (List.mem_append_right _ member)
    · exact List.forall_mem_nil _
  · have extra : ∀ condition ∈ options.extra.toList.map Fragment.parenthesized,
        condition.IsSetOff :=
      List.forall_mem_map.2 fun fragment member =>
        (given.extra fragment (Option.mem_toList.1 member)).parenthesized
    have access : ∀ condition ∈ options.access.toList.map (target.accessCondition schema),
        condition.IsSetOff :=
      List.forall_mem_map.2 fun access member =>
        isSetOff_accessCondition resolved schema (given.access access (Option.mem_toList.1 member))
    exact List.forall_mem_append.2 ⟨List.forall_mem_append.2 ⟨List.forall_mem_append.2
      ⟨isSetOff_own, List.forall_mem_singleton.2 setOff⟩, extra⟩, access⟩ condition
      (List.mem_filter.1 member).1

end Target

/-! ### Values -/

theorem isSetOff_of_composes {target : Target} {gaps : Prop} {known : List String}
    {select : Select} (composes : target.Composes gaps known select) : select.IsSetOff :=
  composes.simple.isSetOff (fun column member => (composes.columns column member).isSetOff)
    (fun join member condition on => (composes.joins join member condition on).isSetOff)
    (fun condition member => (composes.conditions condition member).isSetOff)
    (fun term member => (composes.order term member).isSetOff)

namespace Related

variable {related : Related} (rows : related.rows.IsSetOff)

include rows

theorem isSetOff_count : related.count.IsSetOff :=
  ((rows.column (by decide)).render (by decide)).parenthesized

theorem isSetOff_some {condition : Fragment} (setOff : condition.IsSetOff) :
    (related.some condition).IsSetOff :=
  isSetOff_existing ((rows.column (by decide)).restrict setOff)

end Related

/-- All literals in a value end before what follows them there. -/
def Value.IsSetOff : Value → Prop
  | .scalar fragment => fragment.IsSetOff
  | .literals items => ∀ item ∈ items, item.IsSetOff
  | .rows related column => related.rows.IsSetOff ∧ column.IsSetOff

theorem Value.isSetOff_of_isComposed {target : Target} {known : List String} {value : Value}
    (composed : value.IsComposed target True known) : value.IsSetOff := by
  cases value with
  | scalar fragment => exact IsTerm.isSetOff composed
  | literals items => exact fun item member => (composed item member).isSetOff
  | rows related column =>
      exact ⟨isSetOff_of_composes composed.1.rows, composed.2.isSetOff⟩

theorem isSetOff_membership {item : Fragment} (single : item.IsSetOff) {list : Value}
    (whole : list.IsSetOff) : (membership item list).IsSetOff := by
  cases list with
  | scalar value => exact single.words (by decide) whole
  | rows related column =>
      exact single.words (by decide)
        ((whole.1.column whole.2).render (by decide)).parenthesized
  | literals items =>
      cases items with
      | nil => exact Fragment.isSetOff_singleton _
      | cons first rest =>
          exact single.words (by decide) (Fragment.isSetOff_join (by decide) whole).parenthesized

theorem isSetOff_commonMember {left right : Value} (first : left.IsSetOff)
    (second : right.IsSetOff) : (commonMember left right).IsSetOff := by
  unfold commonMember
  split
  · exact Related.isSetOff_some first.1 (isSetOff_membership first.2 second)
  · exact Related.isSetOff_some second.1 (isSetOff_membership second.2 first)
  · exact Fragment.isSetOff_singleton _
  · exact isSetOff_disjunction
      (List.forall_mem_map.2 fun item member => isSetOff_membership (first item member) second)
  · exact isSetOff_membership first second

theorem isSetOff_matching (pattern : String) (negated : Bool) {value : Value}
    (whole : value.IsSetOff) : (matching pattern negated value).IsSetOff := by
  have regexp {fragment : Fragment} (setOff : fragment.IsSetOff) :
      Fragment.IsSetOff (fragment ++ [.words " REGEXP ", .bound (.text pattern)]) :=
    setOff.words (by decide) (Fragment.isSetOff_singleton _)
  have perhapsNot {found : Fragment} (setOff : found.IsSetOff) :
      Fragment.IsSetOff (if negated then .not :: found else found) := by
    split
    · exact setOff.cons rfl
    · exact setOff
  cases value with
  | scalar value =>
      have ends : ∀ negated : Bool,
          EndsLiteral (if negated then " NOT REGEXP " else " REGEXP ") := by decide
      exact Fragment.IsSetOff.words whole (ends negated) (Fragment.isSetOff_singleton _)
  | rows related column => exact perhapsNot (Related.isSetOff_some whole.1 (regexp whole.2))
  | literals items =>
      exact perhapsNot (isSetOff_disjunction
        (List.forall_mem_map.2 fun item member => regexp (whole item member)))

theorem isSetOff_size {value : Value} (whole : value.IsSetOff) : (size value).IsSetOff := by
  cases value with
  | scalar fragment => exact isSetOff_apply _ whole
  | literals items => exact Fragment.isSetOff_singleton _
  | rows related column => exact Related.isSetOff_count whole.1

/-! ### Operands and predicates -/

namespace Scene

variable {scene : Scene} {known : List String}

theorem isSetOff_single (operand : Operand) {value : Value} (whole : value.IsSetOff) :
    scene.Finds known Fragment.IsSetOff (single operand value) := by
  cases value with
  | scalar fragment => exact .pure whole
  | literals items => exact .problem _ _
  | rows related column => exact .problem _ _

mutual

theorem isSetOff_value (resolved : scene.target ≠ .unresolved)
    (subject : scene.target.row.1 ∈ known) : ∀ operand : Operand,
    scene.Finds known Value.IsSetOff (scene.value operand)
  | .text _ => .pure (Fragment.isSetOff_singleton _)
  | .integer _ => .pure (Fragment.isSetOff_singleton _)
  | .number _ => .pure (Fragment.isSetOff_singleton _)
  | .null => .pure (Fragment.isSetOff_singleton _)
  | .list items => by
      rw [value]
      exact (isSetOff_scalars resolved subject items).bind fun _ all => .pure all
  | .own attr => by
      rw [value]
      exact (finds_ownAttribute resolved subject attr).bind
        fun _ (term : IsTerm True _ _ _) => .pure term.isSetOff
  | .first layer attr => by
      rw [value]
      exact (finds_firstValue resolved subject layer attr).imp fun _ found =>
        Value.isSetOff_of_isComposed found.1
  | .labels layer => by
      rw [value]
      exact (finds_listing resolved subject _ layer _).imp fun _ found =>
        Value.isSetOff_of_isComposed found.1
  | .all layer => by
      rw [value]
      exact (finds_listing resolved subject _ layer _).imp fun _ found =>
        Value.isSetOff_of_isComposed found.1
  | .annotators layer => by
      rw [value]
      exact (finds_annotators resolved subject layer).imp fun _ found =>
        Value.isSetOff_of_isComposed found.1
  | .length inner => by
      rw [value]
      exact (isSetOff_value resolved subject inner).bind fun _ whole => .pure (isSetOff_size whole)
  | .coalesce items => by
      rw [value]
      exact (isSetOff_scalars resolved subject items).bind fun _ all =>
        .pure (isSetOff_apply _ (Fragment.isSetOff_join (by decide) all))

theorem isSetOff_scalars (resolved : scene.target ≠ .unresolved)
    (subject : scene.target.row.1 ∈ known) : ∀ items : List Operand,
    scene.Finds known (fun fragments => ∀ fragment ∈ fragments, fragment.IsSetOff)
      (scene.scalars items)
  | [] => .pure (List.forall_mem_nil _)
  | item :: items => by
      rw [scalars]
      refine (isSetOff_value resolved subject item).bind fun value whole => ?_
      refine (isSetOff_single item whole).bind fun first setOff => ?_
      exact (isSetOff_scalars resolved subject items).bind fun others all =>
        .pure (List.forall_mem_cons.2 ⟨setOff, all⟩)

end

section

variable (resolved : scene.target ≠ .unresolved) (subject : scene.target.row.1 ∈ known)

include resolved subject

theorem isSetOff_scalar (operand : Operand) :
    scene.Finds known Fragment.IsSetOff (scene.scalar operand) :=
  (isSetOff_value resolved subject operand).bind fun _ whole => isSetOff_single operand whole

theorem isSetOff_plainCompare (left : Operand) (op : Comparison) (right : Operand) :
    scene.Finds known Fragment.IsSetOff (scene.plainCompare left op right) := by
  have ends : EndsLiteral (operator op) := by cases op <;> decide
  exact (isSetOff_scalar resolved subject left).bind fun _ first =>
    (isSetOff_scalar resolved subject right).bind fun _ second => .pure (first.words ends second)

theorem isSetOff_nullTest (operand : Operand) (negated : Bool) :
    scene.Finds known Fragment.IsSetOff (scene.nullTest operand negated) := by
  have ends : ∀ negated : Bool, EndsLiteral (if negated then " IS NOT NULL" else " IS NULL") := by
    decide
  exact (isSetOff_scalar resolved subject operand).bind fun _ first =>
    .pure (first.words (ends negated) Fragment.isSetOff_nil)

theorem isSetOff_compare (left : Operand) (op : Comparison) (right : Operand) :
    scene.Finds known Fragment.IsSetOff (scene.compare left op right) := by
  have ways : Comparing scene left op right (scene.compare left op right) := comparing_compare
  generalize scene.compare left op right = result at ways ⊢
  cases ways with
  | ofLayer => exact (finds_isOfLayer True resolved _ _).imp fun _ term => term.isSetOff
  | oneOf _ _ stored _ =>
      exact (finds_isOneOf True (row_of_storage? stored ▸ subject) _ _ _ _).imp
        fun _ term => term.isSetOff
  | childOf _ _ inTime =>
      exact (finds_isChildOf True subject (by rw [inTime]; rfl) _ _ _).imp
        fun _ term => term.isSetOff
  | null => exact isSetOff_nullTest resolved subject _ _
  | plain => exact isSetOff_plainCompare resolved subject left op right

theorem isSetOff_test (pattern : String) (operand : Operand) (negated : Bool) :
    scene.Finds known Fragment.IsSetOff (scene.test pattern operand negated) :=
  (isSetOff_value resolved subject operand).bind fun _ whole =>
    .pure (isSetOff_matching pattern negated whole)

theorem isSetOff_includes (list item : Operand) :
    scene.Finds known Fragment.IsSetOff (scene.includes list item) := by
  have ways : Including scene list item (scene.includes list item) := including_includes
  generalize scene.includes list item = result at ways ⊢
  cases ways with
  | oneOf _ stored _ =>
      exact (finds_isOneOf True (row_of_storage? stored ▸ subject) _ _ _ _).imp
        fun _ term => term.isSetOff
  | plain =>
      refine (isSetOff_value resolved subject list).bind fun whole setOff => ?_
      refine (isSetOff_scalar resolved subject item).bind fun _ single => ?_
      cases whole with
      | scalar text =>
          exact .pure ((isSetOff_apply _ (Fragment.IsSetOff.words setOff (by decide) single)).words
            (by decide) Fragment.isSetOff_nil)
      | literals items => exact .pure (isSetOff_membership single setOff)
      | rows related column => exact .pure (isSetOff_membership single setOff)

theorem isSetOff_includesAny (list items : Operand) :
    scene.Finds known Fragment.IsSetOff (scene.includesAny list items) :=
  (isSetOff_value resolved subject list).bind fun _ first =>
    (isSetOff_value resolved subject items).bind fun _ second =>
      .pure (isSetOff_commonMember first second)

end

/-! ### Expressions -/

mutual

theorem isSetOff_condition (resolved : scene.target ≠ .unresolved)
    (subject : scene.target.row.1 ∈ known) : ∀ expression : Expression,
    scene.Finds known (fun found => found.fragment.IsSetOff) (scene.condition expression)
  | .or items => by
      rw [condition]
      exact (isSetOff_conditions resolved subject items).bind fun _ all =>
        .pure (isSetOff_disjunction all)
  | .and items => by
      rw [condition]
      exact (isSetOff_conditions resolved subject items).bind fun _ all =>
        .pure (Fragment.isSetOff_join (by decide) all)
  | .not inner => by
      have whole := isSetOff_condition resolved subject inner
      cases inner with
      | test pattern operand =>
          exact (isSetOff_test resolved subject pattern operand true).bind
            fun _ setOff => .pure setOff
      | _ =>
          rw [condition]
          · exact whole.bind fun _ setOff => .pure (setOff.parenthesized.cons rfl)
          · nofun
  | .compare left op right => by
      rw [condition]
      exact (isSetOff_compare resolved subject left op right).bind fun _ setOff => .pure setOff
  | .test pattern operand => by
      rw [condition]
      exact (isSetOff_test resolved subject pattern operand false).bind fun _ setOff => .pure setOff
  | .includes list item => by
      rw [condition]
      exact (isSetOff_includes resolved subject list item).bind fun _ setOff => .pure setOff
  | .includesAny list items => by
      rw [condition]
      exact (isSetOff_includesAny resolved subject list items).bind fun _ setOff => .pure setOff

theorem isSetOff_conditions (resolved : scene.target ≠ .unresolved)
    (subject : scene.target.row.1 ∈ known) : ∀ items : List Expression,
    scene.Finds known
      (fun found => ∀ fragment ∈ Condition.fragments found, fragment.IsSetOff)
      (scene.conditions items)
  | [] => .pure (List.forall_mem_nil _)
  | item :: items => by
      rw [conditions]
      refine (isSetOff_condition resolved subject item).bind fun _ first => ?_
      exact (isSetOff_conditions resolved subject items).bind fun _ others =>
        .pure (List.forall_mem_cons.2 ⟨first, others⟩)

end

end Scene

/-- Nothing in the statement of an expression goes on with a literal that has ended. -/
theorem isSetOff_select {schema : Schema} {subject : Subject} {options : Target.Options}
    {expression : Expression} {statement : Select}
    (selected : select schema subject options expression = .ok statement)
    (given : options.IsSetOff) : statement.IsSetOff := by
  obtain ⟨faultless, rfl⟩ := select_eq_ok.1 selected
  let scene : Scene := ⟨schema, (Target.resolve schema subject).value⟩
  rw [problems_examine, List.append_eq_nil_iff] at faultless
  have resolved : scene.target ≠ .unresolved := fun unknown =>
    Target.problems_of_unresolved unknown faultless.1
  have everywhere : scene.target.row.1 ∈
      ["start_anchor", "end_anchor", "transcript", scene.target.row.1] := by simp
  have found := Scene.isSetOff_condition resolved everywhere expression
    ⟨faultless.2, fun _ _ => by simp, fun _ => by simp⟩
  exact Target.isSetOff_select resolved schema given found.1

end Filter

end CorpusQuery
