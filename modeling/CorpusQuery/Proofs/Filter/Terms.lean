import CorpusQuery.Filter.Condition
import CorpusQuery.Proofs.Sql.Terms

namespace CorpusQuery

/-! Which subqueries a condition on a target has in it, and how operands are composed of
them. -/

open Sql

/-- The condition compares a column of one of the rows with what is found by a column of
the subject's row. -/
def Sql.Fragment.Ties (subject : String) (rows : List String) (condition : Fragment) : Prop :=
  ∃ row name operator rest column, condition = .column row name :: .words operator :: rest ∧
    row ∈ rows ∧ operator ∈ [" = ", " IN "] ∧ .column subject column ∈ rest

/-- Some condition ties the rows of the statement to the subject's row. -/
def Sql.Select.IsTiedTo (subject : String) (select : Select) : Prop :=
  ∃ condition ∈ select.conditions, condition.Ties subject select.rows

namespace Filter

namespace Target

/-- The names that the rows of a target's own statement may have. -/
def names : Target → List String
  | intervals .. | attributed .. => ["annotation", "start_anchor", "end_anchor", "transcript"]
  | participants .. => ["speaker"]
  | transcripts | unresolved => ["transcript"]

/-- A subquery hides none of the target's rows, and if it is about another layer, it is tied
to the target's row. -/
structure Allows (target : Target) (select : Select) : Prop where
  apart : ∀ row ∈ select.rows, row ∉ target.names
  tied : "related" ∈ select.rows → select.IsTiedTo target.row.1

theorem names_subset (target : Target) :
    target.names ⊆ ["annotation", "start_anchor", "end_anchor", "transcript", "speaker"] := by
  cases target <;> simp [names]

/-- A subquery that is about no other layer. -/
theorem allows_of_rows {target : Target} {select : Select} {row : String}
    (same : select.rows = [row]) (other : row ≠ "related") (apart : row ∉ target.names) :
    target.Allows select where
  apart _ member := by
    obtain rfl := List.mem_singleton.1 (same ▸ member)
    exact apart
  tied related := absurd (List.mem_singleton.1 (same ▸ related)).symm other

theorem Allows.of_subset {target : Target} {select other : Select} (allows : target.Allows select)
    (same : other.rows = select.rows) (subset : select.conditions ⊆ other.conditions) :
    target.Allows other where
  apart row member := allows.apart row (same ▸ member)
  tied related := by
    obtain ⟨condition, member, ties⟩ := allows.tied (same ▸ related)
    exact ⟨condition, subset member, same ▸ ties⟩

end Target

/-! ### Terms -/

section

variable {gaps : Prop} {allowed : Select → Prop} {known : List String}

theorem isTerm_nothing : IsTerm gaps allowed known nothing :=
  .words (by decide)

/-- A column, what stands between, and another term. -/
theorem isTerm_compared {row name operator : String} {rest : Fragment} (isKnown : row ∈ known)
    (named : IsName row ∧ IsName name) (still : Fragment.IsStill [.words operator])
    (apart : Fragment.Separates [.words operator]) (term : IsTerm gaps allowed known rest) :
    IsTerm gaps allowed known (.column row name :: .words operator :: rest) :=
  .between still apart (.column isKnown named) term

/-- The operator of an equation stands between terms. -/
theorem equals_between : Fragment.IsStill [.words " = "] ∧ Fragment.Separates [.words " = "] := by
  decide

theorem isTerm_equals {row name : String} {rest : Fragment} (isKnown : row ∈ known)
    (named : IsName row ∧ IsName name) (term : IsTerm gaps allowed known rest) :
    IsTerm gaps allowed known (.column row name :: .words " = " :: rest) :=
  isTerm_compared isKnown named equals_between.1 equals_between.2 term

theorem isTerm_equalColumns {left right : String × String} (leftKnown : left.1 ∈ known)
    (rightKnown : right.1 ∈ known) (leftNamed : IsName left.1 ∧ IsName left.2)
    (rightNamed : IsName right.1 ∧ IsName right.2) :
    IsTerm gaps allowed known (equalColumns left right) :=
  isTerm_equals leftKnown leftNamed (.column rightKnown rightNamed)

theorem isTerm_apply {function : String} (operand : IsOperand function) {argument : Fragment}
    (term : IsTerm gaps allowed known argument) :
    IsTerm gaps allowed known (apply function argument) :=
  .applied operand term

theorem isTerm_join {separator : Fragment} (still : separator.IsStill)
    (apart : separator.Separates) {fragments : List Fragment} (some : fragments ≠ [])
    (all : ∀ fragment ∈ fragments, IsTerm gaps allowed known fragment) :
    IsTerm gaps allowed known (Fragment.join separator fragments) :=
  Fragment.holds_join_of_ne_nil (.between still apart) some all

theorem isTerm_commaList {fragments : List Fragment} (some : fragments ≠ [])
    (all : ∀ fragment ∈ fragments, IsTerm gaps allowed known fragment) :
    IsTerm gaps allowed known (Fragment.commaList fragments) :=
  isTerm_join (by decide) (by decide) some all

/-- A disjunction of nothing is an empty group. -/
theorem isTerm_disjunction {fragments : List Fragment} (some : fragments = [] → gaps)
    (all : ∀ fragment ∈ fragments, IsTerm gaps allowed known fragment) :
    IsTerm gaps allowed known (Fragment.disjunction fragments).parenthesized := by
  cases fragments with
  | nil => exact .empty (some rfl)
  | cons first rest =>
      exact .enclosed (isTerm_join (by decide) (by decide) (List.cons_ne_nil _ _) all)

theorem isTerm_not {fragment : Fragment} (term : IsTerm gaps allowed known fragment) :
    IsTerm gaps allowed known (.not :: fragment) := by
  have leads : Fragment.Leads [.not] := by decide
  exact .behind (by decide) leads term

theorem isTerm_number (number : Int64) :
    IsTerm gaps allowed known [.words (Number.text number)] :=
  .words (isOperand_integer number)

theorem isTerm_uidFrom (stem : String) {number : Fragment}
    (term : IsTerm gaps allowed known number) :
    IsTerm gaps allowed known (uidFrom stem number) := by
  have apart : Fragment.Separates [.words ", "] := by decide
  exact isTerm_apply (by decide) (.between (by decide) apart (.marker stem) term)

theorem isTerm_turnSpeaker (turn : "turn" ∈ known) : IsTerm gaps allowed known turnSpeaker := by
  have trails : Fragment.Trails [.words " AS SIGNED"] := by decide
  exact isTerm_apply (by decide)
    (.before (by decide) trails (.column turn (by decide)))

end

/-! ### Subqueries -/

/-- A statement that may stand in a condition on the target, once it has columns. -/
structure Target.Composes (target : Target) (gaps : Prop) (known : List String)
    (select : Select) : Prop where
  allows : target.Allows select
  simple : select.IsSimple
  columns : ∀ column ∈ select.columns, IsTerm gaps target.Allows (select.rows ++ known) column
  joins : ∀ join ∈ select.joins, ∀ condition ∈ join.on,
    IsTerm gaps target.Allows (select.rows ++ known) condition
  conditions : ∀ condition ∈ select.conditions,
    IsTerm gaps target.Allows (select.rows ++ known) condition
  order : ∀ term ∈ select.order, IsTerm gaps target.Allows (select.rows ++ known) term

namespace Target.Composes

variable {target : Target} {gaps : Prop} {known : List String} {select : Select}

theorem subquery (composes : target.Composes gaps known select) (listed : select.columns ≠ []) :
    IsTerm gaps target.Allows known select.subquery.parenthesized :=
  .subquery composes.allows composes.simple listed composes.columns composes.joins
    composes.conditions composes.order

theorem existing (composes : target.Composes gaps known select) (listed : select.columns ≠ []) :
    IsTerm gaps target.Allows known (existing select) := by
  have leads : Fragment.Leads [.words "EXISTS "] := by decide
  exact .behind (by decide) leads (composes.subquery listed)

theorem within (composes : target.Composes gaps known select) (listed : select.columns ≠ [])
    {item : Fragment} (term : IsTerm gaps target.Allows known item) :
    IsTerm gaps target.Allows known (within item select) := by
  have apart : Fragment.Separates [.words " IN "] := by decide
  have whole : IsTerm gaps target.Allows known
      (item ++ [.words " IN "] ++ select.subquery.parenthesized) :=
    .between (by decide) apart term (composes.subquery listed)
  rwa [List.append_assoc] at whole

theorem column (composes : target.Composes gaps known select) {column : Fragment}
    (term : IsTerm gaps target.Allows (select.rows ++ known) column) :
    target.Composes gaps known (select.column column) where
  allows := composes.allows.of_subset rfl (List.Subset.refl _)
  simple := ⟨composes.simple.into, composes.simple.source, composes.simple.joins,
    composes.simple.limit⟩
  columns := List.forall_mem_append.2 ⟨composes.columns, List.forall_mem_singleton.2 term⟩
  joins := composes.joins
  conditions := composes.conditions
  order := composes.order

theorem restrict (composes : target.Composes gaps known select) {condition : Fragment}
    (term : IsTerm gaps target.Allows (select.rows ++ known) condition) :
    target.Composes gaps known (select.restrict condition) := by
  unfold Select.restrict
  split
  · exact composes
  · exact
      { allows := composes.allows.of_subset rfl (List.subset_append_left ..)
        simple := ⟨composes.simple.into, composes.simple.source, composes.simple.joins,
          composes.simple.limit⟩
        columns := composes.columns
        joins := composes.joins
        conditions := List.forall_mem_append.2
          ⟨composes.conditions, List.forall_mem_singleton.2 term⟩
        order := composes.order }

end Target.Composes

/-- The rows of a single table. -/
theorem Target.composes_table {target : Target} {gaps : Prop} {known : List String}
    {table row : String} (operand : IsOperand table) (named : IsName row) (other : row ≠ "related")
    (apart : row ∉ target.names) {columns conditions : List Fragment}
    (columnTerms : ∀ column ∈ columns, IsTerm gaps target.Allows (row :: known) column)
    (conditionTerms : ∀ condition ∈ conditions,
      IsTerm gaps target.Allows (row :: known) condition) :
    target.Composes gaps known { columns, source := relation table row, conditions } := by
  have rows : Select.rows { columns, source := relation table row, conditions } = [row] := by
    rw [Select.rows, (Fragment.uses_relation [] named.ne_empty operand.1).introduced_eq]
    rfl
  exact
    { allows := Target.allows_of_rows rows other apart
      simple := ⟨rfl, ⟨table, row, rfl, operand, named⟩, nofun, nofun⟩
      columns := rows ▸ columnTerms
      joins := nofun
      conditions := rows ▸ conditionTerms
      order := nofun }

/-! ### Values -/

/-- The rows of another layer, in their order. -/
structure Related.IsComposed (target : Target) (gaps : Prop) (known : List String)
    (related : Related) : Prop where
  rows : target.Composes gaps known related.rows
  order : ∀ term ∈ related.order, IsTerm gaps target.Allows (related.rows.rows ++ known) term

def Value.IsComposed (target : Target) (gaps : Prop) (known : List String) : Value → Prop
  | .scalar fragment => IsTerm gaps target.Allows known fragment
  | .literals items => ∀ item ∈ items, IsTerm gaps target.Allows known item
  | .rows related column =>
      related.IsComposed target gaps known ∧
        IsTerm gaps target.Allows (related.rows.rows ++ known) column

section

variable {target : Target} {gaps : Prop} {known : List String}

namespace Related.IsComposed

variable {related : Related} (composed : related.IsComposed target gaps known)

include composed

theorem listing {column : Fragment}
    (term : IsTerm gaps target.Allows (related.rows.rows ++ known) column) :
    target.Composes gaps known (related.listing column) :=
  composed.rows.column term

theorem first {column : Fragment}
    (term : IsTerm gaps target.Allows (related.rows.rows ++ known) column) :
    IsTerm gaps target.Allows known (related.first column) := by
  have listed := composed.listing term
  have limited : target.Composes gaps known
      { related.listing column with order := related.order, limit := Option.some [.words "1"] } :=
    { allows := listed.allows.of_subset rfl (List.Subset.refl _)
      simple := ⟨listed.simple.into, listed.simple.source, listed.simple.joins, by simp⟩
      columns := listed.columns
      joins := listed.joins
      conditions := listed.conditions
      order := composed.order }
  exact limited.subquery (List.append_ne_nil_of_right_ne_nil _ (List.cons_ne_nil _ _))

theorem count : IsTerm gaps target.Allows known related.count := by
  have all : IsTerm gaps target.Allows (related.rows.rows ++ known) (apply "COUNT" [.words "*"]) :=
    isTerm_apply (by decide) (.words (by decide))
  exact (composed.listing all).subquery
    (List.append_ne_nil_of_right_ne_nil _ (List.cons_ne_nil _ _))

theorem some {condition : Fragment}
    (term : IsTerm gaps target.Allows (related.rows.rows ++ known) condition) :
    IsTerm gaps target.Allows known (related.some condition) := by
  have all : IsTerm gaps target.Allows (related.rows.rows ++ known) [.words "*"] :=
    .words (by decide)
  refine ((composed.listing all).restrict term).existing ?_
  rw [Select.restrict]
  split <;> exact List.append_ne_nil_of_right_ne_nil _ (List.cons_ne_nil _ _)

end Related.IsComposed

theorem isTerm_membership {item : Fragment} (term : IsTerm gaps target.Allows known item)
    {list : Value} (composed : list.IsComposed target gaps known) :
    IsTerm gaps target.Allows known (membership item list) := by
  cases list with
  | scalar value =>
      have whole : IsTerm gaps target.Allows known (item ++ [.words " = "] ++ value) :=
        .between equals_between.1 equals_between.2 term composed
      rwa [List.append_assoc] at whole
  | rows related column =>
      exact (composed.1.listing composed.2).within
        (List.append_ne_nil_of_right_ne_nil _ (List.cons_ne_nil _ _)) term
  | literals items =>
      cases items with
      | nil => exact .words (by decide)
      | cons first rest =>
          have apart : Fragment.Separates [.words " IN "] := by decide
          have whole := IsTerm.between (by decide) apart term
            (.enclosed (isTerm_commaList (List.cons_ne_nil first rest) composed))
          rwa [List.append_assoc] at whole

theorem Value.IsComposed.mono {value : Value} (composed : value.IsComposed target gaps known)
    {more : List String} (subset : known ⊆ more) : value.IsComposed target gaps more := by
  have inside (rows : List String) : rows ++ known ⊆ rows ++ more :=
    List.append_subset.2
      ⟨List.subset_append_left .., List.Subset.trans subset (List.subset_append_right ..)⟩
  cases value with
  | scalar fragment => exact IsTerm.mono composed subset
  | literals items => exact fun item member => (composed item member).mono subset
  | rows related column =>
      obtain ⟨⟨⟨allows, simple, columns, joins, conditions, order⟩, sorted⟩, term⟩ := composed
      exact ⟨⟨⟨allows, simple, fun column member => (columns column member).mono (inside _),
        fun join member condition on => (joins join member condition on).mono (inside _),
        fun condition member => (conditions condition member).mono (inside _),
        fun term member => (order term member).mono (inside _)⟩,
        fun term member => (sorted term member).mono (inside _)⟩, term.mono (inside _)⟩

theorem isTerm_commonMember {left right : Value} (first : left.IsComposed target gaps known)
    (second : right.IsComposed target gaps known) :
    IsTerm gaps target.Allows known (commonMember left right) := by
  unfold commonMember
  split
  · exact first.1.some (isTerm_membership first.2 (second.mono (List.subset_append_right ..)))
  · exact second.1.some (isTerm_membership second.2 (first.mono (List.subset_append_right ..)))
  · exact .words (by decide)
  · rename_i items some _
    refine isTerm_disjunction (fun none => absurd (List.map_eq_nil_iff.1 none) some) ?_
    intro test member
    obtain ⟨item, within, rfl⟩ := List.mem_map.1 member
    exact isTerm_membership (first item within) second
  · exact isTerm_membership first second

theorem isTerm_regexp (pattern : String) (negated : Bool) {value : Fragment}
    (term : IsTerm gaps target.Allows known value) :
    IsTerm gaps target.Allows known
      (value ++ [.words (if negated then " NOT REGEXP " else " REGEXP "),
        .bound (.text pattern)]) := by
  have whole (text : String) (still : Fragment.IsStill [.words text])
      (apart : Fragment.Separates [.words text]) :
      IsTerm gaps target.Allows known (value ++ [.words text, .bound (.text pattern)]) := by
    have parts := IsTerm.between still apart term (.bound (.text pattern))
    rwa [List.append_assoc] at parts
  cases negated
  · exact whole " REGEXP " (by decide) (by decide)
  · exact whole " NOT REGEXP " (by decide) (by decide)

/-- A list that nothing is in leaves nothing between the parentheses. -/
theorem isTerm_matching (pattern : String) (negated : Bool) {value : Value}
    (composed : value.IsComposed target gaps known) (some : value = .literals [] → gaps) :
    IsTerm gaps target.Allows known (matching pattern negated value) := by
  have perhapsNot {found : Fragment} (term : IsTerm gaps target.Allows known found) :
      IsTerm gaps target.Allows known (if negated then .not :: found else found) := by
    split
    · exact isTerm_not term
    · exact term
  cases value with
  | scalar value => exact isTerm_regexp pattern negated composed
  | rows related column =>
      exact perhapsNot (composed.1.some (isTerm_regexp pattern false composed.2))
  | literals items =>
      refine perhapsNot (isTerm_disjunction (fun none => ?_) ?_)
      · exact some (congrArg _ (List.map_eq_nil_iff.1 none))
      · intro test member
        obtain ⟨item, within, rfl⟩ := List.mem_map.1 member
        exact isTerm_regexp pattern false (composed item within)

theorem isTerm_size {value : Value} (composed : value.IsComposed target gaps known) :
    IsTerm gaps target.Allows known (size value) := by
  cases value with
  | scalar fragment => exact isTerm_apply (by decide) composed
  | literals items => exact .words (isOperand_natural _)
  | rows related column => exact composed.1.count

end

end Filter

end CorpusQuery
