import CorpusQuery.Proofs.Sql.Gaps
import CorpusQuery.Proofs.Sql.Groups

namespace CorpusQuery.Sql

/-! What operands and conditions are composed of.

A term is a column, a literal or a word, or is made of terms by what stands between, before
or behind them.  Whatever is a term refers to known rows only, opens groups of known kinds
only, and leaves no gap but where an empty group is let through. -/

/-! ### What stands between terms -/

/-- A literal ends in front of the text, which does not go on with a quote. -/
def EndsLiteral (text : String) : Prop :=
  ∃ c ∈ text.toList.head?, c ≠ '\''

instance (text : String) : Decidable (EndsLiteral text) :=
  inferInstanceAs (Decidable (∃ c ∈ text.toList.head?, c ≠ '\''))

/-- The piece neither names a row nor opens or closes a group, and is kept apart from a
literal before it. -/
def Piece.IsStill : Piece → Prop
  | .words text => IsUnqualified text ∧ EndsLiteral text
  | .and | .or | .not => True
  | _ => False

instance : DecidablePred Piece.IsStill
  | .words text => inferInstanceAs (Decidable (IsUnqualified text ∧ EndsLiteral text))
  | .and | .or | .not => inferInstanceAs (Decidable True)
  | .column _ _ | .named _ | .opening | .closing | .marker _ | .bound _ | .given _ _ =>
      inferInstanceAs (Decidable False)

namespace Fragment

def IsStill (fragment : Fragment) : Prop :=
  ∀ piece ∈ fragment, piece.IsStill

instance (fragment : Fragment) : Decidable fragment.IsStill :=
  inferInstanceAs (Decidable (∀ piece ∈ fragment, piece.IsStill))

theorem IsStill.within {fragment : Fragment} (still : fragment.IsStill) (scope : List String) :
    fragment.Within scope := by
  induction fragment with
  | nil => exact within_nil
  | cons piece rest ih =>
      obtain ⟨first, others⟩ := List.forall_mem_cons.1 still
      cases piece with
      | words text => exact .words first.1 (ih others)
      | and => exact .and (ih others)
      | or => exact .still (fun levels => by cases levels <;> rfl) (ih others)
      | not => exact .not (ih others)
      | column | named | opening | closing | marker | bound | given => exact first.elim

theorem IsStill.isFlat {fragment : Fragment} (still : fragment.IsStill) : fragment.IsFlat :=
  ⟨fun member => still _ member, fun member => still _ member⟩

end Fragment

/-- A text that is an operand of its own, and refers to no row. -/
def IsOperand (text : String) : Prop :=
  IsUnqualified text ∧ Complete text.toList

instance (text : String) : Decidable (IsOperand text) :=
  inferInstanceAs (Decidable (_ ∧ _))

theorem IsName.isOperand {text : String} (isName : IsName text) : IsOperand text :=
  ⟨fun member => absurd (isName.1 '.' member) (by decide), isName.complete⟩

theorem isOperand_natural (n : Nat) : IsOperand n.repr :=
  ⟨isUnqualified_natural n, complete_natural n⟩

theorem isOperand_integer (n : Int64) : IsOperand (Number.text n) :=
  ⟨isUnqualified_of_digits fun _ => Number.isDigit_of_mem_text, complete_integer n⟩

theorem isOperand_layerTable (table : Int64) : IsOperand (layerTable table) :=
  ⟨isUnqualified_layerTable table, complete_layerTable table⟩

/-! ### Subqueries -/

/-- A table that is joined on some conditions. -/
structure Join.IsSimple (join : Join) : Prop where
  tied : join.on ≠ []
  row : IsName join.row
  source : join.source = [.named join.row] ∨
    ∃ table, join.source = [.words table] ∧ IsOperand table

/-- A statement whose rows come from tables, all of them or one. -/
structure Select.IsSimple (select : Select) : Prop where
  into : select.into = none
  source : ∃ table row, select.source = relation table row ∧ IsOperand table ∧ IsName row
  joins : ∀ join ∈ select.joins, join.IsSimple
  limit : ∀ count ∈ select.limit, count = [.words "1"]

/-! ### Terms -/

section

variable (gaps : Prop) (allowed : Select → Prop)

/-- The fragment is a term where some rows are known.  Subqueries in it are among those
allowed, and empty groups are only if there may be gaps. -/
inductive IsTerm : List String → Fragment → Prop
  | column {known row name} (isKnown : row ∈ known) (named : IsName row ∧ IsName name) :
      IsTerm known [.column row name]
  | marker {known} (text : String) : IsTerm known [.marker text]
  | bound {known} (value : Param) : IsTerm known [.bound value]
  | words {known text} (operand : IsOperand text) : IsTerm known [.words text]
  | between {known left separator right} (still : separator.IsStill)
      (apart : separator.Separates) (first : IsTerm known left) (second : IsTerm known right) :
      IsTerm known (left ++ separator ++ right)
  | behind {known leader inner} (still : leader.IsStill) (leads : leader.Leads)
      (term : IsTerm known inner) : IsTerm known (leader ++ inner)
  | before {known inner trailer} (still : trailer.IsStill) (trails : trailer.Trails)
      (term : IsTerm known inner) : IsTerm known (inner ++ trailer)
  | applied {known function argument} (operand : IsOperand function)
      (term : IsTerm known argument) : IsTerm known (.words function :: argument.parenthesized)
  | enclosed {known inner} (term : IsTerm known inner) : IsTerm known inner.parenthesized
  | empty {known} (through : gaps) : IsTerm known [.opening, .closing]
  | subquery {known select} (isAllowed : allowed select) (simple : select.IsSimple)
      (listed : select.columns ≠ [])
      (columns : ∀ column ∈ select.columns, IsTerm (select.rows ++ known) column)
      (joins : ∀ join ∈ select.joins, ∀ condition ∈ join.on,
        IsTerm (select.rows ++ known) condition)
      (conditions : ∀ condition ∈ select.conditions, IsTerm (select.rows ++ known) condition)
      (order : ∀ term ∈ select.order, IsTerm (select.rows ++ known) term) :
      IsTerm known select.subquery.parenthesized

end

theorem Select.subquery_limit {select : Select} {count : Fragment}
    (limited : select.limit = some count) :
    select.subquery =
      { select with limit := none }.subquery ++ .words (" " ++ "LIMIT ") :: count := by
  simp [Select.subquery, Select.render, Select.whereClause, Select.orderClause,
    Select.selectClause, limited]

namespace Join.IsSimple

variable {join : Join} (simple : join.IsSimple)

include simple

theorem uses {scope : List String} (on : ∀ condition ∈ join.on, condition.Within scope) :
    join.render.Uses [join.row] scope := by
  refine Join.uses_render simple.row.ne_empty ?_ on
  rcases simple.source with own | ⟨table, source, operand⟩
  · exact .inl (by rw [own]; exact String.append_empty.symm)
  · exact .inr (source ▸ .words operand.1 Fragment.within_nil)

theorem allGroups {holds : Fragment → Prop}
    (on : ∀ condition ∈ join.on, condition.AllGroups holds) : join.render.AllGroups holds := by
  refine Join.allGroups_render ?_ on
  rcases simple.source with own | ⟨table, source, -⟩
  · exact own ▸ Fragment.IsFlat.allGroups (by simp [Fragment.IsFlat])
  · exact source ▸ Fragment.IsFlat.allGroups (by simp [Fragment.IsFlat])

theorem isComplete (on : ∀ condition ∈ join.on, condition.Complete) : join.IsComplete := by
  refine ⟨simple.row.ne_empty, ?_, simple.row.complete, simple.tied, on⟩
  rcases simple.source with own | ⟨table, source, operand⟩
  · rw [own]
    simpa [Fragment.Complete, Piece.sql] using simple.row.complete
  · rw [source]
    simpa [Fragment.Complete, Piece.sql] using operand.2

end Join.IsSimple

namespace Select.IsSimple

variable {select : Select} (simple : select.IsSimple)

include simple

theorem uses_subquery {known : List String}
    (columns : ∀ column ∈ select.columns, column.Within (select.rows ++ known))
    (joins : ∀ join ∈ select.joins, ∀ condition ∈ join.on,
      condition.Within (select.rows ++ known))
    (conditions : ∀ condition ∈ select.conditions, condition.Within (select.rows ++ known))
    (order : ∀ term ∈ select.order, term.Within (select.rows ++ known)) :
    select.subquery.Uses select.rows (select.rows ++ known) := by
  have source : select.source.Uses select.source.introduced (select.rows ++ known) := by
    obtain ⟨table, row, same, operand, named⟩ := simple.source
    have uses := Fragment.uses_relation (select.rows ++ known) named.ne_empty operand.1
    rw [same, uses.introduced_eq]
    exact uses
  have closed : IsClosed known { select with limit := none } :=
    { into := simple.into
      columns
      source
      joins := fun join member => (simple.joins join member).uses (joins join member)
      conditions
      order
      limit := rfl }
  cases count : select.limit with
  | none =>
      have same : { select with limit := none } = select := count ▸ rfl
      exact same ▸ closed.uses_subquery
  | some most =>
      obtain rfl := simple.limit most count
      rw [subquery_limit count]
      exact closed.uses_subquery.before
        (.words (by decide) (.words (by decide) Fragment.within_nil))

theorem allGroups {holds : Fragment → Prop}
    (columns : ∀ column ∈ select.columns, column.AllGroups holds)
    (joins : ∀ join ∈ select.joins, ∀ condition ∈ join.on, condition.AllGroups holds)
    (conditions : ∀ condition ∈ select.conditions, condition.AllGroups holds)
    (order : ∀ term ∈ select.order, term.AllGroups holds) : select.AllGroups holds where
  into := simple.into
  columns
  source := by
    obtain ⟨table, row, same, -⟩ := simple.source
    exact same ▸ allGroups_relation table row
  joins join member := (simple.joins join member).allGroups (joins join member)
  conditions
  order
  limit count member := by
    rw [simple.limit count member]
    exact Fragment.IsFlat.allGroups (by simp [Fragment.IsFlat])

theorem isComplete (listed : select.columns ≠ [])
    (columns : ∀ column ∈ select.columns, column.Complete)
    (joins : ∀ join ∈ select.joins, ∀ condition ∈ join.on, condition.Complete)
    (conditions : ∀ condition ∈ select.conditions, condition.Complete)
    (order : ∀ term ∈ select.order, term.Complete) : select.IsComplete where
  into := simple.into
  listed
  columns
  source := by
    obtain ⟨table, row, same, operand, named⟩ := simple.source
    exact same ▸ Fragment.complete_relation operand.2 named.complete
  joins join member := (simple.joins join member).isComplete (joins join member)
  conditions
  order
  limit count member := by
    rw [simple.limit count member]
    decide

end Select.IsSimple

namespace IsTerm

variable {gaps : Prop} {allowed : Select → Prop} {known : List String} {fragment : Fragment}

theorem mono (term : IsTerm gaps allowed known fragment) {more : List String}
    (subset : known ⊆ more) : IsTerm gaps allowed more fragment := by
  induction term generalizing more with
  | column isKnown named => exact .column (subset isKnown) named
  | marker text => exact .marker text
  | bound value => exact .bound value
  | words operand => exact .words operand
  | between still apart _ _ first second =>
      exact .between still apart (first subset) (second subset)
  | behind still leads _ ih => exact .behind still leads (ih subset)
  | before still trails _ ih => exact .before still trails (ih subset)
  | applied operand _ ih => exact .applied operand (ih subset)
  | enclosed _ ih => exact .enclosed (ih subset)
  | empty through => exact .empty through
  | @subquery known select isAllowed simple listed _ _ _ _ columns joins conditions order =>
      have inside : select.rows ++ known ⊆ select.rows ++ more :=
        List.append_subset.2
          ⟨List.subset_append_left .., List.Subset.trans subset (List.subset_append_right ..)⟩
      exact .subquery isAllowed simple listed (fun column member => columns column member inside)
        (fun join member condition on => joins join member condition on inside)
        (fun condition member => conditions condition member inside)
        (fun term member => order term member inside)

/-- A term refers to known rows only. -/
theorem within (term : IsTerm gaps allowed known fragment) : fragment.Within known := by
  induction term with
  | column isKnown _ => exact .column isKnown _ Fragment.within_nil
  | marker text => exact .marker _ Fragment.within_nil
  | bound value => exact .bound _ Fragment.within_nil
  | words operand => exact .words operand.1 Fragment.within_nil
  | between still _ _ _ first second => exact (first.append (still.within _)).append second
  | behind still _ _ ih => exact (still.within _).append ih
  | before still _ _ ih => exact ih.append (still.within _)
  | applied operand _ ih => exact .words operand.1 ih.parenthesized
  | enclosed _ ih => exact ih.parenthesized
  | empty _ => exact Fragment.within_nil.parenthesized
  | subquery _ simple _ _ _ _ _ columns joins conditions order =>
      exact (simple.uses_subquery columns joins conditions order).parenthesized

/-- Of the groups in a term only subqueries introduce rows. -/
theorem allGroups (term : IsTerm gaps allowed known fragment) :
    fragment.AllGroups fun group => group.introduced = [] ∨
      ∃ select, allowed select ∧ group = select.subquery ∧ group.introduced = select.rows := by
  induction term with
  | column | marker | bound | words => exact Fragment.IsFlat.allGroups (by simp [Fragment.IsFlat])
  | between still _ _ _ first second => exact (first.append still.isFlat.allGroups).append second
  | behind still _ _ ih => exact still.isFlat.allGroups.append ih
  | before still _ _ ih => exact ih.append still.isFlat.allGroups
  | applied _ term ih =>
      exact (Fragment.allGroups_words _).append
        (ih.parenthesized (.inl term.within.introduced_eq))
  | enclosed term ih => exact ih.parenthesized (.inl term.within.introduced_eq)
  | empty _ => exact Fragment.allGroups_nil.parenthesized (.inl rfl)
  | @subquery _ select isAllowed simple _ columns joins conditions order columnGroups joinGroups
      conditionGroups orderGroups =>
      have groups := simple.allGroups columnGroups joinGroups conditionGroups orderGroups
      have uses := simple.uses_subquery (fun column member => (columns column member).within)
        (fun join member condition on => (joins join member condition on).within)
        (fun condition member => (conditions condition member).within)
        (fun term member => (order term member).within)
      exact (groups.render " ").parenthesized (.inr ⟨select, isAllowed, rfl, uses.introduced_eq⟩)

/-- Whatever needs an operand in a term has one, unless there are gaps. -/
theorem complete (term : IsTerm gaps allowed known fragment) (none : ¬gaps) :
    fragment.Complete := by
  induction term with
  | column _ named => exact Fragment.complete_column named.1 named.2
  | marker text =>
      simpa [Fragment.Complete, Piece.sql] using complete_literal text
  | bound value =>
      have placeholder : Sql.Complete "?".toList := by decide
      simpa [Fragment.Complete, Piece.sql] using placeholder
  | words operand => simpa [Fragment.Complete, Piece.sql] using operand.2
  | between _ apart _ _ first second => exact first.separated apart second
  | behind _ leads _ ih => exact leads.complete ih
  | before _ trails _ ih => exact ih.trails trails
  | @applied _ function _ operand _ ih =>
      have name : Fragment.Complete [.words function] := by
        simpa [Fragment.Complete, Piece.sql] using operand.2
      exact name.called ih
  | enclosed _ ih => exact ih.parenthesized
  | empty through => exact absurd through none
  | subquery _ simple listed _ _ _ _ columns joins conditions order =>
      exact (simple.isComplete listed columns joins conditions order).subquery.parenthesized

/-- A term is never left out of a clause. -/
theorem visible (term : IsTerm gaps allowed known fragment) : fragment.isBlank = false := by
  have first (piece : Piece) (complete : Complete piece.sql.toList) (rest : Fragment) :
      Fragment.isBlank (piece :: rest) = false :=
    Fragment.isBlank_cons_of_visible complete.visible rest
  have placeholder : Complete "?".toList := by decide
  have opened : Text.allBlank Piece.opening.sql = false := by decide
  induction term with
  | column _ named => exact (Fragment.complete_column named.1 named.2).isBlank_eq_false
  | marker text => exact first (.marker text) (complete_literal text) _
  | bound value => exact first (.bound value) placeholder _
  | @words _ text operand => exact first (.words text) operand.2 _
  | between _ _ _ _ left _ =>
      rw [Fragment.isBlank_append, Fragment.isBlank_append, left, Bool.false_and, Bool.false_and]
  | behind _ _ _ ih => rw [Fragment.isBlank_append, ih, Bool.and_false]
  | before _ _ _ ih => rw [Fragment.isBlank_append, ih, Bool.false_and]
  | @applied _ function _ operand _ _ => exact first (.words function) operand.2 _
  | enclosed | empty | subquery => exact Fragment.isBlank_cons_of_visible opened _

end IsTerm

/-- A table that is joined on terms. -/
theorem Join.isSimple_inner {gaps : Prop} {allowed : Select → Prop} {known : List String}
    {source : Fragment} {row : String} (named : IsName row)
    (table : source = [.named row] ∨ ∃ table, source = [.words table] ∧ IsOperand table)
    {on : List Fragment} (tied : on ≠ [])
    (terms : ∀ condition ∈ on, IsTerm gaps allowed known condition) :
    (inner source row on).IsSimple ∧
      ∀ condition ∈ (inner source row on).on, IsTerm gaps allowed known condition := by
  have kept : on.filter (!·.isBlank) = on :=
    List.filter_eq_self.2 fun condition member => by simp [(terms condition member).visible]
  rw [inner_eq, kept]
  exact ⟨⟨tied, named, table⟩, terms⟩

end CorpusQuery.Sql
