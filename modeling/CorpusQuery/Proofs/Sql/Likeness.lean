import CorpusQuery.Access
import CorpusQuery.Problem
import CorpusQuery.Proofs.Sql.Clauses
import CorpusQuery.Rows

namespace CorpusQuery

/-! Fragments and statements that are alike.  A likeness that concatenation keeps is kept
by every clause, and so by the statement. -/

namespace Sql

namespace Fragment

/-- What there is to see of a fragment without its values: the text, and how many values
there are. -/
def shape (fragment : Fragment) : String × Nat :=
  (fragment.sql, fragment.params.length)

/-- The same text with as many values. -/
abbrev SameShape (left right : Fragment) : Prop :=
  left.shape = right.shape

/-- A likeness of fragments that carries over to what is made of them. -/
structure Likeness (alike : Fragment → Fragment → Prop) : Prop where
  refl : ∀ fragment, alike fragment fragment
  append : ∀ {first second third fourth}, alike first third → alike second fourth →
    alike (first ++ second) (third ++ fourth)
  isBlank : ∀ {left right}, alike left right → left.isBlank = right.isBlank

theorem likeness_sameShape : Likeness SameShape where
  refl _ := rfl
  append {first second third fourth} left right := by
    obtain ⟨leftSql, leftCount⟩ := Prod.mk.inj left
    obtain ⟨rightSql, rightCount⟩ := Prod.mk.inj right
    simp only [SameShape, shape, sql_append, params_append, List.length_append, leftSql, leftCount,
      rightSql, rightCount]
  isBlank {left right} same := by
    rw [isBlank, isBlank, (Prod.mk.inj same).1]

theorem allBlank_sql (fragment : Fragment) :
    Text.allBlank fragment.sql = fragment.all fun piece => Text.allBlank piece.sql := by
  induction fragment with
  | nil => rfl
  | cons piece rest ih =>
      rw [List.all_cons, ← ih]
      simp [Text.allBlank]

/-- Fragments whose pieces are alike one by one are alike. -/
theorem likeness_forall₂ {alike : Piece → Piece → Prop} (refl : ∀ piece, alike piece piece)
    (blank : ∀ {left right}, alike left right → Text.allBlank left.sql = Text.allBlank right.sql) :
    Likeness (List.Forall₂ alike) where
  refl _ := List.forall₂_same.2 fun piece _ => refl piece
  append left right := List.rel_append left right
  isBlank {left right} same := by
    rw [isBlank, isBlank, allBlank_sql, allBlank_sql]
    induction same with
    | nil => rfl
    | cons first _ ih => rw [List.all_cons, List.all_cons, blank first, ih]

namespace Likeness

variable {alike : Fragment → Fragment → Prop} (like : Likeness alike) {left right : Fragment}

include like

theorem congruence : Congruence alike :=
  ⟨like.refl, like.append⟩

theorem forall₂_refl (fragments : List Fragment) : List.Forall₂ alike fragments fragments :=
  like.congruence.forall₂_refl fragments

theorem cons (piece : Piece) (same : alike left right) : alike (piece :: left) (piece :: right) :=
  like.congruence.cons piece same

theorem parenthesized (same : alike left right) : alike left.parenthesized right.parenthesized :=
  like.congruence.parenthesized same

theorem join (separator : Fragment) {lefts rights : List Fragment}
    (same : List.Forall₂ alike lefts rights) :
    alike (Fragment.join separator lefts) (Fragment.join separator rights) :=
  like.congruence.join separator same

theorem apply (function : String) (same : alike left right) :
    alike (CorpusQuery.apply function left) (CorpusQuery.apply function right) :=
  like.cons (.words function) (like.parenthesized same)

end Likeness

end Fragment

open Fragment (Likeness)

variable {alike : Fragment → Fragment → Prop}

/-- Joined rows that differ at most in what they have to meet. -/
structure Join.Alike (alike : Fragment → Fragment → Prop) (left right : Join) : Prop where
  kind : left.kind = right.kind
  source : left.source = right.source
  row : left.row = right.row
  on : List.Forall₂ alike left.on right.on

theorem Join.Alike.render (like : Likeness alike) {left right : Join}
    (same : left.Alike alike right) : alike left.render right.render := by
  obtain ⟨kind, source, row, leftOn⟩ := left
  obtain ⟨_, _, _, rightOn⟩ := right
  obtain ⟨rfl, rfl, rfl, on⟩ := same
  simp only [Join.render]
  cases on with
  | nil => exact like.refl _
  | cons first rest =>
      rw [if_neg (List.cons_ne_nil _ _), if_neg (List.cons_ne_nil _ _)]
      exact like.append (like.refl _) (like.cons _ (like.join _ (.cons first rest)))

/-- Statements that differ at most in their columns and in what rows have to meet. -/
structure Select.Alike (alike : Fragment → Fragment → Prop) (left right : Select) : Prop where
  into : left.into = right.into
  distinct : left.distinct = right.distinct
  columns : List.Forall₂ alike left.columns right.columns
  source : left.source = right.source
  joins : List.Forall₂ (Join.Alike alike) left.joins right.joins
  conditions : List.Forall₂ alike left.conditions right.conditions
  order : left.order = right.order
  limit : left.limit = right.limit

namespace Select

theorem alike_refl (like : Likeness alike) (select : Select) : select.Alike alike select where
  into := rfl
  distinct := rfl
  columns := like.forall₂_refl _
  source := rfl
  joins := List.forall₂_same.2 fun _ _ =>
    ⟨rfl, rfl, rfl, like.forall₂_refl _⟩
  conditions := like.forall₂_refl _
  order := rfl
  limit := rfl

theorem alike_conditions (like : Likeness alike) (select : Select) {lefts rights : List Fragment}
    (same : List.Forall₂ alike lefts rights) :
    ({ select with conditions := lefts } : Select).Alike alike
      { select with conditions := rights } :=
  { alike_refl like select with conditions := same }

namespace Alike

variable (like : Likeness alike) {left right : Select} (same : left.Alike alike right)

include like same

theorem restrict {first second : Fragment} (condition : alike first second) :
    (left.restrict first).Alike alike (right.restrict second) := by
  unfold Select.restrict
  rw [like.isBlank condition]
  split
  · exact same
  · exact { same with conditions := List.rel_append same.conditions (.cons condition .nil) }

theorem foldl_restrict {firsts seconds : List Fragment}
    (conditions : List.Forall₂ alike firsts seconds) :
    (firsts.foldl Select.restrict left).Alike alike (seconds.foldl Select.restrict right) := by
  induction conditions generalizing left right with
  | nil => exact same
  | cons first _ ih => exact ih (same.restrict like first)

theorem render (gap : String) : alike (left.render gap) (right.render gap) :=
  ClausesAlike.render like.congruence
    { into := same.into
      distinct := same.distinct
      columns := same.columns
      source := same.source
      joins := same.joins.imp fun _ _ join => join.render like
      conditions := same.conditions
      order := same.order ▸ like.forall₂_refl _
      limit := same.limit ▸ like.congruence.rel_refl _ } gap

end Alike

end Select

namespace Fragment.Likeness

variable (like : Likeness alike) {left right : Select} (same : left.Alike alike right)

include like same

theorem existing : alike (CorpusQuery.existing left) (CorpusQuery.existing right) :=
  like.cons _ (like.parenthesized (same.render like " "))

theorem within {first second : Fragment} (item : alike first second) :
    alike (CorpusQuery.within first left) (CorpusQuery.within second right) :=
  like.append item (like.cons _ (like.parenthesized (same.render like " ")))

end Fragment.Likeness

/-- Both queries fail, or both have statements that show no difference but in the values
of their placeholders. -/
inductive SameOutcome : Except QueryError Select → Except QueryError Select → Prop
  | failed (first second : QueryError) : SameOutcome (.error first) (.error second)
  | compiled {left right : Select}
      (same : ∀ gap, (left.render gap).SameShape (right.render gap)) :
      SameOutcome (.ok left) (.ok right)

end Sql

/-! ### Restrictions -/

namespace Access

open Sql

/-- Restrictions that differ at most in the user whose transcripts they leave. -/
inductive Alike : Access → Access → Prop
  | condition (fragment : Fragment) : Alike (.condition fragment) (.condition fragment)
  | user (first second : String) : Alike (.user first) (.user second)

variable {alike : Fragment → Fragment → Prop}

section

variable (like : Fragment.Congruence alike) {first second : String}
  (users : alike [.bound (.text first)] [.bound (.text second)]) {graph other : Fragment}
  (graphs : alike graph other)

include like users graphs

/-- What a role permits.  Neither the condition on the user nor that on the graph is blank. -/
theorem alike_permitted (permitted : Select) {row : Piece}
    (visible : Text.allBlank row.sql = false) :
    alike
      (existing ((permitted.restrict [.column "role" "user_id", .words " = ",
        .bound (.text first)]).restrict (row :: .words " = " :: graph)))
      (existing ((permitted.restrict [.column "role" "user_id", .words " = ",
        .bound (.text second)]).restrict (row :: .words " = " :: other))) := by
  simp only [Select.restrict_of_visible _ visible, Select.restrict_of_visible _
    (show Text.allBlank (Piece.column "role" "user_id").sql = false by decide)]
  have ofUser := like.cons (.column "role" "user_id") (like.cons (.words " = ") users)
  have ofGraph := like.cons row (like.cons (.words " = ") graphs)
  have conditions := List.rel_append
    (List.rel_append (like.forall₂_refl permitted.conditions) (.cons ofUser .nil))
    (.cons ofGraph .nil)
  have statements := Select.clausesAlike_conditions like permitted conditions
  exact like.cons _ (like.parenthesized (statements.render like " "))

theorem alike_restriction_user :
    alike ((Access.user first).restriction graph) ((Access.user second).restriction other) :=
  like.parenthesized (like.join _
    (.cons (alike_permitted like users graphs _ (by decide))
      (.cons (alike_permitted like users graphs _ (by decide)) .nil)))

end

theorem alike_restriction (like : Fragment.Likeness alike)
    (bound : ∀ first second : Param, alike [.bound first] [.bound second]) {left right : Access}
    (same : left.Alike right) (graph : Fragment) :
    alike (left.restriction graph) (right.restriction graph) := by
  cases same with
  | condition fragment => exact like.refl _
  | user first second =>
      exact alike_restriction_user like.congruence (bound _ _) (like.refl graph)

end Access

end CorpusQuery
