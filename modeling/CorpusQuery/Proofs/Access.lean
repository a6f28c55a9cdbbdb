import CorpusQuery.Access
import CorpusQuery.Proofs.Sql.Scope

namespace CorpusQuery

/-! Restrictions refer to no rows but their own and those of the graph. -/

open Sql

namespace Access

/-- Where the condition on access is a caller's, it is not looked into. -/
def IsGiven : Access → Prop
  | .condition fragment => fragment.IsGiven
  | .user _ => True

def asGiven : Access → Access
  | .condition fragment => .condition fragment.asGiven
  | .user id => .user id

theorem isGiven_asGiven (access : Access) : access.asGiven.IsGiven := by
  cases access with
  | condition fragment => exact fragment.isGiven_asGiven
  | user id => trivial

theorem query_restriction_asGiven (access : Access) (graph : Fragment) :
    (access.asGiven.restriction graph).query = (access.restriction graph).query := by
  cases access with
  | condition fragment => simp [asGiven, restriction, Fragment.query, Fragment.parenthesized]
  | user id => rfl

variable {scope : List String}

/-- A column of a known row, what stands between, and another. -/
theorem within_columns {left right : String} (leftKnown : left ∈ scope)
    (rightKnown : right ∈ scope) (leftName rightName : String) {operator : String}
    (plain : IsUnqualified operator) :
    Fragment.Within scope [.column left leftName, .words operator, .column right rightName] :=
  .column leftKnown _ (.words plain (.column rightKnown _ Fragment.within_nil))

theorem within_marker {row : String} (known : row ∈ scope) (name : String) {operator : String}
    (plain : IsUnqualified operator) (text : String) :
    Fragment.Within scope [.column row name, .words operator, .marker text] :=
  .column known _ (.words plain (.marker _ Fragment.within_nil))

theorem rows_permitted (permission on : List Fragment) (table row : String) :
    ((roles permission).join (.inner [.words table] row on)).rows =
      ["role", "role_permission", row] := by
  simp only [Select.rows, roles, Select.join, List.map_append, List.map_cons, List.map_nil,
    Join.row_inner]
  rfl

/-- The permissions of roles, and the row that they are looked up in. -/
theorem isClosed_permitted {table row : String} {permission on : List Fragment}
    (plain : IsUnqualified table) (named : row ≠ "")
    (permits : ∀ condition ∈ permission,
      condition.Within (["role", "role_permission", row] ++ scope))
    (tied : ∀ condition ∈ on, condition.Within (["role", "role_permission", row] ++ scope)) :
    ((roles permission).join (.inner [.words table] row on)).IsClosed scope := by
  constructor
  · rfl
  · exact List.forall_mem_singleton.2 (.words (by decide) Fragment.within_nil)
  · exact ⟨[], Fragment.scopes_named _, List.nil_subset _⟩
  · rw [rows_permitted]
    refine List.forall_mem_cons.2 ⟨?_, List.forall_mem_singleton.2 ?_⟩
    · rw [Join.row_inner]
      refine Join.uses_inner (by decide) (.inl (by decide)) (List.forall_mem_append.2 ⟨?_, ?_⟩)
      · exact List.forall_mem_cons.2
          ⟨within_columns (by simp) (by simp) _ _ (by decide), permits⟩
      · exact List.forall_mem_singleton.2 (within_marker (by simp) _ (by decide) _)
    · rw [Join.row_inner]
      exact Join.uses_inner named (.inr (.words plain Fragment.within_nil)) tied
  · exact List.forall_mem_nil _
  · exact List.forall_mem_nil _
  · rfl

variable {graph : Fragment} (within : graph.Within scope)

include within

theorem within_permitted {table row : String} {permission on : List Fragment}
    (plain : IsUnqualified table) (named : row ≠ "")
    (permits : ∀ condition ∈ permission,
      condition.Within (["role", "role_permission", row] ++ scope))
    (tied : ∀ condition ∈ on, condition.Within (["role", "role_permission", row] ++ scope))
    (id : String) :
    Fragment.Within scope (.words "EXISTS " :: Fragment.parenthesized
      (((((roles permission).join (.inner [.words table] row on)).restrict
          [.column "role" "user_id", .words " = ", .bound (.text id)]).restrict
        (.column row "ag_id" :: .words " = " :: graph)).subquery)) := by
  have rows := rows_permitted permission on table row
  have permitted := isClosed_permitted plain named permits tied
  generalize (roles permission).join (.inner [.words table] row on) = select at rows permitted ⊢
  have user : Fragment.Within (select.rows ++ scope)
      [.column "role" "user_id", .words " = ", .bound (.text id)] :=
    .column (by simp [rows]) _ (.words (by decide) (.bound _ Fragment.within_nil))
  have transcript : Fragment.Within (select.rows ++ scope)
      (.column row "ag_id" :: .words " = " :: graph) :=
    .column (by simp [rows]) _
      (.words (by decide) (within.mono (List.subset_append_right _ _)))
  have closed := (permitted.restrict user).restrict (by rwa [Select.rows_restrict])
  exact .words (by decide) closed.subquery

theorem within_restriction (access : Access) (given : access.IsGiven) :
    (access.restriction graph).Within scope := by
  cases access with
  | condition fragment => exact (Fragment.IsGiven.within given).parenthesized
  | user id =>
      have byValue : (byAttribute id graph).Within scope := by
        refine within_permitted within (by decide) (by decide) (List.forall_mem_nil _) ?_ id
        exact List.forall_mem_cons.2 ⟨within_columns (by simp) (by simp) _ _ (by decide),
          List.forall_mem_singleton.2 (within_columns (by simp) (by simp) _ _ (by decide))⟩
      have byName : (byCorpus id graph).Within scope :=
        within_permitted within (by decide) (by decide)
          (List.forall_mem_singleton.2 (within_marker (by simp) _ (by decide) _))
          (List.forall_mem_singleton.2 (within_columns (by simp) (by simp) _ _ (by decide))) id
      exact (Fragment.Within.disjunction (by simp [byValue, byName])).parenthesized

end Access

end CorpusQuery
