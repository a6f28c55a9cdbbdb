import CorpusQuery.Proofs.Sql.Scope

namespace CorpusQuery.Sql

/-! What stands in parentheses, however deep within others. -/

/-- What has been read of the groups that are open, the last one first, and those that
are closed. -/
structure Gathering where
  opened : List Fragment
  closed : List Fragment
deriving DecidableEq

def Piece.gather : Gathering → Piece → Gathering
  | ⟨opened, closed⟩, .opening => ⟨[] :: opened, closed⟩
  | ⟨inner :: outer :: rest, closed⟩, .closing =>
      ⟨(outer ++ inner.parenthesized) :: rest, closed ++ [inner]⟩
  | ⟨inner :: rest, closed⟩, piece => ⟨(inner ++ [piece]) :: rest, closed⟩
  | gathering, _ => gathering

namespace Fragment

def gather (gathering : Gathering) (fragment : Fragment) : Gathering :=
  fragment.foldl Piece.gather gathering

/-- All groups of a fragment, each without its own parentheses. -/
def groups (fragment : Fragment) : List Fragment :=
  (fragment.gather ⟨[[]], []⟩).closed

example : groups [.words "a", .opening, .words "b", .opening, .words "c", .closing, .closing] =
    [[.words "c"], [.words "b", .opening, .words "c", .closing]] := by decide

/-- Wherever it stands, the fragment has these groups. -/
def Encloses (fragment : Fragment) (groups : List Fragment) : Prop :=
  ∀ before outer closed, fragment.gather ⟨before :: outer, closed⟩ =
    ⟨(before ++ fragment) :: outer, closed ++ groups⟩

/-- All groups of the fragment satisfy a condition. -/
def AllGroups (holds : Fragment → Prop) (fragment : Fragment) : Prop :=
  ∃ groups, fragment.Encloses groups ∧ ∀ group ∈ groups, holds group

theorem Encloses.groups_eq {fragment : Fragment} {groups : List Fragment}
    (encloses : fragment.Encloses groups) : fragment.groups = groups :=
  congrArg Gathering.closed (encloses [] [] [])

theorem AllGroups.of_mem_groups {holds : Fragment → Prop} {fragment group : Fragment}
    (all : fragment.AllGroups holds) (member : group ∈ fragment.groups) : holds group := by
  obtain ⟨groups, encloses, satisfied⟩ := all
  exact satisfied group (encloses.groups_eq ▸ member)

variable {holds : Fragment → Prop}

theorem AllGroups.imp {more : Fragment → Prop} {fragment : Fragment}
    (all : fragment.AllGroups holds) (weaker : ∀ group, holds group → more group) :
    fragment.AllGroups more := by
  obtain ⟨groups, encloses, satisfied⟩ := all
  exact ⟨groups, encloses, fun group member => weaker group (satisfied group member)⟩

@[simp] theorem allGroups_nil : AllGroups holds [] :=
  ⟨[], fun _ _ _ => by simp [gather], by simp⟩

theorem AllGroups.append {left right : Fragment} (first : left.AllGroups holds)
    (second : right.AllGroups holds) : (left ++ right).AllGroups holds := by
  obtain ⟨leftGroups, leftEncloses, leftSatisfied⟩ := first
  obtain ⟨rightGroups, rightEncloses, rightSatisfied⟩ := second
  refine ⟨leftGroups ++ rightGroups, fun before outer closed => ?_,
    List.forall_mem_append.2 ⟨leftSatisfied, rightSatisfied⟩⟩
  have joined : (left ++ right).gather ⟨before :: outer, closed⟩ =
      right.gather (left.gather ⟨before :: outer, closed⟩) :=
    List.foldl_append
  rw [joined, leftEncloses, rightEncloses]
  simp [List.append_assoc]

theorem AllGroups.parenthesized {fragment : Fragment} (inner : fragment.AllGroups holds)
    (satisfied : holds fragment) : fragment.parenthesized.AllGroups holds := by
  obtain ⟨groups, encloses, all⟩ := inner
  refine ⟨groups ++ [fragment], fun before outer closed => ?_,
    List.forall_mem_append.2 ⟨all, List.forall_mem_singleton.2 satisfied⟩⟩
  have opened : fragment.parenthesized.gather ⟨before :: outer, closed⟩ =
      gather (fragment.gather ⟨[] :: before :: outer, closed⟩) [.closing] :=
    List.foldl_append
  rw [opened, encloses]
  simp [gather, Piece.gather]

/-- A fragment without parentheses. -/
def IsFlat (fragment : Fragment) : Prop :=
  .opening ∉ fragment ∧ .closing ∉ fragment

instance (fragment : Fragment) : Decidable fragment.IsFlat :=
  inferInstanceAs (Decidable (_ ∧ _))

theorem IsFlat.allGroups {fragment : Fragment} (flat : fragment.IsFlat) :
    fragment.AllGroups holds := by
  refine ⟨[], fun before outer closed => ?_, by simp⟩
  induction fragment generalizing before with
  | nil => simp [gather]
  | cons piece rest ih =>
      simp only [IsFlat, List.mem_cons, not_or] at flat
      have added : Piece.gather ⟨before :: outer, closed⟩ piece =
          ⟨(before ++ [piece]) :: outer, closed⟩ := by
        cases piece <;> simp_all [Piece.gather]
      have others := ih ⟨flat.1.2, flat.2.2⟩ (before ++ [piece])
      have read : gather ⟨before :: outer, closed⟩ (piece :: rest) =
          gather ⟨(before ++ [piece]) :: outer, closed⟩ rest :=
        congrArg (Fragment.gather · rest) added
      rw [read, others, List.append_assoc, List.singleton_append]

theorem additive_allGroups : Additive (AllGroups holds) where
  nil := allGroups_nil
  append _ _ := .append

theorem allGroups_words (text : String) : AllGroups holds [.words text] :=
  IsFlat.allGroups (by simp [IsFlat])

end Fragment

/-! ### Statements -/

section Statements

variable {holds : Fragment → Prop}

theorem allGroups_relation (table row : String) :
    (relation table row).AllGroups holds := by
  unfold relation
  split <;> exact Fragment.IsFlat.allGroups (by simp [Fragment.IsFlat])

theorem Join.allGroups_render {join : Join} (source : join.source.AllGroups holds)
    (on : ∀ condition ∈ join.on, condition.AllGroups holds) : join.render.AllGroups holds := by
  have named : Fragment.AllGroups holds [.named join.row] :=
    Fragment.IsFlat.allGroups (by simp [Fragment.IsFlat])
  exact holds_render Fragment.additive_allGroups (Fragment.IsFlat.allGroups (by decide))
    (fun _ _ => Fragment.allGroups_words _) named source on

namespace Select

/-- All groups in the clauses of a statement satisfy a condition. -/
structure AllGroups (holds : Fragment → Prop) (select : Select) : Prop where
  into : select.into = none
  columns : ∀ column ∈ select.columns, column.AllGroups holds
  source : select.source.AllGroups holds
  joins : ∀ join ∈ select.joins, join.render.AllGroups holds
  conditions : ∀ condition ∈ select.conditions, condition.AllGroups holds
  order : ∀ term ∈ select.order, term.AllGroups holds
  limit : ∀ count ∈ select.limit, Fragment.AllGroups holds count

theorem AllGroups.render {select : Select} (all : select.AllGroups holds) (gap : String) :
    (select.render gap).AllGroups holds :=
  holds_render Fragment.additive_allGroups (Fragment.IsFlat.allGroups (by decide))
    (fun _ _ => Fragment.allGroups_words _) (by simp [all.into]) all.columns all.source all.joins
    all.conditions all.order all.limit

end Select

end Statements

end CorpusQuery.Sql
