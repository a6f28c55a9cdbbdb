import CorpusQuery.Proofs.Filter.Correlation
import CorpusQuery.Proofs.Filter.Operands

namespace CorpusQuery

/-! What becomes of lists without items.

A condition lacks an operand exactly where a test is of such a list: nothing stands between the
parentheses then.  What such a list should have, or what should be in it, is asked for by a
condition that no row meets. -/

open Sql

/-- What a list without items should have, or what should be in it. -/
inductive Expression.IsOfNone : Expression → Prop
  | includes (item : Operand) : IsOfNone (.includes (.list []) item)
  | someOfNone (items : Operand) : IsOfNone (.includesAny (.list []) items)
  | noneOf (list : Operand) : IsOfNone (.includesAny list (.list []))

/-- Of tests, one of a list: it is negated as a whole, where others may be in their midst. -/
def Expression.IsWhole (predicate : Expression) : Prop :=
  ∀ pattern operand, predicate = .test pattern operand → ∃ items, operand = .list items

theorem Expression.IsOfNone.isWhole {predicate : Expression} (ofNone : predicate.IsOfNone) :
    predicate.IsWhole := by
  cases ofNone <;> nofun

namespace Filter

/-! ### Conditions that no row meets -/

/-- No row meets the condition, whatever the tables hold. -/
inductive IsNever : Fragment → Prop
  | word : IsNever [.words "FALSE"]
  | disjunction {parts : List Fragment} (some : parts ≠ []) (all : ∀ part ∈ parts, IsNever part) :
      IsNever (Fragment.disjunction parts).parenthesized
  | existing {select : Select} {condition : Fragment} (listed : [.words "*"] ∈ select.columns)
      (restricted : condition ∈ select.conditions) (never : IsNever condition) :
      IsNever (existing select)

theorem Related.isNever_some (related : Related) : IsNever (related.some [.words "FALSE"]) := by
  have restricted : (related.listing [.words "*"]).restrict [.words "FALSE"] =
      { related.listing [.words "*"] with
        conditions := related.rows.conditions ++ [[.words "FALSE"]] } := if_neg (by decide)
  rw [some, restricted]
  exact .existing (List.mem_append_right _ (List.mem_singleton_self _))
    (List.mem_append_right _ (List.mem_singleton_self _)) .word

theorem isNever_commonMember_left (other : Value) :
    IsNever (commonMember (.literals []) other) := by
  cases other with
  | rows related column => exact related.isNever_some
  | scalar | literals => exact .word

theorem isNever_commonMember_right (list : Value) :
    IsNever (commonMember list (.literals [])) := by
  cases list with
  | scalar value => exact .word
  | rows related column => exact related.isNever_some
  | literals items =>
      cases items with
      | nil => exact .word
      | cons first rest =>
          exact .disjunction (List.cons_ne_nil _ _) (List.forall_mem_map.2 fun _ _ => .word)

namespace Scene

variable {scene : Scene}

theorem isNever_includes (item : Operand) : IsNever (scene.includes (.list []) item).value := by
  have ways : Including scene (.list []) item (scene.includes (.list []) item) :=
    including_includes
  generalize scene.includes (.list []) item = result at ways ⊢
  cases ways with
  | @oneOf uids storage layer settled _ _ =>
      have none : uids = [] := by simpa using (idList?_eq_some.1 settled).1.symm
      exact none ▸ .word
  | plain _ => exact .word

theorem isNever_condition {predicate : Expression} (ofNone : predicate.IsOfNone) :
    IsNever (scene.condition predicate).value.fragment := by
  cases ofNone with
  | includes item => exact isNever_includes item
  | someOfNone items => exact isNever_commonMember_left _
  | noneOf list => exact isNever_commonMember_right _

/-! ### Predicates in conditions -/

mutual

theorem infix_condition {predicate : Expression} (whole : predicate.IsWhole) :
    ∀ expression : Expression, predicate ∈ expression.predicates →
      (scene.condition predicate).value.fragment <:+: (scene.condition expression).value.fragment
  | .or items, member => by
      obtain ⟨part, listed, inside⟩ := infix_conditions whole items member
      exact inside.trans ((Fragment.infix_join listed).trans
        ⟨[.opening], [.closing], rfl⟩)
  | .and items, member => by
      obtain ⟨part, listed, inside⟩ := infix_conditions whole items member
      exact inside.trans (Fragment.infix_join listed)
  | .not inner, member => by
      have inside := infix_condition whole inner member
      -- A negated test is no negation of its text, unless it is of a list.
      cases inner with
      | test pattern operand =>
          obtain rfl := List.mem_singleton.1 member
          obtain ⟨items, rfl⟩ := whole pattern operand rfl
          exact (List.suffix_cons Piece.not _).isInfix
      | _ =>
          rw [condition]
          · exact inside.trans ⟨[.not, .opening], [.closing], rfl⟩
          · nofun
  | .compare .., member | .test .., member | .includes .., member | .includesAny .., member => by
      obtain rfl := List.mem_singleton.1 member
      exact List.infix_rfl

theorem infix_conditions {predicate : Expression} (whole : predicate.IsWhole) :
    ∀ items : List Expression, predicate ∈ Expression.predicatesOf items →
      ∃ part ∈ Condition.fragments (scene.conditions items).value,
        (scene.condition predicate).value.fragment <:+: part
  | [], member => absurd member List.not_mem_nil
  | item :: items, member => by
      rcases List.mem_append.1 member with first | others
      · exact ⟨_, List.mem_cons_self .., infix_condition whole item first⟩
      · obtain ⟨part, listed, inside⟩ := infix_conditions whole items others
        exact ⟨part, List.mem_cons_of_mem _ listed, inside⟩

end

end Scene

/-! ### Statements -/

/-- The condition of an expression is among those of the statement.  Whatever needs an operand
in it has one exactly if no test is of a list without items.  Where something else is about such
a list, the condition asks for what no row meets. -/
theorem complete_iff_no_empty_test {text : String} {expression : Expression}
    (accepted : Expression.parse text = .ok expression) {schema : Schema} {subject : Subject}
    {options : Target.Options} {statement : Select}
    (selected : select schema subject options expression = .ok statement) :
    let scene : Scene := ⟨schema, (Target.resolve schema subject).value⟩
    let condition := (scene.condition expression).value.fragment
    condition ∈ statement.conditions ∧
      (condition.Complete ↔ ∀ pattern, .test pattern (.list []) ∉ expression.predicates) ∧
      ∀ predicate ∈ expression.predicates, predicate.IsOfNone →
        (scene.condition predicate).value.fragment <:+: condition ∧
          IsNever (scene.condition predicate).value.fragment := by
  intro scene condition
  obtain ⟨faultless, rfl⟩ := select_eq_ok.1 selected
  have resolved : scene.target ≠ .unresolved := (fits_examine accepted faultless).1
  rw [problems_examine, List.append_eq_nil_iff] at faultless
  have term : IsTerm (∃ pattern, .test pattern (.list []) ∈ expression.predicates)
      scene.target.Allows ["start_anchor", "end_anchor", "transcript", scene.target.row.1]
      condition :=
    (scene.finds_condition _ resolved (by simp) expression (Expression.built_of_parse accepted)
      (fun pattern member => ⟨pattern, member⟩)
      ⟨faultless.2, fun _ _ => by simp, fun _ => by simp⟩).1
  refine ⟨?_, ⟨fun complete pattern member => ?_, fun none => ?_⟩,
    fun predicate member ofNone => ?_⟩
  · rw [Target.select_eq]
    have listed : condition ∈ scene.target.own ++ [condition] :=
      List.mem_append_right _ (List.mem_singleton_self _)
    exact List.mem_filter.2
      ⟨List.mem_append_left _ (List.mem_append_left _ listed), by simp [term.visible]⟩
  · have group : [.opening, .closing] <:+: condition :=
      Scene.infix_condition (fun _ _ same => ⟨[], (Expression.test.inj same).2.symm⟩) expression
        member
    exact Fragment.not_complete_of_infix (Scene.isAligned_condition expression) group complete
  · exact term.complete fun ⟨pattern, member⟩ => none pattern member
  · exact ⟨Scene.infix_condition ofNone.isWhole expression member, Scene.isNever_condition ofNone⟩

namespace Vacant

def expression : Expression :=
  .or [.includes (.list []) (.own .id), .not (.test "a" (.list [.own .label]))]

end Vacant

theorem vacant_complete :
    Expression.parse "[].includes(id) || !/a/.test([label])" = .ok Vacant.expression ∧
      ∃ statement, select Schema.wordsOnly (.layer "word") {} Vacant.expression = .ok statement ∧
        ∃ condition ∈ statement.conditions, condition.Complete ∧
          ∃ part, part <:+: condition ∧ IsNever part := by
  have built : Vacant.expression.Built := by
    simp [Vacant.expression, Expression.Built, Expression.BuiltAll, Operand.Built,
      Operand.BuiltAll, Expression.IsPattern]
  have plain : Vacant.expression.Plain := by
    simp [Vacant.expression, Expression.Plain, Expression.PlainAll, Operand.Plain,
      Operand.PlainAll]
  have text : Vacant.expression.display = "[].includes(id) || !/a/.test([label])" := by decide
  have accepted : Expression.parse "[].includes(id) || !/a/.test([label])" =
      .ok Vacant.expression := text ▸ Expression.parse_display_of_plain built plain
  have selected : select Schema.wordsOnly (.layer "word") {} Vacant.expression = .ok _ :=
    select_eq_ok.2 ⟨by decide, rfl⟩
  obtain ⟨listed, complete, never⟩ := complete_iff_no_empty_test accepted selected
  refine ⟨accepted, _, selected, _, listed, complete.2 fun pattern member => ?_,
    _, never _ (List.mem_cons_self ..) (.includes _)⟩
  simp [Vacant.expression, Expression.predicates, Expression.predicatesOf] at member

/-- Nothing stands between the parentheses where a pattern is to match an item of no list. -/
theorem empty_test_lacks_operand :
    Expression.parse "/a/.test([])" = .ok (.test "a" (.list [])) ∧
      ∃ statement,
        select Schema.wordsOnly (.layer "word") {} (.test "a" (.list [])) = .ok statement ∧
        statement.conditions = [[.opening, .closing]] ∧
        ¬Fragment.Complete [.opening, .closing] := by
  have built : Expression.Built (.test "a" (.list [])) := by
    simp [Expression.Built, Operand.Built, Operand.BuiltAll, Expression.IsPattern]
  have accepted : Expression.parse (Expression.display (.test "a" (.list []))) =
      .ok (.test "a" (.list [])) := Expression.parse_display_of_plain built trivial
  exact ⟨accepted, _, select_eq_ok.2 ⟨by decide, rfl⟩, rfl, by decide⟩

end Filter

end CorpusQuery
