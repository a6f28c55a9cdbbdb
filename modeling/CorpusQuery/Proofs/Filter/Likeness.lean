import CorpusQuery.Filter.Condition
import CorpusQuery.Proofs.Sql.Likeness

namespace CorpusQuery

/-! What the values of literals can make of operands: nothing but other bound values. -/

open Sql

/-- Operands that differ at most in the values of their literals. -/
inductive Operand.Alike : Operand → Operand → Prop
  | same (operand : Operand) : Alike operand operand
  | text (first second : String) : Alike (.text first) (.text second)
  | integer (first second : Int64) : Alike (.integer first) (.integer second)
  | number (first second : Number.Binary64) : Alike (.number first) (.number second)
  | list {firsts seconds : List Operand} (items : List.Forall₂ Alike firsts seconds) :
      Alike (.list firsts) (.list seconds)
  | length {first second : Operand} (inner : Alike first second) :
      Alike (.length first) (.length second)
  | coalesce {firsts seconds : List Operand} (items : List.Forall₂ Alike firsts seconds) :
      Alike (.coalesce firsts) (.coalesce seconds)

namespace Filter

/-! ### Findings -/

/-- Findings whose values are related and need the same sources, unless there are
problems; `together` asks that either has problems only if both have. -/
structure Noted.Alike (together : Prop) (related : α → β → Prop) (left : Noted α)
    (right : Noted β) : Prop where
  problems : together → (left.problems = [] ↔ right.problems = [])
  found : left.problems = [] → right.problems = [] →
    related left.value right.value ∧ left.anchors = right.anchors ∧
      left.transcript = right.transcript

namespace Noted

variable {together : Prop} {related : α → β → Prop} {others : γ → δ → Prop}

theorem alike_same {related : α → α → Prop} (found : Noted α)
    (same : related found.value found.value) : Noted.Alike together related found found where
  problems _ := Iff.rfl
  found _ _ := ⟨same, rfl, rfl⟩

theorem alike_pure {left : α} {right : β} (same : related left right) :
    Noted.Alike together related (pure left) (pure right) where
  problems _ := Iff.rfl
  found _ _ := ⟨same, rfl, rfl⟩

theorem alike_problem (first second : Problem) (left : α) (right : β) :
    Noted.Alike together related (problem first left) (problem second right) where
  problems _ := by simp [problem]
  found none := absurd none (List.cons_ne_nil _ _)

theorem Alike.bind {left : Noted α} {right : Noted β} {leftRest : α → Noted γ}
    {rightRest : β → Noted δ} (same : Noted.Alike together related left right)
    (rest : ∀ {first second}, related first second →
      Noted.Alike together others (leftRest first) (rightRest second)) :
    Noted.Alike together others (left >>= leftRest) (right >>= rightRest) where
  problems both := by
    change left.problems ++ (leftRest left.value).problems = [] ↔
      right.problems ++ (rightRest right.value).problems = []
    rw [List.append_eq_nil_iff, List.append_eq_nil_iff, ← same.problems both]
    refine and_congr_right fun none => ?_
    exact (rest (same.found none ((same.problems both).1 none)).1).problems both
  found leftNone rightNone := by
    obtain ⟨firstNone, leftRestNone⟩ := List.append_eq_nil_iff.1 leftNone
    obtain ⟨secondNone, rightRestNone⟩ := List.append_eq_nil_iff.1 rightNone
    obtain ⟨values, anchors, transcript⟩ := same.found firstNone secondNone
    obtain ⟨results, moreAnchors, moreTranscript⟩ :=
      (rest values).found leftRestNone rightRestNone
    exact ⟨results, congrArg₂ or anchors moreAnchors, congrArg₂ or transcript moreTranscript⟩

end Noted

/-! ### Values -/

/-- Values made of fragments that are alike.  No literal has a part in the rows of another
layer. -/
inductive Value.Alike (alike : Fragment → Fragment → Prop) : Value → Value → Prop
  | scalar {left right : Fragment} (same : alike left right) :
      Alike alike (.scalar left) (.scalar right)
  | literals {lefts rights : List Fragment} (same : List.Forall₂ alike lefts rights) :
      Alike alike (.literals lefts) (.literals rights)
  | rows (related : Related) (column : Fragment) :
      Alike alike (.rows related column) (.rows related column)

variable {alike : Fragment → Fragment → Prop} (like : Fragment.Likeness alike)

include like

theorem Value.alike_refl (value : Value) : value.Alike alike value := by
  cases value with
  | scalar fragment => exact .scalar (like.refl fragment)
  | literals items => exact .literals (like.forall₂_refl items)
  | rows related column => exact .rows related column

theorem alike_some (related : Related) {left right : Fragment} (same : alike left right) :
    alike (related.some left) (related.some right) :=
  like.existing ((Select.alike_refl like _).restrict like same)

theorem alike_membership {left right : Fragment} (item : alike left right) {list other : Value}
    (same : list.Alike alike other) : alike (membership left list) (membership right other) := by
  cases same with
  | scalar value => exact like.append item (like.cons _ value)
  | rows related column => exact like.within (Select.alike_refl like _) item
  | literals items =>
      cases items with
      | nil => exact like.refl _
      | cons first rest =>
          exact like.append item
            (like.cons _ (like.parenthesized (like.join _ (.cons first rest))))

theorem alike_commonMember {first second third fourth : Value} (left : first.Alike alike third)
    (right : second.Alike alike fourth) :
    alike (commonMember first second) (commonMember third fourth) := by
  cases left with
  | rows related column => exact alike_some like _ (alike_membership like (like.refl _) right)
  | scalar value =>
      cases right with
      | rows related column =>
          exact alike_some like _ (alike_membership like (like.refl _) (.scalar value))
      | scalar other => exact alike_membership like value (.scalar other)
      | literals items => exact alike_membership like value (.literals items)
  | @literals lefts rights items =>
      have tests : List.Forall₂ alike (lefts.map (membership · second))
          (rights.map (membership · fourth)) := by
        refine List.rel_map ?_ items
        intro _ _ item
        exact alike_membership like item right
      cases right with
      | rows related column =>
          exact alike_some like _ (alike_membership like (like.refl _) (.literals items))
      | scalar other =>
          cases items with
          | nil => exact like.refl _
          | cons first rest => exact like.parenthesized (like.join _ tests)
      | literals others =>
          cases items with
          | nil => exact like.refl _
          | cons first rest => exact like.parenthesized (like.join _ tests)

theorem alike_size {left right : Value} (same : left.Alike alike right) :
    alike (size left) (size right) := by
  cases same with
  | scalar value => exact like.apply _ value
  | rows related column => exact like.refl _
  | literals items =>
      rw [size, size, items.length_eq]
      exact like.refl _

variable (bound : ∀ first second : Param, alike [.bound first] [.bound second])

include bound

theorem alike_matching (pattern other : String) (negated : Bool) {left right : Value}
    (same : left.Alike alike right) :
    alike (matching pattern negated left) (matching other negated right) := by
  have tested (operator : String) {value found : Fragment} (same : alike value found) :
      alike (value ++ [.words operator, .bound (.text pattern)])
        (found ++ [.words operator, .bound (.text other)]) :=
    like.append same (like.cons _ (bound _ _))
  have perhapsNot {left right : Fragment} (same : alike left right) :
      alike (if negated then .not :: left else left)
        (if negated then .not :: right else right) := by
    split
    · exact like.cons _ same
    · exact same
  cases same with
  | scalar value => exact tested _ value
  | rows related column => exact perhapsNot (alike_some like _ (tested _ (like.refl column)))
  | literals items =>
      refine perhapsNot (like.parenthesized (like.join _ ?_))
      exact List.rel_map (fun _ _ item => tested _ item) items

/-! ### Operands -/

namespace Scene

variable {scene : Scene} {together : Prop}

omit like bound

theorem alike_single (first second : Operand) {left right : Value}
    (same : left.Alike alike right) :
    Noted.Alike together alike (single first left) (single second right) := by
  cases same with
  | scalar value => exact Noted.alike_pure value
  | literals items => exact Noted.alike_problem ..
  | rows related column => exact Noted.alike_problem ..

mutual

theorem alike_value (like : Fragment.Likeness alike)
    (bound : ∀ first second : Param, alike [.bound first] [.bound second]) :
    ∀ {left right : Operand}, left.Alike right →
      Noted.Alike together (Value.Alike alike) (scene.value left) (scene.value right)
  | _, _, .same operand => Noted.alike_same _ (Value.alike_refl like _)
  | _, _, .text _ _ | _, _, .integer _ _ | _, _, .number _ _ =>
      Noted.alike_pure (.scalar (bound _ _))
  | _, _, .list items => by
      rw [value, value]
      exact (alike_scalars like bound items).bind fun same => Noted.alike_pure (.literals same)
  | _, _, .length inner => by
      rw [value, value]
      refine (alike_value like bound inner).bind fun same => ?_
      exact Noted.alike_pure (.scalar (alike_size like same))
  | _, _, .coalesce items => by
      rw [value, value]
      refine (alike_scalars like bound items).bind fun same => Noted.alike_pure (.scalar ?_)
      exact like.apply _ (like.join _ same)

theorem alike_scalars (like : Fragment.Likeness alike)
    (bound : ∀ first second : Param, alike [.bound first] [.bound second]) :
    ∀ {lefts rights : List Operand}, List.Forall₂ Operand.Alike lefts rights →
      Noted.Alike together (List.Forall₂ alike) (scene.scalars lefts) (scene.scalars rights)
  | _, _, .nil => by
      rw [scalars]
      exact Noted.alike_pure .nil
  | _, _, .cons first rest => by
      rw [scalars, scalars]
      refine (alike_value like bound first).bind fun value => ?_
      refine (alike_single _ _ value).bind fun single => ?_
      exact (alike_scalars like bound rest).bind fun same => Noted.alike_pure (.cons single same)

end

include like bound

theorem alike_scalar {left right : Operand} (same : left.Alike right) :
    Noted.Alike together alike (scene.scalar left) (scene.scalar right) :=
  (alike_value like bound same).bind fun value => alike_single _ _ value

/-! ### Predicates whose literals are bound -/

theorem alike_plainCompare (op : Comparison) {left right first second : Operand}
    (lefts : left.Alike first) (rights : right.Alike second) :
    Noted.Alike together alike (scene.plainCompare left op right)
      (scene.plainCompare first op second) := by
  refine (alike_scalar like bound lefts).bind fun left => ?_
  refine (alike_scalar like bound rights).bind fun right => ?_
  exact Noted.alike_pure (like.append left (like.cons _ right))

theorem alike_nullTest (negated : Bool) {left right : Operand} (same : left.Alike right) :
    Noted.Alike together alike (scene.nullTest left negated) (scene.nullTest right negated) :=
  (alike_scalar like bound same).bind fun value =>
    Noted.alike_pure (like.append value (like.refl _))

theorem alike_test (pattern other : String) (negated : Bool) {left right : Operand}
    (same : left.Alike right) :
    Noted.Alike together alike (scene.test pattern left negated)
      (scene.test other right negated) :=
  (alike_value like bound same).bind fun value =>
    Noted.alike_pure (alike_matching like bound pattern other negated value)

theorem alike_plainIncludes {left right first second : Operand} (lists : left.Alike first)
    (items : right.Alike second) :
    Noted.Alike together alike (scene.plainIncludes left right)
      (scene.plainIncludes first second) := by
  refine (alike_value like bound lists).bind fun list => ?_
  refine (alike_scalar like bound items).bind fun item => ?_
  cases list with
  | scalar text =>
      exact Noted.alike_pure
        (like.append (like.apply _ (like.append text (like.cons _ item))) (like.refl _))
  | rows related column =>
      exact Noted.alike_pure (alike_membership like item (.rows related column))
  | literals all => exact Noted.alike_pure (alike_membership like item (.literals all))

theorem alike_includesAny {left right first second : Operand} (lists : left.Alike first)
    (others : right.Alike second) :
    Noted.Alike together alike (scene.includesAny left right) (scene.includesAny first second) := by
  refine (alike_value like bound lists).bind fun list => ?_
  refine (alike_value like bound others).bind fun other => ?_
  exact Noted.alike_pure (alike_commonMember like list other)

end Scene

end Filter

end CorpusQuery
