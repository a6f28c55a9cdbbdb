import CorpusQuery.Proofs.Filter.Likeness
import CorpusQuery.Proofs.Filter.Predicates

namespace CorpusQuery

/-! Expressions that differ in nothing but patterns and the values of literals make
conditions that differ in nothing but bound values, as far as the predicates that are
settled by their literals do. -/

open Sql

namespace Filter

namespace Scene

/-! ### Variants -/

/-- Expressions that differ at most in their patterns and the values of their literals.
Of those by which predicates are settled, `kept` says how they may differ. -/
inductive Variant (scene : Scene) (kept : List String → List String → Prop) :
    Expression → Expression → Prop
  | or {items others : List Expression} (parts : List.Forall₂ (Variant scene kept) items others) :
      Variant scene kept (.or items) (.or others)
  | and {items others : List Expression} (parts : List.Forall₂ (Variant scene kept) items others) :
      Variant scene kept (.and items) (.and others)
  | not {inner other : Expression} (inside : Variant scene kept inner other) :
      Variant scene kept (.not inner) (.not other)
  | compare {left right first second : Operand} (op : Comparison) (lefts : left.Alike first)
      (rights : right.Alike second)
      (settling : kept (scene.inlined (.compare left op right))
        (scene.inlined (.compare first op second))) :
      Variant scene kept (.compare left op right) (.compare first op second)
  | test {operand other : Operand} (pattern instead : String) (same : operand.Alike other) :
      Variant scene kept (.test pattern operand) (.test instead other)
  | includes {list item other single : Operand} (lists : list.Alike other)
      (items : item.Alike single)
      (settling : kept (scene.inlined (.includes list item))
        (scene.inlined (.includes other single))) :
      Variant scene kept (.includes list item) (.includes other single)
  | includesAny {list items other singles : Operand} (lists : list.Alike other)
      (others : items.Alike singles) :
      Variant scene kept (.includesAny list items) (.includesAny other singles)

section

variable {left right first second : Operand}

theorem alike_attributeAndText? (lefts : left.Alike first) (rights : right.Alike second) :
    Option.Rel (fun found other => found.1 = other.1) (attributeAndText? left right)
      (attributeAndText? first second) := by
  cases lefts with
  | same =>
      cases rights with
      | same =>
          cases attributeAndText? left right with
          | none => exact .none
          | some found => exact .some rfl
      | text value other =>
          cases left with
          | own attr => exact .some rfl
          | _ => exact .none
      | _ => cases left <;> exact .none
  | text value other =>
      cases rights with
      | same =>
          cases right with
          | own attr => exact .some rfl
          | _ => exact .none
      | _ => exact .none
  | _ => exact .none

theorem eq_null_of_alike (same : left.Alike first) : left = .null ↔ first = .null := by
  cases same <;> simp

theorem alike_besideNull? (lefts : left.Alike first) (rights : right.Alike second) :
    Option.Rel Operand.Alike (besideNull? left right) (besideNull? first second) := by
  by_cases rightNull : right = .null
  · obtain rfl := rightNull
    obtain rfl := (eq_null_of_alike rights).1 rfl
    exact .some lefts
  · by_cases leftNull : left = .null
    · obtain rfl := leftNull
      obtain rfl := (eq_null_of_alike lefts).1 rfl
      have beside (operand : Operand) : besideNull? .null operand = some operand := by
        cases operand <;> rfl
      rw [beside, beside]
      exact .some rights
    · have none {one other : Operand} (leftSome : one ≠ .null) (rightSome : other ≠ .null) :
          besideNull? one other = .none := by
        unfold besideNull?
        split
        · exact absurd rfl rightSome
        · exact absurd rfl leftSome
        · rfl
      rw [none leftNull rightNull,
        none (mt (eq_null_of_alike lefts).2 leftNull) (mt (eq_null_of_alike rights).2 rightNull)]
      exact .none

theorem alike_asText? (same : left.Alike first) :
    Option.Rel (fun _ _ => True) (asText? left) (asText? first) := by
  cases same with
  | same =>
      cases asText? left with
      | none => exact .none
      | some text => exact .some trivial
  | text value other => exact .some trivial
  | _ => exact .none

theorem alike_mapM_asText? {items others : List Operand}
    (all : List.Forall₂ Operand.Alike items others) :
    Option.Rel (fun uids found => uids.length = found.length) (items.mapM asText?)
      (others.mapM asText?) := by
  induction all with
  | nil => exact .some rfl
  | cons same _ ih =>
      rw [List.mapM_cons, List.mapM_cons]
      generalize asText? _ = text, asText? _ = other, alike_asText? same = head
      cases head with
      | none => exact .none
      | some _ =>
          generalize List.mapM asText? _ = uids, List.mapM asText? _ = found, ih = tail
          cases tail with
          | none => exact .none
          | some lengths => exact .some (congrArg (· + 1) lengths)

theorem alike_idList? (lists : left.Alike first) (items : right.Alike second) :
    Option.Rel (fun uids found => uids.length = found.length) (idList? left right)
      (idList? first second) := by
  cases items with
  | same =>
      cases lists with
      | same =>
          cases idList? left right with
          | none => exact .none
          | some uids => exact .some rfl
      | list all =>
          cases right with
          | own attr =>
              cases attr with
              | id => exact alike_mapM_asText? all
              | _ => exact .none
          | _ => exact .none
      | _ => exact .none
  | _ =>
      cases lists with
      | same => cases left <;> exact .none
      | _ => exact .none

end

/-! ### Predicates -/

/-- What predicates are settled by makes findings that are alike. -/
structure Settling (scene : Scene) (together : Prop) (alike : Fragment → Fragment → Prop)
    (kept : List String → List String → Prop) : Prop where
  ofLayer : ∀ {first second : String} (negated : Bool), kept [first] [second] →
    Noted.Alike together alike (scene.isOfLayer first negated) (scene.isOfLayer second negated)
  oneOf : ∀ {firsts seconds : List String} (storage : Storage) (layer : String) (negated : Bool),
    firsts.length = seconds.length → kept firsts seconds →
    Noted.Alike together alike (isOneOf storage layer firsts negated)
      (isOneOf storage layer seconds negated)
  childOf : ∀ {first second : String} (layer : String) (negated : Bool), kept [first] [second] →
    Noted.Alike together alike (scene.isChildOf layer first negated)
      (scene.isChildOf layer second negated)

variable {scene : Scene} {together : Prop} {alike : Fragment → Fragment → Prop}
  {kept : List String → List String → Prop} (like : Fragment.Likeness alike)
  (bound : ∀ first second : Param, alike [.bound first] [.bound second])
  (settled : scene.Settling together alike kept)

include like bound settled

theorem alike_compare {left right first second : Operand} (op : Comparison)
    (lefts : left.Alike first) (rights : right.Alike second)
    (settling : kept (scene.inlined (.compare left op right))
      (scene.inlined (.compare first op second))) :
    Noted.Alike together alike (scene.compare left op right) (scene.compare first op second) := by
  cases equality : op.isEquality with
  | false =>
      simp only [compare, equality, Bool.false_eq_true, if_false]
      exact alike_plainCompare like bound op lefts rights
  | true =>
      simp only [inlined, compare, equality, if_true] at settling ⊢
      -- Operands that are alike are the same attribute beside a text, or beside null, or not.
      generalize attributeAndText? left right = found, attributeAndText? first second = instead,
        alike_attributeAndText? lefts rights = attributes at settling ⊢
      generalize besideNull? left right = operand, besideNull? first second = instead,
        alike_besideNull? lefts rights = beside
      have other : Noted.Alike together alike
          (operand.elim (scene.plainCompare left op right) fun operand =>
            scene.nullTest operand op.isNegated)
          (instead.elim (scene.plainCompare first op second) fun operand =>
            scene.nullTest operand op.isNegated) := by
        cases beside with
        | none => exact alike_plainCompare like bound op lefts rights
        | some same => exact alike_nullTest like bound op.isNegated same
      cases attributes with
      | none => cases beside <;> exact other
      | @some one another same =>
          obtain ⟨attr, text⟩ := one
          obtain ⟨_, value⟩ := another
          obtain rfl : attr = _ := same
          cases attr with
          | layerId => exact settled.ofLayer _ settling
          | id =>
              cases target : scene.target with
              | intervals layer scope table =>
                  rw [target] at settling
                  exact settled.oneOf _ _ _ rfl settling
              | attributed layer owner name =>
                  rw [target] at settling
                  exact settled.oneOf _ _ _ rfl settling
              | _ => cases beside <;> exact other
          | parentId =>
              cases target : scene.target with
              | intervals layer scope table =>
                  rw [target] at settling
                  exact settled.childOf _ _ settling
              | _ => cases beside <;> exact other
          | _ => cases beside <;> exact other

theorem alike_includes {list item other single : Operand} (lists : list.Alike other)
    (items : item.Alike single)
    (settling : kept (scene.inlined (.includes list item))
      (scene.inlined (.includes other single))) :
    Noted.Alike together alike (scene.includes list item) (scene.includes other single) := by
  simp only [inlined, includes] at settling ⊢
  generalize idList? list item = uids, idList? other single = instead,
    alike_idList? lists items = found at settling ⊢
  cases found with
  | none => exact alike_plainIncludes like bound lists items
  | some lengths =>
      cases stored : scene.target.storage? with
      | none => exact alike_plainIncludes like bound lists items
      | some storage =>
          rw [stored] at settling
          exact settled.oneOf _ _ _ lengths settling

/-! ### Expressions -/

omit bound settled

omit like in
theorem alike_leaf {left right : Noted Fragment} (same : Noted.Alike together alike left right) :
    Noted.Alike together (fun left right => alike left.fragment right.fragment)
      (return Condition.leaf (← left)) (return Condition.leaf (← right)) := by
  refine same.bind fun one => ?_
  apply Noted.alike_pure
  rw [Condition.fragment, Condition.fragment]
  exact one

theorem alike_negation {inner other : Expression}
    (untested : ∀ pattern operand, inner ≠ .test pattern operand)
    (otherUntested : ∀ pattern operand, other ≠ .test pattern operand)
    (whole : Noted.Alike together (fun left right => alike left.fragment right.fragment)
      (scene.condition inner) (scene.condition other)) :
    Noted.Alike together (fun left right => alike left.fragment right.fragment)
      (scene.condition (.not inner)) (scene.condition (.not other)) := by
  rw [condition, condition]
  · refine whole.bind fun same => ?_
    apply Noted.alike_pure
    rw [Condition.fragment, Condition.fragment]
    exact like.cons _ (like.parenthesized same)
  · exact otherUntested
  · exact untested

omit like

mutual

theorem alike_condition (like : Fragment.Likeness alike)
    (bound : ∀ first second : Param, alike [.bound first] [.bound second])
    (settled : scene.Settling together alike kept) :
    ∀ {expression other : Expression}, scene.Variant kept expression other →
      Noted.Alike together (fun left right => alike left.fragment right.fragment)
        (scene.condition expression) (scene.condition other)
  | _, _, .or parts => by
      rw [condition, condition]
      refine (alike_conditions like bound settled parts).bind fun same => Noted.alike_pure ?_
      exact like.parenthesized (like.join _ same)
  | _, _, .and parts => by
      rw [condition, condition]
      refine (alike_conditions like bound settled parts).bind fun same => Noted.alike_pure ?_
      exact like.join _ same
  | _, _, .not inside => by
      have whole := alike_condition like bound settled inside
      cases inside with
      | test pattern instead same =>
          rw [condition, condition]
          exact alike_leaf (alike_test like bound pattern instead true same)
      | _ => exact alike_negation like nofun nofun whole
  | _, _, .compare op lefts rights settling => by
      rw [condition, condition]
      exact alike_leaf (alike_compare like bound settled op lefts rights settling)
  | _, _, .test pattern instead same => by
      rw [condition, condition]
      exact alike_leaf (alike_test like bound pattern instead false same)
  | _, _, .includes lists items settling => by
      rw [condition, condition]
      exact alike_leaf (alike_includes like bound settled lists items settling)
  | _, _, .includesAny lists others => by
      rw [condition, condition]
      exact alike_leaf (alike_includesAny like bound lists others)

theorem alike_conditions (like : Fragment.Likeness alike)
    (bound : ∀ first second : Param, alike [.bound first] [.bound second])
    (settled : scene.Settling together alike kept) :
    ∀ {items others : List Expression}, List.Forall₂ (scene.Variant kept) items others →
      Noted.Alike together
        (fun left right =>
          List.Forall₂ alike (Condition.fragments left) (Condition.fragments right))
        (scene.conditions items) (scene.conditions others)
  | _, _, .nil => by
      rw [conditions]
      exact Noted.alike_pure .nil
  | _, _, .cons first rest => by
      rw [conditions, conditions]
      refine (alike_condition like bound settled first).bind fun head => ?_
      refine (alike_conditions like bound settled rest).bind fun tail => ?_
      exact Noted.alike_pure (.cons head tail)

end

end Scene

/-! ### Statements -/

variable {alike : Fragment → Fragment → Prop} (like : Fragment.Likeness alike)
  (bound : ∀ first second : Param, alike [.bound first] [.bound second])

namespace Target

/-- Options that differ at most in the user whose transcripts are selected from. -/
structure Options.Alike (left right : Options) : Prop where
  select : left.select = right.select
  access : Option.Rel Access.Alike left.access right.access
  extra : left.extra = right.extra
  order : left.order = right.order
  limit : left.limit = right.limit

include like bound

theorem alike_accessCondition (schema : Schema) (target : Target) {left right : Access}
    (same : left.Alike right) :
    alike (target.accessCondition schema left) (target.accessCondition schema right) := by
  cases same with
  | condition fragment => exact like.refl _
  | user first second =>
      have restricted := Access.alike_restriction like bound (.user first second)
      simp only [accessCondition]
      split
      · exact restricted _
      · let speakings : Select :=
          { columns := [[.words "*"]], source := relation "transcript_speaker" "access_speaker" }
        refine like.existing (Select.alike_conditions like speakings ?_)
        exact .cons (like.refl _) (.cons (restricted _) .nil)
      · exact restricted _

theorem alike_select (schema : Schema) (target : Target) {options others : Options}
    (same : options.Alike others) {found other : Noted Fragment}
    (value : alike found.value other.value) (anchors : found.anchors = other.anchors)
    (transcript : found.transcript = other.transcript) :
    (target.select schema options found).Alike alike (target.select schema others other) := by
  obtain ⟨select, access, extra, order, limit⟩ := options
  obtain ⟨_, otherAccess, _, _, _⟩ := others
  obtain ⟨rfl, accesses, rfl, rfl, rfl⟩ := same
  have restricted : List.Forall₂ alike
      (access.toList.map (target.accessCondition schema))
      (otherAccess.toList.map (target.accessCondition schema)) := by
    cases accesses with
    | none => exact .nil
    | some same => exact .cons (alike_accessCondition like bound schema target same) .nil
  have conditions : List.Forall₂ alike
      (target.own ++ [found.value] ++ extra.toList.map Fragment.parenthesized ++
        access.toList.map (target.accessCondition schema))
      (target.own ++ [other.value] ++ extra.toList.map Fragment.parenthesized ++
        otherAccess.toList.map (target.accessCondition schema)) :=
    List.rel_append
      (List.rel_append (List.rel_append (like.forall₂_refl _) (.cons value .nil))
        (like.forall₂_refl _)) restricted
  simp only [Target.select, anchors, transcript]
  exact (Select.alike_refl like _).foldl_restrict like conditions

end Target

/-- Where an expression about a subject is examined. -/
def Scene.about (schema : Schema) (subject : Subject) : Scene :=
  ⟨schema, (Target.resolve schema subject).value⟩

section

variable {schema : Schema} {subject : Subject} {together : Prop}
  {kept : List String → List String → Prop} {expression other : Expression}
  (settled : (Scene.about schema subject).Settling together alike kept)
  (variant : (Scene.about schema subject).Variant kept expression other)

include like bound settled variant

theorem alike_examine :
    Noted.Alike together
      (fun left right => left.1 = right.1 ∧ alike left.2 right.2)
      (examine schema subject expression) (examine schema subject other) := by
  have resolved : Noted.Alike together
      (fun left right => left = (Target.resolve schema subject).value ∧ right = left)
      (Target.resolve schema subject) (Target.resolve schema subject) :=
    Noted.alike_same _ ⟨rfl, rfl⟩
  refine resolved.bind ?_
  rintro _ _ ⟨rfl, rfl⟩
  exact (Scene.alike_condition like bound settled variant).bind fun same =>
    Noted.alike_pure ⟨rfl, same⟩

theorem alike_select {options others : Target.Options} (same : options.Alike others)
    {statement another : Select}
    (selected : select schema subject options expression = .ok statement)
    (found : select schema subject others other = .ok another) :
    statement.Alike alike another := by
  obtain ⟨faultless, rfl⟩ := acceptWithout_eq_ok.1 selected
  obtain ⟨otherFaultless, rfl⟩ := acceptWithout_eq_ok.1 found
  obtain ⟨⟨target, value⟩, anchors, transcript⟩ :=
    (alike_examine like bound settled variant).found faultless otherFaultless
  rw [target]
  exact Target.alike_select like bound schema _ same value anchors transcript

end

end Filter

end CorpusQuery
