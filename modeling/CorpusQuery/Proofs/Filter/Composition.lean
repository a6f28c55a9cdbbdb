import CorpusQuery.Proofs.Expression.Shape
import CorpusQuery.Proofs.Filter.Literals
import CorpusQuery.Proofs.Filter.Relations

namespace CorpusQuery.Filter

/-! Whatever an expression is made of, its condition is a term where the rows are known that
are asked for on the way. -/

open Sql

namespace Scene

variable {scene : Scene} {known : List String} {gaps : Prop}

section

variable (resolved : scene.target ≠ .unresolved) (subject : scene.target.row.1 ∈ known)

include resolved subject

/-! ### Operands -/

/-- What a layer function is about once it is no problem. -/
def IsComposedReference (scene : Scene) (gaps : Prop) (known : List String) : Reference → Prop
  | .subject => True
  | .other entry related =>
      related.IsComposed scene.target gaps known ∧ related.rows.rows = relatedRows entry.storage
  | .none => False

theorem finds_refer (layer : String) :
    scene.Finds known (scene.IsComposedReference gaps known) (scene.refer layer) := by
  unfold refer
  split
  · exact .problem _ _
  · rename_i entry _
    split
    · exact .pure trivial
    · split
      · exact .notApplicable resolved _ _
      · rename_i related found
        split
        · rename_i inTime
          obtain ⟨-, isInterval⟩ := Bool.and_eq_true_iff.1 inTime
          exact .usingAnchors fun both =>
            isComposed_related? resolved subject found fun _ => both
        · rename_i other
          refine .pure (isComposed_related? resolved subject found fun temporal inTime => ?_)
          exact absurd (Bool.and_eq_true_iff.2 ⟨temporal, inTime⟩) other

variable (gaps) in
/-- A layer function is about the subject itself, or about rows that are composed. -/
theorem finds_referred (layer : String) {holds : α → Prop} {function : Reference → Noted α}
    (own : scene.Finds known holds (function .subject))
    (others : ∀ (entry : Entry) (related : Related), related.IsComposed scene.target gaps known →
      relatedRows entry.storage ⊆ related.rows.rows ++ known →
        scene.Finds known holds (function (.other entry related))) :
    scene.Finds known holds (scene.refer layer >>= function) := by
  have referred : scene.Finds known (scene.IsComposedReference gaps known) (scene.refer layer) :=
    finds_refer resolved subject layer
  refine referred.bind fun reference composed => ?_
  cases reference with
  | none => exact composed.elim
  | subject => exact own
  | other entry related =>
      exact others entry related composed.1 (composed.2 ▸ List.subset_append_left ..)

theorem finds_listing (function layer : String) (attr : Attribute) :
    scene.Finds known
      (fun value => value.IsComposed scene.target gaps known ∧ value ≠ .literals [])
      (scene.listing function layer attr) := by
  refine finds_referred gaps resolved subject layer ?_ fun entry related rows inside => ?_
  · exact (finds_ownAttribute resolved subject attr).bind fun own term =>
      .pure ⟨List.forall_mem_singleton.2 term, by simp⟩
  · dsimp only
    split
    · rename_i column found
      exact .pure ⟨⟨rows, isTerm_relatedColumn? inside found⟩, by simp⟩
    · exact .notApplicable_bind resolved _ _ _

theorem finds_firstValue (layer : String) (attr : Attribute) :
    scene.Finds known
      (fun value => value.IsComposed scene.target gaps known ∧ value ≠ .literals [])
      (scene.firstValue layer attr) := by
  refine finds_referred gaps resolved subject layer ?_ fun entry related rows inside => ?_
  · exact (finds_ownAttribute resolved subject attr).bind fun own term => .pure ⟨term, by simp⟩
  · dsimp only
    split
    · rename_i column found
      exact .pure ⟨rows.first (isTerm_relatedColumn? inside found), by simp⟩
    · exact .notApplicable_bind resolved _ _ _

theorem finds_annotators (layer : String) :
    scene.Finds known
      (fun value => value.IsComposed scene.target gaps known ∧ value ≠ .literals [])
      (scene.annotators layer) := by
  refine finds_referred gaps resolved subject layer ?_ fun entry related rows inside => ?_
  · dsimp only
    split
    · exact .notApplicable_bind resolved _ _ _
    · exact .notApplicable_bind resolved _ _ _
    · rename_i noParticipants noTranscripts
      have annotated : scene.target.row.1 = "annotation" := by
        cases about : scene.target with
        | intervals layer scope table => rfl
        | attributed layer owner name => cases owner <;> rfl
        | participants layer mainOnly => exact absurd about (noParticipants layer mainOnly)
        | transcripts => exact absurd about noTranscripts
        | unresolved => exact absurd about resolved
      exact .pure ⟨List.forall_mem_singleton.2 (.column (annotated ▸ subject) (by decide)),
        by simp⟩
  · dsimp only
    split
    · exact .notApplicable_bind resolved _ _ _
    · exact .pure ⟨⟨rows, .column (inside (related_mem_relatedRows _)) (by decide)⟩, by simp⟩

omit resolved subject in
theorem finds_single (operand : Operand) {value : Value}
    (composed : value.IsComposed scene.target gaps known) :
    scene.Finds known (IsTerm gaps scene.target.Allows known) (single operand value) := by
  cases value with
  | scalar fragment => exact .pure composed
  | literals items => exact .problem _ _
  | rows related column => exact .problem _ _

/-- Only a list without items is a list of nothing. -/
def IsComposedValue (scene : Scene) (gaps : Prop) (known : List String) (operand : Operand)
    (value : Value) : Prop :=
  value.IsComposed scene.target gaps known ∧ (value = .literals [] → operand = .list [])

variable (gaps)

omit resolved subject in
mutual

theorem finds_value (resolved : scene.target ≠ .unresolved)
    (subject : scene.target.row.1 ∈ known) : ∀ operand : Operand, operand.Built →
    scene.Finds known (scene.IsComposedValue gaps known operand) (scene.value operand)
  | .text _, _ => .pure ⟨.bound _, by simp⟩
  | .integer _, _ => .pure ⟨.bound _, by simp⟩
  | .number _, _ => .pure ⟨.bound _, by simp⟩
  | .null, _ => .pure ⟨isTerm_nothing, by simp⟩
  | .list items, built => by
      rw [value]
      refine (finds_scalars resolved subject items built).bind fun fragments found =>
        .pure ⟨found.1, fun none => ?_⟩
      rw [found.2 (Value.literals.inj none)]
  | .own attr, _ => by
      rw [value]
      exact (finds_ownAttribute resolved subject attr).bind fun own term => .pure ⟨term, by simp⟩
  | .first layer attr, _ => by
      rw [value]
      exact (finds_firstValue resolved subject layer attr).imp fun _ found =>
        found.imp_right fun some none => absurd none some
  | .labels layer, _ => by
      rw [value]
      exact (finds_listing resolved subject _ layer _).imp fun _ found =>
        found.imp_right fun some none => absurd none some
  | .all layer, _ => by
      rw [value]
      exact (finds_listing resolved subject _ layer _).imp fun _ found =>
        found.imp_right fun some none => absurd none some
  | .annotators layer, _ => by
      rw [value]
      exact (finds_annotators resolved subject layer).imp fun _ found =>
        found.imp_right fun some none => absurd none some
  | .length inner, built => by
      rw [value]
      exact (finds_value resolved subject inner built).bind fun own found =>
        .pure ⟨isTerm_size found.1, by simp⟩
  | .coalesce items, built => by
      rw [value]
      refine (finds_scalars resolved subject items built.2).bind fun fragments found =>
        .pure ⟨?_, by simp⟩
      refine isTerm_apply (by decide) (isTerm_commaList (fun none => ?_) found.1)
      exact absurd built.1 (by simp [found.2 none])

theorem finds_scalars (resolved : scene.target ≠ .unresolved)
    (subject : scene.target.row.1 ∈ known) : ∀ items : List Operand, Operand.BuiltAll items →
    scene.Finds known
      (fun fragments => (∀ fragment ∈ fragments, IsTerm gaps scene.target.Allows known fragment) ∧
        (fragments = [] → items = []))
      (scene.scalars items)
  | [], _ => .pure ⟨List.forall_mem_nil _, fun _ => rfl⟩
  | item :: items, built => by
      rw [scalars]
      refine (finds_value resolved subject item built.1).bind fun value found => ?_
      refine (finds_single item found.1).bind fun first term => ?_
      exact (finds_scalars resolved subject items built.2).bind fun others terms =>
        .pure ⟨List.forall_mem_cons.2 ⟨term, terms.1⟩, by simp⟩

end

theorem finds_scalar {operand : Operand} (built : operand.Built) :
    scene.Finds known (IsTerm gaps scene.target.Allows known) (scene.scalar operand) :=
  (finds_value gaps resolved subject operand built).bind fun _ found => finds_single operand found.1

/-! ### Predicates -/

omit resolved subject

theorem row_of_storage? {target : Target} {storage : Storage}
    (stored : target.storage? = some storage) : target.row.1 = "annotation" := by
  cases target with
  | intervals layer scope table => rfl
  | attributed layer owner name => cases owner <;> rfl
  | _ => contradiction

theorem finds_isOneOf (annotated : "annotation" ∈ known) (storage : Storage) (layer : String)
    (uids : List String) (negated : Bool) :
    scene.Finds known (IsTerm gaps scene.target.Allows known)
      (isOneOf storage layer uids negated) := by
  refine fun _ => ⟨?_, nofun⟩
  have number : IsName "annotation" ∧ IsName "annotation_id" := by decide
  unfold isOneOf
  dsimp only
  generalize numbersOf storage uids = numbers
  cases numbers with
  | nil => cases negated <;> exact .words (by decide)
  | cons first rest =>
      cases rest with
      | nil =>
          cases negated
          · exact isTerm_equals annotated number (isTerm_number first)
          · exact isTerm_compared annotated number (by decide) (by decide) (isTerm_number first)
      | cons second more =>
          have listed : IsTerm gaps scene.target.Allows known
              (numberList (first :: second :: more)).parenthesized :=
            .enclosed (isTerm_commaList (List.cons_ne_nil _ _)
              (List.forall_mem_map.2 fun number _ => isTerm_number number))
          cases negated
          · exact isTerm_compared annotated number (by decide) (by decide) listed
          · exact isTerm_compared annotated number (by decide) (by decide) listed

include resolved subject

omit subject in
theorem finds_isOfLayer (id : String) (negated : Bool) :
    scene.Finds known (IsTerm gaps scene.target.Allows known) (scene.isOfLayer id negated) := by
  have marked {text : String} (still : Fragment.IsStill [.words text])
      (apart : Fragment.Separates [.words text]) (subject : String) :
      IsTerm gaps scene.target.Allows known [.marker subject, .words text, .marker id] :=
    .between still apart (.marker subject) (.marker id)
  by_cases present : (scene.schema.layer? id).isSome
  · rw [isOfLayer_of_present present]
    split
    · exact .notApplicable resolved _ _
    · cases negated
      · exact .pure (marked (by decide) (by decide) _)
      · exact .pure (marked (by decide) (by decide) _)
  · exact fun admits => absurd (present_of_isOfLayer admits.faultless) present

omit resolved in
theorem finds_isChildOf (annotated : scene.target.row.1 = "annotation") (layer uid : String)
    (negated : Bool) :
    scene.Finds known (IsTerm gaps scene.target.Allows known)
      (scene.isChildOf layer uid negated) := by
  have isKnown : "annotation" ∈ known := annotated ▸ subject
  have named : IsName "annotation" ∧ IsName "parent_id" := by decide
  unfold isChildOf
  dsimp only
  split
  · cases negated
    · exact .pure (isTerm_equals isKnown named (isTerm_number _))
    · exact .pure (isTerm_compared isKnown named (by decide) (by decide) (isTerm_number _))
  · exact .problem _ _

theorem finds_plainCompare {left right : Operand} (leftBuilt : left.Built)
    (rightBuilt : right.Built) (op : Comparison) :
    scene.Finds known (IsTerm gaps scene.target.Allows known)
      (scene.plainCompare left op right) := by
  have between : Fragment.IsStill [.words (operator op)] ∧
      Fragment.Separates [.words (operator op)] := by
    cases op <;> decide
  refine (finds_scalar gaps resolved subject leftBuilt).bind fun first leftTerm => ?_
  refine (finds_scalar gaps resolved subject rightBuilt).bind fun second rightTerm => .pure ?_
  have whole := IsTerm.between between.1 between.2 leftTerm rightTerm
  rwa [List.append_assoc] at whole

theorem finds_nullTest {operand : Operand} (built : operand.Built) (negated : Bool) :
    scene.Finds known (IsTerm gaps scene.target.Allows known) (scene.nullTest operand negated) := by
  have behind : ∀ negated : Bool,
      Fragment.IsStill [.words (if negated then " IS NOT NULL" else " IS NULL")] ∧
        Fragment.Trails [.words (if negated then " IS NOT NULL" else " IS NULL")] := by
    decide
  exact (finds_scalar gaps resolved subject built).bind fun value term =>
    .pure (.before (behind negated).1 (behind negated).2 term)

theorem finds_compare {left right : Operand} (leftBuilt : left.Built) (rightBuilt : right.Built)
    (op : Comparison) :
    scene.Finds known (IsTerm gaps scene.target.Allows known) (scene.compare left op right) := by
  have ways : Comparing scene left op right (scene.compare left op right) := comparing_compare
  generalize scene.compare left op right = result at ways ⊢
  cases ways with
  | ofLayer => exact finds_isOfLayer gaps resolved _ _
  | oneOf _ _ stored _ => exact finds_isOneOf gaps (row_of_storage? stored ▸ subject) _ _ _ _
  | childOf _ _ inTime => exact finds_isChildOf gaps subject (by rw [inTime]; rfl) _ _ _
  | null _ beside _ =>
      refine finds_nullTest gaps resolved subject ?_ _
      unfold besideNull? at beside
      split at beside
      · exact Option.some.inj beside ▸ leftBuilt
      · exact Option.some.inj beside ▸ rightBuilt
      · contradiction
  | plain => exact finds_plainCompare gaps resolved subject leftBuilt rightBuilt op

/-- Only a list without items leaves nothing to match. -/
theorem finds_test (pattern : String) {operand : Operand} (built : operand.Built)
    (empty : operand = .list [] → gaps) (negated : Bool) :
    scene.Finds known (IsTerm gaps scene.target.Allows known)
      (scene.test pattern operand negated) :=
  (finds_value gaps resolved subject operand built).bind fun _ found =>
    .pure (isTerm_matching pattern negated found.1 fun none => empty (found.2 none))

theorem finds_plainIncludes {list item : Operand} (listBuilt : list.Built)
    (itemBuilt : item.Built) :
    scene.Finds known (IsTerm gaps scene.target.Allows known) (scene.plainIncludes list item) := by
  refine (finds_value gaps resolved subject list listBuilt).bind fun whole found => ?_
  refine (finds_scalar gaps resolved subject itemBuilt).bind fun single term => ?_
  obtain ⟨composed, -⟩ := found
  cases whole with
  | scalar text =>
      have apart : Fragment.Separates [.words ", "] := by decide
      have trails : Fragment.Trails [.words " > 0"] := by decide
      have both := IsTerm.between (by decide) apart composed term
      rw [List.append_assoc] at both
      exact .pure (.before (by decide) trails (isTerm_apply (by decide) both))
  | literals items => exact .pure (isTerm_membership term composed)
  | rows related column => exact .pure (isTerm_membership term composed)

theorem finds_includes {list item : Operand} (listBuilt : list.Built) (itemBuilt : item.Built) :
    scene.Finds known (IsTerm gaps scene.target.Allows known) (scene.includes list item) := by
  have ways : Including scene list item (scene.includes list item) := including_includes
  generalize scene.includes list item = result at ways ⊢
  cases ways with
  | oneOf _ stored _ => exact finds_isOneOf gaps (row_of_storage? stored ▸ subject) _ _ _ _
  | plain => exact finds_plainIncludes gaps resolved subject listBuilt itemBuilt

theorem finds_includesAny {list items : Operand} (listBuilt : list.Built)
    (itemsBuilt : items.Built) :
    scene.Finds known (IsTerm gaps scene.target.Allows known) (scene.includesAny list items) :=
  (finds_value gaps resolved subject list listBuilt).bind fun _ first =>
    (finds_value gaps resolved subject items itemsBuilt).bind fun _ second =>
      .pure (isTerm_commonMember first.1 second.1)

/-! ### Expressions -/

omit resolved subject in
mutual

theorem finds_condition (resolved : scene.target ≠ .unresolved)
    (subject : scene.target.row.1 ∈ known) : ∀ expression : Expression, expression.Built →
    (∀ pattern, .test pattern (.list []) ∈ expression.predicates → gaps) →
    scene.Finds known (fun found => IsTerm gaps scene.target.Allows known found.fragment)
      (scene.condition expression)
  | .or items, built, empty => by
      rw [condition]
      refine (finds_conditions resolved subject items built.2 empty).bind fun parts found =>
        .pure ?_
      refine isTerm_disjunction (fun none => ?_) found.1
      exact absurd built.1 (by simp [found.2 none])
  | .and items, built, empty => by
      rw [condition]
      refine (finds_conditions resolved subject items built.2 empty).bind fun parts found =>
        .pure ?_
      refine isTerm_join (by decide) (by decide) (fun none => ?_) found.1
      exact absurd built.1 (by simp [found.2 none])
  | .not inner, built, empty => by
      have whole := finds_condition resolved subject inner built empty
      -- A test has its negation in its own text; anything else is enclosed.
      cases inner with
      | test pattern operand =>
          have nothing (none : operand = .list []) : gaps :=
            empty pattern (none ▸ List.mem_singleton_self _)
          exact (finds_test gaps resolved subject pattern built.2 nothing true).bind
            fun _ term => .pure term
      | _ =>
          rw [condition]
          · exact whole.bind fun part term => .pure (isTerm_not (.enclosed term))
          · nofun
  | .compare left op right, built, _ => by
      rw [condition]
      exact (finds_compare gaps resolved subject built.1 built.2 op).bind fun _ term => .pure term
  | .test pattern operand, built, empty => by
      have nothing (none : operand = .list []) : gaps :=
        empty pattern (none ▸ List.mem_singleton_self _)
      rw [condition]
      exact (finds_test gaps resolved subject pattern built.2 nothing false).bind
        fun _ term => .pure term
  | .includes list item, built, _ => by
      rw [condition]
      exact (finds_includes gaps resolved subject built.1 built.2).bind fun _ term => .pure term
  | .includesAny list items, built, _ => by
      rw [condition]
      exact (finds_includesAny gaps resolved subject built.1 built.2).bind fun _ term => .pure term

theorem finds_conditions (resolved : scene.target ≠ .unresolved)
    (subject : scene.target.row.1 ∈ known) : ∀ items : List Expression, Expression.BuiltAll items →
    (∀ pattern, .test pattern (.list []) ∈ Expression.predicatesOf items → gaps) →
    scene.Finds known
      (fun found => (∀ fragment ∈ Condition.fragments found,
        IsTerm gaps scene.target.Allows known fragment) ∧
          (Condition.fragments found = [] → items = []))
      (scene.conditions items)
  | [], _, _ => .pure ⟨List.forall_mem_nil _, fun _ => rfl⟩
  | item :: items, built, empty => by
      rw [conditions]
      refine (finds_condition resolved subject item built.1 fun pattern member =>
        empty pattern (List.mem_append_left _ member)).bind fun first term => ?_
      refine (finds_conditions resolved subject items built.2 fun pattern member =>
        empty pattern (List.mem_append_right _ member)).bind fun others terms => .pure ?_
      exact ⟨List.forall_mem_cons.2 ⟨term, terms.1⟩, by simp [Condition.fragments]⟩

end

end

end Scene

end CorpusQuery.Filter
