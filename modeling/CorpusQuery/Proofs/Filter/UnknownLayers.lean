import CorpusQuery.Proofs.Filter.Predicates
import CorpusQuery.Proofs.Filter.References
import CorpusQuery.Proofs.Problem
import CorpusQuery.Proofs.Schema.Construction

namespace CorpusQuery

/-! Every layer that an expression names and the schema does not have is a problem, as
often as it is named and wherever it stands.  No comparison is settled before the names
in it are looked at, and no value is left out for being put to no use. -/

/-! ### What an expression names -/

namespace Operand

/-- The text that is compared with the id of the row's layer. -/
def besideLayerId? : Operand → Operand → Option String
  | .own .layerId, .text id => some id
  | .text id, .own .layerId => some id
  | _, _ => none

end Operand

namespace Expression

mutual

/-- The layers that an expression names in its functions or compares with the row's, in
order. -/
def named : Expression → List String
  | .or items => namedIn items
  | .and items => namedIn items
  | .not inner => named inner
  | .compare left op right =>
      left.layers ++ (if op.isEquality then (Operand.besideLayerId? left right).toList else []) ++
        right.layers
  | .test _ operand => operand.layers
  | .includes list item => list.layers ++ item.layers
  | .includesAny list items => list.layers ++ items.layers

def namedIn : List Expression → List String
  | [] => []
  | item :: items => named item ++ namedIn items

end

end Expression

namespace Filter

def Subject.named : Subject → List String
  | .layer id => [id]
  | .participants | .transcripts => []

/-- The layers among these that the schema does not have. -/
def missing (schema : Schema) (ids : List String) : List String :=
  ids.filter fun id => (schema.layer? id).isNone

@[simp] theorem missing_nil (schema : Schema) : missing schema [] = [] := rfl

@[simp] theorem missing_append (schema : Schema) (left right : List String) :
    missing schema (left ++ right) = missing schema left ++ missing schema right :=
  List.filter_append ..

namespace Noted

def unknown (found : Noted α) : List String :=
  Problem.unknownLayers found.problems

@[simp] theorem unknown_pure (value : α) : (pure value : Noted α).unknown = [] := rfl

@[simp] theorem unknown_bind (part : Noted α) (next : α → Noted β) :
    (part >>= next).unknown = part.unknown ++ (next part.value).unknown :=
  Problem.unknownLayers_append ..

@[simp] theorem unknown_problem_unknownLayer (id : String) (value : α) :
    (problem (.unknownLayer id) value).unknown = [id] := rfl

@[simp] theorem unknown_problem_notApplicable (construct subject : String) (value : α) :
    (problem (.notApplicable construct subject) value).unknown = [] := rfl

@[simp] theorem unknown_usingAnchors (value : α) : (usingAnchors value).unknown = [] := rfl

@[simp] theorem unknown_usingTranscript (value : α) : (usingTranscript value).unknown = [] := rfl

end Noted

namespace Scene

variable {scene : Scene}

/-! ### Operands -/

@[simp] theorem unknown_notApplicable (scene : Scene) (construct : String) (value : α) :
    (scene.notApplicable construct value).unknown = [] := by
  unfold notApplicable
  split <;> rfl

@[simp] theorem unknown_ownAttribute (attr : Attribute) :
    (scene.ownAttribute attr).unknown = [] := by
  unfold ownAttribute
  split
  · cases attr <;> simp [intervalAttribute]
  · rename_i owner _ _
    cases attr <;> cases owner <;> simp [attributedAttribute]
  · split <;> simp
  · split <;> simp
  · simp

theorem unknown_refer (id : String) : (scene.refer id).unknown = missing scene.schema [id] := by
  unfold refer
  split
  · rename_i absent
    simp [missing, Schema.layer?, absent]
  · rename_i entry known
    have none : missing scene.schema [id] = [] := by
      simp [missing, Schema.layer?, known]
    rw [none]
    split
    · rfl
    · split
      · simp
      · split <;> rfl

theorem unknown_single (operand : Operand) (value : Value) :
    (single operand value).unknown = [] := by
  cases value <;> rfl

theorem unknown_listing (function layer : String) (attr : Attribute) :
    (scene.listing function layer attr).unknown = missing scene.schema [layer] := by
  unfold listing
  rw [Noted.unknown_bind, unknown_refer]
  split
  · simp
  · simp
  · split <;> simp

theorem unknown_firstValue (layer : String) (attr : Attribute) :
    (scene.firstValue layer attr).unknown = missing scene.schema [layer] := by
  unfold firstValue
  rw [Noted.unknown_bind, unknown_refer]
  split
  · simp
  · simp
  · split <;> simp

theorem unknown_annotators (layer : String) :
    (scene.annotators layer).unknown = missing scene.schema [layer] := by
  unfold annotators
  rw [Noted.unknown_bind, unknown_refer]
  split
  · simp
  · split <;> simp
  · split <;> simp

mutual

theorem unknown_value : ∀ operand : Operand,
    (scene.value operand).unknown = missing scene.schema operand.layers
  | .text _ | .integer _ | .number _ | .null => by simp [value, Operand.layers]
  | .own attr => by simp [value, Operand.layers]
  | .first layer attr => by simp [value, Operand.layers, unknown_firstValue]
  | .labels layer | .all layer => by simp [value, Operand.layers, unknown_listing]
  | .annotators layer => by simp [value, Operand.layers, unknown_annotators]
  | .length inner => by simp [value, Operand.layers, unknown_value inner]
  | .list items | .coalesce items => by simp [value, Operand.layers, unknown_scalars items]

theorem unknown_scalars : ∀ items : List Operand,
    (scene.scalars items).unknown = missing scene.schema (Operand.layersOf items)
  | [] => by simp [scalars, Operand.layersOf]
  | item :: items => by
      simp [scalars, Operand.layersOf, unknown_value item, unknown_single, unknown_scalars items]

end

theorem unknown_scalar (operand : Operand) :
    (scene.scalar operand).unknown = missing scene.schema operand.layers := by
  simp [scalar, unknown_value, unknown_single]

/-! ### Predicates -/

@[simp] theorem unknown_isOneOf (storage : Storage) (layer : String) (uids : List String)
    (negated : Bool) : (isOneOf storage layer uids negated).unknown = [] := by
  simp [isOneOf, Noted.unknown, Problem.unknownLayers, Problem.unknownLayer?]

@[simp] theorem unknown_isChildOf (subject uid : String) (negated : Bool) :
    (scene.isChildOf subject uid negated).unknown = [] := by
  unfold isChildOf
  simp only
  split <;> rfl

theorem unknown_isOfLayer (id : String) (negated : Bool) :
    (scene.isOfLayer id negated).unknown = missing scene.schema [id] := by
  by_cases absent : (scene.schema.layer? id).isNone <;>
    cases known : scene.target.layerId? <;> simp [isOfLayer, missing, absent, known]

theorem unknown_plainCompare (left : Operand) (op : Comparison) (right : Operand) :
    (scene.plainCompare left op right).unknown =
      missing scene.schema (left.layers ++ right.layers) := by
  simp [plainCompare, unknown_scalar]

theorem unknown_nullTest (operand : Operand) (negated : Bool) :
    (scene.nullTest operand negated).unknown = missing scene.schema operand.layers := by
  simp [nullTest, unknown_scalar]

/-- An attribute and a text name no layer in a function. -/
theorem layers_of_attributeAndText? {left right : Operand} {attr : Attribute} {text : String}
    (found : attributeAndText? left right = some (attr, text)) :
    left.layers = [] ∧ right.layers = [] ∧
      left.besideLayerId? right = if attr = .layerId then some text else none := by
  unfold attributeAndText? at found
  split at found
  · cases found
    cases attr <;> simp [Operand.layers, Operand.besideLayerId?]
  · cases found
    cases attr <;> simp [Operand.layers, Operand.besideLayerId?]
  · contradiction

/-- What is not settled is compared with no layer's id. -/
theorem named_of_inlined_eq_nil {left right : Operand} {op : Comparison}
    (bound : scene.inlined (.compare left op right) = []) :
    (Expression.compare left op right).named = left.layers ++ right.layers := by
  have none : (if op.isEquality then (left.besideLayerId? right).toList else []) = [] := by
    split
    · rename_i equality
      unfold Operand.besideLayerId?
      split
      · simp [inlined, equality, attributeAndText?] at bound
      · simp [inlined, equality, attributeAndText?] at bound
      · rfl
    · rfl
  rw [Expression.named, none, List.append_nil]

theorem layers_of_besideNull? {left right operand : Operand}
    (found : besideNull? left right = some operand) :
    left.layers ++ right.layers = operand.layers := by
  unfold besideNull? at found
  split at found
  · cases found
    simp [Operand.layers]
  · cases found
    simp [Operand.layers]
  · contradiction

theorem unknown_compare (left : Operand) (op : Comparison) (right : Operand) :
    (scene.compare left op right).unknown =
      missing scene.schema (Expression.compare left op right).named := by
  have ways : Comparing scene left op right (scene.compare left op right) := comparing_compare
  generalize scene.compare left op right = result at ways
  cases ways with
  | ofLayer equality settled =>
      obtain ⟨noLeft, noRight, named⟩ := layers_of_attributeAndText? settled
      simp [unknown_isOfLayer, Expression.named, equality, noLeft, noRight, named]
  | oneOf equality settled stored known =>
      obtain ⟨noLeft, noRight, named⟩ := layers_of_attributeAndText? settled
      simp [Expression.named, noLeft, noRight, named]
  | childOf equality settled inTime =>
      obtain ⟨noLeft, noRight, named⟩ := layers_of_attributeAndText? settled
      simp [Expression.named, noLeft, noRight, named]
  | null equality beside bound =>
      rw [unknown_nullTest, named_of_inlined_eq_nil bound, layers_of_besideNull? beside]
  | plain other bound =>
      rw [unknown_plainCompare, named_of_inlined_eq_nil bound]

theorem layers_of_idList? {list item : Operand} {uids : List String}
    (settled : idList? list item = some uids) : list.layers = [] ∧ item.layers = [] := by
  obtain ⟨rfl, rfl⟩ := idList?_eq_some.1 settled
  have none (uids : List String) : Operand.layersOf (uids.map .text) = [] := by
    induction uids with
    | nil => rfl
    | cons first rest ih => simp [Operand.layersOf, Operand.layers, ih]
  exact ⟨none uids, rfl⟩

theorem unknown_test (pattern : String) (operand : Operand) (negated : Bool) :
    (scene.test pattern operand negated).unknown = missing scene.schema operand.layers := by
  simp [test, unknown_value]

theorem unknown_plainIncludes (list item : Operand) :
    (scene.plainIncludes list item).unknown =
      missing scene.schema (list.layers ++ item.layers) := by
  simp only [plainIncludes, Noted.unknown_bind, unknown_value, unknown_scalar, missing_append]
  split <;> simp

theorem unknown_includes (list item : Operand) :
    (scene.includes list item).unknown = missing scene.schema (list.layers ++ item.layers) := by
  have ways : Including scene list item (scene.includes list item) := including_includes
  generalize scene.includes list item = result at ways
  cases ways with
  | oneOf settled stored known =>
      obtain ⟨noList, noItem⟩ := layers_of_idList? settled
      simp [noList, noItem]
  | plain bound => exact unknown_plainIncludes list item

theorem unknown_includesAny (list items : Operand) :
    (scene.includesAny list items).unknown =
      missing scene.schema (list.layers ++ items.layers) := by
  simp [includesAny, unknown_value]

/-! ### Expressions -/

mutual

theorem unknown_condition : ∀ expression : Expression,
    (scene.condition expression).unknown = missing scene.schema expression.named
  | .or items => by simp [condition, Expression.named, unknown_conditions items]
  | .and items => by simp [condition, Expression.named, unknown_conditions items]
  | .not inner => by
      have inside := unknown_condition inner
      cases inner with
      | test pattern operand => simp [condition, Expression.named, unknown_test]
      | _ => simpa [condition, Expression.named] using inside
  | .compare left op right => by simp [condition, unknown_compare]
  | .test pattern operand => by simp [condition, Expression.named, unknown_test]
  | .includes list item => by simp [condition, Expression.named, unknown_includes]
  | .includesAny list items => by simp [condition, Expression.named, unknown_includesAny]

theorem unknown_conditions : ∀ items : List Expression,
    (scene.conditions items).unknown = missing scene.schema (Expression.namedIn items)
  | [] => by simp [conditions, Expression.namedIn]
  | item :: items => by
      simp [conditions, Expression.namedIn, unknown_condition item, unknown_conditions items]

end

theorem problems_conditions (items : List Expression) :
    (scene.conditions items).problems =
      items.flatMap fun item => (scene.condition item).problems := by
  induction items with
  | nil => rfl
  | cons item rest ih => simp [conditions, ih]

end Scene

/-! ### Reports -/

theorem Target.unknown_resolve (schema : Schema) (subject : Subject) :
    (Target.resolve schema subject).unknown = missing schema subject.named := by
  cases subject with
  | layer id =>
      change (resolveLayer schema id).unknown = missing schema [id]
      unfold resolveLayer
      split
      all_goals
        rename_i known
        simp [missing, Schema.layer?, known]
  | participants => rfl
  | transcripts => rfl

section

variable (schema : Schema) (subject : Subject) (options : Target.Options)

theorem unknown_examine (expression : Expression) :
    (examine schema subject expression).unknown =
      missing schema (subject.named ++ expression.named) := by
  simp [examine, Target.unknown_resolve, Scene.unknown_condition]

theorem problems_examine (expression : Expression) :
    (examine schema subject expression).problems =
      (Target.resolve schema subject).problems ++
        (Scene.condition ⟨schema, (Target.resolve schema subject).value⟩ expression).problems := by
  simp [examine]

theorem reported_select (expression : Expression) :
    reported (select schema subject options expression) =
      (examine schema subject expression).problems.eraseDups :=
  reported_acceptWithout ..

/-- The problems of a list of expressions are those of each for itself. -/
theorem eraseDups_flatMap_reported {items : List Expression} (some : items ≠ []) :
    (items.flatMap fun item => reported (select schema subject options item)).eraseDups =
      ((Target.resolve schema subject).problems ++
        (Scene.conditions ⟨schema, (Target.resolve schema subject).value⟩
          items).problems).eraseDups := by
  rw [Scene.problems_conditions, ← eraseDups_flatMap_append _ _ some]
  simp only [reported_select, problems_examine]

/-- All problems of an expression are reported, each of them once.  Those that concern
layers are exactly the layers that the subject and the expression name and the schema
does not have, in the order in which they are first named, and those of a conjunction or
disjunction are those of its parts, one part after the other. -/
theorem unknown_layers_reported (expression : Expression) :
    let named := subject.named ++ expression.named
    let outcome := select schema subject options expression
    (∀ id ∈ named, schema.layer? id = none → ∃ problems, outcome = .error (.invalid problems)) ∧
      Problem.unknownLayers (reported outcome) = (missing schema named).eraseDups ∧
      (reported outcome).Nodup ∧
      ∀ items, items ≠ [] →
        reported (select schema subject options (.and items)) =
            (items.flatMap fun item => reported (select schema subject options item)).eraseDups ∧
          reported (select schema subject options (.or items)) =
            (items.flatMap fun item => reported (select schema subject options item)).eraseDups := by
  intro named outcome
  have unknown : Problem.unknownLayers (examine schema subject expression).problems =
      missing schema named := unknown_examine schema subject expression
  refine ⟨?_, ?_, ?_, ?_⟩
  · intro id member absent
    have inMissing : id ∈ missing schema named :=
      List.mem_filter.2 ⟨member, by rw [absent]; rfl⟩
    have some : (examine schema subject expression).problems ≠ [] := by
      intro none
      rw [← unknown, none] at inMissing
      contradiction
    exact ⟨_, acceptWithout_eq_error some⟩
  · rw [reported_select, Problem.unknownLayers_eraseDups, unknown]
  · rw [reported_select]
    exact nodup_eraseDups _
  · intro items some
    rw [eraseDups_flatMap_reported schema subject options some, reported_select, reported_select,
      problems_examine, problems_examine]
    simp [Scene.condition]

end

/-! ### Layers that no schema has, named by a subject, two functions and a comparison -/

namespace Strayed

def expression : Expression :=
  .and
    [.not (.compare (.length (.coalesce [.first "tone" .label, .first "word" .id])) .eq .null),
      .or [.compare (.text "gesture") .strictNe (.own .layerId),
        .includes (.list [.labels "tone", .text "a"]) (.annotators "topic")]]

end Strayed

theorem strayed_reported :
    (∃ problems, select Schema.wordsOnly (.layer "topic") {} Strayed.expression =
        .error (.invalid problems)) ∧
      Problem.unknownLayers (reported (select Schema.wordsOnly (.layer "topic") {}
        Strayed.expression)) = ["topic", "tone", "gesture"] := by
  obtain ⟨fails, unknown, _, _⟩ :=
    unknown_layers_reported Schema.wordsOnly (.layer "topic") {} Strayed.expression
  refine ⟨fails "tone" (by decide) rfl, unknown.trans ?_⟩
  decide

end Filter

end CorpusQuery
