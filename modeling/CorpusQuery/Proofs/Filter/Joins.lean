import CorpusQuery.Proofs.Filter.Correlation

namespace CorpusQuery

/-! The anchors and the transcript of the subject's row are joined to it exactly if the order
of the rows or the expression asks for them, wherever in the expression that is. -/

open Sql

/-! ### What an expression asks for -/

namespace Attribute

/-- The attributes that are read off the anchors of a row. -/
def ofAnchors : List Attribute :=
  [.startOffset, .endOffset, .startConfidence, .endConfidence]

end Attribute

namespace Operand

mutual

/-- The attributes of a layer's row that an operand has, by themselves or as those of the
layer's first row, in order. -/
def asked (layer : String) : Operand → List Attribute
  | .own attr => [attr]
  | .first other attr => if other = layer then [attr] else []
  | .length inner => asked layer inner
  | .list items => askedOf layer items
  | .coalesce items => askedOf layer items
  | _ => []

def askedOf (layer : String) : List Operand → List Attribute
  | [] => []
  | item :: items => asked layer item ++ askedOf layer items

end

theorem askedOf_texts (layer : String) (texts : List String) :
    askedOf layer (texts.map .text) = [] := by
  induction texts with
  | nil => rfl
  | cons first rest ih => simp [askedOf, asked, ih]

end Operand

namespace Expression

mutual

def asked (layer : String) : Expression → List Attribute
  | .or items => askedOf layer items
  | .and items => askedOf layer items
  | .not inner => asked layer inner
  | .compare left _ right => left.asked layer ++ right.asked layer
  | .test _ operand => operand.asked layer
  | .includes list item => list.asked layer ++ item.asked layer
  | .includesAny list items => list.asked layer ++ items.asked layer

def askedOf (layer : String) : List Expression → List Attribute
  | [] => []
  | item :: items => asked layer item ++ askedOf layer items

end

end Expression

namespace Filter

/-! ### What is found out on the way -/

/-- The rows of a layer other than the subject's have anchors. -/
def Reaches (schema : Schema) (subject other : String) : Prop :=
  other ≠ subject ∧ ∃ storage, schema.storage? other = some storage ∧ storage.isTemporal

/-- The anchors and the transcript are asked for on account of some attributes of the
subject's row and some layers, and of nothing else.  What an attribute asks for does not
matter where it is a problem. -/
@[mk_iff]
structure Scene.Needs (scene : Scene) (subject : String) (found : Noted α)
    (attrs : List Attribute) (layers : List String) : Prop where
  anchors : found.anchors = true ↔ scene.target.isInterval = true ∧
    ((∃ attr ∈ attrs, attr ∈ Attribute.ofAnchors) ∨
      ∃ other ∈ layers, Reaches scene.schema subject other)
  transcript : found.problems = [] → (found.transcript = true ↔ .graphId ∈ attrs ∨
    .parentId ∈ attrs ∧ ∃ name, scene.target.storage? = some (.attributed .transcript name))

namespace Scene

variable {scene : Scene} {id : String}

namespace Needs

theorem of_nothing {found : Noted α} (noAnchors : found.anchors = false)
    (noTranscript : found.transcript = false) : scene.Needs id found [] [] where
  anchors := by simp [noAnchors]
  transcript _ := by simp [noTranscript]

theorem pure (value : α) : scene.Needs id (pure value) [] [] :=
  of_nothing rfl rfl

variable {part : Noted α} {attrs others : List Attribute} {layers more : List String}

theorem bind {next : α → Noted β} (first : scene.Needs id part attrs layers)
    (rest : scene.Needs id (next part.value) others more) :
    scene.Needs id (part >>= next) (attrs ++ others) (layers ++ more) where
  anchors := by
    have both : (part >>= next).anchors = true ↔
        part.anchors = true ∨ (next part.value).anchors = true := Bool.or_eq_true_iff
    rw [both, first.anchors, rest.anchors]
    simp only [List.mem_append, or_and_right, exists_or]
    rw [← and_or_left, or_or_or_comm]
  transcript faultless := by
    obtain ⟨here, later⟩ := List.append_eq_nil_iff.1 faultless
    have both : (part >>= next).transcript = true ↔
        part.transcript = true ∨ (next part.value).transcript = true := Bool.or_eq_true_iff
    rw [both, first.transcript here, rest.transcript later]
    simp only [List.mem_append, or_and_right]
    exact or_or_or_comm

theorem bind_of_nothing {next : α → Noted β} (needs : scene.Needs id part attrs layers)
    (rest : scene.Needs id (next part.value) [] []) :
    scene.Needs id (part >>= next) attrs layers := by
  have both := needs.bind rest
  rwa [List.append_nil, List.append_nil] at both

theorem map (needs : scene.Needs id part attrs layers) (f : α → β) :
    scene.Needs id (part >>= fun value => Pure.pure (f value)) attrs layers :=
  needs.bind_of_nothing (pure _)

/-- An attribute that is not read off the anchors and has nothing to do with the graph asks for
nothing. -/
theorem cons_iff_of_idle {attr : Attribute} (noAnchor : attr ∉ Attribute.ofAnchors)
    (notGraph : attr ≠ .graphId)
    (noParent : attr = .parentId → ∀ name,
      scene.target.storage? ≠ some (.attributed .transcript name)) :
    scene.Needs id part (attr :: attrs) layers ↔ scene.Needs id part attrs layers := by
  have anchors : (∃ other ∈ attr :: attrs, other ∈ Attribute.ofAnchors) ↔
      ∃ other ∈ attrs, other ∈ Attribute.ofAnchors := by
    simp [noAnchor]
  have graph : .graphId ∈ attr :: attrs ↔ .graphId ∈ attrs := by
    simp [Ne.symm notGraph]
  have parent : (.parentId ∈ attr :: attrs ∧
        ∃ name, scene.target.storage? = some (.attributed .transcript name)) ↔
      .parentId ∈ attrs ∧ ∃ name, scene.target.storage? = some (.attributed .transcript name) := by
    refine and_congr_left fun ⟨name, stored⟩ => ?_
    rw [List.mem_cons]
    exact or_iff_right fun same => noParent same.symm name stored
  rw [needs_iff, needs_iff, anchors, graph, parent]

end Needs

/-! ### Operands -/

theorem needs_notApplicable (construct : String) (value : α) :
    scene.Needs id (scene.notApplicable construct value) [] [] := by
  unfold notApplicable
  split <;> exact .of_nothing rfl rfl

theorem needs_single (operand : Operand) (value : Value) :
    scene.Needs id (single operand value) [] [] := by
  cases value <;> exact .of_nothing rfl rfl

theorem asked_of_attributeAndText? {left right : Operand} {attr : Attribute} {text : String}
    (found : attributeAndText? left right = some (attr, text)) :
    left.asked id ++ right.asked id = [attr] := by
  unfold attributeAndText? at found
  split at found
  · cases found
    rfl
  · cases found
    rfl
  · contradiction

theorem asked_of_besideNull? {left right operand : Operand}
    (found : besideNull? left right = some operand) :
    left.asked id ++ right.asked id = operand.asked id := by
  unfold besideNull? at found
  split at found
  · cases found
    exact List.append_nil _
  · cases found
    rfl
  · contradiction

theorem related?_ne_none {storage : Storage} (inTime : scene.target.isInterval)
    (temporal : storage.isTemporal) : scene.related? storage ≠ none := by
  cases storage with
  | temporal scope table => simp [related?, ofInterval?, inTime]
  | attributed owner name => contradiction
  | entity kind => contradiction

section

variable (own : scene.target.layerId? = some id)

include own

theorem needs_ownAttribute (attr : Attribute) :
    scene.Needs id (scene.ownAttribute attr) [attr] [] := by
  obtain ⟨schema, target⟩ := scene
  cases target with
  | intervals layer scope table =>
      cases attr <;> constructor <;>
        simp [ownAttribute, intervalAttribute, Target.isInterval, Attribute.ofAnchors,
          Target.storage?, Noted.usingAnchors, Noted.usingTranscript, Pure.pure]
  | attributed layer owner name =>
      cases attr <;> cases owner <;> constructor <;>
        simp [ownAttribute, attributedAttribute, Target.isInterval, Attribute.ofAnchors,
          Target.storage?, Noted.usingTranscript, Pure.pure, notApplicable, Noted.problem]
  | participants layer mainOnly =>
      cases attr <;> cases layer <;> constructor <;>
        simp [ownAttribute, Target.isInterval, Attribute.ofAnchors, Target.storage?, Pure.pure,
          notApplicable, Noted.problem]
  | transcripts => contradiction
  | unresolved => contradiction

theorem needs_refer (other : String) : scene.Needs id (scene.refer other) [] [other] := by
  unfold refer
  split
  · rename_i absent
    constructor <;> simp [Noted.problem, Reaches, Schema.storage?, absent]
  · rename_i entry found
    have stored : scene.schema.storage? other = some entry.storage := by
      rw [Schema.storage?, found, Option.map_some]
    have reached : (∃ layer ∈ [other], Reaches scene.schema id layer) ↔
        other ≠ id ∧ entry.storage.isTemporal = true := by
      simp [Reaches, stored]
    split
    · rename_i same
      rw [needs_iff, reached]
      simp [Option.some.inj (own.symm.trans same), Pure.pure]
    · rename_i different
      have apart : other ≠ id := fun same => different (own.trans (congrArg some same.symm))
      split
      · rename_i unrelated
        have noAnchors : ¬(scene.target.isInterval = true ∧ entry.storage.isTemporal = true) :=
          fun both => related?_ne_none both.1 both.2 unrelated
        have nothing : scene.Needs id (scene.notApplicable
            ("references to layer " ++ entry.layer.id) Reference.none) [] [] :=
          needs_notApplicable _ _
        rw [needs_iff] at nothing
        rw [needs_iff, reached]
        simpa [apart, noAnchors] using nothing
      · split
        · rename_i both
          rw [needs_iff, reached]
          simpa [apart, Noted.usingAnchors, and_comm] using both
        · rename_i neither
          rw [needs_iff, reached]
          simpa [apart, Pure.pure, and_comm] using neither

theorem value_refer_eq_subject {other : String} (subject : (scene.refer other).value = .subject) :
    other = id := by
  unfold refer at subject
  split at subject
  · contradiction
  · split at subject
    · rename_i same
      exact (Option.some.inj (own.symm.trans same)).symm
    · split at subject
      · unfold notApplicable at subject
        split at subject <;> contradiction
      · split at subject <;> contradiction

variable (known : (scene.schema.entry? id).isSome)

include known

theorem value_refer_self : (scene.refer id).value = .subject := by
  obtain ⟨entry, found⟩ := Option.isSome_iff_exists.1 known
  simp [refer, found, own, Pure.pure]

/-- The layer that is named is looked at, and the subject's row if the layer is its own. -/
theorem needs_refer_bind {other : String} {next : Reference → Noted α} {attrs : List Attribute}
    (subject : scene.Needs id (next .subject) attrs [])
    (none : scene.Needs id (next .none) [] [])
    (related : ∀ entry related, scene.Needs id (next (.other entry related)) [] []) :
    scene.Needs id (scene.refer other >>= next) (if other = id then attrs else []) [other] := by
  have rest : scene.Needs id (next (scene.refer other).value) (if other = id then attrs else [])
      [] := by
    by_cases same : other = id
    · rw [if_pos same, same, value_refer_self own known]
      exact subject
    · rw [if_neg same]
      cases found : (scene.refer other).value with
      | none => exact none
      | subject => exact absurd (value_refer_eq_subject own found) same
      | other entry rows => exact related entry rows
  exact (needs_refer own other).bind rest

theorem needs_firstValue (layer : String) (attr : Attribute) :
    scene.Needs id (scene.firstValue layer attr) (if layer = id then [attr] else []) [layer] := by
  refine needs_refer_bind own known ?_ (.pure _) fun entry related => ?_
  · exact (needs_ownAttribute own attr).map _
  · dsimp only
    split
    · exact .pure _
    · exact (needs_notApplicable _ _).map _

theorem needs_listing (function layer : String) {attr : Attribute}
    (noAnchor : attr ∉ Attribute.ofAnchors) (notGraph : attr ≠ .graphId)
    (notParent : attr ≠ .parentId) :
    scene.Needs id (scene.listing function layer attr) [] [layer] := by
  have idle : scene.Needs id (scene.ownAttribute attr) [] [] :=
    (Needs.cons_iff_of_idle noAnchor notGraph (absurd · notParent)).1 (needs_ownAttribute own attr)
  have needs : scene.Needs id (scene.listing function layer attr) (if layer = id then [] else [])
      [layer] := by
    refine needs_refer_bind own known (idle.map _) (.pure _) fun entry related => ?_
    dsimp only
    split
    · exact .pure _
    · exact (needs_notApplicable _ _).map _
  rwa [ite_self] at needs

theorem needs_annotators (layer : String) :
    scene.Needs id (scene.annotators layer) [] [layer] := by
  have needs : scene.Needs id (scene.annotators layer) (if layer = id then [] else [])
      [layer] := by
    refine needs_refer_bind own known ?_ (.pure _) fun entry related => ?_
    · dsimp only
      split
      · exact (needs_notApplicable _ _).map _
      · exact (needs_notApplicable _ _).map _
      · exact .pure _
    · dsimp only
      split
      · exact (needs_notApplicable _ _).map _
      · exact .pure _
  rwa [ite_self] at needs

end

mutual

theorem needs_value (own : scene.target.layerId? = some id)
    (known : (scene.schema.entry? id).isSome) : ∀ operand : Operand,
    scene.Needs id (scene.value operand) (operand.asked id) operand.layers
  | .text _ => .pure _
  | .integer _ => .pure _
  | .number _ => .pure _
  | .null => .pure _
  | .list items => (needs_scalars own known items).map _
  | .own attr => (needs_ownAttribute own attr).map _
  | .first layer attr => needs_firstValue own known layer attr
  | .labels layer => needs_listing own known "labels" layer (by decide) (by decide) (by decide)
  | .all layer => needs_listing own known "all" layer (by decide) (by decide) (by decide)
  | .annotators layer => needs_annotators own known layer
  | .length inner => (needs_value own known inner).map _
  | .coalesce items => (needs_scalars own known items).map _

theorem needs_scalars (own : scene.target.layerId? = some id)
    (known : (scene.schema.entry? id).isSome) : ∀ items : List Operand,
    scene.Needs id (scene.scalars items) (Operand.askedOf id items) (Operand.layersOf items)
  | [] => .pure _
  | item :: items =>
      (needs_value own known item).bind
        ((needs_single item _).bind ((needs_scalars own known items).map _))

end

section

variable (own : scene.target.layerId? = some id) (known : (scene.schema.entry? id).isSome)

include own known

theorem needs_scalar (operand : Operand) :
    scene.Needs id (scene.scalar operand) (operand.asked id) operand.layers :=
  (needs_value own known operand).bind_of_nothing (needs_single operand _)

/-! ### Predicates -/

theorem needs_plainCompare (left : Operand) (op : Comparison) (right : Operand) :
    scene.Needs id (scene.plainCompare left op right) (left.asked id ++ right.asked id)
      (left.layers ++ right.layers) :=
  (needs_scalar own known left).bind ((needs_scalar own known right).map _)

theorem needs_nullTest (operand : Operand) (negated : Bool) :
    scene.Needs id (scene.nullTest operand negated) (operand.asked id) operand.layers :=
  (needs_scalar own known operand).map _

omit own known in
theorem needs_isOfLayer (layer : String) (negated : Bool) :
    scene.Needs id (scene.isOfLayer layer negated) [] [] := by
  unfold isOfLayer
  dsimp only
  split
  · refine Needs.bind_of_nothing (.of_nothing rfl rfl) ?_
    split
    · exact needs_notApplicable _ _
    · exact .pure _
  · split
    · exact needs_notApplicable _ _
    · exact .pure _

omit own known in
theorem needs_isChildOf (subject uid : String) (negated : Bool) :
    scene.Needs id (scene.isChildOf subject uid negated) [] [] := by
  unfold isChildOf
  dsimp only
  split <;> exact .of_nothing rfl rfl

omit own known in
theorem needs_isOneOf (storage : Storage) (layer : String) (uids : List String) (negated : Bool) :
    scene.Needs id (isOneOf storage layer uids negated) [] [] :=
  .of_nothing rfl rfl

theorem needs_compare (left : Operand) (op : Comparison) (right : Operand) :
    scene.Needs id (scene.compare left op right) (left.asked id ++ right.asked id)
      (left.layers ++ right.layers) := by
  have ways : Comparing scene left op right (scene.compare left op right) := comparing_compare
  generalize scene.compare left op right = result at ways
  cases ways with
  | ofLayer equality settled =>
      obtain ⟨noLeft, noRight, -⟩ := layers_of_attributeAndText? settled
      rw [asked_of_attributeAndText? settled, noLeft, noRight]
      exact (Needs.cons_iff_of_idle (by decide) (by decide) (by simp)).2 (needs_isOfLayer _ _)
  | oneOf equality settled stored isLayer =>
      obtain ⟨noLeft, noRight, -⟩ := layers_of_attributeAndText? settled
      rw [asked_of_attributeAndText? settled, noLeft, noRight]
      exact (Needs.cons_iff_of_idle (by decide) (by decide) (by simp)).2 (needs_isOneOf _ _ _ _)
  | childOf equality settled inTime =>
      obtain ⟨noLeft, noRight, -⟩ := layers_of_attributeAndText? settled
      rw [asked_of_attributeAndText? settled, noLeft, noRight]
      exact (Needs.cons_iff_of_idle (by decide) (by decide)
        (by simp [inTime, Target.storage?])).2 (needs_isChildOf _ _ _)
  | null equality beside bound =>
      rw [asked_of_besideNull? beside, layers_of_besideNull? beside]
      exact needs_nullTest own known _ _
  | plain other bound => exact needs_plainCompare own known left op right

theorem needs_plainIncludes (list item : Operand) :
    scene.Needs id (scene.plainIncludes list item) (list.asked id ++ item.asked id)
      (list.layers ++ item.layers) := by
  refine (needs_value own known list).bind ((needs_scalar own known item).bind_of_nothing ?_)
  split <;> exact .pure _

theorem needs_includes (list item : Operand) :
    scene.Needs id (scene.includes list item) (list.asked id ++ item.asked id)
      (list.layers ++ item.layers) := by
  have ways : Including scene list item (scene.includes list item) := including_includes
  generalize scene.includes list item = result at ways
  cases ways with
  | @oneOf uids storage layer settled stored isLayer =>
      obtain ⟨noList, noItem⟩ := layers_of_idList? settled
      obtain ⟨rfl, rfl⟩ := idList?_eq_some.1 settled
      have noTexts : (Operand.list (uids.map .text)).asked id = [] :=
        Operand.askedOf_texts id uids
      rw [noList, noItem, noTexts]
      exact (Needs.cons_iff_of_idle (by decide) (by decide) (by simp)).2 (needs_isOneOf _ _ _ _)
  | plain bound => exact needs_plainIncludes own known list item

theorem needs_test (pattern : String) (operand : Operand) (negated : Bool) :
    scene.Needs id (scene.test pattern operand negated) (operand.asked id) operand.layers :=
  (needs_value own known operand).map _

theorem needs_includesAny (list items : Operand) :
    scene.Needs id (scene.includesAny list items) (list.asked id ++ items.asked id)
      (list.layers ++ items.layers) :=
  (needs_value own known list).bind ((needs_value own known items).map _)

end

/-! ### Expressions -/

mutual

theorem needs_condition (own : scene.target.layerId? = some id)
    (known : (scene.schema.entry? id).isSome) : ∀ expression : Expression,
    scene.Needs id (scene.condition expression) (expression.asked id) expression.layers
  | .or items => (needs_conditions own known items).map _
  | .and items => (needs_conditions own known items).map _
  | .not inner => by
      have inside := needs_condition own known inner
      cases inner with
      | test pattern operand => exact (needs_test own known pattern operand true).map _
      | _ => exact inside.map _
  | .compare left op right => (needs_compare own known left op right).map _
  | .test pattern operand => (needs_test own known pattern operand false).map _
  | .includes list item => (needs_includes own known list item).map _
  | .includesAny list items => (needs_includesAny own known list items).map _

theorem needs_conditions (own : scene.target.layerId? = some id)
    (known : (scene.schema.entry? id).isSome) : ∀ items : List Expression,
    scene.Needs id (scene.conditions items) (Expression.askedOf id items)
      (Expression.layersOf items)
  | [] => .pure _
  | item :: items =>
      (needs_condition own known item).bind ((needs_conditions own known items).map _)

end

end Scene

/-! ### Statements -/

namespace Target

/-- The rows of a layer are looked up as they are stored. -/
theorem resolve_layer {schema : Schema} {id : String}
    (faultless : (resolve schema (.layer id)).problems = []) :
    let target := (resolve schema (.layer id)).value
    target.layerId? = some id ∧ ∃ storage, schema.storage? id = some storage ∧
      target.isInterval = storage.isTemporal ∧
      ∀ name, target.storage? = some (.attributed .transcript name) ↔
        storage = .attributed .transcript name := by
  change (resolveLayer schema id).problems = [] at faultless
  change (resolveLayer schema id).value.layerId? = some id ∧ ∃ storage,
    schema.storage? id = some storage ∧
      (resolveLayer schema id).value.isInterval = storage.isTemporal ∧
      ∀ name, (resolveLayer schema id).value.storage? = some (.attributed .transcript name) ↔
        storage = .attributed .transcript name
  cases found : schema.entry? id with
  | none => simp [resolveLayer, found, Noted.problem] at faultless
  | some entry =>
      obtain ⟨layer, storage⟩ := entry
      have named : layer.id = id := by
        simpa using List.find?_some found
      have stored : schema.storage? id = some storage := by
        rw [Schema.storage?, found, Option.map_some]
      cases storage with
      | temporal scope table =>
          simp [resolveLayer, found, stored, named, layerId?, layer?, isInterval, storage?,
            Storage.isTemporal, Pure.pure]
      | attributed owner name =>
          simp [resolveLayer, found, stored, named, layerId?, layer?, isInterval, storage?,
            Storage.isTemporal, Pure.pure]
      | entity kind =>
          cases kind with
          | participant | mainParticipant =>
              simp [resolveLayer, found, stored, named, layerId?, layer?, isInterval, storage?,
                Storage.isTemporal, Pure.pure]
          | corpus | episode => simp [resolveLayer, found, Noted.problem] at faultless

variable {target : Target} {options : Options} {condition : Noted Fragment}

theorem joinsAnchors_iff : target.joinsAnchors options condition = true ↔
    target.isInterval = true ∧ (options.order ≠ .unordered ∨ condition.anchors = true) := by
  have sorted : ordered options.order = true ↔ options.order ≠ .unordered := by
    cases options.order <;> simp [ordered]
  rw [joinsAnchors, Bool.and_eq_true, Bool.or_eq_true, sorted, or_comm]

theorem mem_joins_select (schema : Schema) :
    let joins := (target.select schema options condition).joins
    (∀ join ∈ anchorJoins, join ∈ joins ↔ target.joinsAnchors options condition = true) ∧
      (transcriptJoin ∈ joins ↔ condition.transcript = true) ∧
      joins.Sublist (anchorJoins ++ [transcriptJoin]) := by
  intro joins
  have same : joins = (if target.joinsAnchors options condition then anchorJoins else []) ++
      if condition.transcript then [transcriptJoin] else [] :=
    congrArg Select.joins (select_eq schema target options condition)
  have apart : ∀ join ∈ anchorJoins, join.row ≠ transcriptJoin.row := by decide
  refine ⟨fun join member => ?_, ?_, ?_⟩
  · have other : join ≠ transcriptJoin := fun equal => apart join member (congrArg Join.row equal)
    rw [same]
    cases target.joinsAnchors options condition <;> cases condition.transcript <;>
      simp [member, other]
  · have other : transcriptJoin ∉ anchorJoins := fun member => apart transcriptJoin member rfl
    rw [same]
    cases target.joinsAnchors options condition <;> cases condition.transcript <;> simp [other]
  · rw [same]
    refine List.Sublist.append ?_ ?_
    · split
      · exact List.Sublist.refl _
      · exact List.nil_sublist _
    · split
      · exact List.Sublist.refl _
      · exact List.nil_sublist _

end Target

/-- The joins of a statement about a layer are those of the anchors and of the transcript, each
of them at most once.  The anchors are joined exactly if the layer is one in time and rows are
ordered, or the expression has an attribute of the row's that is read off its anchors, or names
another layer in time.  The transcript is joined exactly if the expression has the row's graph,
or the parent of a transcript's attribute. -/
theorem joins_of_select {schema : Schema} {id : String} {options : Target.Options}
    {expression : Expression} {statement : Select}
    (selected : select schema (.layer id) options expression = .ok statement) :
    ∃ storage, schema.storage? id = some storage ∧
      (∀ join ∈ Target.anchorJoins, join ∈ statement.joins ↔ storage.isTemporal = true ∧
        (options.order ≠ .unordered ∨
          (∃ attr ∈ expression.asked id, attr ∈ Attribute.ofAnchors) ∨
          ∃ other ∈ expression.layers, Reaches schema id other)) ∧
      (Target.transcriptJoin ∈ statement.joins ↔ .graphId ∈ expression.asked id ∨
        .parentId ∈ expression.asked id ∧ ∃ name, storage = .attributed .transcript name) ∧
      statement.joins.Sublist (Target.anchorJoins ++ [Target.transcriptJoin]) ∧
      (statement.joins.map Join.row).Nodup := by
  obtain ⟨faultless, rfl⟩ := select_eq_ok.1 selected
  obtain ⟨anchors, transcript⟩ := asks_examine schema (.layer id) expression
  rw [problems_examine, List.append_eq_nil_iff] at faultless
  obtain ⟨own, storage, stored, inTime, ofTranscript⟩ := Target.resolve_layer faultless.1
  have known : (schema.entry? id).isSome := by
    rw [Schema.storage?, Option.map_eq_some_iff] at stored
    obtain ⟨entry, found, -⟩ := stored
    rw [found, Option.isSome_some]
  have needs := @Scene.needs_condition ⟨schema, _⟩ id own known expression
  have askedAnchors := needs.anchors
  have askedTranscript := needs.transcript faultless.2
  dsimp only at askedAnchors askedTranscript
  -- What is noted while the expression is compiled is what the joins are decided by.
  rw [← anchors, inTime] at askedAnchors
  rw [← transcript, exists_congr ofTranscript] at askedTranscript
  obtain ⟨eachAnchor, itsTranscript, joined⟩ := Target.mem_joins_select schema
  refine ⟨storage, stored, fun join member => (eachAnchor join member).trans ?_,
    itsTranscript.trans askedTranscript, joined, ?_⟩
  · have sameTarget : (examine schema (.layer id) expression).value.1.isInterval =
        storage.isTemporal := inTime
    rw [Target.joinsAnchors_iff, sameTarget]
    exact and_congr_right fun temporal =>
      or_congr_right (askedAnchors.trans (and_iff_right temporal))
  · have distinct : ((Target.anchorJoins ++ [Target.transcriptJoin]).map Join.row).Nodup := by
      decide
    exact distinct.sublist (joined.map _)

/-! ### Rows without an order, with anchors for the sake of another layer -/

namespace Among

/-- A topic is compared with a coalesced value that is never put to use. -/
def unordered : Expression :=
  .not (.compare (.first "topic" .label) .eq (.coalesce [.first "word" .label, .own .graphId]))

end Among

theorem unordered_joins :
    ∃ statement, select Among.schema (.layer "word") { order := .unordered } Among.unordered =
        .ok statement ∧
      (∀ join ∈ Target.anchorJoins, join ∈ statement.joins) ∧
      Target.transcriptJoin ∈ statement.joins := by
  have faultless : (examine Among.schema (.layer "word") Among.unordered).problems = [] := by
    decide +kernel
  have selected : select Among.schema (.layer "word") { order := .unordered } Among.unordered =
      .ok _ := select_eq_ok.2 ⟨faultless, rfl⟩
  obtain ⟨storage, stored, anchors, transcript, -⟩ := joins_of_select selected
  obtain rfl : .temporal .word 0 = storage := Option.some.inj stored
  have asked : Among.unordered.asked "word" = [.label, .graphId] := by decide
  have reached : Reaches Among.schema "word" "topic" :=
    ⟨by decide, .temporal .span 3, by decide, rfl⟩
  refine ⟨_, selected, fun join member => (anchors join member).2 ⟨rfl, .inr (.inr ?_)⟩,
    transcript.2 (.inl (by simp [asked]))⟩
  exact ⟨"topic", by decide, reached⟩

end Filter

end CorpusQuery
