import CorpusQuery.Proofs.Filter.Placeholders

namespace CorpusQuery.Filter

/-! Whatever operands stand for, and whatever conditions are made of them, the values
in it keep to their placeholders. -/

open Sql

namespace Scene

variable {scene : Scene}

/-! ### The subject's row -/

@[simp] theorem isAligned_uidOrNumber (storage : Option Storage) {number : Fragment}
    (aligned : number.IsAligned) : (uidOrNumber storage number).IsAligned := by
  unfold uidOrNumber
  cases found : storage.bind (uidOf? · number) with
  | none => exact aligned
  | some uid =>
      obtain ⟨known, -, stemmed⟩ := Option.bind_eq_some_iff.1 found
      obtain ⟨stem, -, rfl⟩ := Option.map_eq_some_iff.1 stemmed
      exact isAligned_uidFrom stem aligned

theorem isAligned_intervalAttribute (layer : Layer) (storage : Storage) (attr : Attribute) :
    (scene.intervalAttribute layer storage attr).value.IsAligned := by
  cases attr <;> simp +decide [intervalAttribute, Noted.usingAnchors, Noted.usingTranscript]

theorem isAligned_attributedAttribute (layer : Layer) (owner : Owner) (storage : Storage)
    (attr : Attribute) :
    (scene.attributedAttribute layer owner storage attr).value.IsAligned := by
  unfold attributedAttribute
  split <;> try cases owner
  all_goals simp +decide [Noted.usingTranscript]

theorem isAligned_ownAttribute (attr : Attribute) : (scene.ownAttribute attr).value.IsAligned := by
  unfold ownAttribute
  split
  · exact isAligned_intervalAttribute _ _ _
  · exact isAligned_attributedAttribute _ _ _ _
  · split <;> simp +decide
  · split <;> simp +decide
  · simp +decide

/-! ### Rows of other layers -/

theorem isAligned_labelColumn (storage : Storage) : (labelColumn storage).IsAligned := by
  unfold labelColumn
  split <;> decide

theorem isAligned_relatedColumn? {layer : Layer} {storage : Storage} {attr : Attribute}
    {column : Fragment} (found : scene.relatedColumn? layer storage attr = some column) :
    column.IsAligned := by
  unfold relatedColumn? at found
  repeat' split at found
  all_goals cases found
  all_goals simp +decide [isAligned_labelColumn]

theorem isAligned_speakings {column : String} (silent : IsSilent column)
    {conditions : List Fragment} (all : ∀ condition ∈ conditions, condition.IsAligned) :
    (speakings column conditions).IsAligned :=
  Select.isAligned_rows (by simp [silent]) (by simp +decide) (by simp) all

theorem isAligned_ofGraph? {column : String × String}
    (silent : (Piece.column column.1 column.2).IsAligned) {condition : Fragment}
    (found : scene.ofGraph? column = some condition) : condition.IsAligned := by
  unfold ofGraph? at found
  split at found
  · rename_i graph known
    cases found
    simp +decide [silent, Target.isAligned_graph? known]
  · rename_i speaker known
    cases found
    refine isAligned_within (by simp [silent]) (isAligned_speakings (by decide) ?_)
    simp +decide [Target.isAligned_speaker? known]
  · contradiction

theorem isAligned_ofSpeaker? {condition : Fragment} (found : scene.ofSpeaker? = some condition) :
    condition.IsAligned := by
  unfold ofSpeaker? at found
  split at found
  · rename_i speaker known
    cases found
    simp +decide [Target.isAligned_speaker? known]
  · rename_i graph known
    cases found
    refine isAligned_within (by decide) (isAligned_speakings (by decide) ?_)
    simp +decide [Target.isAligned_graph? known]
  · contradiction

theorem isAligned_ofInterval? {scope : Scope} {conditions : List Fragment}
    (found : scene.ofInterval? scope = some conditions) :
    ∀ condition ∈ conditions, condition.IsAligned := by
  unfold ofInterval? at found
  split at found
  · cases found
    split <;> decide
  · split at found
    · rename_i graph known
      cases found
      simp +decide [Target.isAligned_graph? known]
    · rename_i speaker known
      split at found
      · obtain ⟨table, turns, rfl⟩ := Option.map_eq_some_iff.1 found
        have silent := Target.isSilent_turnTable? turns
        refine List.forall_mem_singleton.2 (isAligned_within (by decide) ?_)
        refine Select.isAligned_rows ?_ ?_ ?_ ?_ <;>
          simp +decide [silent, Target.isAligned_speaker? known]
      · contradiction
    · contradiction

theorem isAligned_ofMainSpeaker : ∀ condition ∈ scene.ofMainSpeaker, condition.IsAligned := by
  have ofGraph : ∀ graph ∈ scene.target.graph?, Fragment.IsAligned graph :=
    fun graph known => Target.isAligned_graph? known
  have ofSpeaker : ∀ speaker ∈ scene.target.speaker? scene.schema, Fragment.IsAligned speaker :=
    fun speaker known => Target.isAligned_speaker? known
  refine List.forall_mem_cons.2
    ⟨isAligned_within (by decide) (isAligned_speakings (by decide) ?_), ?_⟩
  · simpa +decide [or_imp, forall_and] using ofGraph
  · simpa +decide using ofSpeaker

/-- Rows without columns, in an order by some columns. -/
theorem isAligned_relatedRows {table : String} (silent : IsSilent table) {joins : List Join}
    (joined : ∀ join ∈ joins, join.IsAligned) {conditions order : List Fragment}
    (all : ∀ condition ∈ conditions, condition.IsAligned) (sorted : ∀ term ∈ order, term.IsAligned) :
    Related.IsAligned
      { rows := { source := relation table "related", joins, conditions }, order } :=
  ⟨Select.isAligned_rows (by simp) (Fragment.isAligned_relation silent (by decide)) joined all,
    sorted⟩

theorem isAligned_related? {storage : Storage} {related : Related}
    (found : scene.related? storage = some related) : related.IsAligned := by
  unfold related? at found
  split at found
  · obtain ⟨conditions, tied, rfl⟩ := Option.map_eq_some_iff.1 found
    exact isAligned_relatedRows (isSilent_layerTable _) (by simp +decide)
      (isAligned_ofInterval? tied) (by decide)
  · obtain ⟨condition, tied, rfl⟩ := Option.map_eq_some_iff.1 found
    exact isAligned_relatedRows (by decide) (by simp)
      (by simp +decide [namedAttribute, isAligned_ofGraph? (by decide) tied]) (by decide)
  · obtain ⟨condition, tied, rfl⟩ := Option.map_eq_some_iff.1 found
    exact isAligned_relatedRows (by decide) (by simp)
      (by simp +decide [namedAttribute, isAligned_ofSpeaker? tied]) (by decide)
  · obtain ⟨condition, tied, rfl⟩ := Option.map_eq_some_iff.1 found
    exact isAligned_relatedRows (by decide) (by simp)
      (by simp [isAligned_ofGraph? (by decide) tied]) (by decide)
  · obtain ⟨condition, tied, rfl⟩ := Option.map_eq_some_iff.1 found
    exact isAligned_relatedRows (by decide) (by simp +decide)
      (by simp [isAligned_ofGraph? (by decide) tied]) (by decide)
  · obtain ⟨condition, tied, rfl⟩ := Option.map_eq_some_iff.1 found
    exact isAligned_relatedRows (by decide) (by simp)
      (by simp [isAligned_ofSpeaker? tied]) (by decide)
  · cases found
    exact isAligned_relatedRows (by decide) (by simp) isAligned_ofMainSpeaker (by decide)

/-! ### Operands -/

theorem isAligned_refer {layer : String} {entry : Entry} {related : Related}
    (found : (scene.refer layer).value = .other entry related) : related.IsAligned := by
  unfold refer at found
  split at found
  · contradiction
  · split at found
    · contradiction
    · split at found
      · rw [value_notApplicable] at found
        contradiction
      · rename_i rows
        split at found <;> cases found <;> exact isAligned_related? rows

theorem isAligned_listing (function layer : String) (attr : Attribute) :
    (scene.listing function layer attr).value.IsAligned := by
  unfold listing
  rw [Noted.value_bind]
  split
  · simp [Value.IsAligned]
  · exact List.forall_mem_singleton.2 (isAligned_ownAttribute attr)
  · rename_i found
    split
    · rename_i column
      exact ⟨isAligned_refer found, isAligned_relatedColumn? column⟩
    · simp [Value.IsAligned]

theorem isAligned_firstValue (layer : String) (attr : Attribute) :
    (scene.firstValue layer attr).value.IsAligned := by
  unfold firstValue
  rw [Noted.value_bind]
  split
  · exact isAligned_nothing
  · exact isAligned_ownAttribute attr
  · rename_i found
    split
    · rename_i column
      exact (isAligned_refer found).first (isAligned_relatedColumn? column)
    · simp [Value.IsAligned]

theorem isAligned_annotators (layer : String) : (scene.annotators layer).value.IsAligned := by
  unfold annotators
  rw [Noted.value_bind]
  split
  · simp [Value.IsAligned]
  · split <;> simp +decide [Value.IsAligned]
  · rename_i found
    split
    · simp [Value.IsAligned]
    · exact ⟨isAligned_refer found, by decide⟩

theorem isAligned_single (operand : Operand) {value : Value} (whole : value.IsAligned) :
    (single operand value).value.IsAligned := by
  cases value with
  | scalar fragment => exact whole
  | literals items => exact isAligned_nothing
  | rows related column => exact isAligned_nothing

mutual

theorem isAligned_value : ∀ operand : Operand, (scene.value operand).value.IsAligned
  | .text _ | .integer _ | .number _ | .null => by simp [value, Value.IsAligned]
  | .list items => by
      simpa only [value, Noted.value_bind, Noted.value_pure, Value.IsAligned] using
        isAligned_scalars items
  | .own attr => by
      simpa only [value, Noted.value_bind, Noted.value_pure, Value.IsAligned] using
        isAligned_ownAttribute attr
  | .first layer attr => by
      simpa only [value] using isAligned_firstValue layer attr
  | .labels layer => by
      simpa only [value] using isAligned_listing "labels" layer .label
  | .all layer => by
      simpa only [value] using isAligned_listing "all" layer .id
  | .annotators layer => by
      simpa only [value] using isAligned_annotators layer
  | .length inner => by
      simpa only [value, Noted.value_bind, Noted.value_pure, Value.IsAligned] using
        isAligned_size (isAligned_value inner)
  | .coalesce items => by
      have listed := Fragment.isAligned_commaList.2 (isAligned_scalars items)
      simpa only [value, Noted.value_bind, Noted.value_pure, Value.IsAligned] using
        (isAligned_apply (by decide)).2 listed

theorem isAligned_scalars : ∀ items : List Operand,
    ∀ fragment ∈ (scene.scalars items).value, fragment.IsAligned
  | [] => by simp [scalars]
  | item :: items => by
      rw [scalars, Noted.value_bind, Noted.value_bind, Noted.value_bind, Noted.value_pure]
      exact List.forall_mem_cons.2
        ⟨isAligned_single item (isAligned_value item), isAligned_scalars items⟩

end

theorem isAligned_scalar (operand : Operand) : (scene.scalar operand).value.IsAligned := by
  rw [scalar, Noted.value_bind]
  exact isAligned_single operand (isAligned_value operand)

/-! ### Predicates -/

theorem isAligned_isOneOf (storage : Storage) (layer : String) (uids : List String)
    (negated : Bool) : (isOneOf storage layer uids negated).value.IsAligned := by
  unfold isOneOf
  simp only
  split <;> cases negated <;> simp +decide [numberList]

theorem isAligned_isOfLayer (id : String) (negated : Bool) :
    (scene.isOfLayer id negated).value.IsAligned := by
  by_cases missing : (scene.schema.layer? id).isNone <;>
    cases known : scene.target.layerId? <;>
      cases negated <;> simp +decide [isOfLayer, missing, known]

theorem isAligned_isChildOf (subject uid : String) (negated : Bool) :
    (scene.isChildOf subject uid negated).value.IsAligned := by
  unfold isChildOf
  simp only
  split
  · cases negated <;> simp +decide
  · exact isAligned_nothing

theorem isAligned_plainCompare (left : Operand) (op : Comparison) (right : Operand) :
    (scene.plainCompare left op right).value.IsAligned := by
  simp only [plainCompare, Noted.value_bind, Noted.value_pure]
  cases op <;> simp +decide [operator, isAligned_scalar]

theorem isAligned_nullTest (operand : Operand) (negated : Bool) :
    (scene.nullTest operand negated).value.IsAligned := by
  simp only [nullTest, Noted.value_bind, Noted.value_pure]
  cases negated <;> simp +decide [isAligned_scalar]

theorem isAligned_compare (left : Operand) (op : Comparison) (right : Operand) :
    (scene.compare left op right).value.IsAligned := by
  unfold compare
  split
  · simp only
    split
    · exact isAligned_isOfLayer _ _
    · exact isAligned_isOneOf _ _ _ _
    · exact isAligned_isOneOf _ _ _ _
    · exact isAligned_isChildOf _ _ _
    · split
      · exact isAligned_nullTest _ _
      · exact isAligned_plainCompare _ _ _
  · exact isAligned_plainCompare _ _ _

theorem isAligned_test (pattern : String) (operand : Operand) (negated : Bool) :
    (scene.test pattern operand negated).value.IsAligned := by
  simp only [test, Noted.value_bind, Noted.value_pure]
  exact isAligned_matching pattern negated (isAligned_value operand)

theorem isAligned_plainIncludes (list item : Operand) :
    (scene.plainIncludes list item).value.IsAligned := by
  have single : (scene.scalar item).value.IsAligned := isAligned_scalar item
  have whole : (scene.value list).value.IsAligned := isAligned_value list
  simp only [plainIncludes, Noted.value_bind]
  split
  · rename_i text isText
    rw [isText] at whole
    have fragment : text.IsAligned := whole
    simp +decide [fragment, single]
  · exact isAligned_membership single whole

theorem isAligned_includes (list item : Operand) : (scene.includes list item).value.IsAligned := by
  unfold includes
  split
  · exact isAligned_isOneOf _ _ _ _
  · exact isAligned_plainIncludes _ _

theorem isAligned_includesAny (list items : Operand) :
    (scene.includesAny list items).value.IsAligned := by
  simp only [includesAny, Noted.value_bind, Noted.value_pure]
  exact isAligned_commonMember (isAligned_value list) (isAligned_value items)

/-! ### Expressions -/

mutual

theorem isAligned_condition : ∀ expression : Expression,
    (scene.condition expression).value.fragment.IsAligned
  | .or items => by
      rw [condition, Noted.value_bind, Noted.value_pure, Condition.fragment]
      exact Fragment.isAligned_parenthesized.2
        (Fragment.isAligned_disjunction.2 (isAligned_conditions items))
  | .and items => by
      rw [condition, Noted.value_bind, Noted.value_pure, Condition.fragment]
      exact Fragment.isAligned_conjunction.2 (isAligned_conditions items)
  | .not inner => by
      have whole := isAligned_condition inner
      cases inner with
      | test pattern operand =>
          simpa only [condition, Noted.value_bind, Noted.value_pure, Condition.fragment] using
            isAligned_test pattern operand true
      | _ =>
          simp only [condition, Noted.value_bind, Noted.value_pure, Condition.fragment] at whole ⊢
          simp +decide [whole]
  | .compare left op right => by
      simpa only [condition, Noted.value_bind, Noted.value_pure, Condition.fragment] using
        isAligned_compare left op right
  | .test pattern operand => by
      simpa only [condition, Noted.value_bind, Noted.value_pure, Condition.fragment] using
        isAligned_test pattern operand false
  | .includes list item => by
      simpa only [condition, Noted.value_bind, Noted.value_pure, Condition.fragment] using
        isAligned_includes list item
  | .includesAny list items => by
      simpa only [condition, Noted.value_bind, Noted.value_pure, Condition.fragment] using
        isAligned_includesAny list items

theorem isAligned_conditions : ∀ items : List Expression,
    ∀ fragment ∈ Condition.fragments (scene.conditions items).value, fragment.IsAligned
  | [] => by simp [conditions, Condition.fragments]
  | item :: items => by
      rw [conditions, Noted.value_bind, Noted.value_bind, Noted.value_pure, Condition.fragments]
      exact List.forall_mem_cons.2 ⟨isAligned_condition item, isAligned_conditions items⟩

end

end Scene

/-- All values of an expression's statement keep to their placeholders. -/
theorem isAligned_select {schema : Schema} {subject : Subject} {options : Target.Options}
    {expression : Expression} {statement : Select}
    (selected : select schema subject options expression = .ok statement)
    (given : options.IsAligned) : statement.IsAligned := by
  obtain ⟨-, rfl⟩ := acceptWithout_eq_ok.1 selected
  exact Target.isAligned_select schema _ given (Scene.isAligned_condition expression)

end CorpusQuery.Filter
