import CorpusQuery.Proofs.Filter.Sealing

namespace CorpusQuery.Filter

/-! What operands stand for shows no `OR`, whatever they refer to. -/

open Sql

namespace Noted

@[simp] theorem value_pure (value : α) : (pure value : Noted α).value = value := rfl

@[simp] theorem value_bind (part : Noted α) (next : α → Noted β) :
    (part >>= next).value = (next part.value).value := rfl

end Noted

namespace Scene

variable {scene : Scene}

@[simp] theorem value_notApplicable (scene : Scene) (construct : String) (value : α) :
    (scene.notApplicable construct value).value = value := by
  unfold notApplicable
  split <;> rfl

/-! ### The subject's row -/

theorem isSealed_uidFrom (stem : String) {number : Fragment} (whole : number.IsSealed) :
    (uidFrom stem number).IsSealed :=
  isSealed_apply (.cons (Fragment.isSealed_marker stem).isNested (.words (by decide) whole.isNested))
    (by decide)

theorem isSealed_uidOrNumber (storage : Option Storage) {number : Fragment}
    (whole : number.IsSealed) : (uidOrNumber storage number).IsSealed := by
  unfold uidOrNumber
  cases found : storage.bind (uidOf? · number) with
  | none => exact whole
  | some uid =>
      obtain ⟨known, -, stemmed⟩ := Option.bind_eq_some_iff.1 found
      obtain ⟨stem, -, rfl⟩ := Option.map_eq_some_iff.1 stemmed
      exact isSealed_uidFrom stem whole

theorem isSealed_ownerName : ownerName.IsSealed := by
  refine (Select.isNested_rows ?_ ?_ (by simp) ?_).subquery.parenthesized
  · exact List.forall_mem_singleton.2 (.column (by decide) Fragment.isNested_nil)
  · exact isNested_relation (by decide) (by decide)
  · exact List.forall_mem_singleton.2
      (Fragment.isSealed_compareColumns (by decide) (by decide) (by decide)).isNested

theorem isSealed_intervalAttribute (layer : Layer) (storage : Storage) (attr : Attribute) :
    (scene.intervalAttribute layer storage attr).value.IsSealed := by
  cases attr with
  | id => exact isSealed_uidOrNumber _ (Fragment.isSealed_column (by decide))
  | layerId => exact Fragment.isSealed_marker _
  | parentId => exact isSealed_uidOrNumber _ (Fragment.isSealed_column (by decide))
  | label | confidence | graphId | startOffset | endOffset | startConfidence | endConfidence =>
      exact Fragment.isSealed_column (by decide)

theorem isSealed_attributedAttribute (layer : Layer) (owner : Owner) (storage : Storage)
    (attr : Attribute) :
    (scene.attributedAttribute layer owner storage attr).value.IsSealed := by
  unfold attributedAttribute
  split
  · exact isSealed_uidOrNumber _ (Fragment.isSealed_column (by decide))
  · exact Fragment.isSealed_marker _
  · exact Fragment.isSealed_column (by decide)
  · exact Fragment.isSealed_column (by decide)
  · cases owner with
    | transcript => exact Fragment.isSealed_column (by decide)
    | participant => exact isSealed_ownerName
  · cases owner with
    | transcript => exact Fragment.isSealed_column (by decide)
    | participant =>
        rw [value_notApplicable]
        exact isSealed_nothing
  · rw [value_notApplicable]
    exact isSealed_nothing

theorem isSealed_ownAttribute (attr : Attribute) : (scene.ownAttribute attr).value.IsSealed := by
  unfold ownAttribute
  split
  · exact isSealed_intervalAttribute ..
  · exact isSealed_attributedAttribute ..
  · split
    · exact Fragment.isSealed_column (by decide)
    · exact Fragment.isSealed_column (by decide)
    · exact Fragment.isSealed_marker _
    · rw [value_notApplicable]
      exact isSealed_nothing
  · split
    · exact Fragment.isSealed_column (by decide)
    · exact Fragment.isSealed_column (by decide)
    · exact Fragment.isSealed_column (by decide)
    · rw [value_notApplicable]
      exact isSealed_nothing
  · rw [value_notApplicable]
    exact isSealed_nothing

/-! ### Rows of other layers -/

theorem isSealed_labelColumn (storage : Storage) : (labelColumn storage).IsSealed := by
  unfold labelColumn
  split <;> exact Fragment.isSealed_column (by decide)

theorem isSealed_relatedColumn? {layer : Layer} {storage : Storage} {attr : Attribute}
    {column : Fragment} (found : scene.relatedColumn? layer storage attr = some column) :
    column.IsSealed := by
  unfold relatedColumn? at found
  split at found
  · cases found
    exact isSealed_labelColumn storage
  · cases found
    exact Fragment.isSealed_marker _
  · split at found
    · cases found
      exact isSealed_labelColumn _
    · cases found
      exact isSealed_uidOrNumber _ (Fragment.isSealed_column (by decide))
  · split at found
    · contradiction
    · cases found
      exact Fragment.isSealed_column (by decide)
  · contradiction
  · split at found
    · split at found
      · cases found
        exact isSealed_uidOrNumber _ (Fragment.isSealed_column (by decide))
      · cases found
        exact Fragment.isSealed_column (by decide)
      · cases found
        exact Fragment.isSealed_column (by decide)
      · cases found
        exact Fragment.isSealed_column (by decide)
      · cases found
        exact Fragment.isSealed_column (by decide)
      · contradiction
    · contradiction

theorem isNested_speakings {column : List Char} (plain : Nested column)
    {conditions : List Fragment} (all : ∀ condition ∈ conditions, condition.IsNested) :
    (speakings (String.ofList column) conditions).IsNested := by
  refine Select.isNested_rows ?_ ?_ (by simp) all
  · exact List.forall_mem_singleton.2 (.words plain Fragment.isNested_nil)
  · exact isNested_relation (by decide) (by decide)

theorem isNested_ofGraph? {row name : List Char} (column : Sealed (row ++ '.' :: name))
    {condition : Fragment}
    (found : scene.ofGraph? (String.ofList row, String.ofList name) = some condition) :
    condition.IsNested := by
  unfold ofGraph? at found
  split at found
  · rename_i graph known
    cases found
    exact .column column.1 (.words (by decide) (Target.isSealed_graph? known).isNested)
  · rename_i speaker known
    cases found
    refine (isSealed_within (Fragment.isSealed_column column) ?_).isNested
    exact isNested_speakings (by decide) (List.forall_mem_singleton.2
      (.words (by decide) (Target.isSealed_speaker? known).isNested))
  · contradiction

theorem isNested_ofSpeaker? {condition : Fragment} (found : scene.ofSpeaker? = some condition) :
    condition.IsNested := by
  unfold ofSpeaker? at found
  split at found
  · rename_i speaker known
    cases found
    exact .column (by decide) (.words (by decide) (Target.isSealed_speaker? known).isNested)
  · rename_i graph known
    cases found
    refine (isSealed_within (Fragment.isSealed_column (by decide)) ?_).isNested
    exact isNested_speakings (by decide) (List.forall_mem_singleton.2
      (.words (by decide) (Target.isSealed_graph? known).isNested))
  · contradiction

theorem isNested_ofInterval? {scope : Scope} {conditions : List Fragment}
    (found : scene.ofInterval? scope = some conditions) :
    ∀ condition ∈ conditions, condition.IsNested := by
  unfold ofInterval? at found
  split at found
  · cases found
    refine List.forall_mem_cons.2 ⟨?_, List.forall_mem_cons.2 ⟨?_, List.forall_mem_singleton.2 ?_⟩⟩
    · split
      · exact (Fragment.isSealed_compareColumns (by decide) (by decide) (by decide)).isNested
      · exact (Fragment.isSealed_compareColumns (by decide) (by decide) (by decide)).isNested
    · exact (Fragment.isSealed_compareColumns (by decide) (by decide) (by decide)).isNested
    · exact (Fragment.isSealed_compareColumns (by decide) (by decide) (by decide)).isNested
  · split at found
    · rename_i graph known
      cases found
      exact List.forall_mem_singleton.2
        (.column (by decide) (.words (by decide) (Target.isSealed_graph? known).isNested))
    · rename_i speaker known
      split at found
      · obtain ⟨table, turns, rfl⟩ := Option.map_eq_some_iff.1 found
        refine List.forall_mem_singleton.2
          (isSealed_within (Fragment.isSealed_column (by decide)) ?_).isNested
        refine Select.isNested_rows ?_ ?_ (by simp) ?_
        · exact List.forall_mem_singleton.2 (.column (by decide) Fragment.isNested_nil)
        · exact isNested_relation (Target.nested_turnTable? turns) (by decide)
        · exact List.forall_mem_singleton.2 (Target.isSealed_turnSpeaker.isNested.append
            (.words (by decide) (Target.isSealed_speaker? known).isNested))
      · contradiction
    · contradiction

theorem isNested_ofMainSpeaker : ∀ condition ∈ scene.ofMainSpeaker, condition.IsNested := by
  refine List.forall_mem_cons.2 ⟨?_, ?_⟩
  · refine (isSealed_within (Fragment.isSealed_column (by decide)) ?_).isNested
    refine isNested_speakings (by decide) (List.forall_mem_append.2 ⟨?_, ?_⟩)
    · intro condition member
      obtain ⟨graph, known, rfl⟩ := List.mem_map.1 member
      exact .words (by decide) (Target.isSealed_graph? (Option.mem_toList.1 known)).isNested
    · exact List.forall_mem_singleton.2 (.words (by decide) Fragment.isNested_nil)
  · intro condition member
    obtain ⟨speaker, known, rfl⟩ := List.mem_map.1 member
    exact .column (by decide) (.words (by decide)
      (Target.isSealed_speaker? (Option.mem_toList.1 known)).isNested)

theorem isNested_namedAttribute (name : String) : (namedAttribute name).IsNested :=
  .column (by decide) (.words (by decide) (Fragment.isSealed_marker name).isNested)

/-- Rows without columns, in an order by some columns. -/
theorem isNested_relatedRows {table : String} (plain : Nested table.toList) {joins : List Join}
    (joined : ∀ join ∈ joins, join.render.IsNested) {conditions order : List Fragment}
    (all : ∀ condition ∈ conditions, condition.IsNested) (sorted : ∀ term ∈ order, term.IsNested) :
    Related.IsNested
      { rows := { source := relation table "related", joins, conditions }, order } :=
  ⟨Select.isNested_rows (by simp) (isNested_relation plain (by decide)) joined all, sorted⟩

theorem isNested_column {row name : List Char} (plain : Nested (row ++ '.' :: name)) :
    Fragment.IsNested [.column (String.ofList row) (String.ofList name)] :=
  .column plain Fragment.isNested_nil

theorem isNested_tiedJoin {table row : List Char} (source : Nested table) (named : Nested row)
    {tie : Fragment} (tied : tie.IsSealed) :
    (Join.inner [.words (String.ofList table)] (String.ofList row) [tie]).render.IsNested :=
  Join.isNested_inner (.words source Fragment.isNested_nil) named
    (List.forall_mem_singleton.2 tied.isNested)

theorem isNested_related? {storage : Storage} {related : Related}
    (found : scene.related? storage = some related) : related.IsNested := by
  unfold related? at found
  split at found
  · obtain ⟨conditions, tied, rfl⟩ := Option.map_eq_some_iff.1 found
    refine isNested_relatedRows (nested_layerTable _) ?_ (isNested_ofInterval? tied) ?_
    · refine List.forall_mem_cons.2 ⟨?_, List.forall_mem_singleton.2 ?_⟩
      · exact isNested_tiedJoin (by decide) (by decide)
          (Fragment.isSealed_compareColumns (by decide) (by decide) (by decide))
      · exact isNested_tiedJoin (by decide) (by decide)
          (Fragment.isSealed_compareColumns (by decide) (by decide) (by decide))
    · exact List.forall_mem_cons.2 ⟨isNested_column (by decide), List.forall_mem_cons.2
        ⟨isNested_column (by decide), List.forall_mem_singleton.2 (isNested_column (by decide))⟩⟩
  · obtain ⟨condition, tied, rfl⟩ := Option.map_eq_some_iff.1 found
    exact isNested_relatedRows (by decide) (by simp)
      (List.forall_mem_cons.2 ⟨isNested_namedAttribute _,
        List.forall_mem_singleton.2 (isNested_ofGraph? (by decide) tied)⟩)
      (List.forall_mem_singleton.2 (isNested_column (by decide)))
  · obtain ⟨condition, tied, rfl⟩ := Option.map_eq_some_iff.1 found
    exact isNested_relatedRows (by decide) (by simp)
      (List.forall_mem_cons.2 ⟨isNested_namedAttribute _,
        List.forall_mem_singleton.2 (isNested_ofSpeaker? tied)⟩)
      (List.forall_mem_singleton.2 (isNested_column (by decide)))
  · obtain ⟨condition, tied, rfl⟩ := Option.map_eq_some_iff.1 found
    exact isNested_relatedRows (by decide) (by simp)
      (List.forall_mem_singleton.2 (isNested_ofGraph? (by decide) tied))
      (List.forall_mem_singleton.2 (isNested_column (by decide)))
  · obtain ⟨condition, tied, rfl⟩ := Option.map_eq_some_iff.1 found
    refine isNested_relatedRows (by decide) ?_
      (List.forall_mem_singleton.2 (isNested_ofGraph? (by decide) tied))
      (List.forall_mem_singleton.2 (isNested_column (by decide)))
    exact List.forall_mem_singleton.2 (isNested_tiedJoin (by decide) (by decide)
      (Fragment.isSealed_compareColumns (by decide) (by decide) (by decide)))
  · obtain ⟨condition, tied, rfl⟩ := Option.map_eq_some_iff.1 found
    exact isNested_relatedRows (by decide) (by simp)
      (List.forall_mem_singleton.2 (isNested_ofSpeaker? tied))
      (List.forall_mem_singleton.2 (isNested_column (by decide)))
  · cases found
    exact isNested_relatedRows (by decide) (by simp) isNested_ofMainSpeaker
      (List.forall_mem_singleton.2 (isNested_column (by decide)))

/-! ### Operands -/

/-- What a layer function is about is nested where it has rows. -/
theorem isNested_refer {layer : String} {entry : Entry} {related : Related}
    (found : (scene.refer layer).value = .other entry related) : related.IsNested := by
  unfold refer at found
  split at found
  · contradiction
  · split at found
    · contradiction
    · split at found
      · rw [value_notApplicable] at found
        contradiction
      · rename_i rows
        split at found <;> cases found <;> exact isNested_related? rows

theorem isSealed_listing (function layer : String) (attr : Attribute) :
    (scene.listing function layer attr).value.IsSealed := by
  unfold listing
  rw [Noted.value_bind]
  split
  · simp [Value.IsSealed]
  · exact List.forall_mem_singleton.2 (isSealed_ownAttribute attr)
  · rename_i found
    split
    · rename_i column
      exact ⟨isNested_refer found, isSealed_relatedColumn? column⟩
    · simpa [Value.IsSealed] using isSealed_nothing

theorem isSealed_firstValue (layer : String) (attr : Attribute) :
    (scene.firstValue layer attr).value.IsSealed := by
  unfold firstValue
  rw [Noted.value_bind]
  split
  · exact isSealed_nothing
  · exact isSealed_ownAttribute attr
  · rename_i found
    split
    · rename_i column
      exact (isNested_refer found).first (isSealed_relatedColumn? column).isNested
    · simpa [Value.IsSealed] using isSealed_nothing

theorem isSealed_annotators (layer : String) : (scene.annotators layer).value.IsSealed := by
  unfold annotators
  rw [Noted.value_bind]
  split
  · simp [Value.IsSealed]
  · split
    · simpa [Value.IsSealed] using isSealed_nothing
    · simpa [Value.IsSealed] using isSealed_nothing
    · exact List.forall_mem_singleton.2 (Fragment.isSealed_column (by decide))
  · rename_i found
    split
    · simpa [Value.IsSealed] using isSealed_nothing
    · exact ⟨isNested_refer found, Fragment.isSealed_column (by decide)⟩

theorem isSealed_single (operand : Operand) {value : Value} (whole : value.IsSealed) :
    (single operand value).value.IsSealed := by
  cases value with
  | scalar fragment => exact whole
  | literals items => exact isSealed_nothing
  | rows related column => exact isSealed_nothing

mutual

theorem isSealed_value : ∀ operand : Operand, (scene.value operand).value.IsSealed
  | .text _ => Fragment.isSealed_bound _
  | .integer _ => Fragment.isSealed_bound _
  | .number _ => Fragment.isSealed_bound _
  | .null => isSealed_nothing
  | .list items => by
      simpa only [value, Noted.value_bind, Noted.value_pure, Value.IsSealed] using
        isSealed_scalars items
  | .own attr => by
      simpa only [value, Noted.value_bind, Noted.value_pure, Value.IsSealed] using
        isSealed_ownAttribute attr
  | .first layer attr => by
      simpa only [value] using isSealed_firstValue layer attr
  | .labels layer => by
      simpa only [value] using isSealed_listing "labels" layer .label
  | .all layer => by
      simpa only [value] using isSealed_listing "all" layer .id
  | .annotators layer => by
      simpa only [value] using isSealed_annotators layer
  | .length inner => by
      simpa only [value, Noted.value_bind, Noted.value_pure, Value.IsSealed] using
        isSealed_size (isSealed_value inner)
  | .coalesce items => by
      have listed := Fragment.isNested_commaList fun item member =>
        (isSealed_scalars items item member).isNested
      simpa only [value, Noted.value_bind, Noted.value_pure, Value.IsSealed] using
        isSealed_apply listed (by decide)

theorem isSealed_scalars : ∀ items : List Operand,
    ∀ fragment ∈ (scene.scalars items).value, fragment.IsSealed
  | [] => by simp [scalars]
  | item :: items => by
      rw [scalars, Noted.value_bind, Noted.value_bind, Noted.value_bind, Noted.value_pure]
      exact List.forall_mem_cons.2
        ⟨isSealed_single item (isSealed_value item), isSealed_scalars items⟩

end

theorem isSealed_scalar (operand : Operand) : (scene.scalar operand).value.IsSealed := by
  rw [scalar, Noted.value_bind]
  exact isSealed_single operand (isSealed_value operand)

end Scene

end CorpusQuery.Filter
