import CorpusQuery.Filter.Condition

namespace CorpusQuery.Filter

/-! The ways in which comparisons and inclusions are looked at, and the texts in them that
are settled by what they say instead of being bound. -/

open Sql

namespace Noted

@[simp] theorem problems_pure (value : α) : (pure value : Noted α).problems = [] := rfl

@[simp] theorem problems_bind (part : Noted α) (next : α → Noted β) :
    (part >>= next).problems = part.problems ++ (next part.value).problems := rfl

end Noted

namespace Scene

theorem mem_numbersOf {storage : Storage} {uids : List String} {number : Int64} :
    number ∈ numbersOf storage uids ↔
      ∃ text ∈ uids, ∃ uid, Uid.read? text = some uid ∧ uid.belongsTo storage ∧
        uid.number = number := by
  simp only [numbersOf, List.mem_filterMap, Option.map_eq_some_iff, Option.filter_eq_some_iff,
    and_assoc]

variable {scene : Scene} {left right : Operand} {op : Comparison}

/-- The uids and the ids of layers that a predicate is settled by: what is compared with the
id of the layer, of an annotation or of the parent of one in time, and what is in a list
that has the id of an annotation. -/
def inlined (scene : Scene) : Expression → List String
  | .compare left op right =>
      if op.isEquality then
        match attributeAndText? left right with
        | some (.layerId, id) => [id]
        | some (.id, uid) => if scene.target.storage?.isSome then [uid] else []
        | some (.parentId, uid) => if scene.target.isInterval then [uid] else []
        | _ => []
      else []
  | .includes list item =>
      if scene.target.storage?.isSome then (idList? list item).getD [] else []
  | _ => []

/-- What a comparison comes to. -/
inductive Comparing (scene : Scene) (left : Operand) (op : Comparison) (right : Operand) :
    Noted Fragment → Prop
  | ofLayer {id : String} (equality : op.isEquality)
      (settled : attributeAndText? left right = some (.layerId, id)) :
      Comparing scene left op right (scene.isOfLayer id op.isNegated)
  | oneOf {uid : String} {storage : Storage} {layer : Layer} (equality : op.isEquality)
      (settled : attributeAndText? left right = some (.id, uid))
      (stored : scene.target.storage? = some storage) (known : scene.target.layer? = some layer) :
      Comparing scene left op right (isOneOf storage layer.id [uid] op.isNegated)
  | childOf {uid : String} {layer : Layer} {scope : Scope} {table : Int64}
      (equality : op.isEquality) (settled : attributeAndText? left right = some (.parentId, uid))
      (inTime : scene.target = .intervals layer scope table) :
      Comparing scene left op right (scene.isChildOf layer.id uid op.isNegated)
  | null {operand : Operand} (equality : op.isEquality)
      (beside : besideNull? left right = some operand)
      (bound : scene.inlined (.compare left op right) = []) :
      Comparing scene left op right (scene.nullTest operand op.isNegated)
  | plain (other : op.isEquality → besideNull? left right = none)
      (bound : scene.inlined (.compare left op right) = []) :
      Comparing scene left op right (scene.plainCompare left op right)

theorem comparing_compare : Comparing scene left op right (scene.compare left op right) := by
  cases equality : op.isEquality with
  | false =>
      have same : scene.compare left op right = scene.plainCompare left op right := by
        simp [compare, equality]
      rw [same]
      exact .plain (by simp [equality]) (by simp [inlined, equality])
  | true =>
      unfold compare
      simp only [equality, if_true]
      split
      · rename_i id settled
        exact .ofLayer equality settled
      · rename_i uid layer scope table settled inTime
        exact .oneOf equality settled (by rw [inTime]; rfl) (by rw [inTime]; rfl)
      · rename_i uid layer owner name settled attributed
        exact .oneOf equality settled (by rw [attributed]; rfl) (by rw [attributed]; rfl)
      · rename_i uid layer scope table settled inTime
        exact .childOf equality settled inTime
      · rename_i notLayer notInterval notAttributed notParent
        have bound : scene.inlined (.compare left op right) = [] := by
          simp only [inlined, equality, if_true]
          split
          · rename_i id settled
            exact absurd settled (notLayer id)
          · rename_i uid settled
            cases target : scene.target with
            | intervals layer scope table => exact absurd target (notInterval uid _ _ _ settled)
            | attributed layer owner name => exact absurd target (notAttributed uid _ _ _ settled)
            | _ => simp [Target.storage?]
          · rename_i uid settled
            cases target : scene.target with
            | intervals layer scope table => exact absurd target (notParent uid _ _ _ settled)
            | _ => simp [Target.isInterval]
          · rfl
        split
        · rename_i operand found
          exact .null equality found bound
        · rename_i other
          exact .plain (fun _ => other) bound

variable {list item : Operand}

theorem mapM_asText?_eq_some {items : List Operand} {uids : List String} :
    items.mapM asText? = some uids ↔ items = uids.map .text := by
  induction items generalizing uids with
  | nil => simp [eq_comm]
  | cons first rest ih =>
      cases uids with
      | nil => cases first <;> simp [List.mapM_cons, asText?, Option.bind_eq_some_iff]
      | cons uid others =>
          cases first with
          | text value =>
              simp only [List.mapM_cons, asText?, Option.pure_def, Option.bind_eq_bind,
                Option.bind_some, Option.bind_eq_some_iff, ih, Option.some.injEq,
                List.cons.injEq, List.map_cons, Operand.text.injEq]
              constructor
              · rintro ⟨_, rest, rfl, rfl⟩
                exact ⟨rfl, rest⟩
              · rintro ⟨rfl, rest⟩
                exact ⟨others, rest, rfl, rfl⟩
          | _ => simp [List.mapM_cons, asText?]

theorem idList?_eq_some {uids : List String} :
    idList? list item = some uids ↔ list = .list (uids.map .text) ∧ item = .own .id := by
  unfold idList?
  split
  · simp [mapM_asText?_eq_some]
  · rename_i other
    simp only [reduceCtorEq, false_iff, not_and]
    rintro rfl rfl
    exact other _ rfl rfl

/-- What the inclusion of an item in a list comes to. -/
inductive Including (scene : Scene) (list item : Operand) : Noted Fragment → Prop
  | oneOf {uids : List String} {storage : Storage} {layer : Layer}
      (settled : idList? list item = some uids) (stored : scene.target.storage? = some storage)
      (known : scene.target.layer? = some layer) :
      Including scene list item (isOneOf storage layer.id uids false)
  | plain (bound : scene.inlined (.includes list item) = []) :
      Including scene list item (scene.plainIncludes list item)

theorem layer?_of_storage? {target : Target} {storage : Storage}
    (stored : target.storage? = some storage) : ∃ layer, target.layer? = some layer := by
  cases target with
  | intervals layer scope table => exact ⟨layer, rfl⟩
  | attributed layer owner name => exact ⟨layer, rfl⟩
  | participants layer mainOnly => contradiction
  | transcripts => contradiction
  | unresolved => contradiction

theorem including_includes : Including scene list item (scene.includes list item) := by
  unfold includes
  split
  · rename_i uids storage settled stored
    obtain ⟨layer, known⟩ := layer?_of_storage? stored
    have same : scene.target.layerId?.getD "" = layer.id := by
      simp [Target.layerId?, known]
    rw [same]
    exact .oneOf settled stored known
  · rename_i other
    apply Including.plain
    rw [inlined]
    split
    · rename_i isSome
      obtain ⟨storage, stored⟩ := Option.isSome_iff_exists.1 isSome
      cases settled : idList? list item with
      | none => rfl
      | some uids => exact absurd stored (other uids storage settled)
    · rfl

end Scene

end CorpusQuery.Filter
