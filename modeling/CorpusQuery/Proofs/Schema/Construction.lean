import CorpusQuery.Proofs.Schema.Hierarchy
import Mathlib.Data.List.Forall2

namespace CorpusQuery.Schema

/-! Which layers make a schema, and what the schema says of them. -/

section

variable {layers : List Layer} {roots : Roots}

/-! ### Well-formed layers -/

/-- The parts whose layers have no annotations, first things first. -/
def entityRoles : List (Role × Entity) :=
  [(.participant, .participant), (.mainParticipant, .mainParticipant), (.corpus, .corpus),
    (.episode, .episode)]

/-- The entity of the first such part that a layer plays. -/
def leading? (roots : Roots) (id : String) : Option Entity :=
  (entityRoles.find? fun played => roots.layer? played.1 == some id).map Prod.snd

theorem entity?_eq_leading? (roots : Roots) (id : String) :
    entity? roots id = leading? roots id := by
  unfold entity?
  repeat' split
  all_goals simp_all [leading?, entityRoles, Roots.layer?]

/-- A layer whose rows are not those of an entity has the name of an attribute, or a
table. -/
def IsStored (roots : Roots) (layer : Layer) : Prop :=
  leading? roots layer.id = none →
    (∀ key, layer.attributeKey = some key → ∃ c ∈ key.name.toList, ¬Text.isBlank c) ∧
    (layer.attributeKey = none → layer.tableId.isSome)

/-- What a list of layers and the parts they play have to satisfy. -/
structure WellFormed (layers : List Layer) (roots : Roots) : Prop where
  unique : (layers.map Layer.id).Nodup
  parents : ∀ layer ∈ layers, ∀ parent, layer.parentId = some parent →
    parent ∈ layers.map Layer.id
  roles : ∀ role id, roots.layer? role = some id → id ∈ layers.map Layer.id
  acyclic : Acyclic layers
  stored : ∀ layer ∈ layers, IsStored roots layer

/-- Where the rows of a layer are: with the entity of its first part, or else with its
attribute, or else in its table, with the scope that it has been given or the one of its
place. -/
structure Classified (layers : List Layer) (roots : Roots) (layer : Layer) (storage : Storage) :
    Prop where
  entity : ∀ entity, leading? roots layer.id = some entity → storage = .entity entity
  attributed : leading? roots layer.id = none → ∀ key, layer.attributeKey = some key →
    storage = .attributed key.owner key.name
  temporal : leading? roots layer.id = none → layer.attributeKey = none →
    ∃ scope table, storage = .temporal scope table ∧ layer.tableId = some table ∧
      (∀ given, layer.scope = some given → scope = given) ∧
      (layer.scope = none → HasScope layers roots layer scope)

/-! ### Checks -/

theorem repeated?_eq_none {seen : List String} :
    repeated? seen layers = none ↔
      (layers.map Layer.id).Nodup ∧ ∀ layer ∈ layers, layer.id ∉ seen := by
  induction layers generalizing seen with
  | nil => simp [repeated?]
  | cons first rest ih =>
      rw [repeated?]
      split
      · rename_i known
        simp [known]
      · rename_i fresh
        rw [ih, List.map_cons, List.nodup_cons, List.forall_mem_cons]
        simp only [List.mem_cons, not_or, List.mem_map, not_exists, not_and]
        constructor
        · rintro ⟨nodup, others⟩
          exact ⟨⟨fun layer member => (others layer member).1, nodup⟩, fresh,
            fun layer member => (others layer member).2⟩
        · rintro ⟨⟨other, nodup⟩, _, unseen⟩
          exact ⟨nodup, fun layer member => ⟨other layer member, unseen layer member⟩⟩

theorem orphan?_eq_none :
    orphan? layers = none ↔ ∀ layer ∈ layers, ∀ parent, layer.parentId = some parent →
      parent ∈ layers.map Layer.id := by
  rw [orphan?, List.findSome?_eq_none_iff]
  apply forall₂_congr
  intro layer _
  cases layer.parentId with
  | none => simp
  | some parent => simp [← find?_isSome, Option.isSome_iff_ne_none]

theorem unknownRoot?_eq_none :
    unknownRoot? layers roots = none ↔
      ∀ role id, roots.layer? role = some id → id ∈ layers.map Layer.id := by
  have all (role : Role) : role ∈ Role.all := by cases role <;> decide
  rw [unknownRoot?, List.findSome?_eq_none_iff]
  simp only [all, true_implies]
  apply forall_congr'
  intro role
  cases roots.layer? role with
  | none => simp
  | some id => simp [← find?_isSome, Option.isSome_iff_ne_none]

theorem classify_isOk {layer : Layer} (ancestors : List Layer) :
    (∃ storage, classify roots layer ancestors = .ok storage) ↔ IsStored roots layer := by
  unfold classify IsStored
  rw [entity?_eq_leading?]
  cases leading? roots layer.id with
  | some entity => simp
  | none =>
      cases layer.attributeKey with
      | some key =>
          have named : (∃ c ∈ key.name.toList, ¬Text.isBlank c) ↔ ¬Text.allBlank key.name := by
            simp [Text.allBlank]
          by_cases blank : Text.allBlank key.name
          · simpa [blank] using mt named.1 (not_not_intro blank)
          · simpa [blank] using named.2 blank
      | none => cases layer.tableId <;> simp

theorem classified_of_classify {layer : Layer} {ancestors : List Layer} {storage : Storage}
    (placed : HasScope layers roots layer (inferScope roots (layer :: ancestors)))
    (classified : classify roots layer ancestors = .ok storage) :
    Classified layers roots layer storage := by
  unfold classify at classified
  rw [entity?_eq_leading?] at classified
  split at classified
  · rename_i entity leads
    cases classified
    constructor <;> simp [leads]
  · rename_i leads
    split at classified
    · rename_i key attributed
      split at classified
      · contradiction
      · cases classified
        constructor <;> simp [leads, attributed]
    · rename_i plain
      split at classified
      · contradiction
      · rename_i table numbered
        cases classified
        refine { entity := by simp [leads], attributed := by simp [plain], temporal := ?_ }
        intro _ _
        refine ⟨_, table, rfl, numbered, ?_, ?_⟩
        · intro given explicit
          rw [explicit, Option.getD_some]
        · intro implicit
          rw [implicit, Option.getD_none]
          exact placed

/-! ### Construction -/

theorem mapM_eq_ok_iff {f : α → Except ε β} {as : List α} {bs : List β} :
    as.mapM f = .ok bs ↔ List.Forall₂ (fun a b => f a = .ok b) as bs := by
  induction as generalizing bs with
  | nil => simp [pure, Except.pure, eq_comm]
  | cons a rest ih =>
      rw [List.mapM_cons]
      cases first : f a with
      | error fault => simp [bind, Except.bind, List.forall₂_cons_left_iff, first]
      | ok b =>
          cases others : rest.mapM f with
          | error fault =>
              simp [bind, Except.bind, List.forall₂_cons_left_iff, first, ← ih, others]
          | ok tail =>
              simp [bind, Except.bind, pure, Except.pure, List.forall₂_cons_left_iff, first, ← ih,
                others, eq_comm]

theorem enter_eq_ok {layer : Layer} {entry : Entry} :
    enter layers roots layer = .ok entry ↔
      ∃ ancestors, ancestors? layers [layer.id] layer = some ancestors ∧
        classify roots layer ancestors = .ok entry.storage ∧ entry.layer = layer := by
  unfold enter
  cases ancestors? layers [layer.id] layer with
  | none => simp
  | some ancestors =>
      cases classified : classify roots layer ancestors with
      | error fault => simp [Except.map, classified]
      | ok storage =>
          cases entry
          simp [Except.map, classified, eq_comm, and_comm]

theorem build_eq_ok {schema : Schema} :
    build layers roots = .ok schema ↔
      ((layers.map Layer.id).Nodup ∧
        (∀ layer ∈ layers, ∀ parent, layer.parentId = some parent →
          parent ∈ layers.map Layer.id) ∧
        ∀ role id, roots.layer? role = some id → id ∈ layers.map Layer.id) ∧
      List.Forall₂ (fun layer entry => enter layers roots layer = .ok entry) layers
        schema.entries ∧ schema.roots = roots := by
  have distinct : repeated? [] layers = none ↔ (layers.map Layer.id).Nodup := by
    simp [repeated?_eq_none]
  rw [← distinct, ← orphan?_eq_none, ← unknownRoot?_eq_none, ← mapM_eq_ok_iff]
  unfold build
  cases repeated? [] layers with
  | some id => simp
  | none =>
      cases orphan? layers with
      | some fault => simp
      | none =>
          cases unknownRoot? layers roots with
          | some fault => simp
          | none =>
              cases layers.mapM (enter layers roots) with
              | error fault => simp [Except.map]
              | ok entries =>
                  cases schema
                  simp [Except.map, eq_comm]

theorem exists_forall₂_iff {R : α → β → Prop} {as : List α} :
    (∃ bs, List.Forall₂ R as bs) ↔ ∀ a ∈ as, ∃ b, R a b := by
  induction as with
  | nil => simp
  | cons a rest ih =>
      rw [List.forall_mem_cons, ← ih]
      constructor
      · rintro ⟨_, related⟩
        cases related with
        | cons first others => exact ⟨⟨_, first⟩, _, others⟩
      · rintro ⟨⟨b, first⟩, bs, others⟩
        exact ⟨b :: bs, .cons first others⟩

theorem exists_enter_iff {layer : Layer} :
    (∃ entry, enter layers roots layer = .ok entry) ↔
      (ancestors? layers [layer.id] layer).isSome ∧ IsStored roots layer := by
  simp only [enter_eq_ok, Option.isSome_iff_exists]
  constructor
  · rintro ⟨entry, ancestors, walked, classified, _⟩
    exact ⟨⟨ancestors, walked⟩, (classify_isOk ancestors).1 ⟨_, classified⟩⟩
  · rintro ⟨⟨ancestors, walked⟩, stored⟩
    obtain ⟨storage, classified⟩ := (classify_isOk ancestors).2 stored
    exact ⟨⟨layer, storage⟩, ancestors, walked, classified, rfl⟩

theorem exists_build_iff :
    (∃ schema, build layers roots = .ok schema) ↔ WellFormed layers roots := by
  constructor
  · rintro ⟨schema, built⟩
    obtain ⟨⟨unique, parents, roles⟩, entered, _⟩ := build_eq_ok.1 built
    have each := exists_forall₂_iff.1 ⟨_, entered⟩
    refine ⟨unique, parents, roles, (acyclic_iff unique).2 ?_, ?_⟩
    · intro layer member
      exact (exists_enter_iff.1 (each layer member)).1
    · intro layer member
      exact (exists_enter_iff.1 (each layer member)).2
  · intro wellFormed
    have ended := (acyclic_iff wellFormed.unique).1 wellFormed.acyclic
    have each : ∀ layer ∈ layers, ∃ entry, enter layers roots layer = .ok entry :=
      fun layer member => exists_enter_iff.2 ⟨ended layer member, wellFormed.stored layer member⟩
    obtain ⟨entries, entered⟩ := exists_forall₂_iff.2 each
    refine ⟨⟨entries, roots⟩, build_eq_ok.2 ⟨⟨?_, ?_, ?_⟩, entered, rfl⟩⟩
    · exact wellFormed.unique
    · exact wellFormed.parents
    · exact wellFormed.roles

/-! ### Look-ups -/

theorem layers_of_entered {entries : List Entry}
    (entered : List.Forall₂ (fun layer entry => enter layers roots layer = .ok entry) layers
      entries) : entries.map Entry.layer = layers := by
  have same : List.Forall₂ (fun layer (entry : Entry) => layer = entry.layer) layers entries := by
    apply entered.imp
    intro layer entry found
    obtain ⟨_, _, _, same⟩ := enter_eq_ok.1 found
    exact same.symm
  rw [← List.forall₂_map_right_iff, List.forall₂_eq_eq_eq] at same
  exact same.symm

theorem exists_layer_of_mem {R : Layer → Entry → Prop} {entries : List Entry}
    (entered : List.Forall₂ R layers entries) {entry : Entry} (member : entry ∈ entries) :
    ∃ layer ∈ layers, R layer entry := by
  induction entered with
  | nil => contradiction
  | cons first _ ih =>
      rcases List.mem_cons.1 member with rfl | later
      · exact ⟨_, List.mem_cons_self, first⟩
      · obtain ⟨layer, known, found⟩ := ih later
        exact ⟨layer, List.mem_cons_of_mem _ known, found⟩

theorem layer?_eq_find? (schema : Schema) (id : String) :
    schema.layer? id = find? schema.layers id := by
  rw [layer?, entry?, find?, Schema.layers, List.find?_map]
  rfl

/-- The storage of a layer is the one by which it was entered. -/
theorem storage?_of_build {schema : Schema} (built : build layers roots = .ok schema)
    {layer : Layer} (member : layer ∈ layers) :
    ∃ storage, schema.storage? layer.id = some storage ∧ Classified layers roots layer storage := by
  obtain ⟨⟨unique, _, _⟩, entered, _⟩ := build_eq_ok.1 built
  have acyclic := (exists_build_iff.1 ⟨schema, built⟩).acyclic
  have found : schema.layer? layer.id = some layer := by
    rw [layer?_eq_find?, Schema.layers, layers_of_entered entered]
    exact (find?_eq_some_iff unique).2 ⟨member, rfl⟩
  obtain ⟨entry, inSchema, same⟩ := Option.map_eq_some_iff.1 found
  obtain ⟨source, _, fromSource⟩ :=
    exists_layer_of_mem entered (List.mem_of_find?_eq_some inSchema)
  obtain ⟨ancestors, walked, classified, sameSource⟩ := enter_eq_ok.1 fromSource
  obtain rfl : layer = source := same.symm.trans sameSource
  refine ⟨entry.storage, by rw [storage?, inSchema, Option.map_some], ?_⟩
  exact classified_of_classify (hasScope_inferScope unique acyclic member walked roots) classified

/-- Layers with the parts they play make a schema exactly if they are well-formed.  The
schema has the layers in their order, each of them under its id, and keeps the rows of
each where its parts, its attribute, its scope or its place in the hierarchy say. -/
theorem build_iff_wellFormed (layers : List Layer) (roots : Roots) :
    ((∃ schema, build layers roots = .ok schema) ↔ WellFormed layers roots) ∧
      ∀ schema, build layers roots = .ok schema →
        schema.layers = layers ∧ schema.roots = roots ∧
        (∀ id layer, schema.layer? id = some layer ↔ layer ∈ layers ∧ layer.id = id) ∧
        (∀ id, schema.storage? id = none ↔ id ∉ layers.map Layer.id) ∧
        ∀ layer ∈ layers, ∃ storage, schema.storage? layer.id = some storage ∧
          Classified layers roots layer storage := by
  refine ⟨exists_build_iff, ?_⟩
  intro schema built
  obtain ⟨⟨unique, _, _⟩, entered, sameRoots⟩ := build_eq_ok.1 built
  have sameLayers : schema.layers = layers := layers_of_entered entered
  refine ⟨sameLayers, sameRoots, ?_, ?_, fun layer member => storage?_of_build built member⟩
  · intro id layer
    rw [layer?_eq_find?, sameLayers, find?_eq_some_iff unique]
  · intro id
    have known := layer?_eq_find? schema id
    rw [sameLayers] at known
    rw [← find?_isSome, ← known, storage?, layer?]
    simp

end

/-! ### Schemas by their entries -/

/-- The schema with these entries, which has to be the one that is built from their layers. -/
def ofEntries (entries : List Entry) (roots : Roots)
    (_built : build (entries.map Entry.layer) roots = .ok ⟨entries, roots⟩ := by decide +kernel) :
    Schema :=
  ⟨entries, roots⟩

/-- Words and nothing else. -/
def wordsOnly : Schema :=
  .ofEntries [⟨{ Layer.ofId "word" with tableId := some 0 }, .temporal .word 0⟩]
    { word := some "word" }

/-! ### A layer below a segment layer, entered before the layers above it -/

namespace Phones

def phones : Layer :=
  { Layer.ofId "phones" with parentId := some "segment", tableId := some 5 }

def layers : List Layer :=
  [phones,
    { Layer.ofId "segment" with
      parentId := some "word", tableId := some 1, alignment := .interval, peers := true },
    { Layer.ofId "word" with parentId := some "turn", tableId := some 0, alignment := .interval },
    { Layer.ofId "turn" with tableId := some 11, alignment := .interval },
    { Layer.ofId "language" with attributeKey := some ⟨.transcript, "language"⟩ },
    Layer.ofId "corpus"]

def roots : Roots :=
  { word := some "word", turn := some "turn", corpus := some "corpus" }

def storages : List Storage :=
  [.temporal .segment 5, .temporal .segment 1, .temporal .word 0, .temporal .phrase 11,
    .attributed .transcript "language", .entity .corpus]

end Phones

theorem phones_wellFormed :
    WellFormed Phones.layers Phones.roots ∧
      Classified Phones.layers Phones.roots Phones.phones (.temporal .segment 5) := by
  obtain ⟨accepted, each⟩ := build_iff_wellFormed Phones.layers Phones.roots
  have built : build Phones.layers Phones.roots =
      .ok ⟨List.zipWith Entry.mk Phones.layers Phones.storages, Phones.roots⟩ := by
    decide +kernel
  obtain ⟨_, _, _, _, classified⟩ := each _ built
  obtain ⟨storage, found, known⟩ := classified Phones.phones (by simp [Phones.layers])
  refine ⟨accepted.1 ⟨_, built⟩, ?_⟩
  obtain rfl : .temporal .segment 5 = storage := Option.some.inj found
  exact known

end CorpusQuery.Schema
