import CorpusQuery.Schema.Storage
import CorpusQuery.Text.Blank

namespace CorpusQuery

/-! Schemas: the layers of a corpus with the parts they play, each layer
classified by where its rows are stored. -/

inductive SchemaError where
  | duplicateLayer (id : String)
  | unknownParent (layer parent : String)
  | unknownRoot (role : Role) (layer : String)
  | cycle (layer : String)
  | missingTable (layer : String)
  | missingAttribute (layer : String)
deriving DecidableEq, Repr

namespace SchemaError

def message : SchemaError → String
  | .duplicateLayer id => "duplicate layer id: " ++ id
  | .unknownParent layer parent => "layer " ++ layer ++ " has unknown parent " ++ parent
  | .unknownRoot role layer => role.name ++ " layer " ++ layer ++ " is not defined"
  | .cycle layer => "layer hierarchy contains a cycle at " ++ layer
  | .missingTable layer => "temporal layer " ++ layer ++ " has no table id"
  | .missingAttribute layer => "attribute layer " ++ layer ++ " has an empty attribute name"

end SchemaError

/-- A layer and where its rows are stored. -/
structure Entry where
  layer : Layer
  storage : Storage
deriving DecidableEq, Repr

structure Schema where
  entries : List Entry
  roots : Roots
deriving DecidableEq, Repr

namespace Schema

/-! ### Construction -/

def find? (layers : List Layer) (id : String) : Option Layer :=
  layers.find? (·.id == id)

/-- The first id that an earlier layer has as well. -/
def repeated? (seen : List String) : List Layer → Option String
  | [] => none
  | layer :: rest =>
      if layer.id ∈ seen then some layer.id else repeated? (layer.id :: seen) rest

theorem countP_lt_countP_of_mem {p q : α → Bool} {a : α} {as : List α} (member : a ∈ as)
    (weaker : ∀ x, p x → q x) (holds : q a) (fails : ¬p a) : as.countP p < as.countP q := by
  induction as with
  | nil => simp at member
  | cons first rest ih =>
      have others : rest.countP p ≤ rest.countP q :=
        List.countP_mono_left fun x _ => weaker x
      rw [List.countP_cons, List.countP_cons]
      rcases List.mem_cons.1 member with rfl | later
      · simp only [holds, fails, if_true, Bool.false_eq_true, if_false]
        omega
      · have smaller := ih later
        by_cases here : p first
        · simp only [here, weaker first here, if_true]
          omega
        · simp only [here, Bool.false_eq_true, if_false]
          omega

/-- Going up to an unseen parent leaves fewer layers unseen. -/
theorem unseen_lt {layers : List Layer} {seen : List String} {parent : String} {above : Layer}
    (unseen : parent ∉ seen) (found : find? layers parent = some above) :
    layers.countP (fun layer => decide (layer.id ∉ parent :: seen)) <
      layers.countP (fun layer => decide (layer.id ∉ seen)) := by
  have member : above ∈ layers := List.mem_of_find?_eq_some found
  have named : above.id = parent := by simpa using List.find?_some found
  refine countP_lt_countP_of_mem member ?_ ?_ ?_
  · simp only [List.mem_cons, decide_eq_true_eq, not_or]
    exact fun _ neither => neither.2
  · simpa [named] using unseen
  · simp [named]

/-- The parent of a layer, the parent's parent and so on, nearest first; nothing if
the chain comes back to one of the ids in `seen`. -/
def ancestors? (layers : List Layer) (seen : List String) (layer : Layer) :
    Option (List Layer) :=
  match layer.parentId with
  | none => some []
  | some parent =>
      if known : parent ∈ seen then none
      else
        match found : find? layers parent with
        | none => some []
        | some above =>
            have := unseen_lt known found
            (ancestors? layers (parent :: seen) above).map (above :: ·)
termination_by layers.countP fun layer => decide (layer.id ∉ seen)
decreasing_by exact this

/-- The scope of a layer from its place below the word or turn layer, given the
layer and its ancestors, nearest first.  Aligned layers directly below the word
layer that allow peers are segments, and so is everything below them. -/
def inferScope (roots : Roots) (lineage : List Layer) : Scope :=
  let belowTurn :=
    match roots.turn with
    | some turn => lineage.any (·.id == turn)
    | none => false
  let other := if belowTurn then .phrase else .span
  match roots.word with
  | some word =>
      if lineage.any (·.id == word) then
        let below := lineage.takeWhile (·.id != word)
        if below.any fun layer =>
            layer.parentId == some word && layer.alignment == .interval && layer.peers then
          .segment
        else .word
      else other
  | none => other

/-- The entity that a layer stands for by the first of its parts. -/
def entity? (roots : Roots) (id : String) : Option Entity :=
  if roots.participant = some id then some .participant
  else if roots.mainParticipant = some id then some .mainParticipant
  else if roots.corpus = some id then some .corpus
  else if roots.episode = some id then some .episode
  else none

/-- Where the rows of a layer are: with its entity, with its attribute, or in a
table of its own. -/
def classify (roots : Roots) (layer : Layer) (ancestors : List Layer) :
    Except SchemaError Storage :=
  match entity? roots layer.id with
  | some entity => .ok (.entity entity)
  | none =>
      match layer.attributeKey with
      | some key =>
          if Text.allBlank key.name then .error (.missingAttribute layer.id)
          else .ok (.attributed key.owner key.name)
      | none =>
          match layer.tableId with
          | none => .error (.missingTable layer.id)
          | some table =>
              .ok (.temporal (layer.scope.getD (inferScope roots (layer :: ancestors))) table)

def enter (layers : List Layer) (roots : Roots) (layer : Layer) : Except SchemaError Entry :=
  match ancestors? layers [layer.id] layer with
  | none => .error (.cycle layer.id)
  | some ancestors => (classify roots layer ancestors).map (⟨layer, ·⟩)

/-- The first layer whose parent is not among the layers. -/
def orphan? (layers : List Layer) : Option SchemaError :=
  layers.findSome? fun layer =>
    match layer.parentId with
    | none => none
    | some parent =>
        if (find? layers parent).isNone then some (.unknownParent layer.id parent) else none

/-- The first part that an unknown layer is to play. -/
def unknownRoot? (layers : List Layer) (roots : Roots) : Option SchemaError :=
  Role.all.findSome? fun role =>
    match roots.layer? role with
    | none => none
    | some id => if (find? layers id).isNone then some (.unknownRoot role id) else none

/-- The schema of these layers, or the first fault: repeated ids, then unknown
parents, then unknown layers with a part to play, then the layers one by one. -/
def build (layers : List Layer) (roots : Roots) : Except SchemaError Schema :=
  match repeated? [] layers with
  | some id => .error (.duplicateLayer id)
  | none =>
      match orphan? layers with
      | some fault => .error fault
      | none =>
          match unknownRoot? layers roots with
          | some fault => .error fault
          | none => (layers.mapM (enter layers roots)).map (⟨·, roots⟩)

/-! ### Queries -/

def layers (schema : Schema) : List Layer :=
  schema.entries.map Entry.layer

def entry? (schema : Schema) (id : String) : Option Entry :=
  schema.entries.find? (·.layer.id == id)

def layer? (schema : Schema) (id : String) : Option Layer :=
  (schema.entry? id).map Entry.layer

def storage? (schema : Schema) (id : String) : Option Storage :=
  (schema.entry? id).map Entry.storage

/-- The layer that plays a part. -/
def designated? (schema : Schema) (role : Role) : Option Entry :=
  (schema.roots.layer? role).bind schema.entry?

def plays (schema : Schema) (role : Role) (id : String) : Bool :=
  schema.roots.layer? role == some id

def parent? (schema : Schema) (id : String) : Option Layer :=
  ((schema.layer? id).bind Layer.parentId).bind schema.layer?

end Schema

end CorpusQuery
