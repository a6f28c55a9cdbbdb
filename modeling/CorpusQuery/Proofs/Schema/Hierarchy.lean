import CorpusQuery.Schema.Basic
import Mathlib.Data.List.Chain
import Mathlib.Data.List.Nodup
import Mathlib.Logic.Relation

namespace CorpusQuery.Schema

/-! The hierarchy of layers as a relation, and how the walk from a layer to its
ancestors computes it.  Layers that have ids of their own have one parent each, so the
walk either meets exactly the layers that a layer is below, or finds a cycle. -/

open Relation

variable {layers : List Layer}

/-- The layer names another one as its parent. -/
def IsParent (layers : List Layer) (layer above : Layer) : Prop :=
  above ∈ layers ∧ layer.parentId = some above.id

/-- A chain of parents leads from the layer to another one. -/
def Below (layers : List Layer) : Layer → Layer → Prop :=
  TransGen (IsParent layers)

def AtOrBelow (layers : List Layer) : Layer → Layer → Prop :=
  ReflTransGen (IsParent layers)

theorem Below.mem {layer above : Layer} (below : Below layers layer above) : above ∈ layers := by
  obtain ⟨_, _, parent⟩ := TransGen.tail'_iff.1 below
  exact parent.1

theorem AtOrBelow.mem {layer above : Layer} (reached : AtOrBelow layers layer above)
    (known : layer ∈ layers) : above ∈ layers := by
  rcases reflTransGen_iff_eq_or_transGen.1 reached with rfl | below
  · exact known
  · exact Below.mem below

theorem AtOrBelow.below {layer above : Layer} (reached : AtOrBelow layers layer above)
    (other : layer.id ≠ above.id) : Below layers layer above := by
  rcases reflTransGen_iff_eq_or_transGen.1 reached with rfl | below
  · exact absurd rfl other
  · exact below

/-! ### Layers by their ids -/

theorem id_of_find? {id : String} {layer : Layer} (found : find? layers id = some layer) :
    layer.id = id := by
  have same := List.find?_some found
  simpa using same

theorem find?_isSome {id : String} : (find? layers id).isSome ↔ id ∈ layers.map Layer.id := by
  simp [find?, List.find?_isSome]

theorem eq_of_id_eq (unique : (layers.map Layer.id).Nodup) {left right : Layer}
    (first : left ∈ layers) (second : right ∈ layers) (same : left.id = right.id) :
    left = right :=
  List.inj_on_of_nodup_map unique first second same

theorem find?_eq_some_iff (unique : (layers.map Layer.id).Nodup) {id : String} {layer : Layer} :
    find? layers id = some layer ↔ layer ∈ layers ∧ layer.id = id := by
  constructor
  · intro found
    exact ⟨List.mem_of_find?_eq_some found, id_of_find? found⟩
  · rintro ⟨member, rfl⟩
    have some := find?_isSome.2 (List.mem_map_of_mem (f := Layer.id) member)
    obtain ⟨other, found⟩ := Option.isSome_iff_exists.1 some
    have same := eq_of_id_eq unique (List.mem_of_find?_eq_some found) member (id_of_find? found)
    rw [found, same]

/-! ### Ancestors -/

section

variable {seen : List String} {layer : Layer} {parent : String}

theorem ancestors?_of_top (top : layer.parentId = none) :
    ancestors? layers seen layer = some [] := by
  rw [ancestors?]
  split <;> simp_all

theorem ancestors?_of_seen (named : layer.parentId = some parent) (known : parent ∈ seen) :
    ancestors? layers seen layer = none := by
  rw [ancestors?]
  split <;> simp_all

theorem ancestors?_of_orphan (named : layer.parentId = some parent) (unseen : parent ∉ seen)
    (missing : find? layers parent = none) : ancestors? layers seen layer = some [] := by
  rw [ancestors?]
  split <;> simp_all
  split <;> simp_all

theorem ancestors?_of_found {above : Layer} (named : layer.parentId = some parent)
    (unseen : parent ∉ seen) (found : find? layers parent = some above) :
    ancestors? layers seen layer =
      (ancestors? layers (parent :: seen) above).map (above :: ·) := by
  rw [ancestors?]
  split <;> simp_all
  split <;> simp_all

end

/-- A layer is below its parent and what its parent is below, and below nothing else. -/
theorem below_iff (unique : (layers.map Layer.id).Nodup) {layer above top : Layer}
    (parent : IsParent layers layer above) :
    Below layers layer top ↔ top = above ∨ Below layers above top := by
  have only (other : Layer) (same : IsParent layers layer other) : other = above := by
    apply eq_of_id_eq unique same.1 parent.1
    exact Option.some.inj (same.2.symm.trans parent.2)
  constructor
  · intro below
    obtain ⟨next, first, rest⟩ := TransGen.head'_iff.1 below
    obtain rfl := only next first
    exact (reflTransGen_iff_eq_or_transGen.1 rest).imp_left id
  · rintro (rfl | below)
    · exact .single parent
    · exact .head parent below

/-- The walk visits exactly the layers that the layer is below, each a parent of the one
before it. -/
theorem ancestors?_spec (unique : (layers.map Layer.id).Nodup) {seen : List String}
    {layer : Layer} {ancestors : List Layer}
    (walked : ancestors? layers seen layer = some ancestors) :
    List.IsChain (IsParent layers) (layer :: ancestors) ∧
      (∀ above, above ∈ ancestors ↔ Below layers layer above) ∧
      ∀ above ∈ ancestors, above.id ∉ seen := by
  -- Layers are told apart by their ids, so that the walk never has more than one way to go.
  induction seen, layer using ancestors?.induct layers generalizing ancestors with
  | case1 seen layer top =>
      rw [ancestors?_of_top top] at walked
      obtain rfl := Option.some.inj walked
      have ends (above : Layer) : ¬Below layers layer above := by
        intro below
        obtain ⟨next, ⟨_, named⟩, _⟩ := TransGen.head'_iff.1 below
        exact absurd (top.symm.trans named) (by simp)
      simp [ends]
  | case2 seen layer parent named known =>
      rw [ancestors?_of_seen named known] at walked
      contradiction
  | case3 seen layer parent named unseen missing =>
      rw [ancestors?_of_orphan named unseen missing] at walked
      obtain rfl := Option.some.inj walked
      have ends (above : Layer) : ¬Below layers layer above := by
        intro below
        obtain ⟨next, ⟨member, nextNamed⟩, _⟩ := TransGen.head'_iff.1 below
        obtain rfl : parent = next.id := Option.some.inj (named.symm.trans nextNamed)
        have some := find?_isSome.2 (List.mem_map_of_mem (f := Layer.id) member)
        simp [missing] at some
      simp [ends]
  | case4 seen layer parent named unseen above found smaller ih =>
      rw [ancestors?_of_found named unseen found, Option.map_eq_some_iff] at walked
      obtain ⟨rest, walkedRest, rfl⟩ := walked
      obtain ⟨chain, visited, fresh⟩ := ih walkedRest
      have isParent : IsParent layers layer above :=
        ⟨List.mem_of_find?_eq_some found, named.trans (congrArg some (id_of_find? found).symm)⟩
      refine ⟨List.isChain_cons_cons.2 ⟨isParent, chain⟩, fun top => ?_, fun top member => ?_⟩
      · rw [below_iff unique isParent, List.mem_cons, visited]
      · rcases List.mem_cons.1 member with rfl | later
        · rwa [id_of_find? found]
        · exact fun inSeen => fresh top later (List.mem_cons_of_mem _ inSeen)

/-- A walk that comes back to a layer that it began below has found a cycle. -/
theorem below_self_of_ancestors?_eq_none {seen : List String} {layer : Layer}
    (known : layer ∈ layers)
    (behind : ∀ id ∈ seen, ∃ start ∈ layers, start.id = id ∧ AtOrBelow layers start layer)
    (returned : ancestors? layers seen layer = none) : ∃ top ∈ layers, Below layers top top := by
  induction seen, layer using ancestors?.induct layers with
  | case1 seen layer top =>
      rw [ancestors?_of_top top] at returned
      contradiction
  | case2 seen layer parent named inSeen =>
      obtain ⟨start, member, rfl, reached⟩ := behind parent inSeen
      exact ⟨start, member, TransGen.tail' reached ⟨member, named⟩⟩
  | case3 seen layer parent named unseen missing =>
      rw [ancestors?_of_orphan named unseen missing] at returned
      contradiction
  | case4 seen layer parent named unseen above found smaller ih =>
      rw [ancestors?_of_found named unseen found, Option.map_eq_none_iff] at returned
      have member := List.mem_of_find?_eq_some found
      have isParent : IsParent layers layer above :=
        ⟨member, named.trans (congrArg some (id_of_find? found).symm)⟩
      apply ih member _ returned
      intro id inSeen
      rcases List.mem_cons.1 inSeen with rfl | earlier
      · exact ⟨above, member, id_of_find? found, .refl⟩
      · obtain ⟨start, startMember, named, reached⟩ := behind id earlier
        exact ⟨start, startMember, named, reached.tail isParent⟩

/-- No chain of parents comes back to a layer that is on it. -/
def Acyclic (layers : List Layer) : Prop :=
  ∀ layer ∈ layers, ¬Below layers layer layer

/-- The walks from all layers end exactly if there is no cycle. -/
theorem acyclic_iff (unique : (layers.map Layer.id).Nodup) :
    Acyclic layers ↔ ∀ layer ∈ layers, (ancestors? layers [layer.id] layer).isSome := by
  constructor
  · intro acyclic layer member
    by_contra ended
    obtain ⟨top, known, cycle⟩ := below_self_of_ancestors?_eq_none member
      (by simpa using ⟨layer, member, rfl, .refl⟩) (Option.not_isSome_iff_eq_none.1 ended)
    exact acyclic top known cycle
  · intro ended layer member cycle
    obtain ⟨ancestors, walked⟩ := Option.isSome_iff_exists.1 (ended layer member)
    obtain ⟨_, visited, fresh⟩ := ancestors?_spec unique walked
    exact fresh layer ((visited layer).2 cycle) (List.mem_singleton.2 rfl)

/-! ### Places in the hierarchy -/

/-- The layer that plays a part is the layer itself or one that it is below. -/
def Under (layers : List Layer) (roots : Roots) (role : Role) (layer : Layer) : Prop :=
  ∃ top, roots.layer? role = some top.id ∧ AtOrBelow layers layer top

/-- An aligned layer right below the word layer that allows peers. -/
structure IsSegmentStem (roots : Roots) (layer : Layer) : Prop where
  child : ∃ word, roots.word = some word ∧ layer.parentId = some word
  aligned : layer.alignment = .interval
  peers : layer.peers

/-- The layer is below the word layer, and the layer itself or one that it is below is
an aligned child of the word layer that allows peers. -/
def Segmented (layers : List Layer) (roots : Roots) (layer : Layer) : Prop :=
  (∃ word, roots.word = some word.id ∧ Below layers layer word) ∧
    ∃ stem, AtOrBelow layers layer stem ∧ IsSegmentStem roots stem

/-- The scope that a layer has by its place. -/
structure HasScope (layers : List Layer) (roots : Roots) (layer : Layer) (scope : Scope) :
    Prop where
  segment : Segmented layers roots layer → scope = .segment
  word : Under layers roots .word layer → ¬Segmented layers roots layer → scope = .word
  phrase : ¬Under layers roots .word layer → Under layers roots .turn layer → scope = .phrase
  span : ¬Under layers roots .word layer → ¬Under layers roots .turn layer → scope = .span

section

variable {layer : Layer} {ancestors : List Layer}

theorem mem_lineage_iff (unique : (layers.map Layer.id).Nodup)
    (walked : ancestors? layers [layer.id] layer = some ancestors) {above : Layer} :
    above ∈ layer :: ancestors ↔ AtOrBelow layers layer above := by
  rw [List.mem_cons, (ancestors?_spec unique walked).2.1, AtOrBelow,
    reflTransGen_iff_eq_or_transGen, Below]

theorem any_lineage_iff (unique : (layers.map Layer.id).Nodup)
    (walked : ancestors? layers [layer.id] layer = some ancestors) {id : String} :
    (layer :: ancestors).any (·.id == id) ↔
      ∃ top : Layer, id = top.id ∧ AtOrBelow layers layer top := by
  simp only [List.any_eq_true, beq_iff_eq, mem_lineage_iff unique walked]
  constructor
  · rintro ⟨top, reached, rfl⟩
    exact ⟨top, rfl, reached⟩
  · rintro ⟨top, rfl, reached⟩
    exact ⟨top, reached, rfl⟩

/-- In a lineage the children of a layer come before it, since the walk ends. -/
theorem mem_takeWhile_of_child (unique : (layers.map Layer.id).Nodup) (acyclic : Acyclic layers)
    (known : layer ∈ layers) (walked : ancestors? layers [layer.id] layer = some ancestors)
    {child : Layer} {id : String} (member : child ∈ layer :: ancestors)
    (named : child.parentId = some id) :
    child ∈ (layer :: ancestors).takeWhile (·.id != id) := by
  have chain := (ancestors?_spec unique walked).1
  rw [← List.takeWhile_append_dropWhile (p := (·.id != id)) (l := layer :: ancestors)]
    at member chain
  rcases List.mem_append.1 member with before | after
  · exact before
  · exfalso
    cases dropped : (layer :: ancestors).dropWhile (·.id != id) with
    | nil => simp [dropped] at after
    | cons first rest =>
        have stops := List.head?_dropWhile_not (·.id != id) (layer :: ancestors)
        obtain rfl : first.id = id := by simpa [dropped] using stops
        have inLineage : first ∈ layer :: ancestors := by
          apply List.dropWhile_subset (·.id != first.id)
          rw [dropped]
          exact List.mem_cons_self
        have firstKnown := AtOrBelow.mem ((mem_lineage_iff unique walked).1 inLineage) known
        have parent : IsParent layers child first := ⟨firstKnown, named⟩
        have above : ∀ later ∈ rest, Below layers first later := by
          rw [dropped] at chain
          have suffix := (List.isChain_append.1 chain).2.1
          have ordered := (suffix.imp fun _ _ => TransGen.single).pairwise
          exact (List.pairwise_cons.1 ordered).1
        apply acyclic first firstKnown
        rw [dropped] at after
        rcases List.mem_cons.1 after with rfl | later
        · exact .single parent
        · exact (above child later).tail parent

theorem segmented_iff (unique : (layers.map Layer.id).Nodup) (acyclic : Acyclic layers)
    (known : layer ∈ layers) (walked : ancestors? layers [layer.id] layer = some ancestors)
    {roots : Roots} {word : String} (plays : roots.word = some word)
    (under : Under layers roots .word layer) :
    Segmented layers roots layer ↔
      ((layer :: ancestors).takeWhile (·.id != word)).any fun layer =>
        layer.parentId == some word && layer.alignment == .interval && layer.peers := by
  simp only [List.any_eq_true, Bool.and_eq_true, beq_iff_eq]
  constructor
  · rintro ⟨_, stem, reached, ⟨id, isWord, child⟩, aligned, peers⟩
    have member := (mem_lineage_iff unique walked).2 reached
    obtain rfl : word = id := Option.some.inj (plays.symm.trans isWord)
    exact ⟨stem, mem_takeWhile_of_child unique acyclic known walked member child,
      ⟨child, aligned⟩, peers⟩
  · rintro ⟨stem, before, ⟨child, aligned⟩, peers⟩
    have reached := (mem_lineage_iff unique walked).1 (List.takeWhile_subset _ before)
    obtain ⟨top, isWord, toTop⟩ := under
    obtain rfl : word = top.id := Option.some.inj (plays.symm.trans isWord)
    refine ⟨⟨top, plays, AtOrBelow.below toTop ?_⟩, stem, reached, ⟨top.id, plays, child⟩,
      aligned, peers⟩
    intro same
    rw [List.takeWhile_cons_of_neg (by simp [same])] at before
    contradiction

theorem under_iff (unique : (layers.map Layer.id).Nodup)
    (walked : ancestors? layers [layer.id] layer = some ancestors) {roots : Roots} (role : Role)
    {id : String} (plays : roots.layer? role = some id) :
    (layer :: ancestors).any (·.id == id) ↔ Under layers roots role layer := by
  rw [any_lineage_iff unique walked, Under, plays]
  simp

theorem not_under {roots : Roots} (role : Role) (unplayed : roots.layer? role = none) :
    ¬Under layers roots role layer := by
  rintro ⟨top, plays, _⟩
  rw [unplayed] at plays
  contradiction

theorem Segmented.under {roots : Roots} (segmented : Segmented layers roots layer) :
    Under layers roots .word layer := by
  obtain ⟨⟨word, plays, below⟩, _⟩ := segmented
  exact ⟨word, plays, below.to_reflTransGen⟩

/-- The scope that is inferred from a lineage is that of the layer's place. -/
theorem hasScope_inferScope (unique : (layers.map Layer.id).Nodup) (acyclic : Acyclic layers)
    (known : layer ∈ layers) (walked : ancestors? layers [layer.id] layer = some ancestors)
    (roots : Roots) :
    HasScope layers roots layer (inferScope roots (layer :: ancestors)) := by
  unfold inferScope
  extract_lets belowTurn other
  have underTurn : belowTurn ↔ Under layers roots .turn layer := by
    cases plays : roots.turn with
    | none => simpa [belowTurn, plays] using not_under .turn plays
    | some turn => simpa only [belowTurn, plays] using under_iff unique walked .turn plays
  have outside (notWord : ¬Under layers roots .word layer) :
      HasScope layers roots layer other :=
    { segment := fun segmented => absurd segmented.under notWord
      word := fun underWord => absurd underWord notWord
      phrase := fun _ turn => if_pos (underTurn.2 turn)
      span := fun _ noTurn => if_neg (mt underTurn.1 noTurn) }
  cases plays : roots.word with
  | none => exact outside (not_under .word plays)
  | some word =>
      have underWord := under_iff unique walked .word plays
      simp only
      split
      · rename_i inLineage
        have under := underWord.1 inLineage
        have stemmed := segmented_iff unique acyclic known walked plays under
        refine { segment := fun segmented => if_pos (stemmed.1 segmented)
                 word := fun _ free => if_neg (mt stemmed.2 free)
                 phrase := fun notWord => absurd under notWord
                 span := fun notWord => absurd under notWord }
      · rename_i notInLineage
        exact outside (mt underWord.2 notInLineage)

end

end CorpusQuery.Schema
