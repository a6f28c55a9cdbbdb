import Mathlib.Data.List.Nodup
import CorpusQuery.MatchId.Codec

namespace CorpusQuery

/-! Fields gathered one by one.  Whether all of them can be kept depends on their keys
alone, and what is kept does not depend on the order in which they come. -/

/-! ### Slots -/

namespace Slots

theorem ext_of_mem {left right : Slots}
    (same : ∀ entry, entry ∈ left.entries ↔ entry ∈ right.entries) : left = right := by
  have distinct (slots : Slots) : slots.entries.Nodup := by
    refine slots.sorted.imp fun before equal => ?_
    subst equal
    exact String.lt_irrefl _ before
  have perm := (List.perm_ext_iff_of_nodup (distinct left) (distinct right)).2 same
  have entries : left.entries = right.entries :=
    perm.eq_of_pairwise (fun first second _ _ before behind =>
      absurd (String.lt_trans before behind) (String.lt_irrefl _)) left.sorted right.sorted
  cases left
  cases right
  cases entries
  rfl

/-- The entries are those that were there under other names, and the new one. -/
theorem mem_insert {slots : Slots} {name uid : String} {entry : String × String} :
    entry ∈ (slots.insert name uid).entries ↔
      entry = (name, uid) ∨ entry ∈ slots.entries ∧ entry.1 ≠ name := by
  obtain ⟨entries, sorted⟩ := slots
  change entry ∈ insertEntry name uid entries ↔ entry = (name, uid) ∨ entry ∈ entries ∧ entry.1 ≠ name
  -- Behind an entry all others have greater names, and so none has the name itself.
  have above {rest : List (String × String)} {low : String} (all : ∀ other ∈ rest, low < other.1)
      (member : entry ∈ rest) : entry.1 ≠ low := fun same =>
    String.lt_irrefl _ (same ▸ all entry member)
  induction entries with
  | nil => simp [insertEntry]
  | cons first rest ih =>
      obtain ⟨other, value⟩ := first
      obtain ⟨later, inner⟩ := List.pairwise_cons.1 sorted
      unfold insertEntry
      split
      · rename_i less
        have all : ∀ entry ∈ (other, value) :: rest, name < entry.1 :=
          List.forall_mem_cons.2 ⟨less, fun entry member => String.lt_trans less (later entry member)⟩
        rw [List.mem_cons]
        exact or_congr_right ⟨fun member => ⟨member, above all member⟩, And.left⟩
      · split
        · rename_i same
          subst same
          rw [List.mem_cons]
          refine or_congr_right ⟨fun member => ⟨List.mem_cons_of_mem _ member, above later member⟩, ?_⟩
          rintro ⟨member, different⟩
          rcases List.mem_cons.1 member with rfl | behind
          · exact absurd rfl different
          · exact behind
        · rename_i different
          have kept : entry = (other, value) → entry.1 ≠ name := by
            rintro rfl
            exact Ne.symm different
          have inside : entry ∈ insertEntry name uid rest ↔
              entry = (name, uid) ∨ entry ∈ rest ∧ entry.1 ≠ name := ih inner
          rw [List.mem_cons, inside, List.mem_cons, or_left_comm, or_and_right]
          exact or_congr_right (or_congr_left ⟨fun same => ⟨same, kept same⟩, And.left⟩)

theorem contains_iff {slots : Slots} {name : String} :
    slots.contains name = true ↔ ∃ uid, (name, uid) ∈ slots.entries := by
  simp [contains]

theorem contains_insert {slots : Slots} {name uid key : String} :
    (slots.insert name uid).contains key = (decide (key = name) || slots.contains key) := by
  rw [Bool.eq_iff_iff, Bool.or_eq_true, decide_eq_true_iff, contains_iff, contains_iff]
  simp only [mem_insert, Prod.mk.injEq]
  by_cases same : key = name <;> simp [same]

theorem insert_comm {slots : Slots} {first second : String} (different : first ≠ second)
    (firstUid secondUid : String) :
    (slots.insert first firstUid).insert second secondUid =
      (slots.insert second secondUid).insert first firstUid := by
  refine ext_of_mem fun entry => ?_
  simp only [mem_insert]
  by_cases isFirst : entry = (first, firstUid)
  · simp [isFirst, different]
  · by_cases isSecond : entry = (second, secondUid)
    · simp [isSecond, Ne.symm different]
    · simp [isFirst, isSecond, and_right_comm]

theorem insertEntry_last {name uid : String} {entries : List (String × String)}
    (below : ∀ entry ∈ entries, entry.1 < name) :
    insertEntry name uid entries = entries ++ [(name, uid)] := by
  induction entries with
  | nil => rfl
  | cons first rest ih =>
      obtain ⟨less, others⟩ := List.forall_mem_cons.1 below
      have notLess : ¬name < first.1 := fun greater =>
        String.lt_irrefl _ (String.lt_trans less greater)
      have different : name ≠ first.1 := fun same => String.lt_irrefl _ (same ▸ less)
      simp [insertEntry, notLess, different, ih others]

/-- Entries that come in rising order are kept in that order. -/
theorem entries_foldl_insert (entries : List (String × String)) (slots : Slots)
    (sorted : (slots.entries ++ entries).Pairwise fun left right => left.1 < right.1) :
    (entries.foldl (fun slots entry => slots.insert entry.1 entry.2) slots).entries =
      slots.entries ++ entries := by
  induction entries generalizing slots with
  | nil => simp
  | cons first rest ih =>
      have last : (slots.insert first.1 first.2).entries = slots.entries ++ [first] :=
        insertEntry_last fun entry member =>
          (List.pairwise_append.1 sorted).2.2 entry member first (List.mem_cons_self ..)
      rw [List.foldl_cons, ih _ (by rwa [last, List.append_assoc]), last, List.append_assoc]
      rfl

theorem foldl_insert_entries (slots : Slots) :
    slots.entries.foldl (fun slots entry => slots.insert entry.1 entry.2) .empty = slots := by
  refine ext_of_mem fun entry => ?_
  rw [entries_foldl_insert slots.entries .empty slots.sorted]
  rfl

end Slots

namespace MatchId

/-! ### Keys -/

/-- What a field is of which an identifier has at most one. -/
inductive Key where
  | graph
  | uid
  | anchors
  | speaker
  | target
  | exportName
  | slot (name : String)
deriving DecidableEq

def Field.key : Field → Key
  | .graph _ => .graph
  | .uid _ => .uid
  | .anchors .. => .anchors
  | .speaker _ => .speaker
  | .target _ => .target
  | .exportName _ => .exportName
  | .slot name _ => .slot name

namespace Parts

/-- Whether there is a field with this key. -/
def has (parts : Parts) : Key → Bool
  | .graph => parts.graph.isSome
  | .uid => parts.uid.isSome
  | .anchors => parts.anchors.isSome
  | .speaker => parts.speaker.isSome
  | .target => parts.target.isSome
  | .exportName => parts.exportName.isSome
  | .slot name => parts.slots.contains name

/-- The parts with a field, which takes the place of one with the same key. -/
def put (parts : Parts) : Field → Parts
  | .graph id => { parts with graph := some id }
  | .uid text => { parts with uid := some text }
  | .anchors start stop => { parts with anchors := some (start, stop) }
  | .speaker number => { parts with speaker := some number }
  | .target uid => { parts with target := some uid }
  | .exportName name => { parts with exportName := some name }
  | .slot name uid => { parts with slots := parts.slots.insert name uid }

theorem setOnce_map_eq_ok {present : Option α} {field : String} {value : α} {f : Option α → Parts}
    {next : Parts} :
    (setOnce field present value).map f = .ok next ↔ present.isSome = false ∧ f (some value) = next := by
  cases present <;> simp [setOnce, Except.map]

theorem add_eq_ok {parts next : Parts} {field : Field} :
    parts.add field = .ok next ↔ parts.has field.key = false ∧ parts.put field = next := by
  cases field with
  | slot name uid =>
      simp only [add, Field.key, has, put]
      split <;> simp_all
  | _ => exact setOnce_map_eq_ok

theorem has_put {parts : Parts} {field : Field} {key : Key} :
    (parts.put field).has key = (decide (key = field.key) || parts.has key) := by
  cases field <;> cases key <;> simp [put, has, Field.key, Slots.contains_insert]

theorem put_comm {first second : Field} (different : first.key ≠ second.key) (parts : Parts) :
    (parts.put first).put second = (parts.put second).put first := by
  cases first with
  | slot name uid =>
      cases second with
      | slot other value =>
          have names : name ≠ other := fun same => different (congrArg Key.slot same)
          exact congrArg (fun slots => { parts with slots }) (Slots.insert_comm names uid value)
      | _ => rfl
  | _ => cases second <;> first | rfl | exact absurd rfl different

/-! ### All fields -/

/-- No two of the fields have the same key, and none has that of a part. -/
def Takes (parts : Parts) (fields : List Field) : Prop :=
  (fields.map Field.key).Nodup ∧ ∀ field ∈ fields, parts.has field.key = false

theorem takes_cons {parts : Parts} {first : Field} {rest : List Field} :
    parts.Takes (first :: rest) ↔ parts.has first.key = false ∧ (parts.put first).Takes rest := by
  simp only [Takes, List.map_cons, List.nodup_cons, List.forall_mem_cons, has_put,
    Bool.or_eq_false_iff, decide_eq_false_iff_not, List.mem_map, not_exists, not_and, forall_and]
  tauto

theorem foldlM_add_eq_ok {parts gathered : Parts} {fields : List Field} :
    fields.foldlM add parts = .ok gathered ↔
      parts.Takes fields ∧ fields.foldl put parts = gathered := by
  induction fields generalizing parts with
  | nil => simp [Takes, pure, Except.pure]
  | cons first rest ih =>
      rw [List.foldlM_cons, takes_cons, List.foldl_cons, and_assoc, ← ih]
      cases added : parts.add first with
      | error problem =>
          have refused : ¬parts.has first.key = false := fun free => by
            rw [add_eq_ok.2 ⟨free, rfl⟩] at added
            contradiction
          simp [bind, Except.bind, refused]
      | ok next =>
          obtain ⟨free, rfl⟩ := add_eq_ok.1 added
          simp [bind, Except.bind, free]

theorem foldlM_read_eq_ok {parts gathered : Parts} {texts : List (List Char)} :
    texts.foldlM read parts = .ok gathered ↔
      (∀ text ∈ texts, (Field.read? text).isSome) ∧
        (texts.filterMap Field.read?).foldlM add parts = .ok gathered := by
  induction texts generalizing parts with
  | nil => simp
  | cons first rest ih =>
      rw [List.foldlM_cons, List.forall_mem_cons, List.filterMap_cons]
      cases found : Field.read? first with
      | none => simp [read, found, bind, Except.bind]
      | some field =>
          simp only [read, found, Option.isSome_some, true_and, List.foldlM_cons]
          cases added : parts.add field with
          | error problem => simp [bind, Except.bind]
          | ok next => exact ih

/-- The order of fields with keys of their own makes no difference. -/
theorem foldl_put_perm {fields others : List Field} (reordered : fields.Perm others)
    (distinct : (fields.map Field.key).Nodup) (parts : Parts) :
    fields.foldl put parts = others.foldl put parts := by
  refine reordered.foldl_eq' (fun first firstMember second secondMember parts => ?_) parts
  by_cases same : first.key = second.key
  · rw [List.inj_on_of_nodup_map distinct firstMember secondMember same]
  · exact put_comm same parts

end Parts

end MatchId

end CorpusQuery
