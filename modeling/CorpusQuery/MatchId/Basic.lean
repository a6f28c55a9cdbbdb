import CorpusQuery.Number.Integer

namespace CorpusQuery

/-! Identifiers of search matches. -/

/-- Names with a uid each, in rising order of the names. -/
structure Slots where
  entries : List (String × String) := []
  sorted : entries.Pairwise (fun left right => left.1 < right.1) := by exact .nil
deriving DecidableEq

namespace Slots

/-- Puts an entry in its place, or in that of the entry with the same name. -/
def insertEntry (name uid : String) : List (String × String) → List (String × String)
  | [] => [(name, uid)]
  | (other, value) :: rest =>
      if name < other then (name, uid) :: (other, value) :: rest
      else if name = other then (name, uid) :: rest
      else (other, value) :: insertEntry name uid rest

theorem mem_insertEntry {name uid : String} {entries : List (String × String)}
    {entry : String × String} (member : entry ∈ insertEntry name uid entries) :
    entry = (name, uid) ∨ entry ∈ entries := by
  induction entries with
  | nil => simpa [insertEntry] using member
  | cons first rest ih =>
      obtain ⟨other, value⟩ := first
      unfold insertEntry at member
      split at member
      · simpa using member
      · split at member
        · rcases List.mem_cons.1 member with same | later
          · exact .inl same
          · exact .inr (List.mem_cons_of_mem _ later)
        · rcases List.mem_cons.1 member with same | later
          · exact .inr (same ▸ List.mem_cons_self)
          · exact (ih later).imp_right (List.mem_cons_of_mem _)

theorem sorted_insertEntry {name uid : String} {entries : List (String × String)}
    (sorted : entries.Pairwise (fun left right => left.1 < right.1)) :
    (insertEntry name uid entries).Pairwise (fun left right => left.1 < right.1) := by
  induction entries with
  | nil => simp [insertEntry]
  | cons first rest ih =>
      obtain ⟨other, value⟩ := first
      obtain ⟨above, inner⟩ := List.pairwise_cons.1 sorted
      unfold insertEntry
      split
      · rename_i less
        refine List.pairwise_cons.2 ⟨?_, sorted⟩
        intro entry member
        rcases List.mem_cons.1 member with rfl | later
        · exact less
        · exact String.lt_trans less (above entry later)
      · split
        · rename_i same
          exact List.pairwise_cons.2 ⟨fun entry member => same ▸ above entry member, inner⟩
        · rename_i notLess different
          refine List.pairwise_cons.2 ⟨?_, ih inner⟩
          intro entry member
          rcases mem_insertEntry member with rfl | later
          · exact Std.lt_of_le_of_ne (String.not_lt.1 notLess) (Ne.symm different)
          · exact above entry later

def empty : Slots := {}

def insert (slots : Slots) (name uid : String) : Slots :=
  ⟨insertEntry name uid slots.entries, sorted_insertEntry slots.sorted⟩

def contains (slots : Slots) (name : String) : Bool :=
  slots.entries.any (·.1 == name)

end Slots

/-- What a match is fixed to: an annotation, or a stretch between two anchors. -/
inductive Defining where
  | uid (text : String)
  | anchors (start stop : Int64)
deriving DecidableEq, Repr

structure MatchId where
  graph : Int64
  defining : Option Defining := none
  speaker : Option Int64 := none
  target : Option String := none
  /-- What the match is called in exports. -/
  exportName : Option String := none
  slots : Slots := .empty
deriving DecidableEq

namespace MatchId

def ofGraph (graph : Int64) : MatchId :=
  { graph }

/-- Fixes the match to an annotation.  An empty uid changes nothing, since it could
not be read back. -/
def withUid (id : MatchId) (uid : String) : MatchId :=
  if uid = "" then id else { id with defining := some (.uid uid) }

def withAnchors (id : MatchId) (start stop : Int64) : MatchId :=
  { id with defining := some (.anchors start stop) }

def withSpeaker (id : MatchId) (speaker : Int64) : MatchId :=
  { id with speaker := some speaker }

/-- Sets the target, unless the uid is empty. -/
def withTarget (id : MatchId) (uid : String) : MatchId :=
  if uid = "" then id else { id with target := some uid }

def withExportName (id : MatchId) (name : String) : MatchId :=
  { id with exportName := some name }

/-- Fills a slot, unless the uid is empty. -/
def withSlot (id : MatchId) (name uid : String) : MatchId :=
  if uid = "" then id else { id with slots := id.slots.insert name uid }

def unnamed (id : MatchId) : MatchId :=
  { id with exportName := none }

/-- Whether two identifiers are of one match; the export name does not matter. -/
def Same (left right : MatchId) : Prop :=
  left.unnamed = right.unnamed

instance (left right : MatchId) : Decidable (left.Same right) :=
  inferInstanceAs (Decidable (_ = _))

end MatchId

end CorpusQuery
