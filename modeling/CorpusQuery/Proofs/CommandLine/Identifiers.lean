import CorpusQuery.CommandLine.Identifiers
import CorpusQuery.Proofs.MatchId.RoundTrip

namespace CorpusQuery

/-! Identifiers that are put together from the fields of others. -/

namespace MatchId

/-- No uid of an identifier that can be read back is empty, and no name of a slot has a
closing bracket. -/
theorem IsReadable.of_slot {id : MatchId} (readable : id.IsReadable) {name uid : String}
    (member : (name, uid) ∈ id.slots.entries) : ']' ∉ name.toList ∧ uid ≠ "" := by
  have read := (readable (.slot name uid) (mem_fields_iff.2 member)).read
  rw [Field.toList_slot, Field.read?_slot] at read
  obtain ⟨_, _, same, -, closed, some, -⟩ := Field.eq_slot_of_readSlot read
  obtain ⟨rfl, rfl⟩ := Field.slot.inj same
  exact ⟨by simpa using closed, by simpa using some⟩

theorem IsReadable.target_ne_empty {id : MatchId} (readable : id.IsReadable) {uid : String}
    (target : id.target = some uid) : uid ≠ "" := by
  rintro rfl
  have read := (readable (.target "") (mem_fields_iff.2 target)).read
  contradiction

theorem IsReadable.uid_ne_empty {id : MatchId} (readable : id.IsReadable) {uid : String}
    (defining : id.defining = some (.uid uid)) : uid ≠ "" := by
  rintro rfl
  have held : id.parts.Holds (.uid "") := by simp [parts, Parts.Holds, defining]
  have read := (readable (.uid "") (mem_fields_iff.2 held)).read
  contradiction

end MatchId

namespace CommandLine

open MatchId

/-! ### Fields as they are given -/

def anchorsText (start stop : Int64) : String :=
  Number.text start ++ "-" ++ Number.text stop

def slotText (name uid : String) : String :=
  name ++ "=" ++ uid

/-- The fields of an identifier, as they are given for one to be put together. -/
def IdFields.of (id : MatchId) : IdFields where
  graph := id.graph
  uid := id.parts.uid
  anchors := id.parts.anchors.map fun (start, stop) => anchorsText start stop
  speaker := id.speaker
  target := id.target
  exportName := id.exportName
  slots := id.slots.entries.map fun (name, uid) => slotText name uid

theorem readSlot_slotText {name uid : String} (plain : '=' ∉ name.toList)
    (closed : ']' ∉ name.toList) (some : uid ≠ "") :
    readSlot (slotText name uid) = .ok (name, uid) := by
  have chars : (slotText name uid).toList = name.toList ++ '=' :: uid.toList := by
    simp [slotText]
  simp [readSlot, chars, Text.cut_append plain, closed, some]

theorem toList_anchorsText (start stop : Int64) :
    (anchorsText start stop).toList =
      (Number.text start).toList ++ '-' :: (Number.text stop).toList := by
  simp [anchorsText]

/-- The second anchor may have a minus of its own. -/
theorem readAnchors_anchorsText {start : Int64} (nonneg : 0 ≤ start.toInt) (stop : Int64) :
    readAnchors (anchorsText start stop) = .ok (start, stop) := by
  have bare : '-' ∉ (Number.text start).toList := fun minus =>
    absurd ((Number.isDigit_of_unsigned? (Number.unsigned?_text nonneg)).2 '-' minus) (by decide)
  rw [readAnchors, toList_anchorsText, Text.cut_append bare]
  simp only [Number.trim_text, Number.read_text]
  rfl

/-- What is said of a first anchor below zero. -/
def noStart : Failure where
  message := "invalid start anchor id"
  cause := some "cannot parse integer from empty string"

/-- The minus of the first anchor is taken for the one between the two. -/
theorem readAnchors_of_neg {start : Int64} (below : start.toInt < 0) (stop : Int64) :
    readAnchors (anchorsText start stop) = .error noStart := by
  rw [readAnchors, toList_anchorsText, Number.toList_text_of_neg below]
  rfl

namespace IdFields

theorem mapM_readSlot {id : MatchId} (readable : id.IsReadable)
    (plain : ∀ entry ∈ id.slots.entries, '=' ∉ entry.1.toList) :
    (of id).slots.mapM readSlot = .ok id.slots.entries := by
  have each : ∀ entry ∈ id.slots.entries, readSlot (slotText entry.1 entry.2) = .ok entry :=
    fun entry member =>
      readSlot_slotText (plain entry member) (readable.of_slot member).1 (readable.of_slot member).2
  simp only [of]
  generalize id.slots.entries = entries at each ⊢
  induction entries with
  | nil => rfl
  | cons first rest ih =>
      obtain ⟨here, later⟩ := List.forall_mem_cons.1 each
      rw [List.map_cons, List.mapM_cons, here, ih later]
      rfl

section

variable {id : MatchId}

theorem elim_defining (readable : id.IsReadable) (graph : Int64) :
    let defined := id.parts.uid.elim (ofGraph graph) (ofGraph graph).withUid
    (id.parts.anchors.elim defined fun (start, stop) => defined.withAnchors start stop) =
      { ofGraph graph with defining := id.defining } := by
  cases defining : id.defining with
  | none => simp [parts, defining, ofGraph]
  | some value =>
      cases value with
      | uid text =>
          simp [parts, defining, ofGraph, withUid, readable.uid_ne_empty defining]
      | anchors start stop => simp [parts, defining, ofGraph, withAnchors]

theorem elim_withSpeaker (free : id.speaker = none) (speaker : Option Int64) :
    speaker.elim id id.withSpeaker = { id with speaker } := by
  cases speaker with
  | none =>
      cases id
      cases free
      rfl
  | some number => rfl

theorem elim_withTarget (free : id.target = none) {target : Option String}
    (some : ∀ uid, target = some uid → uid ≠ "") :
    target.elim id id.withTarget = { id with target } := by
  cases target with
  | none =>
      cases id
      cases free
      rfl
  | some uid => exact if_neg (some uid rfl)

theorem elim_withExportName (free : id.exportName = none) (exportName : Option String) :
    exportName.elim id id.withExportName = { id with exportName } := by
  cases exportName with
  | none =>
      cases id
      cases free
      rfl
  | some name => rfl

theorem foldl_withSlot {entries : List (String × String)}
    (some : ∀ entry ∈ entries, entry.2 ≠ "") :
    entries.foldl (fun id (name, uid) => id.withSlot name uid) id =
      { id with
        slots := entries.foldl (fun slots entry => slots.insert entry.1 entry.2) id.slots } := by
  induction entries generalizing id with
  | nil => rfl
  | cons first rest ih =>
      obtain ⟨name, uid⟩ := first
      obtain ⟨here, later⟩ := List.forall_mem_cons.1 some
      have added : id.withSlot name uid = { id with slots := id.slots.insert name uid } :=
        if_neg here
      exact (congrArg (rest.foldl fun id (name, uid) => id.withSlot name uid) added).trans
        (ih later)

/-- Each field is set once and so stands as it was given. -/
theorem build_of_anchors (readable : id.IsReadable)
    (plain : ∀ entry ∈ id.slots.entries, '=' ∉ entry.1.toList)
    (anchored : (of id).anchors.mapM readAnchors = .ok id.parts.anchors) :
    (of id).build = .ok id := by
  have built : (of id).build =
      .ok (id.slots.entries.foldl (fun id (name, uid) => id.withSlot name uid)
        { id with slots := .empty }) := by
    simp only [build, anchored, mapM_readSlot readable plain, bind, Except.bind, pure, Except.pure]
    simp only [of, elim_defining readable]
    rw [elim_withSpeaker rfl, elim_withTarget rfl fun _ => readable.target_ne_empty,
      elim_withExportName rfl]
    rfl
  rw [built, foldl_withSlot fun entry member => (readable.of_slot member).2,
    id.slots.foldl_insert_entries]

end

/-- The identifier has no anchors, or the first of them is not below zero. -/
def HasNonnegStart (id : MatchId) : Prop :=
  ∀ start stop, id.defining = some (.anchors start stop) → 0 ≤ start.toInt

theorem mapM_readAnchors {id : MatchId} (nonneg : HasNonnegStart id) :
    (of id).anchors.mapM readAnchors = .ok id.parts.anchors := by
  simp only [of, parts]
  split
  · rename_i start stop defining
    rw [Option.map_some, Option.mapM_some, readAnchors_anchorsText (nonneg start stop defining)]
    rfl
  · rfl

theorem build_of_not_hasNonnegStart {id : MatchId} (below : ¬HasNonnegStart id) :
    (of id).build = .error noStart := by
  simp only [HasNonnegStart, not_forall, Int.not_le] at below
  obtain ⟨start, stop, defining, negative⟩ := below
  have refused : (of id).anchors.mapM readAnchors = .error noStart := by
    simp only [of, parts, defining, Option.map_some, Option.mapM_some,
      readAnchors_of_neg negative]
    rfl
  rw [build, refused]
  rfl

/-- An identifier that was read from a text is put together again from its own fields, as
long as no name of a slot has an equals sign and the first anchor is not below zero.  A first
anchor below zero is refused. -/
theorem build_of_decode {text : String} {id : MatchId} (decoded : decode text = .ok id)
    (plain : ∀ entry ∈ id.slots.entries, '=' ∉ entry.1.toList) :
    ((of id).build = .ok id ↔ HasNonnegStart id) ∧
      (¬HasNonnegStart id → (of id).build = .error noStart) := by
  refine ⟨⟨fun built => by_contra fun below => ?_, fun nonneg => ?_⟩,
    build_of_not_hasNonnegStart⟩
  · rw [build_of_not_hasNonnegStart below] at built
    contradiction
  · exact build_of_anchors (isReadable_of_decode decoded) plain (mapM_readAnchors nonneg)

/-- The uids and the export name may have what separates the fields of others, and the
second anchor may be below zero. -/
theorem build_of_decode_stretch :
    ∃ id, decode "p_4;prefix=;g_007;n_12--5;[]=a=]b;[b-]==" = .ok id ∧
      (of id).slots = ["=a=]b", "b-=="] ∧ (of id).anchors = some "12--5" ∧
      (of id).build = .ok id := by
  have decoded : decode "p_4;prefix=;g_007;n_12--5;[]=a=]b;[b-]==" = .ok
      { graph := 7
        defining := some (.anchors 12 (-5))
        speaker := some 4
        exportName := some ""
        slots := (Slots.empty.insert "" "a=]b").insert "b-" "=" } := by
    decide +kernel
  have nonneg : HasNonnegStart
      { graph := 7
        defining := some (.anchors 12 (-5))
        speaker := some 4
        exportName := some ""
        slots := (Slots.empty.insert "" "a=]b").insert "b-" "=" } := by
    rintro _ _ ⟨⟩
    decide
  exact ⟨_, decoded, by decide +kernel, by decide +kernel,
    (build_of_decode decoded (by decide +kernel)).1.2 nonneg⟩

/-- The text of anchors that begin below zero is read, but its fields are refused. -/
theorem negative_start_refused :
    ∃ id, decode "g_3;n_-5-10" = .ok id ∧ id.slots.entries = [] ∧ id.encode = "g_3;n_-5-10" ∧
      (of id).anchors = some "-5-10" ∧ (of id).build = .error noStart ∧
      ∀ other, (of id).build ≠ .ok other := by
  have decoded : decode "g_3;n_-5-10" = .ok
      { graph := 3, defining := some (.anchors (-5) 10) } := by
    decide +kernel
  have refused : (of { graph := 3, defining := some (.anchors (-5) 10) }).build =
      .error noStart := by
    decide +kernel
  refine ⟨_, decoded, rfl, by decide +kernel, by decide +kernel, refused, fun other built => ?_⟩
  rw [refused] at built
  contradiction

end IdFields

end CommandLine

end CorpusQuery
