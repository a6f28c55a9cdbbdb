import CorpusQuery.Proofs.MatchId.Field
import CorpusQuery.Proofs.MatchId.Parts

namespace CorpusQuery.MatchId

/-! Identifiers and their texts.  A text stands for an identifier if its fields, in any
order, are those of the identifier; the identifier's own text is one of these. -/

/-! ### Parts of an identifier -/

/-- What is gathered of all fields of an identifier. -/
def parts (id : MatchId) : Parts :=
  { graph := some id.graph
    uid :=
      match id.defining with
      | some (.uid text) => some text
      | _ => none
    anchors :=
      match id.defining with
      | some (.anchors start stop) => some (start, stop)
      | _ => none
    speaker := id.speaker
    target := id.target
    exportName := id.exportName
    slots := id.slots }

namespace Parts

theorem finish_eq_ok {parts : Parts} {text : String} {id : MatchId} :
    parts.finish text = .ok id ↔ parts = id.parts := by
  obtain ⟨graph?, uid?, anchors?, speaker, target, exportName, slots⟩ := parts
  obtain ⟨graph, defining, _, _, _, _⟩ := id
  cases graph? with
  | none => simp [finish, MatchId.parts]
  | some known =>
      cases uid? <;> rcases anchors? with _ | ⟨first, last⟩ <;> rcases defining with _ | ⟨_ | _⟩ <;>
        simp [finish, MatchId.parts, and_assoc]

/-- Whether the field is one of the parts. -/
def Holds (parts : Parts) : Field → Prop
  | .graph id => parts.graph = some id
  | .uid text => parts.uid = some text
  | .anchors start stop => parts.anchors = some (start, stop)
  | .speaker number => parts.speaker = some number
  | .target uid => parts.target = some uid
  | .exportName name => parts.exportName = some name
  | .slot name uid => (name, uid) ∈ parts.slots.entries

theorem holds_put {parts : Parts} {added field : Field} (holds : (parts.put added).Holds field) :
    field = added ∨ parts.Holds field := by
  cases added <;> cases field <;> simp_all [put, Holds, Slots.mem_insert, eq_comm]
  tauto

theorem holds_foldl_put {parts : Parts} {added : List Field} {field : Field}
    (holds : (added.foldl put parts).Holds field) : field ∈ added ∨ parts.Holds field := by
  induction added generalizing parts with
  | nil => exact .inr holds
  | cons first rest ih =>
      rcases ih holds with later | earlier
      · exact .inl (List.mem_cons_of_mem _ later)
      · rcases holds_put earlier with rfl | before
        · exact .inl (List.mem_cons_self ..)
        · exact .inr before

theorem foldl_put_slots (parts : Parts) (entries : List (String × String)) :
    (entries.map fun (name, uid) => Field.slot name uid).foldl put parts =
      { parts with
        slots := entries.foldl (fun slots entry => slots.insert entry.1 entry.2) parts.slots } := by
  induction entries generalizing parts with
  | nil => rfl
  | cons first rest ih => exact ih _

end Parts

theorem mem_fields_iff {id : MatchId} {field : Field} : field ∈ id.fields ↔ id.parts.Holds field := by
  obtain ⟨graph, defining, _, _, _, _⟩ := id
  rcases defining with _ | ⟨_ | _⟩ <;> cases field <;> simp [parts, Parts.Holds, fields, eq_comm]

theorem nodup_keys (id : MatchId) : (id.fields.map Field.key).Nodup := by
  obtain ⟨graph, defining, speaker, target, exportName, entries, sorted⟩ := id
  have names : (entries.map fun entry => Key.slot entry.1).Nodup := by
    refine List.pairwise_map.2 (sorted.imp fun before same => ?_)
    exact String.lt_irrefl _ (Key.slot.inj same ▸ before)
  rcases defining with _ | ⟨_ | _⟩ <;> cases speaker <;> cases target <;> cases exportName <;>
    simpa [fields, Field.key, Function.comp_def] using names

/-- All fields of an identifier make its parts. -/
theorem foldl_put_fields (id : MatchId) : id.fields.foldl Parts.put {} = id.parts := by
  have slots := id.slots.foldl_insert_entries
  obtain ⟨graph, defining, speaker, target, exportName, _⟩ := id
  rcases defining with _ | ⟨_ | _⟩ <;> cases speaker <;> cases target <;> cases exportName <;>
    simp [fields, parts, Parts.put, Parts.foldl_put_slots, slots]

/-! ### Accepted texts -/

/-- The fields that a text has, those that are none left out. -/
def fieldsOf (text : String) : List Field :=
  (Text.fields ';' text.toList).filterMap Field.read?

/-- A text without a character other than blanks has no graph. -/
theorem not_blank_of_parts {text : String} {id : MatchId}
    (gathered : (fieldsOf text).foldl Parts.put {} = id.parts) : Text.allBlank text = false := by
  have holds : ((fieldsOf text).foldl Parts.put {}).Holds (.graph id.graph) := by
    rw [gathered]
    rfl
  rcases Parts.holds_foldl_put holds with graph | impossible
  · obtain ⟨chars, member, read⟩ := List.mem_filterMap.1 graph
    have letter : 'g' ∈ text.toList :=
      (Text.of_mem_fields member).1 (Field.mem_of_read?_graph read)
    rw [Text.allBlank, List.all_eq_false]
    exact ⟨'g', letter, by decide⟩
  · cases impossible

/-- A text stands for the identifier whose fields it has, each of them once. -/
theorem decode_eq_ok {text : String} {id : MatchId} :
    decode text = .ok id ↔
      (∀ chars ∈ Text.fields ';' text.toList, (Field.read? chars).isSome) ∧
        ((fieldsOf text).map Field.key).Nodup ∧
        (fieldsOf text).foldl Parts.put {} = id.parts := by
  have takes : Parts.Takes {} (fieldsOf text) ↔ ((fieldsOf text).map Field.key).Nodup := by
    refine and_iff_left fun field _ => ?_
    cases field <;> rfl
  have read (parts : Parts) : (Text.fields ';' text.toList).foldlM Parts.read {} = .ok parts ↔
      (∀ chars ∈ Text.fields ';' text.toList, (Field.read? chars).isSome) ∧
        ((fieldsOf text).map Field.key).Nodup ∧ (fieldsOf text).foldl Parts.put {} = parts := by
    rw [Parts.foldlM_read_eq_ok, ← takes]
    exact and_congr_right fun _ => Parts.foldlM_add_eq_ok
  unfold decode
  split
  · rename_i blank
    refine ⟨fun found => by contradiction, fun ⟨_, _, gathered⟩ => ?_⟩
    rw [not_blank_of_parts gathered] at blank
    contradiction
  · split
    · rename_i problem failed
      refine ⟨fun found => by contradiction, fun accepted => ?_⟩
      rw [(read _).2 accepted] at failed
      contradiction
    · rename_i parts gathered
      obtain ⟨all, distinct, rfl⟩ := (read _).1 gathered
      rw [Parts.finish_eq_ok]
      exact ⟨fun same => ⟨all, distinct, same⟩, fun accepted => accepted.2.2⟩

/-! ### Texts of identifiers -/

/-- All fields can be read back from the text of the identifier. -/
def IsReadable (id : MatchId) : Prop :=
  ∀ field ∈ id.fields, field.IsReadable

theorem fields_encode {id : MatchId} (readable : id.IsReadable) :
    Text.fields ';' id.encode.toList = id.fields.map fun field => field.text.toList := by
  have some : id.fields.map (fun field => field.text.toList) ≠ [] := by
    simp [fields]
  have apart : ∀ chars ∈ id.fields.map (fun field => field.text.toList), ';' ∉ chars :=
    List.forall_mem_map.2 fun field member => (readable field member).apart
  rw [encode, String.toList_intercalate, List.map_map]
  exact Text.fields_intercalate apart some

theorem fieldsOf_encode {id : MatchId} (readable : id.IsReadable) :
    fieldsOf id.encode = id.fields := by
  rw [fieldsOf, fields_encode readable, List.filterMap_map]
  refine (List.filterMap_congr fun field member => (readable field member).read).trans ?_
  exact List.filterMap_some

theorem decode_encode {id : MatchId} (readable : id.IsReadable) : decode id.encode = .ok id := by
  refine decode_eq_ok.2 ⟨?_, ?_, ?_⟩
  · rw [fields_encode readable]
    exact List.forall_mem_map.2 fun field member => by simp [(readable field member).read]
  · rw [fieldsOf_encode readable]
    exact id.nodup_keys
  · rw [fieldsOf_encode readable]
    exact id.foldl_put_fields

theorem isReadable_of_decode {text : String} {id : MatchId} (decoded : decode text = .ok id) :
    id.IsReadable := by
  intro field member
  have holds := mem_fields_iff.1 member
  rw [← (decode_eq_ok.1 decoded).2.2] at holds
  rcases Parts.holds_foldl_put holds with within | impossible
  · obtain ⟨chars, inText, read⟩ := List.mem_filterMap.1 within
    exact Field.isReadable_of_read? read (Text.of_mem_fields inText).2
  · cases field <;> cases impossible

theorem decode_perm {text other : String} {id : MatchId}
    (reordered : (Text.fields ';' text.toList).Perm (Text.fields ';' other.toList))
    (decoded : decode text = .ok id) : decode other = .ok id := by
  obtain ⟨all, distinct, gathered⟩ := decode_eq_ok.1 decoded
  have fields : (fieldsOf text).Perm (fieldsOf other) := reordered.filterMap _
  refine decode_eq_ok.2 ⟨fun chars member => all chars (reordered.mem_iff.2 member), ?_, ?_⟩
  · exact (fields.map _).nodup_iff.1 distinct
  · rw [← gathered, Parts.foldl_put_perm fields distinct]

/-- What a text is read as is read back from its own text, and the order of the fields
makes no difference to whether and as what a text is read. -/
theorem decode_normalizes (text : String) :
    (∀ id, decode text = .ok id → decode id.encode = .ok id) ∧
      ∀ other, (Text.fields ';' other.toList).Perm (Text.fields ';' text.toList) →
        ∀ id, decode other = .ok id ↔ decode text = .ok id :=
  ⟨fun _ decoded => decode_encode (isReadable_of_decode decoded),
    fun _ reordered _ => ⟨decode_perm reordered, decode_perm reordered.symm⟩⟩

/-- Leading zeros and another order are read as well, and are gone in the text that the
identifier has. -/
theorem unordered_normalizes :
    ∃ id, decode "p_04;[b]=x;prefix=;g_007;n_-0-1;[a]=]" = .ok id ∧
      id.encode = "g_7;n_0-1;p_4;prefix=;[a]=];[b]=x" ∧
      decode id.encode = .ok id ∧
      decode "[a]=];n_-0-1;g_007;prefix=;p_04;[b]=x" = .ok id := by
  obtain ⟨normal, order⟩ := decode_normalizes "p_04;[b]=x;prefix=;g_007;n_-0-1;[a]=]"
  have decoded : decode "p_04;[b]=x;prefix=;g_007;n_-0-1;[a]=]" = .ok
      { graph := 7
        defining := some (.anchors 0 1)
        speaker := some 4
        exportName := some ""
        slots := (Slots.empty.insert "a" "]").insert "b" "x" } := by
    decide +kernel
  exact ⟨_, decoded, by decide +kernel, normal _ decoded,
    (order "[a]=];n_-0-1;g_007;prefix=;p_04;[b]=x" (by decide +kernel) _).2 decoded⟩

/-! ### Identifiers put together -/

/-- One addition to an identifier. -/
inductive Step where
  | uid (text : String)
  | anchors (start stop : Int64)
  | speaker (number : Int64)
  | target (text : String)
  | exportName (name : String)
  | slot (name text : String)

namespace Step

def apply (id : MatchId) : Step → MatchId
  | .uid text => id.withUid text
  | .anchors start stop => id.withAnchors start stop
  | .speaker number => id.withSpeaker number
  | .target text => id.withTarget text
  | .exportName name => id.withExportName name
  | .slot name text => id.withSlot name text

/-- What is added has no character that would end its field or its name, and a defining
uid does not begin like another field. -/
def IsClean : Step → Prop
  | .uid text => ';' ∉ text.toList ∧ ∀ stem ∈ Field.stems, ¬stem.toList <+: text.toList
  | .target text => ';' ∉ text.toList
  | .exportName name => ';' ∉ name.toList
  | .slot name text =>
      ';' ∉ text.toList ∧ ';' ∉ name.toList ∧ ']' ∉ name.toList ∧ '\n' ∉ text.toList
  | .anchors .. => True
  | .speaker _ => True

instance : DecidablePred IsClean
  | .uid text => inferInstanceAs
      (Decidable (';' ∉ text.toList ∧ ∀ stem ∈ Field.stems, ¬stem.toList <+: text.toList))
  | .target text => inferInstanceAs (Decidable (';' ∉ text.toList))
  | .exportName name => inferInstanceAs (Decidable (';' ∉ name.toList))
  | .slot name text => inferInstanceAs (Decidable
      (';' ∉ text.toList ∧ ';' ∉ name.toList ∧ ']' ∉ name.toList ∧ '\n' ∉ text.toList))
  | .anchors .. => inferInstanceAs (Decidable True)
  | .speaker _ => inferInstanceAs (Decidable True)

/-- The field that is added, which an empty uid does not make. -/
def field? : Step → Option Field
  | .uid text => if text = "" then none else some (.uid text)
  | .anchors start stop => some (.anchors start stop)
  | .speaker number => some (.speaker number)
  | .target text => if text = "" then none else some (.target text)
  | .exportName name => some (.exportName name)
  | .slot name text => if text = "" then none else some (.slot name text)

/-- An addition that makes no field changes nothing.  Any other puts its field to those that
there were, but that anchors take the place of a uid, and a uid that of anchors. -/
theorem apply_cases (step : Step) (id : MatchId) :
    step.field? = none ∧ step.apply id = id ∨
      ∃ (added : Field) (kept : Parts), step.field? = some added ∧
        (step.apply id).parts = kept.put added ∧
        ∀ field, kept.Holds field → id.parts.Holds field := by
  cases step with
  | uid text =>
      by_cases empty : text = ""
      · exact .inl ⟨if_pos empty, if_pos empty⟩
      · refine .inr ⟨.uid text, { id.parts with anchors := none }, if_neg empty, ?_,
          fun field kept => ?_⟩
        · exact congrArg parts (if_neg empty)
        · cases field with
          | anchors => contradiction
          | _ => exact kept
  | anchors start stop =>
      refine .inr ⟨.anchors start stop, { id.parts with uid := none }, rfl, rfl,
        fun field kept => ?_⟩
      cases field with
      | uid => contradiction
      | _ => exact kept
  | speaker number => exact .inr ⟨.speaker number, id.parts, rfl, rfl, fun _ kept => kept⟩
  | target text =>
      by_cases empty : text = ""
      · exact .inl ⟨if_pos empty, if_pos empty⟩
      · exact .inr ⟨.target text, id.parts, if_neg empty, congrArg parts (if_neg empty),
          fun _ kept => kept⟩
  | exportName name => exact .inr ⟨.exportName name, id.parts, rfl, rfl, fun _ kept => kept⟩
  | slot name text =>
      by_cases empty : text = ""
      · exact .inl ⟨if_pos empty, if_pos empty⟩
      · exact .inr ⟨.slot name text, id.parts, if_neg empty, congrArg parts (if_neg empty),
          fun _ kept => kept⟩

theorem mem_fields_apply {step : Step} {id : MatchId} {field : Field}
    (member : field ∈ (step.apply id).fields) : step.field? = some field ∨ field ∈ id.fields := by
  rcases step.apply_cases id with ⟨-, same⟩ | ⟨added, kept, made, parts, remains⟩
  · exact .inr (same ▸ member)
  · rw [mem_fields_iff, parts] at member
    rcases Parts.holds_put member with rfl | before
    · exact .inl made
    · exact .inr (mem_fields_iff.2 (remains field before))

theorem isReadable_of_field? {step : Step} {field : Field} (clean : step.IsClean)
    (added : step.field? = some field) : field.IsReadable := by
  cases step with
  | uid text =>
      obtain ⟨some, same⟩ := Option.ite_none_left_eq_some.1 added
      cases same
      exact Field.isReadable_uid clean.1 some clean.2
  | anchors start stop =>
      cases added
      exact Field.isReadable_anchors start stop
  | speaker number =>
      cases added
      exact Field.isReadable_speaker number
  | target text =>
      obtain ⟨some, same⟩ := Option.ite_none_left_eq_some.1 added
      cases same
      exact Field.isReadable_target clean some
  | exportName name =>
      cases added
      exact Field.isReadable_exportName clean
  | slot name text =>
      obtain ⟨some, same⟩ := Option.ite_none_left_eq_some.1 added
      cases same
      obtain ⟨apart, nameApart, closed, line⟩ := clean
      exact Field.isReadable_slot apart some nameApart closed line

theorem isReadable_apply {step : Step} {id : MatchId} (clean : step.IsClean)
    (readable : id.IsReadable) : (step.apply id).IsReadable := fun field member =>
  (mem_fields_apply member).elim (isReadable_of_field? clean) (readable field)

end Step

/-- An identifier of a graph, with additions one after the other. -/
def build (graph : Int64) (steps : List Step) : MatchId :=
  steps.foldl Step.apply (ofGraph graph)

theorem isReadable_foldl {steps : List Step} {id : MatchId} (clean : ∀ step ∈ steps, step.IsClean)
    (readable : id.IsReadable) : (steps.foldl Step.apply id).IsReadable := by
  induction steps generalizing id with
  | nil => exact readable
  | cons first rest ih =>
      obtain ⟨now, later⟩ := List.forall_mem_cons.1 clean
      exact ih later (Step.isReadable_apply now readable)

theorem isReadable_ofGraph (graph : Int64) : (ofGraph graph).IsReadable := by
  simpa [IsReadable, ofGraph, fields, Slots.empty] using Field.isReadable_graph graph

/-- An identifier that was put together from clean texts is read back from its text. -/
theorem built_reads_back (graph : Int64) {steps : List Step}
    (clean : ∀ step ∈ steps, step.IsClean) :
    decode (build graph steps).encode = .ok (build graph steps) :=
  decode_encode (isReadable_foldl clean (isReadable_ofGraph graph))

/-- Additions of every kind, some of them repeated and some with an empty uid. -/
def mixedSteps : List Step :=
  [.uid "ew_0_2", .anchors (-3) (-1), .uid "", .speaker (-4), .slot "b=[" "", .slot "b=[" "p_0",
    .slot "" "g_", .target "#=", .target "", .exportName "prefix=", .slot "b=[" "n_1-2"]

theorem mixedSteps_read_back :
    (∀ step ∈ mixedSteps, step.IsClean) ∧
      (build 7 mixedSteps).encode = "g_7;n_-3--1;p_-4;#=#=;prefix=prefix=;[]=g_;[b=[]=n_1-2" ∧
      decode (build 7 mixedSteps).encode = .ok (build 7 mixedSteps) :=
  have clean : ∀ step ∈ mixedSteps, step.IsClean := by decide
  ⟨clean, by decide +kernel, built_reads_back 7 clean⟩

end CorpusQuery.MatchId
