import CorpusQuery.MatchId.Codec
import CorpusQuery.Proofs.Number.Integer
import CorpusQuery.Proofs.Text.Fields

namespace CorpusQuery.MatchId.Field

/-! Single fields of identifiers, and which of them are read back from their texts. -/

/-- The beginnings that a defining uid must not have, for they are those of other
fields. -/
def stems : List String :=
  ["prefix=", "#=", "[", "g_", "n_", "p_"]

/-- The text stands for the field, and for one field only. -/
structure IsReadable (field : Field) : Prop where
  read : read? field.text.toList = some field
  apart : ';' ∉ field.text.toList

/-! ### Beginnings -/

theorem toList_graph (id : Int64) :
    (graph id).text.toList = "g_".toList ++ (Number.text id).toList :=
  String.toList_append

theorem toList_anchors (start stop : Int64) :
    (anchors start stop).text.toList =
      "n_".toList ++ ((Number.text start).toList ++ '-' :: (Number.text stop).toList) := by
  change ("n_" ++ Number.text start ++ "-" ++ Number.text stop).toList = _
  simp

theorem toList_speaker (number : Int64) :
    (speaker number).text.toList = "p_".toList ++ (Number.text number).toList :=
  String.toList_append

theorem toList_target (uid : String) : (target uid).text.toList = "#=".toList ++ uid.toList :=
  String.toList_append

theorem toList_exportName (name : String) :
    (exportName name).text.toList = "prefix=".toList ++ name.toList :=
  String.toList_append

theorem toList_slot (name uid : String) :
    (slot name uid).text.toList = "[".toList ++ (name.toList ++ ']' :: '=' :: uid.toList) := by
  change ("[" ++ name ++ "]=" ++ uid).toList = _
  simp

theorem read?_graph (rest : List Char) :
    read? ("g_".toList ++ rest) = (Number.signed? rest).map .graph :=
  rfl

theorem read?_anchors (rest : List Char) : read? ("n_".toList ++ rest) = readAnchors rest :=
  rfl

theorem read?_speaker (rest : List Char) :
    read? ("p_".toList ++ rest) = (Number.signed? rest).map .speaker :=
  rfl

theorem read?_target (uid : List Char) :
    read? ("#=".toList ++ uid) = if uid = [] then none else some (.target (String.ofList uid)) :=
  rfl

theorem read?_exportName (name : List Char) :
    read? ("prefix=".toList ++ name) = some (.exportName (String.ofList name)) :=
  rfl

theorem read?_slot (rest : List Char) : read? ("[".toList ++ rest) = readSlot rest :=
  rfl

/-- What begins like no other field is a uid. -/
theorem read?_uid {chars : List Char} (some : chars ≠ [])
    (own : ∀ stem ∈ stems, ¬stem.toList <+: chars) :
    read? chars = .some (.uid (String.ofList chars)) := by
  have other {stem : String} (reserved : stem ∈ stems) {rest : List Char} :
      chars ≠ stem.toList ++ rest := fun same => own stem reserved ⟨rest, same.symm⟩
  unfold read?
  split
  · contradiction
  · exact absurd rfl (other (show "prefix=" ∈ stems by decide))
  · exact absurd rfl (other (show "#=" ∈ stems by decide))
  · exact absurd rfl (other (show "[" ∈ stems by decide))
  · exact absurd rfl (other (show "g_" ∈ stems by decide))
  · exact absurd rfl (other (show "n_" ∈ stems by decide))
  · exact absurd rfl (other (show "p_" ∈ stems by decide))
  · rfl

/-! ### Numbers -/

theorem semicolon_notMem_text (n : Int64) : ';' ∉ (Number.text n).toList :=
  Number.not_mem_text (by decide)

theorem isReadable_graph (id : Int64) : (graph id).IsReadable := by
  constructor
  · rw [toList_graph, read?_graph, Number.signed?_text, Option.map_some]
  · simp [toList_graph, semicolon_notMem_text]

theorem isReadable_speaker (number : Int64) : (speaker number).IsReadable := by
  constructor
  · rw [toList_speaker, read?_speaker, Number.signed?_text, Option.map_some]
  · simp [toList_speaker, semicolon_notMem_text]

theorem readAnchors_text (start stop : Int64) :
    readAnchors ((Number.text start).toList ++ '-' :: (Number.text stop).toList) =
      some (.anchors start stop) := by
  have read := Number.signed?_text start
  rcases Int.lt_or_le start.toInt 0 with below | nonneg
  · rw [Number.toList_text_of_neg below] at read ⊢
    have bare : '-' ∉ Nat.toDigits 10 start.toInt.natAbs := fun minus =>
      absurd (Nat.isDigit_of_mem_toDigits (by decide) (Nat.le_refl 10) minus) (by decide)
    simp [readAnchors, Text.cut_append bare, read, Number.signed?_text]
  · have digits := (Number.isDigit_of_unsigned? (Number.unsigned?_text nonneg)).2
    have bare : '-' ∉ (Number.text start).toList := fun minus =>
      absurd (digits '-' minus) (by decide)
    unfold readAnchors
    split
    · rename_i rest same
      rcases List.append_eq_cons_iff.1 same with ⟨none, -⟩ | ⟨others, minus, -⟩
      · exact absurd none (Number.isDigit_of_unsigned? (Number.unsigned?_text nonneg)).1
      · exact absurd (minus ▸ List.mem_cons_self ..) bare
    · simp [Text.cut_append bare, read, Number.signed?_text]

theorem isReadable_anchors (start stop : Int64) : (anchors start stop).IsReadable := by
  constructor
  · rw [toList_anchors, read?_anchors, readAnchors_text]
  · simp [toList_anchors, semicolon_notMem_text]

/-! ### Texts -/

section

variable {text : String} (apart : ';' ∉ text.toList)

include apart

theorem isReadable_exportName : (exportName text).IsReadable := by
  constructor
  · rw [toList_exportName, read?_exportName, String.ofList_toList]
  · simp [toList_exportName, apart]

variable (some : text ≠ "")

include some

theorem isReadable_target : (target text).IsReadable := by
  constructor
  · rw [toList_target, read?_target, if_neg (by simpa using some), String.ofList_toList]
  · simp [toList_target, apart]

theorem isReadable_uid (own : ∀ stem ∈ stems, ¬stem.toList <+: text.toList) :
    (uid text).IsReadable := by
  refine ⟨?_, apart⟩
  change read? text.toList = _
  rw [read?_uid (by simpa using some) own, String.ofList_toList]

theorem isReadable_slot {name : String} (nameApart : ';' ∉ name.toList)
    (closed : ']' ∉ name.toList) (line : '\n' ∉ text.toList) : (slot name text).IsReadable := by
  constructor
  · rw [toList_slot, read?_slot]
    simp [readSlot, Text.cut_append closed, some, line]
  · simp [toList_slot, apart, nameApart]

end

/-! ### What is read -/

theorem eq_anchors_of_readAnchors {chars : List Char} {field : Field}
    (read : readAnchors chars = some field) : ∃ start stop, field = .anchors start stop := by
  obtain ⟨⟨first, last⟩, -, numbers⟩ := Option.bind_eq_some_iff.1 read
  obtain ⟨start, -, others⟩ := Option.bind_eq_some_iff.1 numbers
  obtain ⟨stop, -, same⟩ := Option.bind_eq_some_iff.1 others
  exact ⟨start, stop, (Option.some.inj same).symm⟩

theorem eq_slot_of_readSlot {chars : List Char} {field : Field}
    (read : readSlot chars = some field) :
    ∃ name uid, field = .slot (String.ofList name) (String.ofList uid) ∧
      chars = name ++ ']' :: '=' :: uid ∧ ']' ∉ name ∧ uid ≠ [] ∧ '\n' ∉ uid := by
  unfold readSlot at read
  split at read
  · rename_i name uid cut
    split at read
    · contradiction
    · rename_i kept
      obtain ⟨split, closed⟩ := Text.eq_append_of_cut cut
      exact ⟨name, uid, (Option.some.inj read).symm, split, closed, not_or.1 kept⟩
  · contradiction

theorem cases_of_read? {chars : List Char} {field : Field} (read : read? chars = some field) :
    (∃ name, chars = "prefix=".toList ++ name ∧ field = .exportName (String.ofList name)) ∨
      (∃ uid, chars = "#=".toList ++ uid ∧ uid ≠ [] ∧ field = .target (String.ofList uid)) ∨
      (∃ rest, chars = "[".toList ++ rest ∧ readSlot rest = some field) ∨
      (∃ rest id, chars = "g_".toList ++ rest ∧ field = .graph id) ∨
      (∃ start stop, field = .anchors start stop) ∨
      (∃ number, field = .speaker number) ∨
      field = .uid (String.ofList chars) := by
  by_cases stemmed : ∃ stem ∈ stems, stem.toList <+: chars
  · obtain ⟨stem, reserved, rest, rfl⟩ := stemmed
    simp only [stems, List.mem_cons, List.not_mem_nil, or_false] at reserved
    rcases reserved with rfl | rfl | rfl | rfl | rfl | rfl
    · rw [read?_exportName] at read
      exact .inl ⟨rest, rfl, (Option.some.inj read).symm⟩
    · rw [read?_target] at read
      obtain ⟨some, same⟩ := Option.ite_none_left_eq_some.1 read
      exact .inr (.inl ⟨rest, rfl, some, (Option.some.inj same).symm⟩)
    · rw [read?_slot] at read
      exact .inr (.inr (.inl ⟨rest, rfl, read⟩))
    · rw [read?_graph] at read
      obtain ⟨id, -, same⟩ := Option.map_eq_some_iff.1 read
      exact .inr (.inr (.inr (.inl ⟨rest, id, rfl, same.symm⟩)))
    · rw [read?_anchors] at read
      exact .inr (.inr (.inr (.inr (.inl (eq_anchors_of_readAnchors read)))))
    · rw [read?_speaker] at read
      obtain ⟨number, -, same⟩ := Option.map_eq_some_iff.1 read
      exact .inr (.inr (.inr (.inr (.inr (.inl ⟨number, same.symm⟩)))))
  · have some : chars ≠ [] := by
      rintro rfl
      contradiction
    rw [read?_uid some fun stem reserved begins => stemmed ⟨stem, reserved, begins⟩] at read
    exact .inr (.inr (.inr (.inr (.inr (.inr (Option.some.inj read).symm)))))

/-- A graph is read of no text but one that begins like it. -/
theorem mem_of_read?_graph {chars : List Char} {id : Int64}
    (read : read? chars = some (.graph id)) : 'g' ∈ chars := by
  rcases cases_of_read? read with ⟨_, _, same⟩ | ⟨_, _, _, same⟩ | ⟨rest, _, slot⟩ |
    ⟨rest, _, rfl, _⟩ | ⟨_, _, same⟩ | ⟨_, same⟩ | same
  · contradiction
  · contradiction
  · obtain ⟨name, uid, same, -⟩ := eq_slot_of_readSlot slot
    contradiction
  · simp
  · contradiction
  · contradiction
  · contradiction

/-- A field that was read from a text, however it was written there, is read back
from its own text. -/
theorem isReadable_of_read? {chars : List Char} {field : Field} (read : read? chars = some field)
    (apart : ';' ∉ chars) : field.IsReadable := by
  rcases cases_of_read? read with ⟨name, rfl, rfl⟩ | ⟨uid, rfl, some, rfl⟩ | ⟨rest, rfl, slot⟩ |
    ⟨_, id, _, rfl⟩ | ⟨start, stop, rfl⟩ | ⟨number, rfl⟩ | rfl
  · exact isReadable_exportName (by simp_all)
  · exact isReadable_target (by simp_all) (by simpa using some)
  · obtain ⟨name, uid, rfl, rfl, closed, some, line⟩ := eq_slot_of_readSlot slot
    simp only [List.mem_cons, List.mem_append, not_or] at apart
    exact isReadable_slot (by simp_all) (by simpa using some) (by simp_all) (by simpa using closed)
      (by simpa using line)
  · exact isReadable_graph id
  · exact isReadable_anchors start stop
  · exact isReadable_speaker number
  · have own : (uid (String.ofList chars)).text.toList = chars := String.toList_ofList
    exact ⟨by rwa [own], by rwa [own]⟩

end CorpusQuery.MatchId.Field
