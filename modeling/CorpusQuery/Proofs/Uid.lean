import CorpusQuery.Rows
import CorpusQuery.Uid
import CorpusQuery.Proofs.Number.Integer
import CorpusQuery.Proofs.Sql.Literals
import CorpusQuery.Proofs.Text.Fields

namespace CorpusQuery

/-! Uids seen from four sides: as texts, as expressions of statements, as what texts are
read as, and as what is stored for a layer. -/

/-! ### Expressions -/

namespace Sql

/-- What `CONCAT` makes of a literal and of the cell of a row, where that is this
number. -/
def concatenated? (cell : String) (number : Int64) (sql : String) : Option String :=
  match sql.toList with
  | 'C' :: 'O' :: 'N' :: 'C' :: 'A' :: 'T' :: '(' :: rest => do
      let (text, behind) ← readLiteral? rest
      if behind = (", " ++ cell ++ ")").toList then
        return String.ofList text ++ Number.text number
      else none
  | _ => none

end Sql

open Sql

theorem concatenated?_uidFrom (stem : String) (number : Int64) (cell : Fragment) :
    concatenated? cell.sql number (uidFrom stem cell).sql = some (stem ++ Number.text number) := by
  have written : (uidFrom stem cell).sql.toList =
      'C' :: 'O' :: 'N' :: 'C' :: 'A' :: 'T' :: '(' ::
        ((literal stem).toList ++ (", " ++ cell.sql ++ ")").toList) := by
    simp [uidFrom, apply, Fragment.parenthesized, Piece.sql]
  have apart : (", " ++ cell.sql ++ ")").toList.head? ≠ some '\'' := by simp
  have read := readLiteral?_literal stem apart
  simp only [concatenated?, written, read]
  simp

/-! ### Texts -/

namespace Uid

theorem nonneg_iff {number : Int64} : 0 ≤ number ↔ 0 ≤ number.toInt := by
  simp [Int64.le_iff_toInt_le]

theorem unsigned?_text_eq (number : Int64) :
    Number.unsigned? (Number.text number).toList = if 0 ≤ number then some number else none := by
  split
  · rename_i nonneg
    exact Number.unsigned?_text (nonneg_iff.1 nonneg)
  · rename_i below
    exact Number.unsigned?_text_of_neg (Int.not_le.1 (below ∘ nonneg_iff.2))

theorem readNumbers_text (scope : Scope) (table number : Int64) :
    readNumbers scope ((Number.text table).toList ++ '_' :: (Number.text number).toList) =
      if 0 ≤ number then some (.temporal scope table number) else none := by
  have apart : '_' ∉ (Number.text table).toList := Number.not_mem_text (by decide)
  by_cases nonneg : 0 ≤ number <;>
    simp [readNumbers, Text.cut_append apart, Number.signed?_text, unsigned?_text_eq, nonneg]

theorem readNamed_text (owner : Owner) (name : List Char) (number : Int64) :
    readNamed owner (name ++ '|' :: (Number.text number).toList) =
      if 0 ≤ number ∧ name ≠ [] ∧ '\n' ∉ name then
        some (.attributed owner (String.ofList name) number)
      else none := by
  have apart : '|' ∉ (Number.text number).toList := Number.not_mem_text (by decide)
  by_cases nonneg : 0 ≤ number <;> by_cases named : name = [] ∨ '\n' ∈ name <;>
    simp [readNamed, Text.cutLast_append apart, unsigned?_text_eq, nonneg, named, ← not_or]

theorem read?_temporal (scope : Scope) (table number : Int64) :
    read? (temporal scope table number).text =
      if 0 ≤ number then some (.temporal scope table number) else none := by
  have numbers := readNumbers_text scope table number
  cases scope <;> simpa [read?, text, Storage.temporalStem, Scope.letter] using numbers

theorem read?_attributed (owner : Owner) (name : String) (number : Int64) :
    read? (attributed owner name number).text =
      if 0 ≤ number ∧ name ≠ "" ∧ '\n' ∉ name.toList then some (.attributed owner name number)
      else none := by
  have named := readNamed_text owner name.toList number
  cases owner <;> simpa [read?, text, Storage.attributeStem, Owner.letter] using named

theorem of_readNumbers {scope : Scope} {chars : List Char} {uid : Uid}
    (read : readNumbers scope chars = some uid) :
    ∃ table number, uid = .temporal scope table number ∧ 0 ≤ number := by
  obtain ⟨⟨first, last⟩, -, numbers⟩ := Option.bind_eq_some_iff.1 read
  obtain ⟨table, -, others⟩ := Option.bind_eq_some_iff.1 numbers
  obtain ⟨number, unsigned, same⟩ := Option.bind_eq_some_iff.1 others
  exact ⟨table, number, (Option.some.inj same).symm,
    nonneg_iff.2 (Number.nonneg_of_unsigned? unsigned)⟩

theorem of_readNamed {owner : Owner} {chars : List Char} {uid : Uid}
    (read : readNamed owner chars = some uid) :
    ∃ name number, uid = .attributed owner name number ∧
      0 ≤ number ∧ name ≠ "" ∧ '\n' ∉ name.toList := by
  obtain ⟨⟨name, last⟩, -, others⟩ := Option.bind_eq_some_iff.1 read
  dsimp only at others
  split at others
  · contradiction
  · rename_i named
    obtain ⟨number, unsigned, same⟩ := Option.bind_eq_some_iff.1 others
    exact ⟨String.ofList name, number, (Option.some.inj same).symm,
      nonneg_iff.2 (Number.nonneg_of_unsigned? unsigned), by simpa using named⟩

/-- The text that was read may have zeros at the heads of its numbers, which the text of
the uid has not. -/
theorem read?_text_of_read? {text : String} {uid : Uid} (read : read? text = some uid) :
    read? uid.text = some uid := by
  have numbers {scope : Scope} {chars : List Char} (found : readNumbers scope chars = some uid) :
      read? uid.text = some uid := by
    obtain ⟨table, number, rfl, nonneg⟩ := of_readNumbers found
    rw [read?_temporal, if_pos nonneg]
  have named {owner : Owner} {chars : List Char} (found : readNamed owner chars = some uid) :
      read? uid.text = some uid := by
    obtain ⟨name, number, rfl, whole⟩ := of_readNamed found
    rw [read?_attributed, if_pos whole]
  unfold read? at read
  split at read
  · exact numbers read
  · exact numbers read
  · exact numbers read
  · exact numbers read
  · exact named read
  · exact named read
  · contradiction

/-! ### Storage -/

theorem belongsTo_iff {uid : Uid} {storage : Storage} :
    uid.belongsTo storage = true ↔ of? storage uid.number = some uid := by
  cases uid <;> cases storage <;> simp [belongsTo, of?, number]
  all_goals exact and_congr eq_comm eq_comm

/-- The stem of a layer and a number are the text of one uid, which is what a statement
makes of the number, and which can be read unless the number is negative or the name of
an attribute is missing or has more lines than one.  A uid belongs to the layers whose
uid of its number it is, and what is read is read again of its own text. -/
theorem views_agree :
    (∀ storage number, (∀ entity, storage ≠ .entity entity) →
      ∃ stem uid, storage.uidStem = some stem ∧ of? storage number = some uid ∧
        stem ++ Number.text number = uid.text ∧
        (∀ cell, ∃ expression, uidOf? storage cell = some expression ∧
          concatenated? cell.sql number expression.sql = some uid.text) ∧
        read? uid.text =
          if 0 ≤ number ∧ ∀ name ∈ storage.attributeName, name ≠ "" ∧ '\n' ∉ name.toList then
            some uid
          else none) ∧
      (∀ (uid : Uid) storage,
        uid.belongsTo storage = true ↔ of? storage uid.number = some uid) ∧
      ∀ text uid, read? text = some uid → read? uid.text = some uid := by
  refine ⟨fun storage number annotated => ?_, fun _ _ => belongsTo_iff, fun _ _ => read?_text_of_read?⟩
  cases storage with
  | temporal scope table =>
      refine ⟨_, _, rfl, rfl, rfl, fun cell => ⟨_, rfl, concatenated?_uidFrom ..⟩, ?_⟩
      simp [read?_temporal, Storage.attributeName]
  | attributed owner name =>
      refine ⟨_, _, rfl, rfl, rfl, fun cell => ⟨_, rfl, concatenated?_uidFrom ..⟩, ?_⟩
      simp [read?_attributed, Storage.attributeName]
  | entity entity => exact absurd rfl (annotated entity)

/-- An attribute with a quote and a bar in its name, and a negative table. -/
theorem oddName_views_agree :
    (∃ stem uid, (Storage.attributed .transcript "o'clock|1").uidStem = some stem ∧
      of? (.attributed .transcript "o'clock|1") 17 = some uid ∧
      stem ++ Number.text 17 = uid.text ∧
      (∀ cell, ∃ expression, uidOf? (.attributed .transcript "o'clock|1") cell = some expression ∧
        concatenated? cell.sql 17 expression.sql = some uid.text) ∧
      read? uid.text = some uid) ∧
      (temporal .word (-2) 7).belongsTo (.temporal .word (-2)) = true ∧
      read? "ew_-02_007" = some (.temporal .word (-2) 7) ∧
      read? (temporal .word (-2) 7).text = some (.temporal .word (-2) 7) := by
  obtain ⟨views, belongs, again⟩ := views_agree
  have read : read? "ew_-02_007" = some (.temporal .word (-2) 7) := by decide +kernel
  refine ⟨?_, (belongs (.temporal .word (-2) 7) (.temporal .word (-2))).2 rfl, read, again _ _ read⟩
  obtain ⟨stem, uid, prefixed, made, whole, written, reads⟩ :=
    views (.attributed .transcript "o'clock|1") 17 (by simp)
  exact ⟨stem, uid, prefixed, made, whole, written, reads.trans (if_pos (by decide +kernel))⟩

end Uid

end CorpusQuery
