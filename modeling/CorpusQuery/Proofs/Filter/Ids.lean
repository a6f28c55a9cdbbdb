import CorpusQuery.Proofs.Filter.EmptyLists
import CorpusQuery.Proofs.Problem
import CorpusQuery.Proofs.Sql.Verdicts
import CorpusQuery.Proofs.Uid

namespace CorpusQuery

/-! Comparisons of the subject's id with texts.

The texts are read as uids when the condition is made, and only the numbers of annotations
are left in it.  It holds of the same rows as the comparison of the uids would. -/

open Sql

/-! ### What is asked -/

/-- The predicate asks whether the id is one of some texts, or whether it is none of them. -/
inductive Expression.AsksId : Expression → List String → Bool → Prop
  | left (uid : String) {op : Comparison} (equation : op.isEquality) :
      AsksId (.compare (.own .id) op (.text uid)) [uid] op.isNegated
  | right (uid : String) {op : Comparison} (equation : op.isEquality) :
      AsksId (.compare (.text uid) op (.own .id)) [uid] op.isNegated
  | among (uids : List String) :
      AsksId (.includes (.list (uids.map .text)) (.own .id)) uids false

theorem Expression.AsksId.isWhole {predicate : Expression} {uids : List String} {negated : Bool}
    (asks : predicate.AsksId uids negated) : predicate.IsWhole := by
  cases asks <;> nofun

namespace Uid

/-- Both texts are the same uid. -/
def Same (left right : String) : Prop :=
  ∃ uid, read? left = some uid ∧ read? right = some uid

/-- A stem and a number are read as the uid of the annotation with this number, if as any. -/
theorem of?_of_read? {storage : Storage} {stem : String} (prefixed : storage.uidStem = some stem)
    {number : Int64} {uid : Uid} (read : read? (stem ++ Number.text number) = some uid) :
    of? storage number = some uid := by
  cases storage with
  | temporal scope table =>
      cases prefixed
      exact (Option.ite_none_right_eq_some.1
        ((read?_temporal scope table number).symm.trans read)).2
  | attributed owner name =>
      cases prefixed
      exact (Option.ite_none_right_eq_some.1
        ((read?_attributed owner name number).symm.trans read)).2
  | entity entity => contradiction

theorem text_of_belongsTo {storage : Storage} {stem : String}
    (prefixed : storage.uidStem = some stem) {uid : Uid} (belongs : uid.belongsTo storage) :
    stem ++ Number.text uid.number = uid.text := by
  have made := belongsTo_iff.1 belongs
  cases storage with
  | temporal scope table | attributed owner name =>
      cases prefixed
      rw [← Option.some.inj made]
      rfl
  | entity entity => contradiction

theorem number_of_of? {storage : Storage} {number : Int64} {uid : Uid}
    (made : of? storage number = some uid) : uid.number = number := by
  cases storage with
  | temporal scope table | attributed owner name =>
      cases made
      rfl
  | entity entity => contradiction

theorem nonneg_of_read? {text : String} {uid : Uid} (read : read? text = some uid) :
    0 ≤ uid.number := by
  have again := read?_text_of_read? read
  cases uid with
  | temporal scope table number =>
      rw [read?_temporal] at again
      exact (Option.ite_none_right_eq_some.1 again).1
  | attributed owner name number =>
      rw [read?_attributed] at again
      exact (Option.ite_none_right_eq_some.1 again).1.1

end Uid

namespace Filter

/-- The number is among those of the uids exactly if the uid that it makes is. -/
theorem mem_numbersOf_iff_same {storage : Storage} {stem : String}
    (prefixed : storage.uidStem = some stem) {uids : List String} {number : Int64} :
    number ∈ Scene.numbersOf storage uids ↔
      ∃ uid ∈ uids, Uid.Same uid (stem ++ Number.text number) := by
  rw [Scene.mem_numbersOf]
  constructor
  · rintro ⟨uid, listed, read, known, belongs, rfl⟩
    refine ⟨uid, listed, read, known, ?_⟩
    rw [Uid.text_of_belongsTo prefixed belongs, Uid.read?_text_of_read? known]
  · rintro ⟨uid, listed, read, known, again⟩
    have made := Uid.of?_of_read? prefixed again
    have sameNumber := Uid.number_of_of? made
    exact ⟨uid, listed, read, known, Uid.belongsTo_iff.2 (sameNumber ▸ made), sameNumber⟩

theorem nonneg_of_mem_numbersOf {storage : Storage} {uids : List String} {number : Int64}
    (member : number ∈ Scene.numbersOf storage uids) : 0 ≤ number := by
  obtain ⟨uid, -, read, known, -, rfl⟩ := Scene.mem_numbersOf.1 member
  exact Uid.nonneg_of_read? known

/-! ### The condition word by word -/

/-- The words of the condition that the number of the row is among some, or is none of
them. -/
def idWords (negated : Bool) : List Int64 → List String
  | [] => [if negated then "TRUE" else "FALSE"]
  | [number] => ["annotation.annotation_id", if negated then "<>" else "=", Number.text number]
  | numbers =>
      "annotation.annotation_id" :: (if negated then ["NOT", "IN", "("] else ["IN", "("]) ++
        (numbers.map Number.text).intersperse "," ++ [")"]

theorem isLexeme_text (number : Int64) : IsLexeme (Number.text number).toList := by
  obtain ⟨negative, digits, parts, some, -, -⟩ := Number.text_parts number
  refine ⟨by simp [parts, some], fun c member => ?_⟩
  have blank : ' ' ∉ (Number.text number).toList := Number.not_mem_text (by decide)
  have notPunctuation {mark : Char} (isMark : isPunctuation mark) :
      mark ∉ (Number.text number).toList := by
    apply Number.not_mem_text
    revert isMark
    unfold isPunctuation
    simp
    rintro ((rfl | rfl) | rfl) <;> decide
  refine ⟨fun same => blank (same ▸ member), ?_⟩
  by_contra isMark
  exact notPunctuation (by simpa using isMark) member

theorem lexemes_numberList {numbers : List Int64} (some : numbers ≠ []) :
    lexemes (Scene.numberList numbers).sql.toList =
      ((numbers.map Number.text).intersperse ",").map String.toList := by
  induction numbers with
  | nil => contradiction
  | cons first rest ih =>
      cases rest with
      | nil => simpa [Scene.numberList, Fragment.commaList, Fragment.join, Piece.sql] using
          (isLexeme_text first).lexemes_eq
      | cons second more =>
          have written : (Scene.numberList (first :: second :: more)).sql.toList =
              (Number.text first).toList ++ ',' :: ([] ++ ' ' ::
                (Scene.numberList (second :: more)).sql.toList) := by
            simp [Scene.numberList, Fragment.commaList, Fragment.join, Piece.sql]
          have nothing : lexemes [] = [] := rfl
          rw [written, lexemes_punctuation rfl, lexemes_blank, nothing, ih (by simp),
            (isLexeme_text first).lexemes_eq]
          simp

theorem lexemes_isOneOf (storage : Storage) (layer : String) (uids : List String)
    (negated : Bool) :
    lexemes (Scene.isOneOf storage layer uids negated).value.sql.toList =
      (idWords negated (Scene.numbersOf storage uids)).map String.toList := by
  unfold Scene.isOneOf
  dsimp only
  generalize Scene.numbersOf storage uids = numbers
  match numbers with
  | [] => cases negated <;> decide
  | [number] =>
      have written : Fragment.sql [.column "annotation" "annotation_id",
            .words (if negated then " <> " else " = "), .words (Number.text number)] =
          String.ofList ([' '].intercalate ((idWords negated [number]).map String.toList)) := by
        cases negated <;> simp [idWords, Piece.sql, ← String.toList_inj]
      rw [written, String.toList_ofList, lexemes_intercalate]
      cases negated <;> simp [idWords, isLexeme_text] <;> decide
  | first :: second :: more =>
      have items := lexemes_numberList (List.cons_ne_nil first (second :: more))
      have written : Fragment.sql ([.column "annotation" "annotation_id",
            .words (if negated then " NOT IN " else " IN ")] ++
          (Scene.numberList (first :: second :: more)).parenthesized) =
          String.ofList ((if negated then "annotation.annotation_id NOT IN "
              else "annotation.annotation_id IN ").toList ++ '(' ::
            ((Scene.numberList (first :: second :: more)).sql.toList ++ ')' :: [])) := by
        cases negated <;> simp [Piece.sql, Fragment.parenthesized, ← String.toList_inj]
      have nothing : lexemes [] = [] := rfl
      have head : lexemes (if negated then "annotation.annotation_id NOT IN "
          else "annotation.annotation_id IN ").toList =
          ("annotation.annotation_id" :: if negated then ["NOT", "IN"] else ["IN"]).map
            String.toList := by
        cases negated <;> decide
      rw [written, String.toList_ofList, lexemes_punctuation rfl, lexemes_punctuation rfl, items,
        nothing, head]
      cases negated <;> simp [idWords]

/-! ### What it says -/

theorem listed?_texts (numbers : Numbers) {ids : List Int64} (some : ids ≠ [])
    (nonneg : ∀ id ∈ ids, 0 ≤ id) :
    listed? ((((ids.map Number.text).intersperse "," ++ [")"]).map String.toList).map
        (Lexeme.ofChars numbers)) = .some (ids.map Int64.toInt) := by
  have comma : Lexeme.ofChars numbers [','] = .word "," := rfl
  have closing : Lexeme.ofChars numbers [')'] = .word ")" := rfl
  induction ids with
  | nil => contradiction
  | cons first rest ih =>
      obtain ⟨isFirst, others⟩ := List.forall_mem_cons.1 nonneg
      have read := Lexeme.ofChars_text numbers isFirst
      cases rest with
      | nil => simp [read, closing, listed?]
      | cons second more =>
          have inner := ih (List.cons_ne_nil _ _) others
          simp only [List.map_cons, List.intersperse_cons_cons, List.cons_append] at inner ⊢
          rw [read]
          change (listed? _).map _ = _
          rw [inner]
          rfl

/-- The condition holds of the rows whose number is among the numbers, or is not. -/
theorem readCondition_idWords {numbers : Numbers} {number : Int64}
    (known : numbers "annotation" "annotation_id" = some number.toInt) (negated : Bool)
    {ids : List Int64} (nonneg : ∀ id ∈ ids, 0 ≤ id) :
    readCondition (((idWords negated ids).map String.toList).map (Lexeme.ofChars numbers)) =
      some (negated ^^ decide (number ∈ ids)) := by
  have written : "annotation.annotation_id".toList =
      "annotation".toList ++ '.' :: "annotation_id".toList := by decide
  have cell : Lexeme.ofChars numbers "annotation.annotation_id".toList =
      .number (some number.toInt) := by
    rw [written, Lexeme.ofChars_column numbers (by decide), known]
  match ids with
  | [] => cases negated <;> rfl
  | [id] =>
      have read := Lexeme.ofChars_text numbers (nonneg id (List.mem_singleton_self id))
      have sign : Lexeme.ofChars numbers (if negated then "<>" else "=").toList =
          .word (if negated then "<>" else "=") := by
        cases negated <;> rfl
      have same : (number.toInt == id.toInt) = decide (number = id) := by
        simp [beq_eq_decide, Int64.toInt_inj]
      simp only [idWords, List.map_cons, List.map_nil, cell, sign, read]
      cases negated <;> simp [readCondition, sum?, compares, same, bne]
  | first :: second :: more =>
      have items := listed?_texts numbers (List.cons_ne_nil first (second :: more)) nonneg
      have keywords : (((if negated then ["NOT", "IN", "("] else ["IN", "("]).map
          String.toList).map (Lexeme.ofChars numbers)) =
          (if negated then ["NOT", "IN", "("] else ["IN", "("]).map Lexeme.word := by
        cases negated <;> rfl
      have among : ((first :: second :: more).map Int64.toInt).contains number.toInt =
          decide (number ∈ first :: second :: more) := by
        simp [Int64.toInt_inj]
      have parts : ((idWords negated (first :: second :: more)).map String.toList).map
          (Lexeme.ofChars numbers) = .number (some number.toInt) ::
            ((if negated then ["NOT", "IN", "("] else ["IN", "("]).map Lexeme.word ++
              ((((first :: second :: more).map Number.text).intersperse "," ++ [")"]).map
                String.toList).map (Lexeme.ofChars numbers)) := by
        rw [← cell, ← keywords]
        simp [idWords]
      rw [parts, readCondition_among, items, Option.map_some, Option.any_some, among]

theorem mem_intersperse {separator item : String} {items : List String}
    (member : item ∈ items.intersperse separator) : item = separator ∨ item ∈ items := by
  induction items with
  | nil => contradiction
  | cons first rest ih =>
      cases rest with
      | nil => exact .inr member
      | cons second more =>
          rw [List.intersperse_cons_cons, List.mem_cons, List.mem_cons] at member
          rcases member with rfl | rfl | later
          · exact .inr (List.mem_cons_self ..)
          · exact .inl rfl
          · exact (ih later).imp_right (List.mem_cons_of_mem _)

/-- The words that a condition has besides numbers. -/
def otherWords : List String :=
  ["annotation.annotation_id", "=", "<>", "NOT", "IN", "(", ",", ")", "TRUE", "FALSE"]

theorem mem_idWords {negated : Bool} {ids : List Int64} {word : String}
    (member : word ∈ idWords negated ids) :
    word ∈ otherWords ∨ ∃ id ∈ ids, word = Number.text id := by
  match ids with
  | [] =>
      obtain rfl := List.mem_singleton.1 member
      exact .inl (by cases negated <;> decide)
  | [id] =>
      simp only [idWords, List.mem_cons, List.not_mem_nil, or_false] at member
      rcases member with rfl | rfl | rfl
      · exact .inl (by decide)
      · exact .inl (by cases negated <;> decide)
      · exact .inr ⟨id, List.mem_singleton_self id, rfl⟩
  | first :: second :: more =>
      have openings : (if negated then ["NOT", "IN", "("] else ["IN", "("]) ⊆ otherWords := by
        cases negated <;> decide
      simp only [idWords, List.mem_append] at member
      rcases member with (opening | item) | closing
      · rcases List.mem_cons.1 opening with rfl | keyword
        · exact .inl (by decide)
        · exact .inl (openings keyword)
      · rcases mem_intersperse item with rfl | listed
        · exact .inl (by decide)
        · obtain ⟨id, known, same⟩ := List.mem_map.1 listed
          exact .inr ⟨id, known, same.symm⟩
      · obtain rfl := List.mem_singleton.1 closing
        exact .inl (by decide)

/-- The condition has nothing of the texts but numbers in it, and holds of a row exactly if
its uid is one of them, or is none of them. -/
structure ComparesUid (stem : String) (uids : List String) (negated : Bool)
    (condition : Fragment) : Prop where
  bare : condition.params = []
  digits : ∀ word ∈ lexemes condition.sql.toList,
    String.ofList word ∈ otherWords ∨ word ≠ [] ∧ ∀ c ∈ word, c.isDigit
  holds : ∀ (numbers : Numbers) (number : Int64), 0 ≤ number →
    numbers "annotation" "annotation_id" = some number.toInt →
    ∃ met, verdict? numbers condition.sql = some met ∧
      (met ↔ if negated then ∀ uid ∈ uids, ¬Uid.Same uid (stem ++ Number.text number)
        else ∃ uid ∈ uids, Uid.Same uid (stem ++ Number.text number))

theorem params_isOneOf (storage : Storage) (layer : String) (uids : List String)
    (negated : Bool) : (Scene.isOneOf storage layer uids negated).value.params = [] := by
  unfold Scene.isOneOf
  dsimp only
  split <;> simp [Scene.numberList, Piece.params]

theorem isBlank_isOneOf (storage : Storage) (layer : String) (uids : List String)
    (negated : Bool) : (Scene.isOneOf storage layer uids negated).value.isBlank = false := by
  unfold Scene.isOneOf
  dsimp only
  split
  · cases negated <;> decide
  · exact Fragment.isBlank_cons_of_visible (by decide) _
  · exact Fragment.isBlank_cons_of_visible (by decide) _

theorem comparesUid_isOneOf {storage : Storage} {stem : String}
    (prefixed : storage.uidStem = some stem) (layer : String) (uids : List String)
    (negated : Bool) :
    ComparesUid stem uids negated (Scene.isOneOf storage layer uids negated).value where
  bare := params_isOneOf storage layer uids negated
  digits word member := by
    rw [lexemes_isOneOf, List.mem_map] at member
    obtain ⟨text, listed, rfl⟩ := member
    rw [String.ofList_toList]
    refine (mem_idWords listed).imp_right ?_
    rintro ⟨number, known, rfl⟩
    have read := Number.unsigned?_text (Uid.nonneg_iff.1 (nonneg_of_mem_numbersOf known))
    exact Number.isDigit_of_unsigned? read
  holds numbers number nonneg known := by
    have read := readCondition_idWords known negated
      fun id (member : id ∈ Scene.numbersOf storage uids) => nonneg_of_mem_numbersOf member
    have among : number ∈ Scene.numbersOf storage uids ↔ _ := mem_numbersOf_iff_same prefixed
    rw [← lexemes_isOneOf storage layer] at read
    refine ⟨_, read, ?_⟩
    cases negated <;> simp [among]

/-! ### Conditions -/

namespace Scene

variable {scene : Scene}

theorem condition_of_asksId {storage : Storage} {layer : Layer}
    (stored : scene.target.storage? = some storage) (known : scene.target.layer? = some layer)
    {predicate : Expression} {uids : List String} {negated : Bool}
    (asks : predicate.AsksId uids negated) :
    (scene.condition predicate).value.fragment =
        (isOneOf storage layer.id uids negated).value ∧
      (scene.condition predicate).problems =
        (strangers storage uids).map (.invalidId layer.id) := by
  have among (left right : Operand) (op : Comparison) (equation : op.isEquality) (uid : String)
      (settled : attributeAndText? left right = some (.id, uid)) :
      scene.compare left op right = isOneOf storage layer.id [uid] op.isNegated := by
    unfold compare
    simp only [equation, if_true, settled]
    cases target : scene.target with
    | intervals | attributed =>
        rw [target] at stored known
        cases stored
        cases known
        rfl
    | _ =>
        rw [target] at stored
        contradiction
  cases asks with
  | left uid equation =>
      rw [condition, among _ _ _ equation uid rfl]
      exact ⟨rfl, List.append_nil _⟩
  | right uid equation =>
      rw [condition, among _ _ _ equation uid rfl]
      exact ⟨rfl, List.append_nil _⟩
  | among uids =>
      have listed : scene.includes (.list (uids.map .text)) (.own .id) =
          isOneOf storage layer.id uids false := by
        rw [includes, idList?_eq_some.2 ⟨rfl, rfl⟩, stored, Target.layerId?, known]
        rfl
      rw [condition, listed]
      exact ⟨rfl, List.append_nil _⟩

mutual

theorem problems_predicate {predicate : Expression} :
    ∀ expression : Expression, predicate ∈ expression.predicates →
      (scene.condition predicate).problems ⊆ (scene.condition expression).problems
  | .or items, member | .and items, member => by
      simpa [condition] using problems_predicates items member
  | .not inner, member => by
      have inside := problems_predicate inner member
      -- A negated test is compiled in a way of its own, with the same problems.
      cases inner with
      | test pattern operand => simpa [condition, test] using inside
      | _ => simpa [condition] using inside
  | .compare .., member | .test .., member | .includes .., member | .includesAny .., member => by
      obtain rfl := List.mem_singleton.1 member
      exact List.Subset.refl _

theorem problems_predicates {predicate : Expression} :
    ∀ items : List Expression, predicate ∈ Expression.predicatesOf items →
      (scene.condition predicate).problems ⊆ (scene.conditions items).problems
  | [], member => absurd member List.not_mem_nil
  | item :: items, member => by
      simp only [conditions, Noted.problems_bind, Noted.problems_pure, List.append_nil]
      rcases List.mem_append.1 member with first | others
      · exact List.subset_append_of_subset_left _ (problems_predicate item first)
      · exact List.subset_append_of_subset_right _ (problems_predicates items others)

end

end Scene

theorem isBlank_of_part {part whole : Fragment} (inside : part <:+: whole)
    (visible : part.isBlank = false) : whole.isBlank = false := by
  obtain ⟨before, behind, rfl⟩ := inside
  simp [Fragment.isBlank_append, visible]

theorem Target.condition_mem_select {schema : Schema} {target : Target} {options : Options}
    {condition : Noted Fragment} (visible : condition.value.isBlank = false) :
    condition.value ∈ (target.select schema options condition).conditions := by
  rw [select_eq]
  have listed : condition.value ∈ target.own ++ [condition.value] :=
    List.mem_append_right _ (List.mem_singleton_self _)
  exact List.mem_filter.2
    ⟨List.mem_append_left _ (List.mem_append_left _ listed), by simp [visible]⟩

theorem Target.resolve_annotations {schema : Schema} {id : String} {entry : Entry}
    (known : schema.entry? id = some entry) {stem : String}
    (annotated : entry.storage.uidStem = some stem) :
    (resolve schema (.layer id)).problems = [] ∧
      (resolve schema (.layer id)).value.storage? = some entry.storage ∧
      (resolve schema (.layer id)).value.layer? = some entry.layer := by
  obtain ⟨layer, storage⟩ := entry
  rw [resolve, resolveLayer, known]
  cases storage with
  | temporal scope table | attributed owner name => exact ⟨rfl, rfl, rfl⟩
  | entity entity => contradiction

/-- What the id of the subject is compared with settles the condition.  Reported are the texts
that are no uids, or not those of annotations of the layer; without any, the condition has
numbers only, and holds of the row exactly if the uid of the row is one of the texts, or is
none of them. -/
theorem ids_inlined {schema : Schema} {id : String} {entry : Entry}
    (known : schema.entry? id = some entry) {stem : String}
    (annotated : entry.storage.uidStem = some stem) {predicate : Expression}
    {uids : List String} {negated : Bool} (asks : predicate.AsksId uids negated) :
    let foreign := uids.filter fun uid => !(Uid.read? uid).any (·.belongsTo entry.storage)
    (∀ options, reported (select schema (.layer id) options predicate) =
      (foreign.map (Problem.invalidId id)).eraseDups) ∧
    (∀ expression options, predicate ∈ expression.predicates → ∀ uid ∈ foreign,
      .invalidId id uid ∈ reported (select schema (.layer id) options expression)) ∧
    (foreign = [] → ∃ condition : Fragment, ComparesUid stem uids negated condition ∧
      (∀ options, ∃ statement, select schema (.layer id) options predicate = .ok statement ∧
        condition ∈ statement.conditions) ∧
      ∀ expression options statement, predicate ∈ expression.predicates →
        select schema (.layer id) options expression = .ok statement →
        ∃ whole ∈ statement.conditions, condition <:+: whole) := by
  intro foreign
  let scene : Scene := ⟨schema, (Target.resolve schema (.layer id)).value⟩
  obtain ⟨subject, stored, layer⟩ := Target.resolve_annotations known annotated
  obtain ⟨value, problems⟩ := @Scene.condition_of_asksId scene _ _ stored layer _ _ _ asks
  have named : entry.layer.id = id := by
    simpa using List.find?_some known
  rw [named] at value problems
  have met (expression : Expression) (options : Target.Options) :
      reported (select schema (.layer id) options expression) =
        (scene.condition expression).problems.eraseDups := by
    rw [reported_select, problems_examine, subject, List.nil_append]
  have visible := isBlank_isOneOf entry.storage id uids negated
  refine ⟨fun options => ?_, fun expression options member uid listed => ?_, fun none =>
    ⟨_, comparesUid_isOneOf annotated id uids negated, fun options => ?_,
      fun expression options statement member selected => ?_⟩⟩
  · rw [met, problems]
    rfl
  · rw [met, List.mem_eraseDups]
    refine Scene.problems_predicate expression member ?_
    rw [problems]
    exact List.mem_map_of_mem listed
  · have faultless : (examine schema (.layer id) predicate).problems = [] := by
      rw [problems_examine, subject, problems]
      exact List.map_eq_nil_iff.2 none
    refine ⟨_, select_eq_ok.2 ⟨faultless, rfl⟩, ?_⟩
    rw [← value] at visible ⊢
    exact Target.condition_mem_select visible
  · obtain ⟨-, rfl⟩ := select_eq_ok.1 selected
    have inside := @Scene.infix_condition scene _ asks.isWhole expression member
    rw [value] at inside
    exact ⟨_, Target.condition_mem_select (isBlank_of_part inside visible), inside⟩

/-! ### Uids with leading zeros, with a bar in the name, and of other layers -/

namespace Barred

def language : Entry :=
  ⟨{ Layer.ofId "language" with attributeKey := some ⟨.transcript, "a|b"⟩ },
    .attributed .transcript "a|b"⟩

def schema : Schema :=
  .ofEntries [language] {}

end Barred

theorem barred_ids_inlined :
    (∀ uid ∈ ["t|a|7", "t|a|b|-7", "ew_0_7"],
      reported (select Barred.schema (.layer "language") {}
        (.compare (.own .id) .ne (.text uid))) = [.invalidId "language" uid]) ∧
      ∃ condition, ComparesUid "t|a|b|" ["t|a|b|007", "t|a|b|7", "t|a|b|12"] false condition ∧
        ∃ statement, select Barred.schema (.layer "language") {}
            (.includes (.list [.text "t|a|b|007", .text "t|a|b|7", .text "t|a|b|12"]) (.own .id)) =
          .ok statement ∧ condition ∈ statement.conditions := by
  have known : Barred.schema.entry? "language" = some Barred.language := by decide
  have prefixed : (Storage.attributed .transcript "a|b").uidStem = some "t|a|b|" := by decide
  refine ⟨fun uid member => ?_, ?_⟩
  · have asks : Expression.AsksId (.compare (.own .id) .ne (.text uid)) [uid] true :=
      .left uid rfl
    rw [(ids_inlined known prefixed asks).1]
    simp only [List.mem_cons, List.not_mem_nil, or_false] at member
    rcases member with rfl | rfl | rfl <;> decide +kernel
  · obtain ⟨-, -, settled⟩ := ids_inlined known prefixed
      (.among ["t|a|b|007", "t|a|b|7", "t|a|b|12"])
    obtain ⟨condition, compares, alone, -⟩ := settled (by decide +kernel)
    exact ⟨condition, compares, alone {}⟩

end Filter

end CorpusQuery
