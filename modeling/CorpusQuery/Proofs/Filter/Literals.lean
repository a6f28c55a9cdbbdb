import CorpusQuery.Proofs.Filter.UnknownLayers
import CorpusQuery.Proofs.Filter.Variants
import CorpusQuery.Proofs.Text.Characters

namespace CorpusQuery

/-! No literal of an expression has a say in the text of its statement, but for those that
comparisons and lists of ids are settled by.  Of these the text has the numbers that
they are the uids of, and the ids of layers that the schema has. -/

open Sql

theorem Number.allBlank_text (n : Int64) : Text.allBlank (Number.text n) = false := by
  obtain ⟨negative, digits, parts, some, all, -⟩ := Number.text_parts n
  obtain ⟨digit, rest, rfl⟩ := List.exists_cons_of_ne_nil some
  have isDigit : digit.isDigit := all digit (List.mem_cons_self ..)
  rw [Text.allBlank, List.all_eq_false]
  exact ⟨digit, parts ▸ List.mem_append_right _ (List.mem_cons_self ..),
    by simp [Text.isBlank_of_isDigit isDigit]⟩

theorem Sql.allBlank_literal (text : String) : Text.allBlank (literal text) = false := by
  rw [Text.allBlank, literal, String.toList_ofList, List.cons_append, List.all_cons]
  rfl

namespace Expression

mutual

/-- The predicates that an expression is made of, in order. -/
def predicates : Expression → List Expression
  | .or items => predicatesOf items
  | .and items => predicatesOf items
  | .not inner => predicates inner
  | predicate => [predicate]

def predicatesOf : List Expression → List Expression
  | [] => []
  | item :: items => predicates item ++ predicatesOf items

end

end Expression

namespace Filter

/-! ### Texts that predicates are settled by -/

/-- The pieces that texts among `known` put into a statement. -/
inductive SettledPiece (schema : Schema) (known : List String) : Piece → Prop
  | number {text : String} {uid : Uid} (listed : text ∈ known) (reads : Uid.read? text = some uid) :
      SettledPiece schema known (.words (Number.text uid.number))
  | layer {id : String} (listed : id ∈ known) (present : (schema.layer? id).isSome) :
      SettledPiece schema known (.marker id)

theorem SettledPiece.visible {schema : Schema} {known : List String} {piece : Piece}
    (settled : SettledPiece schema known piece) : Text.allBlank piece.sql = false := by
  cases settled with
  | number listed reads => exact Number.allBlank_text _
  | layer listed present => exact allBlank_literal _

/-- Pieces with the same text and as many values, or both put there by texts that
predicates are settled by. -/
def SameUnlessSettled (schema : Schema) (known others : List String) (left right : Piece) : Prop :=
  (left.sql = right.sql ∧ left.params.length = right.params.length) ∨
    (SettledPiece schema known left ∧ SettledPiece schema others right)

theorem sameUnlessSettled_number (schema : Schema) {known others : List String}
    {text other : String} {uid otherUid : Uid} (listed : text ∈ known)
    (reads : Uid.read? text = some uid) (otherListed : other ∈ others)
    (otherReads : Uid.read? other = some otherUid) :
    SameUnlessSettled schema known others (.words (Number.text uid.number))
      (.words (Number.text otherUid.number)) :=
  .inr ⟨.number listed reads, .number otherListed otherReads⟩

theorem likeness_sameUnlessSettled (schema : Schema) (known others : List String) :
    Fragment.Likeness (List.Forall₂ (SameUnlessSettled schema known others)) := by
  refine Fragment.likeness_forall₂ (fun piece => .inl ⟨rfl, rfl⟩) ?_
  rintro left right (same | settled)
  · rw [same.1]
  · rw [settled.1.visible, settled.2.visible]

namespace Scene

theorem isOfLayer_of_present {scene : Scene} {id : String}
    (present : (scene.schema.layer? id).isSome) (negated : Bool) :
    scene.isOfLayer id negated =
      match scene.target.layerId? with
      | none => scene.notApplicable Attribute.layerId.name nothing
      | some subject =>
          pure [.marker subject, .words (if negated then " <> " else " = "), .marker id] := by
  rw [isOfLayer, Option.isNone_eq_false_iff.2 present]
  rfl

theorem present_of_isOfLayer {scene : Scene} {id : String} {negated : Bool}
    (faultless : (scene.isOfLayer id negated).problems = []) :
    (scene.schema.layer? id).isSome := by
  rw [Option.isSome_iff_ne_none]
  intro absent
  rw [isOfLayer, absent] at faultless
  exact List.cons_ne_nil _ _ faultless

/-- Uids that are all of the subject's layer have a number each. -/
theorem length_numbersOf {storage : Storage} {uids : List String}
    (none : strangers storage uids = []) : (numbersOf storage uids).length = uids.length := by
  induction uids with
  | nil => rfl
  | cons text rest ih =>
      cases own : (Uid.read? text).any (·.belongsTo storage) with
      | false => simp [strangers, own] at none
      | true =>
          obtain ⟨uid, reads, belongs⟩ := (Option.any_eq_true _ _).1 own
          have others : strangers storage rest = [] := by simpa [strangers, own] using none
          have numbers : numbersOf storage (text :: rest) =
              uid.number :: numbersOf storage rest := by
            simp [numbersOf, reads, belongs, Option.filter]
          rw [numbers, List.length_cons, List.length_cons, ih others]

theorem strangers_eq_nil {storage : Storage} {layer : String} {uids : List String} {negated : Bool}
    (faultless : (isOneOf storage layer uids negated).problems = []) :
    strangers storage uids = [] :=
  List.map_eq_nil_iff.1 faultless

theorem known_of_isChildOf {scene : Scene} {layer text : String} {negated : Bool}
    (faultless : (scene.isChildOf layer text negated).problems = []) :
    ∃ uid, Uid.read? text = some uid ∧
      scene.isChildOf layer text negated =
        pure [.column "annotation" "parent_id", .words (if negated then " <> " else " = "),
          .words (Number.text uid.number)] := by
  unfold isChildOf at faultless ⊢
  simp only at faultless ⊢
  split at faultless
  · rename_i uid known
    exact ⟨uid, Option.eq_some_of_filter_eq_some known, rfl⟩
  · exact absurd faultless (List.cons_ne_nil _ _)

section

variable {scene : Scene} {known others : List String}

theorem alike_isOneOf {firsts seconds : List String} (storage : Storage) (layer : String)
    (negated : Bool) (lengths : firsts.length = seconds.length) (within : firsts ⊆ known)
    (otherWithin : seconds ⊆ others) :
    Noted.Alike False (List.Forall₂ (SameUnlessSettled scene.schema known others))
      (isOneOf storage layer firsts negated) (isOneOf storage layer seconds negated) where
  problems := False.elim
  found faultless otherFaultless := by
    have like := likeness_sameUnlessSettled scene.schema known others
    have settled : ∀ number ∈ numbersOf storage firsts, ∀ other ∈ numbersOf storage seconds,
        SameUnlessSettled scene.schema known others (.words (Number.text number))
          (.words (Number.text other)) := by
      intro number member other otherMember
      obtain ⟨text, listed, uid, reads, -, rfl⟩ := mem_numbersOf.1 member
      obtain ⟨otherText, otherListed, otherUid, otherReads, -, rfl⟩ :=
        mem_numbersOf.1 otherMember
      exact sameUnlessSettled_number _ (within listed) reads (otherWithin otherListed) otherReads
    have numbers : List.Forall₂
        (fun number other => SameUnlessSettled scene.schema known others
          (.words (Number.text number)) (.words (Number.text other)))
        (numbersOf storage firsts) (numbersOf storage seconds) := by
      refine List.forall₂_iff_zip.2 ⟨?_, fun member => ?_⟩
      · rw [length_numbersOf (strangers_eq_nil faultless),
          length_numbersOf (strangers_eq_nil otherFaultless), lengths]
      · exact settled _ (List.of_mem_zip member).1 _ (List.of_mem_zip member).2
    refine ⟨?_, rfl, rfl⟩
    unfold isOneOf
    simp only
    generalize numbersOf storage firsts = left, numbersOf storage seconds = right at numbers ⊢
    have texts : List.Forall₂ (SameUnlessSettled scene.schema known others)
        (numberList left) (numberList right) :=
      like.join _ (List.rel_map (fun _ _ both => .cons both .nil) numbers)
    cases numbers with
    | nil => exact like.refl _
    | cons first rest =>
        cases rest with
        | nil => exact like.cons _ (like.cons _ (.cons first .nil))
        | cons second more => exact like.append (like.refl _) (like.parenthesized texts)

theorem settling_unlessSettled :
    scene.Settling False (List.Forall₂ (SameUnlessSettled scene.schema known others))
      fun uids found => uids ⊆ known ∧ found ⊆ others where
  ofLayer {first second} negated within := by
    refine ⟨False.elim, fun faultless otherFaultless => ?_⟩
    have present := present_of_isOfLayer faultless
    have otherPresent := present_of_isOfLayer otherFaultless
    rw [isOfLayer_of_present present, isOfLayer_of_present otherPresent]
    cases scene.target.layerId? with
    | none => exact ⟨(likeness_sameUnlessSettled ..).refl _, rfl, rfl⟩
    | some subject =>
        have settled : SameUnlessSettled scene.schema known others (.marker first)
            (.marker second) :=
          .inr ⟨.layer (within.1 (List.mem_singleton_self _)) present,
            .layer (within.2 (List.mem_singleton_self _)) otherPresent⟩
        have like := likeness_sameUnlessSettled scene.schema known others
        exact ⟨like.cons _ (like.cons _ (.cons settled .nil)), rfl, rfl⟩
  oneOf storage layer negated lengths within :=
    alike_isOneOf storage layer negated lengths within.1 within.2
  childOf {first second} layer negated within := by
    refine ⟨False.elim, fun faultless otherFaultless => ?_⟩
    obtain ⟨uid, reads, found⟩ := known_of_isChildOf faultless
    obtain ⟨otherUid, otherReads, otherFound⟩ := known_of_isChildOf otherFaultless
    rw [found, otherFound]
    have settled := sameUnlessSettled_number scene.schema
      (within.1 (List.mem_singleton_self _)) reads (within.2 (List.mem_singleton_self _)) otherReads
    have like := likeness_sameUnlessSettled scene.schema known others
    exact ⟨like.cons _ (like.cons _ (.cons settled .nil)), rfl, rfl⟩

end

/-! ### The text of a settled predicate -/

/-- What the text of a predicate that is settled has besides what settles it. -/
def frame (scene : Scene) : List Piece :=
  [.column "annotation" "annotation_id", .column "annotation" "parent_id", .opening, .closing] ++
    [" = ", " <> ", " IN ", " NOT IN ", ", ", "NULL"].map .words ++
    scene.target.layerId?.toList.map .marker

section

variable {scene : Scene}

/-- What is compared is in the frame, and what it is compared with has settled it. -/
theorem pieces_of_equation {known : List String} {left right : Piece} (negated : Bool)
    (framed : left ∈ scene.frame) (settled : SettledPiece scene.schema known right) :
    ∀ piece ∈ [left, .words (if negated then " <> " else " = "), right],
      piece ∈ scene.frame ∨ SettledPiece scene.schema known piece := by
  intro piece member
  simp only [List.mem_cons, List.not_mem_nil, or_false] at member
  rcases member with rfl | rfl | rfl
  · exact .inl framed
  · exact .inl (by cases negated <;> simp [frame])
  · exact .inr settled

theorem pieces_of_isOneOf {storage : Storage} {layer : String} {uids : List String}
    {negated : Bool} (faultless : (isOneOf storage layer uids negated).problems = [])
    (some : uids ≠ []) :
    ∀ piece ∈ (isOneOf storage layer uids negated).value,
      piece ∈ scene.frame ∨ SettledPiece scene.schema uids piece := by
  have settled : ∀ number ∈ numbersOf storage uids,
      SettledPiece scene.schema uids (.words (Number.text number)) := by
    intro number member
    obtain ⟨text, listed, uid, reads, -, rfl⟩ := mem_numbersOf.1 member
    exact .number listed reads
  have listed : ∀ piece ∈ numberList (numbersOf storage uids),
      piece ∈ scene.frame ∨ SettledPiece scene.schema uids piece := by
    refine (Fragment.additive_forall_mem _).join ?_ (List.forall_mem_map.2 fun number known => ?_)
    · exact List.forall_mem_singleton.2 (.inl (by simp [frame]))
    · exact List.forall_mem_singleton.2 (.inr (settled number known))
  have many : numbersOf storage uids ≠ [] := by
    rw [← List.length_pos_iff, length_numbersOf (strangers_eq_nil faultless)]
    exact List.length_pos_iff.2 some
  unfold isOneOf
  simp only
  -- A single number is compared, and several are listed.
  generalize numbersOf storage uids = numbers at settled listed many ⊢
  intro piece member
  cases numbers with
  | nil => contradiction
  | cons first rest =>
      cases rest with
      | nil =>
          exact pieces_of_equation negated (by simp [frame])
            (settled first (List.mem_cons_self ..)) piece member
      | cons second more =>
          simp only [Fragment.parenthesized, List.cons_append, List.nil_append, List.mem_cons,
            List.mem_append, List.not_mem_nil, or_false] at member
          rcases member with rfl | rfl | rfl | within | rfl
          · exact .inl (by simp [frame])
          · exact .inl (by cases negated <;> simp [frame])
          · exact .inl (by simp [frame])
          · exact listed piece within
          · exact .inl (by simp [frame])

theorem pieces_of_compare {left right : Operand} {op : Comparison}
    (faultless : (scene.compare left op right).problems = [])
    (some : scene.inlined (.compare left op right) ≠ []) :
    ∀ piece ∈ (scene.compare left op right).value,
      piece ∈ scene.frame ∨
        SettledPiece scene.schema (scene.inlined (.compare left op right)) piece := by
  have ways : Comparing scene left op right (scene.compare left op right) := comparing_compare
  generalize scene.compare left op right = result at faultless ways ⊢
  cases ways with
  | @ofLayer id equality settled =>
      have inlined : scene.inlined (.compare left op right) = [id] := by
        simp [Scene.inlined, equality, settled]
      have present := present_of_isOfLayer faultless
      rw [isOfLayer_of_present present, inlined]
      intro piece member
      cases known : scene.target.layerId? with
      | none =>
          rw [known, value_notApplicable] at member
          obtain rfl := List.mem_singleton.1 member
          exact .inl (by simp [frame])
      | some subject =>
          rw [known, Noted.value_pure] at member
          exact pieces_of_equation op.isNegated (by simp [frame, known])
            (.layer (List.mem_singleton_self _) present) piece member
  | @oneOf uid storage layer equality settled stored known =>
      have inlined : scene.inlined (.compare left op right) = [uid] := by
        simp [Scene.inlined, equality, settled, stored]
      rw [inlined]
      exact pieces_of_isOneOf faultless (List.cons_ne_nil _ _)
  | @childOf uid layer scope table equality settled inTime =>
      have inlined : scene.inlined (.compare left op right) = [uid] := by
        simp [Scene.inlined, equality, settled, inTime, Target.isInterval]
      obtain ⟨known, reads, found⟩ := known_of_isChildOf faultless
      rw [found, inlined, Noted.value_pure]
      exact pieces_of_equation op.isNegated (by simp [frame])
        (.number (List.mem_singleton_self _) reads)
  | null equality beside bound => exact absurd bound some
  | plain other bound => exact absurd bound some

theorem pieces_of_includes {list item : Operand}
    (faultless : (scene.includes list item).problems = [])
    (some : scene.inlined (.includes list item) ≠ []) :
    ∀ piece ∈ (scene.includes list item).value,
      piece ∈ scene.frame ∨
        SettledPiece scene.schema (scene.inlined (.includes list item)) piece := by
  have ways : Including scene list item (scene.includes list item) := including_includes
  generalize scene.includes list item = result at faultless ways ⊢
  cases ways with
  | @oneOf uids storage layer settled stored known =>
      have inlined : scene.inlined (.includes list item) = uids := by
        simp [Scene.inlined, settled, stored]
      rw [inlined] at some ⊢
      exact pieces_of_isOneOf faultless some
  | plain bound => exact absurd bound some

/-! ### Predicates and expressions -/

mutual

/-- What is no problem of an expression is none of its predicates. -/
theorem faultless_predicates : ∀ expression : Expression,
    (scene.condition expression).problems = [] →
      ∀ predicate ∈ expression.predicates, (scene.condition predicate).problems = []
  | .or items, faultless => by
      rw [condition, Noted.problems_bind, List.append_eq_nil_iff] at faultless
      exact faultless_predicatesOf items faultless.1
  | .and items, faultless => by
      rw [condition, Noted.problems_bind, List.append_eq_nil_iff] at faultless
      exact faultless_predicatesOf items faultless.1
  | .not inner, faultless => by
      refine faultless_predicates inner ?_
      cases inner with
      | test pattern operand => exact faultless
      | _ =>
          rw [condition, Noted.problems_bind, List.append_eq_nil_iff] at faultless
          · exact faultless.1
          · nofun
  | .compare left op right, faultless => List.forall_mem_singleton.2 faultless
  | .test pattern operand, faultless => List.forall_mem_singleton.2 faultless
  | .includes list item, faultless => List.forall_mem_singleton.2 faultless
  | .includesAny list items, faultless => List.forall_mem_singleton.2 faultless

theorem faultless_predicatesOf : ∀ items : List Expression,
    (scene.conditions items).problems = [] →
      ∀ predicate ∈ Expression.predicatesOf items, (scene.condition predicate).problems = []
  | [], _ => nofun
  | item :: items, faultless => by
      rw [conditions, Noted.problems_bind, Noted.problems_bind, List.append_eq_nil_iff,
        List.append_eq_nil_iff] at faultless
      exact List.forall_mem_append.2 ⟨faultless_predicates item faultless.1,
        faultless_predicatesOf items faultless.2.1⟩

end

end

/-- Predicates that are settled by the same texts come to the same. -/
theorem settling_eq {scene : Scene} {alike : Fragment → Fragment → Prop}
    (like : Fragment.Likeness alike) : scene.Settling True alike Eq where
  ofLayer negated same := by
    cases same
    exact Noted.alike_same _ (like.refl _)
  oneOf storage layer negated lengths same := by
    cases same
    exact Noted.alike_same _ (like.refl _)
  childOf layer negated same := by
    cases same
    exact Noted.alike_same _ (like.refl _)

end Scene

/-! ### Statements -/

section

variable {schema : Schema} {subject : Subject} {options others : Target.Options}
  (same : options.Alike others) {expression other : Expression}

include same

theorem sameOutcome_select (variant : (Scene.about schema subject).Variant Eq expression other) :
    SameOutcome (select schema subject options expression)
      (select schema subject others other) := by
  have like := Fragment.likeness_sameShape
  have bound (first second : Param) :
      Fragment.SameShape [.bound first] [.bound second] := rfl
  have settled : (Scene.about schema subject).Settling True Fragment.SameShape Eq :=
    Scene.settling_eq like
  have examined := alike_examine like bound settled variant
  by_cases faultless : (examine schema subject expression).problems = []
  · have otherFaultless := (examined.problems trivial).1 faultless
    have selected : select schema subject options expression = .ok _ :=
      acceptWithout_eq_ok.2 ⟨faultless, rfl⟩
    have found : select schema subject others other = .ok _ :=
      acceptWithout_eq_ok.2 ⟨otherFaultless, rfl⟩
    have statements := alike_select like bound settled variant same selected found
    rw [selected, found]
    exact .compiled fun gap => statements.render like gap
  · have otherFaulty := mt (examined.problems trivial).2 faultless
    have failed : select schema subject options expression = .error _ :=
      acceptWithout_eq_error faultless
    have otherFailed : select schema subject others other = .error _ :=
      acceptWithout_eq_error otherFaulty
    rw [failed, otherFailed]
    exact .failed _ _

/-- Literals and patterns are bound.  Expressions that differ in nothing else, but not in
the texts that settle predicates, have statements of the same text with as many values,
or none has a statement; whose transcripts are selected from makes no difference to that.
Where the texts that settle predicates differ as well, the statements differ in nothing but
numbers of their uids and quoted ids of layers that the schema has.  These are all that a
settled predicate has besides columns, operators and the id of the subject's layer. -/
theorem literals_bound :
    (∀ {expression other : Expression}, (Scene.about schema subject).Variant Eq expression other →
      SameOutcome (select schema subject options expression)
        (select schema subject others other)) ∧
    (∀ {expression other : Expression} {known instead : List String},
      (Scene.about schema subject).Variant (fun uids found => uids ⊆ known ∧ found ⊆ instead)
        expression other →
      ∀ {statement another : Select}, select schema subject options expression = .ok statement →
        select schema subject others other = .ok another →
        ∀ gap, List.Forall₂ (SameUnlessSettled schema known instead) (statement.render gap)
          (another.render gap)) ∧
    ∀ {expression : Expression} {statement : Select},
      select schema subject options expression = .ok statement →
      ∀ predicate ∈ expression.predicates,
        (Scene.about schema subject).inlined predicate ≠ [] →
        ∀ piece ∈ ((Scene.about schema subject).condition predicate).value.fragment,
          piece ∈ (Scene.about schema subject).frame ∨
            SettledPiece schema ((Scene.about schema subject).inlined predicate) piece := by
  refine ⟨fun variant => sameOutcome_select same variant, ?_, ?_⟩
  · intro expression other known instead variant statement another selected found gap
    have like := likeness_sameUnlessSettled schema known instead
    have bound (first second : Param) : List.Forall₂ (SameUnlessSettled schema known instead)
        [.bound first] [.bound second] := .cons (.inl ⟨rfl, rfl⟩) .nil
    exact (alike_select like bound Scene.settling_unlessSettled variant same selected
      found).render like gap
  · intro expression statement selected predicate member settled
    have faultless : (examine schema subject expression).problems = [] :=
      (acceptWithout_eq_ok.1 selected).1
    rw [problems_examine, List.append_eq_nil_iff] at faultless
    have own := Scene.faultless_predicates expression faultless.2 predicate member
    cases predicate with
    | compare left op right =>
        rw [Scene.condition, Noted.problems_bind, List.append_eq_nil_iff] at own
        exact Scene.pieces_of_compare own.1 settled
    | includes list item =>
        rw [Scene.condition, Noted.problems_bind, List.append_eq_nil_iff] at own
        exact Scene.pieces_of_includes own.1 settled
    | _ => exact absurd rfl settled

end

/-! ### A literal that is bound beside one that settles its predicate -/

namespace Quoting

def schema : Schema :=
  .ofEntries [⟨{ Layer.ofId "o'clock" with tableId := some 3 }, .temporal .span 3⟩] {}

/-- The first literal is an id, the second is bound. -/
def expression (uid label pattern : String) : Expression :=
  .and
    [.compare (.own .id) .eq (.text uid), .compare (.own .layerId) .ne (.text "o'clock"),
      .or [.compare (.text label) .eq (.own .label), .not (.test pattern (.own .label))]]

def options (user : String) : Target.Options :=
  { access := some (.user user) }

theorem variant {kept : List String → List String → Prop}
    (uid label pattern other labelled instead : String) (ids : kept [uid] [other])
    (layers : kept ["o'clock"] ["o'clock"]) (bound : kept [] []) :
    (Scene.about schema (.layer "o'clock")).Variant kept (expression uid label pattern)
      (expression other labelled instead) := by
  refine .and (.cons ?_ (.cons ?_ (.cons (.or (.cons ?_ (.cons (.not ?_) .nil))) .nil)))
  · exact .compare .eq (.same _) (.text uid other) ids
  · exact .compare .ne (.same _) (.same _) layers
  · exact .compare .eq (.text label labelled) (.same _) bound
  · exact .test pattern instead (.same _)

end Quoting

theorem quoting_bound :
    ∃ statement another third,
      select Quoting.schema (.layer "o'clock") (Quoting.options "ann")
          (Quoting.expression "e_3_17" "?" "') OR (1=1") = .ok statement ∧
        select Quoting.schema (.layer "o'clock") (Quoting.options "bob")
          (Quoting.expression "e_3_17" "' OR '1'='1" "x") = .ok another ∧
        select Quoting.schema (.layer "o'clock") (Quoting.options "bob")
          (Quoting.expression "e_3_4" "' OR '1'='1" "x") = .ok third ∧
        (statement.render "\n").SameShape (another.render "\n") ∧
        List.Forall₂ (SameUnlessSettled Quoting.schema ["e_3_17", "o'clock"] ["e_3_4", "o'clock"])
          (statement.render "\n") (third.render "\n") ∧
        ∀ piece ∈ ((Scene.about Quoting.schema (.layer "o'clock")).condition
            (.compare (.own .id) .eq (.text "e_3_17"))).value.fragment,
          piece ∈ (Scene.about Quoting.schema (.layer "o'clock")).frame ∨
            SettledPiece Quoting.schema ["e_3_17"] piece := by
  have same : (Quoting.options "ann").Alike (Quoting.options "bob") :=
    ⟨rfl, .some (.user _ _), rfl, rfl, rfl⟩
  obtain ⟨outcomes, statements, pieces⟩ := literals_bound same
  have compiles (user uid label pattern : String)
      (faultless : (examine Quoting.schema (.layer "o'clock")
        (Quoting.expression uid label pattern)).problems = []) :
      ∃ statement, select Quoting.schema (.layer "o'clock") (Quoting.options user)
        (Quoting.expression uid label pattern) = .ok statement :=
    ⟨_, acceptWithout_eq_ok.2 ⟨faultless, rfl⟩⟩
  obtain ⟨statement, selected⟩ := compiles "ann" "e_3_17" "?" "') OR (1=1" (by decide +kernel)
  obtain ⟨another, found⟩ := compiles "bob" "e_3_17" "' OR '1'='1" "x" (by decide +kernel)
  obtain ⟨third, other⟩ := compiles "bob" "e_3_4" "' OR '1'='1" "x" (by decide +kernel)
  have outcome := outcomes
    (Quoting.variant "e_3_17" "?" "') OR (1=1" "e_3_17" "' OR '1'='1" "x" rfl rfl rfl)
  rw [selected, found] at outcome
  cases outcome with
  | compiled shapes =>
      refine ⟨statement, another, third, selected, found, other, shapes "\n", ?_, ?_⟩
      · exact statements (Quoting.variant _ _ _ _ _ _ (by simp) (by simp) (by simp)) selected other
          "\n"
      · exact pieces selected _ (List.mem_cons_self ..) (List.cons_ne_nil _ _)

end Filter

end CorpusQuery
