import Mathlib.Data.List.Forall2

namespace CorpusQuery.Sql

/-! Conditions read with the precedence of SQL: `NOT` binds more tightly than `AND`,
`AND` more tightly than `OR`, and parentheses group.

Stretches of a text may be taken as atoms, whose truth is given.  A reader goes
through the rest from left to right and keeps what it has read of the group that it is
in, and of the groups around that one. -/

/-! ### Truth values -/

inductive Truth where
  | no
  | unknown
  | yes
deriving DecidableEq, Repr

namespace Truth

def not : Truth → Truth
  | no => yes
  | unknown => unknown
  | yes => no

def and : Truth → Truth → Truth
  | no, _ => no
  | unknown, no => no
  | unknown, _ => unknown
  | yes, right => right

def or : Truth → Truth → Truth
  | yes, _ => yes
  | unknown, yes => yes
  | unknown, _ => unknown
  | no, right => right

def all (parts : List Truth) : Truth :=
  parts.foldr and yes

def any (parts : List Truth) : Truth :=
  parts.foldr or no

@[simp] theorem yes_and (value : Truth) : yes.and value = value := rfl

@[simp] theorem and_yes (value : Truth) : value.and yes = value := by
  cases value <;> rfl

theorem and_assoc (first second third : Truth) :
    (first.and second).and third = first.and (second.and third) := by
  cases first <;> cases second <;> cases third <;> rfl

@[simp] theorem or_no (value : Truth) : value.or no = value := by
  cases value <;> rfl

theorem or_assoc (first second third : Truth) :
    (first.or second).or third = first.or (second.or third) := by
  cases first <;> cases second <;> cases third <;> rfl

end Truth

/-! ### Texts with atoms -/

/-- A character of a text, or a stretch of it that is taken as a whole. -/
inductive Symbol (α : Type) where
  | char (c : Char)
  | atom (name : α)
deriving DecidableEq

namespace Symbol

variable {α : Type}

def chars (text : List Char) : List (Symbol α) :=
  text.map char

/-- The text that symbols stand for, where each atom has a text of its own. -/
def spelled (text : α → List Char) : List (Symbol α) → List Char
  | [] => []
  | char c :: rest => c :: spelled text rest
  | atom name :: rest => text name ++ spelled text rest

@[simp] theorem spelled_append (text : α → List Char) (left right : List (Symbol α)) :
    spelled text (left ++ right) = spelled text left ++ spelled text right := by
  induction left with
  | nil => rfl
  | cons symbol rest ih => cases symbol <;> simp [spelled, ih]

@[simp] theorem spelled_chars (text : α → List Char) (letters : List Char) :
    spelled text (chars letters) = letters := by
  induction letters with
  | nil => rfl
  | cons c rest ih => simpa [chars, spelled] using ih

theorem spelled_enclosed (text : α → List Char) (inner : List (Symbol α)) :
    spelled text (char '(' :: inner ++ [char ')']) = '(' :: spelled text inner ++ [')'] := by
  simp [spelled]

/-- Texts with another text between each two of them. -/
def between (separator : List Char) : List (List (Symbol α)) → List (Symbol α)
  | [] => []
  | [last] => last
  | first :: rest => first ++ chars separator ++ between separator rest

theorem mem_of_atom_mem_between {separator : List Char} {texts : List (List (Symbol α))} {name : α}
    (member : atom name ∈ between separator texts) : ∃ text ∈ texts, atom name ∈ text := by
  fun_induction between separator texts with
  | case1 => contradiction
  | case2 last => exact ⟨last, by simp, member⟩
  | case3 first rest _ ih =>
      rw [List.mem_append, List.mem_append] at member
      rcases member with (here | letters) | behind
      · exact ⟨first, by simp, here⟩
      · simp [chars] at letters
      · obtain ⟨text, within, found⟩ := ih behind
        exact ⟨text, by simp [within], found⟩

/-- The stretches between spaces and parentheses, and the parentheses. -/
def parts : List (Symbol α) → List (List (Symbol α))
  | [] => [[]]
  | char ' ' :: rest => [] :: parts rest
  | char '(' :: rest => [] :: [char '('] :: parts rest
  | char ')' :: rest => [] :: [char ')'] :: parts rest
  | symbol :: rest => (parts rest).modifyHead (symbol :: ·)

end Symbol

/-! ### Reading -/

inductive Word (α : Type) where
  | opening
  | closing
  | not
  | and
  | or
  | atom (name : α)

/-- What a stretch is, if it is anything.  An atom has to stand by itself. -/
def Word.of? {α : Type} : List (Symbol α) → Option (Word α)
  | [.char '('] => some .opening
  | [.char ')'] => some .closing
  | [.char 'N', .char 'O', .char 'T'] => some .not
  | [.char 'A', .char 'N', .char 'D'] => some .and
  | [.char 'O', .char 'R'] => some .or
  | [.atom name] => some (.atom name)
  | _ => none

/-- What has been read of a group: the alternatives before the last one, the factors of
the last one, and whether the factor that is due is negated. -/
structure Group where
  alternatives : Truth
  factors : Truth
  negated : Bool

namespace Group

def empty : Group :=
  ⟨.no, .yes, false⟩

def value (group : Group) : Truth :=
  group.alternatives.or group.factors

def add (group : Group) (operand : Truth) : Group :=
  ⟨group.alternatives, group.factors.and (if group.negated then operand.not else operand), false⟩

end Group

/-- A reader within some groups, for whom an operand is due or a connective. -/
structure Reader where
  group : Group
  around : List Group
  due : Bool

namespace Reader

variable {α : Type} (truth : α → Truth)

def add (reader : Reader) (operand : Truth) : Reader :=
  { reader with group := reader.group.add operand, due := false }

def step (reader : Reader) (word : Word α) : Option Reader :=
  if reader.due then
    match word with
    | .atom name => some (reader.add (truth name))
    | .not => some { reader with group.negated := !reader.group.negated }
    | .opening => some ⟨.empty, reader.group :: reader.around, true⟩
    | _ => none
  else
    match word, reader.around with
    | .and, _ => some { reader with due := true }
    | .or, _ => some { reader with group := ⟨reader.group.value, .yes, false⟩, due := true }
    | .closing, outer :: around => some (add ⟨outer, around, true⟩ reader.group.value)
    | _, _ => none

def through (reader : Reader) : List (List (Symbol α)) → Option Reader
  | [] => some reader
  | [] :: rest => reader.through rest
  | part :: rest => do (← reader.step truth (← Word.of? part)).through rest

def after (reader : Reader) (text : List (Symbol α)) : Option Reader :=
  reader.through truth (Symbol.parts text)

end Reader

/-- The truth of a condition, if it can be read, by the truth of its atoms. -/
def evaluate {α : Type} (truth : α → Truth) (text : List (Symbol α)) : Option Truth :=
  match Reader.after truth ⟨.empty, [], true⟩ text with
  | some ⟨group, [], false⟩ => some group.value
  | _ => none

example : evaluate (fun yes : Bool => if yes then .yes else .unknown)
    (.atom true :: Symbol.chars " OR NOT ".toList ++ .atom true :: Symbol.chars " AND ".toList ++
      [.atom false]) = some .yes := by
  decide

/-! ### Stretches of a text -/

namespace Symbol

variable {α : Type}

theorem parts_ne_nil (text : List (Symbol α)) : parts text ≠ [] := by
  fun_induction parts text with
  | case5 symbol rest _ _ _ ih => simpa [List.modifyHead_eq_nil_iff] using ih
  | _ => simp

/-- A space or a parenthesis ends the stretch before it. -/
theorem parts_append_cons {symbol : Symbol α} (own : List (List (Symbol α)))
    (ends : ∀ text, parts (symbol :: text) = [] :: own ++ parts text)
    (left right : List (Symbol α)) :
    parts (left ++ symbol :: right) = parts left ++ own ++ parts right := by
  fun_induction parts left with
  | case1 => exact ends right
  | case2 rest ih => rw [List.cons_append, parts, ih]; rfl
  | case3 rest ih => rw [List.cons_append, parts, ih]; rfl
  | case4 rest ih => rw [List.cons_append, parts, ih]; rfl
  | case5 first rest notSpace notOpening notClosing ih =>
      rw [List.cons_append, parts.eq_5 _ _ notSpace notOpening notClosing, ih]
      cases found : parts rest with
      | nil => exact absurd found (parts_ne_nil rest)
      | cons part others => rfl

end Symbol

namespace Reader

variable {α : Type} {truth : α → Truth}

theorem through_append (reader : Reader) (left right : List (List (Symbol α))) :
    reader.through truth (left ++ right) =
      (reader.through truth left).bind (·.through truth right) := by
  induction left generalizing reader with
  | nil => rfl
  | cons part rest ih =>
      cases part with
      | nil => exact ih reader
      | cons symbol symbols =>
          simp only [List.cons_append, through, bind, Option.bind_assoc]
          exact Option.bind_congr fun word _ => Option.bind_congr fun next _ => ih next

theorem after_space (reader : Reader) (left right : List (Symbol α)) :
    reader.after truth (left ++ .char ' ' :: right) =
      (reader.after truth left).bind (·.after truth right) := by
  rw [after, Symbol.parts_append_cons [] (fun _ => rfl), List.append_nil, through_append]
  rfl

theorem after_opening (reader : Reader) (left right : List (Symbol α)) :
    reader.after truth (left ++ .char '(' :: right) =
      (reader.after truth left).bind fun next =>
        (next.step truth .opening).bind (·.after truth right) := by
  rw [after, Symbol.parts_append_cons [[.char '(']] (fun _ => rfl), List.append_assoc,
    through_append]
  rfl

theorem after_closing (reader : Reader) (left right : List (Symbol α)) :
    reader.after truth (left ++ .char ')' :: right) =
      (reader.after truth left).bind fun next =>
        (next.step truth .closing).bind (·.after truth right) := by
  rw [after, Symbol.parts_append_cons [[.char ')']] (fun _ => rfl), List.append_assoc,
    through_append]
  rfl

@[simp] theorem after_nil (reader : Reader) : reader.after truth [] = some reader := rfl

/-- A text that is one stretch is one word. -/
theorem after_word {letters : List (Symbol α)} (word : Word α)
    (whole : Symbol.parts letters = [letters]) (isWord : Word.of? letters = some word)
    (reader : Reader) : reader.after truth letters = reader.step truth word := by
  rw [after, whole]
  cases letters with
  | nil => contradiction
  | cons symbol symbols => simp [through, isWord]

/-- A connective stands between spaces. -/
theorem after_connective {letters : List Char} (word : Word α)
    (whole : Symbol.parts (Symbol.chars letters) = [Symbol.chars (α := α) letters])
    (isWord : Word.of? (Symbol.chars letters) = some word) (reader : Reader)
    (left right : List (Symbol α)) :
    reader.after truth (left ++ Symbol.chars (' ' :: letters ++ [' ']) ++ right) =
      (reader.after truth left).bind fun next =>
        (next.step truth word).bind (·.after truth right) := by
  have same : left ++ Symbol.chars (' ' :: letters ++ [' ']) ++ right =
      left ++ .char ' ' :: (Symbol.chars letters ++ .char ' ' :: right) := by
    simp [Symbol.chars]
  rw [same, after_space]
  refine Option.bind_congr fun next _ => ?_
  rw [after_space, after_word word whole isWord]

end Reader

/-! ### Texts of conditions -/

section

variable {α : Type} {truth : α → Truth}

/-- Wherever an operand is due, the text is one that has this truth. -/
def Reads (truth : α → Truth) (text : List (Symbol α)) (value : Truth) : Prop :=
  ∀ reader : Reader, reader.due → reader.group.negated = false →
    reader.after truth text = some (reader.add value)

/-- The text is a whole group that has this truth. -/
def Fills (truth : α → Truth) (text : List (Symbol α)) (value : Truth) : Prop :=
  ∀ around, ∃ group : Group, group.value = value ∧
    Reader.after truth ⟨.empty, around, true⟩ text = some ⟨group, around, false⟩

theorem Fills.evaluate {text : List (Symbol α)} {value : Truth} (fills : Fills truth text value) :
    evaluate truth text = some value := by
  obtain ⟨group, same, read⟩ := fills []
  rw [Sql.evaluate, read, ← same]

theorem Reads.fills {text : List (Symbol α)} {value : Truth} (reads : Reads truth text value) :
    Fills truth text value :=
  fun _ => ⟨Group.empty.add value, rfl, reads _ rfl rfl⟩

theorem reads_atom (name : α) : Reads truth [.atom name] (truth name) := by
  intro reader due _
  simp [Reader.after, Symbol.parts, Reader.through, Word.of?, Reader.step, due]

/-- A group is an operand, and may be negated. -/
theorem Fills.enclosed {text : List (Symbol α)} {value : Truth} (fills : Fills truth text value)
    {reader : Reader} (due : reader.due) :
    reader.after truth (.char '(' :: text ++ [.char ')']) = some (reader.add value) := by
  obtain ⟨group, rfl, read⟩ := fills (reader.group :: reader.around)
  have inner : reader.after truth (.char '(' :: text) =
      some ⟨group, reader.group :: reader.around, false⟩ := by
    rw [← List.nil_append (.char '(' :: text), Reader.after_opening]
    simpa [Reader.step, due] using read
  rw [Reader.after_closing, inner]
  rfl

theorem Fills.reads {text : List (Symbol α)} {value : Truth} (fills : Fills truth text value) :
    Reads truth (.char '(' :: text ++ [.char ')']) value :=
  fun _ due _ => fills.enclosed due

theorem Fills.not {text : List (Symbol α)} {value : Truth} (fills : Fills truth text value) :
    Reads truth (Symbol.chars ['N', 'O', 'T', ' '] ++ (.char '(' :: text ++ [.char ')']))
      value.not := by
  intro reader due plain
  have negated : reader.step truth .not =
      some ⟨{ reader.group with negated := true }, reader.around, true⟩ := by
    simp [Reader.step, due, plain]
  change reader.after truth (Symbol.chars ['N', 'O', 'T'] ++
    .char ' ' :: (.char '(' :: text ++ [.char ')'])) = _
  rw [Reader.after_space, Reader.after_word .not rfl rfl, negated, Option.bind_some,
    fills.enclosed rfl]
  simp [Reader.add, Group.add, plain]

theorem reads_conjunction {texts : List (List (Symbol α))} {values : List Truth}
    (all : List.Forall₂ (Reads truth) texts values) (nonempty : texts ≠ []) :
    Reads truth (Symbol.between [' ', 'A', 'N', 'D', ' '] texts) (Truth.all values) := by
  induction all with
  | nil => contradiction
  | @cons text value texts values first rest ih =>
      cases rest with
      | nil => simpa [Symbol.between, Truth.all] using first
      | cons second others =>
          intro reader due plain
          change reader.after truth (text ++ Symbol.chars (' ' :: ['A', 'N', 'D'] ++ [' ']) ++ _) = _
          rw [Reader.after_connective .and rfl rfl, first reader due plain,
            Option.bind_some]
          change Reader.after truth ⟨reader.group.add value, reader.around, true⟩ _ = _
          rw [ih (List.cons_ne_nil _ _) _ rfl rfl]
          simp [Reader.add, Group.add, plain, Truth.all, Truth.and_assoc]

theorem fills_disjunction {texts : List (List (Symbol α))} {values : List Truth}
    (all : List.Forall₂ (Reads truth) texts values) (nonempty : texts ≠ []) :
    Fills truth (Symbol.between [' ', 'O', 'R', ' '] texts) (Truth.any values) := by
  intro around
  -- each alternative is read after others, so these are part of the induction
  suffices behind : ∀ before : Truth, ∃ group : Group,
      group.value = before.or (Truth.any values) ∧
        Reader.after truth ⟨⟨before, .yes, false⟩, around, true⟩
          (Symbol.between [' ', 'O', 'R', ' '] texts) = some ⟨group, around, false⟩ by
    exact behind .no
  induction all with
  | nil => contradiction
  | @cons text value texts values first rest ih =>
      intro before
      cases rest with
      | nil => exact ⟨_, by simp [Group.value, Group.add, Truth.any], first _ rfl rfl⟩
      | cons second others =>
          obtain ⟨group, same, read⟩ := ih (List.cons_ne_nil _ _) (before.or value)
          refine ⟨group, by rw [same, Truth.or_assoc]; rfl, ?_⟩
          change Reader.after truth _ (text ++ Symbol.chars (' ' :: ['O', 'R'] ++ [' ']) ++ _) = _
          rw [Reader.after_connective .or rfl rfl, first _ rfl rfl, Option.bind_some]
          exact read

end

end CorpusQuery.Sql
