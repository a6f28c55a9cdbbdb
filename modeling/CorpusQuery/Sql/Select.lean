import CorpusQuery.Sql.Fragment

namespace CorpusQuery.Sql

/-! `SELECT` statements, kept as their clauses until they are written. -/

inductive JoinKind where
  | inner
  | left
deriving DecidableEq, Repr

/-- A row source that is joined to those before it.  Its name may be empty, and it
is not written when it is the source's own text. -/
structure Join where
  kind : JoinKind
  source : Fragment
  row : String
  on : List Fragment

namespace Join

def keyword : JoinKind → String
  | .inner => "INNER JOIN "
  | .left => "LEFT OUTER JOIN "

/-- Adds a condition; one that is blank adds nothing. -/
def adding (join : Join) (condition : Fragment) : Join :=
  if condition.isBlank then join else { join with on := join.on ++ [condition] }

def inner (source : Fragment) (row : String) (on : List Fragment) : Join :=
  on.foldl adding ⟨.inner, source, row, []⟩

def left (source : Fragment) (row : String) (on : List Fragment) : Join :=
  on.foldl adding ⟨.left, source, row, []⟩

def render (join : Join) : Fragment :=
  let head :=
    if join.row = "" then .words (keyword join.kind) :: join.source
    else if join.row = join.source.sql then [.words (keyword join.kind), .named join.row]
    else .words (keyword join.kind) :: join.source ++ [.words " ", .named join.row]
  if join.on = [] then head else head ++ .words " ON " :: Fragment.conjunction join.on

end Join

/-- The clauses of one `SELECT`, which may insert its rows into a table. -/
structure Select where
  into : Option Fragment := none
  distinct : Bool := false
  columns : List Fragment := []
  source : Fragment := []
  joins : List Join := []
  conditions : List Fragment := []
  order : List Fragment := []
  limit : Option Fragment := none

namespace Select

def ofSource (source : Fragment) : Select :=
  { source }

def column (select : Select) (column : Fragment) : Select :=
  { select with columns := select.columns ++ [column] }

def join (select : Select) (join : Join) : Select :=
  { select with joins := select.joins ++ [join] }

/-- Adds a conjunct to the conditions; one that is blank adds nothing. -/
def restrict (select : Select) (condition : Fragment) : Select :=
  if condition.isBlank then select
  else { select with conditions := select.conditions ++ [condition] }

def orderBy (select : Select) (term : Fragment) : Select :=
  { select with order := select.order ++ [term] }

/-- Whether a joined source has this name. -/
def hasJoin (select : Select) (row : String) : Bool :=
  select.joins.any (·.row == row)

def selectClause (select : Select) : Fragment :=
  .words (if select.distinct then "SELECT DISTINCT " else "SELECT ") ::
    Fragment.commaList select.columns

def whereClause (gap : String) (select : Select) : Fragment :=
  if select.conditions = [] then []
  else
    .words (gap ++ "WHERE ") :: Fragment.join [.words gap, .and] select.conditions

def orderClause (gap : String) (select : Select) : Fragment :=
  if select.order = [] then []
  else .words (gap ++ "ORDER BY ") :: Fragment.commaList select.order

/-- The clauses in their fixed order, with `gap` between them. -/
def render (gap : String) (select : Select) : Fragment :=
  (match select.into with
    | some table => .words "INSERT INTO " :: table ++ [.words gap]
    | none => []) ++
  select.selectClause ++
  .words (gap ++ "FROM ") :: select.source ++
  select.joins.flatMap (fun join => .words gap :: join.render) ++
  select.whereClause gap ++
  select.orderClause gap ++
  (match select.limit with
    | some count => .words (gap ++ "LIMIT ") :: count
    | none => [])

/-- One clause a line. -/
def statement (select : Select) : Fragment :=
  select.render "\n"

/-- All clauses in one line, to stand inside another statement. -/
def subquery (select : Select) : Fragment :=
  select.render " "

end Select

end CorpusQuery.Sql
