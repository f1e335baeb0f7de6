import SqlStore.Dict
import SqlStore.Text.Quoted
import SqlStore.Text.Uppercase
import SqlStore.Value.Basic

namespace SqlStore.Sql

structure ColumnRef where
  table? : Option String
  name : String
deriving Repr, DecidableEq, Inhabited

inductive Literal where
  | null
  | bool (b : Bool)
  | int (i : Int64)
  | float (x : Float)
  | text (s : String)
deriving DecidableEq, Inhabited

inductive Aggregate where
  | sum
  | count
deriving Repr, DecidableEq, Inhabited

inductive BinaryOp where
  | equal
  | notEqual
  | less
  | lessOrEqual
  | greater
  | greaterOrEqual
  | and
  | or
  | is
  | isNot
  | like
  | notLike
deriving Repr, DecidableEq, Inhabited

inductive Expr where
  | column (c : ColumnRef)
  | literal (l : Literal)
  | call (f : Aggregate) (arg : Option ColumnRef)
  | binary (op : BinaryOp) (left right : Expr)
deriving DecidableEq, Inhabited

def ColumnRef.text (c : ColumnRef) : String :=
  match c.table? with
  | some t => t ++ "." ++ c.name
  | none => c.name

def Literal.value : Literal → Value
  | .null => .null
  | .bool b => .bool b
  | .int i => .int i
  | .float x => .float x
  | .text s => .text s

def Aggregate.text : Aggregate → String
  | .sum => "SUM"
  | .count => "COUNT"

def Aggregate.ofName? (name : String) : Option Aggregate :=
  let w := Text.upper name
  [Aggregate.sum, .count].find? fun f => f.text == w

/-! ## The detailed form

Messages about an expression show its whole structure. -/

def detailLayout : Decimal.Layout where
  positional := some (-4, 15)
  pointZero := true
  plusSign := false
  tie := .up

def ColumnRef.detail (c : ColumnRef) : String :=
  let table := match c.table? with
    | some t => "Some(" ++ Text.quoted t ++ ")"
    | none => "None"
  "ColumnRef \x7b table: " ++ table ++ ", name: " ++ Text.quoted c.name ++ " \x7d"

def Literal.detail : Literal → String
  | .null => "Null"
  | .bool b => "Boolean(" ++ (if b then "true" else "false") ++ ")"
  | .int i => "Integer(" ++ Decimal.intText i.toInt ++ ")"
  | .float x => "Float(" ++ detailLayout.text x ++ ")"
  | .text s => "String(" ++ Text.quoted s ++ ")"

def Aggregate.detail : Aggregate → String
  | .sum => "Sum"
  | .count => "Count"

def BinaryOp.detail : BinaryOp → String
  | .equal => "Equal"
  | .notEqual => "NotEqual"
  | .less => "LessThan"
  | .lessOrEqual => "LessThanOrEqual"
  | .greater => "GreaterThan"
  | .greaterOrEqual => "GreaterThanOrEqual"
  | .and => "And"
  | .or => "Or"
  | .is => "Is"
  | .isNot => "IsNot"
  | .like => "Like"
  | .notLike => "NotLike"

def Expr.detail : Expr → String
  | .column c => "Field(" ++ c.detail ++ ")"
  | .literal l => "Consts(" ++ l.detail ++ ")"
  | .call f arg =>
    let arg := match arg with
      | some c => "Some(" ++ c.detail ++ ")"
      | none => "None"
    "Function(" ++ f.detail ++ ", " ++ arg ++ ")"
  | .binary op l r => "Operation(" ++ op.detail ++ "(" ++ l.detail ++ ", " ++ r.detail ++ "))"

/-! ## Statements -/

structure ColumnDecl where
  name : String
  typeName : String
  args : List UInt64
deriving Repr, DecidableEq

/-- A kind of join, named for the side whose unmatched rows it keeps. -/
inductive JoinKind where
  | inner
  | left
  | right
  | full
deriving Repr, DecidableEq, Inhabited

structure Join where
  kind : JoinKind
  on? : Option Expr
deriving DecidableEq

structure FromItem where
  name : String
  alias? : Option String
  join? : Option Join
deriving DecidableEq

inductive Direction where
  | asc
  | desc
deriving Repr, DecidableEq, Inhabited

abbrev SelectItem : Type := Expr × Option String

/-- A select list without items is `*`, and `LIMIT` has its offset before its count. -/
structure Select where
  items : List SelectItem
  tables : List FromItem
  where? : Option Expr
  groupBy : List ColumnRef
  orderBy : List (Expr × Direction)
  limit? : Option (List Expr)
deriving DecidableEq

inductive Statement where
  | createTable (name : String) (columns : List ColumnDecl)
  | dropTable (name : String) (ifExists : Bool)
  | insert (table : String) (columns? : Option (List String)) (rows : List (List Expr))
  | select (s : Select)
  | update (table : String) (assignments : Dict Expr) (where? : Option Expr)
  | delete (tables : List FromItem) (where? : Option Expr)
deriving DecidableEq

end SqlStore.Sql
