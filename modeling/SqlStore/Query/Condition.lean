import SqlStore.Config
import SqlStore.Schema.Table
import SqlStore.Sql.Syntax
import SqlStore.Text.Regex

namespace SqlStore.Query

open Sql (ColumnRef)
open Text (Regex)

/-! ## Scopes -/

structure Scope where
  columns : List String
  qualified : Bool
deriving Repr, DecidableEq

def Scope.single : Scope := ⟨[], false⟩

/-- The name under which rows hold the value of a reference. Without a table, a reference among
qualified names is to the first column of its name. -/
def Scope.key? (s : Scope) (c : ColumnRef) : Option String :=
  if s.qualified then
    match c.table? with
    | some t => some (qualify (some t) c.name)
    | none => s.columns.find? fun k => Text.afterLast? '.' k.toList == some c.name.toList
  else some c.name

def Scope.resolve (s : Scope) (c : ColumnRef) (r : Record) : Value :=
  ((s.key? c).bind r.get?).getD .null

/-! ## LIKE patterns -/

/-- The regular expression for a pattern, after the characters in `held`, which stand for
themselves. They are escaped together at the next wildcard. -/
def translate (held : List Char) : List Char → List Char
  | [] => Regex.escape held
  | '\\' :: '%' :: cs => translate (held ++ ['%']) cs
  | '\\' :: '_' :: cs => translate (held ++ ['_']) cs
  | '\\' :: c :: cs => translate (held ++ ['\\', c]) cs
  | '%' :: cs => Regex.escape held ++ '.' :: '*' :: translate [] cs
  | '_' :: cs => Regex.escape held ++ '.' :: translate [] cs
  | c :: cs => translate (held ++ [c]) cs

def likeText (pattern : String) : List Char :=
  '(' :: '?' :: 's' :: ')' :: '^' :: translate [] pattern.toList ++ ['$']

def like (pattern text : String) : Bool :=
  match Regex.read? (likeText pattern) with
  | some r => r.isMatch text.toList
  | none => false

end SqlStore.Query

/-! ## Conditions -/

namespace SqlStore

def Value.like (v pattern : Value) : Bool :=
  !v.isNull && !pattern.isNull && Query.like pattern.toText v.toText

namespace Sql

open Query (Scope)

def BinaryOp.holds (m : OrMode) (op : BinaryOp) (a b : Value) : Bool :=
  match op with
  | .equal => a.compare? b == some .eq
  | .notEqual => a.compare? b != some .eq
  | .less => a.compare? b == some .lt
  | .lessOrEqual => a.compare? b == some .lt || a.compare? b == some .eq
  | .greater => a.compare? b == some .gt
  | .greaterOrEqual => a.compare? b == some .gt || a.compare? b == some .eq
  | .and => a.truthy && b.truthy
  | .or => match m with
    | .standard => a.truthy || b.truthy
    | .legacy => a.truthy && b.truthy
  | .is => a.same b
  | .isNot => !a.same b
  | .like => a.like b
  | .notLike => !a.isNull && !b.isNull && !a.like b

/-- The value of an expression in a row. An aggregate call has none. -/
def Expr.value (m : OrMode) (s : Scope) (row : Record) : Expr → Value
  | .column c => s.resolve c row
  | .literal l => l.value
  | .call _ _ => .null
  | .binary op l r => .bool (op.holds m (l.value m s row) (r.value m s row))

/-- Whether a row satisfies a condition. What is no comparison holds of no row. -/
def Expr.holds (m : OrMode) (s : Scope) (row : Record) : Expr → Bool
  | .binary op l r => op.holds m (l.value m s row) (r.value m s row)
  | _ => false

def holdsAll (m : OrMode) (s : Scope) (condition? : Option Expr) (row : Record) : Bool :=
  condition?.all (Expr.holds m s row)

end Sql

end SqlStore
