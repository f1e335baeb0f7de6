import SqlStore.Error
import SqlStore.Schema.Table
import SqlStore.Sql.Syntax

namespace SqlStore

open Sql (ColumnDecl ColumnRef Direction Expr FromItem JoinKind Select SelectItem Statement)

inductive Command where
  | createTable (name : TableName) (table : Table)
  | dropTable (name : TableName) (ifExists : Bool)
  | insert (name : TableName) (columns? : Option (List String)) (rows : List (List Value))
  | update (name : TableName) (assignments : Dict Value) (where? : Option Expr)
  | delete (name : TableName) (where? : Option Expr)
deriving DecidableEq

/-- A plan. An operator is qualified if column names have the name of their table before them. -/
inductive Plan where
  | command (c : Command)
  | scan (name : TableName) (source? : Option String)
  | join (left right : Plan) (on? : Option Expr) (keepLeft keepRight : Bool)
  | filter (source : Plan) (condition : Expr) (qualified : Bool)
  | project (source : Plan) (items : List (ColumnRef × Option String)) (qualified : Bool)
  | aggregate (source : Plan) (items : List SelectItem) (groupBy : List ColumnRef)
      (qualified : Bool)
  | order (source : Plan) (keys : List (ColumnRef × Direction)) (qualified : Bool)
  | offset (source : Plan) (n : Nat)
  | limit (source : Plan) (n : Nat)
deriving DecidableEq

def TableName.read (name : String) : Except Error TableName :=
  match TableName.read? name with
  | some n => .ok n
  | none => .error (.badTableName name)

namespace Plan

def constant (e : Expr) : Except Error Value :=
  match e with
  | .literal l => .ok l.value
  | e => .error (.notLiteral e)

def declaredColumn (d : ColumnDecl) (index : Nat) : Except Error Column :=
  match Column.ofType? d.name d.typeName d.args (UInt64.ofNat index) with
  | some c => .ok c
  | none => .error (.unknownType d.typeName)

def declaredTable (name : TableName) (columns : List ColumnDecl) : Except Error Table := do
  let columns ← columns.zipIdx.mapM fun (d, i) => declaredColumn d i
  (Table.ofColumns name.text columns).mapError (.badTable name.text)

/-! ## Tables of a SELECT -/

def ofTable (qualified : Bool) (item : FromItem) : Except Error Plan := do
  let name ← TableName.read item.name
  return .scan name (if qualified then some (item.alias?.getD name.table) else none)

def joinTable (left : Plan) (item : FromItem) : Except Error Plan := do
  let right ← ofTable true item
  let (kind, on?) := match item.join? with
    | some j => (j.kind, j.on?)
    | none => (JoinKind.inner, none)
  return .join left right on? (kind matches .left | .full) (kind matches .right | .full)

def ofTables : List FromItem → Except Error Plan
  | [] => .error .noTables
  | item :: more => do more.foldlM joinTable (← ofTable (!more.isEmpty) item)

/-! ## Select lists and sort keys -/

def sortColumn (key : Expr × Direction) : Except Error (ColumnRef × Direction) :=
  match key.1 with
  | .column c => .ok (c, key.2)
  | e => .error (.notSortable e)

def selectedColumn (item : SelectItem) : Except Error (ColumnRef × Option String) :=
  match item.1 with
  | .column c => .ok (c, item.2)
  | e => .error (.notSelectable e)

def unalias (items : List (ColumnRef × Option String)) (key : ColumnRef) : ColumnRef :=
  if key.table?.isSome then key
  else match items.find? fun item => item.2 == some key.name with
    | some item => item.1
    | none => key

def namedAlias? (items : List SelectItem) (key : ColumnRef) : Option String :=
  if key.table?.isSome then none
  else (items.find? fun item => item.2 == some key.name).bind (·.2)

def namedColumn? (items : List SelectItem) (key : ColumnRef) : Option String :=
  items.findSome? fun item => match item.1 with
    | .column c =>
      if c.name == key.name && (c.table?.isNone || key.table?.isNone || c.table? == key.table?)
      then some (item.2.getD c.name) else none
    | _ => none

def outputKey (items : List SelectItem) (key : ColumnRef × Direction) :
    Except Error (ColumnRef × Direction) :=
  match (namedAlias? items key.1).or (namedColumn? items key.1) with
  | some name => .ok (⟨none, name⟩, key.2)
  | none => .error (.notSelected key.1)

def isCall (item : SelectItem) : Bool :=
  item.1 matches .call _ _

def aggregateSorted (source : Plan) (s : Select) (keys : List (ColumnRef × Direction))
    (qualified : Bool) : Except Error Plan := do
  let keys ← keys.mapM (outputKey s.items)
  let grouped := Plan.aggregate source s.items s.groupBy qualified
  return if keys.isEmpty then grouped else .order grouped keys false

def projectSorted (source : Plan) (s : Select) (keys : List (ColumnRef × Direction))
    (qualified : Bool) : Except Error Plan := do
  let items ← s.items.mapM selectedColumn
  let keys := keys.map fun key => (unalias items key.1, key.2)
  let sorted := if keys.isEmpty then source else .order source keys qualified
  return if items.isEmpty then sorted else .project sorted items qualified

/-! ## Windows -/

def limitArgument (e : Expr) : Except Error Nat :=
  match e with
  | .literal (.int i) => if 0 ≤ i then .ok i.toInt.toNat else .error (.badLimit e)
  | e => .error (.badLimit e)

def window (source : Plan) (arguments : List Expr) : Except Error Plan := do
  match ← arguments.mapM limitArgument with
  | [start, count] =>
    return .limit (if start = 0 then source else .offset source start) count
  | ns => throw (.limitArguments ns.length)

/-! ## Statements -/

def ofSelect (s : Select) : Except Error Plan := do
  let qualified := decide (1 < s.tables.length)
  let tables ← ofTables s.tables
  let rows := match s.where? with
    | some condition => .filter tables condition qualified
    | none => tables
  let keys ← s.orderBy.mapM sortColumn
  let shown ←
    if s.items.any isCall then aggregateSorted rows s keys qualified
    else projectSorted rows s keys qualified
  match s.limit? with
  | some arguments => window shown arguments
  | none => return shown

def ofStatement : Statement → Except Error Plan
  | .createTable name columns => do
    let name ← TableName.read name
    return .command (.createTable name (← declaredTable name columns))
  | .dropTable name ifExists => do
    return .command (.dropTable (← TableName.read name) ifExists)
  | .insert table columns? rows => do
    let name ← TableName.read table
    return .command (.insert name columns? (← rows.mapM fun row => row.mapM constant))
  | .select s => ofSelect s
  | .update table assignments where? => do
    let name ← TableName.read table
    return .command (.update name (← assignments.mapExcept constant) where?)
  | .delete [item] where? => do
    return .command (.delete (← TableName.read item.name) where?)
  | .delete tables _ => .error (.deleteFrom (tables.map (·.name)))

end Plan

end SqlStore
