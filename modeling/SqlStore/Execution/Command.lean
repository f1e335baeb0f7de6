import SqlStore.Plan

namespace SqlStore

open Query (Scope)
open Sql (Expr holdsAll)

/-! ## Tables in a store -/

/-- The texts of a store by their keys. -/
abbrev View : Type := String → Option String

structure Connection where
  database : String
  config : Config
deriving Repr, DecidableEq

namespace Connection

def definitionKey (c : Connection) (name : TableName) : String :=
  name.keyStem c.database ++ ".definition"

def rowsKey (c : Connection) (name : TableName) : String :=
  name.keyStem c.database ++ ".rows"

def table? (c : Connection) (view : View) (name : TableName) : Except Error (Option Table) :=
  match view (c.definitionKey name) with
  | none => .ok none
  | some text => match Table.columnsOfText? text with
    | none => .error (.corruptSchema name)
    | some columns =>
      ((Table.ofColumns name.text columns).mapError (.badTable name.text)).map some

def table (c : Connection) (view : View) (name : TableName) : Except Error Table := do
  match ← c.table? view name with
  | some t => return t
  | none => throw (.unknownTable name)

/-- The stored rows of a table, if any have been stored; a text of white space holds none. -/
def rows? (c : Connection) (view : View) (name : TableName) : Except Error (Option (List Row)) :=
  match view (c.rowsKey name) with
  | none => .ok none
  | some text =>
    if text.toList.all Text.isBlank then .ok none
    else match Row.ofStoredText? text with
      | some rows => .ok (some rows)
      | none => .error (.corruptRows name)

def rows (c : Connection) (view : View) (name : TableName) : Except Error (List Row) := do
  return (← c.rows? view name).getD []

end Connection

abbrev Outcome : Type := List Write × Change

/-! ## Rows -/

def Column.encode (p : NumericPolicy) (c : Column) (v : Value) : Except Error Value :=
  match c.encode? p v with
  | some s => .ok s
  | none => .error (.refused v c)

namespace Table

def column (t : Table) (name : String) : Except Error Column :=
  match t.column? name with
  | some c => .ok c
  | none => .error (.unknownColumn t.name name)

def fillRow (t : Table) (p : NumericPolicy) (targets : List (Column × Value)) :
    Except Error Row :=
  targets.foldlM (fun row (c, v) => return row.set c.index.toNat (← c.encode p v)) t.defaultRow

def rowOfValues (t : Table) (p : NumericPolicy) (vs : List Value) : Except Error Row :=
  if t.columns.length < vs.length then
    .error (.tooManyValues vs.length t.columns.length t.name)
  else t.fillRow p (t.columns.zip vs)

def rowOfColumns (t : Table) (p : NumericPolicy) (names : List String) (vs : List Value) :
    Except Error Row := do
  if names.length ≠ vs.length then throw (.columnCount names.length vs.length)
  t.fillRow p ((← names.mapM t.column).zip vs)

def newRow (t : Table) (p : NumericPolicy) (columns? : Option (List String)) (vs : List Value) :
    Except Error Row :=
  match columns? with
  | none => t.rowOfValues p vs
  | some names => t.rowOfColumns p names vs

def fitRow (t : Table) (row : Row) : Row :=
  let kept := row.take t.columns.length
  kept ++ List.replicate (t.columns.length - kept.length) .null

def assignment (t : Table) (p : NumericPolicy) (name : String) (v : Value) :
    Except Error (Nat × Value) := do
  let c ← t.column name
  if !c.kind.accepts v then throw (.notAssignable v c)
  return (c.index.toNat, ← c.encode p v)

def assign (t : Table) (assignments : List (Nat × Value)) (row : Row) : Row :=
  assignments.foldl (fun row (i, v) => row.set i v) (t.fitRow row)

def rowHolds (t : Table) (config : Config) (where? : Option Expr) (row : Row) : Bool :=
  holdsAll config.orMode Scope.single where? (t.recordOf none config.numericPolicy row)

end Table

/-! ## Commands -/

namespace Connection

def storeRows (c : Connection) (name : TableName) (rows : List Row) : Write :=
  .set (c.rowsKey name) (Row.storedText rows)

def createTable (c : Connection) (view : View) (name : TableName) (t : Table) :
    Except Error Outcome := do
  if (← c.table? view name).isSome then throw (.existingTable name)
  t.check.mapError (.badTable t.name)
  return ([.set (c.definitionKey name) t.definitionText], .created name)

def dropTable (c : Connection) (view : View) (name : TableName) (ifExists : Bool) :
    Except Error Outcome := do
  match ← c.table? view name with
  | some _ => return ([.remove (c.definitionKey name), .remove (c.rowsKey name)], .dropped name)
  | none => if ifExists then return ([], .dropped name) else throw (.unknownTable name)

def insert (c : Connection) (view : View) (name : TableName) (columns? : Option (List String))
    (rows : List (List Value)) : Except Error Outcome := do
  let t ← c.table view name
  let stored ← c.rows view name
  let new ← rows.mapM (t.newRow c.config.numericPolicy columns?)
  return ([c.storeRows name (stored ++ new)], .inserted rows.length)

def update (c : Connection) (view : View) (name : TableName) (assignments : Dict Value)
    (where? : Option Expr) : Except Error Outcome := do
  let t ← c.table view name
  let assigned ← assignments.entries.mapM fun e => t.assignment c.config.numericPolicy e.1 e.2
  let stored ← c.rows view name
  let holds := t.rowHolds c.config where?
  let changed := stored.map fun row => if holds row then t.assign assigned row else row
  return ([c.storeRows name changed], .updated (stored.countP holds))

def delete (c : Connection) (view : View) (name : TableName) (where? : Option Expr) :
    Except Error Outcome := do
  let t ← c.table view name
  let stored ← c.rows view name
  let holds := t.rowHolds c.config where?
  return ([c.storeRows name (stored.filter fun row => !holds row)], .deleted (stored.countP holds))

def runCommand (c : Connection) (view : View) : Command → Except Error Outcome
  | .createTable name t => c.createTable view name t
  | .dropTable name ifExists => c.dropTable view name ifExists
  | .insert name columns? rows => c.insert view name columns? rows
  | .update name assignments where? => c.update view name assignments where?
  | .delete name where? => c.delete view name where?

end Connection

end SqlStore
