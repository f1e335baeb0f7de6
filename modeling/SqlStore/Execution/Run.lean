import SqlStore.Execution.Command
import SqlStore.Sql.Parser.Statement

namespace SqlStore

open Query (Relation)
open Sql (Statement)

structure Effect where
  writes : List Write
  answer : Except Error Answer

/-- How the reading of rows fails: with an error, after the changes of a command in the place of
rows. -/
structure Failure where
  writes : List Write
  error : Error

namespace Failure

def ofError (e : Error) : Failure := ⟨[], e⟩

def ofCommand : Except Error Outcome → Failure
  | .ok (writes, change) => ⟨writes, .notRows change⟩
  | .error e => ofError e

end Failure

namespace Connection

def scan (c : Connection) (view : View) (name : TableName) (source? : Option String) :
    Except Error Relation := do
  let t ← c.table view name
  let rows ← c.rows view name
  return ⟨t.columnNames source?, rows.map (t.recordOf source? c.config.numericPolicy)⟩

def relation (c : Connection) (view : View) : Plan → Except Failure Relation
  | .command command => .error (.ofCommand (c.runCommand view command))
  | .scan name source? => (c.scan view name source?).mapError .ofError
  | .join left right on? keepLeft keepRight => do
    let l ← c.relation view left
    let r ← c.relation view right
    return Relation.join c.config.orMode on? keepLeft keepRight l r
  | .filter source condition qualified => do
    return (← c.relation view source).filter c.config.orMode qualified condition
  | .project source items qualified => do
    return (← c.relation view source).project items qualified
  | .aggregate source items groupBy qualified => do
    let r ← c.relation view source
    (r.aggregate items groupBy qualified).mapError fun fault => .ofError (.notGrouped fault)
  | .order source keys qualified => do
    return (← c.relation view source).order keys qualified
  | .offset source n => do
    return (← c.relation view source).offset n
  | .limit source n => do
    return (← c.relation view source).limit n

def runPlan (c : Connection) (view : View) : Plan → Effect
  | .command command => match c.runCommand view command with
    | .ok (writes, change) => ⟨writes, .ok (.changed change)⟩
    | .error e => ⟨[], .error e⟩
  | plan => match c.relation view plan with
    | .ok r => ⟨[], .ok (.rows r)⟩
    | .error failure => ⟨failure.writes, .error failure.error⟩

def runStatement (c : Connection) (view : View) (s : Statement) : Effect :=
  match Plan.ofStatement s with
  | .ok plan => c.runPlan view plan
  | .error e => ⟨[], .error e⟩

def run (c : Connection) (view : View) (sql : String) : Effect :=
  match Statement.parse sql with
  | .ok s => c.runStatement view s
  | .error e => ⟨[], .error (.malformed e)⟩

end Connection

variable {σ : Type} [Storage σ]

def Effect.commit (e : Effect) (s : σ) : Except Error Answer × σ :=
  match Storage.writeAll s e.writes with
  | (.ok (), s') => (e.answer, s')
  | (.error fault, s') => (.error (.storage fault), s')

namespace Connection

def executePlan (c : Connection) (s : σ) (plan : Plan) : Except Error Answer × σ :=
  (c.runPlan (Storage.get? s) plan).commit s

def executeStatement (c : Connection) (s : σ) (statement : Statement) :
    Except Error Answer × σ :=
  (c.runStatement (Storage.get? s) statement).commit s

def execute (c : Connection) (s : σ) (sql : String) : Except Error Answer × σ :=
  (c.run (Storage.get? s) sql).commit s

end Connection

/-! ## Scripts -/

variable {σ : Type} [Storage σ]

structure Transcript (σ : Type) where
  answers : List Answer
  error? : Option Error
  store : σ

def Connection.executeAll (c : Connection) (s : σ) : List String → Transcript σ
  | [] => ⟨[], none, s⟩
  | sql :: rest => match c.execute s sql with
    | (.ok answer, s') =>
      let later := c.executeAll s' rest
      { later with answers := answer :: later.answers }
    | (.error e, s') => ⟨[], some e, s'⟩

end SqlStore
