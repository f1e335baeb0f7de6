import SqlStore.CommandLine.Options
import SqlStore.Execution.Run
import SqlStore.Storage.File

namespace SqlStore.CommandLine

structure Report where
  output : List String
  error? : Option String
  place : Place

def Report.status (r : Report) : Nat :=
  if r.error?.isSome then 1 else 0

def usageStatus : Nat := 2

def versionLine : String := "kvsql 0.1.0"

def usageLine : String :=
  "usage: kvsql [-d DATABASE] [-f FILE] [-c FILE] [--legacy-or] [--reject-numeric] [--] [SQL]..."

def errorMessage (text : String) : String :=
  "Error: " ++ text

def dropReturn (line : List Char) : List Char :=
  if line.getLast? = some '\r' then line.dropLast else line

def linesOf (text : List Char) : List (List Char) :=
  let parts := Text.splitAt '\n' text
  parts.dropLast.map dropReturn ++ parts.getLast?.toList

def statementsOfLines (text : String) : List String :=
  ((linesOf text.toList).filter fun line => !line.all Text.isBlank).map String.ofList

namespace Options

def statementsWith (o : Options) (input : String) : List String :=
  if o.statements.isEmpty then statementsOfLines input else o.statements

def configWith? (o : Options) (configText? : Option String) : Option Config := do
  let config ← match o.config? with
    | .none => some Config.default
    | some _ => configText?.bind Config.read?
  return {
    orMode := if o.legacyOr then .legacy else config.orMode
    numericPolicy := if o.rejectNumeric then .reject else config.numericPolicy }

def report {σ : Type} (place : σ → Place) (t : Transcript σ) : Report where
  output := t.answers.map Answer.line
  error? := t.error?.map fun e => errorMessage e.message
  place := place t.store

def run (o : Options) (configText? : Option String) (place : Place) (input : String) : Report :=
  match o.configWith? configText? with
  | .none =>
    ⟨[], some (errorMessage (ErrorKind.internal.wrap "the configuration can not be read")), place⟩
  | some config =>
    let c : Connection := ⟨o.database?.getD defaultDatabase, config⟩
    let statements := o.statementsWith input
    match o.file? with
    | .none => report (fun _ => place) (c.executeAll Memory.empty statements)
    | some _ => report FileStore.place (c.executeAll (FileStore.openAt place) statements)

end Options

end SqlStore.CommandLine
