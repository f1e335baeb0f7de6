import SqlStore.CommandLine.Report

namespace SqlStore.CommandLine

def readFile? (path : String) : IO (Option String) := do
  try return some (← IO.FS.readFile path) catch _ => return none

def newPath (path : String) : String :=
  path ++ ".new"

def isFolder (path : String) : IO Bool := do
  try
    let _ ← IO.FS.readBinFile path
    return false
  catch
    | .inappropriateType .. => return true
    | _ => return false

def canWrite (path : String) : IO Bool := do
  if ← isFolder path then return false
  try
    IO.FS.writeFile (newPath path) ""
    IO.FS.removeFile (newPath path)
    return true
  catch _ => return false

def lookAt (path? : Option String) : IO Place := do
  match path? with
  | none => return ⟨none, false⟩
  | some path => return ⟨← readFile? path, ← canWrite path⟩

def leave (path? : Option String) (before after : Place) : IO Unit := do
  match path?, after.text? with
  | some path, some text =>
    if before.text? != some text then
      IO.FS.writeFile (newPath path) text
      IO.FS.rename (newPath path) path
  | _, _ => return

def readInput (o : Options) : IO String := do
  if o.statements.isEmpty then (← IO.getStdin).readToEnd else return ""

def carryOut (o : Options) : IO UInt32 := do
  let configText? ← match o.config? with
    | none => pure none
    | some path => readFile? path
  let place ← lookAt o.file?
  let report := o.run configText? place (← readInput o)
  leave o.file? place report.place
  for line in report.output do IO.println line
  if let some message := report.error? then IO.eprintln message
  return report.status.toUInt32

end SqlStore.CommandLine

open SqlStore.CommandLine in
def main (args : List String) : IO UInt32 := do
  match Invocation.read? args with
  | none =>
    IO.eprintln usageLine
    return usageStatus.toUInt32
  | some .version => do
    IO.println versionLine
    return 0
  | some (.run o) => carryOut o
