import SqlStore.Dict

namespace SqlStore.CommandLine

structure Options where
  database? : Option String
  file? : Option String
  config? : Option String
  legacyOr : Bool
  rejectNumeric : Bool
  statements : List String
deriving Repr, DecidableEq

def Options.none : Options := ⟨.none, .none, .none, false, false, []⟩

def defaultDatabase : String := "main"

inductive Invocation where
  | version
  | run (o : Options)
deriving Repr, DecidableEq

inductive ValueOption where
  | database
  | file
  | config
deriving Repr, DecidableEq

inductive Flag where
  | value (v : ValueOption)
  | legacyOr
  | rejectNumeric
  | version
deriving Repr, DecidableEq

def Flag.ofName? : String → Option Flag
  | "database" => some (.value .database)
  | "file" => some (.value .file)
  | "config" => some (.value .config)
  | "legacy-or" => some .legacyOr
  | "reject-numeric" => some .rejectNumeric
  | "version" => some .version
  | _ => none

def Flag.ofLetter? : Char → Option Flag
  | 'd' => some (.value .database)
  | 'f' => some (.value .file)
  | 'c' => some (.value .config)
  | 'V' => some .version
  | _ => none

namespace Options

def setValue? (o : Options) (v : ValueOption) (text : String) : Option Options :=
  match v with
  | .database => if o.database?.isSome then .none else some { o with database? := text }
  | .file => if o.file?.isSome || text.isEmpty then .none else some { o with file? := text }
  | .config => if o.config?.isSome || text.isEmpty then .none else some { o with config? := text }

def setLegacyOr? (o : Options) : Option Options :=
  if o.legacyOr then .none else some { o with legacyOr := true }

def setRejectNumeric? (o : Options) : Option Options :=
  if o.rejectNumeric then .none else some { o with rejectNumeric := true }

end Options

inductive Argument where
  | separator
  | option (o : Flag) (attached? : Option String)
  | unknown
  | plain (text : String)
deriving Repr, DecidableEq

def longArgument (cs : List Char) : Argument :=
  match Flag.ofName? (String.ofList (cs.takeWhile (· ≠ '='))), cs.dropWhile (· ≠ '=') with
  | none, _ => .unknown
  | some o, [] => .option o none
  | some o, _ :: value => .option o (some (String.ofList value))

def shortArgument (c : Char) (cs : List Char) : Argument :=
  match Flag.ofLetter? c, cs with
  | none, _ => .unknown
  | some .version, _ => .option .version none
  | some o, [] => .option o none
  | some o, '=' :: value => .option o (some (String.ofList value))
  | some o, value => .option o (some (String.ofList value))

def Argument.ofText (text : String) : Argument :=
  match text.toList with
  | ['-', '-'] => .separator
  | '-' :: '-' :: cs => longArgument cs
  | '-' :: c :: cs => shortArgument c cs
  | _ => .plain text

def readFrom? (o : Options) : List String → Option Invocation
  | [] => some (.run o)
  | arg :: rest => match Argument.ofText arg with
    | .plain text => readFrom? { o with statements := o.statements ++ [text] } rest
    | .separator => some (.run { o with statements := o.statements ++ rest })
    | .unknown => none
    | .option .version none => some .version
    | .option .legacyOr none => do readFrom? (← o.setLegacyOr?) rest
    | .option .rejectNumeric none => do readFrom? (← o.setRejectNumeric?) rest
    | .option (.value v) (some text) => do readFrom? (← o.setValue? v text) rest
    | .option (.value v) none => match rest with
      | next :: rest => match Argument.ofText next with
        | .plain text => do readFrom? (← o.setValue? v text) rest
        | _ => none
      | [] => none
    | .option _ (some _) => none

def Invocation.read? (args : List String) : Option Invocation :=
  readFrom? .none args

end SqlStore.CommandLine
