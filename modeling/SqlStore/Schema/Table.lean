import SqlStore.Schema.Column

namespace SqlStore

/-! ## Stable sorting -/

section Sorting

universe u

variable {α : Type u}

/-- Puts `x` after a sorted list that is held from its last element to its first: `x` moves past
the elements that it comes before, up to the first that it does not. -/
def insertLast (before : α → α → Bool) (x : α) : List α → List α
  | [] => [x]
  | y :: ys => if before x y then y :: insertLast before x ys else x :: y :: ys

def stableSort (before : α → α → Bool) (xs : List α) : List α :=
  (xs.foldl (fun sorted x => insertLast before x sorted) []).reverse

end Sorting

/-! ## Names -/

structure TableName where
  space? : Option String
  table : String
deriving Repr, DecidableEq

namespace TableName

def read? (name : String) : Option TableName :=
  let parts := (Text.splitAt '.' name.toList).map String.ofList
  if parts.any String.isEmpty then none
  else match parts with
    | [table] => some ⟨none, table⟩
    | [ns, table] => some ⟨some ns, table⟩
    | _ => none

def defaultNamespace : String := "public"

def inNamespace (n : TableName) : String :=
  n.space?.getD defaultNamespace

def text (n : TableName) : String :=
  match n.space? with
  | some ns => ns ++ "." ++ n.table
  | none => n.table

def keyStem (database : String) (n : TableName) : String :=
  database ++ "." ++ n.inNamespace ++ ".tables." ++ n.table

end TableName

/-! ## Tables -/

abbrev Row : Type := List Value

abbrev Record : Type := Dict Value

structure Table where
  name : String
  columns : List Column
deriving Repr, DecidableEq

inductive TableFault where
  | noColumns
  | duplicateColumn (column : String)
  | misplacedColumn (column : String) (index : UInt64) (expected : Nat)
deriving Repr, DecidableEq

def qualify (source : Option String) (name : String) : String :=
  match source with
  | some s => s ++ "." ++ name
  | none => name

namespace Table

def checkColumns (seen : List String) : List Column → Except TableFault Unit
  | [] => .ok ()
  | c :: cs =>
    if seen.contains c.name then .error (.duplicateColumn c.name)
    else if c.index.toNat ≠ seen.length then
      .error (.misplacedColumn c.name c.index seen.length)
    else checkColumns (c.name :: seen) cs

def check (t : Table) : Except TableFault Unit :=
  if t.columns.isEmpty then .error .noColumns else checkColumns [] t.columns

def ofColumns (name : String) (columns : List Column) : Except TableFault Table := do
  let t : Table := ⟨name, stableSort (fun a b => decide (a.index < b.index)) columns⟩
  t.check
  return t

def column? (t : Table) (name : String) : Option Column :=
  t.columns.find? fun c => c.name == name

def columnNames (t : Table) (source : Option String) : List String :=
  t.columns.map fun c => qualify source c.name

def defaultRow (t : Table) : Row :=
  t.columns.map Column.defaultValue

def recordOf (t : Table) (source : Option String) (p : NumericPolicy) (row : Row) : Record :=
  Dict.ofList (t.columns.map fun c =>
    (qualify source c.name, c.decode p (row.getD c.index.toNat .null)))

end Table

/-! ## Stored schemas and rows -/

namespace Column

def toJson (c : Column) : Json :=
  .ofMembers (
    [("name", .ofString c.name), ("type", .ofString c.kind.name),
      ("index", .ofInt (c.index.toNat : Int))]
    ++ (c.length.map fun n => ("length", Json.ofInt (n.toNat : Int))).toList
    ++ (c.pad.map fun pad => ("pad", Json.ofString (String.singleton pad))).toList)

def ofJson? (j : Json) : Option Column := do
  match ← Json.fields? ["name", "type", "index", "length", "pad"] j with
  | [some name, some kind, some index, length, pad] =>
    return {
      name := ← name.string?
      kind := ← kind.choice?.bind Kind.ofName?
      index := ← index.uint64?
      length := ← Json.optionalField? Json.uint64? length
      pad := ← Json.optionalField? Json.char? pad }
  | _ => none

end Column

namespace Table

def definitionText (t : Table) : String :=
  let columns := Dict.ofList (t.columns.map fun c => (c.name, c))
  (Json.ofMembers (columns.map Column.toJson).entries).text

def columnsOfText? (text : String) : Option (List Column) := do
  return (← (← Json.read? text).dict? Column.ofJson?).values

end Table

namespace Row

def storedText (rows : List Row) : String :=
  (Json.array (rows.map fun row => .array (row.map Value.toJson))).text

def ofStoredText? (text : String) : Option (List Row) := do
  (← Json.read? text).list? (Json.list? Value.ofJson?)

end Row

end SqlStore
