import SqlStore.Calendar.Reading
import SqlStore.Config
import SqlStore.Text.Uppercase
import SqlStore.Value.Basic

namespace SqlStore

open Calendar (Instant)

/-! ## Kinds -/

inductive Kind where
  | string
  | binary
  | boolean
  | integer
  | float
  | date
deriving Repr, DecidableEq, Inhabited

namespace Kind

def all : List Kind := [.string, .binary, .boolean, .integer, .float, .date]

def name : Kind → String
  | .string => "string"
  | .binary => "binary"
  | .boolean => "boolean"
  | .integer => "integer"
  | .float => "float"
  | .date => "date"

def ofName? (s : String) : Option Kind :=
  all.find? fun k => k.name == s

def unsupportedWords : List String := ["INTERVAL", "ARRAY", "MULTISET", "XML"]

def typeNames : Kind → List String
  | .string => ["CHAR", "CHARACTER", "NCHAR", "VARCHAR", "CHARACTER VARYING", "NVARCHAR",
      "VARCHAR2", "TEXT", "STRING", "CLOB"]
  | .binary => ["BINARY", "VARBINARY", "BLOB", "BYTEA"]
  | .boolean => ["BOOLEAN", "BOOL", "BIT"]
  | .integer => ["INT", "INTEGER", "SMALLINT", "TINYINT", "BIGINT"]
  | .float => ["FLOAT", "REAL", "DOUBLE", "DOUBLE PRECISION", "DECIMAL", "NUMERIC"]
  | .date => ["DATE", "TIME", "TIMESTAMP", "DATETIME"]

def ofTypeName? (typeName : String) : Option Kind :=
  let words := (Text.words (Text.upper typeName).toList).map String.ofList
  if words.any unsupportedWords.contains then none
  else all.find? fun k => k.typeNames.contains (" ".intercalate words)

def accepts : Kind → Value → Bool
  | _, .null => true
  | .string, .text _ | .binary, .text _ | .date, .text _ => true
  | .integer, .int _ | .float, .int _ => true
  | .float, .float _ => true
  | .boolean, .bool _ => true
  | .date, .date _ => true
  | _, _ => false

end Kind

/-! ## Columns -/

structure Column where
  name : String
  kind : Kind
  index : UInt64
  length : Option UInt64
  pad : Option Char
deriving Repr, DecidableEq

namespace Column

def fixedLengthTypes : List String := ["CHAR", "CHARACTER", "NCHAR"]

def ofType? (name typeName : String) (args : List UInt64) (index : UInt64) : Option Column := do
  let kind ← Kind.ofTypeName? typeName
  let length := if kind = .string then args.head? else none
  let fixed := fixedLengthTypes.contains (Text.upper typeName)
  return { name, kind, index, length, pad := if fixed && length.isSome then some ' ' else none }

def defaultValue (c : Column) : Value :=
  match c.kind, c.length, c.pad with
  | .string, some n, some pad => .text (String.ofList (List.replicate n.toNat pad))
  | .boolean, _, _ => .bool false
  | _, _, _ => .null

def fit (c : Column) (s : String) : String :=
  match c.length, c.pad with
  | some n, some pad =>
    let cs := s.toList.take n.toNat
    String.ofList (cs ++ List.replicate (n.toNat - cs.length) pad)
  | some n, none => String.ofList (s.toList.take n.toNat)
  | none, _ => s

/-- The integer that a text denotes: an integer of 64 bits, or any other number without its
fraction, brought into the range of 64 bits. -/
def readInteger? (s : String) : Option Int64 :=
  let cs := Text.trim s.toList
  match Decimal.readInt64 cs with
  | .ok i => some i
  | .error _ => (Decimal.readFloat? cs).bind fun x =>
    if x.isFinite then some (Decimal.toInt64 x) else none

def absentNumber (p : NumericPolicy) : Option Value :=
  match p with
  | .coerce => some .notANumber
  | .reject => none

def timestamp (t : Instant) : Int64 :=
  Int64.ofInt t.millis

def encode? (p : NumericPolicy) (c : Column) (v : Value) : Option Value :=
  match c.kind with
  | .string => some (if v.truthy then .text (c.fit v.toText) else .null)
  | .binary => some (if v.truthy then .text v.toText else .null)
  | .boolean => some (.bool v.truthy)
  | .integer => match v with
    | .null => some .null
    | .int i => some (.int i)
    | .float x => if x.isFinite then some (.int (Decimal.toInt64 x)) else absentNumber p
    | .date t => some (.int (timestamp t))
    | .text s => match readInteger? s with
      | some i => some (.int i)
      | none => absentNumber p
    | .bool _ => absentNumber p
  | .float => match v with
    | .null => some .null
    | .int i => some (.float (Decimal.ofInt64 i))
    | .float x => some (.float x)
    | .date t => some (.float (Decimal.ofInt64 (timestamp t)))
    | .text s => match Decimal.readFloat? (Text.trim s.toList) with
      | some x => some (.float x)
      | none => absentNumber p
    | .bool _ => absentNumber p
  | .date => match v with
    | .date t => some (.int (timestamp t))
    | .int ms => some (.int ms)
    | .text s => match Instant.read? s, p with
      | some t, _ => some (.int (timestamp t))
      | none, .coerce => some .null
      | none, .reject => none
    | _ => some .null

/-- The value that a stored form stands for. What is stored in a binary column is not shown. -/
def decode (p : NumericPolicy) (c : Column) (stored : Value) : Value :=
  match c.kind with
  | .string => stored
  | .binary => .null
  | .boolean => .bool stored.truthy
  | .integer | .float => match stored, p with
    | .null, .coerce => .notANumber
    | v, _ => v
  | .date => match stored with
    | .int ms => match Instant.ofMillis? ms.toInt with
      | some t => .date t
      | none => .null
    | _ => .null

end Column

end SqlStore
