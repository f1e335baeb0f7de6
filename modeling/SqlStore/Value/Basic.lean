import SqlStore.Calendar.Instant
import SqlStore.Json.Basic

namespace SqlStore

open Calendar (Instant)

inductive Value where
  | null
  | bool (b : Bool)
  | int (i : Int64)
  | float (x : Float)
  | text (s : String)
  | date (t : Instant)
deriving DecidableEq, Inhabited

namespace Value

def plainLayout : Decimal.Layout where
  positional := none
  pointZero := false
  plusSign := false
  tie := .up

def notANumber : Value :=
  .float Decimal.nan

def isNull : Value → Bool
  | .null => true
  | _ => false

def isNaN : Value → Bool
  | .float x => x.isNaN
  | _ => false

/-- Loose truth: NULL, false, zero, no number and the empty text are not true. -/
def truthy : Value → Bool
  | .null => false
  | .bool b => b
  | .int i => i != 0
  | .float x => x != Float.ofNat 0 && !x.isNaN
  | .text s => !s.isEmpty
  | .date _ => true

def toText : Value → String
  | .null => "null"
  | .bool b => if b then "true" else "false"
  | .int i => Decimal.intText i.toInt
  | .float x => plainLayout.text x
  | .text s => s
  | .date t => t.text "+00:00"

def display : Value → String
  | .null => "NULL"
  | .bool b => if b then "TRUE" else "FALSE"
  | v => v.toText

def compareFloat (x y : Float) : Option Ordering :=
  if x < y then some .lt else if x == y then some .eq else if y < x then some .gt else none

def compareText (s t : String) : Ordering :=
  if s < t then .lt else if s = t then .eq else .gt

/-- The order that comparisons and sorting use: NULL comes first, numbers compare as binary64
unless both are integers, and values of different kinds do not compare. -/
def compare? : Value → Value → Option Ordering
  | .null, .null => some .eq
  | .null, _ => some .lt
  | _, .null => some .gt
  | .bool a, .bool b => some (Ord.compare a b)
  | .int a, .int b => some (Ord.compare a.toInt b.toInt)
  | .int a, .float y => compareFloat (Decimal.ofInt64 a) y
  | .float x, .int b => compareFloat x (Decimal.ofInt64 b)
  | .float x, .float y => compareFloat x y
  | .text s, .text t => some (compareText s t)
  | .date a, .date b => some (a.compare b)
  | _, _ => none

/-- Strict equality, as `IS` tests it: the same kind and the same content. No number is equal to
nothing, and the two zeros of binary64 are equal. -/
def same : Value → Value → Bool
  | .float x, .float y => x == y
  | a, b => decide (a = b)

def sameGroup (a b : Value) : Bool :=
  a.same b || (a.isNaN && b.isNaN)

/-! ## Values in JSON -/

def toJson : Value → Json
  | .null => .null
  | .bool b => .bool b
  | .int i => .ofInt i.toInt
  | .float x => .ofFloat x
  | .text s => .ofString s
  | .date t => .ofString (t.text "Z")

def ofJson? : Json → Option Value
  | .null => some .null
  | .bool b => some (.bool b)
  | .number n => (Json.number? n).map fun
    | .int i => .int i
    | .float x => .float x
  | .string s => s.map .text
  | _ => none

end Value

end SqlStore
