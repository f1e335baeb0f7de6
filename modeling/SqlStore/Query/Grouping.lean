import SqlStore.Query.Relation

namespace SqlStore.Query

open Sql (ColumnRef Expr SelectItem)

inductive GroupingFault where
  | notAggregate (e : Expr)
  | notSummable (v : Value) (c : ColumnRef)
deriving DecidableEq

/-! ## Sums -/

/-- The sum of two integers: an integer where it fits into 64 bits, and else a binary64 number. -/
def addInts (a b : Int64) : Value :=
  let sum := a.toInt + b.toInt
  if Int64.minValue.toInt ≤ sum ∧ sum ≤ Int64.maxValue.toInt then .int (Int64.ofInt sum)
  else .float (Decimal.ofInt64 a + Decimal.ofInt64 b)

/-- A sum with a further value. A sum without numbers is NULL, and what is no number adds
nothing. -/
def addToSum (sum v : Value) : Value :=
  if v.isNaN then sum
  else match sum, v with
    | .null, .int b => .int b
    | .null, .float y => .float y
    | .int a, .int b => addInts a b
    | .int a, .float y => .float (Decimal.ofInt64 a + y)
    | .float x, .int b => .float (x + Decimal.ofInt64 b)
    | .float x, .float y => .float (x + y)
    | sum, _ => sum

def summable : Value → Bool
  | .null | .int _ | .float _ => true
  | _ => false

/-! ## Accumulators -/

inductive Accumulator where
  | count (n : Int64)
  | sum (c : ColumnRef) (total : Value)
  | last (c : ColumnRef) (v : Value)
deriving DecidableEq

def isAggregate : Expr → Bool
  | .call .count _ | .call .sum (some _) | .column _ => true
  | _ => false

namespace Accumulator

def start : Expr → Except GroupingFault Accumulator
  | .call .count _ => .ok (.count 0)
  | .call .sum (some c) => .ok (.sum c .null)
  | .column c => .ok (.last c .null)
  | e => .error (.notAggregate e)

def add (s : Scope) (row : Record) : Accumulator → Except GroupingFault Accumulator
  | .count n => .ok (.count (n + 1))
  | .sum c total =>
    let v := s.resolve c row
    if summable v then .ok (.sum c (addToSum total v)) else .error (.notSummable v c)
  | .last c _ => .ok (.last c (s.resolve c row))

def value : Accumulator → Value
  | .count n => .int n
  | .sum _ total => total
  | .last _ v => v

end Accumulator

/-! ## Groups -/

structure Group where
  key : List Value
  accumulators : List Accumulator
deriving DecidableEq

namespace Group

def start (items : List SelectItem) (key : List Value) : Except GroupingFault Group := do
  return ⟨key, ← items.mapM fun item => Accumulator.start item.1⟩

def add (s : Scope) (row : Record) (g : Group) : Except GroupingFault Group := do
  return ⟨g.key, ← g.accumulators.mapM (Accumulator.add s row)⟩

end Group

def sameKey : List Value → List Value → Bool
  | [], [] => true
  | a :: as, b :: bs => a.sameGroup b && sameKey as bs
  | _, _ => false

def addToGroups (s : Scope) (items : List SelectItem) (key : List Value) (row : Record) :
    List Group → Except GroupingFault (List Group)
  | [] => do
    let g ← Group.start items key
    return [← g.add s row]
  | g :: gs =>
    if sameKey g.key key then do return (← g.add s row) :: gs
    else do return g :: (← addToGroups s items key row gs)

/-- The groups of rows in the order of their first rows. Without columns to group by there is one
group, even without rows. -/
def groups (s : Scope) (items : List SelectItem) (groupBy : List ColumnRef) (rows : List Record) :
    Except GroupingFault (List Group) := do
  let start ← (if groupBy.isEmpty then [[]] else []).mapM (Group.start items)
  rows.foldlM (fun gs row => addToGroups s items (groupBy.map fun c => s.resolve c row) row gs) start

/-! ## Output -/

def outputName (item : SelectItem) : String :=
  item.2.getD <| match item.1 with
    | .column c => c.name
    | .call f (some c) => f.text ++ "(" ++ c.name ++ ")"
    | .call f none => f.text ++ "(*)"
    | e => e.detail

def Group.row (items : List SelectItem) (g : Group) : Record :=
  Dict.ofList ((items.map outputName).zip (g.accumulators.map Accumulator.value))

def Relation.aggregate (items : List SelectItem) (groupBy : List ColumnRef) (qualified : Bool)
    (r : Relation) : Except GroupingFault Relation := do
  let gs ← groups ⟨r.columns, qualified⟩ items groupBy r.rows
  return ⟨addColumns [] (items.map outputName), gs.map (Group.row items)⟩

end SqlStore.Query
