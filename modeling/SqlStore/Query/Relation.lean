import SqlStore.Query.Condition

namespace SqlStore.Query

open Sql (ColumnRef Direction Expr holdsAll)

structure Relation where
  columns : List String
  rows : List Record
deriving DecidableEq

def addColumns (columns more : List String) : List String :=
  more.foldl (fun cs c => if cs.contains c then cs else cs ++ [c]) columns

namespace Relation

def table (r : Relation) : List Row :=
  r.rows.map fun row => r.columns.map fun c => (row.get? c).getD .null

def filter (m : OrMode) (qualified : Bool) (condition : Expr) (r : Relation) : Relation :=
  { r with rows := r.rows.filter fun row => condition.holds m ⟨r.columns, qualified⟩ row }

/-! ## Joins

Every row of the left side goes through all rows of the right side. A row of the right side has a
mark, which says whether a row of the left side has matched it so far. -/

/-- The row that a pair of rows makes: the row with the values of both, the second's where both
have a column, if it satisfies the condition. -/
def pair? (m : OrMode) (s : Scope) (on? : Option Expr) (a b : Record) : Option Record :=
  let row := a.union b
  if holdsAll m s on? row then some row else none

def matchRow (pair : Record → Option Record) :
    List (Record × Bool) → List Record × List (Record × Bool)
  | [] => ([], [])
  | (b, marked) :: right =>
    let rest := matchRow pair right
    match pair b with
    | some row => (row :: rest.1, (b, true) :: rest.2)
    | none => (rest.1, (b, marked) :: rest.2)

structure Matching where
  made : List Record
  unmatched : List Record
  right : List (Record × Bool)

def matchRows (pair : Record → Record → Option Record) :
    List Record → List (Record × Bool) → Matching
  | [], right => ⟨[], [], right⟩
  | a :: left, right =>
    let here := matchRow (pair a) right
    let rest := matchRows pair left here.2
    ⟨here.1 ++ rest.made, if here.1.isEmpty then a :: rest.unmatched else rest.unmatched,
      rest.right⟩

def join (m : OrMode) (on? : Option Expr) (keepLeft keepRight : Bool) (l r : Relation) :
    Relation :=
  let columns := addColumns l.columns r.columns
  let all := matchRows (pair? m ⟨columns, true⟩ on?) l.rows (r.rows.map fun b => (b, false))
  let right := (all.right.filter fun b => !b.2).map (·.1)
  ⟨columns, all.made ++ (if keepLeft then all.unmatched else []) ++ (if keepRight then right else [])⟩

/-! ## Projection -/

def outputColumn (item : ColumnRef × Option String) : String :=
  item.2.getD item.1.name

def project (items : List (ColumnRef × Option String)) (qualified : Bool) (r : Relation) :
    Relation where
  columns := addColumns [] (items.map outputColumn)
  rows := r.rows.map fun row =>
    Dict.ofList (items.map fun item =>
      (outputColumn item, Scope.resolve ⟨r.columns, qualified⟩ item.1 row))

/-! ## Sorting -/

def compareBy (d : Direction) (a b : Value) : Ordering :=
  let o := (a.compare? b).getD .eq
  match d with
  | .asc => o
  | .desc => o.swap

def compareKeys : List Direction → List Value → List Value → Ordering
  | d :: ds, a :: as, b :: bs => (compareBy d a b).then (compareKeys ds as bs)
  | _, _, _ => .eq

def order (keys : List (ColumnRef × Direction)) (qualified : Bool) (r : Relation) : Relation :=
  let scope : Scope := ⟨r.columns, qualified⟩
  let directions := keys.map (·.2)
  let keyed := r.rows.map fun row => (keys.map fun k => scope.resolve k.1 row, row)
  let before (a b : List Value × Record) := compareKeys directions a.1 b.1 == .lt
  { r with rows := (stableSort before keyed).map (·.2) }

/-! ## Windows -/

def offset (n : Nat) (r : Relation) : Relation :=
  { r with rows := r.rows.drop n }

def limit (n : Nat) (r : Relation) : Relation :=
  { r with rows := r.rows.take n }

end Relation

end SqlStore.Query
