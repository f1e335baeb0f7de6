import SqlStore.Decimal.Layout

namespace SqlStore

inductive Json where
  | null
  | bool (b : Bool)
  | number (n : Decimal.Numeral)
  | string (text : Option String)
  | array (items : List Json)
  | object (members : List (Option String × Json))
deriving Repr, Inhabited

namespace Json

def ofString (s : String) : Json :=
  .string (some s)

def ofInt (i : Int) : Json :=
  .number (Decimal.Numeral.ofInt i)

def ofMembers (ms : List (String × Json)) : Json :=
  .object (ms.map fun m => (some m.1, m.2))

def string? : Json → Option String
  | .string text => text
  | _ => none

def membersNamed (name : String) (ms : List (Option String × Json)) : List Json :=
  (ms.filter fun m => m.1 == some name).map (·.2)

/-! ## JSON text -/

def escapeChar (c : Char) : List Char :=
  if c = '\x22' then ['\\', '\x22']
  else if c = '\\' then ['\\', '\\']
  else if c = '\x08' then ['\\', 'b']
  else if c = '\x0c' then ['\\', 'f']
  else if c = '\n' then ['\\', 'n']
  else if c = '\r' then ['\\', 'r']
  else if c = '\t' then ['\\', 't']
  else if c.toNat < 0x20 then
    ['\\', 'u', '0', '0', (c.toNat / 16).digitChar, (c.toNat % 16).digitChar]
  else [c]

def writeString : Option String → List Char
  | some s => '\x22' :: s.toList.flatMap escapeChar ++ ['\x22']
  | none => ['\x22', '\\', 'u', 'd', '8', '0', '0', '\x22']

mutual

def write : Json → List Char
  | .null => ['n', 'u', 'l', 'l']
  | .bool true => ['t', 'r', 'u', 'e']
  | .bool false => ['f', 'a', 'l', 's', 'e']
  | .number n => n.toList
  | .string text => writeString text
  | .array items => '[' :: writeItems items
  | .object members => '\x7b' :: writeMembers members

def writeItems : List Json → List Char
  | [] => [']']
  | j :: rest => write j ++ writeMoreItems rest

def writeMoreItems : List Json → List Char
  | [] => [']']
  | j :: rest => ',' :: write j ++ writeMoreItems rest

def writeMembers : List (Option String × Json) → List Char
  | [] => ['\x7d']
  | (name, j) :: rest => writeString name ++ ':' :: write j ++ writeMoreMembers rest

def writeMoreMembers : List (Option String × Json) → List Char
  | [] => ['\x7d']
  | (name, j) :: rest => ',' :: writeString name ++ ':' :: write j ++ writeMoreMembers rest

end

def text (j : Json) : String :=
  String.ofList j.write

/-! ## Numbers

A numeral with neither fraction nor exponent is an integer where 64 bits hold it. Any other is a
binary64 number by a quick rule, which does not always round to the nearest: the leading digits are
gathered in an unsigned integer of 64 bits, and that is scaled once by a power of ten. -/

open SqlStore.Decimal (Numeral Exponent Layout Sign digitsValue ofScaled)

def numberLayout : Layout where
  positional := some (-5, 15)
  pointZero := true
  plusSign := true
  tie := .toEven

def ofFloat (x : Float) : Json :=
  if x.isFinite then .number (numberLayout.finite x) else .null

inductive Number where
  | int (i : Int64)
  | float (x : Float)
deriving DecidableEq

def gatherLimit : Nat := Nat.pow 2 64 - 1

def gather (n : Nat) : List Char → Nat × List Char
  | [] => (n, [])
  | c :: cs =>
    let next := 10 * n + (c.toNat - '0'.toNat)
    if next ≤ gatherLimit then gather next cs else (n, c :: cs)

def exponentValue? (e : Exponent) : Option Int :=
  let n := digitsValue e.digits
  if n < Nat.pow 2 31 then some (if e.sign = some .minus then -(n : Int) else n) else none

/-- `x * 10 ^ e` by multiplication or division with a power of ten, in steps of 10³⁰⁸ where the
exponent is below -308; none where it would be infinite. -/
def scale? (x : Float) (e : Int) : Option Float :=
  if 308 < e then (if x == Float.ofNat 0 then some x else none)
  else if 0 ≤ e then
    let y := x * ofScaled 1 e
    if y.isInf then none else some y
  else if -308 ≤ e then some (x / ofScaled 1 (-e))
  else if x == Float.ofNat 0 then some x
  else scale? (x / ofScaled 1 308) (e + 308)
termination_by e.natAbs

def magnitude? (n : Numeral) : Option Float :=
  let (whole, later) := gather 0 n.whole
  let (all, unread) := gather whole n.fraction
  let shift : Int := later.length - (n.fraction.length - unread.length : Nat)
  match n.exponent with
  | none => scale? (ofScaled all 0) shift
  | some e => match exponentValue? e with
    | some k => scale? (ofScaled all 0) (shift + k)
    | none => if all = 0 ∨ e.sign = some .minus then some (Float.ofNat 0) else none

def number? (n : Numeral) : Option Number :=
  let m := digitsValue n.whole
  if n.fraction.isEmpty ∧ n.exponent.isNone ∧ m ≤ gatherLimit then
    if n.negative then
      some (if 0 < m ∧ m ≤ Nat.pow 2 63 then .int (Int64.ofInt (-m)) else .float (-ofScaled m 0))
    else some (if m < Nat.pow 2 63 then .int (Int64.ofInt m) else .float (ofScaled m 0))
  else (magnitude? n).map fun x => .float (if n.negative then -x else x)

def uint64? : Json → Option UInt64
  | .number n =>
    let m := digitsValue n.whole
    if !n.negative && n.fraction.isEmpty && n.exponent.isNone && m ≤ gatherLimit then
      some (UInt64.ofNat m)
    else none
  | _ => none

end Json

end SqlStore
