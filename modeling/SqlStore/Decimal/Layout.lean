import SqlStore.Decimal.Basic

namespace SqlStore.Decimal

/-! ## The fewest digits that read back -/

structure Magnitude where
  significand : Nat
  exponent : Int
  /-- The gap to the number below is half of the gap to the number above. -/
  narrowBelow : Bool
deriving Repr, DecidableEq

def Magnitude.ofFloat (x : Float) : Magnitude :=
  let bits := x.toBits.toNat
  let field : Nat := bits / Nat.pow 2 52 % Nat.pow 2 11
  let low : Nat := bits % Nat.pow 2 52
  if field = 0 then ⟨low, -1074, false⟩
  else ⟨Nat.pow 2 52 + low, (field : Int) - 1075, decide (low = 0) && decide (1 < field)⟩

def signBit (x : Float) : Bool :=
  decide (Nat.pow 2 63 ≤ x.toBits.toNat)

inductive Tie where
  | up
  | toEven
deriving Repr, DecidableEq

structure Digits where
  digits : List Char
  point : Int
deriving Repr, DecidableEq

/-- A positive magnitude and the ends of its interval, as numerators over one denominator. -/
structure Interval where
  low : Nat
  value : Nat
  high : Nat
  denominator : Nat
  closed : Bool

def Magnitude.interval (x : Magnitude) : Interval :=
  let unit := Nat.pow 2 (x.exponent - 2).toNat
  { low := (4 * x.significand - if x.narrowBelow then 1 else 2) * unit
    value := 4 * x.significand * unit
    high := (4 * x.significand + 2) * unit
    denominator := Nat.pow 2 (2 - x.exponent).toNat
    closed := decide (x.significand % 2 = 0) }

def Interval.scale (i : Interval) (e : Int) : Interval :=
  let up := Nat.pow 10 (-e).toNat
  { i with
    low := i.low * up
    value := i.value * up
    high := i.high * up
    denominator := i.denominator * Nat.pow 10 e.toNat }

def Interval.holds (i : Interval) (c : Nat) : Bool :=
  let n := c * i.denominator
  if i.closed then decide (i.low ≤ n) && decide (n ≤ i.high)
  else decide (i.low < n) && decide (n < i.high)

def Interval.nearest? (tie : Tie) (i : Interval) : Option Nat :=
  let c := i.value / i.denominator
  match i.holds c, i.holds (c + 1) with
  | false, false => none
  | true, false => some c
  | false, true => some (c + 1)
  | true, true =>
    match compare (2 * i.value) ((2 * c + 1) * i.denominator) with
    | .lt => some c
    | .gt => some (c + 1)
    | .eq => match tie with
      | .up => some (c + 1)
      | .toEven => some (if c % 2 = 0 then c else c + 1)

def Interval.scaleOf (i : Interval) : Int :=
  if i.denominator ≤ i.value then ((Nat.toDigits 10 (i.value / i.denominator)).length : Int)
  else 1 - ((Nat.toDigits 10 (i.denominator / i.value)).length : Int)

def Digits.ofScaled (c : Nat) (e : Int) : Digits :=
  let ds := Nat.toDigits 10 c
  { digits := (ds.reverse.dropWhile (· == '0')).reverse
    point := ds.length + e }

/-- The coarsest grid `10 ^ e`, from the given one on downward over `steps` grids, that has a
point in the interval. -/
def Interval.search (tie : Tie) (i : Interval) : Nat → Int → Option Digits
  | 0, _ => none
  | steps + 1, e =>
    match (i.scale e).nearest? tie with
    | some c => some (Digits.ofScaled c e)
    | none => Interval.search tie i steps (e - 1)

def Magnitude.exact (x : Magnitude) : Digits :=
  if 0 ≤ x.exponent then Digits.ofScaled (x.significand * Nat.pow 2 x.exponent.toNat) 0
  else Digits.ofScaled (x.significand * Nat.pow 5 (-x.exponent).toNat) x.exponent

def Magnitude.shortest (tie : Tie) (x : Magnitude) : Digits :=
  if x.significand = 0 then ⟨['0'], 1⟩
  else (x.interval.search tie 17 (x.interval.scaleOf - 1)).getD x.exact

/-! ## Layouts -/

structure Layout where
  positional : Option (Int × Int)
  pointZero : Bool
  plusSign : Bool
  tie : Tie

def Layout.isPositional (l : Layout) (e : Int) : Bool :=
  match l.positional with
  | none => true
  | some (first, last) => decide (first ≤ e) && decide (e ≤ last)

def Layout.numeral (l : Layout) (negative : Bool) (d : Digits) : Numeral :=
  let e := d.point - 1
  if l.isPositional e then
    if d.point ≤ 0 then
      ⟨negative, ['0'], List.replicate (-d.point).toNat '0' ++ d.digits, none⟩
    else if d.digits.length ≤ d.point.toNat then
      ⟨negative, d.digits ++ List.replicate (d.point.toNat - d.digits.length) '0',
        if l.pointZero then ['0'] else [], none⟩
    else ⟨negative, d.digits.take d.point.toNat, d.digits.drop d.point.toNat, none⟩
  else
    let sign := if e < 0 then some Sign.minus else if l.plusSign then some Sign.plus else none
    ⟨negative, d.digits.take 1, d.digits.drop 1, some ⟨sign, Nat.toDigits 10 e.natAbs⟩⟩

def Layout.finite (l : Layout) (x : Float) : Numeral :=
  l.numeral (signBit x) ((Magnitude.ofFloat x).shortest l.tie)

def Layout.text (l : Layout) (x : Float) : String :=
  if x.isNaN then "NaN"
  else if x.isInf then (if signBit x then "-inf" else "inf")
  else String.ofList (l.finite x).toList

end SqlStore.Decimal
