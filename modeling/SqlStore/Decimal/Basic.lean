namespace SqlStore.Decimal

inductive Sign where
  | plus
  | minus
deriving Repr, DecidableEq

def Sign.toChar : Sign → Char
  | .plus => '+'
  | .minus => '-'

structure Exponent where
  sign : Option Sign
  digits : List Char
deriving Repr, DecidableEq

structure Numeral where
  negative : Bool
  whole : List Char
  fraction : List Char
  exponent : Option Exponent
deriving Repr, DecidableEq

def Exponent.toList (e : Exponent) : List Char :=
  'e' :: (e.sign.map Sign.toChar).toList ++ e.digits

def Numeral.toList (n : Numeral) : List Char :=
  (if n.negative then ['-'] else []) ++ n.whole
    ++ (if n.fraction.isEmpty then [] else '.' :: n.fraction)
    ++ (n.exponent.map Exponent.toList).getD []

def Numeral.ofInt (i : Int) : Numeral where
  negative := decide (i < 0)
  whole := Nat.toDigits 10 i.natAbs
  fraction := []
  exponent := none

def intText (i : Int) : String :=
  String.ofList (Numeral.ofInt i).toList

def digitsValue (ds : List Char) : Nat :=
  Nat.ofDigitChars 10 ds 0

/-! ## Reading numbers -/

inductive IntegerFault where
  | empty
  | invalidDigit
  | tooLarge
  | tooSmall
deriving Repr, DecidableEq

def IntegerFault.message : IntegerFault → String
  | .empty => "cannot parse integer from empty string"
  | .invalidDigit => "invalid digit found in string"
  | .tooLarge => "number too large to fit in target type"
  | .tooSmall => "number too small to fit in target type"

def readDigits (limit : Nat) (overflow : IntegerFault) (n : Nat) :
    List Char → Except IntegerFault Nat
  | [] => .ok n
  | c :: cs =>
    if c.isDigit then
      let next := 10 * n + (c.toNat - '0'.toNat)
      if next ≤ limit then readDigits limit overflow next cs else .error overflow
    else .error .invalidDigit

def readMagnitude (limit : Nat) (overflow : IntegerFault) (cs : List Char) :
    Except IntegerFault Nat :=
  if cs.isEmpty then .error .invalidDigit else readDigits limit overflow 0 cs

def readInt64 : List Char → Except IntegerFault Int64
  | [] => .error .empty
  | '-' :: cs => do return Int64.ofInt (-(← readMagnitude (Nat.pow 2 63) .tooSmall cs))
  | '+' :: cs => do return Int64.ofInt (← readMagnitude (Nat.pow 2 63 - 1) .tooLarge cs)
  | c :: cs => do return Int64.ofInt (← readMagnitude (Nat.pow 2 63 - 1) .tooLarge (c :: cs))

def readUInt64 : List Char → Except IntegerFault UInt64
  | [] => .error .empty
  | '+' :: cs => do return UInt64.ofNat (← readMagnitude (Nat.pow 2 64 - 1) .tooLarge cs)
  | c :: cs => do return UInt64.ofNat (← readMagnitude (Nat.pow 2 64 - 1) .tooLarge (c :: cs))

def nan : Float := Float.ofBits 0x7FF8000000000000

def infinity : Float := Float.ofBits 0x7FF0000000000000

/-- The binary64 number nearest to `m * 10 ^ e`; beyond the finite range it is infinity or zero. -/
def ofScaled (m : Nat) (e : Int) : Float :=
  let top := ((Nat.toDigits 10 m).length : Int) + e
  if m = 0 then Float.ofNat 0
  else if 309 < top then infinity
  else if top < -325 then Float.ofNat 0
  else Float.ofScientific m (decide (e < 0)) e.natAbs

def takeSign : List Char → Bool × List Char
  | '-' :: cs => (true, cs)
  | '+' :: cs => (false, cs)
  | cs => (false, cs)

def readExponent? : List Char → Option Int
  | [] => some 0
  | c :: cs =>
    if c = 'e' || c = 'E' then
      let (negative, ds) := takeSign cs
      if ds.isEmpty || !ds.all Char.isDigit then none
      else some (if negative then -(digitsValue ds : Int) else digitsValue ds)
    else none

def readUnsigned? (cs : List Char) : Option Float := do
  let whole := cs.takeWhile Char.isDigit
  let (fraction, rest) := match cs.dropWhile Char.isDigit with
    | '.' :: ds => (ds.takeWhile Char.isDigit, ds.dropWhile Char.isDigit)
    | ds => ([], ds)
  if whole.isEmpty && fraction.isEmpty then none
  let e ← readExponent? rest
  return ofScaled (digitsValue (whole ++ fraction)) (e - fraction.length)

def readFloat? (cs : List Char) : Option Float := do
  let (negative, rest) := takeSign cs
  let word := String.ofList (rest.map Char.toLower)
  let x ←
    if word = "inf" || word = "infinity" then some infinity
    else if word = "nan" then some nan
    else readUnsigned? rest
  return if negative then -x else x

/-! ## Integers and binary64 numbers -/

def ofInt64 (i : Int64) : Float :=
  .ofModel (.ofInt64 i)

def toInt64 (x : Float) : Int64 :=
  x.toModel.toInt64

end SqlStore.Decimal
