namespace SqlStore.Text

/-! ## Sets of code points

The tables of characters hold the code points from 0x80 on, by Unicode 17.0; below, their rule is
written out. -/

def inRanges (n : Nat) : List (Nat × Nat) → Bool
  | [] => false
  | (lo, hi) :: rest => decide (lo ≤ n) && (decide (n ≤ hi) || inRanges n rest)

/-! ## White space -/

def blankRanges : List (Nat × Nat) := [
  (0x9, 0xD), (0x20, 0x20), (0x85, 0x85), (0xA0, 0xA0), (0x1680, 0x1680), (0x2000, 0x200A),
  (0x2028, 0x2029), (0x202F, 0x202F), (0x205F, 0x205F), (0x3000, 0x3000)]

def isBlank (c : Char) : Bool :=
  inRanges c.toNat blankRanges

def trimLeft (cs : List Char) : List Char :=
  cs.dropWhile isBlank

def trim (cs : List Char) : List Char :=
  (trimLeft (trimLeft cs).reverse).reverse

private def splitWords : List Char → List Char × List (List Char)
  | [] => ([], [])
  | c :: cs =>
    let (word, rest) := splitWords cs
    if isBlank c then ([], if word.isEmpty then rest else word :: rest) else (c :: word, rest)

def words (cs : List Char) : List (List Char) :=
  let (word, rest) := splitWords cs
  if word.isEmpty then rest else word :: rest

/-! ## Splitting -/

def splitAt (sep : Char) : List Char → List (List Char)
  | [] => [[]]
  | c :: cs =>
    if c = sep then [] :: splitAt sep cs
    else match splitAt sep cs with
      | part :: parts => (c :: part) :: parts
      | [] => [[c]]

def afterLast? (sep : Char) : List Char → Option (List Char)
  | [] => none
  | c :: cs => match afterLast? sep cs with
    | some part => some part
    | none => if c = sep then some cs else none

end SqlStore.Text
