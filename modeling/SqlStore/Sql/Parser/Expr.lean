import SqlStore.Sql.Parser.Basic

namespace SqlStore.Sql.Parser

open Decimal (digitsValue ofScaled readInt64)

/-- The constant that a number token denotes, after a minus sign or not. With a point it is a
binary64 number, and without one an integer of 64 bits. -/
def numberLiteral (text : String) (negative : Bool) : Except SyntaxError Literal :=
  let cs := text.toList
  if cs.all Char.isDigit then
    match readInt64 (if negative then '-' :: cs else cs) with
    | .ok i => .ok (.int i)
    | .error fault => .error (.badInteger fault)
  else
    let whole := cs.takeWhile Char.isDigit
    let fraction := (cs.dropWhile Char.isDigit).drop 1
    let x := ofScaled (digitsValue (whole ++ fraction)) (-(fraction.length : Int))
    .ok (.float (if negative then -x else x))

def literal : Parser Expr := do
  match ← next with
  | .number text => return .literal (← lift (numberLiteral text false))
  | .minus => match ← next with
    | .number text => return .literal (← lift (numberLiteral text true))
    | got => fail (.expectedNumber got)
  | .string s => return .literal (.text s)
  | .keyword .true => return .literal (.bool true)
  | .keyword .false => return .literal (.bool false)
  | .keyword .null => return .literal .null
  | got => fail (.expectedOperand got)

def columnRefFrom (first : String) : Parser ColumnRef := do
  if ← accept .period then return ⟨some first, ← name⟩ else return ⟨none, first⟩

def columnRef : Parser ColumnRef := do
  columnRefFrom (← name)

def comparison? : Token → Option BinaryOp
  | .equal => some .equal
  | .notEqual => some .notEqual
  | .less => some .less
  | .lessOrEqual => some .lessOrEqual
  | .greater => some .greater
  | .greaterOrEqual => some .greaterOrEqual
  | .keyword .like => some .like
  | _ => none

mutual

def operand (fault : Option SyntaxError) (ts : List Token) : Parsed Expr ts :=
  match ts with
  | .openParen :: rest => do
    let ⟨(e, r₁), h₁⟩ ← disjunction fault rest
    let ⟨((), r₂), h₂⟩ ← expect .closeParen fault r₁
    return ⟨(e, r₂), Nat.le_succ_of_le (Nat.le_trans h₂ h₁)⟩
  | .ident s :: rest => do
    let ⟨(c, r), h⟩ ← columnRef fault (.ident s :: rest)
    return ⟨(.column c, r), h⟩
  | ts => literal fault ts
termination_by 4 * ts.length
decreasing_by all_goals simp only [List.length_cons] at *; omega

def comparison (fault : Option SyntaxError) (ts : List Token) : Parsed Expr ts := do
  let ⟨(l, r₁), h₁⟩ ← operand fault ts
  match r₁, h₁ with
  | [], h₁ => match fault with
    | some e => .error e
    | none => return ⟨(l, []), h₁⟩
  | .keyword .is :: .keyword .not :: r₂, h₁ =>
    have h₂ : r₂.length + 2 ≤ ts.length := h₁
    let ⟨(r, r₃), h₃⟩ ← operand fault r₂
    return ⟨(.binary .isNot l r, r₃), by simp only at h₃ ⊢; omega⟩
  | .keyword .is :: r₂, h₁ =>
    have h₂ : r₂.length + 1 ≤ ts.length := h₁
    let ⟨(r, r₃), h₃⟩ ← operand fault r₂
    return ⟨(.binary .is l r, r₃), by simp only at h₃ ⊢; omega⟩
  | .keyword .not :: r₂, h₁ =>
    have h₂ : r₂.length + 1 ≤ ts.length := h₁
    let ⟨((), r₃), h₃⟩ ← expect (.keyword .like) fault r₂
    have h₃ : r₃.length ≤ r₂.length := h₃
    let ⟨(r, r₄), h₄⟩ ← operand fault r₃
    return ⟨(.binary .notLike l r, r₄), by simp only at h₄ ⊢; omega⟩
  | t :: r₂, h₁ =>
    match comparison? t with
    | some op =>
      have h₂ : r₂.length + 1 ≤ ts.length := h₁
      let ⟨(r, r₃), h₃⟩ ← operand fault r₂
      return ⟨(.binary op l r, r₃), by simp only at h₃ ⊢; omega⟩
    | none => return ⟨(l, t :: r₂), h₁⟩
termination_by 4 * ts.length + 1
decreasing_by all_goals omega

def moreConjuncts (l : Expr) (fault : Option SyntaxError) (ts : List Token) : Parsed Expr ts :=
  match ts with
  | .keyword .and :: rest => do
    let ⟨(r, r₁), h₁⟩ ← comparison fault rest
    have : r₁.length < (Token.keyword .and :: rest).length := Nat.lt_succ_of_le h₁
    let ⟨(e, r₂), h₂⟩ ← moreConjuncts (.binary .and l r) fault r₁
    return ⟨(e, r₂), Nat.le_trans h₂ (Nat.le_succ_of_le h₁)⟩
  | ts => .ok ⟨(l, ts), Nat.le_refl _⟩
termination_by 4 * ts.length
decreasing_by all_goals simp only [List.length_cons] at *; omega

def conjunction (fault : Option SyntaxError) (ts : List Token) : Parsed Expr ts := do
  let ⟨(l, r₁), h₁⟩ ← comparison fault ts
  have : r₁.length ≤ ts.length := h₁
  let ⟨(e, r₂), h₂⟩ ← moreConjuncts l fault r₁
  return ⟨(e, r₂), Nat.le_trans h₂ h₁⟩
termination_by 4 * ts.length + 2
decreasing_by all_goals omega

def moreDisjuncts (l : Expr) (fault : Option SyntaxError) (ts : List Token) : Parsed Expr ts :=
  match ts with
  | .keyword .or :: rest => do
    let ⟨(r, r₁), h₁⟩ ← conjunction fault rest
    have : r₁.length < (Token.keyword .or :: rest).length := Nat.lt_succ_of_le h₁
    let ⟨(e, r₂), h₂⟩ ← moreDisjuncts (.binary .or l r) fault r₁
    return ⟨(e, r₂), Nat.le_trans h₂ (Nat.le_succ_of_le h₁)⟩
  | ts => .ok ⟨(l, ts), Nat.le_refl _⟩
termination_by 4 * ts.length
decreasing_by all_goals simp only [List.length_cons] at *; omega

def disjunction (fault : Option SyntaxError) (ts : List Token) : Parsed Expr ts := do
  let ⟨(l, r₁), h₁⟩ ← conjunction fault ts
  have : r₁.length ≤ ts.length := h₁
  let ⟨(e, r₂), h₂⟩ ← moreDisjuncts l fault r₁
  return ⟨(e, r₂), Nat.le_trans h₂ h₁⟩
termination_by 4 * ts.length + 3
decreasing_by all_goals omega

end

def condition : Parser Expr :=
  disjunction

end SqlStore.Sql.Parser
