import SqlStore.Sql.Token

/-!
# Parsers

A parser reads tokens off the front of a list. What it leaves is never longer than what it was
given, which is what the repetitions recurse on. A parser also knows the fault, if any, in which
the text ends after the tokens: reading past the last token raises it.
-/

namespace SqlStore.Sql

abbrev Parsed (α : Type) (ts : List Token) : Type :=
  Except SyntaxError { r : α × List Token // r.2.length ≤ ts.length }

/-- A parser: from the fault after the tokens and the tokens to a result. -/
def Parser (α : Type) : Type :=
  Option SyntaxError → (ts : List Token) → Parsed α ts

namespace Parser

variable {α β : Type}

instance : Monad Parser where
  pure a := fun _ ts => .ok ⟨(a, ts), Nat.le_refl _⟩
  bind p f := fun fault ts => do
    let ⟨(a, r₁), h₁⟩ ← p fault ts
    let ⟨r₂, h₂⟩ ← f a fault r₁
    return ⟨r₂, Nat.le_trans h₂ h₁⟩

def fail (e : SyntaxError) : Parser α :=
  fun _ _ => .error e

def lift (x : Except SyntaxError α) : Parser α :=
  fun _ ts => x.map fun a => ⟨(a, ts), Nat.le_refl _⟩

/-- The next token, if there is one, which stays. Raises the fault at the end of the tokens. -/
def peek? : Parser (Option Token) :=
  fun fault ts => match ts, fault with
    | [], some e => .error e
    | ts, _ => .ok ⟨(ts.head?, ts), Nat.le_refl _⟩

def next : Parser Token :=
  fun fault ts => match ts with
    | [] => .error (fault.getD .unexpectedEnd)
    | t :: rest => .ok ⟨(t, rest), Nat.le_succ _⟩

/-- Takes the next token where it satisfies a condition. At the end of the tokens nothing is taken
and no fault is raised. -/
def takeIf? (p : Token → Bool) : Parser (Option Token) :=
  fun _ ts => match ts with
    | [] => .ok ⟨(none, []), Nat.le_refl _⟩
    | t :: rest =>
      if p t then .ok ⟨(some t, rest), Nat.le_succ _⟩
      else .ok ⟨(none, t :: rest), Nat.le_refl _⟩

def accept (t : Token) : Parser Bool := do
  return (← takeIf? (· == t)).isSome

def expect (want : Token) : Parser Unit := do
  let got ← next
  if got = want then pure () else fail (.expectedToken want got)

def name : Parser String := do
  match ← next with
  | .ident s => pure s
  | got => fail (.expectedName got)

/-! ## Repetition -/

def moreItems (item : Parser α) (fault : Option SyntaxError) (ts : List Token) :
    Parsed (List α) ts :=
  match ts with
  | .comma :: rest => do
    let ⟨(a, r₁), h₁⟩ ← item fault rest
    have : r₁.length < (Token.comma :: rest).length := Nat.lt_succ_of_le h₁
    let ⟨(as, r₂), h₂⟩ ← moreItems item fault r₁
    return ⟨(a :: as, r₂), Nat.le_trans h₂ (Nat.le_succ_of_le h₁)⟩
  | ts => .ok ⟨([], ts), Nat.le_refl _⟩
termination_by ts.length
decreasing_by assumption

def items (item : Parser α) : Parser (List α) := do
  let a ← item
  let as ← moreItems item
  return a :: as

def itemsToClose (item : Parser α) (fault : Option SyntaxError) (ts : List Token) :
    Parsed (List α) ts := do
  let ⟨(a, r₁), h₁⟩ ← item fault ts
  match r₁, h₁ with
  | .closeParen :: r₂, h₁ => return ⟨([a], r₂), Nat.le_of_succ_le h₁⟩
  | .comma :: r₂, h₁ =>
    have : r₂.length < ts.length := h₁
    let ⟨(as, r₃), h₃⟩ ← itemsToClose item fault r₂
    return ⟨(a :: as, r₃), Nat.le_trans h₃ (Nat.le_of_succ_le h₁)⟩
  | t :: _, _ => .error (.unexpectedToken t)
  | [], _ => .error (fault.getD .unexpectedEnd)
termination_by ts.length
decreasing_by assumption

def names (fault : Option SyntaxError) (ts : List Token) : Parsed (List String) ts :=
  match ts with
  | .ident s :: rest => do
    let ⟨(more, r), h⟩ ← names fault rest
    return ⟨(s :: more, r), Nat.le_succ_of_le h⟩
  | ts => .ok ⟨([], ts), Nat.le_refl _⟩

def dottedNames (fault : Option SyntaxError) (ts : List Token) : Parsed (List String) ts :=
  match ts with
  | .period :: rest => do
    let ⟨(s, r₁), h₁⟩ ← name fault rest
    have : r₁.length < (Token.period :: rest).length := Nat.lt_succ_of_le h₁
    let ⟨(more, r₂), h₂⟩ ← dottedNames fault r₁
    return ⟨(s :: more, r₂), Nat.le_trans h₂ (Nat.le_succ_of_le h₁)⟩
  | ts => .ok ⟨([], ts), Nat.le_refl _⟩
termination_by ts.length
decreasing_by assumption

def tableName : Parser String := do
  let first ← name
  let more ← dottedNames
  return ".".intercalate (first :: more)

end Parser

end SqlStore.Sql
