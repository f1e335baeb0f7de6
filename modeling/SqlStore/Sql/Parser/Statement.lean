import SqlStore.Sql.Parser.Expr
import SqlStore.Sql.TokenStream

namespace SqlStore.Sql.Parser

/-! ## Tables -/

def typeArgument : Parser UInt64 := do
  match ← next with
  | .number text => lift ((Decimal.readUInt64 text.toList).mapError .badInteger)
  | got => fail (.expectedTypeArgument got)

def columnDecl : Parser ColumnDecl := do
  let column ← name
  let word ← name
  let words ← names
  let args ← if ← accept .openParen then itemsToClose typeArgument else pure []
  return ⟨column, " ".intercalate (word :: words), args⟩

def createTable : Parser Statement := do
  expect (.keyword .create)
  expect (.keyword .table)
  let table ← tableName
  expect .openParen
  let columns ← items columnDecl
  expect .closeParen
  return .createTable table columns

def dropTable : Parser Statement := do
  expect (.keyword .drop)
  expect (.keyword .table)
  let ifExists ← accept (.keyword .if)
  if ifExists then expect (.keyword .exists)
  return .dropTable (← tableName) ifExists

/-! ## Clauses -/

def alias? : Parser (Option String) := do
  if ← accept (.keyword .as) then return some (← name)
  match ← takeIf? (· matches .ident _) with
  | some (.ident s) => return some s
  | _ => return none

def aggregate (f : String) : Parser Aggregate :=
  match Aggregate.ofName? f with
  | some g => pure g
  | none => fail (.unknownFunction f)

def selectExpr : Parser Expr := do
  let first ← name
  if ← accept .openParen then
    let f ← aggregate first
    if ← accept .asterisk then
      if f ≠ .count then fail (.unsupportedStar f)
      expect .closeParen
      return .call f none
    else
      let c ← columnRef
      expect .closeParen
      return .call f (some c)
  else return .column (← columnRefFrom first)

def selectItem : Parser SelectItem := do
  return (← selectExpr, ← alias?)

def conditionAfter? (k : Keyword) : Parser (Option Expr) := do
  if ← accept (.keyword k) then return some (← condition) else return none

def joinKind? : Token → Option JoinKind
  | .comma | .keyword .join | .keyword .inner | .keyword .cross => some .inner
  | .keyword .left => some .left
  | .keyword .right => some .right
  | .keyword .full => some .full
  | _ => none

def joinWords : Token → Parser Unit
  | .comma | .keyword .join => pure ()
  | .keyword .left | .keyword .right | .keyword .full => do
    discard <| accept (.keyword .outer)
    expect (.keyword .join)
  | _ => expect (.keyword .join)

def joinedTable (start : Token) (kind : JoinKind) : Parser FromItem := do
  joinWords start
  let table ← tableName
  let a ← alias?
  let on? ←
    if start = .comma ∨ start = .keyword .cross then pure none else conditionAfter? .on
  return ⟨table, a, some ⟨kind, on?⟩⟩

def moreTables (fault : Option SyntaxError) (ts : List Token) : Parsed (List FromItem) ts :=
  match ts with
  | [] => match fault with
    | some e => .error e
    | none => .ok ⟨([], []), Nat.le_refl _⟩
  | t :: rest => match joinKind? t with
    | none => .ok ⟨([], t :: rest), Nat.le_refl _⟩
    | some kind => do
      let ⟨(item, r₁), h₁⟩ ← joinedTable t kind fault rest
      have : r₁.length < (t :: rest).length := Nat.lt_succ_of_le h₁
      let ⟨(more, r₂), h₂⟩ ← moreTables fault r₁
      return ⟨(item :: more, r₂), Nat.le_trans h₂ (Nat.le_succ_of_le h₁)⟩
termination_by ts.length
decreasing_by assumption

def fromTables : Parser (List FromItem) := do
  let table ← tableName
  let a ← alias?
  let more ← moreTables
  return ⟨table, a, none⟩ :: more

def sortKey : Parser (Expr × Direction) := do
  let e ← selectExpr
  if ← accept (.keyword .desc) then return (e, .desc)
  discard <| accept (.keyword .asc)
  return (e, .asc)

def limit? : Parser (Option (List Expr)) := do
  if !(← accept (.keyword .limit)) then return none
  let first ← literal
  if ← accept .comma then return some [first, ← literal]
  if ← accept (.keyword .offset) then return some [← literal, first]
  return some [.literal (.int 0), first]

def itemsBy {α : Type} (k : Keyword) (item : Parser α) : Parser (List α) := do
  if ← accept (.keyword k) then
    expect (.keyword .by)
    items item
  else return []

def select : Parser Statement := do
  expect (.keyword .select)
  let list ← if ← accept .asterisk then pure [] else items selectItem
  expect (.keyword .from)
  let tables ← fromTables
  let where? ← conditionAfter? .where
  let groupBy ← itemsBy .group columnRef
  let orderBy ← itemsBy .order sortKey
  let limit? ← limit?
  return .select { items := list, tables, where?, groupBy, orderBy, limit? }

/-! ## Changing rows -/

def valueRow : Parser (List Expr) := do
  expect .openParen
  itemsToClose literal

def insert : Parser Statement := do
  expect (.keyword .insert)
  expect (.keyword .into)
  let table ← tableName
  let columns? ←
    if ← accept .openParen then some <$> (itemsToClose name : Parser _) else pure none
  expect (.keyword .values)
  return .insert table columns? (← items valueRow)

def assignment (done : Dict Expr) : Parser (Dict Expr) := do
  let column ← name
  expect .equal
  let value ← literal
  if done.contains column then fail (.duplicateAssignment column)
  else return done.insert column value

def moreAssignments (done : Dict Expr) (fault : Option SyntaxError) (ts : List Token) :
    Parsed (Dict Expr) ts :=
  match ts with
  | .comma :: rest => do
    let ⟨(d, r₁), h₁⟩ ← assignment done fault rest
    have : r₁.length < (Token.comma :: rest).length := Nat.lt_succ_of_le h₁
    let ⟨(all, r₂), h₂⟩ ← moreAssignments d fault r₁
    return ⟨(all, r₂), Nat.le_trans h₂ (Nat.le_succ_of_le h₁)⟩
  | ts => .ok ⟨(done, ts), Nat.le_refl _⟩
termination_by ts.length
decreasing_by assumption

def update : Parser Statement := do
  expect (.keyword .update)
  let table ← tableName
  expect (.keyword .set)
  let first ← assignment .empty
  let all ← moreAssignments first
  return .update table all (← conditionAfter? .where)

def delete : Parser Statement := do
  expect (.keyword .delete)
  expect (.keyword .from)
  return .delete (← fromTables) (← conditionAfter? .where)

/-! ## Whole statements -/

def statement : Parser Statement := do
  match ← peek? with
  | some (.keyword .create) => createTable
  | some (.keyword .drop) => dropTable
  | some (.keyword .select) => select
  | some (.keyword .insert) => insert
  | some (.keyword .update) => update
  | some (.keyword .delete) => delete
  | some (.ident verb) => fail (.unknownStatement (Text.upper verb))
  | some t => fail (.unexpectedToken t)
  | none => fail .unexpectedEnd

def wholeStatement : Parser Statement := do
  let s ← statement
  discard <| accept .semicolon
  match ← peek? with
  | some t => fail (.unexpectedToken t)
  | none => return s

end SqlStore.Sql.Parser

namespace SqlStore.Sql

/-- Parses all tokens of a text, and raises the fault that the text has after them where the parser
reads that far. -/
def TokenStream.parse {α : Type} (p : Parser α) (s : TokenStream) : Except SyntaxError α :=
  (p s.fault s.tokens).map fun r => r.1.1

def Statement.parse (text : String) : Except SyntaxError Statement :=
  (TokenStream.scan text.toList).parse Parser.wholeStatement

end SqlStore.Sql
