import SqlStore.Sql.Parser.Statement

/-!
# Printing statements

A statement is printed as a list of lexemes, and these are spelled out. Names are quoted, quotes in
strings are doubled, and parentheses stand only where the operators of a condition need them: `OR`
binds loosest, then `AND`, both from the left, then comparisons, which do not chain.
-/

namespace SqlStore.Sql

/-! ## Lexemes -/

inductive Lexeme where
  | keyword (k : Keyword)
  | function (f : Aggregate)
  | name (s : String)
  | string (s : String)
  | digits (n : Nat)
  | float (x : Float)
  | openParen
  | closeParen
  | comma
  | period
  | asterisk
  | minus
  | equal
  | notEqual
  | less
  | lessOrEqual
  | greater
  | greaterOrEqual

namespace Lexeme

def token : Lexeme → Token
  | keyword k => .keyword k
  | function f => .ident f.text
  | name s => .ident s
  | string s => .string s
  | digits n => .number (String.ofList (Nat.toDigits 10 n))
  | float x => .number (detailLayout.text x)
  | openParen => .openParen
  | closeParen => .closeParen
  | comma => .comma
  | period => .period
  | asterisk => .asterisk
  | minus => .minus
  | equal => .equal
  | notEqual => .notEqual
  | less => .less
  | lessOrEqual => .lessOrEqual
  | greater => .greater
  | greaterOrEqual => .greaterOrEqual

def quotedName (s : String) : List Char :=
  let quote := if '\x22' ∈ s.toList then '\x60' else '\x22'
  quote :: s.toList ++ [quote]

def doubled (cs : List Char) : List Char :=
  cs.flatMap fun c => if c = '\x27' then ['\x27', '\x27'] else [c]

def quotedString (s : String) : List Char :=
  '\x27' :: doubled s.toList ++ ['\x27']

def text : Lexeme → List Char
  | function f => f.text.toList
  | name s => quotedName s
  | string s => quotedString s
  | x => x.token.text.toList

def touches : Lexeme → Lexeme → Bool
  | openParen, _ | period, _ | minus, _ => true
  | _, closeParen | _, comma => true
  | name _, period | function _, openParen => true
  | _, _ => false

def gap (x : Lexeme) : List Lexeme → List Char
  | [] => []
  | y :: _ => if x.touches y then [] else [' ']

/-- A lexeme that can be read back: no binary64 number, and no name with both kinds of quotes. -/
def isPlain : Lexeme → Bool
  | name s => !('\x22' ∈ s.toList && '\x60' ∈ s.toList)
  | float _ => false
  | _ => true

end Lexeme

def spelled : List Lexeme → List Char
  | [] => []
  | x :: xs => x.text ++ x.gap xs ++ spelled xs

def written (xs : List Lexeme) (rest : List Token) : List Token :=
  xs.foldr (fun x ts => x.token :: ts) rest

theorem written_append (xs ys : List Lexeme) (rest : List Token) :
    written (xs ++ ys) rest = written xs (written ys rest) :=
  List.foldr_append

theorem le_length_written (xs : List Lexeme) (rest : List Token) :
    rest.length ≤ (written xs rest).length := by
  induction xs with
  | nil => exact Nat.le_refl _
  | cons x xs ih => exact Nat.le_succ_of_le ih

def listed {α : Type} (f : α → List Lexeme) : List α → List Lexeme
  | [] => []
  | a :: as => f a ++ as.flatMap fun b => .comma :: f b

theorem mem_listed {α : Type} {f : α → List Lexeme} {as : List α} {a : α} {x : Lexeme}
    (mem : a ∈ as) (mem' : x ∈ f a) : x ∈ listed f as := by
  cases as with
  | nil => cases mem
  | cons b bs =>
      rcases List.mem_cons.1 mem with rfl | mem
      · exact List.mem_append_left _ mem'
      · exact List.mem_append_right _
          (List.mem_flatMap.2 ⟨a, mem, List.mem_cons_of_mem _ mem'⟩)

def enclosed (xs : List Lexeme) : List Lexeme :=
  .openParen :: xs ++ [.closeParen]

theorem written_enclosed (xs : List Lexeme) (rest : List Token) :
    written (enclosed xs) rest = .openParen :: written xs (.closeParen :: rest) := by
  rw [enclosed, written_append]
  rfl

/-! ## Expressions -/

def ColumnRef.lexemes (c : ColumnRef) : List Lexeme :=
  match c.table? with
  | some t => [.name t, .period, .name c.name]
  | none => [.name c.name]

def Literal.lexemes : Literal → List Lexeme
  | .null => [.keyword .null]
  | .bool true => [.keyword .true]
  | .bool false => [.keyword .false]
  | .int i => (if i.toInt < 0 then [.minus] else []) ++ [.digits i.toInt.natAbs]
  | .float x => [.float x]
  | .text s => [.string s]

namespace BinaryOp

def lexemes : BinaryOp → List Lexeme
  | equal => [.equal]
  | notEqual => [.notEqual]
  | less => [.less]
  | lessOrEqual => [.lessOrEqual]
  | greater => [.greater]
  | greaterOrEqual => [.greaterOrEqual]
  | and => [.keyword .and]
  | or => [.keyword .or]
  | is => [.keyword .is]
  | isNot => [.keyword .is, .keyword .not]
  | like => [.keyword .like]
  | notLike => [.keyword .not, .keyword .like]

/-- How tight an operator binds: `OR` at 0, `AND` at 1, comparisons at 2. -/
def level : BinaryOp → Nat
  | or => 0
  | and => 1
  | _ => 2

def leftLevel (op : BinaryOp) : Nat :=
  if op.level < 2 then op.level else 3

def rightLevel (op : BinaryOp) : Nat :=
  op.level + 1

end BinaryOp

/-- An expression where only operators of a level can stand without parentheses. -/
def Expr.lexemes : Expr → Nat → List Lexeme
  | .column c, _ => c.lexemes
  | .literal l, _ => l.lexemes
  | .call f arg, _ =>
    .function f :: enclosed (match arg with
      | some c => c.lexemes
      | none => [.asterisk])
  | .binary op l r, level =>
    let inner := l.lexemes op.leftLevel ++ op.lexemes ++ r.lexemes op.rightLevel
    if op.level < level then enclosed inner else inner

/-! ## Statements -/

def ColumnDecl.lexemes (d : ColumnDecl) : List Lexeme :=
  .name d.name :: .name d.typeName ::
    if d.args.isEmpty then [] else enclosed (listed (fun n => [.digits n.toNat]) d.args)

def aliasLexemes : Option String → List Lexeme
  | some a => [.keyword .as, .name a]
  | none => []

def itemLexemes (item : SelectItem) : List Lexeme :=
  item.1.lexemes 0 ++ aliasLexemes item.2

def conditionLexemes (k : Keyword) : Option Expr → List Lexeme
  | some e => .keyword k :: e.lexemes 0
  | none => []

def JoinKind.lexemes : JoinKind → List Lexeme
  | inner => [.keyword .join]
  | left => [.keyword .left, .keyword .join]
  | right => [.keyword .right, .keyword .join]
  | full => [.keyword .full, .keyword .join]

def FromItem.lexemes (t : FromItem) : List Lexeme :=
  match t.join? with
  | some j => j.kind.lexemes ++ .name t.name :: aliasLexemes t.alias? ++ conditionLexemes .on j.on?
  | none => .name t.name :: aliasLexemes t.alias?

def byLexemes {α : Type} (k : Keyword) (f : α → List Lexeme) (as : List α) : List Lexeme :=
  if as.isEmpty then [] else .keyword k :: .keyword .by :: listed f as

def Direction.lexemes : Direction → List Lexeme
  | asc => [.keyword .asc]
  | desc => [.keyword .desc]

def keyLexemes (key : Expr × Direction) : List Lexeme :=
  key.1.lexemes 0 ++ key.2.lexemes

def limitLexemes : Option (List Expr) → List Lexeme
  | some arguments => .keyword .limit :: listed (·.lexemes 0) arguments
  | none => []

def Select.clauses (s : Select) : List Lexeme :=
  .keyword .from :: s.tables.flatMap FromItem.lexemes ++
    conditionLexemes .where s.where? ++
    byLexemes .group ColumnRef.lexemes s.groupBy ++
    byLexemes .order keyLexemes s.orderBy ++
    limitLexemes s.limit?

def Select.lexemes (s : Select) : List Lexeme :=
  .keyword .select ::
    (if s.items.isEmpty then [.asterisk] else listed itemLexemes s.items) ++ s.clauses

def Statement.lexemes : Statement → List Lexeme
  | .createTable table columns =>
    [.keyword .create, .keyword .table, .name table] ++ enclosed (listed ColumnDecl.lexemes columns)
  | .dropTable table ifExists =>
    [.keyword .drop, .keyword .table] ++
      (if ifExists then [.keyword .if, .keyword .exists] else []) ++ [.name table]
  | .insert table columns? rows =>
    [.keyword .insert, .keyword .into, .name table] ++
      (match columns? with
        | some columns => enclosed (listed (fun c => [.name c]) columns)
        | none => []) ++
      .keyword .values :: listed (fun row => enclosed (listed (·.lexemes 0) row)) rows
  | .select s => s.lexemes
  | .update table assignments where? =>
    [.keyword .update, .name table, .keyword .set] ++
      listed (fun a => .name a.1 :: .equal :: a.2.lexemes 0) assignments.entries ++
      conditionLexemes .where where?
  | .delete tables where? =>
    [.keyword .delete, .keyword .from] ++ tables.flatMap FromItem.lexemes ++
      conditionLexemes .where where?

def Statement.print (s : Statement) : String :=
  String.ofList (spelled s.lexemes)

def Statement.Plain (s : Statement) : Prop :=
  ∀ x ∈ s.lexemes, x.isPlain

end SqlStore.Sql
