import SqlStore.Sql.Syntax

namespace SqlStore.Sql

open Decimal (IntegerFault)

inductive Keyword where
  | create | drop | table | «if» | exists
  | select | «from» | «where» | insert | into | values | update | set | delete | as
  | join | inner | left | right | full | outer | cross | on
  | group | order | «by» | asc | desc | limit | offset
  | and | or | not | is | like
  | true | false | null
deriving Repr, DecidableEq

def Keyword.text : Keyword → String
  | .create => "CREATE" | .drop => "DROP" | .table => "TABLE" | .if => "IF" | .exists => "EXISTS"
  | .select => "SELECT" | .from => "FROM" | .where => "WHERE" | .insert => "INSERT"
  | .into => "INTO" | .values => "VALUES" | .update => "UPDATE" | .set => "SET"
  | .delete => "DELETE" | .as => "AS"
  | .join => "JOIN" | .inner => "INNER" | .left => "LEFT" | .right => "RIGHT" | .full => "FULL"
  | .outer => "OUTER" | .cross => "CROSS" | .on => "ON"
  | .group => "GROUP" | .order => "ORDER" | .by => "BY" | .asc => "ASC" | .desc => "DESC"
  | .limit => "LIMIT" | .offset => "OFFSET"
  | .and => "AND" | .or => "OR" | .not => "NOT" | .is => "IS" | .like => "LIKE"
  | .true => "TRUE" | .false => "FALSE" | .null => "NULL"

def Keyword.all : List Keyword := [
  .create, .drop, .table, .if, .exists,
  .select, .from, .where, .insert, .into, .values, .update, .set, .delete, .as,
  .join, .inner, .left, .right, .full, .outer, .cross, .on,
  .group, .order, .by, .asc, .desc, .limit, .offset,
  .and, .or, .not, .is, .like,
  .true, .false, .null]

def Keyword.ofWord? (word : String) : Option Keyword :=
  let w := Text.upper word
  Keyword.all.find? fun k => k.text == w

inductive Token where
  | keyword (k : Keyword)
  | ident (name : String)
  | string (text : String)
  | number (text : String)
  | openParen
  | closeParen
  | comma
  | semicolon
  | period
  | asterisk
  | minus
  | equal
  | notEqual
  | less
  | lessOrEqual
  | greater
  | greaterOrEqual
deriving Repr, DecidableEq

def Token.text : Token → String
  | .keyword k => k.text
  | .ident name => name
  | .string text => text
  | .number text => text
  | .openParen => "("
  | .closeParen => ")"
  | .comma => ","
  | .semicolon => ";"
  | .period => "."
  | .asterisk => "*"
  | .minus => "-"
  | .equal => "="
  | .notEqual => "!="
  | .less => "<"
  | .lessOrEqual => "<="
  | .greater => ">"
  | .greaterOrEqual => ">="

/-! ## Syntax errors -/

inductive SyntaxError where
  | unexpectedChar (c : Char)
  | unclosedString
  | unclosedName
  | loneExclamation
  | unexpectedToken (t : Token)
  | unexpectedEnd
  | expectedName (got : Token)
  | expectedToken (want got : Token)
  | expectedOperand (got : Token)
  | expectedNumber (got : Token)
  | expectedTypeArgument (got : Token)
  | unknownFunction (name : String)
  | unsupportedStar (f : Aggregate)
  | duplicateAssignment (column : String)
  | badInteger (fault : IntegerFault)
  | unknownStatement (verb : String)
deriving Repr, DecidableEq

def SyntaxError.message : SyntaxError → String
  | .unexpectedChar c => "[Lexer] Unexpected character " ++ String.singleton c
  | .unclosedString => "[Lexer] Unexpected end of string"
  | .unclosedName => "[Lexer] Unexpected end of identifier"
  | .loneExclamation => "[Lexer] Expected = after !"
  | .unexpectedToken t => "[Parser] Unexpected token " ++ t.text
  | .unexpectedEnd => "[Parser] Unexpected end of input"
  | .expectedName got => "[Parser] Expected ident, got token " ++ got.text
  | .expectedToken want got =>
    "[Parser] Expected token " ++ want.text ++ ", got " ++ got.text
  | .expectedOperand got => "[Parser] Unexpected expression token " ++ got.text
  | .expectedNumber got => "[Parser] Expected number after -, got " ++ got.text
  | .expectedTypeArgument got => "[Parser] Expected type argument, got " ++ got.text
  | .unknownFunction name => "[Parser] Unsupported function " ++ name
  | .unsupportedStar f => "[Parser] " ++ f.text ++ "(*) is not supported"
  | .duplicateAssignment column => "[Parser] Duplicate column " ++ column ++ " for update"
  | .badInteger fault => fault.message
  | .unknownStatement verb => verb

end SqlStore.Sql
