import SqlStore.Answer
import SqlStore.Query.Grouping
import SqlStore.Sql.Token
import SqlStore.Storage.Basic

namespace SqlStore

open Query (GroupingFault)
open Sql (ColumnRef Expr SyntaxError)

inductive ErrorKind where
  | parse
  | invalidIdentifier
  | schemaNotFound
  | tableExists
  | columnNotFound
  | unsupportedType
  | unsupportedStatement
  | unsupportedOrdering
  | invalidLimit
  | typeMismatch
  | internal
deriving Repr, DecidableEq

inductive Error where
  | malformed (e : SyntaxError)
  | badTableName (name : String)
  | unknownTable (table : TableName)
  | existingTable (table : TableName)
  | unknownColumn (table column : String)
  | unknownType (typeName : String)
  | notLiteral (e : Expr)
  | noTables
  | deleteFrom (tables : List String)
  | notSelectable (e : Expr)
  | notSortable (e : Expr)
  | notSelected (key : ColumnRef)
  | badLimit (e : Expr)
  | limitArguments (count : Nat)
  | refused (v : Value) (c : Column)
  | notAssignable (v : Value) (c : Column)
  | badTable (table : String) (fault : TableFault)
  | tooManyValues (values columns : Nat) (table : String)
  | columnCount (columns values : Nat)
  | corruptSchema (table : TableName)
  | corruptRows (table : TableName)
  | notGrouped (fault : GroupingFault)
  | notRows (c : Change)
  | storage (fault : StorageFault)
deriving DecidableEq

def TableFault.message (table : String) : TableFault → String
  | .noColumns => "table " ++ table ++ " has no columns"
  | .duplicateColumn c => "duplicate column " ++ c ++ " in table " ++ table
  | .misplacedColumn c index expected => "column " ++ c ++ " of table " ++ table ++ " has index "
      ++ Decimal.intText index.toNat ++ ", expected " ++ Decimal.intText expected

namespace Error

def kind : Error → ErrorKind
  | .malformed (.unknownStatement _) => .unsupportedStatement
  | .malformed _ | .notLiteral _ | .noTables => .parse
  | .badTableName _ => .invalidIdentifier
  | .unknownTable _ => .schemaNotFound
  | .existingTable _ => .tableExists
  | .unknownColumn _ _ => .columnNotFound
  | .unknownType _ => .unsupportedType
  | .deleteFrom _ | .notSelectable _ => .unsupportedStatement
  | .notSortable _ | .notSelected _ => .unsupportedOrdering
  | .badLimit _ | .limitArguments _ => .invalidLimit
  | .refused _ _ | .notAssignable _ _ | .notGrouped (.notSummable _ _) => .typeMismatch
  | .badTable _ _ | .tooManyValues _ _ _ | .columnCount _ _ | .corruptSchema _ | .corruptRows _
  | .notGrouped (.notAggregate _) | .notRows _ | .storage _ => .internal

def detail : Error → String
  | .malformed e => e.message
  | .badTableName name => name
  | .unknownTable table | .existingTable table => table.text
  | .unknownColumn table column => table ++ "." ++ column
  | .unknownType typeName => typeName
  | .notLiteral e => "expected a literal, got " ++ e.detail
  | .noTables => "SELECT without FROM"
  | .deleteFrom tables => "DELETE FROM " ++ ", ".intercalate tables
  | .notSelectable e => "select expression " ++ e.detail
  | .notSortable e => e.detail
  | .notSelected key => key.text ++ " is not in the select list"
  | .badLimit e => e.detail
  | .limitArguments count =>
    "expected offset and count, got " ++ Decimal.intText count ++ " arguments"
  | .refused v c =>
    "value " ++ v.display ++ " can not be stored in " ++ c.kind.name ++ " column " ++ c.name
  | .notAssignable v c =>
    "can not assign " ++ v.display ++ " to " ++ c.kind.name ++ " column " ++ c.name
  | .badTable table fault => fault.message table
  | .tooManyValues values columns table => Decimal.intText values ++ " values for "
      ++ Decimal.intText columns ++ " columns of table " ++ table
  | .columnCount columns values =>
    Decimal.intText columns ++ " columns but " ++ Decimal.intText values ++ " values"
  | .corruptSchema table => "corrupt schema for table " ++ table.text
  | .corruptRows table => "corrupt rows for table " ++ table.text
  | .notGrouped (.notAggregate e) => "can not aggregate " ++ e.detail
  | .notGrouped (.notSummable v c) => "can not sum " ++ v.display ++ " of column " ++ c.text
  | .notRows c => "unexpected result set " ++ c.detail
  | .storage fault => fault.message

end Error

def ErrorKind.wrap (detail : String) : ErrorKind → String
  | .parse => "parse error " ++ detail
  | .invalidIdentifier => "invalid table name " ++ detail
  | .schemaNotFound => "table " ++ detail ++ " does not exist"
  | .tableExists => "table " ++ detail ++ " already exists"
  | .columnNotFound => "column " ++ detail ++ " not found"
  | .unsupportedType => "unsupported type " ++ detail
  | .unsupportedStatement => "unsupported statement " ++ detail
  | .unsupportedOrdering => "unsupported ordering " ++ detail
  | .invalidLimit => "invalid limit " ++ detail
  | .typeMismatch => "type mismatch " ++ detail
  | .internal => "internal error " ++ detail

def Error.message (e : Error) : String :=
  e.kind.wrap e.detail

end SqlStore
