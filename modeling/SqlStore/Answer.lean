import SqlStore.Query.Relation
import SqlStore.Value.Basic

namespace SqlStore

open Query (Relation)

inductive Change where
  | created (table : TableName)
  | dropped (table : TableName)
  | inserted (count : Nat)
  | updated (count : Nat)
  | deleted (count : Nat)
deriving Repr, DecidableEq

inductive Answer where
  | changed (c : Change)
  | rows (r : Relation)
deriving DecidableEq

namespace Change

def detail : Change → String
  | .created table => "CreateTable \x7b table_name: " ++ Text.quoted table.text ++ " \x7d"
  | .dropped table => "DropTable \x7b table_name: " ++ Text.quoted table.text ++ " \x7d"
  | .inserted n => "Insert \x7b count: " ++ Decimal.intText n ++ " \x7d"
  | .updated n => "Update \x7b count: " ++ Decimal.intText n ++ " \x7d"
  | .deleted n => "Delete \x7b count: " ++ Decimal.intText n ++ " \x7d"

def toJson : Change → Json
  | .created table => ofTable "create_table" table
  | .dropped table => ofTable "drop_table" table
  | .inserted n => ofCount "insert" n
  | .updated n => ofCount "update" n
  | .deleted n => ofCount "delete" n
where
  ofTable (verb : String) (table : TableName) : Json :=
    .ofMembers [(verb, .ofMembers [("table_name", .ofString table.text)])]
  ofCount (verb : String) (n : Nat) : Json :=
    .ofMembers [(verb, .ofMembers [("count", .ofInt n)])]

end Change

def Record.toJson (r : Record) : Json :=
  .ofMembers (r.map Value.toJson).entries

def columnsJson (columns : List String) : Json :=
  .array (columns.map Json.ofString)

namespace Answer

def toJson : Answer → Json
  | .changed c => c.toJson
  | .rows r => .ofMembers [("scan", .ofMembers [
      ("columns", columnsJson r.columns), ("rows", .array (r.rows.map Record.toJson))])]

def line : Answer → String
  | .changed c => c.toJson.text
  | .rows r => (Json.ofMembers [("columns", columnsJson r.columns),
      ("rows", .array (r.table.map fun row => .array (row.map Value.toJson)))]).text

end Answer

end SqlStore
