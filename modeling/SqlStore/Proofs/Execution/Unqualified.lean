import SqlStore.Proofs.Execution.SameRows

/-!
# References without a table

Joined rows have their values under qualified names, which are texts. A reference without a table
takes the part of such a text after its last dot for the name of the column. Where this is right
for the columns in question, it is to the first column of its name in the order of the tables.
-/

namespace SqlStore

open Query (Relation Scope addColumns)
open Sql (ColumnRef FromItem Select SelectItem Statement)

/-! ## The last part of a name -/

theorem Text.afterLast?_append (sep : Char) (xs ys : List Char) :
    afterLast? sep (xs ++ sep :: ys) = some ((afterLast? sep ys).getD ys) := by
  induction xs with
  | nil =>
      rw [List.nil_append, afterLast?]
      cases afterLast? sep ys with
      | none => exact if_pos rfl
      | some part => rfl
  | cons c xs ih => rw [List.cons_append, afterLast?, ih]

def lastPart (name : String) : String :=
  String.ofList ((Text.afterLast? '.' name.toList).getD name.toList)

theorem afterLast?_qualify (source column name : String) :
    (Text.afterLast? '.' (qualify (some source) column).toList == some name.toList) =
      (lastPart column == name) := by
  have parts : (qualify (some source) column).toList = source.toList ++ '.' :: column.toList := by
    rw [qualify, String.toList_append, String.toList_append, List.append_assoc]
    rfl
  rw [parts, Text.afterLast?_append, lastPart, Bool.eq_iff_iff, beq_iff_eq, beq_iff_eq,
    Option.some.injEq, ← String.toList_inj, String.toList_ofList]

/-! ## Joined rows -/

structure Source where
  name : String
  table : Table
  rows : List Row

namespace Source

def columnNames (src : Source) : List String :=
  src.table.columnNames (some src.name)

def recordOf (p : NumericPolicy) (src : Source) : Option Row → Record
  | some row => src.table.recordOf (some src.name) p row
  | none => .empty

theorem get?_recordOf_of_not_mem {src : Source} {key : String} (absent : key ∉ src.columnNames)
    (p : NumericPolicy) (row? : Option Row) : (src.recordOf p row?).get? key = none := by
  cases row? with
  | none => rfl
  | some row => exact Table.get?_recordOf_of_not_mem absent p row

end Source

def joinedColumns (sources : List Source) : List String :=
  addColumns [] (sources.flatMap Source.columnNames)

/-- The row that at most one row of each table makes. -/
def joinedRow (p : NumericPolicy) (picks : List (Source × Option Row)) : Record :=
  picks.foldl (fun record pick => record.union (pick.1.recordOf p pick.2)) .empty

/-- The value under a name in the first table that has a column of the name; NULL if none has. -/
def firstDeclared (p : NumericPolicy) (name : String) : List (Source × Option Row) → Value
  | [] => .null
  | (src, row?) :: picks => match src.table.column? name with
    | some column =>
      (row?.map fun row => column.decode p (row.getD column.index.toNat .null)).getD .null
    | none => firstDeclared p name picks

section Picks

variable (p : NumericPolicy)

theorem joinedRow_cons (src : Source) (row? : Option Row) (picks : List (Source × Option Row)) :
    joinedRow p ((src, row?) :: picks) = (src.recordOf p row?).union (joinedRow p picks) := by
  -- A fold that starts with some record only adds to it.
  have start (a : Record) :
      picks.foldl (fun record pick => record.union (pick.1.recordOf p pick.2)) a =
        a.union (joinedRow p picks) := by
    rw [joinedRow]
    induction picks generalizing a with
    | nil => exact (Dict.union_empty a).symm
    | cons pick picks ih =>
        rw [List.foldl_cons, List.foldl_cons, ih, ih (Dict.union _ _), Dict.empty_union,
          Dict.union_assoc]
  rw [joinedRow, List.foldl_cons, start, Dict.empty_union]

theorem joinedRow_append (picks picks' : List (Source × Option Row)) :
    joinedRow p (picks ++ picks') = (joinedRow p picks).union (joinedRow p picks') := by
  induction picks with
  | nil => exact (Dict.empty_union _).symm
  | cons pick picks ih =>
      rw [List.cons_append, joinedRow_cons, joinedRow_cons, ih, Dict.union_assoc]

theorem joinedRow_none (sources : List Source) :
    joinedRow p (sources.map fun src => (src, none)) = .empty := by
  induction sources with
  | nil => rfl
  | cons src sources ih =>
      rw [List.map_cons, joinedRow_cons, ih]
      rfl

theorem get?_joinedRow_of_not_mem {key : String} {picks : List (Source × Option Row)}
    (absent : ∀ pick ∈ picks, key ∉ pick.1.columnNames) : (joinedRow p picks).get? key = none := by
  induction picks with
  | nil => rfl
  | cons pick picks ih =>
      obtain ⟨first, rest⟩ := List.forall_mem_cons.1 absent
      rw [joinedRow_cons, Dict.get?_union, ih rest, Source.get?_recordOf_of_not_mem first,
        Option.none_or]

end Picks

def IsJoined (p : NumericPolicy) (sources : List Source) (record : Record) : Prop :=
  ∃ picks : List (Source × Option Row), picks.map Prod.fst = sources ∧
    (∀ pick ∈ picks, ∀ row ∈ pick.2, row ∈ pick.1.rows) ∧ record = joinedRow p picks

namespace IsJoined

variable {p : NumericPolicy} {sources sources' : List Source} {a b : Record}

theorem empty (p : NumericPolicy) (sources : List Source) : IsJoined p sources .empty := by
  refine ⟨sources.map fun src => (src, none), ?_, ?_, (joinedRow_none p sources).symm⟩
  · rw [List.map_map]
    exact List.map_id sources
  · refine List.forall_mem_map.2 fun src _ row none => ?_
    cases none

theorem union (left : IsJoined p sources a) (right : IsJoined p sources' b) :
    IsJoined p (sources ++ sources') (a.union b) := by
  obtain ⟨picks, rfl, stored, rfl⟩ := left
  obtain ⟨picks', rfl, stored', rfl⟩ := right
  exact ⟨picks ++ picks', List.map_append, List.forall_mem_append.2 ⟨stored, stored'⟩,
    (joinedRow_append p picks picks').symm⟩

end IsJoined

/-! ## Looking up -/

theorem Table.mem_of_column? {t : Table} {name : String} {column : Column}
    (found : t.column? name = some column) : column ∈ t.columns ∧ column.name = name :=
  ⟨List.mem_of_find?_eq_some found, by simpa using List.find?_some found⟩

/-- Whether a name is the last part of the columns of this name and of no others. -/
def Source.Plain (name : String) (src : Source) : Prop :=
  ∀ column ∈ src.table.columns, lastPart column.name = name ↔ column.name = name

instance (name : String) (src : Source) : Decidable (src.Plain name) :=
  inferInstanceAs (Decidable (∀ column ∈ src.table.columns, _ ↔ _))

def firstKey? (name : String) (sources : List Source) : Option String :=
  sources.findSome? fun src => (src.table.column? name).map fun _ => qualify (some src.name) name

section Resolving

variable {p : NumericPolicy} {name : String} {src : Source} {sources : List Source}

theorem find?_columnNames (plain : src.Plain name) :
    (src.columnNames.find? fun k => Text.afterLast? '.' k.toList == some name.toList) =
      (src.table.column? name).map fun _ => qualify (some src.name) name := by
  have same : src.table.columns.find? (fun column =>
      Text.afterLast? '.' (qualify (some src.name) column.name).toList == some name.toList) =
        src.table.column? name := by
    refine List.find?_congr fun column mem => ?_
    rw [afterLast?_qualify, Bool.eq_iff_iff, beq_iff_eq, beq_iff_eq]
    exact plain column mem
  rw [Source.columnNames, Table.columnNames, List.find?_map]
  refine (congrArg _ same).trans (Option.map_congr fun column found => ?_)
  rw [(Table.mem_of_column? found).2]

theorem key?_joinedColumns (plain : ∀ src ∈ sources, src.Plain name) :
    Scope.key? ⟨joinedColumns sources, true⟩ ⟨none, name⟩ = firstKey? name sources := by
  -- The first column of all is still the first once those that are repeated are left out.
  have first : Scope.key? ⟨joinedColumns sources, true⟩ ⟨none, name⟩ =
      (sources.flatMap Source.columnNames).find? fun k =>
        Text.afterLast? '.' k.toList == some name.toList := Query.find?_addColumns _ [] _
  rw [first]
  clear first
  induction sources with
  | nil => rfl
  | cons src sources ih =>
      obtain ⟨here, later⟩ := List.forall_mem_cons.1 plain
      rw [List.flatMap_cons, List.find?_append, find?_columnNames here, ih later, firstKey?,
        firstKey?, List.findSome?_cons]
      cases src.table.column? name with
      | none => rfl
      | some column => rfl

theorem get?_recordOf (placed : Table.Placed 0 src.table.columns) {column : Column}
    (found : src.table.column? name = some column) (row? : Option Row) :
    (src.recordOf p row?).get? (qualify (some src.name) name) =
      row?.map fun row => column.decode p (row.getD column.index.toNat .null) := by
  obtain ⟨mem, rfl⟩ := Table.mem_of_column? found
  cases row? with
  | none => rfl
  | some row => exact Table.get?_recordOf placed mem p row

theorem qualify_not_mem {other : Source} (apart : other.name ≠ src.name)
    (plain : other.Plain name) {column : Column} (found : other.table.column? name = some column)
    (plain' : src.Plain name) : qualify (some other.name) name ∉ src.columnNames := by
  obtain ⟨there, named⟩ := Table.mem_of_column? found
  have whole : lastPart name = name := named ▸ (plain column there).2 named
  intro mem
  -- Such a column would have the same last part, and so the same name, under the same source.
  obtain ⟨column, mem', same⟩ := List.mem_map.1 mem
  have last : lastPart column.name = name := by
    have parts := afterLast?_qualify src.name column.name name
    rw [same, afterLast?_qualify, whole, beq_self_eq_true] at parts
    exact beq_iff_eq.1 parts.symm
  rw [(plain' column mem').1 last, qualify, qualify, String.append_left_inj,
    String.append_left_inj] at same
  exact apart same.symm

theorem resolve_joinedRow (distinct : (sources.map Source.name).Nodup)
    (plain : ∀ src ∈ sources, src.Plain name)
    (placed : ∀ src ∈ sources, Table.Placed 0 src.table.columns)
    {picks : List (Source × Option Row)} (picked : picks.map Prod.fst = sources) :
    Scope.resolve ⟨joinedColumns sources, true⟩ ⟨none, name⟩ (joinedRow p picks) =
      firstDeclared p name picks := by
  rw [Scope.resolve, key?_joinedColumns plain]
  subst picked
  induction picks with
  | nil => rfl
  | cons pick picks ih =>
      obtain ⟨src, row?⟩ := pick
      rw [List.map_cons] at distinct plain placed ⊢
      rw [List.map_cons, List.nodup_cons] at distinct
      obtain ⟨plainHere, plainLater⟩ := List.forall_mem_cons.1 plain
      obtain ⟨placedHere, placedLater⟩ := List.forall_mem_cons.1 placed
      have apart : ∀ other ∈ picks.map Prod.fst, src.name ≠ other.name := fun other mem same =>
        distinct.1 (same ▸ List.mem_map_of_mem mem)
      rw [firstKey?, List.findSome?_cons, joinedRow_cons, firstDeclared]
      cases found : src.table.column? name with
      -- Rows of later tables would replace the value if they had one under the same key.
      | some column =>
          have later : (joinedRow p picks).get? (qualify (some src.name) name) = none := by
            refine get?_joinedRow_of_not_mem p fun pick mem => ?_
            have mem' : pick.1 ∈ picks.map Prod.fst := List.mem_map_of_mem mem
            exact qualify_not_mem (apart _ mem') plainHere found (plainLater _ mem')
          rw [Option.map_some, Option.bind_some, Dict.get?_union, later, Option.none_or,
            get?_recordOf placedHere found]
      | none =>
          rw [Option.map_none, ← ih distinct.2 plainLater placedLater, ← firstKey?]
          cases key : firstKey? name (picks.map Prod.fst) with
          | none => rfl
          | some k =>
              obtain ⟨other, mem, first⟩ := List.exists_of_findSome?_eq_some key
              obtain ⟨column, found', rfl⟩ := Option.map_eq_some_iff.1 first
              have earlier : qualify (some other.name) name ∉ src.columnNames :=
                qualify_not_mem (apart other mem).symm (plainLater other mem) found' plainHere
              rw [Option.bind_some, Option.bind_some, Dict.get?_union,
                Source.get?_recordOf_of_not_mem earlier, Option.or_none]

end Resolving

/-! ## The tables of a SELECT -/

structure JoinedFrom (p : NumericPolicy) (sources : List Source) (r : Relation) : Prop where
  columns : r.columns = joinedColumns sources
  rows : ∀ row ∈ r.rows, IsJoined p sources row

def Source.relation (p : NumericPolicy) (src : Source) : Relation :=
  ⟨src.columnNames, src.rows.map fun row => src.recordOf p (some row)⟩

namespace JoinedFrom

variable {p : NumericPolicy} {sources : List Source} {src : Source} {l : Relation}

theorem isJoined_recordOf {row : Row} (mem : row ∈ src.rows) :
    IsJoined p [src] (src.recordOf p (some row)) := by
  refine ⟨[(src, some row)], rfl, List.forall_mem_singleton.2 fun stored same => ?_, ?_⟩
  · cases same
    exact mem
  · exact (Dict.empty_union _).symm

theorem single (placed : Table.Placed 0 src.table.columns) :
    JoinedFrom p [src] (src.relation p) := by
  have distinct := placed.names.map (qualify_injective (some src.name))
  rw [List.map_map] at distinct
  refine ⟨?_, List.forall_mem_map.2 fun row mem => isJoined_recordOf mem⟩
  rw [joinedColumns, List.flatMap_singleton]
  exact (Query.addColumns_of_nodup distinct).symm

theorem join (left : JoinedFrom p sources l) (m : OrMode) (on? : Option Sql.Expr)
    (keepLeft keepRight : Bool) : JoinedFrom p (sources ++ [src])
      (Relation.join m on? keepLeft keepRight l (src.relation p)) := by
  have right : ∀ row ∈ (src.relation p).rows, IsJoined p [src] row :=
    List.forall_mem_map.2 fun row mem => isJoined_recordOf mem
  constructor
  · rw [joinedColumns, List.flatMap_append, List.flatMap_singleton, Query.addColumns_append]
    exact congrArg (addColumns · src.columnNames) left.columns
  · intro row mem
    rw [Relation.join_rows] at mem
    simp only [List.mem_append] at mem
    rcases mem with (pair | alone) | alone
    · obtain ⟨pair, mem, rfl⟩ := List.mem_map.1 pair
      obtain ⟨memL, memR⟩ := List.mem_product.1 (List.mem_filter.1 mem).1
      exact (left.rows _ memL).union (right _ memR)
    · split at alone
      · exact (left.rows row (List.mem_filter.1 alone).1).union (.empty p [src])
      · cases alone
    · split at alone
      · rw [← Dict.empty_union row]
        exact (IsJoined.empty p sources).union (right row (List.mem_filter.1 alone).1)
      · cases alone

theorem filter (joined : JoinedFrom p sources l) (m : OrMode) (qualified : Bool)
    (condition : Sql.Expr) : JoinedFrom p sources (l.filter m qualified condition) :=
  ⟨joined.columns, fun row mem => joined.rows row (List.mem_filter.1 mem).1⟩

end JoinedFrom

namespace Connection

def Finds (c : Connection) (view : View) (item : FromItem) (src : Source) : Prop :=
  ∃ n, TableName.read? item.name = some n ∧ src.name = item.alias?.getD n.table ∧
    c.table? view n = .ok (some src.table) ∧ c.rows view n = .ok src.rows

variable {c : Connection} {view : View}

theorem Finds.placed {item : FromItem} {src : Source} (found : c.Finds view item src) :
    Table.Placed 0 src.table.columns := by
  obtain ⟨n, -, -, table, -⟩ := found
  exact Connection.placed table

theorem Finds.relation {item : FromItem} {src : Source} (found : c.Finds view item src) :
    ∃ plan, Plan.ofTable true item = .ok plan ∧
      c.relation view plan = .ok (src.relation c.config.numericPolicy) := by
  obtain ⟨n, named, name, table, rows⟩ := found
  refine ⟨.scan n (some src.name), ?_, ?_⟩
  · rw [Plan.ofTable, TableName.read_eq_ok.2 named, name]
    rfl
  · rw [Connection.relation, scan, table_eq_ok.2 table, rows]
    rfl

theorem relation_joinTables {items : List FromItem} {more sources : List Source}
    (found : List.Forall₂ (c.Finds view) items more) {left : Plan} {l : Relation}
    (made : c.relation view left = .ok l) (joined : JoinedFrom c.config.numericPolicy sources l) :
    ∃ plan r, items.foldlM Plan.joinTable left = .ok plan ∧ c.relation view plan = .ok r ∧
      JoinedFrom c.config.numericPolicy (sources ++ more) r := by
  induction found generalizing sources left l with
  | nil => exact ⟨left, l, rfl, made, by rwa [List.append_nil]⟩
  | @cons item src items more first _ ih =>
      obtain ⟨right, scanned, read⟩ := first.relation
      have step : Plan.joinTable left item = .ok (.joined item.kind left right item.on?) := by
        rw [Plan.joinTable_eq, scanned]
        rfl
      have here : c.relation view (.joined item.kind left right item.on?) =
          .ok (.join c.config.orMode item.on? item.kind.keepsLeft item.kind.keepsRight l
            (src.relation c.config.numericPolicy)) := by
        rw [Plan.joined, Connection.relation, made, read]
        rfl
      obtain ⟨plan, r, folded, result, joined⟩ := ih here (joined.join _ _ _ _)
      refine ⟨plan, r, ?_, result, ?_⟩
      · rw [List.foldlM_cons, step]
        exact folded
      · rwa [List.append_assoc, List.singleton_append] at joined

theorem relation_ofTables {items : List FromItem} {sources : List Source}
    (found : List.Forall₂ (c.Finds view) items sources) (several : 1 < items.length) :
    ∃ plan r, Plan.ofTables items = .ok plan ∧ c.relation view plan = .ok r ∧
      JoinedFrom c.config.numericPolicy sources r := by
  cases found with
  | nil => cases several
  | @cons item src items sources first rest =>
      obtain ⟨start, scanned, read⟩ := first.relation
      obtain ⟨plan, r, folded, result, joined⟩ :=
        relation_joinTables rest read (.single first.placed)
      refine ⟨plan, r, ?_, result, joined⟩
      have more : items.isEmpty = false := by
        cases items with
        | nil => cases several with | step impossible => cases impossible
        | cons => rfl
      rw [Plan.ofTables, more, Bool.not_false, scanned]
      exact folded

theorem relation_filtered {plan : Plan} {r : Relation} {sources : List Source}
    (result : c.relation view plan = .ok r) (joined : JoinedFrom c.config.numericPolicy sources r)
    (s : Select) : ∃ rows, c.relation view (Plan.filtered s plan) = .ok rows ∧
      JoinedFrom c.config.numericPolicy sources rows := by
  rw [Plan.filtered]
  cases s.where? with
  | none => exact ⟨r, result, joined⟩
  | some condition =>
      let several := decide (1 < s.tables.length)
      refine ⟨_, ?_, joined.filter c.config.orMode several condition⟩
      rw [Connection.relation, result]
      rfl

theorem selected_column {s : Select} (several : 1 < s.tables.length) {column : ColumnRef}
    (listed : s.items = [(.column column, none)]) (unsorted : s.orderBy = [])
    (unlimited : s.limit? = none) {plan : Plan} {r : Relation}
    (planned : Plan.ofTables s.tables = .ok plan)
    (result : c.relation view (Plan.filtered s plan) = .ok r) :
    c.selected view s = .ok (r.project [(column, none)] true) := by
  have keys : s.orderBy.mapM Plan.sortColumn = .ok [] := by rw [unsorted]; rfl
  have plain : ∀ item ∈ s.items, Plan.isCall item = false := by
    rw [listed]
    exact List.forall_mem_singleton.2 rfl
  have items : s.items.mapM Plan.selectedColumn = .ok [(column, none)] := by rw [listed]; rfl
  rw [selected_projected plain (listed ▸ List.cons_ne_nil _ _) unlimited keys, planned, items,
    decide_eq_true several]
  change (c.relation view (Plan.filtered s plan)).mapError Failure.error >>= _ = _
  rw [result]
  exact congrArg (fun r : Relation => Except.ok (r.project [(column, none)] true))
    (Relation.order_nil true r)

theorem table_project_column (r : Relation) (column : ColumnRef) (qualified : Bool) :
    (r.project [(column, none)] qualified).table =
      r.rows.map fun row => [Scope.resolve ⟨r.columns, qualified⟩ column row] := by
  rw [Relation.table, Relation.project, List.map_map]
  refine List.map_congr_left fun row _ => ?_
  have shown (v : Value) : (Dict.ofList [(column.name, v)]).get? column.name = some v := by
    refine Dict.get?_ofList_of_mem ?_ (List.mem_singleton_self _)
    exact List.nodup_singleton column.name
  exact congrArg (fun v? => [v?.getD Value.null]) (shown _)

/-- Where several tables are joined, each under a name of its own, every row is made of at most one
row of each. A reference without a table is in it the value under that name in the first table that
has a column of the name, and NULL if none has. This is so for every name that is the last part of
the columns of this name and of no others. A `SELECT` of the name alone shows these values. -/
theorem runStatement_unqualified (c : Connection) (view : View) {tables : List FromItem}
    (where? : Option Sql.Expr) {sources : List Source} (several : 1 < tables.length)
    (found : List.Forall₂ (c.Finds view) tables sources)
    (distinct : (sources.map Source.name).Nodup) {name : String}
    (plain : ∀ src ∈ sources, src.Plain name) :
    let select (items : List SelectItem) : Statement :=
      .select ⟨items, tables, where?, [], [], none⟩
    ∃ r shown, c.runStatement view (select []) = ⟨[], .ok (.rows r)⟩ ∧
      (∀ row ∈ r.rows, IsJoined c.config.numericPolicy sources row) ∧
      (∀ picks : List (Source × Option Row), picks.map Prod.fst = sources →
        Scope.resolve ⟨r.columns, true⟩ ⟨none, name⟩ (joinedRow c.config.numericPolicy picks) =
          firstDeclared c.config.numericPolicy name picks) ∧
      c.runStatement view (select [(.column ⟨none, name⟩, none)]) = ⟨[], .ok (.rows shown)⟩ ∧
      shown.table = r.rows.map fun row => [Scope.resolve ⟨r.columns, true⟩ ⟨none, name⟩ row] := by
  intro select
  let s : Select := ⟨[(.column ⟨none, name⟩, none)], tables, where?, [], [], none⟩
  obtain ⟨plan, _, planned, result, joined⟩ := relation_ofTables found several
  obtain ⟨r, result, joined⟩ := relation_filtered result joined s
  have all : c.selected view { s with items := [], orderBy := [], limit? := none } = .ok r := by
    rw [selected_all, planned]
    change (c.relation view (Plan.filtered s plan)).mapError Failure.error = _
    rw [result]
    rfl
  have placed : ∀ src ∈ sources, Table.Placed 0 src.table.columns :=
    ((List.forall₂_and_left _ _).1 (found.flip.imp fun _ _ finds => ⟨Finds.placed finds, finds⟩)).1
  refine ⟨r, _, runStatement_select_eq_rows.2 all, joined.rows, fun picks picked => ?_,
    runStatement_select_eq_rows.2 (selected_column several rfl rfl rfl planned result),
    table_project_column r ⟨none, name⟩ true⟩
  rw [joined.columns]
  exact resolve_joinedRow distinct plain placed picked

end Connection

/-! ### A column with a dot in its name -/

def dottedTable : Source where
  name := "t"
  table := ⟨"t", [⟨"a.b", .integer, 0, none, none⟩, ⟨"c", .integer, 1, none, none⟩]⟩
  rows := [[.int 7, .int 8]]

def plainTable : Source where
  name := "u"
  table := ⟨"u", [⟨"c", .integer, 0, none, none⟩]⟩
  rows := [[.int 9]]

def dottedStore : Memory :=
  let c : Connection := ⟨"db", .default⟩
  let entries (src : Source) : List (String × String) :=
    [(c.definitionKey ⟨none, src.name⟩, src.table.definitionText),
      (c.rowsKey ⟨none, src.name⟩, Row.storedText src.rows)]
  ⟨.ofList (entries dottedTable ++ entries plainTable)⟩

namespace Connection

theorem read_dottedStore : ∀ src ∈ [dottedTable, plainTable],
    table? ⟨"db", .default⟩ (Storage.get? dottedStore) ⟨none, src.name⟩ = .ok (some src.table) ∧
      rows ⟨"db", .default⟩ (Storage.get? dottedStore) ⟨none, src.name⟩ = .ok src.rows := by
  have stored : ∀ src ∈ [dottedTable, plainTable],
      Storage.get? dottedStore (definitionKey ⟨"db", .default⟩ ⟨none, src.name⟩) =
          some src.table.definitionText ∧
        Storage.get? dottedStore (rowsKey ⟨"db", .default⟩ ⟨none, src.name⟩) =
          some (Row.storedText src.rows) := by
    decide
  have valid : ∀ src ∈ [dottedTable, plainTable], src.table.check = .ok () ∧
      (∀ row ∈ src.rows, ∀ v ∈ row, v.exact) ∧
      Table.mk (TableName.text ⟨none, src.name⟩) src.table.columns = src.table ∧
      src.rows.map (fun row => row.map Value.stored) = src.rows := by
    decide
  intro src mem
  obtain ⟨definition, rows⟩ := stored src mem
  obtain ⟨checked, exact, table, same⟩ := valid src mem
  rw [table?_definitionText checked definition, rows_of_exact exact rows, table, same]
  exact ⟨rfl, rfl⟩

theorem finds_dottedStore : List.Forall₂ (Finds ⟨"db", .default⟩ (Storage.get? dottedStore))
    [⟨"t", none, none⟩, ⟨"u", none, none⟩] [dottedTable, plainTable] :=
  .cons ⟨⟨none, "t"⟩, by decide, rfl, read_dottedStore _ (.head _)⟩
    (.cons ⟨⟨none, "u"⟩, by decide, rfl, read_dottedStore _ (.tail _ (.head _))⟩ .nil)

theorem runStatement_unqualified_first :
    let c : Connection := ⟨"db", .default⟩
    ∃ r, c.runStatement (Storage.get? dottedStore) (.select
        ⟨[], [⟨"t", none, none⟩, ⟨"u", none, none⟩], none, [], [], none⟩) = ⟨[], .ok (.rows r)⟩ ∧
      Scope.resolve ⟨r.columns, true⟩ ⟨none, "c"⟩ (joinedRow .coerce
        [(dottedTable, some [.int 7, .int 8]), (plainTable, some [.int 9])]) = .int 8 ∧
      Scope.resolve ⟨r.columns, true⟩ ⟨none, "c"⟩ (joinedRow .coerce
        [(dottedTable, none), (plainTable, some [.int 9])]) = .null := by
  intro c
  have plain : ∀ src ∈ [dottedTable, plainTable], src.Plain "c" := by decide
  obtain ⟨r, shown, all, -, resolves, -⟩ := c.runStatement_unqualified (Storage.get? dottedStore)
    none (by decide) finds_dottedStore (by decide) plain
  exact ⟨r, all, resolves _ rfl, resolves _ rfl⟩

/-- A column with a dot in its name, which has a value and is not found. -/
theorem runStatement_unqualified_dotted :
    let c : Connection := ⟨"db", .default⟩
    c.runStatement (Storage.get? dottedStore) (.select ⟨[(.column ⟨none, "a.b"⟩, none)],
        [⟨"t", none, none⟩, ⟨"u", none, none⟩], none, [], [], none⟩) =
      ⟨[], .ok (.rows ⟨["a.b"], [.ofList [("a.b", .null)]]⟩)⟩ ∧
    firstDeclared .coerce "a.b"
      [(dottedTable, some [.int 7, .int 8]), (plainTable, some [.int 9])] = .int 7 := by
  intro c
  have scanned : ∀ src ∈ [dottedTable, plainTable], c.relation (Storage.get? dottedStore)
      (.scan ⟨none, src.name⟩ (some src.name)) = .ok (src.relation .coerce) := by
    intro src mem
    obtain ⟨table, rows⟩ := read_dottedStore src mem
    rw [Connection.relation, scan, table_eq_ok.2 table, rows]
    rfl
  let scan (src : Source) : Plan := .scan ⟨none, src.name⟩ (some src.name)
  have joined : c.relation (Storage.get? dottedStore)
      (.join (scan dottedTable) (scan plainTable) none false false) =
        .ok (Relation.join .standard none false false (dottedTable.relation .coerce)
          (plainTable.relation .coerce)) := by
    rw [Connection.relation, scanned dottedTable (.head _),
      scanned plainTable (.tail _ (.head _))]
    rfl
  refine ⟨runStatement_select_eq_rows.2 ?_, rfl⟩
  rw [selected_column (by decide) rfl rfl rfl rfl joined]
  exact congrArg Except.ok rfl

end Connection

end SqlStore
