import SqlStore.Plan
import SqlStore.Proofs.Except
import SqlStore.Proofs.Schema.StoredText

namespace SqlStore

open Sql (ColumnDecl ColumnRef Direction Expr FromItem Select Statement)

/-! ## Table names -/

def TableName.Written (n : TableName) : Prop :=
  ∃ name, TableName.read? name = some n

theorem TableName.read_eq_ok {name : String} {n : TableName} :
    TableName.read name = .ok n ↔ TableName.read? name = some n := by
  rw [TableName.read]
  cases TableName.read? name <;> simp

/-! ## The steps of a SELECT -/

namespace Plan

def filtered (s : Select) (tables : Plan) : Plan :=
  match s.where? with
  | some condition => .filter tables condition (decide (1 < s.tables.length))
  | none => tables

def operated (s : Select) (qualified : Bool) (source : Plan) (keys : List (ColumnRef × Direction)) :
    Except Error Plan :=
  if s.items.any isCall then aggregateSorted source s keys qualified
  else projectSorted source s keys qualified

def limited (s : Select) (shown : Plan) : Except Error Plan :=
  match s.limit? with
  | some arguments => window shown arguments
  | none => .ok shown

theorem ofSelect_eq (s : Select) : ofSelect s = (do
    let source ← (ofTables s.tables).map (filtered s)
    let keys ← s.orderBy.mapM sortColumn
    limited s (← operated s (decide (1 < s.tables.length)) source keys)) := by
  rw [ofSelect]
  cases ofTables s.tables with
  | error e => rfl
  | ok tables =>
      refine congrArg (s.orderBy.mapM sortColumn >>= ·) (funext fun keys => ?_)
      dsimp only
      rw [operated]
      split <;> rfl

end Plan

/-! ## Plans of a SELECT -/

namespace Plan

/-- A property `S` of the joined tables of a `SELECT`, and one `P` that they have with it and that
the operators over them keep. -/
structure Kept (s : Select) (S P : Plan → Prop) : Prop where
  scan {item n source?} : item ∈ s.tables → TableName.read? item.name = some n →
    S (.scan n source?)
  join {left right on? keepLeft keepRight} : S left → S right →
    S (.join left right on? keepLeft keepRight)
  source {tables} : S tables → P tables
  filter {source condition qualified} : P source → P (.filter source condition qualified)
  project {source items qualified} : P source → P (.project source items qualified)
  aggregate {source qualified} : s.items.any isCall → P source →
    P (.aggregate source s.items s.groupBy qualified)
  order {source keys qualified} : P source → P (.order source keys qualified)
  offset {source n} : P source → P (.offset source n)
  limit {source n} : P source → P (.limit source n)

namespace Kept

variable {s : Select} {S P : Plan → Prop} {source plan : Plan}

theorem ofTable (kept : Kept s S P) {item : FromItem} (mem : item ∈ s.tables) {qualified : Bool}
    (ok : ofTable qualified item = .ok plan) : S plan := by
  obtain ⟨name, named, last⟩ := bind_eq_ok.1 ok
  rw [← pure_eq_ok.1 last]
  exact kept.scan mem (TableName.read_eq_ok.1 named)

theorem joinTables (kept : Kept s S P) {items : List FromItem} (subset : items ⊆ s.tables)
    (left : S source) (ok : items.foldlM joinTable source = .ok plan) : S plan := by
  induction items generalizing source with
  | nil =>
      rw [List.foldlM_nil, pure_eq_ok] at ok
      exact ok ▸ left
  | cons item items ih =>
      rw [List.foldlM_cons] at ok
      obtain ⟨joined, step, rest⟩ := bind_eq_ok.1 ok
      obtain ⟨right, scanned, last⟩ := bind_eq_ok.1 step
      refine ih (fun x mem => subset (List.mem_cons_of_mem item mem)) ?_ rest
      rw [← pure_eq_ok.1 last]
      exact kept.join left (kept.ofTable (subset List.mem_cons_self) scanned)

theorem ofTables (kept : Kept s S P) (ok : ofTables s.tables = .ok plan) : S plan := by
  have subset : s.tables ⊆ s.tables := fun _ mem => mem
  cases tables : s.tables with
  | nil =>
      rw [tables] at ok
      cases ok
  | cons item items =>
      rw [tables] at ok subset
      obtain ⟨first, scanned, rest⟩ := bind_eq_ok.1 ok
      refine kept.joinTables (fun x mem => ?_) (kept.ofTable ?_ scanned) rest
      · exact tables ▸ List.mem_cons_of_mem item mem
      · exact tables ▸ List.mem_cons_self

theorem aggregateSorted (kept : Kept s S P) (calls : s.items.any isCall) (holds : P source) {keys}
    {qualified : Bool} (ok : aggregateSorted source s keys qualified = .ok plan) : P plan := by
  obtain ⟨keys', -, last⟩ := bind_eq_ok.1 ok
  rw [← pure_eq_ok.1 last]
  have grouped : P (.aggregate source s.items s.groupBy qualified) := kept.aggregate calls holds
  split
  · exact grouped
  · exact kept.order grouped

theorem projectSorted (kept : Kept s S P) (holds : P source) {keys} {qualified : Bool}
    (ok : projectSorted source s keys qualified = .ok plan) : P plan := by
  obtain ⟨items, -, last⟩ := bind_eq_ok.1 ok
  rw [← pure_eq_ok.1 last]
  have sorted (keys : List _) : P (if keys.isEmpty then source else .order source keys qualified) := by
    split
    · exact holds
    · exact kept.order holds
  split
  · exact sorted _
  · exact kept.project (sorted _)

theorem operated (kept : Kept s S P) (holds : P source) {qualified : Bool} {keys}
    (ok : operated s qualified source keys = .ok plan) : P plan := by
  rw [Plan.operated] at ok
  split at ok
  · exact kept.aggregateSorted ‹_› holds ok
  · exact kept.projectSorted holds ok

theorem limited (kept : Kept s S P) (holds : P source) (ok : limited s source = .ok plan) :
    P plan := by
  rw [Plan.limited] at ok
  split at ok
  · obtain ⟨ns, -, last⟩ := bind_eq_ok.1 ok
    split at last
    · rw [← pure_eq_ok.1 last]
      apply kept.limit
      split
      · exact holds
      · exact kept.offset holds
    · cases last
  · cases ok
    exact holds

theorem ofSelect (kept : Kept s S P) (ok : ofSelect s = .ok plan) : P plan := by
  rw [ofSelect_eq] at ok
  obtain ⟨source, found, rest⟩ := bind_eq_ok.1 ok
  obtain ⟨keys, -, rest⟩ := bind_eq_ok.1 rest
  obtain ⟨shown, listed, last⟩ := bind_eq_ok.1 rest
  obtain ⟨tables, named, filters⟩ := map_eq_ok.1 found
  have holds : P source := by
    have tables : P tables := kept.source (kept.ofTables named)
    rw [← filters, filtered]
    split
    · exact kept.filter tables
    · exact tables
  exact kept.limited (kept.operated holds listed) last

end Kept

/-! ## Plans that read -/

def reads : Plan → Bool
  | .command _ => false
  | .scan _ _ => true
  | .join left right _ _ _ => left.reads && right.reads
  | .filter source _ _ | .project source _ _ | .aggregate source _ _ _ | .order source _ _
  | .offset source _ | .limit source _ => source.reads

theorem ofSelect_reads {s : Select} {plan : Plan} (ok : ofSelect s = .ok plan) : plan.reads := by
  have kept : Kept s (·.reads) (·.reads) :=
    { scan := fun _ _ => rfl
      join := fun left right => Bool.and_eq_true_iff.2 ⟨left, right⟩
      source := id
      filter := id
      project := id
      aggregate := fun _ source => source
      order := id
      offset := id
      limit := id }
  exact kept.ofSelect ok

def isTables : Plan → Bool
  | .scan _ _ => true
  | .join left right _ _ _ => left.isTables && right.isTables
  | _ => false

/-- Whether a plan is made of operators over joined tables, and every aggregated item has a
value. -/
def isQuery : Plan → Bool
  | .filter source _ _ | .project source _ _ | .order source _ _ | .offset source _
  | .limit source _ => source.isQuery
  | .aggregate source items _ _ =>
    source.isQuery && items.all fun item => Query.isAggregate item.1
  | plan => plan.isTables

theorem isQuery_of_isTables {plan : Plan} (tables : plan.isTables) : plan.isQuery := by
  cases plan with
  | scan | join => exact tables
  | _ => cases tables

theorem ofSelect_isQuery {s : Select} (aggregates : ∀ item ∈ s.items, Query.isAggregate item.1)
    {plan : Plan} (ok : ofSelect s = .ok plan) : plan.isQuery := by
  have kept : Kept s (·.isTables) (·.isQuery) :=
    { scan := fun _ _ => rfl
      join := fun left right => Bool.and_eq_true_iff.2 ⟨left, right⟩
      source := isQuery_of_isTables
      filter := id
      project := id
      aggregate := fun _ source => Bool.and_eq_true_iff.2 ⟨source, List.all_eq_true.2 aggregates⟩
      order := id
      offset := id
      limit := id }
  exact kept.ofSelect ok

theorem ofStatement_cases {s : Statement} {plan : Plan} (ok : ofStatement s = .ok plan) :
    (∃ q, s = .select q) ∨ ∃ command, plan = .command command := by
  cases s with
  | select q => exact .inl ⟨q, rfl⟩
  | createTable | insert | update =>
      obtain ⟨n, -, ok⟩ := bind_eq_ok.1 ok
      obtain ⟨_, -, ok⟩ := bind_eq_ok.1 ok
      exact .inr ⟨_, (pure_eq_ok.1 ok).symm⟩
  | dropTable name ifExists =>
      obtain ⟨n, -, ok⟩ := bind_eq_ok.1 ok
      exact .inr ⟨_, (pure_eq_ok.1 ok).symm⟩
  | delete tables where? =>
      match tables, ok with
      | [item], ok =>
          obtain ⟨n, -, ok⟩ := bind_eq_ok.1 ok
          exact .inr ⟨_, (pure_eq_ok.1 ok).symm⟩

theorem ofStatement_whole {s : Statement} {plan : Plan} (ok : ofStatement s = .ok plan) :
    plan.reads ∨ ∃ command, plan = .command command := by
  rcases ofStatement_cases ok with ⟨q, rfl⟩ | command
  · exact .inl (ofSelect_reads ok)
  · exact .inr command

end Plan

/-! ## Tables of a plan -/

def Sql.Statement.tableNames : Statement → List String
  | .createTable name _ | .dropTable name _ | .insert name _ _ | .update name _ _ => [name]
  | .select s => s.tables.map FromItem.name
  | .delete tables _ => tables.map FromItem.name

def Command.target : Command → TableName
  | .createTable name _ | .dropTable name _ | .insert name _ _ | .update name _ _
  | .delete name _ => name

namespace Plan

def tables : Plan → List TableName
  | .command c => [c.target]
  | .scan name _ => [name]
  | .join left right _ _ _ => left.tables ++ right.tables
  | .filter source _ _ | .project source _ _ | .aggregate source _ _ _ | .order source _ _
  | .offset source _ | .limit source _ => source.tables

theorem ofSelect_tables {s : Select} {plan : Plan} (ok : ofSelect s = .ok plan) :
    ∀ n ∈ plan.tables, ∃ name ∈ s.tables.map FromItem.name, TableName.read? name = some n := by
  let Named (plan : Plan) :=
    ∀ n ∈ plan.tables, ∃ name ∈ s.tables.map FromItem.name, TableName.read? name = some n
  have kept : Kept s Named Named :=
    { scan := fun mem named => List.forall_mem_singleton.2 ⟨_, List.mem_map_of_mem mem, named⟩
      join := fun left right => List.forall_mem_append.2 ⟨left, right⟩
      source := id
      filter := id
      project := id
      aggregate := fun _ source => source
      order := id
      offset := id
      limit := id }
  exact kept.ofSelect ok

theorem ofStatement_target {s : Statement} {command : Command}
    (ok : ofStatement s = .ok (.command command)) :
    ∃ name, s.tableNames = [name] ∧ TableName.read? name = some command.target := by
  cases s with
  | select s => cases ofSelect_reads ok
  | createTable name | insert name | update name =>
      obtain ⟨n, named, ok⟩ := bind_eq_ok.1 ok
      obtain ⟨_, -, ok⟩ := bind_eq_ok.1 ok
      cases pure_eq_ok.1 ok
      exact ⟨name, rfl, TableName.read_eq_ok.1 named⟩
  | dropTable name ifExists =>
      obtain ⟨n, named, ok⟩ := bind_eq_ok.1 ok
      cases pure_eq_ok.1 ok
      exact ⟨name, rfl, TableName.read_eq_ok.1 named⟩
  | delete tables where? =>
      match tables, ok with
      | [item], ok =>
          obtain ⟨n, named, ok⟩ := bind_eq_ok.1 ok
          cases pure_eq_ok.1 ok
          exact ⟨item.name, rfl, TableName.read_eq_ok.1 named⟩

theorem ofStatement_written {s : Statement} {command : Command}
    (ok : ofStatement s = .ok (.command command)) : command.target.Written := by
  obtain ⟨name, -, named⟩ := ofStatement_target ok
  exact ⟨name, named⟩

theorem ofStatement_tables {s : Statement} {plan : Plan} (ok : ofStatement s = .ok plan) :
    ∀ n ∈ plan.tables, ∃ name ∈ s.tableNames, TableName.read? name = some n := by
  rcases ofStatement_cases ok with ⟨q, rfl⟩ | ⟨command, rfl⟩
  · exact ofSelect_tables ok
  · obtain ⟨name, names, named⟩ := ofStatement_target ok
    exact List.forall_mem_singleton.2 ⟨name, names ▸ List.mem_singleton_self name, named⟩

end Plan

/-! ## Declared tables -/

namespace Plan

theorem declaredColumn_eq_ok {d : ColumnDecl} {i : Nat} {c : Column}
    (ok : declaredColumn d i = .ok c) :
    c.name = d.name ∧ Kind.ofTypeName? d.typeName = some c.kind ∧ c.index = UInt64.ofNat i := by
  unfold declaredColumn at ok
  split at ok
  · rename_i made
    cases ok
    simp only [Column.ofType?, Option.bind_eq_bind, Option.bind_eq_some_iff] at made
    obtain ⟨kind, known, made⟩ := made
    cases made
    exact ⟨rfl, known, rfl⟩
  · cases ok

theorem declaredTable_eq_ok {name : TableName} {declared : List ColumnDecl} {t : Table}
    (ok : declaredTable name declared = .ok t) :
    t.check = .ok () ∧ t.name = name.text ∧
      (declared.zipIdx.mapM fun (d, i) => declaredColumn d i) = .ok t.columns := by
  obtain ⟨columns, made, ok⟩ := bind_eq_ok.1 ok
  have built := mapError_eq_ok.1 ok
  obtain ⟨rfl, checked⟩ := Table.ofColumns_eq_ok.1 built
  obtain ⟨nonempty, placed⟩ := Table.check_ok_iff.1 checked
  have perm : (stableSort Table.indexBefore columns).Perm columns := stableSort_perm columns
  have few : columns.length ≤ UInt64.size := perm.length_eq ▸ placed.length_le
  have ordered : Table.Placed 0 columns := by
    refine ⟨(perm.map Column.name).nodup_iff.1 placed.names, fun i c at' => ?_⟩
    obtain ⟨⟨d, j⟩, found, column⟩ := getElem?_of_mapM_eq_ok made at'
    have lt : i < columns.length := (List.getElem?_eq_some_iff.1 at').1
    have place : j = i := by
      rw [List.getElem?_zipIdx, Option.map_eq_some_iff] at found
      obtain ⟨d', -, eq⟩ := found
      cases eq
      exact Nat.zero_add i
    have index := (declaredColumn_eq_ok column).2.2
    have small : i < UInt64.size := Nat.lt_of_lt_of_le lt few
    rw [index, place, Nat.zero_add]
    exact UInt64.toNat_ofNat_of_lt' small
  have checked' : Table.check ⟨name.text, columns⟩ = .ok () := by
    refine Table.check_ok_iff.2 ⟨fun empty => nonempty ?_, ordered⟩
    exact List.Perm.eq_nil (empty ▸ perm)
  have same := Table.ofColumns_of_perm checked' (List.Perm.refl columns) name.text
  rw [built, Except.ok.injEq, Table.mk.injEq] at same
  refine ⟨checked, rfl, ?_⟩
  rw [same.2]
  exact made

theorem declaredTable_names {name : TableName} {declared : List ColumnDecl} {t : Table}
    (ok : declaredTable name declared = .ok t) :
    t.columns.map Column.name = declared.map ColumnDecl.name := by
  have names := map_eq_of_mapM_eq_ok (g := Column.name) (h := ColumnDecl.name ∘ Prod.fst)
    (fun d c column => (declaredColumn_eq_ok column).1) (declaredTable_eq_ok ok).2.2
  rw [names, ← List.map_map, List.zipIdx_map_fst]

theorem declaredTable_noFloat {name : TableName} {declared : List ColumnDecl} {t : Table}
    (noFloat : ∀ d ∈ declared, Kind.ofTypeName? d.typeName ≠ some .float)
    (ok : declaredTable name declared = .ok t) : t.NoFloat := by
  intro c mem kind
  obtain ⟨⟨d, i⟩, mem', column⟩ := exists_of_mapM_eq_ok (declaredTable_eq_ok ok).2.2 mem
  refine noFloat d (List.fst_mem_of_mem_zipIdx mem') ?_
  rw [(declaredColumn_eq_ok column).2.1, kind]

end Plan

end SqlStore
