import SqlStore.Proofs.Execution.Catalog
import SqlStore.Proofs.Query.Grouping
import SqlStore.Proofs.Query.Ordering
import SqlStore.Execution.Run

namespace SqlStore

open Query (Relation Scope addColumns outputName)
open Sql (ColumnRef Direction Expr SelectItem)

namespace Query

theorem mem_addColumns {columns more : List String} {k : String} :
    k ∈ addColumns columns more ↔ k ∈ columns ∨ k ∈ more := by
  rw [addColumns_eq, List.mem_append, List.mem_eraseDups, List.mem_filter]
  by_cases there : k ∈ columns <;> simp [there]

namespace Relation

/-- No row has a value under a name that is no column. -/
def Covered (r : Relation) : Prop :=
  ∀ row ∈ r.rows, ∀ k ∉ r.columns, row.get? k = none

namespace Covered

variable {l r : Relation}

theorem of_subset {rows : List Record} (covered : r.Covered) (subset : rows ⊆ r.rows) :
    Covered ⟨r.columns, rows⟩ :=
  fun row mem => covered row (subset mem)

theorem filter (covered : r.Covered) (m : OrMode) (qualified : Bool) (condition : Expr) :
    (r.filter m qualified condition).Covered :=
  covered.of_subset (List.filter_subset_self _)

theorem order (covered : r.Covered) (keys : List (ColumnRef × Direction)) (qualified : Bool) :
    (r.order keys qualified).Covered := by
  have sorted : (r.order keys qualified).rows ⊆ r.rows := by
    rw [order_rows]
    exact (stableSort_perm _).subset
  exact covered.of_subset sorted

theorem offset (covered : r.Covered) (n : Nat) : (r.offset n).Covered :=
  covered.of_subset (List.drop_subset n r.rows)

theorem limit (covered : r.Covered) (n : Nat) : (r.limit n).Covered :=
  covered.of_subset (List.take_subset n r.rows)

theorem project (items : List (ColumnRef × Option String)) (qualified : Bool) :
    (r.project items qualified).Covered := by
  intro row mem k absent
  obtain ⟨row, -, rfl⟩ := List.mem_map.1 mem
  refine Dict.get?_ofList_of_not_mem fun named => absent (mem_addColumns.2 (.inr ?_))
  rw [List.map_map] at named
  exact named

theorem aggregate {items : List SelectItem} {groupBy : List ColumnRef} {qualified : Bool}
    {out : Relation} (ok : r.aggregate items groupBy qualified = .ok out) : out.Covered := by
  obtain ⟨gs, -, rfl⟩ := aggregate_eq_ok.1 ok
  intro row mem k absent
  obtain ⟨g, -, rfl⟩ := List.mem_map.1 mem
  exact get?_row_of_not_mem items g fun named => absent (mem_addColumns.2 (.inr named))

theorem join (left : l.Covered) (right : r.Covered) (m : OrMode) (on? : Option Expr)
    (keepLeft keepRight : Bool) : (join m on? keepLeft keepRight l r).Covered := by
  intro row mem k absent
  obtain ⟨absentL, absentR⟩ := not_or.1 (mt mem_addColumns.2 absent)
  rw [join_rows] at mem
  simp only [List.mem_append] at mem
  rcases mem with (pair | alone) | alone
  · obtain ⟨p, found, rfl⟩ := List.mem_map.1 pair
    obtain ⟨memL, memR⟩ := List.mem_product.1 (List.mem_filter.1 found).1
    rw [Dict.get?_union, left p.1 memL k absentL, right p.2 memR k absentR, Option.none_or]
  · split at alone
    · exact left row (List.mem_filter.1 alone).1 k absentL
    · cases alone
  · split at alone
    · exact right row (List.mem_filter.1 alone).1 k absentR
    · cases alone

end Covered

end Relation

end Query

namespace Connection

variable {c : Connection} {view : View}

theorem scan_covered {name : TableName} {source? : Option String} {r : Relation}
    (ok : c.scan view name source? = .ok r) : r.Covered := by
  obtain ⟨t, -, ok⟩ := bind_eq_ok.1 ok
  obtain ⟨rows, -, ok⟩ := bind_eq_ok.1 ok
  obtain rfl := pure_eq_ok.1 ok
  intro row mem k absent
  obtain ⟨row, -, rfl⟩ := List.mem_map.1 mem
  exact Table.get?_recordOf_of_not_mem absent _ row

theorem relation_covered {plan : Plan} {r : Relation} (ok : c.relation view plan = .ok r) :
    r.Covered := by
  induction plan generalizing r with
  | command command => cases ok
  | scan name source? => exact scan_covered (mapError_eq_ok.1 ok)
  | join left right on? keepLeft keepRight ihl ihr =>
      obtain ⟨l, foundL, ok⟩ := bind_eq_ok.1 ok
      obtain ⟨r, foundR, ok⟩ := bind_eq_ok.1 ok
      obtain rfl := pure_eq_ok.1 ok
      exact (ihl foundL).join (ihr foundR) _ on? keepLeft keepRight
  | aggregate source items groupBy qualified ih =>
      obtain ⟨s, -, ok⟩ := bind_eq_ok.1 ok
      exact .aggregate (mapError_eq_ok.1 ok)
  | filter source condition qualified ih =>
      obtain ⟨s, found, ok⟩ := bind_eq_ok.1 ok
      obtain rfl := pure_eq_ok.1 ok
      exact (ih found).filter _ qualified condition
  | project source items qualified ih =>
      obtain ⟨s, -, ok⟩ := bind_eq_ok.1 ok
      obtain rfl := pure_eq_ok.1 ok
      exact .project items qualified
  | order source keys qualified ih =>
      obtain ⟨s, found, ok⟩ := bind_eq_ok.1 ok
      obtain rfl := pure_eq_ok.1 ok
      exact (ih found).order keys qualified
  | offset source n ih =>
      obtain ⟨s, found, ok⟩ := bind_eq_ok.1 ok
      obtain rfl := pure_eq_ok.1 ok
      exact (ih found).offset n
  | limit source n ih =>
      obtain ⟨s, found, ok⟩ := bind_eq_ok.1 ok
      obtain rfl := pure_eq_ok.1 ok
      exact (ih found).limit n

end Connection

end SqlStore
