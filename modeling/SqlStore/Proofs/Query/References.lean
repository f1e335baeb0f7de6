import SqlStore.Query.Condition

namespace SqlStore

open Query (Scope)

/-! ## References with a table -/

namespace Query.Scope

theorem resolve_of_table {columns columns' : List String} {c : Sql.ColumnRef}
    (table : c.table?.isSome) (row : Record) :
    resolve ⟨columns, true⟩ c row = resolve ⟨columns', true⟩ c row := by
  obtain ⟨_ | t, name⟩ := c
  · cases table
  · rfl

end Query.Scope

/-! ## Conditions -/

namespace Sql

def Expr.references : Expr → List ColumnRef
  | .column c => [c]
  | .binary _ l r => l.references ++ r.references
  | _ => []

variable {m : OrMode} {s s' : Scope} {row row' : Record}

theorem Expr.value_congr (e : Expr)
    (same : ∀ c ∈ e.references, s.resolve c row = s'.resolve c row') :
    e.value m s row = e.value m s' row' := by
  induction e with
  | column c => exact same c (List.mem_singleton_self c)
  | literal l => rfl
  | call f arg => rfl
  | binary op l r ihl ihr =>
      rw [value, value, ihl fun c mem => same c (List.mem_append_left _ mem),
        ihr fun c mem => same c (List.mem_append_right _ mem)]

theorem Expr.holds_congr (e : Expr)
    (same : ∀ c ∈ e.references, s.resolve c row = s'.resolve c row') :
    e.holds m s row = e.holds m s' row' := by
  cases e with
  | column c => rfl
  | literal l => rfl
  | call f arg => rfl
  | binary op l r =>
      rw [holds, holds, l.value_congr fun c mem => same c (List.mem_append_left _ mem),
        r.value_congr fun c mem => same c (List.mem_append_right _ mem)]

theorem holdsAll_congr {condition? : Option Expr}
    (same : ∀ e ∈ condition?, ∀ c ∈ e.references, s.resolve c row = s'.resolve c row') :
    holdsAll m s condition? row = holdsAll m s' condition? row' := by
  cases condition? with
  | none => rfl
  | some e => exact e.holds_congr (same e rfl)

end Sql

end SqlStore
