import SqlStore.Proofs.Execution.Isolation
import SqlStore.Proofs.Execution.RoundTrip

/-!
# New tables

`DROP TABLE` takes away the columns of a table and then its rows. As long as it is carried out as
a whole or not at all, rows are never there without columns, and a new table has none. One that is
cut short leaves the rows to the next table of that name.
-/

namespace SqlStore

open Sql (ColumnDecl Statement)

variable {c d : Connection} {view view' : View} {m n : TableName} {r : Request}

/-! ## Rows and columns over requests -/

theorem Command.Footprint.length_le {command : Command} {ws : List Write}
    (footprint : command.Footprint c ws) : ws.length ≤ 2 := by
  cases command with
  | createTable name t =>
      cases footprint
      exact Nat.le_succ 1
  | dropTable name ifExists =>
      rcases footprint with rfl | rfl
      · exact Nat.le_refl 2
      · exact Nat.zero_le 2
  | insert | update | delete =>
      obtain ⟨rows, rfl⟩ := footprint
      exact Nat.le_succ 1

namespace Paired

theorem of_texts (paired : Paired c n view)
    (same : ∀ p, view' (d.key m p) = view (c.key n p)) : Paired d m view' := by
  intro text stored
  obtain ⟨definition, there⟩ := paired text ((same .rows).symm.trans stored)
  exact ⟨definition, (same .definition).trans there⟩

variable {σ : Type} [Storage σ] [LawfulStorage σ]

theorem serve (written : n.Written) {s : σ} (paired : Paired c n (Storage.get? s))
    (whole : d.RefersTo r (c.identity n) → ∀ fault,
      Storage.failure? s (d.effect (Storage.get? s) r).writes ≠ some (1, fault)) :
    Paired c n (Storage.get? (d.serve s r).2) := by
  by_cases alone : ∀ id, d.RefersTo r id ↔ id = c.identity n
  · have whole := whole ((alone _).2 rfl)
    have served := serve_of_failure? d s r
    rcases d.effect_cases (Storage.get? s) r with
      none | ⟨statement, command, ws, change, parsed, built, ran, effect⟩
    · rw [none] at served
      exact served.2 ▸ paired
    · rw [effect] at served whole
      have same : d.identity command.target = c.identity n :=
        (alone _).1 ((Connection.refersTo_target parsed built _).2 rfl)
      have made : Paired c n (updateAll (Storage.get? s) ws) :=
        ((paired.of_texts fun p => congrArg _ (Connection.key_congr same p)).runCommand
          ran).of_texts fun p => congrArg _ (Connection.key_congr same p).symm
      split at served
      · rw [served.2]
        exact made
      · rename_i i fault failed
        rw [served.2]
        match i, failed with
        | 0, _ => exact paired
        | 1, failed => exact absurd failed (whole fault)
        | i + 2, _ =>
            have all : ws.length ≤ i + 2 :=
              Nat.le_trans (Connection.runCommand_footprint ran).length_le (Nat.le_add_left 2 i)
            rw [List.take_of_length_le all]
            exact made
  · exact paired.of_texts fun p => get?_serve_key written alone

end Paired

/-- Whether no request of a list that names a table is cut short after its first change. Only
`DROP TABLE` has a second one. -/
def NoneCutShort {σ : Type} [Storage σ] (id : TableId) (s : σ) :
    List (Connection × Request) → Prop
  | [] => True
  | (c, r) :: rest =>
    (c.RefersTo r id → ∀ fault,
        Storage.failure? s (c.effect (Storage.get? s) r).writes ≠ some (1, fault)) ∧
      NoneCutShort id (c.serve s r).2 rest

variable {σ : Type} [Storage σ] [LawfulStorage σ]

theorem Paired.serveEach (written : n.Written) {s : σ} (paired : Paired c n (Storage.get? s))
    {requests : List (Connection × Request)} (whole : NoneCutShort (c.identity n) s requests) :
    Paired c n (Storage.get? (serveEach s requests).2) := by
  induction requests generalizing s with
  | nil => exact paired
  | cons request requests ih => exact ih (paired.serve written whole.1) whole.2

/-! ## A new table -/

/-- On a store that was empty at first, whatever failed since, `SELECT *` shows the declared
columns of a table that has just been created and no rows, unless a `DROP TABLE` of that table was
cut short between its two removals. -/
theorem select_created (s : σ) (empty : ∀ key, Storage.get? s key = none)
    (before : List (Connection × Request)) (c d : Connection) (create select : Request)
    {name name' : String} {n n' : TableName} {declared : List ColumnDecl}
    (creates : create.statement = .ok (.createTable name declared))
    (selects : select.statement = .ok (.select (.everything name')))
    (named : TableName.read? name = some n) (named' : TableName.read? name' = some n')
    (same : d.identity n' = c.identity n) (whole : NoneCutShort (c.identity n) s before) :
    let created := c.serve (serveEach s before).2 create
    ∀ answer, created.1 = .ok answer →
      (d.serve created.2 select).1 = .ok (.rows ⟨declared.map ColumnDecl.name, []⟩) := by
  intro created answer made
  have start : Paired c n (Storage.get? s) := by
    intro text stored
    cases (empty _).symm.trans stored
  have paired := start.serveEach ⟨name, named⟩ whole
  obtain ⟨statement, parsed, answered, done, store⟩ := serve_ok made
  obtain rfl := Except.ok.inj (creates.symm.trans parsed)
  obtain ⟨t, declares, absent, found, kept⟩ := Connection.runStatement_createTable named answered
  have read := Connection.rows_of_none (kept.trans (paired.rows_of_new absent))
  rw [← Storage.get?_writeAll done, ← store] at found read
  rw [Connection.serve_everything named' (Connection.table?_of_identity same found)
    ((Connection.rows_of_identity same).2 read) selects, ← Plan.declaredTable_names declares]
  rfl

theorem select_created_again :
    let c : Connection := ⟨"db", .default⟩
    let s : Unreliable Memory := ⟨Memory.empty, 0, fun i => i ≠ 0⟩
    let before : List (Connection × Request) :=
      [(c, .tree (.createTable "t" [⟨"a", "INT", []⟩]))]
    let created := c.serve (serveEach s before).2 (.tree (.createTable "t" [⟨"b", "TEXT", []⟩]))
    (serveEach s before).1 = [.error (.storage .injected)] ∧
      (c.serve created.2 (.tree (.select (.everything "public.t")))).1 =
        .ok (.rows ⟨["b"], []⟩) := by
  intro c s before created
  have whole : NoneCutShort (c.identity ⟨none, "t"⟩) s before := ⟨fun _ fault => nofun, trivial⟩
  have named : TableName.read? "t" = some ⟨none, "t"⟩ := by decide
  have named' : TableName.read? "public.t" = some ⟨some "public", "t"⟩ := by decide
  have made : created.1 = .ok (.changed (.created ⟨none, "t"⟩)) := rfl
  exact ⟨rfl, select_created s (fun _ => rfl) before c c _ _ rfl rfl named named' rfl whole _ made⟩

/-- A `DROP TABLE` that fails between its two removals leaves the rows of the table to the next one
of that name, under whatever columns it has. -/
theorem select_cut_short {s : σ} {name : String} {n : TableName} {t : Table} {stored : List Row}
    (named : TableName.read? name = some n) (found : c.table? (Storage.get? s) n = .ok (some t))
    (read : c.rows (Storage.get? s) n = .ok stored) {fault : StorageFault}
    (cut : Storage.failure? s [.remove (c.definitionKey n), .remove (c.rowsKey n)] =
      some (1, fault))
    {drop create select : Request} {ifExists : Bool} {declared : List ColumnDecl}
    (drops : drop.statement = .ok (.dropTable name ifExists))
    (creates : create.statement = .ok (.createTable name declared))
    (selects : select.statement = .ok (.select (.everything name))) :
    let dropped := c.serve s drop
    let created := c.serve dropped.2 create
    dropped.1 = .error (.storage fault) ∧ ∀ answer, created.1 = .ok answer →
      ∃ r, (c.serve created.2 select).1 = .ok (.rows r) ∧
        r.columns = declared.map ColumnDecl.name ∧ r.rows.length = stored.length := by
  intro dropped created
  have built : Plan.ofStatement (.dropTable name ifExists) =
      .ok (.command (.dropTable n ifExists)) :=
    bind_eq_ok.2 ⟨n, TableName.read_eq_ok.2 named, rfl⟩
  have effect := Connection.effect_of_command drops built
    (Connection.dropTable_eq_ok.2 ⟨.inl ⟨t, found, rfl⟩, rfl⟩)
  have served := serve_of_failure? c s drop
  rw [effect, cut] at served
  refine ⟨served.1, fun answer made => ?_⟩
  obtain ⟨statement, parsed, answered, done, store⟩ := serve_ok made
  obtain rfl := Except.ok.inj (creates.symm.trans parsed)
  obtain ⟨t', declares, -, found', kept⟩ := Connection.runStatement_createTable named answered
  rw [← Storage.get?_writeAll done, ← store] at found' kept
  have left : Storage.get? dropped.2 (c.rowsKey n) = Storage.get? s (c.rowsKey n) :=
    (congrFun served.2 _).trans <|
      (Write.remove _).update_of_ne (Connection.definitionKey_ne_rowsKey n n).symm
  have read' := Connection.rows_of_text (kept.trans left) read
  refine ⟨_, Connection.serve_everything named found' read' selects, ?_, List.length_map ..⟩
  exact Plan.declaredTable_names declares

/-- After a table of numbers with one row, whose removal is cut short, a new table of texts begins
with that row. -/
theorem select_created_left_over :
    let c : Connection := ⟨"db", .default⟩
    let s : Unreliable Memory := ⟨Memory.empty, 0, fun i => i ≠ 3⟩
    let create : Request := .tree (.createTable "t" [⟨"a", "INT", []⟩])
    let insert : Request := .tree (.insert "t" none [[.literal (.int 1)]])
    let drop : Request := .tree (.dropTable "t" false)
    let before := serveEach s [(c, create), (c, insert), (c, drop)]
    let createAgain : Request := .tree (.createTable "t" [⟨"b", "TEXT", []⟩])
    let select : Request := .tree (.select (.everything "t"))
    let created := c.serve before.2 createAgain
    created.1 = .ok (.changed (.created ⟨none, "t"⟩)) ∧
      ∃ r, (c.serve created.2 select).1 = .ok (.rows r) ∧ r.columns = ["b"] ∧
        r.rows.length = 1 := by
  intro c s create insert drop before createAgain select created
  let n : TableName := ⟨none, "t"⟩
  have named : TableName.read? "t" = some n := by decide
  obtain ⟨t, declares, made⟩ : ∃ t, Plan.declaredTable n [⟨"a", "INT", []⟩] = .ok t ∧
      t.newRow c.config.numericPolicy none [.int 1] = .ok [.int 1] := ⟨_, rfl, rfl⟩
  have noFloat : t.NoFloat := Plan.declaredTable_noFloat (by decide) declares
  obtain ⟨checked, text, -⟩ := Plan.declaredTable_eq_ok declares
  -- The stores after the first three requests; the fourth change was refused.
  let definition : Write := .set (c.definitionKey n) t.definitionText
  let rows : Write := c.storeRows n [[.int 1]]
  let s₁ : Unreliable Memory := ⟨⟨definition.apply .empty⟩, 1, fun i => i ≠ 3⟩
  let s₂ : Unreliable Memory := ⟨⟨rows.apply s₁.store.entries⟩, 2, fun i => i ≠ 3⟩
  let s₃ : Unreliable Memory :=
    ⟨⟨(Write.remove (c.definitionKey n)).apply s₂.store.entries⟩, 4, fun i => i ≠ 3⟩
  have first : (c.serve s create).2 = s₁ := by
    have built : Plan.ofStatement (.createTable "t" [⟨"a", "INT", []⟩]) =
        .ok (.command (.createTable n t)) :=
      bind_eq_ok.2 ⟨n, rfl, bind_eq_ok.2 ⟨t, declares, rfl⟩⟩
    rw [Connection.serve_of_command rfl built
      (Connection.createTable_eq_ok.2 ⟨Connection.table?_eq_none.2 rfl, checked, rfl, rfl⟩)]
    rfl
  have found₁ : c.table? (Storage.get? s₁) n = .ok (some t) := by
    rw [Connection.table?_definitionText checked rfl, ← text]
  have second : (c.serve s₁ insert).2 = s₂ := by
    have built : Plan.ofStatement (.insert "t" none [[.literal (.int 1)]]) =
        .ok (.command (.insert n none [[.int 1]])) := rfl
    rw [Connection.serve_of_command rfl built
      (Connection.insert_eq_ok.2 ⟨t, [], [[.int 1]], Connection.table_eq_ok.2 found₁,
        Connection.rows_of_none rfl, mapM_eq_ok.2 (congrArg (fun row => [row]) made), rfl, rfl⟩)]
    rfl
  have write₂ : Storage.write s₁ rows = (.ok (), s₂) := rfl
  have view₂ := LawfulStorage.made write₂
  have found₂ : c.table? (Storage.get? s₂) n = .ok (some t) := by
    rw [view₂, Connection.table?_congr (rows.update_of_ne (c.definitionKey_ne_rowsKey n n))]
    exact found₁
  have read₂ : c.rows (Storage.get? s₂) n = .ok [[.int 1]] := by
    have stores : ∀ row ∈ [[Value.int 1]], t.StoresRow row := by
      intro row mem
      rw [List.mem_singleton.1 mem]
      exact Table.newRow_stores (Connection.placed found₁) noFloat made
    have there : Storage.get? s₂ (c.rowsKey n) = some (Row.storedText [[.int 1]]) :=
      (congrFun view₂ _).trans ((Write.update_set _ _ _ _).trans (if_pos rfl))
    exact Connection.rows_storedText stores there
  have third : (c.serve s₂ drop).2 = s₃ := by
    have built : Plan.ofStatement (.dropTable "t" false) = .ok (.command (.dropTable n false)) := rfl
    rw [Connection.serve_of_command rfl built
      (Connection.dropTable_eq_ok.2 ⟨.inl ⟨t, found₂, rfl⟩, rfl⟩)]
    rfl
  have whole : before.2 = (c.serve s₂ drop).2 := by
    simp only [before, serveEach, first, second]
  have last : created.1 = .ok (.changed (.created ⟨none, "t"⟩)) := by
    obtain ⟨t', declares'⟩ : ∃ t, Plan.declaredTable n [⟨"b", "TEXT", []⟩] = .ok t := ⟨_, rfl⟩
    have built : Plan.ofStatement (.createTable "t" [⟨"b", "TEXT", []⟩]) =
        .ok (.command (.createTable n t')) :=
      bind_eq_ok.2 ⟨n, rfl, bind_eq_ok.2 ⟨t', declares', rfl⟩⟩
    have absent : Storage.get? s₃ (c.definitionKey n) = none :=
      (congrFun ((Write.remove _).get?_apply s₂.store.entries) _).trans
        ((Write.update_remove _ _ _).trans (if_pos rfl))
    simp only [created, whole, third]
    rw [Connection.serve_of_command rfl built
      (Connection.createTable_eq_ok.2 ⟨Connection.table?_eq_none.2 absent,
        (Plan.declaredTable_eq_ok declares').1, rfl, rfl⟩)]
    rfl
  have drops : drop.statement = .ok (.dropTable "t" false) := rfl
  have creates : createAgain.statement = .ok (.createTable "t" [⟨"b", "TEXT", []⟩]) := rfl
  have selects : select.statement = .ok (.select (.everything "t")) := rfl
  refine ⟨last, ?_⟩
  simp only [created, whole] at last ⊢
  exact (select_cut_short named found₂ read₂ rfl drops creates selects).2 _ last

end SqlStore
