import SqlStore.Proofs.Execution.Matching
import SqlStore.Proofs.Schema.Reloaded

namespace SqlStore

open Query (Scope)
open Sql (Expr Statement)

/-! ## Values put at their places -/

namespace Row

def put (assigned : List (Nat × Value)) (row : Row) : Row :=
  assigned.foldl (fun row (i, v) => row.set i v) row

variable {assigned assigned' : List (Nat × Value)} {i : Nat}

theorem put_set (others : ∀ a ∈ assigned, a.1 ≠ i) (v : Value) (row : Row) :
    put assigned (row.set i v) = (put assigned row).set i v := by
  induction assigned generalizing row with
  | nil => rfl
  | cons a assigned ih =>
      obtain ⟨other, others⟩ := List.forall_mem_cons.1 others
      change put assigned ((row.set i v).set a.1 a.2) = (put assigned (row.set a.1 a.2)).set i v
      rw [List.set_comm _ _ other.symm, ih others]

theorem put_comm (apart : ∀ a ∈ assigned, ∀ b ∈ assigned', a.1 ≠ b.1) (row : Row) :
    put assigned (put assigned' row) = put assigned' (put assigned row) := by
  induction assigned generalizing row with
  | nil => rfl
  | cons a assigned ih =>
      obtain ⟨first, rest⟩ := List.forall_mem_cons.1 apart
      change put assigned ((put assigned' row).set a.1 a.2) =
        put assigned' (put assigned (row.set a.1 a.2))
      rw [← put_set (fun b mem => (first b mem).symm), ih rest]

theorem getElem?_put (others : ∀ a ∈ assigned, a.1 ≠ i) (row : Row) :
    (put assigned row)[i]? = row[i]? := by
  induction assigned generalizing row with
  | nil => rfl
  | cons a assigned ih =>
      obtain ⟨other, others⟩ := List.forall_mem_cons.1 others
      change (put assigned (row.set a.1 a.2))[i]? = row[i]?
      rw [ih others, List.getElem?_set_ne other]

theorem map_stored_put (assigned : List (Nat × Value)) (row : Row) :
    (put assigned row).map Value.stored =
      put (assigned.map fun a => (a.1, a.2.stored)) (row.map Value.stored) := by
  induction assigned generalizing row with
  | nil => rfl
  | cons a assigned ih =>
      change (put assigned (row.set a.1 a.2)).map Value.stored = _
      rw [ih, List.map_set]
      rfl

theorem storedText_map_stored {rows : List Row} (exact : ∀ row ∈ rows, ∀ v ∈ row, v.exact) :
    storedText (rows.map fun row => row.map Value.stored) = storedText rows := by
  rw [storedText, storedText, List.map_map]
  refine congrArg (fun rows => (Json.array rows).text) (List.map_congr_left fun row mem => ?_)
  refine congrArg Json.array ((List.map_map ..).trans (List.map_congr_left fun v mem' => ?_))
  exact Value.stored_toJson (exact row mem v mem')

end Row

/-! ## The rows of an update -/

structure Update where
  assignments : Dict Expr
  where? : Option Expr

namespace Update

def statement (u : Update) (name : String) : Statement :=
  .update name u.assignments u.where?

structure Checked (u : Update) (t : Table) (p : NumericPolicy) (assigned : List (Nat × Value)) :
    Prop where
  assignable : ∀ e ∈ u.assignments.entries, t.Assignable p e.1 e.2
  made : ((u.assignments.map Expr.given).entries.mapM fun e => t.assignment p e.1 e.2) =
    .ok assigned

theorem exists_checked {u : Update} {t : Table} {p : NumericPolicy}
    (assignable : ∀ e ∈ u.assignments.entries, t.Assignable p e.1 e.2) :
    ∃ assigned, u.Checked t p assigned := by
  obtain ⟨assigned, made⟩ := Table.exists_assigned assignable
  exact ⟨assigned, assignable, made⟩

def written (u : Update) (t : Table) (config : Config) (assigned : List (Nat × Value)) (row : Row) :
    Row :=
  if t.rowHolds config u.where? row then t.assign assigned row else row

def reread (u : Update) (t : Table) (config : Config) (assigned : List (Nat × Value)) (row : Row) :
    Row :=
  (u.written t config assigned row).map Value.stored

/-- Whether two updates assign different columns, and neither tests one that the other assigns. -/
structure Independent (a b : Update) : Prop where
  apart : ∀ name ∈ a.assignments.keys, name ∉ b.assignments.keys
  left : ∀ e ∈ a.where?, ∀ column ∈ e.references, column.name ∉ b.assignments.keys
  right : ∀ e ∈ b.where?, ∀ column ∈ e.references, column.name ∉ a.assignments.keys

theorem Independent.symm {a b : Update} (independent : a.Independent b) : b.Independent a :=
  ⟨fun name mem mem' => independent.apart name mem' mem, independent.right, independent.left⟩

section Rows

variable {u : Update} {t : Table} {config : Config} {assigned : List (Nat × Value)} {row : Row}

theorem Checked.places (checked : u.Checked t config.numericPolicy assigned) :
    ∀ a ∈ assigned, ∃ c ∈ t.columns, a.1 = c.index.toNat ∧ c.name ∈ u.assignments.keys := by
  intro a mem
  obtain ⟨e, mem', ok⟩ := exists_of_mapM_eq_ok checked.made mem
  obtain ⟨c, found, ok⟩ := bind_eq_ok.1 ok
  obtain ⟨there, named⟩ := Table.column_eq_ok found
  split at ok
  · cases ok
  · obtain ⟨v, -, ok⟩ := bind_eq_ok.1 ok
    obtain rfl := pure_eq_ok.1 ok
    obtain ⟨e', mem'', rfl⟩ := List.mem_map.1 mem'
    exact ⟨c, there, rfl, named ▸ List.mem_map_of_mem mem''⟩

theorem Checked.elsewhere (checked : u.Checked t config.numericPolicy assigned)
    (placed : Table.Placed 0 t.columns) {c : Column} (mem : c ∈ t.columns)
    (free : c.name ∉ u.assignments.keys) : ∀ a ∈ assigned, a.1 ≠ c.index.toNat := by
  intro a mem' same
  obtain ⟨c', there, place, named⟩ := checked.places a mem'
  have eq : c = c' := placed.eq_of_index mem there (UInt64.toNat_inj.1 (same.symm.trans place))
  exact free (eq ▸ named)

variable (placed : Table.Placed 0 t.columns) (noFloat : t.NoFloat)
  (checked : u.Checked t config.numericPolicy assigned)
include placed noFloat checked

theorem written_stores (fits : t.FitsRow row) : t.StoresRow (u.written t config assigned row) := by
  rw [written]
  split
  · refine Table.assign_stores placed (fun a mem => ?_) (fits.stores noFloat)
    obtain ⟨e, -, ok⟩ := exists_of_mapM_eq_ok checked.made mem
    exact Table.assignment_stores noFloat ok
  · exact fits.stores noFloat

theorem reread_fits (fits : t.FitsRow row) : t.FitsRow (u.reread t config assigned row) :=
  (written_stores placed noFloat checked fits).fits

omit placed checked in
theorem reread_eq (fits : t.FitsRow row) : u.reread t config assigned row =
    if t.rowHolds config u.where? row then Row.put (assigned.map fun a => (a.1, a.2.stored)) row
    else row := by
  rw [reread, written]
  split
  · change (Row.put assigned (t.fitRow row)).map Value.stored = _
    rw [Table.fitRow_eq fits.length_eq.symm, Row.map_stored_put, fits.map_stored noFloat]
  · exact fits.map_stored noFloat

theorem getD_reread (fits : t.FitsRow row) {c : Column} (mem : c ∈ t.columns)
    (free : c.name ∉ u.assignments.keys) :
    (u.reread t config assigned row).getD c.index.toNat .null = row.getD c.index.toNat .null := by
  rw [reread_eq noFloat fits]
  split
  · rw [List.getD_eq_getElem?_getD, List.getD_eq_getElem?_getD, Row.getElem?_put]
    exact List.forall_mem_map.2 (checked.elsewhere placed mem free)
  · rfl

theorem rowHolds_reread (fits : t.FitsRow row) {where? : Option Expr}
    (others : ∀ e ∈ where?, ∀ column ∈ e.references, column.name ∉ u.assignments.keys) :
    t.rowHolds config where? (u.reread t config assigned row) = t.rowHolds config where? row := by
  -- A condition depends on the columns that it names alone, and these have kept their values.
  refine Sql.holdsAll_congr fun e mem column ref => ?_
  change ((t.recordOf none _ _).get? column.name).getD .null =
    ((t.recordOf none _ _).get? column.name).getD .null
  by_cases there : column.name ∈ t.columnNames none
  · obtain ⟨c, mem', named⟩ := List.mem_map.1 there
    have same : c.name = column.name := named
    have free : c.name ∉ u.assignments.keys := same ▸ others e mem column ref
    rw [← named, Table.get?_recordOf placed mem', Table.get?_recordOf placed mem',
      getD_reread placed noFloat checked fits mem' free]
  · rw [Table.get?_recordOf_of_not_mem there, Table.get?_recordOf_of_not_mem there]

end Rows

variable {a b : Update} {t : Table} {config : Config} {as bs : List (Nat × Value)}

theorem reread_comm (placed : Table.Placed 0 t.columns) (noFloat : t.NoFloat)
    (checkedA : a.Checked t config.numericPolicy as)
    (checkedB : b.Checked t config.numericPolicy bs) (independent : a.Independent b) {row : Row}
    (fits : t.FitsRow row) :
    b.reread t config bs (a.reread t config as row) =
      a.reread t config as (b.reread t config bs row) := by
  have fitsA := reread_fits placed noFloat checkedA fits
  have fitsB := reread_fits placed noFloat checkedB fits
  have apart : ∀ x ∈ as.map fun a => (a.1, a.2.stored), ∀ y ∈ bs.map fun b => (b.1, b.2.stored),
      x.1 ≠ y.1 := by
    refine List.forall_mem_map.2 fun x mem => List.forall_mem_map.2 fun y mem' same => ?_
    obtain ⟨c, there, place, named⟩ := checkedA.places x mem
    have free := independent.apart c.name named
    exact checkedB.elsewhere placed there free y mem' (same.symm.trans place)
  rw [reread_eq noFloat fitsA, reread_eq noFloat fitsB,
    rowHolds_reread placed noFloat checkedA fits independent.right,
    rowHolds_reread placed noFloat checkedB fits independent.left, reread_eq noFloat fits,
    reread_eq noFloat fits]
  by_cases holdsA : t.rowHolds config a.where? row = true
  · by_cases holdsB : t.rowHolds config b.where? row = true
    · rw [if_pos holdsA, if_pos holdsA, if_pos holdsB, if_pos holdsB]
      exact (Row.put_comm apart row).symm
    · rw [if_neg holdsB, if_neg holdsB]
  · rw [if_neg holdsA, if_neg holdsA]

end Update

/-! ## Updates of a stored table -/

theorem Write.update_set_twice (key text text' : String) (view : View) :
    (Write.set key text').update ((Write.set key text).update view) =
      (Write.set key text').update view := by
  funext k
  rw [update_set, update_set, update_set]
  split <;> rfl

namespace Stocked

variable {c : Connection} {view : View} {name : String} {n : TableName} {t : Table}
  {stored : List Row} {u : Update} {assigned : List (Nat × Value)}

theorem update (stocked : Stocked c view n t stored) (named : TableName.read? name = some n)
    (checked : u.Checked t c.config.numericPolicy assigned) :
    let written := stored.map (u.written t c.config assigned)
    c.runStatement view (u.statement name) = ⟨[c.storeRows n written],
        .ok (.changed (.updated (stored.countP (t.rowHolds c.config u.where?))))⟩ ∧
      Stocked c (updateAll view [c.storeRows n written]) n t
        (stored.map (u.reread t c.config assigned)) := by
  intro written
  obtain ⟨assigned', made, ran⟩ := Connection.runStatement_update named stocked.found stocked.read
    u.where? checked.assignable
  obtain rfl := Except.ok.inj (made.symm.trans checked.made)
  have stores : ∀ row ∈ written, t.StoresRow row := List.forall_mem_map.2 fun row mem =>
    Update.written_stores (Connection.placed stocked.found) stocked.noFloat checked
      (stocked.fit row mem)
  have next := stocked.storeRows stores
  rw [List.map_map] at next
  exact ⟨ran, next⟩

theorem update_after (stocked : Stocked c view n t stored) (named : TableName.read? name = some n)
    {a b : Update} {as bs : List (Nat × Value)} (checkedA : a.Checked t c.config.numericPolicy as)
    (checkedB : b.Checked t c.config.numericPolicy bs) (independent : a.Independent b) :
    let first := updateAll view (c.runStatement view (a.statement name)).writes
    let second := c.runStatement first (b.statement name)
    second.answer = .ok (.changed (.updated (stored.countP (t.rowHolds c.config b.where?)))) ∧
      updateAll first second.writes = (c.storeRows n (stored.map fun row =>
        b.reread t c.config bs (a.reread t c.config as row))).update view := by
  intro first second
  obtain ⟨ranA, next⟩ := stocked.update named checkedA
  have view₁ : first = updateAll view [c.storeRows n (stored.map (a.written t c.config as))] := by
    simp only [first, ranA]
  rw [← view₁] at next
  obtain ⟨ranB, last⟩ := next.update named checkedB
  have placed := Connection.placed stocked.found
  constructor
  · simp only [second, ranB]
    rw [List.countP_map]
    refine congrArg (fun k => Except.ok (Answer.changed (.updated k))) (List.countP_congr ?_)
    intro row mem
    rw [Function.comp_apply, Update.rowHolds_reread placed stocked.noFloat checkedA
      (stocked.fit row mem) independent.right]
  -- The second text is that of the rows as they are written; read again, they have the same one.
  · let rows := (stored.map (a.reread t c.config as)).map (b.written t c.config bs)
    have exact : ∀ row ∈ rows, ∀ v ∈ row, v.exact := fun row mem => by
      obtain ⟨row, mem', rfl⟩ := List.mem_map.1 mem
      exact (Update.written_stores placed stocked.noFloat checkedB (next.fit row mem')).exact
    have text := Row.storedText_map_stored exact
    rw [List.map_map, List.map_map] at text
    have writes : updateAll first second.writes = (c.storeRows n rows).update
        ((c.storeRows n (stored.map (a.written t c.config as))).update view) := by
      simp only [second, ranB, view₁]
      rfl
    rw [writes, Connection.storeRows, Connection.storeRows, Connection.storeRows, ← text,
      Write.update_set_twice]
    rfl

end Stocked

/-- Updates that do not depend on each other commute. In either order both succeed, each counts the
same rows, and the same text is stored in the end. -/
theorem Connection.runStatement_updates_comm (c : Connection) (view : View) {name : String}
    {n : TableName} {t : Table} {stored : List Row} (named : TableName.read? name = some n)
    (stocked : Stocked c view n t stored) {a b : Update}
    (assignableA : ∀ e ∈ a.assignments.entries, t.Assignable c.config.numericPolicy e.1 e.2)
    (assignableB : ∀ e ∈ b.assignments.entries, t.Assignable c.config.numericPolicy e.1 e.2)
    (independent : a.Independent b) :
    let answer (view : View) (u : Update) := (c.runStatement view (u.statement name)).answer
    let after (view : View) (u : Update) : View :=
      updateAll view (c.runStatement view (u.statement name)).writes
    ∃ countA countB rows,
      answer view a = .ok (.changed (.updated countA)) ∧
      answer (after view b) a = .ok (.changed (.updated countA)) ∧
      answer view b = .ok (.changed (.updated countB)) ∧
      answer (after view a) b = .ok (.changed (.updated countB)) ∧
      after (after view a) b (c.rowsKey n) = some (Row.storedText rows) ∧
      after (after view b) a = after (after view a) b := by
  intro answer after
  obtain ⟨as, checkedA⟩ := Update.exists_checked assignableA
  obtain ⟨bs, checkedB⟩ := Update.exists_checked assignableB
  have firstA := congrArg Effect.answer (stocked.update named checkedA).1
  have firstB := congrArg Effect.answer (stocked.update named checkedB).1
  obtain ⟨thenB, lastB⟩ := stocked.update_after named checkedA checkedB independent
  obtain ⟨thenA, lastA⟩ := stocked.update_after named checkedB checkedA independent.symm
  refine ⟨_, _, _, firstA, thenA, firstB, thenB, (congrFun lastB _).trans (if_pos rfl), ?_⟩
  refine lastA.trans (Eq.trans ?_ lastB.symm)
  rw [List.map_congr_left fun row mem => Update.reread_comm (Connection.placed stocked.found)
    stocked.noFloat checkedA checkedB independent (stocked.fit row mem)]

theorem Connection.runStatement_updates_comm_three :
    let c : Connection := ⟨"db", .default⟩
    let t : Table := ⟨"t", [⟨"id", .integer, 0, none, none⟩, ⟨"x", .integer, 1, none, none⟩,
      ⟨"y", .integer, 2, none, none⟩]⟩
    let stored : List Row := [1, 2, 3].map fun i => [.int i, .int i, .int i]
    let view : View := fun key =>
      if key = c.definitionKey ⟨none, "t"⟩ then some t.definitionText
      else if key = c.rowsKey ⟨none, "t"⟩ then some (Row.storedText stored) else none
    let a : Update := ⟨.ofList [("x", .literal (.int 0))],
      some (.binary .greater (.column ⟨none, "x"⟩) (.literal (.int 1)))⟩
    let b : Update := ⟨.ofList [("y", .literal (.int 7))],
      some (.binary .less (.column ⟨none, "id"⟩) (.literal (.int 3)))⟩
    let after (view : View) (u : Update) : View :=
      updateAll view (c.runStatement view (u.statement "t")).writes
    (c.runStatement (after view b) (a.statement "t")).answer = .ok (.changed (.updated 2)) ∧
      (c.runStatement (after view a) (b.statement "t")).answer = .ok (.changed (.updated 2)) ∧
      after (after view b) a = after (after view a) b := by
  intro c t stored view a b after
  have named : TableName.read? "t" = some ⟨none, "t"⟩ := rfl
  have exact : ∀ row ∈ stored, ∀ v ∈ row, v.exact := by decide
  have stocked : Stocked c view ⟨none, "t"⟩ t stored :=
    { found := table?_definitionText (t := t) rfl (if_pos rfl)
      noFloat := by simp [Table.NoFloat, t]
      read := rows_of_exact exact rfl
      fit := List.forall_mem_map.2 fun i _ =>
        .cons (.inr ⟨i, rfl⟩) (.cons (.inr ⟨i, rfl⟩) (.cons (.inr ⟨i, rfl⟩) .nil)) }
  have assignableA : ∀ e ∈ a.assignments.entries, t.Assignable c.config.numericPolicy e.1 e.2 :=
    List.forall_mem_singleton.2 ⟨.int 0, ⟨"x", .integer, 1, none, none⟩, rfl, rfl, rfl, rfl⟩
  have assignableB : ∀ e ∈ b.assignments.entries, t.Assignable c.config.numericPolicy e.1 e.2 :=
    List.forall_mem_singleton.2 ⟨.int 7, ⟨"y", .integer, 2, none, none⟩, rfl, rfl, rfl, rfl⟩
  have independent : a.Independent b := by
    constructor <;> decide
  obtain ⟨countA, countB, rows, answerA, thenA, answerB, thenB, -, same⟩ :=
    c.runStatement_updates_comm view named stocked assignableA assignableB independent
  obtain ⟨_, -, ranA⟩ := runStatement_update named stocked.found stocked.read a.where? assignableA
  obtain ⟨_, -, ranB⟩ := runStatement_update named stocked.found stocked.read b.where? assignableB
  have two : stored.countP (t.rowHolds c.config a.where?) = 2 ∧
      stored.countP (t.rowHolds c.config b.where?) = 2 := by decide
  have countsA := answerA.symm.trans (congrArg Effect.answer ranA)
  have countsB := answerB.symm.trans (congrArg Effect.answer ranB)
  rw [two.1] at countsA
  rw [two.2] at countsB
  exact ⟨thenA.trans countsA, thenB.trans countsB, same⟩

end SqlStore
