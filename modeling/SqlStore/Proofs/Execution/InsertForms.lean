import Mathlib.Data.List.Nodup
import SqlStore.Proofs.Execution.IndependentUpdates

/-!
# Forms of one INSERT

A row is the same for every order of the columns that it is given under, and without a list of
columns it is given under the first ones. Rows that are given at once are stored with the text that
they have when they are given one by one, each of these times loaded and written again.
-/

namespace SqlStore

open Sql (Expr Statement)

/-! ## Another order -/

section Order

variable {α β : Type}

/-- The elements at the given places, in the order of the places, and those that stand after as
many. -/
def rearrange (places : List Nat) (xs : List α) : List α :=
  places.filterMap (fun i => xs[i]?) ++ xs.drop places.length

theorem map_rearrange (f : α → β) (places : List Nat) (xs : List α) :
    (rearrange places xs).map f = rearrange places (xs.map f) := by
  simp [rearrange, List.map_filterMap]

theorem filterMap_range (xs : List α) (n : Nat) :
    (List.range n).filterMap (fun i => xs[i]?) = xs.take n := by
  induction n with
  | zero => simp
  | succ n ih =>
      rw [List.range_succ, List.filterMap_append, ih, List.take_add_one]
      cases at' : xs[n]? <;> simp [at']

theorem rearrange_perm {places : List Nat} {n : Nat} (perm : places.Perm (List.range n))
    (xs : List α) : (rearrange places xs).Perm xs := by
  have width : places.length = n := by simpa using perm.length_eq
  have front := perm.filterMap fun i => xs[i]?
  rw [filterMap_range] at front
  rw [rearrange, width]
  simpa using front.append_right (xs.drop n)

theorem zip_rearrange (places : List Nat) {xs : List α} {ys : List β}
    (same : xs.length = ys.length) :
    (rearrange places xs).zip (rearrange places ys) = rearrange places (xs.zip ys) := by
  obtain ⟨zs, rfl, rfl⟩ : ∃ zs : List (α × β), xs = zs.map Prod.fst ∧ ys = zs.map Prod.snd :=
    ⟨xs.zip ys, (List.map_fst_zip same.le).symm, (List.map_snd_zip same.ge).symm⟩
  rw [← map_rearrange, ← map_rearrange, List.zip_map', List.zip_map']
  simp

end Order

theorem Row.put_perm {assigned assigned' : List (Nat × Value)} (perm : assigned.Perm assigned')
    (distinct : (assigned.map Prod.fst).Nodup) (row : Row) :
    put assigned row = put assigned' row := by
  refine perm.foldl_eq' (fun a mem b mem' row => ?_) row
  by_cases same : a.1 = b.1
  · rw [List.inj_on_of_nodup_map distinct mem mem' same]
  · exact List.set_comm _ _ same

theorem mapM_perm {ε α β : Type} {f : α → Except ε β} {xs xs' : List α} (perm : xs.Perm xs')
    {ys : List β} (ok : xs.mapM f = .ok ys) : ∃ ys', xs'.mapM f = .ok ys' ∧ ys.Perm ys' := by
  have each : ∀ x ∈ xs', ∃ y, f x = .ok y := by
    intro x mem
    have image := List.mem_map_of_mem (f := f) (perm.mem_iff.2 mem)
    rw [mapM_eq_ok.1 ok] at image
    obtain ⟨y, -, made⟩ := List.mem_map.1 image
    exact ⟨y, made.symm⟩
  obtain ⟨ys', made⟩ := exists_mapM_eq_ok each
  have images := perm.map f
  rw [mapM_eq_ok.1 ok, mapM_eq_ok.1 made] at images
  exact ⟨ys', made, (List.map_perm_map_iff fun _ _ => Except.ok.inj).1 images⟩

/-! ## Rows -/

namespace Table

variable {t : Table} {p : NumericPolicy} {names : List String} {vs : List Value} {row : Row}

def place (t : Table) (p : NumericPolicy) (given : String × Value) : Except Error (Nat × Value) := do
  let c ← t.column given.1
  return (c.index.toNat, ← c.encode p given.2)

theorem place_eq_ok {given : String × Value} {a : Nat × Value} :
    t.place p given = .ok a ↔ ∃ c s, t.column given.1 = .ok c ∧ c.encode p given.2 = .ok s ∧
      a = (c.index.toNat, s) := by
  simp only [place, bind_eq_ok, pure_eq_ok]
  constructor
  · rintro ⟨c, found, s, encoded, rfl⟩
    exact ⟨c, s, found, encoded, rfl⟩
  · rintro ⟨c, s, found, encoded, rfl⟩
    exact ⟨c, found, s, encoded, rfl⟩

theorem fill_names_eq_ok (same : names.length = vs.length) {start : Row} :
    (∃ columns, names.mapM t.column = .ok columns ∧ (columns.zip vs).foldlM
        (fun row (c, v) => return row.set c.index.toNat (← c.encode p v)) start = .ok row) ↔
      ∃ assigned, (names.zip vs).mapM (t.place p) = .ok assigned ∧
        row = Row.put assigned start := by
  induction names generalizing vs start with
  | nil =>
      constructor
      · rintro ⟨columns, made, ok⟩
        obtain rfl := pure_eq_ok.1 made
        exact ⟨[], rfl, (pure_eq_ok.1 ok).symm⟩
      · rintro ⟨assigned, made, rfl⟩
        obtain rfl := pure_eq_ok.1 made
        exact ⟨[], rfl, rfl⟩
  | cons name names ih =>
      obtain ⟨v, vs, rfl⟩ := List.exists_cons_of_length_eq_add_one same.symm
      have same := Nat.succ.inj same
      constructor
      · rintro ⟨columns, made, ok⟩
        rw [List.mapM_cons] at made
        obtain ⟨c, found, made⟩ := bind_eq_ok.1 made
        obtain ⟨columns, rest, made⟩ := bind_eq_ok.1 made
        obtain rfl := pure_eq_ok.1 made
        obtain ⟨next, step, ok⟩ := bind_eq_ok.1 ok
        obtain ⟨s, encoded, step⟩ := bind_eq_ok.1 step
        obtain rfl := pure_eq_ok.1 step
        obtain ⟨assigned, made, rfl⟩ := (ih same).1 ⟨columns, rest, ok⟩
        have first : t.place p (name, v) = .ok (c.index.toNat, s) :=
          place_eq_ok.2 ⟨c, s, found, encoded, rfl⟩
        refine ⟨(c.index.toNat, s) :: assigned, ?_, rfl⟩
        rw [List.zip_cons_cons, List.mapM_cons]
        exact bind_eq_ok.2 ⟨_, first, bind_eq_ok.2 ⟨assigned, made, rfl⟩⟩
      · rintro ⟨assigned, made, rfl⟩
        rw [List.zip_cons_cons, List.mapM_cons] at made
        obtain ⟨a, first, made⟩ := bind_eq_ok.1 made
        obtain ⟨assigned, rest, made⟩ := bind_eq_ok.1 made
        obtain rfl := pure_eq_ok.1 made
        obtain ⟨c, s, found, encoded, rfl⟩ := place_eq_ok.1 first
        obtain ⟨columns, made, ok⟩ := (ih same).2 ⟨assigned, rest, rfl⟩
        refine ⟨c :: columns, ?_, bind_eq_ok.2 ⟨_, bind_eq_ok.2 ⟨s, encoded, rfl⟩, ok⟩⟩
        rw [List.mapM_cons]
        exact bind_eq_ok.2 ⟨c, found, bind_eq_ok.2 ⟨columns, made, rfl⟩⟩

theorem rowOfColumns_eq_ok : t.rowOfColumns p names vs = .ok row ↔ names.length = vs.length ∧
    ∃ assigned, (names.zip vs).mapM (t.place p) = .ok assigned ∧
      row = Row.put assigned t.defaultRow := by
  rw [rowOfColumns]
  by_cases same : names.length = vs.length
  · rw [if_neg (Classical.not_not.2 same), ← fill_names_eq_ok same]
    exact bind_eq_ok.trans (and_iff_right same).symm
  · rw [if_pos same]
    constructor
    · rintro ⟨⟩
    · exact fun ok => absurd ok.1 same

theorem place_distinct (placed : Placed 0 t.columns) {given : List (String × Value)}
    (names : (given.map Prod.fst).Nodup) {assigned : List (Nat × Value)}
    (made : given.mapM (t.place p) = .ok assigned) : (assigned.map Prod.fst).Nodup := by
  let At (name : String) (place : Nat) : Prop :=
    ∃ c ∈ t.columns, c.name = name ∧ c.index.toNat = place
  have unique : Relator.BiUnique At := by
    constructor
    · rintro name name' place ⟨c, mem, rfl, here⟩ ⟨c', mem', rfl, here'⟩
      rw [placed.eq_of_index mem mem' (UInt64.toNat_inj.1 (here.trans here'.symm))]
    · rintro name place place' ⟨c, mem, here, rfl⟩ ⟨c', mem', here', rfl⟩
      rw [placed.eq_of_name mem mem' (here.trans here'.symm)]
  have at' : List.Forall₂ At (given.map Prod.fst) (assigned.map Prod.fst) := by
    rw [List.forall₂_map_left_iff, List.forall₂_map_right_iff]
    apply (forall₂_of_mapM_eq_ok made).imp
    intro g a ok
    obtain ⟨c, s, found, -, rfl⟩ := place_eq_ok.1 ok
    exact ⟨c, (column_eq_ok found).1, (column_eq_ok found).2, rfl⟩
  exact (List.rel_nodup unique at').1 names

theorem rowOfColumns_rearrange (placed : Placed 0 t.columns) (distinct : names.Nodup)
    {places : List Nat} (perm : places.Perm (List.range names.length)) :
    t.rowOfColumns p (rearrange places names) (rearrange places vs) = .ok row ↔
      t.rowOfColumns p names vs = .ok row := by
  rw [rowOfColumns_eq_ok, rowOfColumns_eq_ok, (rearrange_perm perm names).length_eq,
    (rearrange_perm perm vs).length_eq]
  refine and_congr_right fun same => ?_
  rw [zip_rearrange places same]
  have order := rearrange_perm perm (names.zip vs)
  have distinct : ((names.zip vs).map Prod.fst).Nodup := by
    rw [List.map_fst_zip same.le]
    exact distinct
  constructor
  · rintro ⟨assigned, made, rfl⟩
    obtain ⟨assigned', made', order'⟩ := mapM_perm order made
    refine ⟨assigned', made', Row.put_perm order' ?_ _⟩
    exact place_distinct placed ((order.map _).nodup_iff.2 distinct) made
  · rintro ⟨assigned, made, rfl⟩
    obtain ⟨assigned', made', order'⟩ := mapM_perm order.symm made
    exact ⟨assigned', made', Row.put_perm order' (place_distinct placed distinct made) _⟩

theorem column_name (placed : Placed 0 t.columns) {c : Column} (mem : c ∈ t.columns) :
    t.column c.name = .ok c := by
  rw [column]
  cases found : t.column? c.name with
  | none => simpa using List.find?_eq_none.1 found c mem
  | some c' =>
      have named := List.find?_some found
      rw [placed.eq_of_name (List.mem_of_find?_eq_some found) mem (eq_of_beq named)]

theorem rowOfValues_eq (placed : Placed 0 t.columns) (p : NumericPolicy)
    (width : vs.length ≤ t.columns.length) : t.rowOfValues p vs =
      t.rowOfColumns p ((t.columns.take vs.length).map Column.name) vs := by
  have found : ((t.columns.take vs.length).map Column.name).mapM t.column
      = .ok (t.columns.take vs.length) := by
    rw [mapM_eq_ok, List.map_map]
    exact List.map_congr_left fun c mem => column_name placed (List.mem_of_mem_take mem)
  have zipped : t.columns.zip vs = _ := List.zip_eq_zip_take_min
  rw [Nat.min_eq_right width, List.take_length] at zipped
  rw [rowOfValues, if_neg (Nat.not_lt.2 width), rowOfColumns, found, if_neg (by simpa using width),
    zipped]
  rfl

end Table

/-! ## Statements -/

namespace Connection

variable {c : Connection} {view : View} {name : String} {n : TableName} {t : Table}
  {stored : List Row} {columns? : Option (List String)} {rows : List (List Expr)}

theorem runStatement_insert_rearrange (named : TableName.read? name = some n)
    (found : c.table? view n = .ok (some t)) (read : c.rows view n = .ok stored)
    {names : List String} (distinct : names.Nodup) {places : List Nat}
    (perm : places.Perm (List.range names.length)) {answer : Answer} {ws : List Write} :
    c.runStatement view (.insert name (some (rearrange places names)) (rows.map (rearrange places)))
        = ⟨ws, .ok answer⟩ ↔
      c.runStatement view (.insert name (some names) rows) = ⟨ws, .ok answer⟩ := by
  rw [runStatement_insert_eq_ok named found read, runStatement_insert_eq_ok named found read,
    List.mapM_map, List.length_map]
  have constants : Constants (rows.map (rearrange places)) ↔ Constants rows := by
    rw [Constants, List.forall_mem_map]
    refine forall₂_congr fun row _ => forall_congr' fun e => ?_
    rw [(rearrange_perm perm row).mem_iff]
  have made (new : List Row) : rows.mapM ((fun row => t.newRow c.config.numericPolicy
      (some (rearrange places names)) (row.map Expr.given)) ∘ rearrange places) = .ok new ↔
        (rows.mapM fun row => t.newRow c.config.numericPolicy (some names) (row.map Expr.given))
          = .ok new := by
    refine mapM_congr_ok fun row _ new => ?_
    rw [Function.comp_apply, map_rearrange]
    exact Table.rowOfColumns_rearrange (Connection.placed found) distinct perm
  rw [constants]
  simp only [made]

theorem runStatement_insert_first (named : TableName.read? name = some n)
    (found : c.table? view n = .ok (some t)) (read : c.rows view n = .ok stored) {k : Nat}
    (widths : ∀ row ∈ rows, row.length = k) (fits : k ≤ t.columns.length) :
    c.runStatement view (.insert name none rows) =
      c.runStatement view (.insert name (some ((t.columns.take k).map Column.name)) rows) := by
  have planned (columns? : Option (List String)) : Plan.ofStatement (.insert name columns? rows)
      = ((rows.mapM fun row => row.mapM Plan.constant) >>= fun values =>
          pure (.command (.insert n columns? values))) := by
    rw [Plan.ofStatement, TableName.read_eq_ok.2 named]
    rfl
  rw [runStatement, runStatement, planned, planned]
  cases constants : rows.mapM fun row => row.mapM Plan.constant with
  | error e => rfl
  | ok values =>
      obtain ⟨-, rfl⟩ := constants_eq_ok_iff.1 constants
      have same : c.insert view n none (rows.map fun row => row.map Expr.given)
          = c.insert view n (some ((t.columns.take k).map Column.name))
              (rows.map fun row => row.map Expr.given) := by
        rw [insert_eq (table_eq_ok.2 found) read, insert_eq (table_eq_ok.2 found) read,
          mapM_congr (List.forall_mem_map.2 fun row mem => ?_)]
        have width : (row.map Expr.given).length = k := (List.length_map _).trans (widths row mem)
        rw [← width] at fits ⊢
        exact Table.rowOfValues_eq (Connection.placed found) _ fits
      change c.runPlan view _ = c.runPlan view _
      rw [runPlan, runPlan, runCommand, runCommand, same]

end Connection

/-! ## Rows one by one -/

theorem Effect.commit_memory (e : Effect) (s : Memory) :
    e.commit s = (e.answer, (Storage.writeAll s e.writes).2) := by
  have done := Storage.Memory.writeAll_done s e.writes
  rw [Effect.commit]
  split <;> simp_all

theorem Effect.commit_eq_ok {e e' : Effect} {answer : Answer}
    (same : ∀ ws, e = ⟨ws, .ok answer⟩ ↔ e' = ⟨ws, .ok answer⟩) {s s' : Memory} :
    e.commit s = (.ok answer, s') ↔ e'.commit s = (.ok answer, s') := by
  have transfer {e e' : Effect} (same : ∀ ws, e = ⟨ws, .ok answer⟩ → e' = ⟨ws, .ok answer⟩)
      (ok : e.commit s = (.ok answer, s')) : e'.commit s = (.ok answer, s') := by
    have answered : e.answer = .ok answer := by
      rw [Effect.commit_memory] at ok
      exact congrArg Prod.fst ok
    have eq := Effect.eq_of_answer answered
    rw [same _ eq, ← eq, ok]
  exact ⟨transfer fun ws => (same ws).1, transfer fun ws => (same ws).2⟩

theorem Memory.ext_get? {s s' : Memory} (same : Storage.get? s = Storage.get? s') : s = s' :=
  congrArg Memory.mk (Dict.ext_get? same)

def insertEach (c : Connection) (name : String) (columns? : Option (List String))
    (rows : List (List Expr)) : List (Connection × Request) :=
  rows.map fun row => (c, .tree (.insert name columns? [row]))

namespace Stocked

variable {c : Connection} {view : View} {name : String} {n : TableName} {t : Table}
  {stored new : List Row} {s : Memory} {columns? : Option (List String)} {rows : List (List Expr)}

theorem storeRows_append (stocked : Stocked c view n t stored)
    (stores : ∀ row ∈ new, t.StoresRow row) :
    c.storeRows n (stored ++ new.map fun row => row.map Value.stored)
      = c.storeRows n (stored ++ new) := by
  have text := Row.storedText_map_stored fun row mem => (stocked.stores_append stores row mem).exact
  rw [List.map_append, stocked.map_stored] at text
  rw [Connection.storeRows, Connection.storeRows, text]

theorem of_serve_insert (stocked : Stocked c (Storage.get? s) n t stored)
    (named : TableName.read? name = some n) {answer : Answer}
    (ok : (c.serve s (.tree (.insert name columns? rows))).1 = .ok answer) :
    Constants rows ∧ ∃ new,
      (rows.mapM fun row => t.newRow c.config.numericPolicy columns? (row.map Expr.given))
        = .ok new := by
  rw [(c.serve_memory s _).1] at ok
  obtain ⟨constants, new, made, -⟩ :=
    (Connection.runStatement_insert_eq_ok named stocked.found stocked.read).1
      (Effect.eq_of_answer ok)
  exact ⟨constants, new, made⟩

theorem serve_insert_row (stocked : Stocked c (Storage.get? s) n t stored)
    (named : TableName.read? name = some n) {row : List Expr} (constants : Constants [row])
    {r : Row} (made : t.newRow c.config.numericPolicy columns? (row.map Expr.given) = .ok r) :
    let served := c.serve s (.tree (.insert name columns? [row]))
    served.1 = .ok (.changed (.inserted 1)) ∧
      Storage.get? served.2 = updateAll (Storage.get? s) [c.storeRows n (stored ++ [r])] ∧
      Stocked c (Storage.get? served.2) n t (stored ++ [r.map Value.stored]) := by
  intro served
  have single : [row].mapM (fun row => t.newRow c.config.numericPolicy columns?
      (row.map Expr.given)) = .ok [r] := mapM_eq_ok.2 (congrArg (fun row => [row]) made)
  obtain ⟨answered, view⟩ :=
    Connection.serve_insert (r := .tree _) named stocked.found stocked.read constants single rfl
  refine ⟨answered, view, ?_⟩
  rw [view]
  exact stocked.append (stocked.stores_of_made single)

theorem serveEach_insertEach (named : TableName.read? name = some n)
    (stocked : Stocked c (Storage.get? s) n t stored) (constants : Constants rows)
    (made : (rows.mapM fun row => t.newRow c.config.numericPolicy columns? (row.map Expr.given))
      = .ok new) :
    let each := serveEach s (insertEach c name columns? rows)
    (∀ answer ∈ each.1, ∃ a, answer = .ok a) ∧ (rows ≠ [] →
      Storage.get? each.2 = updateAll (Storage.get? s) [c.storeRows n (stored ++ new)]) := by
  induction rows generalizing s stored new with
  | nil => exact ⟨List.forall_mem_nil _, fun nonempty => absurd rfl nonempty⟩
  | cons row rows ih =>
      intro each
      have stores := stocked.stores_of_made made
      obtain ⟨first, others⟩ := List.forall_mem_cons.1 constants
      rw [List.mapM_cons] at made
      obtain ⟨r, single, later⟩ := bind_eq_ok.1 made
      obtain ⟨more, rest, last⟩ := bind_eq_ok.1 later
      obtain rfl := pure_eq_ok.1 last
      obtain ⟨answered, view, next⟩ :=
        stocked.serve_insert_row named (List.forall_mem_singleton.2 first) single
      obtain ⟨answers, views⟩ := ih next others rest
      refine ⟨List.forall_mem_cons.2 ⟨⟨_, answered⟩, answers⟩, fun _ => ?_⟩
      cases rows with
      | nil =>
          cases pure_eq_ok.1 rest
          exact view
      | cons row' rows =>
          -- The last text holds the first row as it is loaded again.
          have same := (next.storeRows_append (next.stores_of_made rest)).symm.trans
            (Eq.trans (by simp) (stocked.storeRows_append stores))
          refine (views (by simp)).trans ?_
          rw [view, same]
          exact Write.update_set_twice ..

theorem of_serveEach_insertEach (named : TableName.read? name = some n)
    (stocked : Stocked c (Storage.get? s) n t stored)
    (ok : ∀ answer ∈ (serveEach s (insertEach c name columns? rows)).1, ∃ a, answer = .ok a) :
    Constants rows ∧ ∃ new,
      (rows.mapM fun row => t.newRow c.config.numericPolicy columns? (row.map Expr.given))
        = .ok new := by
  induction rows generalizing s stored with
  | nil => exact ⟨List.forall_mem_nil _, [], rfl⟩
  | cons row rows ih =>
      obtain ⟨⟨a, first⟩, others⟩ := List.forall_mem_cons.1 ok
      obtain ⟨constant, rs, made⟩ := stocked.of_serve_insert named first
      rw [List.mapM_cons] at made
      obtain ⟨r, single, -⟩ := bind_eq_ok.1 made
      obtain ⟨-, -, next⟩ := stocked.serve_insert_row named constant single
      obtain ⟨constants, more, rest⟩ := ih next others
      refine ⟨List.forall_mem_cons.2 ⟨constant row (by simp), constants⟩, r :: more, ?_⟩
      rw [List.mapM_cons]
      exact bind_eq_ok.2 ⟨r, single, bind_eq_ok.2 ⟨more, rest, rfl⟩⟩

end Stocked

/-- An `INSERT` can be written in several forms. With its columns in another order, and the values
of every row in the same, it does the same. Without a list of columns it does what it does under
the first ones. It succeeds if and only if `INSERT`s of its rows, one after another, all succeed,
and then leaves the store that they leave. -/
theorem Connection.serve_insert_forms (c : Connection) (s : Memory) {name : String} {n : TableName}
    {t : Table} {stored : List Row} (named : TableName.read? name = some n)
    (stocked : Stocked c (Storage.get? s) n t stored) (rows : List (List Expr)) :
    let insert (columns? : Option (List String)) (rows : List (List Expr)) :=
      c.serve s (.tree (.insert name columns? rows))
    (∀ names places, names.Nodup → places.Perm (List.range names.length) → ∀ answer s',
      insert (some (rearrange places names)) (rows.map (rearrange places)) = (.ok answer, s') ↔
        insert (some names) rows = (.ok answer, s')) ∧
    (∀ k ≤ t.columns.length, (∀ row ∈ rows, row.length = k) →
      insert none rows = insert (some ((t.columns.take k).map Column.name)) rows) ∧
    ∀ columns?, rows ≠ [] →
      let each := serveEach s (insertEach c name columns? rows)
      ((∃ answer, (insert columns? rows).1 = .ok answer) ↔
        ∀ answer ∈ each.1, ∃ a, answer = .ok a) ∧
      ∀ answer, (insert columns? rows).1 = .ok answer → (insert columns? rows).2 = each.2 := by
  intro insert
  refine ⟨fun names places distinct perm answer s' => ?_, fun k fits widths => ?_,
    fun columns? nonempty => ?_⟩
  · exact Effect.commit_eq_ok fun ws => Connection.runStatement_insert_rearrange named stocked.found
      stocked.read distinct perm
  · exact congrArg (fun e : Effect => e.commit s)
      (Connection.runStatement_insert_first named stocked.found stocked.read widths fits)
  · intro each
    have together {answer : Answer} (ok : (insert columns? rows).1 = .ok answer) :
        (∀ answer ∈ each.1, ∃ a, answer = .ok a) ∧ (insert columns? rows).2 = each.2 := by
      obtain ⟨constants, new, made⟩ := stocked.of_serve_insert named ok
      obtain ⟨answers, view⟩ := Stocked.serveEach_insertEach named stocked constants made
      have done := Connection.serve_insert (r := .tree _) named stocked.found stocked.read constants
        made rfl
      exact ⟨answers, Memory.ext_get? (done.2.trans (view nonempty).symm)⟩
    refine ⟨⟨fun ⟨answer, ok⟩ => (together ok).1, fun ok => ?_⟩, fun answer ok => (together ok).2⟩
    obtain ⟨constants, new, made⟩ := Stocked.of_serveEach_insertEach named stocked ok
    exact ⟨_, (serve_insert (r := .tree _) named stocked.found stocked.read constants made rfl).1⟩

theorem Connection.serve_insert_forms_two :
    let c : Connection := ⟨"db", .default⟩
    let n : TableName := ⟨none, "t"⟩
    let t : Table := ⟨"t", [⟨"a", .integer, 0, none, none⟩, ⟨"b", .string, 1, none, none⟩]⟩
    let s : Memory := ⟨.ofList [(c.definitionKey n, t.definitionText), (c.rowsKey n, "[[1,null]]")]⟩
    let rows : List (List Expr) :=
      [[.literal (.text "one"), .literal (.text "x")], [.literal (.int 2), .literal (.text "y")]]
    let turned : List (List Expr) :=
      [[.literal (.text "x"), .literal (.text "one")], [.literal (.text "y"), .literal (.int 2)]]
    let insert (columns? : Option (List String)) (rows : List (List Expr)) :=
      c.serve s (.tree (.insert "t" columns? rows))
    let each := serveEach s (insertEach c "t" none rows)
    let answer : Answer := .changed (.inserted 2)
    ∃ s', Storage.get? s' (c.rowsKey n) = some "[[1,null],[null,\"x\"],[2,\"y\"]]" ∧
      insert none rows = (.ok answer, s') ∧ insert (some ["a", "b"]) rows = (.ok answer, s') ∧
      insert (some ["b", "a"]) turned = (.ok answer, s') ∧
      (∀ answer ∈ each.1, ∃ a, answer = .ok a) ∧ each.2 = s' := by
  intro c n t s rows turned insert each answer
  have named : TableName.read? "t" = some n := by decide
  have keys : Storage.get? s (c.definitionKey n) = some t.definitionText ∧
      Storage.get? s (c.rowsKey n) = some (Row.storedText [[.int 1, .null]]) := by decide
  have exact : ∀ row ∈ ([[.int 1, .null]] : List Row), ∀ v ∈ row, v.exact := by decide
  have stocked : Stocked c (Storage.get? s) n t [[.int 1, .null]] :=
    { found := Connection.table?_definitionText (t := t) rfl keys.1
      noFloat := by simp [Table.NoFloat, t]
      read := Connection.rows_of_exact exact keys.2
      fit := List.forall_mem_singleton.2 (.cons (.inr ⟨1, rfl⟩) (.cons (.inl rfl) .nil)) }
  have constants : Constants rows := by simp [Constants, rows, Plan.constant, Expr.given]
  have made : (rows.mapM fun row => t.newRow c.config.numericPolicy none (row.map Expr.given))
      = .ok [[.notANumber, .text "x"], [.int 2, .text "y"]] :=
    eq_ok_of_toOption (by decide)
  obtain ⟨answered, view⟩ :=
    serve_insert (r := .tree _) named stocked.found stocked.read constants made rfl
  have text : Row.storedText ([[.int 1, .null]] ++ [[.notANumber, .text "x"], [.int 2, .text "y"]])
      = "[[1,null],[null,\"x\"],[2,\"y\"]]" := by decide
  have forms := c.serve_insert_forms s named stocked rows
  generalize done : c.serve s (.tree (.insert "t" none rows)) = served at *
  obtain ⟨outcome, s'⟩ := served
  obtain rfl : outcome = .ok answer := answered
  obtain ⟨reordered, listed, together⟩ := forms
  have first : insert (some ["a", "b"]) rows = (.ok answer, s') :=
    (listed 2 (by decide) (by simp [rows])).symm.trans done
  have second : insert (some ["b", "a"]) turned = (.ok answer, s') :=
    (reordered ["a", "b"] [1, 0] (by decide) (by decide) answer s').2 first
  obtain ⟨answers, same⟩ := together none (by simp [rows])
  dsimp only at answers same
  rw [done] at answers same
  refine ⟨s', ?_, done, first, second, answers.1 ⟨answer, rfl⟩, (same answer rfl).symm⟩
  rw [← text]
  exact (congrFun view _).trans (c.updateAll_storeRows _ n _)

end SqlStore
