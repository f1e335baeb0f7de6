import SqlStore.Proofs.Execution.Footprint
import SqlStore.Proofs.Execution.Identity

/-!
# Isolation of tables

A request reads and changes nothing but the tables that it names. So it has no part in the answers
of later requests about other tables, of its own database or of another, whether it succeeds or
fails.
-/

namespace SqlStore

open Sql (Statement)

variable {c d : Connection} {view view' : View} {r q : Request}

/-! ## Tables of a request -/

namespace Connection

def RefersTo (c : Connection) (r : Request) (id : TableId) : Prop :=
  ∃ s n, r.statement = .ok s ∧ (∃ name ∈ s.tableNames, TableName.read? name = some n) ∧
    c.identity n = id

theorem RefersTo.database {id : TableId} (refers : c.RefersTo r id) :
    id.database = c.database := by
  obtain ⟨s, n, -, -, rfl⟩ := refers
  rfl

/-- Whether a request names none of the given tables. -/
def Avoids (c : Connection) (r : Request) (X : TableId → Prop) : Prop :=
  ∀ id, c.RefersTo r id → ¬ X id

theorem refersTo_target {s : Statement} {command : Command} (parsed : r.statement = .ok s)
    (built : Plan.ofStatement s = .ok (.command command)) (id : TableId) :
    c.RefersTo r id ↔ id = c.identity command.target := by
  obtain ⟨name, only, named⟩ := Plan.ofStatement_target built
  constructor
  · rintro ⟨s', n, parsed', ⟨name', mem, named'⟩, rfl⟩
    obtain rfl := Except.ok.inj (parsed.symm.trans parsed')
    rw [only, List.mem_singleton] at mem
    subst mem
    rw [Option.some.inj (named.symm.trans named')]
  · rintro rfl
    exact ⟨s, _, parsed, ⟨name, only ▸ List.mem_singleton_self name, named⟩, rfl⟩

theorem avoids_of_database (other : d.database ≠ c.database) : d.Avoids q (c.RefersTo r) :=
  fun _ refers refers' => other (refers.database.symm.trans refers'.database)

/-! ## What is read -/

theorem runCommand_congr {command : Command}
    (agree : ∀ p, view' (c.key command.target p) = view (c.key command.target p)) :
    c.runCommand view' command = c.runCommand view command := by
  have table := table?_congr (agree .definition)
  have rows := rows_congr (agree .rows)
  cases command <;> simp only [Command.target] at table rows <;>
    simp only [runCommand, createTable, dropTable, insert, update, delete, Connection.table, table,
      rows]

theorem relation_congr {plan : Plan}
    (agree : ∀ n ∈ plan.tables, ∀ p, view' (c.key n p) = view (c.key n p)) :
    c.relation view' plan = c.relation view plan := by
  induction plan with
  | command command =>
      rw [relation, relation, runCommand_congr (agree _ (List.mem_singleton_self _))]
  | scan name source? =>
      have agree := agree name (List.mem_singleton_self name)
      have table := table?_congr (agree .definition)
      have rows := rows_congr (agree .rows)
      simp only [relation, scan, Connection.table, table, rows]
  | join left right on? keepLeft keepRight ihLeft ihRight =>
      rw [relation, relation, ihLeft fun n mem => agree n (List.mem_append_left _ mem),
        ihRight fun n mem => agree n (List.mem_append_right _ mem)]
  | filter _ _ _ ih | project _ _ _ ih | aggregate _ _ _ _ ih | order _ _ _ ih | offset _ _ ih
  | limit _ _ ih => rw [relation, relation, ih agree]

theorem runPlan_congr {plan : Plan}
    (agree : ∀ n ∈ plan.tables, ∀ p, view' (c.key n p) = view (c.key n p)) :
    c.runPlan view' plan = c.runPlan view plan := by
  cases plan with
  | command command =>
      rw [runPlan, runPlan, runCommand_congr (agree _ (List.mem_singleton_self _))]
  | _ => simp only [runPlan, relation_congr agree]

theorem effect_congr
    (agree : ∀ n p, n.Written → c.RefersTo r (c.identity n) →
      view' (c.key n p) = view (c.key n p)) : c.effect view' r = c.effect view r := by
  rw [effect, effect]
  cases parsed : r.statement with
  | error e => rfl
  | ok s =>
      simp only [runStatement]
      cases built : Plan.ofStatement s with
      | error e => rfl
      | ok plan =>
          refine runPlan_congr fun n mem p => ?_
          obtain ⟨name, mem, named⟩ := Plan.ofStatement_tables built n mem
          exact agree n p ⟨name, named⟩ ⟨s, n, parsed, ⟨name, mem, named⟩, rfl⟩

end Connection

/-! ## What is changed -/

namespace Connection

theorem effect_key {w : Write} (mem : w ∈ (c.effect view r).writes) :
    ∃ n p, n.Written ∧ w.key = c.key n p ∧ ∀ id, c.RefersTo r id ↔ id = c.identity n := by
  rcases c.effect_cases view r with none | ⟨s, command, ws, change, parsed, built, ran, effect⟩
  · rw [none] at mem
    cases mem
  · rw [effect] at mem
    obtain ⟨p, key⟩ := (runCommand_footprint ran).key mem
    exact ⟨command.target, p, Plan.ofStatement_written built, key, refersTo_target parsed built⟩

end Connection

variable {σ : Type} [Storage σ] [LawfulStorage σ]

theorem get?_serve_key {s : σ} {n : TableName} (written : n.Written) {p : TablePart}
    (notAlone : ¬ ∀ id, c.RefersTo r id ↔ id = d.identity n) :
    Storage.get? (c.serve s r).2 (d.key n p) = Storage.get? s (d.key n p) := by
  rw [c.serve_eq_commit, Effect.commit_eq]
  refine Storage.get?_writeAll_of_ne fun w mem eq => notAlone ?_
  obtain ⟨m, p', written', key, only⟩ := Connection.effect_key mem
  obtain ⟨same, -⟩ := (Connection.key_eq_iff written written').1 (eq.trans key)
  rw [same]
  exact only

/-! ## Stores that agree -/

def AgreeOutside (X : TableId → Prop) (view view' : View) : Prop :=
  ∀ (d : Connection) (n : TableName) (p : TablePart), n.Written → ¬ X (d.identity n) →
    view' (d.key n p) = view (d.key n p)

namespace AgreeOutside

variable {X : TableId → Prop} {s s' : σ}

theorem effect_eq (agree : AgreeOutside X view view') (avoids : c.Avoids r X) :
    c.effect view' r = c.effect view r :=
  Connection.effect_congr fun n p written refers => agree c n p written (avoids _ refers)

theorem at_write (agree : AgreeOutside X view view') (avoids : c.Avoids r X) {w : Write}
    (mem : w ∈ (c.effect view r).writes) : view' w.key = view w.key := by
  obtain ⟨n, p, written, key, only⟩ := Connection.effect_key mem
  rw [key]
  exact agree c n p written (avoids _ ((only _).2 rfl))

theorem serve_involved (involved : ¬ c.Avoids r X) (s : σ) :
    AgreeOutside X (Storage.get? s) (Storage.get? (c.serve s r).2) := by
  intro d n p written outside
  refine get?_serve_key written fun alone => involved fun id refers inside => outside ?_
  rw [← (alone id).1 refers]
  exact inside

theorem serve_both (agree : AgreeOutside X (Storage.get? s) (Storage.get? s'))
    (involved : ¬ c.Avoids r X) :
    AgreeOutside X (Storage.get? (c.serve s r).2) (Storage.get? (c.serve s' r).2) := by
  intro d n p written outside
  calc Storage.get? (c.serve s' r).2 (d.key n p)
      = Storage.get? s' (d.key n p) := serve_involved involved s' d n p written outside
    _ = Storage.get? s (d.key n p) := agree d n p written outside
    _ = Storage.get? (c.serve s r).2 (d.key n p) :=
        (serve_involved involved s d n p written outside).symm

theorem serve_avoiding (agree : AgreeOutside X (Storage.get? s) (Storage.get? s'))
    (avoids : c.Avoids r X)
    (alike : Storage.failure? s' (c.effect (Storage.get? s') r).writes =
      Storage.failure? s (c.effect (Storage.get? s) r).writes) :
    (c.serve s' r).1 = (c.serve s r).1 ∧
      AgreeOutside X (Storage.get? (c.serve s r).2) (Storage.get? (c.serve s' r).2) := by
  have same := agree.effect_eq avoids
  have made := serve_of_failure? c s r
  have made' := serve_of_failure? c s' r
  rw [alike, same] at made'
  split at made
  all_goals
    rename_i outcome
    rw [outcome] at made'
    refine ⟨made'.1.trans made.1.symm, fun d n p written outside => ?_⟩
    rw [made.2, made'.2]
    exact updateAll_congr (agree d n p written outside) _

end AgreeOutside

/-- Whether the storage treats the requests that avoid some tables alike in two runs: it makes all
changes of a request in both, or fails at the same one. -/
def FailsAlike (X : TableId → Prop) (s s' : σ) : List (Connection × Request) → Prop
  | [] => True
  | (c, r) :: rest =>
    (c.Avoids r X → Storage.failure? s' (c.effect (Storage.get? s') r).writes =
        Storage.failure? s (c.effect (Storage.get? s) r).writes) ∧
      FailsAlike X (c.serve s r).2 (c.serve s' r).2 rest

theorem Memory.failsAlike (X : TableId → Prop) (s s' : Memory)
    (requests : List (Connection × Request)) : FailsAlike X s s' requests := by
  induction requests generalizing s s' with
  | nil => trivial
  | cons request requests ih =>
      refine ⟨fun _ => ?_, ih _ _⟩
      rw [Storage.Memory.failure?_eq_none, Storage.Memory.failure?_eq_none]

namespace FileStore

theorem isIdle_congr {s s' : FileStore} {w : Write}
    (same : Storage.get? s' w.key = Storage.get? s w.key) : s'.isIdle w = s.isIdle w := by
  cases w with
  | set key text => rfl
  | remove key => exact congrArg (fun text? : Option String => !text?.isSome) same

theorem write_place (s : FileStore) (w : Write) :
    (Storage.write s w).2.place.writable = s.place.writable := by
  rw [write_eq, change_eq]
  split
  · rfl
  · split
    · rename_i writable
      exact writable.symm
    · rfl

theorem writeAll_place (s : FileStore) (ws : List Write) :
    (Storage.writeAll s ws).2.place.writable = s.place.writable := by
  induction ws generalizing s with
  | nil => rfl
  | cons w ws ih =>
      have kept := s.write_place w
      rw [Storage.writeAll]
      split
      · rename_i made
        rw [made] at kept
        exact (ih _).trans kept
      · rename_i failed
        rw [failed] at kept
        exact kept

theorem serve_place (c : Connection) (s : FileStore) (r : Request) :
    (c.serve s r).2.place.writable = s.place.writable := by
  rw [c.serve_eq_commit, Effect.commit_eq]
  exact s.writeAll_place _

theorem write_congr {s s' : FileStore} {w : Write}
    (place : s'.place.writable = s.place.writable)
    (same : Storage.get? s' w.key = Storage.get? s w.key) :
    (Storage.write s' w).1 = (Storage.write s w).1 := by
  rw [write_eq, write_eq, change_eq, change_eq, isIdle_congr same, place]
  split
  · rfl
  · split <;> rfl

theorem failure?_congr {s s' : FileStore} (place : s'.place.writable = s.place.writable)
    {ws : List Write} (same : ∀ w ∈ ws, Storage.get? s' w.key = Storage.get? s w.key) :
    Storage.failure? s' ws = Storage.failure? s ws := by
  induction ws generalizing s s' with
  | nil => rfl
  | cons w ws ih =>
      obtain ⟨here, rest⟩ := List.forall_mem_cons.1 same
      have outcome := write_congr place here
      have kept : (Storage.write s' w).2.place.writable = (Storage.write s w).2.place.writable :=
        (s'.write_place w).trans (place.trans (s.write_place w).symm)
      rw [Storage.failure?, Storage.failure?]
      cases made : Storage.write s w with
      | mk result s₁ =>
          cases made' : Storage.write s' w with
          | mk result' s₁' =>
              rw [made, made'] at outcome kept
              dsimp only at outcome kept
              subst outcome
              cases result' with
              | error fault => rfl
              | ok _ =>
                  refine congrArg (Option.map _) (ih kept fun w' mem => ?_)
                  rw [LawfulStorage.made made, LawfulStorage.made made']
                  exact w.update_congr (rest w' mem)

theorem failsAlike {X : TableId → Prop} {s s' : FileStore}
    (agree : AgreeOutside X (Storage.get? s) (Storage.get? s'))
    (place : s'.place.writable = s.place.writable) (requests : List (Connection × Request)) :
    FailsAlike X s s' requests := by
  induction requests generalizing s s' with
  | nil => trivial
  | cons request requests ih =>
      obtain ⟨c, r⟩ := request
      have place' := (serve_place c s' r).trans (place.trans (serve_place c s r).symm)
      by_cases avoids : c.Avoids r X
      · have alike : Storage.failure? s' (c.effect (Storage.get? s') r).writes =
            Storage.failure? s (c.effect (Storage.get? s) r).writes := by
          rw [agree.effect_eq avoids]
          exact failure?_congr place fun w mem => agree.at_write avoids mem
        exact ⟨fun _ => alike, ih (agree.serve_avoiding avoids alike).2 place'⟩
      · exact ⟨fun avoids' => absurd avoids' avoids, ih (agree.serve_both avoids) place'⟩

end FileStore

theorem AgreeOutside.answers {X : TableId → Prop} {s s' : σ}
    (agree : AgreeOutside X (Storage.get? s) (Storage.get? s'))
    {requests : List (Connection × Request)} (alike : FailsAlike X s s' requests)
    {i : Nat} (found : requests[i]? = some (c, r)) (avoids : c.Avoids r X) :
    (serveEach s' requests).1[i]? = (serveEach s requests).1[i]? := by
  induction requests generalizing s s' i with
  | nil => cases found
  | cons request requests ih =>
      obtain ⟨d, q⟩ := request
      -- The first request is of one of two kinds; the stores agree after both.
      by_cases first : d.Avoids q X
      · obtain ⟨answer, agree⟩ := agree.serve_avoiding first (alike.1 first)
        cases i with
        | zero => exact congrArg some answer
        | succ i => exact ih agree alike.2 found
      · cases i with
        | zero =>
            cases found
            exact absurd avoids first
        | succ i => exact ih (agree.serve_both first) alike.2 found

/-! ## Isolation -/

/-- Keys of different tables differ, and so do those of the two parts of a table. So a request,
whether it succeeds or fails, leaves the texts of all tables that it does not name, and later
requests that name none of its tables are answered as they are without it. A name without a
namespace is the same table as that name in the default one. -/
theorem serve_isolated (c : Connection) (s : σ) (r : Request) :
    (∀ (d e : Connection) (m n : TableName) (p q : TablePart), m.Written → n.Written →
      d.key m p = e.key n q → d.database = e.database ∧ m.inNamespace = n.inNamespace ∧
        m.table = n.table ∧ p = q) ∧
    (∀ (d : Connection) (n : TableName) (p : TablePart), n.Written →
      ¬ c.RefersTo r (d.identity n) →
        Storage.get? (c.serve s r).2 (d.key n p) = Storage.get? s (d.key n p)) ∧
    (∀ later : List (Connection × Request), FailsAlike (c.RefersTo r) s (c.serve s r).2 later →
      ∀ (i : Nat) (d : Connection) (q : Request), later[i]? = some (d, q) →
        d.Avoids q (c.RefersTo r) →
          (serveEach (c.serve s r).2 later).1[i]? = (serveEach s later).1[i]?) ∧
    (∀ name table, TableName.read? name = some ⟨none, table⟩ →
      TableName.read? ("public." ++ name) = some ⟨some "public", table⟩ ∧
        ∀ (d : Connection) (view : View),
          (∀ p, d.key ⟨some "public", table⟩ p = d.key ⟨none, table⟩ p) ∧
          (∀ t, d.table? view ⟨none, table⟩ = .ok (some t) →
            d.table? view ⟨some "public", table⟩ = .ok (some ⟨"public." ++ table, t.columns⟩)) ∧
          (∀ rows, d.rows view ⟨some "public", table⟩ = .ok rows ↔
            d.rows view ⟨none, table⟩ = .ok rows)) := by
  have agree : AgreeOutside (c.RefersTo r) (Storage.get? s) (Storage.get? (c.serve s r).2) :=
    fun d n p written outside => get?_serve_key written fun alone => outside ((alone _).2 rfl)
  refine ⟨?keys, agree, fun later alike i d q => agree.answers alike, ?default⟩
  case keys =>
    intro d e m n p q first second eq
    obtain ⟨same, part⟩ := (Connection.key_eq_iff first second).1 eq
    rw [Connection.identity, Connection.identity, TableId.mk.injEq] at same
    exact ⟨same.1, same.2.1, same.2.2, part⟩
  case default =>
    intro name table named
    refine ⟨TableName.read?_public named, fun d view => ?_⟩
    have same : d.identity ⟨some "public", table⟩ = d.identity ⟨none, table⟩ := rfl
    exact ⟨Connection.key_congr same, fun t => Connection.table?_of_identity same,
      fun rows => Connection.rows_of_identity same⟩

theorem serve_isolated_dots :
    let c : Connection := ⟨"a", .default⟩
    let d : Connection := ⟨"a.b", .default⟩
    let create : Request := .tree (.createTable "b.t" [⟨"id", "INT", []⟩])
    let later : List (Connection × Request) := [(d, .tree (.dropTable "t" false))]
    let file : FileStore := .openAt ⟨none, false⟩
    c.key ⟨some "b", "t"⟩ .rows ≠ d.key ⟨none, "t"⟩ .rows ∧
      Storage.get? (c.serve Memory.empty create).2 (d.key ⟨none, "t"⟩ .definition) = none ∧
      (serveEach (c.serve Memory.empty create).2 later).1[0]? =
        some (.error (.unknownTable ⟨none, "t"⟩)) ∧
      (serveEach (c.serve file create).2 later).1[0]? =
        some (.error (.unknownTable ⟨none, "t"⟩)) ∧
      TableName.read? ("public." ++ "t") = some ⟨some "public", "t"⟩ := by
  intro c d create later file
  have named : TableName.read? "t" = some ⟨none, "t"⟩ := by decide
  have named' : TableName.read? "b.t" = some ⟨some "b", "t"⟩ := by decide
  have other : d.database ≠ c.database := by decide
  have avoids : d.Avoids (.tree (.dropTable "t" false)) (c.RefersTo create) :=
    Connection.avoids_of_database other
  obtain ⟨keys, frame, answers, default⟩ := serve_isolated c Memory.empty create
  obtain ⟨-, frame', answers', -⟩ := serve_isolated c file create
  have alike := FileStore.failsAlike frame' (FileStore.serve_place c file create) later
  refine ⟨fun eq => ?_, ?_, ?_, ?_, (default "t" "t" named).1⟩
  · exact other (keys c d _ _ _ _ ⟨"b.t", named'⟩ ⟨"t", named⟩ eq).1.symm
  · exact frame d _ .definition ⟨"t", named⟩ fun refers => other refers.database
  · exact answers later (Memory.failsAlike _ _ _ later) 0 d _ rfl avoids
  · exact answers' later alike 0 d _ rfl avoids

end SqlStore
