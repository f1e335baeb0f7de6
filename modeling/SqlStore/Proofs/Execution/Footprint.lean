import SqlStore.Proofs.Storage
import SqlStore.Proofs.Plan
import SqlStore.Proofs.Execution.Command
import SqlStore.Proofs.Execution.Identity
import SqlStore.Proofs.Execution.Session

/-!
# What a statement changes

Every statement but `DROP TABLE` makes one change at most, after all that can go wrong. So one
that fails leaves the store as it was, and one that succeeds changes the one key that it is about.
-/

namespace SqlStore

open Sql (Statement)

/-! ## Changes of commands and plans -/

def Command.Footprint (c : Connection) (ws : List Write) : Command → Prop
  | .createTable name t => ws = [.set (c.definitionKey name) t.definitionText]
  | .dropTable name _ =>
      ws = [.remove (c.definitionKey name), .remove (c.rowsKey name)] ∨ ws = []
  | .insert name _ _ | .update name _ _ | .delete name _ => ∃ rows, ws = [c.storeRows name rows]

theorem Command.Footprint.key {c : Connection} {command : Command} {ws : List Write}
    (footprint : command.Footprint c ws) {w : Write} (mem : w ∈ ws) :
    ∃ p, w.key = c.key command.target p := by
  cases command with
  | createTable name t =>
      cases footprint
      obtain rfl := List.mem_singleton.1 mem
      exact ⟨.definition, rfl⟩
  | dropTable name ifExists =>
      rcases footprint with rfl | rfl
      · rcases List.mem_pair.1 mem with rfl | rfl
        · exact ⟨.definition, rfl⟩
        · exact ⟨.rows, rfl⟩
      · cases mem
  | insert | update | delete =>
      obtain ⟨rows, rfl⟩ := footprint
      obtain rfl := List.mem_singleton.1 mem
      exact ⟨.rows, rfl⟩

namespace Connection

variable {c : Connection} {view : View}

theorem runCommand_footprint {command : Command} {ws : List Write} {change : Change}
    (ok : c.runCommand view command = .ok (ws, change)) : command.Footprint c ws := by
  cases command with
  | createTable name t =>
      obtain ⟨-, -, only, -⟩ := createTable_eq_ok.1 ok
      exact only
  | dropTable name ifExists =>
      obtain ⟨⟨t, -, only⟩ | ⟨-, -, only⟩, -⟩ := dropTable_eq_ok.1 ok
      · exact .inl only
      · exact .inr only
  | insert name columns? rows =>
      obtain ⟨t, stored, new, -, -, -, only, -⟩ := insert_eq_ok.1 ok
      exact ⟨_, only⟩
  | update name assignments where? =>
      obtain ⟨t, assigned, stored, -, -, -, only, -⟩ := update_eq_ok.1 ok
      exact ⟨_, only⟩
  | delete name where? =>
      obtain ⟨t, stored, -, -, only, -⟩ := delete_eq_ok.1 ok
      exact ⟨_, only⟩

theorem relation_writes {plan : Plan} (reads : plan.reads) {failure : Failure}
    (failed : c.relation view plan = .error failure) : failure.writes = [] := by
  induction plan with
  | command command => cases reads
  | scan name source? =>
      rw [relation] at failed
      cases scanned : c.scan view name source? with
      | ok r =>
          rw [scanned] at failed
          cases failed
      | error e =>
          rw [scanned] at failed
          cases failed
          rfl
  | join left right on? keepLeft keepRight ihLeft ihRight =>
      rw [Plan.reads, Bool.and_eq_true] at reads
      rcases bind_eq_error.1 failed with failed | ⟨l, -, failed⟩
      · exact ihLeft reads.1 failed
      · rcases bind_eq_error.1 failed with failed | ⟨r, -, failed⟩
        · exact ihRight reads.2 failed
        · cases failed
  | aggregate source items groupBy qualified ih =>
      rcases bind_eq_error.1 failed with failed | ⟨r, -, failed⟩
      · exact ih reads failed
      · cases grouped : r.aggregate items groupBy qualified with
        | ok r =>
            rw [grouped] at failed
            cases failed
        | error fault =>
            rw [grouped] at failed
            cases failed
            rfl
  | filter source _ _ ih | project source _ _ ih | order source _ _ ih | offset source _ ih
  | limit source _ ih =>
      rcases bind_eq_error.1 failed with failed | ⟨r, -, failed⟩
      · exact ih reads failed
      · cases failed

theorem runPlan_of_reads {plan : Plan} (reads : plan.reads) :
    (c.runPlan view plan).writes = [] := by
  cases plan with
  | command command => cases reads
  | _ =>
      simp only [runPlan]
      split
      · rfl
      · rename_i failed
        exact relation_writes reads failed

end Connection

/-! ## Changes of statements -/

/-- The changes that a statement may succeed with. -/
def Sql.Statement.Footprint (c : Connection) (ws : List Write) : Statement → Prop
  | .select _ => ws = []
  | .createTable name _ =>
      ∃ n text, TableName.read? name = some n ∧ ws = [.set (c.definitionKey n) text]
  | .insert name _ _ | .update name _ _ =>
      ∃ n text, TableName.read? name = some n ∧ ws = [.set (c.rowsKey n) text]
  | .delete tables _ =>
      ∃ item n text, tables = [item] ∧ TableName.read? item.name = some n ∧
        ws = [.set (c.rowsKey n) text]
  | .dropTable name _ =>
      ∃ n, TableName.read? name = some n ∧
        (ws = [.remove (c.definitionKey n), .remove (c.rowsKey n)] ∨ ws = [])

namespace Connection

variable {c : Connection} {view : View}

theorem runPlan_command_ok {command : Command} {answer : Answer}
    (ok : (c.runPlan view (.command command)).answer = .ok answer) :
    command.Footprint c (c.runPlan view (.command command)).writes := by
  rw [runPlan] at ok ⊢
  cases ran : c.runCommand view command with
  | ok outcome => exact runCommand_footprint ran
  | error e =>
      rw [ran] at ok
      cases ok

theorem runPlan_command_error {command : Command} {e : Error}
    (failed : (c.runPlan view (.command command)).answer = .error e) :
    (c.runPlan view (.command command)).writes = [] := by
  rw [runPlan] at failed ⊢
  cases ran : c.runCommand view command with
  | ok outcome =>
      rw [ran] at failed
      cases failed
  | error e => rfl

theorem ofStatement_of_ok {s : Statement} {answer : Answer}
    (ok : (c.runStatement view s).answer = .ok answer) : ∃ plan, Plan.ofStatement s = .ok plan := by
  cases built : Plan.ofStatement s with
  | ok plan => exact ⟨plan, rfl⟩
  | error e =>
      rw [runStatement, built] at ok
      cases ok

theorem runStatement_command_ok {s : Statement} {command : Command}
    (built : Plan.ofStatement s = .ok (.command command)) {answer : Answer}
    (ok : (c.runStatement view s).answer = .ok answer) : ∃ ws change,
      c.runCommand view command = .ok (ws, change) ∧ (c.runStatement view s).writes = ws ∧
        answer = .changed change := by
  simp only [runStatement, built, runPlan] at ok ⊢
  cases ran : c.runCommand view command with
  | error e =>
      rw [ran] at ok
      cases ok
  | ok outcome =>
      rw [ran] at ok
      cases ok
      exact ⟨outcome.1, outcome.2, rfl, rfl, rfl⟩

theorem effect_cases (c : Connection) (view : View) (r : Request) : (c.effect view r).writes = [] ∨
    ∃ s command ws change, r.statement = .ok s ∧ Plan.ofStatement s = .ok (.command command) ∧
      c.runCommand view command = .ok (ws, change) ∧
        c.effect view r = ⟨ws, .ok (.changed change)⟩ := by
  rw [effect]
  cases parsed : r.statement with
  | error e => exact .inl rfl
  | ok s =>
      simp only [runStatement]
      cases built : Plan.ofStatement s with
      | error e => exact .inl rfl
      | ok plan =>
          rcases Plan.ofStatement_whole built with reads | ⟨command, rfl⟩
          · exact .inl (runPlan_of_reads reads)
          · simp only [runPlan]
            cases ran : c.runCommand view command with
            | error e => exact .inl rfl
            | ok outcome => exact .inr ⟨s, command, _, _, rfl, built, ran, rfl⟩

theorem effect_of_command {r : Request} {s : Statement} {command : Command} {ws : List Write}
    {change : Change} (parsed : r.statement = .ok s)
    (built : Plan.ofStatement s = .ok (.command command))
    (ran : c.runCommand view command = .ok (ws, change)) :
    c.effect view r = ⟨ws, .ok (.changed change)⟩ := by
  simp only [effect, parsed, runStatement, built, runPlan, ran]

theorem serve_of_command {σ : Type} [Storage σ] {store : σ} {r : Request} {s : Statement}
    {command : Command} {ws : List Write} {change : Change} (parsed : r.statement = .ok s)
    (built : Plan.ofStatement s = .ok (.command command))
    (ran : c.runCommand (Storage.get? store) command = .ok (ws, change)) :
    c.serve store r = Effect.commit ⟨ws, .ok (.changed change)⟩ store := by
  rw [serve_eq_commit, effect_of_command parsed built ran]

theorem runStatement_footprint {s : Statement} {answer : Answer}
    (ok : (c.runStatement view s).answer = .ok answer) :
    s.Footprint c (c.runStatement view s).writes := by
  rw [runStatement] at ok ⊢
  cases built : Plan.ofStatement s with
  | error e =>
      rw [built] at ok
      cases ok
  | ok plan =>
      simp only [built] at ok ⊢
      cases s with
      | select s => exact runPlan_of_reads (Plan.ofSelect_reads built)
      | createTable name columns =>
          obtain ⟨n, named, built⟩ := bind_eq_ok.1 built
          obtain ⟨t, -, built⟩ := bind_eq_ok.1 built
          obtain rfl := pure_eq_ok.1 built
          exact ⟨n, _, TableName.read_eq_ok.1 named, runPlan_command_ok ok⟩
      | dropTable name ifExists =>
          obtain ⟨n, named, built⟩ := bind_eq_ok.1 built
          obtain rfl := pure_eq_ok.1 built
          exact ⟨n, TableName.read_eq_ok.1 named, runPlan_command_ok ok⟩
      | insert name columns? rows =>
          obtain ⟨n, named, built⟩ := bind_eq_ok.1 built
          obtain ⟨values, -, built⟩ := bind_eq_ok.1 built
          obtain rfl := pure_eq_ok.1 built
          obtain ⟨stored, only⟩ := runPlan_command_ok ok
          exact ⟨n, _, TableName.read_eq_ok.1 named, only⟩
      | update name assignments where? =>
          obtain ⟨n, named, built⟩ := bind_eq_ok.1 built
          obtain ⟨values, -, built⟩ := bind_eq_ok.1 built
          obtain rfl := pure_eq_ok.1 built
          obtain ⟨stored, only⟩ := runPlan_command_ok ok
          exact ⟨n, _, TableName.read_eq_ok.1 named, only⟩
      | delete tables where? =>
          match tables, built with
          | [item], built =>
              obtain ⟨n, named, built⟩ := bind_eq_ok.1 built
              obtain rfl := pure_eq_ok.1 built
              obtain ⟨stored, only⟩ := runPlan_command_ok ok
              exact ⟨item, n, _, rfl, TableName.read_eq_ok.1 named, only⟩

theorem runStatement_error {s : Statement} {e : Error}
    (failed : (c.runStatement view s).answer = .error e) :
    (c.runStatement view s).writes = [] := by
  rw [runStatement] at failed ⊢
  cases built : Plan.ofStatement s with
  | error e => rfl
  | ok plan =>
      simp only [built] at failed ⊢
      rcases Plan.ofStatement_whole built with reads | ⟨command, rfl⟩
      · exact runPlan_of_reads reads
      · exact runPlan_command_error failed

end Connection

theorem Sql.Statement.Footprint.single {c : Connection} {s : Statement} {ws : List Write}
    (footprint : s.Footprint c ws) (keeps : ∀ name ifExists, s ≠ .dropTable name ifExists) :
    ws.length ≤ 1 := by
  cases s with
  | select s =>
      rw [Footprint] at footprint
      simp [footprint]
  | createTable | insert | update =>
      obtain ⟨n, text, -, rfl⟩ := footprint
      exact Nat.le_refl _
  | dropTable name ifExists => exact absurd rfl (keeps name ifExists)
  | delete tables where? =>
      obtain ⟨item, n, text, -, -, rfl⟩ := footprint
      exact Nat.le_refl _

theorem Connection.runStatement_single {c : Connection} {view : View} {s : Statement}
    (keeps : ∀ name ifExists, s ≠ .dropTable name ifExists) :
    (c.runStatement view s).writes.length ≤ 1 := by
  cases answered : (c.runStatement view s).answer with
  | ok answer => exact (runStatement_footprint answered).single keeps
  | error e =>
      rw [runStatement_error answered]
      exact Nat.zero_le 1

/-! ## Stores after statements -/

variable {σ : Type} [Storage σ]

theorem Effect.commit_eq (e : Effect) (s : σ) :
    e.commit s = ((Storage.writeAll s e.writes).1.mapError Error.storage >>= fun _ => e.answer,
      (Storage.writeAll s e.writes).2) := by
  rw [commit]
  cases made : Storage.writeAll s e.writes with
  | mk outcome s' => cases outcome <;> rfl

theorem Effect.commit_ok {e : Effect} {s : σ} {answer : Answer}
    (ok : (e.commit s).1 = .ok answer) :
    e.answer = .ok answer ∧ (Storage.writeAll s e.writes).1 = .ok () ∧
      (e.commit s).2 = (Storage.writeAll s e.writes).2 := by
  rw [commit] at ok ⊢
  split
  · rename_i done
    rw [done] at ok
    exact ⟨ok, by rw [done], by rw [done]⟩
  · rename_i done
    rw [done] at ok
    cases ok

theorem Effect.commit_error {e : Effect} {s : σ} {error : Error}
    (failed : (e.commit s).1 = .error error) :
    (e.commit s).2 = (Storage.writeAll s e.writes).2 ∧
      (e.answer = .error error ∨ ∃ fault, (Storage.writeAll s e.writes).1 = .error fault) := by
  rw [commit] at failed ⊢
  split
  · rename_i done
    rw [done] at failed
    exact ⟨by rw [done], .inl failed⟩
  · rename_i done
    exact ⟨by rw [done], .inr ⟨_, by rw [done]⟩⟩

theorem serve_ok {c : Connection} {s : σ} {r : Request} {answer : Answer}
    (ok : (c.serve s r).1 = .ok answer) : ∃ statement, r.statement = .ok statement ∧
      (c.runStatement (Storage.get? s) statement).answer = .ok answer ∧
      (Storage.writeAll s (c.runStatement (Storage.get? s) statement).writes).1 = .ok () ∧
      (c.serve s r).2 =
        (Storage.writeAll s (c.runStatement (Storage.get? s) statement).writes).2 := by
  rw [c.serve_eq_commit, Connection.effect] at ok ⊢
  cases parsed : r.statement with
  | error e =>
      rw [parsed] at ok
      cases ok
  | ok statement =>
      simp only [parsed] at ok ⊢
      exact ⟨statement, rfl, Effect.commit_ok ok⟩

variable [LawfulStorage σ]

/-- A request has the answer and the changes of its effect, or fails with a fault of the storage
after those that were made. -/
theorem serve_of_failure? (c : Connection) (s : σ) (r : Request) :
    match Storage.failure? s (c.effect (Storage.get? s) r).writes with
    | none => (c.serve s r).1 = (c.effect (Storage.get? s) r).answer ∧
        Storage.get? (c.serve s r).2 =
          updateAll (Storage.get? s) (c.effect (Storage.get? s) r).writes
    | some (i, fault) => (c.serve s r).1 = .error (.storage fault) ∧
        Storage.get? (c.serve s r).2 =
          updateAll (Storage.get? s) ((c.effect (Storage.get? s) r).writes.take i) := by
  have made := Storage.writeAll_of_failure? s (c.effect (Storage.get? s) r).writes
  rw [c.serve_eq_commit, Effect.commit_eq]
  generalize c.effect (Storage.get? s) r = e at made ⊢
  cases failed : Storage.failure? s e.writes with
  | none =>
      rw [failed] at made
      exact ⟨congrArg (fun outcome => outcome.mapError Error.storage >>= fun _ => e.answer) made.1,
        made.2⟩
  | some failure =>
      rw [failed] at made
      exact ⟨congrArg (fun outcome => outcome.mapError Error.storage >>= fun _ => e.answer) made.1,
        made.2⟩

theorem get?_serve_error (c : Connection) (s : σ) {r : Request}
    (keeps : ∀ name ifExists, r.statement ≠ .ok (.dropTable name ifExists)) {e : Error}
    (failed : (c.serve s r).1 = .error e) : Storage.get? (c.serve s r).2 = Storage.get? s := by
  rw [c.serve_eq_commit, Connection.effect] at failed ⊢
  cases parsed : r.statement with
  | error e => rfl
  | ok statement =>
      simp only [parsed] at failed ⊢
      have kept : ∀ name ifExists, statement ≠ .dropTable name ifExists := by
        rintro name ifExists rfl
        exact keeps name ifExists parsed
      obtain ⟨store, failed | ⟨fault, failed⟩⟩ := Effect.commit_error failed
      · rw [store, Connection.runStatement_error failed]
        rfl
      · rw [store, Storage.get?_writeAll_failed failed (Connection.runStatement_single kept)]

/-- Statements other than `DROP TABLE` are all or nothing. One that fails leaves the text under
every key as it was; one that succeeds has asked for the changes of its footprint, and every other
key has the text that it had. -/
theorem serve_allOrNothing (c : Connection) (s : Recorded σ) (r : Request)
    (keeps : ∀ name ifExists, r.statement ≠ .ok (.dropTable name ifExists)) :
    (∀ e, (c.serve s r).1 = .error e →
      ∀ key, Storage.get? (c.serve s r).2 key = Storage.get? s key) ∧
    (∀ answer, (c.serve s r).1 = .ok answer → ∃ statement ws,
      r.statement = .ok statement ∧ statement.Footprint c ws ∧
      (c.serve s r).2.log = s.log ++ ws ∧
      ∀ key, (∀ w ∈ ws, key ≠ w.key) →
        Storage.get? (c.serve s r).2 key = Storage.get? s key) := by
  refine ⟨fun e failed key => ?_, fun answer ok => ?_⟩
  · rw [get?_serve_error c s keeps failed]
  · obtain ⟨statement, parsed, answered, done, store⟩ := serve_ok ok
    refine ⟨statement, _, parsed, Connection.runStatement_footprint answered, ?_, fun key others => ?_⟩
    · rw [store, Storage.log_writeAll done]
    · rw [store, Storage.get?_writeAll done]
      exact updateAll_of_ne others

theorem serve_allOrNothing_create :
    let c : Connection := ⟨"db", .default⟩
    let s (works : Nat) : Recorded (Unreliable Memory) :=
      ⟨(Unreliable.reliable Memory.empty).failAfter (some works), []⟩
    let r : Request := .tree (.createTable "t" [⟨"id", "INT", []⟩])
    (∀ key, Storage.get? (c.serve (s 0) r).2 key = none) ∧
      ∃ text, (c.serve (s 1) r).2.log = [.set "db.public.tables.t.definition" text] := by
  intro c s r
  have keeps : ∀ name ifExists, r.statement ≠ .ok (.dropTable name ifExists) := by
    rintro name ifExists ⟨⟩
  have failed : (c.serve (s 0) r).1 = .error (.storage .injected) := rfl
  have made : (c.serve (s 1) r).1 = .ok (.changed (.created ⟨none, "t"⟩)) := rfl
  refine ⟨(serve_allOrNothing c (s 0) r keeps).1 _ failed, ?_⟩
  obtain ⟨statement, ws, ⟨⟩, ⟨n, text, named, rfl⟩, log, -⟩ :=
    (serve_allOrNothing c (s 1) r keeps).2 _ made
  obtain rfl : ⟨none, "t"⟩ = n := Option.some.inj named
  exact ⟨text, log⟩

end SqlStore
