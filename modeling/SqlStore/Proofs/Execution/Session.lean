import SqlStore.Proofs.Storage
import SqlStore.Execution.Run

namespace SqlStore

open Sql (Statement SyntaxError)

inductive Request where
  | text (sql : String)
  | tree (statement : Statement)

def Request.statement : Request → Except SyntaxError Statement
  | .text sql => Statement.parse sql
  | .tree statement => .ok statement

theorem Effect.eq_of_answer {e : Effect} {answer : Answer} (ok : e.answer = .ok answer) :
    e = ⟨e.writes, .ok answer⟩ :=
  congrArg (Effect.mk _) ok

variable {σ : Type} [Storage σ]

namespace Connection

def effect (c : Connection) (view : View) (r : Request) : Effect :=
  match r.statement with
  | .ok statement => c.runStatement view statement
  | .error e => ⟨[], .error (.malformed e)⟩

def serve (c : Connection) (s : σ) : Request → Except Error Answer × σ
  | .text sql => c.execute s sql
  | .tree statement => c.executeStatement s statement

theorem serve_eq_commit (c : Connection) (s : σ) (r : Request) :
    c.serve s r = (c.effect (Storage.get? s) r).commit s := by
  cases r with
  | text sql => rfl
  | tree statement => rfl

theorem serve_of_done [LawfulStorage σ] {c : Connection} {s : σ} {r : Request}
    (done : (Storage.writeAll s (c.effect (Storage.get? s) r).writes).1 = .ok ()) :
    (c.serve s r).1 = (c.effect (Storage.get? s) r).answer ∧
      Storage.get? (c.serve s r).2 =
        updateAll (Storage.get? s) (c.effect (Storage.get? s) r).writes := by
  rw [serve_eq_commit, ← Storage.get?_writeAll done, Effect.commit]
  split
  · rename_i outcome
    exact ⟨rfl, by rw [outcome]⟩
  · rename_i outcome
    rw [outcome] at done
    cases done

theorem serve_memory (c : Connection) (s : Memory) (r : Request) :
    (c.serve s r).1 = (c.effect (Storage.get? s) r).answer ∧
      Storage.get? (c.serve s r).2 =
        updateAll (Storage.get? s) (c.effect (Storage.get? s) r).writes :=
  serve_of_done (Storage.Memory.writeAll_done s _)

theorem done_of_noFault {c : Connection} {s : σ} {r : Request}
    (noFault : ∀ fault, (c.serve s r).1 ≠ .error (.storage fault)) :
    (Storage.writeAll s (c.effect (Storage.get? s) r).writes).1 = .ok () := by
  cases outcome : (Storage.writeAll s (c.effect (Storage.get? s) r).writes).1 with
  | ok _ => rfl
  | error fault =>
      refine absurd ?_ (noFault fault)
      rw [serve_eq_commit, Effect.commit]
      split
      · rename_i done
        rw [done] at outcome
        cases outcome
      · rename_i failed
        rw [failed] at outcome
        cases outcome
        rfl

end Connection

structure Call where
  config : Config
  request : Request

/-- Executes calls one after another on a database. There is an answer or an error for each. -/
def serveAll (database : String) (s : σ) : List Call → List (Except Error Answer) × σ
  | [] => ([], s)
  | call :: calls =>
    let served := Connection.serve ⟨database, call.config⟩ s call.request
    let later := serveAll database served.2 calls
    (served.1 :: later.1, later.2)

def serveEach (s : σ) : List (Connection × Request) → List (Except Error Answer) × σ
  | [] => ([], s)
  | (c, r) :: rest =>
    let served := c.serve s r
    let later := serveEach served.2 rest
    (served.1 :: later.1, later.2)

end SqlStore
