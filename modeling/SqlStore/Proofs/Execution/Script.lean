import SqlStore.Execution.Run
import SqlStore.Proofs.Execution.Footprint
import SqlStore.Proofs.Storage.File

namespace SqlStore

open Sql (Statement)

variable {σ : Type} [Storage σ]

namespace Connection

variable {c : Connection}

theorem executeAll_ok {s s' : σ} {sql : String} {answer : Answer}
    (ok : c.execute s sql = (.ok answer, s')) (rest : List String) :
    c.executeAll s (sql :: rest) =
      { c.executeAll s' rest with answers := answer :: (c.executeAll s' rest).answers } := by
  rw [executeAll, ok]

theorem executeAll_error {s s' : σ} {sql : String} {e : Error}
    (failed : c.execute s sql = (.error e, s')) (rest : List String) :
    c.executeAll s (sql :: rest) = ⟨[], some e, s'⟩ := by
  rw [executeAll, failed]

inductive Succeeds (c : Connection) : σ → List String → List Answer → σ → Prop
  | none (s : σ) : Succeeds c s [] [] s
  | next {s s' s'' : σ} {sql : String} {answer : Answer} {sqls : List String}
      {answers : List Answer} (ok : c.execute s sql = (.ok answer, s'))
      (others : Succeeds c s' sqls answers s'') : Succeeds c s (sql :: sqls) (answer :: answers) s''

theorem Succeeds.split {s s'' : σ} {xs ys : List String} {answers : List Answer}
    (all : c.Succeeds s (xs ++ ys) answers s'') : ∃ as s' bs,
      c.Succeeds s xs as s' ∧ c.Succeeds s' ys bs s'' ∧ answers = as ++ bs := by
  induction xs generalizing s answers with
  | nil => exact ⟨[], s, answers, .none s, all, rfl⟩
  | cons x xs ih =>
      obtain _ | ⟨ok, others⟩ := all
      obtain ⟨as, s', bs, first, last, rfl⟩ := ih others
      exact ⟨_, s', bs, .next ok first, last, rfl⟩

theorem Succeeds.executeAll_eq {s s' : σ} {sqls : List String} {answers : List Answer}
    (all : c.Succeeds s sqls answers s') : c.executeAll s sqls = ⟨answers, .none, s'⟩ := by
  induction all with
  | none => rfl
  | next ok _ ih => rw [executeAll_ok ok, ih]

theorem executeAll_cases (c : Connection) (s : σ) (sqls : List String) :
    ∃ done answers s', c.Succeeds s done answers s' ∧
      (done = sqls ∧ c.executeAll s sqls = ⟨answers, none, s'⟩ ∨
        ∃ sql rest e, sqls = done ++ sql :: rest ∧ (c.execute s' sql).1 = .error e ∧
          c.executeAll s sqls = ⟨answers, some e, (c.execute s' sql).2⟩) := by
  induction sqls generalizing s with
  | nil => exact ⟨[], [], s, .none s, .inl ⟨rfl, rfl⟩⟩
  | cons sql sqls ih =>
      cases ran : c.execute s sql with
      | mk outcome s₁ =>
          cases outcome with
          | error e =>
              refine ⟨[], [], s, .none s, .inr ⟨sql, sqls, e, rfl, by rw [ran], ?_⟩⟩
              rw [executeAll_error ran, ran]
          | ok answer =>
              obtain ⟨done, answers, s', succeeds, ends⟩ := ih s₁
              refine ⟨sql :: done, answer :: answers, s', .next ran succeeds, ?_⟩
              rw [executeAll_ok ran]
              rcases ends with ⟨rfl, eq⟩ | ⟨failing, rest, e, rfl, failed, eq⟩
              · exact .inl ⟨rfl, by rw [eq]⟩
              · exact .inr ⟨failing, rest, e, rfl, failed, by rw [eq]⟩

theorem executeAll_congr (c : Connection) (s : σ) {xs ys : List String}
    (same : xs.map Statement.parse = ys.map Statement.parse) :
    c.executeAll s xs = c.executeAll s ys := by
  induction xs generalizing s ys with
  | nil =>
      cases ys with
      | nil => rfl
      | cons y ys => cases same
  | cons x xs ih =>
      cases ys with
      | nil => cases same
      | cons y ys =>
          rw [List.map_cons, List.map_cons, List.cons.injEq] at same
          have first : c.execute s x = c.execute s y := by rw [execute, execute, run, run, same.1]
          cases ran : c.execute s y with
          | mk outcome s' =>
              cases outcome with
              | ok answer => rw [executeAll_ok (first.trans ran), executeAll_ok ran, ih s' same.2]
              | error e => rw [executeAll_error (first.trans ran), executeAll_error ran]

end Connection

/-! ## Scripts over files -/

namespace FileStore

open Connection

variable {c : Connection}

theorem Synced.of_execute {s s' : FileStore} {sql : String} {outcome : Except Error Answer}
    (synced : s.Synced) (ran : c.execute s sql = (outcome, s')) : s'.Synced := by
  have store : (Storage.writeAll s (c.run (Storage.get? s) sql).writes).2 = s' := by
    rw [execute, Effect.commit_eq] at ran
    exact congrArg Prod.snd ran
  rw [← store]
  exact synced.writeAll _

theorem execute_error {s : FileStore} {sql : String} {e : Error}
    (failed : (c.execute s sql).1 = .error e) : (c.execute s sql).2 = s := by
  obtain ⟨store, answered | ⟨fault, faulty⟩⟩ := Effect.commit_error failed
  · refine store.trans ?_
    rcases effect_cases c (Storage.get? s) (.text sql) with
      unchanged | ⟨_, _, _, _, -, -, -, succeeds⟩
    · have unchanged' : (c.run (Storage.get? s) sql).writes = [] := unchanged
      rw [unchanged']
      rfl
    · have answered' : (c.effect (Storage.get? s) (.text sql)).answer = .error e := answered
      rw [succeeds] at answered'
      cases answered'
  · exact store.trans (writeAll_error faulty)

theorem Synced.of_succeeds {s s' : FileStore} {sqls : List String} {answers : List Answer}
    (synced : s.Synced) (all : c.Succeeds s sqls answers s') : s'.Synced := by
  induction all with
  | none => exact synced
  | next ok _ ih => exact ih (synced.of_execute ok)

end FileStore

end SqlStore
