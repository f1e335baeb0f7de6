import SqlStore.Storage.Basic

namespace SqlStore

variable {σ : Type} [Storage σ]

structure Unreliable (σ : Type) where
  store : σ
  calls : Nat
  works : Nat → Bool

namespace Unreliable

def reliable (s : σ) : Unreliable σ := ⟨s, 0, fun _ => true⟩

def failAfter (n? : Option Nat) (s : Unreliable σ) : Unreliable σ :=
  match n? with
  | none => { s with works := fun _ => true }
  | some n => { s with works := fun i => i < s.calls + n }

instance : Storage (Unreliable σ) where
  get? s key := Storage.get? s.store key
  write s w :=
    if s.works s.calls then
      let (outcome, store) := Storage.write s.store w
      (outcome, { s with store, calls := s.calls + 1 })
    else (.error .injected, { s with calls := s.calls + 1 })

end Unreliable

structure Recorded (σ : Type) where
  store : σ
  log : List Write

instance : Storage (Recorded σ) where
  get? s key := Storage.get? s.store key
  write s w :=
    let (outcome, store) := Storage.write s.store w
    (outcome, ⟨store, s.log ++ [w]⟩)

end SqlStore
