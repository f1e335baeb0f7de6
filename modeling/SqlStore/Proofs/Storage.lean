import SqlStore.Execution.Command
import SqlStore.Proofs.Dict
import SqlStore.Storage.File
import SqlStore.Storage.Unreliable

namespace SqlStore

/-! ## Views after changes -/

def Write.update (w : Write) (view : View) : View := fun key =>
  match w with
  | .set k text => if key = k then some text else view key
  | .remove k => if key = k then none else view key

theorem Write.update_set (k text : String) (view : View) (key : String) :
    (Write.set k text).update view key = if key = k then some text else view key := rfl

theorem Write.update_remove (k : String) (view : View) (key : String) :
    (Write.remove k).update view key = if key = k then none else view key := rfl

theorem Write.update_of_ne (w : Write) {view : View} {key : String} (other : key ≠ w.key) :
    w.update view key = view key := by
  cases w with
  | set k text => exact if_neg other
  | remove k => exact if_neg other

theorem Write.update_congr (w : Write) {view view' : View} {key : String}
    (same : view' key = view key) : w.update view' key = w.update view key := by
  cases w with
  | set k text => rw [update_set, update_set, same]
  | remove k => rw [update_remove, update_remove, same]

def updateAll (view : View) (ws : List Write) : View :=
  ws.foldl (fun view w => w.update view) view

theorem updateAll_of_ne {ws : List Write} {view : View} {key : String}
    (others : ∀ w ∈ ws, key ≠ w.key) : updateAll view ws key = view key := by
  induction ws generalizing view with
  | nil => rfl
  | cons w ws ih =>
      have rest : updateAll (w.update view) ws key = w.update view key :=
        ih fun w' mem => others w' (List.mem_cons_of_mem w mem)
      exact rest.trans (w.update_of_ne (others w List.mem_cons_self))

theorem updateAll_congr {view view' : View} {key : String} (same : view' key = view key)
    (ws : List Write) : updateAll view' ws key = updateAll view ws key := by
  induction ws generalizing view view' with
  | nil => exact same
  | cons w ws ih => exact ih (w.update_congr same)

theorem Write.get?_apply (w : Write) (d : Dict String) : (w.apply d).get? = w.update d.get? := by
  cases w with
  | set k text => exact funext fun key => d.get?_insert k text key
  | remove k => exact funext fun key => d.get?_erase k key

/-! ## Lawful stores -/

/-- A store whose changes alter the key that they name, or fail and alter none. -/
class LawfulStorage (σ : Type) [Storage σ] : Prop where
  made {s s' : σ} {w : Write} :
    Storage.write s w = (.ok (), s') → Storage.get? s' = w.update (Storage.get? s)
  failed {s s' : σ} {w : Write} {fault : StorageFault} :
    Storage.write s w = (.error fault, s') → Storage.get? s' = Storage.get? s

instance : LawfulStorage Memory where
  made := by
    rintro s s' w ⟨⟩
    exact w.get?_apply s.entries
  failed := by
    rintro s s' w fault ⟨⟩

theorem FileStore.remove_idle {s : FileStore} {w : Write} (idle : s.isIdle w) :
    w.update (Storage.get? s) = Storage.get? s := by
  cases w with
  | set k text => cases idle
  | remove k =>
      have absent : s.entries.get? k = none := by
        simpa [isIdle, Dict.contains] using idle
      funext key
      by_cases eq : key = k
      · subst eq
        exact (if_pos rfl).trans absent.symm
      · exact if_neg eq

theorem Write.insert_back {w : Write} {d : Dict String} {text : String}
    (previous : d.get? w.key = some text) : (w.apply d).insert w.key text = d := by
  apply Dict.ext_get?
  funext key
  rw [Dict.get?_insert, w.get?_apply]
  split
  · rename_i eq
    rw [eq, previous]
  · exact w.update_of_ne ‹_›

theorem Write.erase_back {w : Write} {d : Dict String} (previous : d.get? w.key = none) :
    (w.apply d).erase w.key = d := by
  apply Dict.ext_get?
  funext key
  rw [Dict.get?_erase, w.get?_apply]
  split
  · rename_i eq
    rw [eq, previous]
  · exact w.update_of_ne ‹_›

namespace FileStore

theorem restore_apply (s : FileStore) (w : Write) :
    restore { s with entries := w.apply s.entries } w.key (s.entries.get? w.key) = s := by
  obtain ⟨entries, place⟩ := s
  cases previous : entries.get? w.key with
  | some text => exact congrArg (FileStore.mk · place) (Write.insert_back previous)
  | none => exact congrArg (FileStore.mk · place) (Write.erase_back previous)

theorem change_eq (s : FileStore) (w : Write) :
    s.change w = if s.place.writable then
        (.ok (), ⟨w.apply s.entries, ⟨some (encode (w.apply s.entries)), true⟩⟩)
      else (.error .unwritable, s) := by
  rw [change, flush]
  cases writable : s.place.writable with
  | true => simp only [if_true, writable]
  | false =>
      simp only [Bool.false_eq_true, if_false]
      exact congrArg (Prod.mk _) (s.restore_apply w)

theorem write_eq (s : FileStore) (w : Write) :
    Storage.write s w = if s.isIdle w then (.ok (), s) else s.change w := rfl

end FileStore

instance : LawfulStorage FileStore where
  made := by
    intro s s' w done
    rw [FileStore.write_eq, FileStore.change_eq] at done
    split at done
    · rename_i idle
      cases done
      exact (FileStore.remove_idle idle).symm
    · split at done
      · cases done
        exact w.get?_apply s.entries
      · cases done
  failed := by
    intro s s' w fault done
    rw [FileStore.write_eq, FileStore.change_eq] at done
    split at done
    · cases done
    · split at done
      · cases done
      · cases done
        rfl

variable {σ : Type} [Storage σ]

theorem Unreliable.write_eq (s : Unreliable σ) (w : Write) :
    Storage.write s w = if s.works s.calls then
      ((Storage.write s.store w).1,
        ⟨(Storage.write s.store w).2, s.calls + 1, s.works⟩)
    else (.error .injected, ⟨s.store, s.calls + 1, s.works⟩) := rfl

theorem Recorded.write_eq (s : Recorded σ) (w : Write) :
    Storage.write s w =
      ((Storage.write s.store w).1, ⟨(Storage.write s.store w).2, s.log ++ [w]⟩) := rfl

variable [LawfulStorage σ]

theorem get?_written {s : σ} {w : Write} (done : (Storage.write s w).1 = .ok ()) :
    Storage.get? (Storage.write s w).2 = w.update (Storage.get? s) :=
  LawfulStorage.made (Prod.ext done rfl)

theorem get?_unwritten {s : σ} {w : Write} {fault : StorageFault}
    (failed : (Storage.write s w).1 = .error fault) :
    Storage.get? (Storage.write s w).2 = Storage.get? s :=
  LawfulStorage.failed (Prod.ext failed rfl)

instance : LawfulStorage (Unreliable σ) where
  made := by
    intro s s' w done
    rw [Unreliable.write_eq] at done
    split at done
    · rw [Prod.mk.injEq] at done
      obtain ⟨outcome, rfl⟩ := done
      exact get?_written (s := s.store) outcome
    · cases done
  failed := by
    intro s s' w fault done
    rw [Unreliable.write_eq] at done
    split at done
    · rw [Prod.mk.injEq] at done
      obtain ⟨outcome, rfl⟩ := done
      exact get?_unwritten (s := s.store) outcome
    · cases done
      rfl

instance : LawfulStorage (Recorded σ) where
  made := by
    intro s s' w done
    rw [Recorded.write_eq, Prod.mk.injEq] at done
    obtain ⟨outcome, rfl⟩ := done
    exact get?_written (s := s.store) outcome
  failed := by
    intro s s' w fault done
    rw [Recorded.write_eq, Prod.mk.injEq] at done
    obtain ⟨outcome, rfl⟩ := done
    exact get?_unwritten (s := s.store) outcome

/-! ## Several changes -/

namespace Storage

/-- The place in a list of changes of the first that fails, and its fault. -/
def failure? (s : σ) : List Write → Option (Nat × StorageFault)
  | [] => none
  | w :: ws => match write s w with
    | (.ok (), s') => (failure? s' ws).map fun (i, fault) => (i + 1, fault)
    | (.error fault, _) => some (0, fault)

theorem writeAll_of_failure? (s : σ) (ws : List Write) : match failure? s ws with
    | none => (writeAll s ws).1 = .ok () ∧ get? (writeAll s ws).2 = updateAll (get? s) ws
    | some (i, fault) => (writeAll s ws).1 = .error fault ∧
        get? (writeAll s ws).2 = updateAll (get? s) (ws.take i) := by
  induction ws generalizing s with
  | nil => exact ⟨rfl, rfl⟩
  | cons w ws ih =>
      rw [failure?, writeAll]
      cases made : write s w with
      | mk outcome s' =>
          cases outcome with
          | error fault => exact ⟨rfl, LawfulStorage.failed made⟩
          | ok _ =>
              have rest := ih s'
              rw [LawfulStorage.made made] at rest
              dsimp only
              cases failed : failure? s' ws with
              | none =>
                  rw [failed] at rest
                  exact rest
              | some failure =>
                  rw [failed] at rest
                  exact rest

theorem get?_writeAll {s : σ} {ws : List Write} (done : (writeAll s ws).1 = .ok ()) :
    get? (writeAll s ws).2 = updateAll (get? s) ws := by
  have made := writeAll_of_failure? s ws
  split at made
  · exact made.2
  · cases done.symm.trans made.1

theorem get?_writeAll_of_ne {s : σ} {ws : List Write} {key : String}
    (others : ∀ w ∈ ws, key ≠ w.key) : get? (writeAll s ws).2 key = get? s key := by
  have made := writeAll_of_failure? s ws
  split at made
  · rw [made.2, updateAll_of_ne others]
  · rw [made.2, updateAll_of_ne fun w mem => others w (List.mem_of_mem_take mem)]

theorem get?_writeAll_failed {s : σ} {ws : List Write} {fault : StorageFault}
    (failed : (writeAll s ws).1 = .error fault) (single : ws.length ≤ 1) :
    get? (writeAll s ws).2 = get? s := by
  match ws, single with
  | [], _ => rfl
  | [w], _ =>
      rw [writeAll] at failed ⊢
      split at failed
      · cases failed
      · rename_i outcome
        exact LawfulStorage.failed outcome

theorem Memory.failure?_eq_none (s : Memory) (ws : List Write) : failure? s ws = none := by
  induction ws generalizing s with
  | nil => rfl
  | cons w ws ih => exact congrArg (Option.map _) (ih ⟨w.apply s.entries⟩)

theorem Memory.writeAll_done (s : Memory) (ws : List Write) : (writeAll s ws).1 = .ok () := by
  have made := writeAll_of_failure? s ws
  rw [Memory.failure?_eq_none] at made
  exact made.1

omit [LawfulStorage σ] in
theorem log_writeAll {s : Recorded σ} {ws : List Write} (done : (writeAll s ws).1 = .ok ()) :
    (writeAll s ws).2.log = s.log ++ ws := by
  induction ws generalizing s with
  | nil => exact (List.append_nil s.log).symm
  | cons w ws ih =>
      rw [writeAll] at done ⊢
      split at done
      · rename_i made
        rw [Recorded.write_eq, Prod.mk.injEq] at made
        obtain ⟨-, rfl⟩ := made
        exact (ih done).trans (List.append_assoc s.log [w] ws)
      · cases done

end Storage

end SqlStore
