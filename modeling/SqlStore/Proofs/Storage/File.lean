import SqlStore.Proofs.Json.Data
import SqlStore.Proofs.Storage

/-!
# Stores in files as dictionaries

A store in a file answers as a dictionary does that began as what the file held and took the
changes that were made. Its file always holds what the store has, so opening it anew changes no
answer.
-/

namespace SqlStore

/-! ## Uses of a store -/

inductive Access where
  | get (key : String)
  | change (w : Write)
  | reopen

inductive Reply where
  | found (text? : Option String)
  | changed (outcome : Except StorageFault Unit)
  | reopened

def Access.applied (d : Dict String) : Access × Reply → Dict String
  | (.change w, .changed (.ok ())) => w.apply d
  | _ => d

namespace FileStore

def access (s : FileStore) (writable : Bool) (a : Access) : Reply × FileStore :=
  let s : FileStore := { s with place := { s.place with writable } }
  match a with
  | .get key => (.found (Storage.get? s key), s)
  | .change w => (.changed (Storage.write s w).1, (Storage.write s w).2)
  | .reopen => (.reopened, openAt s.place)

/-- Accesses one after another, each with whether the file can be replaced at that time. -/
def accessAll (s : FileStore) : List (Access × Bool) → List Reply × FileStore
  | [] => ([], s)
  | (a, writable) :: rest =>
    let first := s.access writable a
    let later := first.2.accessAll rest
    (first.1 :: later.1, later.2)

theorem accessAll_append (s : FileStore) (xs ys : List (Access × Bool)) :
    s.accessAll (xs ++ ys) = ((s.accessAll xs).1 ++ ((s.accessAll xs).2.accessAll ys).1,
      ((s.accessAll xs).2.accessAll ys).2) := by
  induction xs generalizing s with
  | nil => rfl
  | cons x xs ih => rw [List.cons_append, accessAll, accessAll, ih]; rfl

/-! ## The file and the entries -/

theorem decode_encode (d : Dict String) : decode (some (encode d)) = d := by
  have wellFormed : (Json.ofMembers (d.map Json.ofString).entries).WellFormed :=
    Json.ofMembers_wellFormed d fun s _ => .string s
  have read : Json.dict? Json.string? (Json.ofMembers (d.map Json.ofString).entries) = some d :=
    Json.dict?_map d fun _ _ => rfl
  rw [decode, encode, Option.bind_some, Json.read?_text wellFormed]
  exact congrArg (Option.getD · .empty) read

def Synced (s : FileStore) : Prop :=
  decode s.place.text? = s.entries

theorem openAt_synced (place : Place) : (openAt place).Synced := rfl

theorem access_change (s : FileStore) (writable : Bool) (w : Write) :
    s.access writable (.change w) =
      if s.isIdle w then (.changed (.ok ()), { s with place := { s.place with writable } })
      else if writable then
        (.changed (.ok ()), ⟨w.apply s.entries, ⟨some (encode (w.apply s.entries)), true⟩⟩)
      else (.changed (.error .unwritable), { s with place := { s.place with writable } }) := by
  have idle : isIdle { s with place := { s.place with writable } } w = s.isIdle w := by
    cases w <;> rfl
  simp only [access, write_eq, change_eq, idle]
  split
  · rfl
  · split <;> rfl

theorem isIdle_iff {s : FileStore} {w : Write} :
    s.isIdle w ↔ ∃ key, w = .remove key ∧ s.entries.get? key = none := by
  cases w with
  | set key text => simp [isIdle]
  | remove key => simp [isIdle, Dict.contains]

theorem apply_of_isIdle {s : FileStore} {w : Write} (idle : s.isIdle w) :
    w.apply s.entries = s.entries := by
  apply Dict.ext_get?
  rw [w.get?_apply]
  exact remove_idle idle

theorem access_applied {s : FileStore} (synced : s.Synced) (writable : Bool) (a : Access) :
    (s.access writable a).2.Synced ∧
      (s.access writable a).2.entries = Access.applied s.entries (a, (s.access writable a).1) := by
  cases a with
  | get key => exact ⟨synced, rfl⟩
  | reopen => exact ⟨rfl, synced⟩
  | change w =>
      rw [access_change]
      split
      · rename_i idle
        exact ⟨synced, (apply_of_isIdle idle).symm⟩
      · split
        · exact ⟨decode_encode _, rfl⟩
        · exact ⟨synced, rfl⟩

theorem accessAll_applied {s : FileStore} (synced : s.Synced) (xs : List (Access × Bool)) :
    (s.accessAll xs).2.Synced ∧ (s.accessAll xs).2.entries =
      ((xs.map (·.1)).zip (s.accessAll xs).1).foldl Access.applied s.entries := by
  induction xs generalizing s with
  | nil => exact ⟨synced, rfl⟩
  | cons x xs ih =>
      obtain ⟨a, writable⟩ := x
      obtain ⟨kept, entries⟩ := access_applied synced writable a
      obtain ⟨last, all⟩ := ih kept
      rw [accessAll, List.map_cons, List.zip_cons_cons, List.foldl_cons, ← entries]
      exact ⟨last, all⟩

theorem accessAll_reopen {s : FileStore} (synced : s.Synced) (writable : Bool)
    (xs : List (Access × Bool)) :
    (s.accessAll ((.reopen, writable) :: xs)).1 = .reopened :: (s.accessAll xs).1 := by
  have same : (s.access writable .reopen).2 = { s with place := { s.place with writable } } :=
    congrArg (FileStore.mk · _) synced
  rw [accessAll, same]
  cases xs with
  | nil => rfl
  | cons x xs => rfl

/-! ## Several changes -/

theorem writeAll_of_writable {s : FileStore} (writable : s.place.writable) (ws : List Write) :
    (Storage.writeAll s ws).1 = .ok () := by
  induction ws generalizing s with
  | nil => rfl
  | cons w ws ih =>
      rw [Storage.writeAll, write_eq, change_eq, if_pos writable]
      split
      · rename_i made
        split at made
        · cases made
          exact ih writable
        · cases made
          exact ih rfl
      · rename_i failed
        split at failed <;> cases failed

theorem writeAll_error {s : FileStore} {ws : List Write} {fault : StorageFault}
    (failed : (Storage.writeAll s ws).1 = .error fault) : (Storage.writeAll s ws).2 = s := by
  have fixed : ¬ s.place.writable := fun writable => by
    cases (writeAll_of_writable writable ws).symm.trans failed
  clear failed
  induction ws with
  | nil => rfl
  | cons w ws ih =>
      rw [Storage.writeAll, write_eq, change_eq, if_neg fixed]
      split
      · rename_i made
        split at made
        · cases made
          exact ih
        · cases made
      · rename_i unmade
        split at unmade
        · cases unmade
        · cases unmade
          rfl

theorem Synced.write {s : FileStore} (synced : s.Synced) (w : Write) :
    (Storage.write s w).2.Synced := by
  rw [write_eq, change_eq]
  split
  · exact synced
  · split
    · exact decode_encode _
    · exact synced

theorem Synced.writeAll {s : FileStore} (synced : s.Synced) (ws : List Write) :
    (Storage.writeAll s ws).2.Synced := by
  induction ws generalizing s with
  | nil => exact synced
  | cons w ws ih =>
      have kept := synced.write w
      rw [Storage.writeAll]
      split
      · rename_i made
        rw [made] at kept
        exact ih kept
      · rename_i failed
        rw [failed] at kept
        exact kept

theorem Synced.openAt_place {s : FileStore} (synced : s.Synced) : openAt s.place = s :=
  congrArg (FileStore.mk · s.place) synced

/-! ## Stores as dictionaries -/

/-- A store in a file against a dictionary that began as the file decodes, whatever accesses came
before: it finds what the dictionary has; what fails changes neither the entries nor the file; what
is made is in both, and only a change that the file does not take fails; and the replies after a
reopening are those without it. -/
theorem accessAll_as_dict (text? : Option String) (atFirst : Bool)
    (before : List (Access × Bool)) (a : Access) (writable : Bool) :
    let start := openAt ⟨text?, atFirst⟩
    let past := start.accessAll before
    let d := ((before.map (·.1)).zip past.1).foldl Access.applied (decode text?)
    let now := past.2.access writable a
    (∀ key, a = .get key → now.1 = .found (d.get? key)) ∧
    (∀ fault, now.1 = .changed (.error fault) →
      now.2.entries = d ∧ now.2.place.text? = past.2.place.text?) ∧
    (now.2.entries = Access.applied d (a, now.1) ∧ decode now.2.place.text? = now.2.entries) ∧
    (∀ w, a = .change w → (now.1 = .changed (.ok ()) ↔
      writable ∨ ∃ key, w = .remove key ∧ d.get? key = none)) ∧
    (∀ after, a = .reopen → ∃ later,
      (start.accessAll (before ++ after)).1 = past.1 ++ later ∧
      (start.accessAll (before ++ (a, writable) :: after)).1 = past.1 ++ .reopened :: later) := by
  intro start past d now
  obtain ⟨synced, entries⟩ := accessAll_applied (openAt_synced ⟨text?, atFirst⟩) before
  change past.2.entries = d at entries
  obtain ⟨nowSynced, applied⟩ := access_applied synced writable a
  change now.2.entries = Access.applied past.2.entries (a, now.1) at applied
  rw [entries] at applied
  refine ⟨?found, ?failed, ⟨applied, nowSynced⟩, ?made, ?reopened⟩
  case found =>
    rintro key rfl
    rw [← entries]
    rfl
  case failed =>
    intro fault failed
    cases a with
    | get key => cases failed
    | reopen => cases failed
    | change w =>
        rw [failed] at applied
        refine ⟨applied, ?_⟩
        simp only [now, access_change] at failed ⊢
        split
        · rfl
        · rename_i busy
          rw [if_neg busy] at failed
          split
          · rename_i taken
            rw [if_pos taken] at failed
            cases failed
          · rfl
  case made =>
    rintro w rfl
    rw [← entries, ← isIdle_iff]
    simp only [now, access_change]
    by_cases idle : past.2.isIdle w
    · simp [idle]
    · cases writable <;> simp [idle]
  case reopened =>
    rintro after rfl
    refine ⟨(past.2.accessAll after).1, ?_, ?_⟩
    · rw [accessAll_append]
    · rw [accessAll_append]
      exact congrArg (past.1 ++ ·) (accessAll_reopen synced writable after)

theorem accessAll_as_dict_refused :
    let before : List (Access × Bool) :=
      [(.change (.set "a" "1"), true), (.change (.set "a" "2"), false), (.reopen, true)]
    let past := (openAt ⟨some "not json", true⟩).accessAll before
    past.1 = [.changed (.ok ()), .changed (.error .unwritable), .reopened] ∧
      (past.2.access true (.get "a")).1 = .found (some "1") := by
  intro before past
  refine ⟨rfl, ?_⟩
  have found := (accessAll_as_dict (some "not json") true before (.get "a") true).1 "a" rfl
  have kept : ((decode (some "not json")).insert "a" "1").get? "a" = some "1" :=
    (Dict.get?_insert _ _ _ _).trans (if_pos rfl)
  exact found.trans (congrArg Reply.found kept)

end FileStore

end SqlStore
