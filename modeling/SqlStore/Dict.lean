namespace SqlStore

universe u v

structure Dict (α : Type u) where
  entries : List (String × α)
  sorted : entries.Pairwise (fun a b => a.1 < b.1) := by simp

namespace Dict

variable {α : Type u} {β : Type v}

instance [DecidableEq α] : DecidableEq (Dict α) := fun a b =>
  match decEq a.entries b.entries with
  | isTrue h => isTrue (by cases a; cases b; simp_all)
  | isFalse h => isFalse (fun e => h (congrArg entries e))

def empty : Dict α := { entries := [] }

instance : Inhabited (Dict α) := ⟨empty⟩

def get? (d : Dict α) (key : String) : Option α :=
  d.entries.lookup key

def contains (d : Dict α) (key : String) : Bool :=
  (d.get? key).isSome

def size (d : Dict α) : Nat :=
  d.entries.length

def keys (d : Dict α) : List String :=
  d.entries.map (·.1)

def values (d : Dict α) : List α :=
  d.entries.map (·.2)

def insertEntry (key : String) (value : α) : List (String × α) → List (String × α)
  | [] => [(key, value)]
  | e :: es =>
    if key < e.1 then (key, value) :: e :: es
    else if key = e.1 then (key, value) :: es
    else e :: insertEntry key value es

theorem mem_insertEntry {key : String} {value : α} {es : List (String × α)} {x : String × α}
    (h : x ∈ insertEntry key value es) : x = (key, value) ∨ x ∈ es := by
  induction es with
  | nil => simpa [insertEntry] using h
  | cons e es ih =>
    simp only [insertEntry] at h
    split at h
    · simpa using h
    · split at h
      · rcases List.mem_cons.1 h with rfl | h
        · exact .inl rfl
        · exact .inr (List.mem_cons_of_mem _ h)
      · rcases List.mem_cons.1 h with rfl | h
        · exact .inr List.mem_cons_self
        · rcases ih h with h | h
          · exact .inl h
          · exact .inr (List.mem_cons_of_mem _ h)

theorem pairwise_insertEntry {key : String} {value : α} {es : List (String × α)}
    (h : es.Pairwise (fun a b => a.1 < b.1)) :
    (insertEntry key value es).Pairwise (fun a b => a.1 < b.1) := by
  induction es with
  | nil => simp [insertEntry]
  | cons e es ih =>
    rw [List.pairwise_cons] at h
    simp only [insertEntry]
    split
    · rename_i lt
      rw [List.pairwise_cons, List.pairwise_cons]
      refine ⟨fun x mem => ?_, h⟩
      rcases List.mem_cons.1 mem with rfl | mem
      · exact lt
      · exact String.lt_trans lt (h.1 x mem)
    · split
      · rename_i eq
        subst eq
        exact List.pairwise_cons.2 h
      · rename_i not_lt ne
        refine List.pairwise_cons.2 ⟨fun x mem => ?_, ih h.2⟩
        rcases mem_insertEntry mem with rfl | mem
        · exact Std.lt_of_le_of_ne (String.not_lt.1 not_lt) (Ne.symm ne)
        · exact h.1 x mem

def insert (d : Dict α) (key : String) (value : α) : Dict α where
  entries := insertEntry key value d.entries
  sorted := pairwise_insertEntry d.sorted

def erase (d : Dict α) (key : String) : Dict α where
  entries := d.entries.filter (fun e => e.1 != key)
  sorted := d.sorted.filter _

def map (f : α → β) (d : Dict α) : Dict β where
  entries := d.entries.map (fun e => (e.1, f e.2))
  sorted := List.pairwise_map.2 d.sorted

def insertAll (d : Dict α) (es : List (String × α)) : Dict α :=
  es.foldl (fun d e => d.insert e.1 e.2) d

def ofList (es : List (String × α)) : Dict α :=
  empty.insertAll es

def mapExcept {ε : Type v} {β : Type v} (f : α → Except ε β) (d : Dict α) : Except ε (Dict β) := do
  return ofList (← d.entries.mapM fun e => return (e.1, ← f e.2))

/-- The entries of both; where both have a key, the second's. -/
def union (a b : Dict α) : Dict α :=
  a.insertAll b.entries

theorem lookup_entry (k name : String) (x : α) (es : List (String × α)) :
    ((name, x) :: es).lookup k = if k = name then some x else es.lookup k := by
  rw [List.lookup_cons]
  by_cases h : k = name
  · simp [h]
  · rw [beq_eq_false_iff_ne.2 h, if_neg h]

theorem lookup_insertEntry (key : String) (value : α) (es : List (String × α)) (k : String) :
    (insertEntry key value es).lookup k = if k = key then some value else es.lookup k := by
  induction es with
  | nil => rw [insertEntry, lookup_entry]
  | cons e es ih =>
    obtain ⟨name, x⟩ := e
    simp only [insertEntry]
    split
    · rw [lookup_entry]
    · split
      · rename_i eq
        subst eq
        by_cases h : k = key <;> simp [lookup_entry, h]
      · rename_i ne
        rw [lookup_entry, lookup_entry, ih]
        by_cases h : k = name
        · subst h
          simp [Ne.symm ne]
        · simp [h]

@[simp] theorem get?_empty (k : String) : (empty : Dict α).get? k = none := rfl

theorem get?_insert (d : Dict α) (key : String) (value : α) (k : String) :
    (d.insert key value).get? k = if k = key then some value else d.get? k :=
  lookup_insertEntry key value d.entries k

theorem get?_erase (d : Dict α) (key k : String) :
    (d.erase key).get? k = if k = key then none else d.get? k := by
  obtain ⟨es, sorted⟩ := d
  simp only [erase, get?]
  clear sorted
  induction es with
  | nil => simp
  | cons e es ih =>
    obtain ⟨name, x⟩ := e
    rw [List.filter_cons, lookup_entry]
    by_cases h : name = key
    · subst h
      rw [if_neg (by simp), ih]
      split <;> rfl
    · rw [if_pos (by simpa using h), lookup_entry, ih]
      by_cases hk : k = name
      · subst hk
        simp [h]
      · simp [hk]

end Dict

end SqlStore
