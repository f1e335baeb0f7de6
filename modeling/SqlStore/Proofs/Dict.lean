import SqlStore.Dict

namespace SqlStore.Dict

universe u v
variable {α : Type u}

/-! ## Entries -/

theorem insertEntry_perm {key : String} {value : α} {es : List (String × α)}
    (new : key ∉ es.map (·.1)) : (insertEntry key value es).Perm ((key, value) :: es) := by
  induction es with
  | nil => exact List.Perm.refl _
  | cons e es ih =>
      simp only [List.map_cons, List.mem_cons, not_or] at new
      rw [insertEntry, if_neg new.1]
      split
      · exact List.Perm.refl _
      · exact (List.Perm.cons e (ih new.2)).trans (List.Perm.swap _ _ _)

theorem insertAll_entries_perm {d : Dict α} {es : List (String × α)}
    (distinct : (d.keys ++ es.map (·.1)).Nodup) :
    (d.insertAll es).entries.Perm (d.entries ++ es) := by
  induction es generalizing d with
  | nil => simp [insertAll]
  | cons e es ih =>
      rw [List.map_cons] at distinct
      have new : e.1 ∉ d.keys := by
        intro mem
        exact (List.nodup_append.1 distinct).2.2 e.1 mem e.1 List.mem_cons_self rfl
      have step : (d.insert e.1 e.2).entries.Perm (e :: d.entries) := insertEntry_perm new
      have distinct' : ((d.insert e.1 e.2).keys ++ es.map (·.1)).Nodup := by
        refine ((step.map (·.1)).append_right _).nodup_iff.2 ?_
        exact List.perm_middle.symm.nodup_iff.2 distinct
      refine (ih distinct').trans ?_
      exact (step.append_right es).trans List.perm_middle.symm

theorem ofList_entries_perm {es : List (String × α)} (distinct : (es.map (·.1)).Nodup) :
    (ofList es).entries.Perm es :=
  insertAll_entries_perm (d := empty) distinct

theorem nodup_keys (d : Dict α) : (d.entries.map (·.1)).Nodup := by
  rw [List.Nodup, List.pairwise_map]
  refine d.sorted.imp ?_
  intro a b lt eq
  rw [eq] at lt
  exact String.lt_irrefl _ lt

theorem eq_of_entries_perm {a b : Dict α} (perm : a.entries.Perm b.entries) : a = b := by
  have entries : a.entries = b.entries := by
    refine List.Perm.eq_of_pairwise (fun x y _ _ lt gt => ?_) a.sorted b.sorted perm
    exact absurd (String.lt_trans lt gt) (String.lt_irrefl _)
  cases a
  cases b
  cases entries
  rfl

theorem ofList_entries (d : Dict α) : ofList d.entries = d :=
  eq_of_entries_perm (ofList_entries_perm d.nodup_keys)

/-! ## Looking up -/

theorem get?_insertAll (d : Dict α) (es : List (String × α)) (k : String) :
    (d.insertAll es).get? k = ((es.reverse.lookup k).or (d.get? k)) := by
  induction es generalizing d with
  | nil => rfl
  | cons e es ih =>
      obtain ⟨name, x⟩ := e
      change ((d.insert name x).insertAll es).get? k = _
      rw [ih, get?_insert, List.reverse_cons, List.lookup_append, lookup_entry, Option.or_assoc]
      split <;> rfl

theorem get?_ofList (es : List (String × α)) (k : String) :
    (ofList es).get? k = es.reverse.lookup k := by
  rw [ofList, get?_insertAll, get?_empty, Option.or_none]

theorem lookup_of_nodup {es : List (String × α)} (distinct : (es.map (·.1)).Nodup)
    {key : String} {value : α} (mem : (key, value) ∈ es) : es.lookup key = some value := by
  induction es with
  | nil => cases mem
  | cons e es ih =>
      rw [List.map_cons, List.nodup_cons] at distinct
      rw [lookup_entry]
      rcases List.mem_cons.1 mem with rfl | mem
      · exact if_pos rfl
      · have other : key ≠ e.1 := by
          rintro rfl
          exact distinct.1 (List.mem_map.2 ⟨(e.1, value), mem, rfl⟩)
        rw [if_neg other]
        exact ih distinct.2 mem

theorem get?_ofList_of_mem {es : List (String × α)} (distinct : (es.map (·.1)).Nodup)
    {key : String} {value : α} (mem : (key, value) ∈ es) : (ofList es).get? key = some value := by
  rw [get?_ofList]
  refine lookup_of_nodup ?_ (List.mem_reverse.2 mem)
  exact ((List.reverse_perm es).map _).nodup_iff.2 distinct

theorem get?_ofList_of_not_mem {es : List (String × α)} {key : String}
    (absent : key ∉ es.map (·.1)) : (ofList es).get? key = none := by
  rw [get?_ofList, List.lookup_eq_none_iff]
  intro e mem
  have apart : key ≠ e.1 := fun same =>
    absent (List.mem_map.2 ⟨e, List.mem_reverse.1 mem, same.symm⟩)
  simpa using apart

theorem lookup_reverse_entries (d : Dict α) (k : String) :
    d.entries.reverse.lookup k = d.get? k := by
  rw [← get?_ofList, ofList_entries]

theorem get?_union (a b : Dict α) (k : String) :
    (a.union b).get? k = (b.get? k).or (a.get? k) := by
  rw [union, get?_insertAll, lookup_reverse_entries]

theorem get?_map {β : Type v} (f : α → β) (d : Dict α) (k : String) :
    (d.map f).get? k = (d.get? k).map f := by
  obtain ⟨es, sorted⟩ := d
  simp only [map, get?]
  clear sorted
  induction es with
  | nil => rfl
  | cons e es ih =>
      obtain ⟨name, x⟩ := e
      rw [List.map_cons, lookup_entry, lookup_entry, ih]
      split <;> rfl

theorem mem_entries_iff (d : Dict α) {key : String} {value : α} :
    (key, value) ∈ d.entries ↔ d.get? key = some value := by
  constructor
  · exact lookup_of_nodup d.nodup_keys
  · intro found
    obtain ⟨before, after, eq, -⟩ := List.lookup_eq_some_iff.1 found
    simp [eq]

theorem ext_get? {a b : Dict α} (same : a.get? = b.get?) : a = b := by
  have distinct (d : Dict α) : d.entries.Nodup := by
    refine d.sorted.imp ?_
    rintro e _ lt rfl
    exact String.lt_irrefl _ lt
  apply eq_of_entries_perm
  refine (List.perm_ext_iff_of_nodup (distinct a) (distinct b)).2 ?_
  rintro ⟨key, value⟩
  rw [mem_entries_iff, mem_entries_iff, same]

theorem empty_union (d : Dict α) : empty.union d = d :=
  ext_get? (funext fun k => by rw [get?_union, get?_empty, Option.or_none])

theorem union_empty (d : Dict α) : d.union empty = d := rfl

theorem union_assoc (a b d : Dict α) : (a.union b).union d = a.union (b.union d) :=
  ext_get? (funext fun k => by simp only [get?_union, Option.or_assoc])

end SqlStore.Dict
