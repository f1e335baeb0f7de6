import SqlStore.Proofs.Execution.Footprint

namespace SqlStore

namespace Table

structure Acceptable (columns : List Column) : Prop where
  nonempty : columns ≠ []
  names : (columns.map Column.name).Nodup
  places : (columns.map fun c => c.index.toNat).Perm (List.range columns.length)

theorem Acceptable.of_perm {columns reordered : List Column} (acceptable : Acceptable columns)
    (perm : reordered.Perm columns) : Acceptable reordered where
  nonempty := by
    rintro rfl
    exact acceptable.nonempty perm.nil_eq.symm
  names := (perm.map _).nodup_iff.2 acceptable.names
  places := by
    rw [perm.length_eq]
    exact (perm.map _).trans acceptable.places

theorem places_iff {columns : List Column} :
    (∀ i, ∀ c ∈ columns[i]?, c.index.toNat = 0 + i) ↔
      columns.map (fun c => c.index.toNat) = List.range columns.length := by
  constructor
  · intro places
    apply List.ext_getElem
    · simp
    · intro i inside _
      rw [List.length_map] at inside
      simpa using places i columns[i] (List.getElem?_eq_getElem inside)
  · intro places i c found
    have place := congrArg (·[i]?) places
    obtain ⟨inside, rfl⟩ := List.getElem?_eq_some_iff.1 found
    simpa [inside] using place

theorem map_index_stableSort {columns : List Column}
    (places : (columns.map fun c => c.index.toNat).Perm (List.range columns.length)) :
    (stableSort indexBefore columns).map (fun c => c.index.toNat) = List.range columns.length := by
  refine List.Perm.eq_of_pairwise (fun a b _ _ ab ba => le_antisymm ab ba) ?_ ?_
    (((stableSort_perm columns).map _).trans places)
  · refine List.pairwise_map.2 ((stableSort_sorted indexBefore_strictWeak columns).imp ?_)
    intro a b ordered
    simpa [indexBefore, UInt64.lt_iff_toNat_lt] using ordered
  · exact List.pairwise_lt_range.imp le_of_lt

theorem check_stableSort {name : String} {columns : List Column} :
    check ⟨name, stableSort indexBefore columns⟩ = .ok () ↔ Acceptable columns := by
  have perm : (stableSort indexBefore columns).Perm columns := stableSort_perm columns
  rw [check_ok_iff]
  constructor
  · rintro ⟨nonempty, names, places⟩
    refine Acceptable.of_perm ⟨nonempty, names, ?_⟩ perm.symm
    rw [places_iff.1 places]
  · intro acceptable
    refine ⟨(acceptable.of_perm perm).nonempty, (acceptable.of_perm perm).names, places_iff.2 ?_⟩
    rw [map_index_stableSort acceptable.places, perm.length_eq]

theorem exists_ofColumns_iff {name : String} {columns : List Column} :
    (∃ t, Table.ofColumns name columns = .ok t) ↔ Acceptable columns := by
  rw [← @check_stableSort name]
  constructor
  · rintro ⟨t, made⟩
    obtain ⟨rfl, ok⟩ := ofColumns_eq_ok.1 made
    exact ok
  · intro ok
    exact ⟨_, ofColumns_eq_ok.2 ⟨rfl, ok⟩⟩

end Table

/-! ## Creating a table -/

variable {σ : Type} [Storage σ] [LawfulStorage σ]

namespace Connection

theorem runPlan_createTable {c : Connection} {view : View} {n : TableName} {t : Table}
    (new : view (c.definitionKey n) = none) (ok : t.check = .ok ()) :
    c.runPlan view (.command (.createTable n t)) =
      ⟨[.set (c.definitionKey n) t.definitionText], .ok (.changed (.created n))⟩ := by
  have created : c.createTable view n t =
      .ok ([.set (c.definitionKey n) t.definitionText], .created n) :=
    createTable_eq_ok.2 ⟨table?_eq_none.2 new, ok, rfl, rfl⟩
  rw [runPlan, runCommand, created]

theorem table?_executePlan_createTable {c : Connection} {s : σ} {n : TableName} {t : Table}
    (new : Storage.get? s (c.definitionKey n) = none) (ok : t.check = .ok ()) :
    let created := c.executePlan s (.command (.createTable n t))
    (∃ fault, created.1 = .error (.storage fault)) ∨
      created.1 = .ok (.changed (.created n)) ∧
        c.table? (Storage.get? created.2) n = .ok (some ⟨n.text, t.columns⟩) := by
  intro created
  have committed : created = Effect.commit _ s :=
    congrArg (Effect.commit · s) (runPlan_createTable new ok)
  rw [Effect.commit] at committed
  split at committed
  · rename_i done
    have stored := Storage.get?_writeAll (congrArg Prod.fst done)
    rw [committed]
    refine .inr ⟨rfl, table?_definitionText ok ?_⟩
    rw [done] at stored
    rw [stored]
    exact if_pos rfl
  · rename_i fault _ _
    rw [committed]
    exact .inl ⟨fault, rfl⟩

end Connection

/-- What it takes for columns to make a table, which one they make in whatever order they come, and
that this table is found with the same columns in the order of their places once it is created in a
store without it. -/
theorem Table.ofColumns_survives (columns : List Column) (name : String) :
    ((∃ t, Table.ofColumns name columns = .ok t) ↔ Table.Acceptable columns) ∧
    ∀ t, Table.ofColumns name columns = .ok t →
      (t.name = name ∧ t.columns.Perm columns ∧
        t.columns.map (fun c => c.index.toNat) = List.range columns.length) ∧
      (∀ reordered, reordered.Perm columns → Table.ofColumns name reordered = .ok t) ∧
      ∀ (c : Connection) (s : σ) (n : TableName), Storage.get? s (c.definitionKey n) = none →
        let created := c.executePlan s (.command (.createTable n t))
        (∃ fault, created.1 = .error (.storage fault)) ∨
          created.1 = .ok (.changed (.created n)) ∧
            c.table? (Storage.get? created.2) n = .ok (some ⟨n.text, t.columns⟩) := by
  refine ⟨exists_ofColumns_iff, fun t made => ?_⟩
  have acceptable : Acceptable columns := exists_ofColumns_iff.1 ⟨t, made⟩
  obtain ⟨rfl, ok⟩ := ofColumns_eq_ok.1 made
  have perm : (stableSort indexBefore columns).Perm columns := stableSort_perm columns
  refine ⟨⟨rfl, perm, map_index_stableSort acceptable.places⟩, fun reordered same => ?_,
    fun c s n new => Connection.table?_executePlan_createTable new ok⟩
  exact ofColumns_of_perm ok (same.trans perm.symm) name

theorem Table.ofColumns_survives_reordered :
    let wide : Column := ⟨"b\"\n", .string, 1, some 3, some ' '⟩
    let plain : Column := ⟨"a", .float, 0, none, none⟩
    let t : Table := ⟨"t", [plain, wide]⟩
    let c : Connection := ⟨"main", .default⟩
    let created := c.executePlan Memory.empty (.command (.createTable ⟨none, "t"⟩ t))
    Table.ofColumns "t" [wide, plain] = .ok t ∧ Table.ofColumns "t" [plain, wide] = .ok t ∧
      created.1 = .ok (.changed (.created ⟨none, "t"⟩)) ∧
      c.table? (Storage.get? created.2) ⟨none, "t"⟩ = .ok (some t) := by
  intro wide plain t c created
  have made : Table.ofColumns "t" [wide, plain] = .ok t := by decide
  obtain ⟨-, reorder, survives⟩ :=
    (@Table.ofColumns_survives Memory _ _ [wide, plain] "t").2 t made
  refine ⟨made, reorder _ (List.Perm.swap wide plain []), ?_⟩
  rcases survives c Memory.empty ⟨none, "t"⟩ rfl with ⟨fault, failed⟩ | stored
  · have done : created.1 = .ok (.changed (.created ⟨none, "t"⟩)) := rfl
    cases done.symm.trans failed
  · exact stored

end SqlStore
