import SqlStore.Proofs.Schema.Fits

namespace SqlStore

open Calendar (Civil Instant)

structure GivenRow where
  policy : NumericPolicy
  columns? : Option (List String)
  values : List Value

namespace GivenRow

def last? (g : GivenRow) (columns : List Column) (c : Column) : Option Value :=
  ((g.columns?.getD (columns.map Column.name)).zip g.values).reverse.lookup c.name

/-- What is stored under a column: the last value given in its stored form, or the default. -/
def StoredAs (g : GivenRow) (columns : List Column) (c : Column) (s : Value) : Prop :=
  match g.last? columns c with
  | some v => ∃ encoded, c.encode? g.policy v = some encoded ∧ s = encoded.stored
  | none => s = c.defaultValue

/-- The row by name that shows a given row: under every column what its stored form stands for. -/
def ShownAs (g : GivenRow) (columns : List Column) (p : NumericPolicy) (record : Record) : Prop :=
  ∃ row : Row, List.Forall₂ (g.StoredAs columns) columns row ∧
    record = Dict.ofList (List.zipWith (fun c s => (c.name, c.decode p s)) columns row)

end GivenRow

/-! ## Storing a row -/

theorem forall₂_of_mapM_eq_ok {ε α β : Type} {f : α → Except ε β} {xs : List α} {ys : List β}
    (ok : xs.mapM f = .ok ys) : List.Forall₂ (fun x y => f x = .ok y) xs ys := by
  have same := mapM_eq_ok.1 ok
  rw [← List.forall₂_eq_eq_eq, List.forall₂_map_left_iff, List.forall₂_map_right_iff] at same
  exact same

namespace Table

variable {t : Table} {p : NumericPolicy}

theorem encode_eq_ok {c : Column} {v s : Value} : c.encode p v = .ok s ↔ c.encode? p v = some s := by
  rw [Column.encode]
  cases c.encode? p v <;> simp

theorem Placed.eq_of_name {columns : List Column} (placed : Placed 0 columns) {a b : Column}
    (memA : a ∈ columns) (memB : b ∈ columns) (eq : a.name = b.name) : a = b := by
  obtain ⟨i, atI⟩ := List.mem_iff_getElem?.1 memA
  obtain ⟨j, atJ⟩ := List.mem_iff_getElem?.1 memB
  have nameI : (columns.map Column.name)[i]? = some a.name := by rw [List.getElem?_map, atI]; rfl
  have nameJ : (columns.map Column.name)[j]? = some a.name := by
    rw [List.getElem?_map, atJ, eq]
    rfl
  have lt : i < (columns.map Column.name).length := (List.getElem?_eq_some_iff.1 nameI).1
  have same : i = j := (List.getElem?_inj lt placed.names).1 (nameI.trans nameJ.symm)
  subst same
  exact Option.some.inj (atI.symm.trans atJ)

theorem fill_get? (placed : Placed 0 t.columns) {targets : List (Column × Value)}
    (known : ∀ target ∈ targets, target.1 ∈ t.columns) {start row : Row}
    (width : start.length = t.columns.length)
    (ok : targets.foldlM (fun row (c, v) => return row.set c.index.toNat (← c.encode p v)) start =
      .ok row) {c : Column} (mem : c ∈ t.columns) :
    ∃ s, row[c.index.toNat]? = some s ∧
      match (targets.map fun target => (target.1.name, target.2)).reverse.lookup c.name with
      | some v => c.encode? p v = some s
      | none => start[c.index.toNat]? = some s := by
  induction targets generalizing start with
  | nil =>
      rw [List.foldlM_nil, pure_eq_ok] at ok
      subst ok
      have lt : c.index.toNat < start.length := by
        rw [width]
        exact (List.getElem?_eq_some_iff.1 (placed.get?_index mem)).1
      exact ⟨start[c.index.toNat], List.getElem?_eq_getElem lt, List.getElem?_eq_getElem lt⟩
  | cons target targets ih =>
      obtain ⟨d, v⟩ := target
      rw [List.foldlM_cons] at ok
      obtain ⟨next, step, ok⟩ := bind_eq_ok.1 ok
      obtain ⟨s, encoded, step⟩ := bind_eq_ok.1 step
      obtain rfl := pure_eq_ok.1 step
      have memD : d ∈ t.columns := known (d, v) List.mem_cons_self
      obtain ⟨s', there, last⟩ := ih (fun target' mem' => known target' (List.mem_cons_of_mem _ mem'))
        (by rw [List.length_set, width]) ok
      refine ⟨s', there, ?_⟩
      rw [List.map_cons, List.reverse_cons, List.lookup_append]
      -- A later target for the same column hides this one.
      cases later : (targets.map fun target => (target.1.name, target.2)).reverse.lookup c.name with
      | some v' =>
          rw [later] at last
          exact last
      | none =>
          rw [later] at last
          rw [Option.none_or, Dict.lookup_entry]
          by_cases eq : c.name = d.name
          · obtain rfl := placed.eq_of_name mem memD eq
            have lt : c.index.toNat < start.length := by
              rw [width]
              exact (List.getElem?_eq_some_iff.1 (placed.get?_index mem)).1
            rw [List.getElem?_set_self lt, Option.some.injEq] at last
            rw [if_pos rfl, ← last]
            exact encode_eq_ok.1 encoded
          · have apart : d.index.toNat ≠ c.index.toNat := fun same =>
              eq (congrArg Column.name (placed.eq_of_index mem memD (UInt64.toNat_inj.1 same.symm)))
            rw [List.getElem?_set_ne apart] at last
            rw [if_neg eq]
            exact last

theorem fillRow_get? (placed : Placed 0 t.columns) {g : GivenRow}
    {targets : List (Column × Value)} (known : ∀ target ∈ targets, target.1 ∈ t.columns)
    (named : (targets.map fun target => (target.1.name, target.2)) =
      (g.columns?.getD (t.columns.map Column.name)).zip g.values) {row : Row}
    (ok : t.fillRow g.policy targets = .ok row) {c : Column} (mem : c ∈ t.columns) :
    ∃ s, row[c.index.toNat]? = some s ∧
      match g.last? t.columns c with
      | some v => c.encode? g.policy v = some s
      | none => s = c.defaultValue := by
  obtain ⟨s, there, last⟩ := fill_get? placed known (List.length_map _) ok mem
  refine ⟨s, there, ?_⟩
  rw [GivenRow.last?, ← named]
  split
  · rename_i v given
    rw [given] at last
    exact last
  · rename_i absent
    rw [absent, List.getElem?_map, placed.get?_index mem, Option.map_some,
      Option.some.injEq] at last
    exact last.symm

theorem forall₂_of_index {R : Column → Value → Prop} {row : Row} (placed : Placed 0 t.columns)
    (width : row.length = t.columns.length)
    (all : ∀ c ∈ t.columns, ∃ s, row[c.index.toNat]? = some s ∧ R c s) :
    List.Forall₂ R t.columns row := by
  refine List.forall₂_iff_get.2 ⟨width.symm, fun i lt lt' => ?_⟩
  have mem : t.columns.get ⟨i, lt⟩ ∈ t.columns := List.get_mem _ _
  obtain ⟨s, there, holds⟩ := all _ mem
  have place := placed.places i _ (List.getElem?_eq_getElem lt)
  rw [Nat.zero_add] at place
  rw [List.get_eq_getElem, place, List.getElem?_eq_getElem lt', Option.some.injEq] at there
  rw [List.get_eq_getElem, List.get_eq_getElem, there]
  exact holds

theorem get?_of_forall₂ {R : Column → Value → Prop} {row : Row} (placed : Placed 0 t.columns)
    (all : List.Forall₂ R t.columns row) {c : Column} (mem : c ∈ t.columns) :
    ∃ s, row[c.index.toNat]? = some s ∧ R c s := by
  obtain ⟨lt, here⟩ := List.getElem?_eq_some_iff.1 (placed.get?_index mem)
  have lt' : c.index.toNat < row.length := all.length_eq ▸ lt
  have holds := (List.forall₂_iff_get.1 all).2 _ lt lt'
  rw [List.get_eq_getElem, here] at holds
  exact ⟨_, List.getElem?_eq_getElem lt', holds⟩

theorem map_name_of_mapM_column {names : List String} {columns : List Column}
    (found : names.mapM t.column = .ok columns) : columns.map Column.name = names := by
  have same := map_eq_of_mapM_eq_ok (g := Column.name) (h := id)
    (fun name c column => (column_eq_ok column).2) found
  rw [same, List.map_id]

theorem newRow_get? (placed : Placed 0 t.columns) {g : GivenRow} {row : Row}
    (ok : t.newRow g.policy g.columns? g.values = .ok row) {c : Column} (mem : c ∈ t.columns) :
    ∃ s, row[c.index.toNat]? = some s ∧
      match g.last? t.columns c with
      | some v => c.encode? g.policy v = some s
      | none => s = c.defaultValue := by
  cases given : g.columns? with
  | none =>
      rw [given, newRow, rowOfValues] at ok
      split at ok
      · cases ok
      · refine fillRow_get? placed (fun target mem => (List.of_mem_zip mem).1) ?_ ok mem
        rw [given, Option.getD_none, List.zip_map_left]
        rfl
  | some names =>
      rw [given, newRow, rowOfColumns] at ok
      split at ok
      · cases ok
      · obtain ⟨columns, found, ok⟩ := bind_eq_ok.1 ok
        refine fillRow_get? placed (fun target mem => ?_) ?_ ok mem
        · obtain ⟨name, -, column⟩ := exists_of_mapM_eq_ok found (List.of_mem_zip mem).1
          exact (column_eq_ok column).1
        · rw [given, Option.getD_some, ← map_name_of_mapM_column found, List.zip_map_left]
          rfl

theorem newRow_storedAs (placed : Placed 0 t.columns) (noFloat : t.NoFloat) {g : GivenRow}
    {row : Row} (ok : t.newRow g.policy g.columns? g.values = .ok row) :
    List.Forall₂ (g.StoredAs t.columns) t.columns (row.map Value.stored) := by
  have width : row.length = t.columns.length := (newRow_stores placed noFloat ok).length_eq.symm
  rw [List.forall₂_map_right_iff]
  refine forall₂_of_index placed width fun c mem => ?_
  obtain ⟨s, there, last⟩ := newRow_get? placed ok mem
  refine ⟨s, there, ?_⟩
  rw [GivenRow.StoredAs]
  split
  · rename_i v given
    rw [given] at last
    exact ⟨s, last, rfl⟩
  · rename_i absent
    rw [absent] at last
    rw [last]
    exact c.defaultValue_stored

end Table

/-! ## Showing a row -/

theorem Table.recordOf_eq {t : Table} (placed : Table.Placed 0 t.columns) {row : Row}
    (width : row.length = t.columns.length) (p : NumericPolicy) :
    t.recordOf none p row =
      Dict.ofList (List.zipWith (fun c s => (c.name, c.decode p s)) t.columns row) := by
  rw [recordOf]
  congr 1
  apply List.ext_getElem (by simp [width])
  intro i lt lt'
  rw [List.length_map] at lt
  have place := placed.places i _ (List.getElem?_eq_getElem lt)
  rw [Nat.zero_add] at place
  rw [List.getElem_map, List.getElem_zipWith, place, List.getD_eq_getElem?_getD,
    List.getElem?_eq_getElem (width ▸ lt), Option.getD_some, qualify]

theorem GivenRow.ShownAs.get? {g : GivenRow} {columns : List Column} {p : NumericPolicy}
    {record : Record} (shown : g.ShownAs columns p record)
    (names : (columns.map Column.name).Nodup) {c : Column} (mem : c ∈ columns) :
    ∃ s, g.StoredAs columns c s ∧ record.get? c.name = some (c.decode p s) := by
  obtain ⟨row, stored, rfl⟩ := shown
  obtain ⟨i, lt, rfl⟩ := List.mem_iff_getElem.1 mem
  have lt' : i < row.length := stored.length_eq ▸ lt
  have keys : (List.zipWith (fun c s => (c.name, c.decode p s)) columns row).map (·.1) =
      columns.map Column.name := by
    apply List.ext_getElem (by simp [stored.length_eq])
    intro j _ _
    rw [List.getElem_map, List.getElem_zipWith, List.getElem_map]
  have width : i < (List.zipWith (fun c s => (c.name, c.decode p s)) columns row).length := by
    rw [List.length_zipWith]
    omega
  refine ⟨row[i], (List.forall₂_iff_get.1 stored).2 i lt lt', Dict.get?_ofList_of_mem ?_ ?_⟩
  · rw [keys]
    exact names
  · exact List.mem_iff_getElem.2 ⟨i, width, List.getElem_zipWith⟩

/-! ## Values that come back -/

structure Calendar.Instant.IsMillis (t : Instant) (ms : Int) : Prop where
  millis : t.millis = ms
  whole : t.nanos % 1000000 = 0
  regular : t.nanos < 1000000000
  first : firstYear ≤ (Civil.ofDayNumber t.dayNumber).year
  last : (Civil.ofDayNumber t.dayNumber).year ≤ lastYear

theorem Calendar.Instant.ofMillis?_of_isMillis {t : Instant} {ms : Int} (isMillis : t.IsMillis ms) :
    Instant.ofMillis? ms = some t := by
  have same : (⟨ms.fdiv 1000, (ms.fmod 1000).toNat * 1000000⟩ : Instant) = t := by
    obtain ⟨seconds, nanos⟩ := t
    obtain ⟨millis, whole, regular, -, -⟩ := isMillis
    simp only [Instant.millis] at millis whole regular
    rw [Int.fdiv_eq_ediv_of_nonneg _ (by decide), Int.fmod_eq_emod_of_nonneg _ (by decide)]
    rw [Instant.mk.injEq]
    omega
  rw [Instant.ofMillis?, same]
  exact if_pos ⟨isMillis.first, isMillis.last⟩

/-- The values that a column gives back, and as what. -/
inductive Column.Keeps (c : Column) : Value → Value → Prop where
  | int (kind : c.kind = .integer) (i : Int64) : Keeps c (.int i) (.int i)
  | bool (kind : c.kind = .boolean) (b : Bool) : Keeps c (.bool b) (.bool b)
  | text (kind : c.kind = .string) (unbounded : c.length = none) (s : String) (nonempty : s ≠ "") :
      Keeps c (.text s) (.text s)
  | timestamp (kind : c.kind = .date) (ms : Int64) (t : Instant) (isMillis : t.IsMillis ms.toInt) :
      Keeps c (.int ms) (.date t)

theorem Column.Keeps.decode_encode {c : Column} {v w : Value} (keeps : c.Keeps v w)
    {q p : NumericPolicy} {s : Value} (encoded : c.encode? q v = some s) :
    c.decode p s.stored = w := by
  unfold encode? at encoded
  unfold decode
  cases keeps with
  | int kind i =>
      rw [kind] at encoded
      cases encoded
      simp only [kind, Value.stored]
  | bool kind b =>
      rw [kind] at encoded
      cases encoded
      simp only [kind, Value.stored, Value.truthy]
  | text kind unbounded s nonempty =>
      have truthy : (Value.text s).truthy = true := by simpa [Value.truthy] using nonempty
      have fit : c.fit s = s := by rw [Column.fit, unbounded]
      simp only [kind, truthy, if_true, Value.toText, fit, Option.some.injEq] at encoded
      simp only [kind, ← encoded, Value.stored]
  | timestamp kind ms t isMillis =>
      rw [kind] at encoded
      cases encoded
      simp only [kind, Value.stored, Instant.ofMillis?_of_isMillis isMillis]

end SqlStore
