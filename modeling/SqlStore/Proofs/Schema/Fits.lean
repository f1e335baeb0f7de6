import Mathlib.Data.List.Forall2
import SqlStore.Execution.Command
import SqlStore.Proofs.Except
import SqlStore.Proofs.Schema.StoredText

namespace SqlStore

namespace Column

def FitsWidth (c : Column) (s : String) : Prop :=
  ∀ n, c.length = some n → s.length ≤ n.toNat ∧ (c.pad.isSome → s.length = n.toNat)

def Fits (c : Column) (v : Value) : Prop :=
  match c.kind with
  | .string => v = .null ∨ ∃ s, v = .text s ∧ c.FitsWidth s
  | .binary => v = .null ∨ ∃ s, v = .text s
  | .boolean => ∃ b, v = .bool b
  | .integer | .date => v = .null ∨ ∃ i, v = .int i
  | .float => v = .null ∨ (∃ i, v = .int i) ∨ ∃ x, v = .float x

def Stores (c : Column) (v : Value) : Prop :=
  v.exact ∧ c.Fits v.stored

theorem fit_fitsWidth (c : Column) (s : String) : c.FitsWidth (c.fit s) := by
  intro n declared
  rw [fit, declared]
  cases c.pad with
  | none =>
      refine ⟨?_, fun padded => by cases padded⟩
      simp only [String.length_ofList, List.length_take]
      exact Nat.min_le_left _ _
  | some pad =>
      have width : (String.ofList (s.toList.take n.toNat ++
          List.replicate (n.toNat - (s.toList.take n.toNat).length) pad)).length = n.toNat := by
        simp only [String.length_ofList, List.length_append, List.length_replicate,
          List.length_take]
        omega
      exact ⟨Nat.le_of_eq width, fun _ => width⟩

theorem stores_null {c : Column} (nullable : c.kind ≠ .boolean) : c.Stores .null := by
  refine ⟨rfl, ?_⟩
  rw [Fits]
  split
  · exact .inl rfl
  · exact .inl rfl
  · rename_i kind
    exact absurd kind nullable
  · exact .inl rfl
  · exact .inl rfl
  · exact .inl rfl

theorem stores_int {c : Column} (number : c.kind = .integer ∨ c.kind = .date) (i : Int64) :
    c.Stores (.int i) := by
  refine ⟨rfl, ?_⟩
  rcases number with kind | kind <;>
  · rw [Fits, kind]
    exact .inr ⟨i, rfl⟩

theorem stores_bool {c : Column} (kind : c.kind = .boolean) (b : Bool) : c.Stores (.bool b) := by
  refine ⟨rfl, ?_⟩
  rw [Fits, kind]
  exact ⟨b, rfl⟩

theorem stores_text {c : Column} (kind : c.kind = .string) {s : String} (width : c.FitsWidth s) :
    c.Stores (.text s) := by
  refine ⟨rfl, ?_⟩
  rw [Fits, kind]
  exact .inr ⟨s, rfl, width⟩

theorem stores_bytes {c : Column} (kind : c.kind = .binary) (s : String) : c.Stores (.text s) := by
  refine ⟨rfl, ?_⟩
  rw [Fits, kind]
  exact .inr ⟨s, rfl⟩

theorem stores_notANumber {c : Column} (kind : c.kind = .integer) : c.Stores .notANumber := by
  refine ⟨by decide, ?_⟩
  have null : Value.notANumber.stored = .null := by decide
  rw [Fits, kind, null]
  exact .inl rfl

theorem encode?_integer {p : NumericPolicy} {c : Column} {v s : Value} (kind : c.kind = .integer)
    (ok : c.encode? p v = some s) :
    v = .null ∧ s = .null ∨ (∃ i, s = .int i) ∨ p = .coerce ∧ s = .notANumber := by
  have absent (ok : absentNumber p = some s) : p = .coerce ∧ s = .notANumber := by
    cases p <;> cases ok
    exact ⟨rfl, rfl⟩
  simp only [encode?, kind] at ok
  split at ok
  · cases ok
    exact .inl ⟨rfl, rfl⟩
  · cases ok
    exact .inr (.inl ⟨_, rfl⟩)
  · split at ok
    · cases ok
      exact .inr (.inl ⟨_, rfl⟩)
    · exact .inr (.inr (absent ok))
  · cases ok
    exact .inr (.inl ⟨_, rfl⟩)
  · split at ok
    · cases ok
      exact .inr (.inl ⟨_, rfl⟩)
    · exact .inr (.inr (absent ok))
  · exact .inr (.inr (absent ok))

theorem encode?_stores {p : NumericPolicy} {c : Column} {v s : Value} (noFloat : c.kind ≠ .float)
    (ok : c.encode? p v = some s) : c.Stores s := by
  cases kind : c.kind with
  | string =>
      simp only [encode?, kind, Option.some.injEq] at ok
      rw [← ok]
      split
      · exact stores_text kind (c.fit_fitsWidth _)
      · exact stores_null (by simp [kind])
  | binary =>
      simp only [encode?, kind, Option.some.injEq] at ok
      rw [← ok]
      split
      · exact stores_bytes kind _
      · exact stores_null (by simp [kind])
  | boolean =>
      simp only [encode?, kind, Option.some.injEq] at ok
      rw [← ok]
      exact stores_bool kind _
  | integer =>
      rcases encode?_integer kind ok with ⟨-, rfl⟩ | ⟨i, rfl⟩ | ⟨-, rfl⟩
      · exact stores_null (by simp [kind])
      · exact stores_int (.inl kind) i
      · exact stores_notANumber kind
  | float => exact absurd kind noFloat
  | date =>
      simp only [encode?, kind] at ok
      split at ok
      · cases ok
        exact stores_int (.inr kind) _
      · cases ok
        exact stores_int (.inr kind) _
      · split at ok
        · cases ok
          exact stores_int (.inr kind) _
        · cases ok
          exact stores_null (by simp [kind])
        · cases ok
      · cases ok
        exact stores_null (by simp [kind])

theorem defaultValue_stores (c : Column) : c.Stores c.defaultValue := by
  rw [defaultValue]
  split
  · rename_i n pad kind declared padded
    apply stores_text kind
    intro m eq
    rw [declared, Option.some.injEq] at eq
    subst eq
    rw [String.length_ofList, List.length_replicate]
    exact ⟨Nat.le_refl _, fun _ => rfl⟩
  · rename_i kind
    exact stores_bool kind false
  · rename_i notBoolean _
    exact stores_null notBoolean

theorem Fits.stored_eq {c : Column} {v : Value} (noFloat : c.kind ≠ .float) (fits : c.Fits v) :
    v.exact ∧ v.stored = v := by
  rw [Fits] at fits
  split at fits
  · rcases fits with rfl | ⟨s, rfl, -⟩ <;> exact ⟨rfl, rfl⟩
  · rcases fits with rfl | ⟨s, rfl⟩ <;> exact ⟨rfl, rfl⟩
  · obtain ⟨b, rfl⟩ := fits
    exact ⟨rfl, rfl⟩
  · rcases fits with rfl | ⟨i, rfl⟩ <;> exact ⟨rfl, rfl⟩
  · rcases fits with rfl | ⟨i, rfl⟩ <;> exact ⟨rfl, rfl⟩
  · rename_i kind
    exact absurd kind noFloat

theorem defaultValue_stored (c : Column) : c.defaultValue.stored = c.defaultValue := by
  rw [defaultValue]
  split <;> rfl

theorem Fits.stores {c : Column} {v : Value} (noFloat : c.kind ≠ .float) (fits : c.Fits v) :
    c.Stores v := by
  obtain ⟨exact, stored⟩ := fits.stored_eq noFloat
  exact ⟨exact, by rwa [stored]⟩

end Column

/-! ## Rows -/

namespace Table

def FitsRow (t : Table) (row : Row) : Prop :=
  List.Forall₂ Column.Fits t.columns row

def StoresRow (t : Table) (row : Row) : Prop :=
  List.Forall₂ Column.Stores t.columns row

theorem forall₂_set {α β : Type} {R : α → β → Prop} {xs : List α} {ys : List β}
    (all : List.Forall₂ R xs ys) {i : Nat} {x : α} {y : β} (at' : xs[i]? = some x) (related : R x y) :
    List.Forall₂ R xs (ys.set i y) := by
  induction all generalizing i with
  | nil => cases at'
  | cons head tail ih =>
      cases i with
      | zero =>
          cases at'
          exact .cons related tail
      | succ i => exact .cons head (ih at')

theorem forall₂_map_self {α β : Type} {R : α → β → Prop} {f : α → β} {xs : List α}
    (all : ∀ x ∈ xs, R x (f x)) : List.Forall₂ R xs (xs.map f) := by
  rw [List.forall₂_map_right_iff, List.forall₂_same]
  exact all

theorem Placed.get?_index {columns : List Column} (placed : Placed 0 columns) {c : Column}
    (mem : c ∈ columns) : columns[c.index.toNat]? = some c := by
  obtain ⟨i, at'⟩ := List.mem_iff_getElem?.1 mem
  have place := placed.places i c at'
  rw [place, Nat.zero_add]
  exact at'

theorem defaultRow_stores (t : Table) : t.StoresRow t.defaultRow :=
  forall₂_map_self fun c _ => c.defaultValue_stores

variable {t : Table} {p : NumericPolicy}

theorem StoresRow.set {row : Row} (placed : Placed 0 t.columns) (stores : t.StoresRow row)
    {c : Column} (mem : c ∈ t.columns) {v : Value} (fits : c.Stores v) :
    t.StoresRow (row.set c.index.toNat v) :=
  forall₂_set stores (placed.get?_index mem) fits

theorem encode_stores {c : Column} (noFloat : c.kind ≠ .float) {v s : Value}
    (ok : c.encode p v = .ok s) : c.Stores s := by
  rw [Column.encode] at ok
  split at ok
  · rename_i encoded
    cases ok
    exact Column.encode?_stores noFloat encoded
  · cases ok

theorem fillRow_stores (placed : Placed 0 t.columns) (noFloat : t.NoFloat)
    {targets : List (Column × Value)} (known : ∀ target ∈ targets, target.1 ∈ t.columns) {row : Row}
    (ok : t.fillRow p targets = .ok row) : t.StoresRow row := by
  have filled : ∀ start, t.StoresRow start → targets.foldlM
      (fun row (target : Column × Value) =>
        return row.set target.1.index.toNat (← target.1.encode p target.2)) start = .ok row →
      t.StoresRow row := by
    clear ok
    induction targets with
    | nil =>
        intro start stores ok
        rw [List.foldlM_nil, pure_eq_ok] at ok
        exact ok ▸ stores
    | cons target targets ih =>
        intro start stores ok
        rw [List.foldlM_cons] at ok
        obtain ⟨next, step, ok⟩ := bind_eq_ok.1 ok
        obtain ⟨s, encoded, step⟩ := bind_eq_ok.1 step
        obtain rfl := pure_eq_ok.1 step
        have mem := known target List.mem_cons_self
        refine ih (fun target' mem' => known target' (List.mem_cons_of_mem target mem')) _ ?_ ok
        exact stores.set placed mem (encode_stores (noFloat _ mem) encoded)
  exact filled _ t.defaultRow_stores ok

theorem column_eq_ok {name : String} {c : Column} (ok : t.column name = .ok c) :
    c ∈ t.columns ∧ c.name = name := by
  rw [column] at ok
  split at ok
  · rename_i found
    cases ok
    have named := List.find?_some found
    exact ⟨List.mem_of_find?_eq_some found, eq_of_beq named⟩
  · cases ok

theorem newRow_stores (placed : Placed 0 t.columns) (noFloat : t.NoFloat)
    {columns? : Option (List String)} {vs : List Value} {row : Row}
    (ok : t.newRow p columns? vs = .ok row) : t.StoresRow row := by
  cases columns? with
  | none =>
      rw [newRow, rowOfValues] at ok
      split at ok
      · cases ok
      · exact fillRow_stores placed noFloat (fun target mem => (List.of_mem_zip mem).1) ok
  | some names =>
      rw [newRow, rowOfColumns] at ok
      split at ok
      · cases ok
      · obtain ⟨columns, found, ok⟩ := bind_eq_ok.1 ok
        refine fillRow_stores placed noFloat (fun target mem => ?_) ok
        obtain ⟨name, -, column⟩ := exists_of_mapM_eq_ok found (List.of_mem_zip mem).1
        exact (column_eq_ok column).1

theorem fitRow_eq {row : Row} (width : row.length = t.columns.length) : t.fitRow row = row := by
  rw [fitRow, ← width, List.take_length, Nat.sub_self, List.replicate_zero, List.append_nil]

theorem assign_stores (placed : Placed 0 t.columns) {assignments : List (Nat × Value)}
    (known : ∀ a ∈ assignments, ∃ c ∈ t.columns, a.1 = c.index.toNat ∧ c.Stores a.2) {row : Row}
    (stores : t.StoresRow row) : t.StoresRow (t.assign assignments row) := by
  rw [assign, fitRow_eq stores.length_eq.symm]
  induction assignments generalizing row with
  | nil => exact stores
  | cons a assignments ih =>
      obtain ⟨c, mem, place, fits⟩ := known a List.mem_cons_self
      refine ih (fun a' mem' => known a' (List.mem_cons_of_mem a mem')) ?_
      change t.StoresRow (row.set a.1 a.2)
      rw [place]
      exact stores.set placed mem fits

theorem assignment_stores (noFloat : t.NoFloat) {name : String} {v : Value} {a : Nat × Value}
    (ok : t.assignment p name v = .ok a) :
    ∃ c ∈ t.columns, a.1 = c.index.toNat ∧ c.Stores a.2 := by
  obtain ⟨c, found, ok⟩ := bind_eq_ok.1 ok
  split at ok
  · cases ok
  · obtain ⟨s, encoded, ok⟩ := bind_eq_ok.1 ok
    obtain rfl := pure_eq_ok.1 ok
    have mem := (column_eq_ok found).1
    exact ⟨c, mem, rfl, encode_stores (noFloat c mem) encoded⟩

/-! ## Stored rows -/

theorem FitsRow.stores (noFloat : t.NoFloat) {row : Row} (fits : t.FitsRow row) :
    t.StoresRow row := by
  rw [FitsRow, List.forall₂_iff_zip] at fits
  rw [StoresRow, List.forall₂_iff_zip]
  refine ⟨fits.1, fun {c v} mem => ?_⟩
  exact (fits.2 mem).stores (noFloat c (List.of_mem_zip mem).1)

theorem StoresRow.fits {row : Row} (stores : t.StoresRow row) :
    t.FitsRow (row.map Value.stored) := by
  rw [FitsRow, List.forall₂_map_right_iff]
  exact stores.imp fun c v fits => fits.2

theorem exists_of_forall₂ {α β : Type} {R : α → β → Prop} {xs : List α} {ys : List β}
    (all : List.Forall₂ R xs ys) {y : β} (mem : y ∈ ys) : ∃ x ∈ xs, R x y := by
  induction all with
  | nil => cases mem
  | cons head tail ih =>
      rcases List.mem_cons.1 mem with rfl | mem
      · exact ⟨_, List.mem_cons_self, head⟩
      · obtain ⟨x, mem', related⟩ := ih mem
        exact ⟨x, List.mem_cons_of_mem _ mem', related⟩

theorem StoresRow.exact {row : Row} (stores : t.StoresRow row) : ∀ v ∈ row, v.exact := by
  intro v mem
  obtain ⟨c, -, fits⟩ := exists_of_forall₂ stores mem
  exact fits.1

theorem FitsRow.map_stored (noFloat : t.NoFloat) {row : Row} (fits : t.FitsRow row) :
    row.map Value.stored = row := by
  have same : ∀ v ∈ row, v.stored = id v := by
    intro v mem
    obtain ⟨c, mem', fits⟩ := exists_of_forall₂ fits mem
    exact (fits.stored_eq (noFloat c mem')).2
  rw [List.map_congr_left same, List.map_id]

end Table

end SqlStore
