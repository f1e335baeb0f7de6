import SqlStore.Schema.Table
import SqlStore.Proofs.Decimal.Layout
import SqlStore.Proofs.Except
import SqlStore.Proofs.Json.Data
import SqlStore.Proofs.Sorting

namespace SqlStore
open Decimal (Numeral)

/-! ## Rows -/

/-- A value that its text determines: no date, and no number but an integer or one that is not
finite. -/
def Value.exact : Value → Bool
  | .float x => !x.isFinite
  | .date _ => false
  | _ => true

def Value.stored : Value → Value
  | .float x => if x.isFinite then .float x else .null
  | v => v

theorem Value.ofJson?_toJson {v : Value} (exact : v.exact) :
    Value.ofJson? v.toJson = some v.stored := by
  cases v with
  | null => rfl
  | bool b => rfl
  | int i =>
      rw [toJson, Json.ofInt, ofJson?, Json.number?_ofInt]
      rfl
  | float x =>
      have infinite : x.isFinite = false := by simpa [Value.exact] using exact
      rw [toJson, Json.ofFloat, stored, infinite]
      rfl
  | text s => rfl
  | date t => cases exact

theorem Value.toJson_wellFormed (v : Value) : v.toJson.WellFormed := by
  cases v with
  | null => exact .null
  | bool b => exact .bool b
  | int i => exact Json.ofInt_wellFormed _
  | float x =>
      rw [toJson, Json.ofFloat]
      split
      · exact .number (Json.numberLayout.finite_wellFormed x)
      · exact .null
  | text s => exact .string s
  | date t => exact .string _

theorem Row.ofStoredText?_eq (rows : List Row) : Row.ofStoredText? (Row.storedText rows) =
    Json.list? (Json.list? Value.ofJson?)
      (.array (rows.map fun row => .array (row.map Value.toJson))) := by
  have wellFormed : (Json.array (rows.map fun row => Json.array (row.map Value.toJson))).WellFormed :=
    Json.array_wellFormed fun row _ => Json.array_wellFormed fun v _ => v.toJson_wellFormed
  rw [ofStoredText?, storedText, Json.read?_text wellFormed]
  rfl

theorem Row.ofStoredText?_storedText {rows : List Row}
    (exact : ∀ row ∈ rows, ∀ v ∈ row, v.exact) :
    Row.ofStoredText? (Row.storedText rows) = some (rows.map fun row => row.map Value.stored) := by
  rw [ofStoredText?_eq]
  exact Json.list?_map fun row mem =>
    Json.list?_map fun v mem' => Value.ofJson?_toJson (exact row mem v mem')

theorem Row.storedText_not_blank (rows : List Row) :
    (Row.storedText rows).toList.all Text.isBlank = false := by
  rw [storedText, Json.text, String.toList_ofList, Json.write, List.all_cons]
  rfl

/-! ## Columns -/

theorem Kind.ofName?_name (k : Kind) : Kind.ofName? k.name = some k := by
  cases k <;> rfl

theorem Column.ofJson?_toJson (c : Column) : Column.ofJson? c.toJson = some c := by
  obtain ⟨name, kind, index, length, pad⟩ := c
  let writeLength (n : UInt64) := Json.ofInt (n.toNat : Int)
  let writePad (c : Char) := Json.ofString (String.singleton c)
  have fields : Json.fields? ["name", "type", "index", "length", "pad"]
      (Column.toJson ⟨name, kind, index, length, pad⟩) =
      some [some (.ofString name), some (.ofString kind.name), some (.ofInt (index.toNat : Int)),
        length.map writeLength, pad.map writePad] := by
    cases length <;> cases pad <;> rfl
  have readName : (Json.ofString name).string? = some name := rfl
  have readKind : (Json.ofString kind.name).choice?.bind Kind.ofName? = some kind :=
    kind.ofName?_name
  have readLength : Json.optionalField? Json.uint64? (length.map writeLength) = some length :=
    Json.optionalField?_map Json.uint64?_ofInt (fun _ eq => by cases eq) length
  have readPad : Json.optionalField? Json.char? (pad.map writePad) = some pad :=
    Json.optionalField?_map Json.char?_singleton (fun _ eq => by cases eq) pad
  rw [ofJson?, fields]
  simp only [Option.bind_eq_bind, Option.bind_some, readName, readKind, Json.uint64?_ofInt,
    readLength, readPad]
  rfl

theorem Column.toJson_wellFormed (c : Column) : c.toJson.WellFormed := by
  refine .object fun m mem => ?_
  simp only [List.mem_append, List.mem_cons, List.not_mem_nil, or_false, Option.mem_toList,
    Option.map_eq_some_iff] at mem
  rcases mem with ((rfl | rfl | rfl) | ⟨n, -, rfl⟩) | ⟨pad, -, rfl⟩
  · exact .string _
  · exact .string _
  · exact Json.ofInt_wellFormed _
  · exact Json.ofInt_wellFormed _
  · exact .string _

/-! ## Tables -/

namespace Table

def NoFloat (t : Table) : Prop :=
  ∀ c ∈ t.columns, c.kind ≠ .float

/-- Columns whose names differ and whose places count up from `start`. -/
structure Placed (start : Nat) (columns : List Column) : Prop where
  names : (columns.map Column.name).Nodup
  places : ∀ i, ∀ c ∈ columns[i]?, c.index.toNat = start + i

theorem checkColumns_ok_iff {seen : List String} {columns : List Column} :
    checkColumns seen columns = .ok () ↔
      Placed seen.length columns ∧ ∀ c ∈ columns, c.name ∉ seen := by
  induction columns generalizing seen with
  | nil => exact ⟨fun _ => ⟨⟨by simp, by simp⟩, by simp⟩, fun _ => rfl⟩
  | cons c columns ih =>
      rw [checkColumns]
      constructor
      · intro ok
        split at ok
        · cases ok
        · rename_i new
          split at ok
          · cases ok
          · rename_i place
            obtain ⟨⟨names, places⟩, fresh⟩ := ih.1 ok
            refine ⟨⟨?_, ?_⟩, ?_⟩
            · rw [List.map_cons, List.nodup_cons]
              refine ⟨fun mem => ?_, names⟩
              obtain ⟨d, mem, eq⟩ := List.mem_map.1 mem
              exact fresh d mem (eq ▸ List.mem_cons_self)
            · intro i d mem
              cases i with
              | zero =>
                  cases mem
                  simpa using place
              | succ i =>
                  have := places i d mem
                  rw [List.length_cons] at this
                  omega
            · intro d mem
              rcases List.mem_cons.1 mem with rfl | mem
              · simpa using new
              · exact fun old => fresh d mem (List.mem_cons_of_mem _ old)
      · rintro ⟨⟨names, places⟩, fresh⟩
        rw [List.map_cons, List.nodup_cons] at names
        have new : ¬ seen.contains c.name := by simpa using fresh c List.mem_cons_self
        have place : ¬ c.index.toNat ≠ seen.length := by simpa using places 0 c rfl
        rw [if_neg new, if_neg place]
        refine ih.2 ⟨⟨names.2, fun i d mem => ?_⟩, fun d mem old => ?_⟩
        · have := places (i + 1) d mem
          rw [List.length_cons]
          omega
        · rcases List.mem_cons.1 old with eq | old
          · exact names.1 (List.mem_map.2 ⟨d, mem, eq⟩)
          · exact fresh d (List.mem_cons_of_mem c mem) old

theorem check_ok_iff {t : Table} : t.check = .ok () ↔ t.columns ≠ [] ∧ Placed 0 t.columns := by
  rw [check]
  split
  · rename_i empty
    simp [List.isEmpty_iff.1 empty]
  · rename_i nonempty
    rw [checkColumns_ok_iff]
    simp_all [List.isEmpty_iff]

theorem Placed.eq_of_index {start : Nat} {columns : List Column} (placed : Placed start columns)
    {a b : Column} (memA : a ∈ columns) (memB : b ∈ columns) (eq : a.index = b.index) : a = b := by
  obtain ⟨i, atI⟩ := List.mem_iff_getElem?.1 memA
  obtain ⟨j, atJ⟩ := List.mem_iff_getElem?.1 memB
  have placeI := placed.places i a atI
  have placeJ := placed.places j b atJ
  have : i = j := by
    rw [eq] at placeI
    omega
  subst this
  exact Option.some.inj (atI.symm.trans atJ)

theorem Placed.length_le {columns : List Column} (placed : Placed 0 columns) :
    columns.length ≤ UInt64.size := by
  apply Nat.le_of_not_lt
  intro many
  have last := placed.places UInt64.size _ (List.getElem?_eq_getElem many)
  have bound := columns[UInt64.size].index.toNat_lt_size
  omega

def indexBefore (a b : Column) : Bool := decide (a.index < b.index)

theorem indexBefore_strictWeak : StrictWeak indexBefore where
  asymm lt := by
    simp only [indexBefore, decide_eq_true_eq, decide_eq_false_iff_not, UInt64.lt_iff_toNat_lt] at *
    omega
  ties := by
    intro a b c ab bc
    simp only [indexBefore, decide_eq_false_iff_not, UInt64.lt_iff_toNat_lt] at *
    omega

theorem Placed.sorted {start : Nat} {columns : List Column} (placed : Placed start columns) :
    columns.Pairwise fun a b => indexBefore b a = false := by
  rw [List.pairwise_iff_getElem]
  intro i j hi hj lt
  have placeI := placed.places i columns[i] (by simp [hi])
  have placeJ := placed.places j columns[j] (by simp [hj])
  simp only [indexBefore, decide_eq_false_iff_not, UInt64.lt_iff_toNat_lt]
  omega

theorem ofColumns_eq_ok {name : String} {columns : List Column} {t : Table} :
    Table.ofColumns name columns = .ok t ↔
      t = ⟨name, stableSort indexBefore columns⟩ ∧ t.check = .ok () := by
  have unfolded : Table.ofColumns name columns =
      (check ⟨name, stableSort indexBefore columns⟩ >>= fun _ =>
        pure ⟨name, stableSort indexBefore columns⟩) := rfl
  rw [unfolded, bind_eq_ok]
  constructor
  · rintro ⟨_, ok, made⟩
    obtain rfl := pure_eq_ok.1 made
    exact ⟨rfl, ok⟩
  · rintro ⟨rfl, ok⟩
    exact ⟨(), ok, rfl⟩

theorem ofColumns_of_perm {t : Table} (ok : t.check = .ok ()) {columns : List Column}
    (perm : columns.Perm t.columns) (name : String) :
    Table.ofColumns name columns = .ok ⟨name, t.columns⟩ := by
  have placed := (check_ok_iff.1 ok).2
  have sorted : stableSort indexBefore columns = t.columns := by
    have perm' : (stableSort indexBefore columns).Perm t.columns :=
      (stableSort_perm columns).trans perm
    refine List.Perm.eq_of_pairwise (fun a b memA memB ab ba => ?_)
      (stableSort_sorted indexBefore_strictWeak columns) placed.sorted perm'
    refine placed.eq_of_index (perm'.mem_iff.1 memA) memB ?_
    simp only [indexBefore, decide_eq_false_iff_not, UInt64.lt_iff_toNat_lt] at ab ba
    exact UInt64.toNat_inj.1 (by omega)
  rw [ofColumns_eq_ok, sorted]
  exact ⟨rfl, ok⟩

theorem columnsOfText?_definitionText {t : Table} (ok : t.check = .ok ()) :
    ∃ columns, Table.columnsOfText? t.definitionText = some columns ∧ columns.Perm t.columns := by
  have names := (check_ok_iff.1 ok).2.names
  let d := Dict.ofList (t.columns.map fun c => (c.name, c))
  have perm : d.values.Perm t.columns := by
    have distinct : ((t.columns.map fun c => (c.name, c)).map (·.1)).Nodup := by
      rw [List.map_map]
      exact names
    have := (Dict.ofList_entries_perm distinct).map (·.2)
    rw [List.map_map] at this
    simpa [Dict.values, Function.comp_def] using this
  have wellFormed := Json.ofMembers_wellFormed d fun c _ => c.toJson_wellFormed
  have dict : Json.dict? Column.ofJson? (Json.ofMembers (d.map Column.toJson).entries) = some d :=
    Json.dict?_map d fun c _ => c.ofJson?_toJson
  refine ⟨d.values, ?_, perm⟩
  rw [columnsOfText?, definitionText, Json.read?_text wellFormed]
  simp only [Option.bind_eq_bind, Option.bind_some]
  rw [dict]
  rfl

end Table

end SqlStore
