import SqlStore.Proofs.Json.Numbers
import SqlStore.Proofs.Schema.StoredText

namespace SqlStore

namespace Value

/-- A value as it comes from its own text. -/
def loaded (v : Value) : Value :=
  (ofJson? v.toJson).getD .null

/-- Whether a value is a number whose text is not read as that number. -/
def Misread : Value → Prop
  | .float x => x.isFinite ∧ Json.number? (Json.numberLayout.finite x) ≠ some (.float x)
  | _ => False

/-- Whether the second value is written as the first is, unless the first is misread. -/
def KeptAs (v w : Value) : Prop :=
  ¬ v.Misread → w.toJson.text = v.toJson.text

theorem stored_toJson {v : Value} (exact : v.exact) : v.stored.toJson = v.toJson := by
  cases v with
  | float x =>
      have infinite : x.isFinite = false := by simpa [Value.exact] using exact
      simp [stored, toJson, Json.ofFloat, infinite]
  | null | bool b | int i | text s | date t => rfl

theorem ofJson?_toJson_finite {x : Float} (finite : x.isFinite) :
    ∃ y : Float, ofJson? (toJson (.float x)) = some (.float y) ∧ y.isNaN = false := by
  obtain ⟨y, read, number⟩ := Json.number?_finite finite
  refine ⟨y, ?_, number⟩
  simp [toJson, Json.ofFloat, finite, ofJson?, read]

theorem ofJson?_toJson_loaded (v : Value) : ofJson? v.toJson = some v.loaded := by
  obtain ⟨w, read⟩ : ∃ w, ofJson? v.toJson = some w := by
    by_cases exact : v.exact
    · exact ⟨_, ofJson?_toJson exact⟩
    · cases v with
      | float x =>
          obtain ⟨y, read, -⟩ := ofJson?_toJson_finite (by simpa [Value.exact] using exact)
          exact ⟨_, read⟩
      | date t => exact ⟨_, rfl⟩
      | null | bool b | int i | text s => exact absurd rfl exact
  rw [loaded, read, Option.getD_some]

theorem keptAs_loaded (v : Value) : v.KeptAs v.loaded := by
  intro read
  by_cases exact : v.exact
  · rw [loaded, ofJson?_toJson exact, Option.getD_some, stored_toJson exact]
  · cases v with
    | float x =>
        have finite : x.isFinite := by simpa [Value.exact] using exact
        have same : Json.number? (Json.numberLayout.finite x) = some (.float x) :=
          Classical.not_not.1 fun other => read ⟨finite, other⟩
        simp [loaded, toJson, Json.ofFloat, finite, ofJson?, same]
    | date t => rfl
    | null | bool b | int i | text s => exact absurd rfl exact

end Value

namespace Row

def loaded (row : Row) : Row :=
  row.map Value.loaded

theorem length_loaded (row : Row) : row.loaded.length = row.length :=
  List.length_map ..

theorem ofStoredText?_loaded (rows : List Row) :
    Row.ofStoredText? (Row.storedText rows) = some (rows.map Row.loaded) := by
  rw [ofStoredText?_eq]
  exact Json.list?_map fun row _ => Json.list?_map fun v _ => v.ofJson?_toJson_loaded

end Row

end SqlStore
