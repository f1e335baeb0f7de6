import SqlStore.Proofs.Sorting
import SqlStore.Proofs.Value.Order
import SqlStore.Query.Relation

namespace SqlStore.Query

open Sql (ColumnRef Direction)

/-! ## The order of rows -/

def StandsBefore (d : Direction) (a b : Value) : Prop :=
  match d with
  | .asc => a.Below b
  | .desc => b.Below a

variable {κ : Type} (value : κ → Record → Value)

/-- Whether a row stands before another under the first key whose values differ. -/
inductive Precedes (a b : Record) : List (κ × Direction) → Prop
  | first {key keys} : StandsBefore key.2 (value key.1 a) (value key.1 b) →
      Precedes a b (key :: keys)
  | later {key keys} : (value key.1 a).same (value key.1 b) → Precedes a b keys →
      Precedes a b (key :: keys)

def SameUnder (keys : List (κ × Direction)) (a b : Record) : Prop :=
  ∀ key ∈ keys, (value key.1 a).same (value key.1 b)

/-- The sorted form of rows: the rows with their places, so rearranged that of any two the first
stands before the second under the keys, or is the same under them and had the lower place. -/
def StablySorted (keys : List (κ × Direction)) (rows sorted : List Record) : Prop :=
  ∃ placed : List (Record × Nat), placed.Perm rows.zipIdx ∧ placed.map Prod.fst = sorted ∧
    placed.Pairwise fun a b =>
      Precedes value a.1 b.1 keys ∨ SameUnder value keys a.1 b.1 ∧ a.2 < b.2

variable {value} in
theorem StablySorted.ordered {keys : List (κ × Direction)} {rows sorted : List Record}
    (stable : StablySorted value keys rows sorted) :
    sorted.Pairwise fun a b => Precedes value a b keys ∨ SameUnder value keys a b := by
  obtain ⟨placed, -, rfl, pairs⟩ := stable
  exact List.pairwise_map.2 (pairs.imp fun pair => pair.imp_right And.left)

/-! ## Comparing rows -/

def compareRows (keys : List (κ × Direction)) (a b : Record) : Ordering :=
  Relation.compareKeys (keys.map (·.2)) (keys.map fun key => value key.1 a)
    (keys.map fun key => value key.1 b)

def sortRows (keys : List (κ × Direction)) (rows : List Record) : List Record :=
  stableSort (fun a b => compareRows value keys a b == .lt) rows

theorem Relation.order_rows (keys : List (ColumnRef × Direction)) (qualified : Bool)
    (r : Relation) :
    (r.order keys qualified).rows = sortRows (Scope.resolve ⟨r.columns, qualified⟩) keys r.rows := by
  rw [Relation.order, stableSort_map, List.map_map]
  exact List.map_id _

theorem Relation.order_nil (qualified : Bool) (r : Relation) : r.order [] qualified = r := by
  have unmoved : sortRows (Scope.resolve ⟨r.columns, qualified⟩) [] r.rows = r.rows :=
    stableSort_of_sorted (List.pairwise_of_forall fun _ _ => rfl)
  rw [← Relation.order_rows] at unmoved
  exact congrArg (Relation.mk r.columns) unmoved

def comparePlaces : List (κ × Direction) → Record → Record → Ordering
  | [] => fun _ _ => .eq
  | (c, .asc) :: keys =>
    compareLex (fun a b => Value.comparePlace (value c a) (value c b)) (comparePlaces keys)
  | (c, .desc) :: keys =>
    compareLex (fun a b => Value.comparePlace (value c b) (value c a)) (comparePlaces keys)

theorem comparePlace_on (f : Record → Value) :
    Std.TransCmp fun a b => Value.comparePlace (f a) (f b) where
  eq_swap := Std.OrientedCmp.eq_swap
  isLE_trans := Std.TransCmp.isLE_trans

theorem comparePlaces_trans (keys : List (κ × Direction)) :
    Std.TransCmp (comparePlaces value keys) := by
  induction keys with
  | nil => exact { eq_swap := rfl, isLE_trans := fun _ _ => rfl }
  | cons key keys ih =>
      obtain ⟨c, d⟩ := key
      have ascending := comparePlace_on (value c)
      cases d with
      | asc => exact inferInstanceAs (Std.TransCmp (compareLex _ _))
      | desc =>
          have descending := ascending.opposite
          exact inferInstanceAs (Std.TransCmp (compareLex _ _))

theorem strictWeak_of_trans {α β : Type} (cmp : α → α → Ordering) [Std.TransCmp cmp] (f : β → α) :
    StrictWeak fun a b => cmp (f a) (f b) == .lt where
  asymm := by
    intro a b lt
    rw [@Std.OrientedCmp.eq_swap _ cmp, beq_iff_eq.1 lt]
    rfl
  ties := by
    intro a b c first second
    have isGE {a b : α} (tied : (cmp a b == .lt) = false) : (cmp a b).isGE := by
      cases order : cmp a b with
      | lt =>
          rw [order] at tied
          cases tied
      | _ => rfl
    have both := Std.TransCmp.isGE_trans (isGE first) (isGE second)
    cases order : cmp (f a) (f c) with
    | lt =>
        rw [order] at both
        cases both
    | _ => rfl

variable {value} {keys : List (κ × Direction)} {rows : List Record} {a b : Record}

theorem compareRows_eq (consistent : ∀ key ∈ keys, Value.Consistent (rows.map (value key.1)))
    (memA : a ∈ rows) (memB : b ∈ rows) :
    compareRows value keys a b = comparePlaces value keys a b := by
  induction keys with
  | nil => rfl
  | cons key keys ih =>
      obtain ⟨c, d⟩ := key
      obtain ⟨first, rest⟩ := List.forall_mem_cons.1 consistent
      have compared := first.compare?_eq (List.mem_map_of_mem memA) (List.mem_map_of_mem memB)
      have step : compareRows value ((c, d) :: keys) a b =
          (Relation.compareBy d (value c a) (value c b)).then (compareRows value keys a b) := rfl
      rw [step, ih rest]
      cases d with
      | asc => simp only [Relation.compareBy, compared, Option.getD_some, comparePlaces, compareLex]
      | desc =>
          simp only [Relation.compareBy, compared, Option.getD_some, comparePlaces, compareLex]
          rw [← Std.OrientedCmp.eq_swap]

theorem compareBy_cases {vs : List Value} (consistent : Value.Consistent vs) {v w : Value}
    (memV : v ∈ vs) (memW : w ∈ vs) (d : Direction) :
    (Relation.compareBy d v w = .lt → StandsBefore d v w) ∧
      (Relation.compareBy d v w = .eq → v.same w) := by
  have compared := consistent.compare?_eq memV memW
  have relates := Value.relates_of_compare? (consistent.kind v memV w memW) compared
  rw [Relation.compareBy.eq_def, compared, Option.getD_some]
  cases order : v.comparePlace w with
  | lt =>
      rw [order] at relates
      cases d with
      | asc => exact ⟨fun _ => relates, nofun⟩
      | desc => exact ⟨nofun, nofun⟩
  | eq =>
      rw [order] at relates
      cases d <;> exact ⟨nofun, fun _ => relates⟩
  | gt =>
      rw [order] at relates
      cases d with
      | asc => exact ⟨nofun, nofun⟩
      | desc => exact ⟨fun _ => relates, nofun⟩

theorem compareRows_cases
    (consistent : ∀ key ∈ keys, Value.Consistent (rows.map (value key.1)))
    (memA : a ∈ rows) (memB : b ∈ rows) :
    (compareRows value keys a b = .lt → Precedes value a b keys) ∧
      (compareRows value keys a b = .eq → SameUnder value keys a b) := by
  induction keys with
  | nil => exact ⟨nofun, fun _ => nofun⟩
  | cons key keys ih =>
      obtain ⟨first, rest⟩ := List.forall_mem_cons.1 consistent
      obtain ⟨before, same⟩ :=
        compareBy_cases first (List.mem_map_of_mem memA) (List.mem_map_of_mem memB) key.2
      obtain ⟨beforeRest, sameRest⟩ := ih rest
      constructor
      · intro lt
        rcases Ordering.then_eq_lt.1 lt with lt | ⟨tied, lt⟩
        · exact .first (before lt)
        · exact .later (same tied) (beforeRest lt)
      · intro tied
        obtain ⟨tied, tiedRest⟩ := Ordering.then_eq_eq.1 tied
        exact List.forall_mem_cons.2 ⟨same tied, sameRest tiedRest⟩

/-! ## The sorted rows -/

theorem zipIdx_ascending (rows : List Record) : rows.zipIdx.Pairwise fun a b => a.2 < b.2 := by
  have places : (rows.zipIdx.map Prod.snd).Pairwise (· < ·) := by
    rw [List.zipIdx_map_snd]
    exact List.pairwise_lt_range'
  exact List.pairwise_map.1 places

theorem sortRows_stable (consistent : ∀ key ∈ keys, Value.Consistent (rows.map (value key.1))) :
    StablySorted value keys rows (sortRows value keys rows) := by
  have total := comparePlaces_trans value keys
  let before (a b : Record × Nat) : Bool := comparePlaces value keys a.1 b.1 == .lt
  have order : StrictWeak before := strictWeak_of_trans (comparePlaces value keys) Prod.fst
  -- Sorting the rows with their places sorts the rows, since places are not compared.
  have sorted : (stableSort before rows.zipIdx).map Prod.fst = sortRows value keys rows := by
    have agree : ∀ a ∈ rows, ∀ b ∈ rows,
        (compareRows value keys a b == .lt) = (comparePlaces value keys a b == .lt) := by
      intro a memA b memB
      rw [compareRows_eq consistent memA memB]
    rw [sortRows, stableSort_congr agree]
    conv_rhs => rw [← List.zipIdx_map_fst 0 rows, stableSort_map]
  refine ⟨_, stableSort_perm _, sorted, ?_⟩
  refine (stableSort_stable order (zipIdx_ascending rows)).imp_of_mem ?_
  intro a b memA memB first
  have memA := List.fst_mem_of_mem_zipIdx ((stableSort_perm _).mem_iff.1 memA)
  have memB := List.fst_mem_of_mem_zipIdx ((stableSort_perm _).mem_iff.1 memB)
  obtain ⟨precedes, same⟩ := compareRows_cases consistent memA memB
  rw [compareRows_eq consistent memA memB] at precedes same
  cases outcome : comparePlaces value keys a.1 b.1 with
  | lt => exact .inl (precedes outcome)
  | eq =>
      rcases first with lt | ⟨-, older⟩
      · cases outcome.symm.trans (beq_iff_eq.1 lt)
      · exact .inr ⟨same outcome, older⟩
  | gt =>
      have lt : before b a := beq_iff_eq.2 (Std.OrientedCmp.lt_of_gt outcome)
      exact absurd lt (Bool.eq_false_iff.1 (first.not_before order))

/-- Sorting keeps the columns and sorts the rows stably, if the values of every key are consistently
ordered. -/
theorem Relation.order_stable (r : Relation) (keys : List (ColumnRef × Direction))
    (qualified : Bool) (consistent : ∀ key ∈ keys,
      Value.Consistent (r.rows.map (Scope.resolve ⟨r.columns, qualified⟩ key.1))) :
    (r.order keys qualified).columns = r.columns ∧
      StablySorted (Scope.resolve ⟨r.columns, qualified⟩) keys r.rows
        (r.order keys qualified).rows := by
  refine ⟨rfl, ?_⟩
  rw [order_rows]
  exact sortRows_stable consistent

theorem Relation.order_stable_mixed :
    let row (n : Int64) (a b : Value) : Record := Dict.ofList [("n", .int n), ("a", a), ("b", b)]
    let r : Relation := ⟨["n", "a", "b"], [row 1 (.int 1) (.text "x"), row 2 .null (.text "y"),
      row 3 (.int 2) .null, row 4 (.int 1) .null, row 5 (.int 1) (.text "x")]⟩
    let keys : List (ColumnRef × Direction) := [(⟨none, "a"⟩, .desc), (⟨none, "b"⟩, .asc)]
    (∀ key ∈ keys, Value.Consistent (r.rows.map (Scope.resolve ⟨r.columns, false⟩ key.1))) ∧
      StablySorted (Scope.resolve ⟨r.columns, false⟩) keys r.rows (r.order keys false).rows ∧
      (r.order keys false).rows = [row 3 (.int 2) .null, row 4 (.int 1) .null,
        row 1 (.int 1) (.text "x"), row 5 (.int 1) (.text "x"), row 2 .null (.text "y")] := by
  intro row r keys
  have consistent : ∀ key ∈ keys,
      Value.Consistent (r.rows.map (Scope.resolve ⟨r.columns, false⟩ key.1)) := by
    decide
  exact ⟨consistent, (r.order_stable keys false consistent).2, by decide⟩

end SqlStore.Query
