import SqlStore.Proofs.Execution.Covered
import SqlStore.Proofs.Execution.SameRows
import SqlStore.Proofs.Query.References

namespace SqlStore

open Query (Relation Scope addColumns)
open Sql (ColumnRef Expr FromItem JoinKind Select holdsAll)

/-! ## The condition of an inner join -/

namespace Query.Relation

theorem join_inner (m : OrMode) (condition : Expr) (l r : Relation) :
    join m (some condition) false false l r =
      (join m none false false l r).filter m true condition := by
  let holds (row : Record) : Bool :=
    condition.holds m ⟨addColumns l.columns r.columns, true⟩ row
  have rows : (join m (some condition) false false l r).rows =
      ((join m none false false l r).rows).filter holds := by
    rw [join_rows, join_rows]
    simp only [Bool.false_eq_true, if_false, List.append_nil]
    rw [paired, paired, List.filter_map, List.filter_filter]
    congr 1
    refine List.filter_congr fun p _ => ?_
    exact (Bool.and_true _).symm
  exact congrArg (Relation.mk (addColumns l.columns r.columns)) rows

end Query.Relation

namespace Plan

theorem ofTables_last (first : FromItem) (more : List FromItem) (name : String)
    (alias? : Option String) (kind : JoinKind) (on? on'? : Option Expr) :
    Alike (fun p q => ∃ left right, p = joined kind left right on? ∧ q = joined kind left right on'?)
      (ofTables (first :: more ++ [⟨name, alias?, some ⟨kind, on?⟩⟩]))
      (ofTables (first :: more ++ [⟨name, alias?, some ⟨kind, on'?⟩⟩])) := by
  have several (item : FromItem) : (more ++ [item]).isEmpty = false := by simp
  rw [List.cons_append, List.cons_append, ofTables, ofTables, several, several]
  refine .after fun start => ?_
  rw [List.foldlM_append, List.foldlM_append]
  refine .after fun left => ?_
  simp only [List.foldlM_cons, List.foldlM_nil, bind_pure, joinTable_eq]
  exact .after fun right => .ok ⟨left, right, rfl, rfl⟩

end Plan

/-- The condition of an inner join that comes last may as well stand after `WHERE`. Whatever tables
come before it and however they are joined, and whatever is selected, grouped by, sorted by and
limited, the answer is the same: the columns, the rows in their order, or the error. -/
theorem Connection.runStatement_on_where (c : Connection) (view : View) (s : Select)
    (first : FromItem) (more : List FromItem) (name : String) (alias? : Option String)
    (condition : Expr) :
    let last (on? : Option Expr) : FromItem := ⟨name, alias?, some ⟨.inner, on?⟩⟩
    c.runStatement view (.select
        { s with tables := first :: more ++ [last (some condition)], where? := none }) =
      c.runStatement view (.select
        { s with tables := first :: more ++ [last none], where? := some condition }) := by
  intro last
  refine runStatement_sameRows (s := { s with
    tables := first :: more ++ [last (some condition)], where? := none }) ?_ ?_
  · simp only [List.length_append, List.length_cons, List.length_nil]
  · refine (Plan.ofTables_last first more name alias? .inner (some condition) none).bind ?_
    rintro p q ⟨left, right, rfl, rfl⟩
    refine .ok ?_
    have several : 1 < (first :: more ++ [last none]).length := by simp
    have filtered : Plan.filtered { s with
          tables := first :: more ++ [last none], where? := some condition }
        (.joined .inner left right none) =
          .filter (.join left right none false false) condition true :=
      congrArg _ (decide_eq_true several)
    rw [filtered]
    change c.relation view (.join left right (some condition) false false) = _
    rw [relation, relation, relation]
    cases c.relation view left with
    | error e => rfl
    | ok l =>
        cases c.relation view right with
        | error e => rfl
        | ok r => exact congrArg Except.ok (Relation.join_inner _ condition l r)

/-! ## Joins with their sides exchanged -/

theorem Dict.union_comm {α : Type} {a b : Dict α} (apart : ∀ k, a.get? k = none ∨ b.get? k = none) :
    a.union b = b.union a := by
  refine ext_get? (funext fun k => ?_)
  rw [get?_union, get?_union]
  rcases apart k with none | none
  · rw [none, Option.or_none, Option.none_or]
  · rw [none, Option.or_none, Option.none_or]

theorem product_perm {α β : Type} (left : List α) (right : List β) :
    (left ×ˢ right).Perm ((right ×ˢ left).map Prod.swap) := by
  have swapped (left : List α) : (right ×ˢ left).map Prod.swap =
      right.flatMap fun b => left.map fun a => (a, b) := by
    change (right.flatMap fun b => left.map (Prod.mk b)).map Prod.swap = _
    rw [List.map_flatMap]
    simp only [List.map_map]
    rfl
  induction left with
  | nil => rw [List.nil_product, List.product_nil, List.map_nil]
  | cons a left ih =>
      rw [swapped] at ih ⊢
      rw [List.product_cons]
      exact (ih.append_left _).trans (List.map_append_flatMap_perm right (Prod.mk a) _)

namespace Query.Relation

variable {l r : Relation}

theorem paired_congr {holds holds' : Record → Record → Bool} {left right : List Record}
    (same : ∀ a ∈ left, ∀ b ∈ right, holds a b = holds' a b) :
    paired holds left right = paired holds' left right := by
  rw [paired, paired]
  congr 1
  refine List.filter_congr fun p mem => ?_
  obtain ⟨memA, memB⟩ := List.mem_product.1 mem
  exact same p.1 memA p.2 memB

theorem unpaired_congr {holds holds' : Record → Record → Bool} {side other : List Record}
    (same : ∀ a ∈ side, ∀ b ∈ other, holds a b = holds' a b) :
    unpaired holds side other = unpaired holds' side other := by
  rw [unpaired, unpaired]
  refine List.filter_congr fun a mem => ?_
  rw [Bool.eq_iff_iff, List.all_eq_true, List.all_eq_true]
  exact forall₂_congr fun b mem' => by rw [same a mem b mem']

theorem paired_perm {holds : Record → Record → Bool} {left right : List Record}
    (apart : ∀ a ∈ left, ∀ b ∈ right, ∀ k, a.get? k = none ∨ b.get? k = none) :
    (paired holds left right).Perm (paired (fun b a => holds a b) right left) := by
  rw [paired, paired]
  have swapped := ((product_perm left right).filter fun p => holds p.1 p.2).map
    fun p => p.1.union p.2
  rw [List.filter_map, List.map_map] at swapped
  refine swapped.trans (List.Perm.of_eq (List.map_congr_left fun p mem => ?_))
  obtain ⟨memB, memA⟩ := List.mem_product.1 (List.mem_filter.1 mem).1
  exact Dict.union_comm (apart p.2 memA p.1 memB)

theorem join_perm (m : OrMode) {on? : Option Expr} (keepLeft keepRight : Bool)
    (apart : ∀ a ∈ l.rows, ∀ b ∈ r.rows, ∀ k, a.get? k = none ∨ b.get? k = none)
    (tables : ∀ e ∈ on?, ∀ c ∈ e.references, c.table?.isSome) :
    (join m on? keepLeft keepRight l r).rows.Perm (join m on? keepRight keepLeft r l).rows := by
  let holds (a b : Record) : Bool :=
    holdsAll m ⟨addColumns l.columns r.columns, true⟩ on? (a.union b)
  have same : ∀ b ∈ r.rows, ∀ a ∈ l.rows, holdsAll m ⟨addColumns r.columns l.columns, true⟩ on?
      (b.union a) = holds a b := by
    intro b memB a memA
    rw [← Dict.union_comm (apart a memA b memB)]
    exact Sql.holdsAll_congr fun e mem c ref => Scope.resolve_of_table (tables e mem c ref) _
  rw [join_rows, join_rows]
  simp only
  rw [paired_congr same, unpaired_congr same, unpaired_congr fun a memA b memB => same b memB a memA,
    List.append_assoc, List.append_assoc]
  exact (paired_perm apart).append List.perm_append_comm

end Query.Relation

namespace Sql

def JoinKind.mirror : JoinKind → JoinKind
  | .left => .right
  | .right => .left
  | kind => kind

theorem JoinKind.keepsLeft_mirror (kind : JoinKind) : kind.mirror.keepsLeft = kind.keepsRight := by
  cases kind <;> rfl

theorem JoinKind.keepsRight_mirror (kind : JoinKind) : kind.mirror.keepsRight = kind.keepsLeft := by
  cases kind <;> rfl

end Sql

/-- A right join is the left join of its sides exchanged, and a full or an inner join is its own
mirror image: both ways there are the same rows, each as often, under the same columns. This needs
sides without a common column, and a condition that names the table of every column. -/
theorem Connection.relation_mirrored (c : Connection) (view : View) {left right : Plan}
    {l r : Relation} (foundL : c.relation view left = .ok l)
    (foundR : c.relation view right = .ok r) (apart : ∀ k ∈ l.columns, k ∉ r.columns)
    (kind : JoinKind) {on? : Option Expr}
    (tables : ∀ e ∈ on?, ∀ column ∈ e.references, column.table?.isSome) :
    ∃ j j', c.relation view (.joined kind left right on?) = .ok j ∧
      c.relation view (.joined kind.mirror right left on?) = .ok j' ∧
      j.rows.Perm j'.rows ∧ ∀ k, k ∈ j.columns ↔ k ∈ j'.columns := by
  have apart' : ∀ a ∈ l.rows, ∀ b ∈ r.rows, ∀ k, a.get? k = none ∨ b.get? k = none := by
    intro a memA b memB k
    by_cases column : k ∈ l.columns
    · exact .inr (relation_covered foundR b memB k (apart k column))
    · exact .inl (relation_covered foundL a memA k column)
  rw [Plan.joined, Plan.joined, kind.keepsLeft_mirror, kind.keepsRight_mirror, relation, relation,
    foundL, foundR]
  refine ⟨_, _, rfl, rfl, Relation.join_perm _ _ _ apart' tables, fun k => ?_⟩
  change k ∈ addColumns l.columns r.columns ↔ k ∈ addColumns r.columns l.columns
  rw [Query.mem_addColumns, Query.mem_addColumns, or_comm]

theorem Connection.relation_mirrored_right :
    let c : Connection := ⟨"db", .default⟩
    let view := Storage.get? (twoTables [1, 2] [2, 1, 3])
    let t (name : String) : Plan := .scan ⟨none, name⟩ (some name)
    let on? : Option Expr :=
      some (.binary .equal (.column ⟨some "t1", "a"⟩) (.column ⟨some "t2", "a"⟩))
    let pair (i : Int64) : Record := .ofList [("t1.a", .int i), ("t2.a", .int i)]
    let alone : Record := .ofList [("t2.a", .int 3)]
    c.relation view (.joined .right (t "t1") (t "t2") on?) =
        .ok ⟨["t1.a", "t2.a"], [pair 1, pair 2, alone]⟩ ∧
      c.relation view (.joined .left (t "t2") (t "t1") on?) =
        .ok ⟨["t2.a", "t1.a"], [pair 2, pair 1, alone]⟩ ∧
      [pair 1, pair 2, alone].Perm [pair 2, pair 1, alone] := by
  intro c view t on? pair alone
  obtain ⟨scanned₁, scanned₂⟩ := relation_scan_twoTables [1, 2] [2, 1, 3]
  have tables : ∀ e ∈ on?, ∀ column ∈ e.references, column.table?.isSome := by
    intro e mem
    obtain rfl := Option.mem_some_iff.1 mem
    decide
  obtain ⟨j, j', found, found', rows, -⟩ :=
    c.relation_mirrored view scanned₁ scanned₂ (by decide) .right tables
  have joined : c.relation view (.joined .right (t "t1") (t "t2") on?) =
      .ok ⟨["t1.a", "t2.a"], [pair 1, pair 2, alone]⟩ := by
    rw [Plan.joined, relation, scanned₁, scanned₂]
    exact congrArg Except.ok (by decide)
  have mirrored : c.relation view (.joined .left (t "t2") (t "t1") on?) =
      .ok ⟨["t2.a", "t1.a"], [pair 2, pair 1, alone]⟩ := by
    rw [Plan.joined, relation, scanned₁, scanned₂]
    exact congrArg Except.ok (by decide)
  obtain rfl := Except.ok.inj (found.symm.trans joined)
  obtain rfl := Except.ok.inj (found'.symm.trans mirrored)
  exact ⟨joined, mirrored, rows⟩

end SqlStore
