import SqlStore.Schema.Table

namespace SqlStore

universe u
variable {α : Type u} {before : α → α → Bool}

structure StrictWeak (before : α → α → Bool) : Prop where
  asymm : ∀ {a b}, before a b → before b a = false
  ties : ∀ {a b c}, before a b = false → before b c = false → before a c = false

theorem insertLast_perm (x : α) (ys : List α) : (insertLast before x ys).Perm (x :: ys) := by
  induction ys with
  | nil => exact List.Perm.refl _
  | cons y ys ih =>
      rw [insertLast]
      split
      · exact (List.Perm.cons y ih).trans (List.Perm.swap x y ys)
      · exact List.Perm.refl _

def ComesFirst (before : α → α → Bool) (R : α → α → Prop) (a b : α) : Prop :=
  before a b ∨ before b a = false ∧ R a b

theorem ComesFirst.not_before (order : StrictWeak before) {R : α → α → Prop} {a b : α}
    (first : ComesFirst before R a b) : before b a = false := by
  rcases first with lt | ⟨tied, -⟩
  · exact order.asymm lt
  · exact tied

theorem insertLast_sorted (order : StrictWeak before) {R : α → α → Prop} {x : α} {ys : List α}
    (older : ∀ y ∈ ys, R y x) (sorted : ys.Pairwise fun a b => ComesFirst before R b a) :
    (insertLast before x ys).Pairwise fun a b => ComesFirst before R b a := by
  induction ys with
  | nil => simp [insertLast]
  | cons y ys ih =>
      rw [List.pairwise_cons] at sorted
      obtain ⟨oldest, older⟩ := List.forall_mem_cons.1 older
      rw [insertLast]
      split
      · rename_i lt
        refine List.pairwise_cons.2 ⟨fun z mem => ?_, ih older sorted.2⟩
        rcases List.mem_cons.1 ((insertLast_perm x ys).mem_iff.1 mem) with rfl | mem
        · exact .inl lt
        · exact sorted.1 z mem
      · rename_i not_lt
        have not_lt : before x y = false := by simpa using not_lt
        refine List.pairwise_cons.2 ⟨fun z mem => ?_, List.pairwise_cons.2 sorted⟩
        -- What is before `y` is no later than `y`, so `x` is not before it either.
        rcases List.mem_cons.1 mem with rfl | mem
        · exact .inr ⟨not_lt, oldest⟩
        · exact .inr ⟨order.ties not_lt ((sorted.1 z mem).not_before order), older z mem⟩

theorem stableSort_perm (xs : List α) : (stableSort before xs).Perm xs := by
  have go : ∀ (xs held : List α),
      (xs.foldl (fun sorted x => insertLast before x sorted) held).Perm (xs ++ held) := by
    intro xs
    induction xs with
    | nil => exact fun held => List.Perm.refl held
    | cons x xs ih =>
        intro held
        refine (ih _).trans ?_
        exact ((insertLast_perm x held).append_left xs).trans List.perm_middle
  refine (List.reverse_perm _).trans ?_
  simpa using go xs []

theorem stableSort_stable (order : StrictWeak before) {R : α → α → Prop} {xs : List α}
    (older : xs.Pairwise R) : (stableSort before xs).Pairwise (ComesFirst before R) := by
  have go : ∀ (xs held : List α), xs.Pairwise R → (∀ x ∈ xs, ∀ y ∈ held, R y x) →
      held.Pairwise (fun a b => ComesFirst before R b a) →
      (xs.foldl (fun sorted x => insertLast before x sorted) held).Pairwise
        fun a b => ComesFirst before R b a := by
    intro xs
    induction xs with
    | nil => exact fun held _ _ sorted => sorted
    | cons x xs ih =>
        intro held older after sorted
        obtain ⟨first, rest⟩ := List.pairwise_cons.1 older
        obtain ⟨afterFirst, afterRest⟩ := List.forall_mem_cons.1 after
        refine ih _ rest (fun z mem y mem' => ?_) (insertLast_sorted order afterFirst sorted)
        rcases List.mem_cons.1 ((insertLast_perm x held).mem_iff.1 mem') with rfl | mem'
        · exact first z mem
        · exact afterRest z mem y mem'
  rw [stableSort, List.pairwise_reverse]
  exact go xs [] older (fun x _ y mem => absurd mem List.not_mem_nil) List.Pairwise.nil

theorem stableSort_sorted (order : StrictWeak before) (xs : List α) :
    (stableSort before xs).Pairwise fun a b => before b a = false := by
  have related : xs.Pairwise fun _ _ => True := List.pairwise_of_forall fun _ _ => trivial
  exact (stableSort_stable order related).imp (·.not_before order)

theorem stableSort_of_sorted {xs : List α} (sorted : xs.Pairwise fun a b => before b a = false) :
    stableSort before xs = xs := by
  have go : ∀ xs held : List α, xs.Pairwise (fun a b => before b a = false) →
      (∀ x ∈ xs, ∀ y ∈ held, before x y = false) →
      xs.foldl (fun sorted x => insertLast before x sorted) held = xs.reverse ++ held := by
    intro xs
    induction xs with
    | nil => exact fun held _ _ => rfl
    | cons x xs ih =>
        intro held sorted after
        obtain ⟨first, rest⟩ := List.pairwise_cons.1 sorted
        obtain ⟨afterFirst, afterRest⟩ := List.forall_mem_cons.1 after
        have inserted : insertLast before x held = x :: held := by
          cases held with
          | nil => rfl
          | cons y held => rw [insertLast, afterFirst y List.mem_cons_self, if_neg Bool.false_ne_true]
        rw [List.foldl_cons, inserted, ih (x :: held) rest, List.reverse_cons, List.append_assoc]
        · rfl
        · intro z mem y mem'
          rcases List.mem_cons.1 mem' with rfl | mem'
          · exact first z mem
          · exact afterRest z mem y mem'
  rw [stableSort, go xs [] sorted fun x _ y mem => absurd mem List.not_mem_nil, List.append_nil,
    List.reverse_reverse]

theorem insertLast_congr {after : α → α → Bool} {x : α} {ys : List α}
    (same : ∀ y ∈ ys, before x y = after x y) : insertLast before x ys = insertLast after x ys := by
  induction ys with
  | nil => rfl
  | cons y ys ih =>
      obtain ⟨first, rest⟩ := List.forall_mem_cons.1 same
      rw [insertLast, insertLast, first, ih rest]

theorem stableSort_congr {after : α → α → Bool} {xs : List α}
    (same : ∀ x ∈ xs, ∀ y ∈ xs, before x y = after x y) : stableSort before xs = stableSort after xs := by
  have go : ∀ rest held : List α, rest ⊆ xs → held ⊆ xs →
      rest.foldl (fun sorted x => insertLast before x sorted) held =
        rest.foldl (fun sorted x => insertLast after x sorted) held := by
    intro rest
    induction rest with
    | nil => exact fun held _ _ => rfl
    | cons x rest ih =>
        intro held subset subset'
        obtain ⟨mem, subset⟩ := List.cons_subset.1 subset
        rw [List.foldl_cons, List.foldl_cons, insertLast_congr fun y mem' => same x mem y (subset' mem')]
        refine ih _ subset fun y mem' => ?_
        rcases List.mem_cons.1 ((insertLast_perm x held).mem_iff.1 mem') with rfl | mem'
        · exact mem
        · exact subset' mem'
  rw [stableSort, stableSort, go xs [] (List.Subset.refl xs) (List.nil_subset xs)]

/-! ## Sorting by what elements stand for -/

variable {β : Type u} (f : β → α)

theorem insertLast_map (x : β) (ys : List β) :
    insertLast before (f x) (ys.map f) =
      (insertLast (fun a b => before (f a) (f b)) x ys).map f := by
  induction ys with
  | nil => rfl
  | cons y ys ih =>
      rw [List.map_cons, insertLast, insertLast, ih]
      split <;> rfl

theorem stableSort_map (xs : List β) :
    stableSort before (xs.map f) = (stableSort (fun a b => before (f a) (f b)) xs).map f := by
  have go : ∀ (xs held : List β),
      (xs.map f).foldl (fun sorted x => insertLast before x sorted) (held.map f) =
        (xs.foldl (fun sorted x => insertLast (fun a b => before (f a) (f b)) x sorted) held).map
          f := by
    intro xs
    induction xs with
    | nil => exact fun held => rfl
    | cons x xs ih =>
        intro held
        rw [List.map_cons, List.foldl_cons, List.foldl_cons, insertLast_map, ih]
  rw [stableSort, stableSort, List.map_reverse]
  exact congrArg List.reverse (go xs [])

end SqlStore
