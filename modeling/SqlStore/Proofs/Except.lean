import SqlStore.Error

namespace SqlStore

universe u v w
variable {ε : Type u} {α β : Type v}

theorem bind_eq_ok {x : Except ε α} {f : α → Except ε β} {b : β} :
    (x >>= f) = .ok b ↔ ∃ a, x = .ok a ∧ f a = .ok b := by
  cases x with
  | error e =>
      constructor
      · intro ok
        cases ok
      · rintro ⟨a, ok, -⟩
        cases ok
  | ok a =>
      constructor
      · intro ok
        exact ⟨a, rfl, ok⟩
      · rintro ⟨a, ⟨⟩, ok⟩
        exact ok

theorem bind_eq_error {x : Except ε α} {f : α → Except ε β} {e : ε} :
    (x >>= f) = .error e ↔ x = .error e ∨ ∃ a, x = .ok a ∧ f a = .error e := by
  cases x with
  | error e' =>
      constructor
      · rintro ⟨⟩
        exact .inl rfl
      · rintro (⟨⟨⟩⟩ | ⟨a, ok, -⟩)
        · rfl
        · cases ok
  | ok a =>
      constructor
      · intro failed
        exact .inr ⟨a, rfl, failed⟩
      · rintro (failed | ⟨a, ⟨⟩, failed⟩)
        · cases failed
        · exact failed

theorem pure_eq_ok {a b : α} : (pure a : Except ε α) = .ok b ↔ a = b := by
  constructor
  · intro ok
    exact Except.ok.inj ok
  · rintro rfl
    rfl

theorem map_eq_ok {f : α → β} {x : Except ε α} {b : β} :
    x.map f = .ok b ↔ ∃ a, x = .ok a ∧ f a = b := by
  cases x with
  | error e =>
      constructor
      · rintro ⟨⟩
      · rintro ⟨_, ⟨⟩, -⟩
  | ok a =>
      constructor
      · rintro ⟨⟩
        exact ⟨a, rfl, rfl⟩
      · rintro ⟨_, ⟨⟩, rfl⟩
        rfl

theorem mapError_eq_ok {ε' : Type w} {f : ε → ε'} {x : Except ε α} {a : α} :
    x.mapError f = .ok a ↔ x = .ok a := by
  cases x with
  | error e =>
      constructor <;>
      · intro ok
        cases ok
  | ok b =>
      constructor <;>
      · rintro ⟨⟩
        rfl

theorem eq_ok_of_toOption {x : Except ε α} {a : α} (found : x.toOption = some a) : x = .ok a := by
  cases x with
  | error e => cases found
  | ok b => exact congrArg Except.ok (Option.some.inj found)

theorem mapM_eq_ok {γ : Type w} {f : γ → Except ε α} {xs : List γ} {ys : List α} :
    xs.mapM f = .ok ys ↔ xs.map f = ys.map .ok := by
  induction xs generalizing ys with
  | nil =>
      rw [List.mapM_nil, pure_eq_ok, List.map_nil, eq_comm, eq_comm (a := []), List.map_eq_nil_iff]
  | cons x xs ih =>
      rw [List.mapM_cons, bind_eq_ok, List.map_cons]
      constructor
      · rintro ⟨y, first, rest⟩
        obtain ⟨zs, rest, last⟩ := bind_eq_ok.1 rest
        rw [← pure_eq_ok.1 last, List.map_cons, first, ih.1 rest]
      · intro all
        cases ys with
        | nil => cases all
        | cons y ys =>
            rw [List.map_cons, List.cons.injEq] at all
            refine ⟨y, all.1, bind_eq_ok.2 ⟨ys, ih.2 all.2, rfl⟩⟩

theorem length_of_mapM_eq_ok {γ : Type w} {f : γ → Except ε α} {xs : List γ} {ys : List α}
    (ok : xs.mapM f = .ok ys) : ys.length = xs.length := by
  have length := congrArg List.length (mapM_eq_ok.1 ok)
  rw [List.length_map, List.length_map] at length
  exact length.symm

theorem exists_mapM_eq_ok {γ : Type w} {f : γ → Except ε α} {xs : List γ}
    (each : ∀ x ∈ xs, ∃ y, f x = .ok y) : ∃ ys, xs.mapM f = .ok ys := by
  induction xs with
  | nil => exact ⟨[], rfl⟩
  | cons x xs ih =>
      obtain ⟨⟨y, first⟩, rest⟩ := List.forall_mem_cons.1 each
      obtain ⟨ys, rest⟩ := ih rest
      rw [List.mapM_cons, first, rest]
      exact ⟨y :: ys, rfl⟩

theorem exists_of_mapM_eq_ok {γ : Type w} {f : γ → Except ε α} {xs : List γ} {ys : List α}
    (ok : xs.mapM f = .ok ys) {y : α} (mem : y ∈ ys) : ∃ x ∈ xs, f x = .ok y := by
  have mem' : (Except.ok y : Except ε α) ∈ ys.map Except.ok := List.mem_map_of_mem mem
  rw [← mapM_eq_ok.1 ok] at mem'
  exact List.mem_map.1 mem'

theorem getElem?_of_mapM_eq_ok {γ : Type w} {f : γ → Except ε α} {xs : List γ} {ys : List α}
    (ok : xs.mapM f = .ok ys) {i : Nat} {y : α} (at' : ys[i]? = some y) :
    ∃ x, xs[i]? = some x ∧ f x = .ok y := by
  have same := congrArg (fun zs => zs[i]?) (mapM_eq_ok.1 ok)
  simp only [List.getElem?_map, at', Option.map_some, Option.map_eq_some_iff] at same
  exact same

theorem map_eq_of_mapM_eq_ok {γ : Type w} {δ : Type u} {f : γ → Except ε α} {g : α → δ} {h : γ → δ}
    (each : ∀ x y, f x = .ok y → g y = h x) {xs : List γ} {ys : List α}
    (ok : xs.mapM f = .ok ys) : ys.map g = xs.map h := by
  have same := mapM_eq_ok.1 ok
  clear ok
  induction xs generalizing ys with
  | nil =>
      rw [List.map_nil, eq_comm, List.map_eq_nil_iff] at same
      rw [same]
      rfl
  | cons x xs ih =>
      cases ys with
      | nil => cases same
      | cons y ys =>
          rw [List.map_cons, List.map_cons, List.cons.injEq] at same
          rw [List.map_cons, List.map_cons, each x y same.1, ih same.2]

theorem mapM_congr {γ : Type w} {f g : γ → Except ε α} {xs : List γ}
    (same : ∀ x ∈ xs, f x = g x) : xs.mapM f = xs.mapM g := by
  induction xs with
  | nil => rfl
  | cons x xs ih =>
      obtain ⟨first, rest⟩ := List.forall_mem_cons.1 same
      rw [List.mapM_cons, List.mapM_cons, first, ih rest]

theorem mapM_congr_ok {γ : Type w} {f g : γ → Except ε α} {xs : List γ}
    (same : ∀ x ∈ xs, ∀ y, f x = .ok y ↔ g x = .ok y) {ys : List α} :
    xs.mapM f = .ok ys ↔ xs.mapM g = .ok ys := by
  induction xs generalizing ys with
  | nil => simp
  | cons x xs ih =>
      obtain ⟨first, rest⟩ := List.forall_mem_cons.1 same
      simp only [List.mapM_cons, bind_eq_ok, first, ih rest]

theorem mapM_eq_ok_map {γ : Type w} {f : γ → Except ε α} {g : γ → α}
    (only : ∀ x y, f x = .ok y → y = g x) {xs : List γ} {ys : List α} :
    xs.mapM f = .ok ys ↔ (∀ x ∈ xs, f x = .ok (g x)) ∧ ys = xs.map g := by
  have made (each : ∀ x ∈ xs, f x = .ok (g x)) : xs.mapM f = .ok (xs.map g) := by
    rw [mapM_eq_ok, List.map_map]
    exact List.map_congr_left each
  constructor
  · intro ok
    have each : ∀ x ∈ xs, f x = .ok (g x) := by
      intro x mem
      obtain ⟨y, -, eq⟩ := List.mem_map.1 (mapM_eq_ok.1 ok ▸ List.mem_map_of_mem mem)
      rw [← eq, only x y eq.symm]
    exact ⟨each, Except.ok.inj (ok.symm.trans (made each))⟩
  · rintro ⟨each, rfl⟩
    exact made each

/-! ## Errors -/

def FailsWith (P : ε → Prop) (x : Except ε α) : Prop :=
  ∀ e, x = .error e → P e

namespace FailsWith

variable {P : ε → Prop}

theorem ok (a : α) : FailsWith P (.ok a) := by
  rintro e ⟨⟩

theorem error {e : ε} (holds : P e) : FailsWith P (.error e : Except ε α) := by
  rintro e' ⟨⟩
  exact holds

theorem bind {x : Except ε α} {f : α → Except ε β} (first : FailsWith P x)
    (rest : ∀ a, x = .ok a → FailsWith P (f a)) : FailsWith P (x >>= f) := by
  intro e failed
  rcases bind_eq_error.1 failed with failed | ⟨a, ok, failed⟩
  · exact first e failed
  · exact rest a ok e failed

theorem map {x : Except ε α} (f : α → β) (holds : FailsWith P x) : FailsWith P (x.map f) := by
  cases x with
  | ok a => exact .ok (f a)
  | error e => exact .error (holds e rfl)

theorem mapError {ε' : Type w} {f : ε' → ε} {x : Except ε' α}
    (holds : FailsWith (fun e => P (f e)) x) : FailsWith P (x.mapError f) := by
  cases x with
  | ok a => exact .ok a
  | error e => exact .error (holds e rfl)

theorem mapM {γ : Type w} {f : γ → Except ε α} {xs : List γ}
    (each : ∀ x ∈ xs, FailsWith P (f x)) : FailsWith P (xs.mapM f) := by
  induction xs with
  | nil => exact .ok []
  | cons x xs ih =>
      obtain ⟨first, rest⟩ := List.forall_mem_cons.1 each
      rw [List.mapM_cons]
      exact first.bind fun _ _ => (ih rest).bind fun _ _ => .ok _

theorem foldlM {γ : Type w} {f : α → γ → Except ε α} (each : ∀ a x, FailsWith P (f a x))
    (xs : List γ) (a : α) : FailsWith P (xs.foldlM f a) := by
  induction xs generalizing a with
  | nil => exact .ok a
  | cons x xs ih =>
      rw [List.foldlM_cons]
      exact (each a x).bind fun b _ => ih b

end FailsWith

/-! ## Results -/

/-- Computations that fail with the same error, or that both have a result, one for the other. -/
inductive Alike (R : α → β → Prop) : Except ε α → Except ε β → Prop
  | error (e : ε) : Alike R (.error e) (.error e)
  | ok {a : α} {b : β} : R a b → Alike R (.ok a) (.ok b)

namespace Alike

theorem cases {R : α → β → Prop} {x : Except ε α} {y : Except ε β} (alike : Alike R x y) :
    (∃ e, x = .error e ∧ y = .error e) ∨ ∃ a b, x = .ok a ∧ y = .ok b ∧ R a b := by
  cases alike with
  | error e => exact .inl ⟨e, rfl, rfl⟩
  | ok related => exact .inr ⟨_, _, rfl, rfl, related⟩

variable {γ δ : Type v} {S : γ → δ → Prop}

theorem bind {R : α → β → Prop} {x : Except ε α} {y : Except ε β} {f : α → Except ε γ}
    {g : β → Except ε δ} (first : Alike R x y) (rest : ∀ a b, R a b → Alike S (f a) (g b)) :
    Alike S (x >>= f) (y >>= g) := by
  cases first with
  | error e => exact .error e
  | ok related => exact rest _ _ related

theorem after {x : Except ε α} {f : α → Except ε γ} {g : α → Except ε δ}
    (each : ∀ a, Alike S (f a) (g a)) : Alike S (x >>= f) (x >>= g) := by
  cases x with
  | error e => exact .error e
  | ok a => exact each a

end Alike

end SqlStore
