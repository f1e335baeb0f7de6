import Mathlib
import SqlStore.Value.Basic

namespace SqlStore

namespace Value

inductive Below : Value → Value → Prop
  | null {v : Value} : v ≠ .null → Below .null v
  | bool : Below (.bool false) (.bool true)
  | int {a b : Int64} : a.toInt < b.toInt → Below (.int a) (.int b)
  | float {x y : Float} : x < y → Below (.float x) (.float y)
  | text {s t : String} : s < t → Below (.text s) (.text t)
  | date {t u : Calendar.Instant} :
      t.seconds < u.seconds ∨ t.seconds = u.seconds ∧ t.nanos < u.nanos → Below (.date t) (.date u)

inductive SameKind : Value → Value → Prop
  | null : SameKind .null .null
  | bool (a b : Bool) : SameKind (.bool a) (.bool b)
  | int (a b : Int64) : SameKind (.int a) (.int b)
  | float (x y : Float) : SameKind (.float x) (.float y)
  | text (s t : String) : SameKind (.text s) (.text t)
  | date (t u : Calendar.Instant) : SameKind (.date t) (.date u)

instance (a b : Value) : Decidable (SameKind a b) := by
  cases a <;> cases b <;> first | exact .isTrue (by constructor) | exact .isFalse nofun

def IsNumber : Value → Prop
  | .int _ => True
  | .float x => x.isNaN = false
  | _ => False

/-- Values that are consistently ordered: none is NaN, and all but NULL are of one kind. -/
structure Consistent (vs : List Value) : Prop where
  number : ∀ v ∈ vs, v.isNaN = false
  kind : ∀ a ∈ vs, ∀ b ∈ vs, a ≠ .null → b ≠ .null → a.SameKind b

instance (vs : List Value) : Decidable (Consistent vs) :=
  decidable_of_iff ((∀ v ∈ vs, v.isNaN = false) ∧
      ∀ a ∈ vs, ∀ b ∈ vs, a ≠ .null → b ≠ .null → a.SameKind b)
    ⟨fun both => ⟨both.1, both.2⟩, fun both => ⟨both.number, both.kind⟩⟩

/-! ## Places

A place is a list of integers, and places compare by their first integers that differ. -/

open Float.Model (UnpackedFloat)

def unpackedPlace : UnpackedFloat → List Int
  | .infinity .negative => [-2]
  | .finite .negative m e _ => [-1, -e, -m]
  | .notANumber | .zero _ => [0]
  | .finite .positive m e _ => [1, e, m]
  | .infinity .positive => [2]

def floatPlace (x : Float) : List Int :=
  unpackedPlace x.toModel.unpack

def place : Value → List Int
  | .null => []
  | .bool b => [if b then 1 else 0]
  | .int i => [i.toInt]
  | .float x => floatPlace x
  | .text _ => [0]
  | .date t => [t.seconds, t.nanos]

def letters : Value → String
  | .text s => s
  | _ => ""

/-- A total order in which every value has a place; texts compare as texts. -/
def comparePlace : Value → Value → Ordering :=
  compareLex (compareOn place) (compareOn letters)

instance : Std.TransCmp comparePlace :=
  inferInstanceAs (Std.TransCmp (compareLex (compareOn place) (compareOn letters)))

/-! ## Binary64 numbers -/

theorem compare_neg (a b : Int) : compare (-a) (-b) = (compare a b).swap := by
  simp only [compare, compareOfLessAndEq]
  split_ifs <;> first | rfl | omega

theorem compare_natCast (m n : Nat) : compare (m : Int) (n : Int) = compare m n := by
  simp only [compare, compareOfLessAndEq]
  split_ifs <;> first | rfl | omega

theorem compare_unpacked {u v : UnpackedFloat} (hu : u ≠ .notANumber) (hv : v ≠ .notANumber) :
    u.compare v = some (compare (unpackedPlace u) (unpackedPlace v)) := by
  cases u with
  | notANumber => exact absurd rfl hu
  | infinity s =>
      cases v with
      | notANumber => exact absurd rfl hv
      | infinity t => cases s <;> cases t <;> rfl
      | zero t => cases s <;> rfl
      | finite t m e pos => cases s <;> cases t <;> rfl
  | zero s =>
      cases v with
      | notANumber => exact absurd rfl hv
      | infinity t => cases t <;> rfl
      | zero t => rfl
      | finite t m e pos => cases t <;> rfl
  | finite s m e pos =>
      cases v with
      | notANumber => exact absurd rfl hv
      | infinity t => cases s <;> cases t <;> rfl
      | zero t => cases s <;> rfl
      | finite t n f pos' =>
          have same (k : Int) : compare k k = .eq := Std.ReflCmp.compare_self
          cases s <;> cases t
          · simp only [UnpackedFloat.compare, unpackedPlace, List.compare_cons_cons,
              List.compare_nil_nil, compare_neg, compare_natCast, same, Ordering.eq_then,
              Ordering.then_eq, Ordering.swap_then]
          · rfl
          · rfl
          · simp only [UnpackedFloat.compare, unpackedPlace, List.compare_cons_cons,
              List.compare_nil_nil, compare_natCast, same, Ordering.eq_then, Ordering.then_eq]

theorem lt_iff_unpacked {x y : Float} :
    x < y ↔ x.toModel.unpack.compare y.toModel.unpack = some .lt := by
  change Float.lt x y = true ↔ _
  rw [Float.lt, decide_eq_true_iff]
  exact beq_iff_eq

theorem beq_iff_unpacked {x y : Float} :
    x == y ↔ x.toModel.unpack.compare y.toModel.unpack = some .eq := by
  change (x.toModel.unpack.compare y.toModel.unpack == some .eq) = true ↔ _
  exact beq_iff_eq

theorem compareFloat_place {x y : Float} (hx : x.isNaN = false) (hy : y.isNaN = false) :
    compareFloat x y = some (compare (floatPlace x) (floatPlace y)) := by
  have number {z : Float} (hz : z.isNaN = false) : z.toModel.unpack ≠ .notANumber := by
    intro none
    have nan : z.isNaN = true := UnpackedFloat.isNaN_iff.2 none
    rw [hz] at nan
    cases nan
  have forth := compare_unpacked (number hx) (number hy)
  have back := compare_unpacked (number hy) (number hx)
  rw [@Std.OrientedCmp.eq_swap _ compare] at back
  unfold compareFloat
  simp only [lt_iff_unpacked, beq_iff_unpacked, forth, back]
  unfold floatPlace
  cases compare (unpackedPlace x.toModel.unpack) (unpackedPlace y.toModel.unpack) <;> rfl

/-! ## Comparing -/

theorem comparePlace_eq (a b : Value) :
    comparePlace a b = (compare a.place b.place).then (compare a.letters b.letters) :=
  rfl

theorem comparePlace_null {v : Value} (other : v ≠ .null) : comparePlace .null v = .lt := by
  have filled : ∃ k ks, v.place = k :: ks := by
    cases v with
    | null => exact absurd rfl other
    | float x =>
        simp only [place, floatPlace]
        cases x.toModel.unpack with
        | infinity s | finite s => cases s <;> exact ⟨_, _, rfl⟩
        | _ => exact ⟨_, _, rfl⟩
    | _ => exact ⟨_, _, rfl⟩
  obtain ⟨k, ks, filled⟩ := filled
  rw [comparePlace_eq, filled]
  rfl

theorem compare?_eq_place {a b : Value} (numberA : a.isNaN = false) (numberB : b.isNaN = false)
    (kind : a ≠ .null → b ≠ .null → a.SameKind b) : a.compare? b = some (comparePlace a b) := by
  by_cases nullA : a = .null
  · subst a
    by_cases nullB : b = .null
    · subst b
      rfl
    · rw [comparePlace_null nullB]
      cases b <;> first | rfl | exact absurd rfl nullB
  by_cases nullB : b = .null
  · subst b
    rw [@Std.OrientedCmp.eq_swap _ comparePlace, comparePlace_null nullA]
    cases a <;> first | rfl | exact absurd rfl nullA
  cases kind nullA nullB with
  | null => exact absurd rfl nullA
  | bool a b => cases a <;> cases b <;> rfl
  | int a b =>
      rw [comparePlace_eq, place, place, List.compare_cons_cons, List.compare_nil_nil,
        Ordering.then_eq]
      exact congrArg some Ordering.then_eq.symm
  | float x y =>
      rw [comparePlace_eq, compare?, compareFloat_place numberA numberB]
      exact congrArg some Ordering.then_eq.symm
  | text s t => rfl
  | date t u =>
      rw [comparePlace_eq, place, place, List.compare_cons_cons, List.compare_cons_cons,
        List.compare_nil_nil, Ordering.then_eq, compare_natCast]
      exact congrArg some Ordering.then_eq.symm

theorem Consistent.compare?_eq {vs : List Value} (consistent : Consistent vs) {a b : Value}
    (memA : a ∈ vs) (memB : b ∈ vs) : a.compare? b = some (comparePlace a b) :=
  compare?_eq_place (consistent.number a memA) (consistent.number b memB)
    (consistent.kind a memA b memB)

def Relates (a b : Value) : Ordering → Prop
  | .lt => a.Below b
  | .eq => a.same b
  | .gt => b.Below a

theorem relates_of_compare? {a b : Value} (kind : a ≠ .null → b ≠ .null → a.SameKind b)
    {o : Ordering} (compared : a.compare? b = some o) : a.Relates b o := by
  by_cases nullA : a = .null
  · subst a
    by_cases nullB : b = .null
    · subst b
      cases compared
      rfl
    · have lt : Value.null.compare? b = some .lt := by
        cases b <;> first | rfl | exact absurd rfl nullB
      cases lt.symm.trans compared
      exact .null nullB
  by_cases nullB : b = .null
  · subst b
    have gt : a.compare? .null = some .gt := by
      cases a <;> first | rfl | exact absurd rfl nullA
    cases gt.symm.trans compared
    exact .null nullA
  cases kind nullA nullB with
  | null => exact absurd rfl nullA
  | bool a b =>
      cases a <;> cases b <;> cases compared <;> first | rfl | exact .bool
  | int a b =>
      cases compared
      cases order : compare a.toInt b.toInt with
      | lt => exact .int (compare_lt_iff_lt.1 order)
      | eq =>
          have equal := Int64.toInt_inj.1 (compare_eq_iff_eq.1 order)
          exact decide_eq_true (congrArg Value.int equal)
      | gt => exact .int (compare_gt_iff_gt.1 order)
  | float x y =>
      simp only [compare?, compareFloat] at compared
      split_ifs at compared <;> cases compared
      · exact .float ‹x < y›
      · exact ‹(x == y) = true›
      · exact .float ‹y < x›
  | text s t =>
      simp only [compare?, compareText] at compared
      split_ifs at compared with lt equal <;> cases compared
      · exact .text lt
      · exact decide_eq_true (congrArg Value.text equal)
      · exact .text (lt_of_le_of_ne (not_lt.1 lt) (Ne.symm equal))
  | date t u =>
      simp only [compare?, Calendar.Instant.compare] at compared
      cases compared
      cases seconds : compare t.seconds u.seconds with
      | lt => exact .date (.inl (compare_lt_iff_lt.1 seconds))
      | gt => exact .date (.inl (compare_gt_iff_gt.1 seconds))
      | eq =>
          have seconds := compare_eq_iff_eq.1 seconds
          cases nanos : compare t.nanos u.nanos with
          | lt => exact .date (.inr ⟨seconds, compare_lt_iff_lt.1 nanos⟩)
          | gt => exact .date (.inr ⟨seconds.symm, compare_gt_iff_gt.1 nanos⟩)
          | eq =>
              cases t
              cases u
              cases seconds
              cases compare_eq_iff_eq.1 nanos
              exact decide_eq_true rfl

end Value

end SqlStore
