import Mathlib.Data.List.Forall2
import Mathlib.Data.List.Infix
import SqlStore.Text.Regex

namespace SqlStore.Text.Regex

inductive Accepts (dotAll : Bool) : List Item → List Char → Prop
  | nil : Accepts dotAll [] []
  | one {a items c cs} : a.accepts dotAll c → Accepts dotAll items cs →
      Accepts dotAll (.one a :: items) (c :: cs)
  | many {a items run cs} : (∀ c ∈ run, a.accepts dotAll c) → Accepts dotAll items cs →
      Accepts dotAll (.many a :: items) (run ++ cs)

/-! ## Lists of answers -/

def Answers (P : List Char → Prop) (cs : List Char) (bs : List Bool) : Prop :=
  List.Forall₂ (fun tail b => b = true ↔ P tail) cs.tails bs

namespace Answers

variable {P Q : List Char → Prop} {c : Char} {cs : List Char} {b : Bool} {bs : List Bool}

theorem nil (first : b = true ↔ P []) : Answers P [] [b] :=
  .cons first .nil

theorem cons (first : b = true ↔ P (c :: cs)) (rest : Answers P cs bs) :
    Answers P (c :: cs) (b :: bs) := by
  rw [Answers, List.tails_cons]
  exact .cons first rest

theorem of_nil (answers : Answers P [] bs) : ∃ b, bs = [b] ∧ (b = true ↔ P []) := by
  obtain ⟨b, bs, first, rest, rfl⟩ := List.forall₂_cons_left_iff.1 answers
  obtain rfl := List.forall₂_nil_left_iff.1 rest
  exact ⟨b, rfl, first⟩

theorem of_cons (answers : Answers P (c :: cs) bs) :
    ∃ b rest, bs = b :: rest ∧ (b = true ↔ P (c :: cs)) ∧ Answers P cs rest := by
  rw [Answers, List.tails_cons] at answers
  obtain ⟨b, rest, first, later, rfl⟩ := List.forall₂_cons_left_iff.1 answers
  exact ⟨b, rest, rfl, first, later⟩

theorem headD (answers : Answers P cs bs) : bs.headD false = true ↔ P cs := by
  cases cs with
  | nil =>
      obtain ⟨b, rfl, first⟩ := answers.of_nil
      exact first
  | cons c cs =>
      obtain ⟨b, rest, rfl, first, -⟩ := answers.of_cons
      exact first

theorem any (answers : Answers P cs bs) : bs.any id = true ↔ ∃ before tail,
    cs = before ++ tail ∧ P tail := by
  induction cs generalizing bs with
  | nil =>
      obtain ⟨b, rfl, first⟩ := answers.of_nil
      rw [List.any_cons, List.any_nil, Bool.or_false, id, first]
      constructor
      · exact fun holds => ⟨[], [], rfl, holds⟩
      · rintro ⟨before, tail, eq, holds⟩
        obtain ⟨rfl, rfl⟩ := List.append_eq_nil_iff.1 eq.symm
        exact holds
  | cons c cs ih =>
      obtain ⟨b, rest, rfl, first, later⟩ := answers.of_cons
      rw [List.any_cons, Bool.or_eq_true, id, first, ih later]
      constructor
      · rintro (holds | ⟨before, tail, rfl, holds⟩)
        · exact ⟨[], _, rfl, holds⟩
        · exact ⟨c :: before, tail, rfl, holds⟩
      · rintro ⟨before, tail, eq, holds⟩
        rcases List.cons_eq_append_iff.1 eq with ⟨rfl, rfl⟩ | ⟨before, rfl, rfl⟩
        · exact .inl holds
        · exact .inr ⟨before, tail, rfl, holds⟩

theorem ended (toEnd : Bool) (cs : List Char) :
    Answers (fun tail => toEnd → tail = []) cs (ended toEnd cs) := by
  induction cs with
  | nil => exact nil (by simp)
  | cons c cs ih => exact cons (by simp) ih

theorem oneThen (p : Char → Bool) (answers : Answers P cs bs) :
    Answers (fun tail => ∃ c rest, tail = c :: rest ∧ p c ∧ P rest) cs (oneThen p cs bs) := by
  induction cs generalizing bs with
  | nil =>
      obtain ⟨b, rfl, -⟩ := answers.of_nil
      exact nil (by simp)
  | cons c cs ih =>
      obtain ⟨b, rest, rfl, -, later⟩ := answers.of_cons
      refine cons ?_ (ih later)
      rw [Bool.and_eq_true, later.headD]
      constructor
      · exact fun both => ⟨c, cs, rfl, both⟩
      · rintro ⟨_, _, ⟨⟩, both⟩
        exact both

theorem manyThen (p : Char → Bool) (answers : Answers P cs bs) :
    Answers (fun tail => ∃ run rest, tail = run ++ rest ∧ (∀ c ∈ run, p c) ∧ P rest) cs
      (manyThen p cs bs) := by
  induction cs generalizing bs with
  | nil =>
      obtain ⟨b, rfl, first⟩ := answers.of_nil
      refine nil (first.trans ⟨fun holds => ⟨[], [], rfl, nofun, holds⟩, ?_⟩)
      rintro ⟨run, rest, eq, -, holds⟩
      obtain ⟨rfl, rfl⟩ := List.append_eq_nil_iff.1 eq.symm
      exact holds
  | cons c cs ih =>
      obtain ⟨b, rest, rfl, first, later⟩ := answers.of_cons
      have later := ih later
      refine cons ?_ later
      -- The run is empty, or it begins here and goes on as one that begins later.
      rw [Bool.or_eq_true, Bool.and_eq_true, first, later.headD]
      constructor
      · rintro (holds | ⟨accepted, run, rest, rfl, all, holds⟩)
        · exact ⟨[], _, rfl, nofun, holds⟩
        · exact ⟨c :: run, rest, rfl, List.forall_mem_cons.2 ⟨accepted, all⟩, holds⟩
      · rintro ⟨run, rest, eq, all, holds⟩
        rcases List.cons_eq_append_iff.1 eq with ⟨rfl, rfl⟩ | ⟨run, rfl, rfl⟩
        · exact .inl holds
        · obtain ⟨accepted, all⟩ := List.forall_mem_cons.1 all
          exact .inr ⟨accepted, run, rest, rfl, all, holds⟩

theorem congr (answers : Answers P cs bs) (same : ∀ tail, P tail ↔ Q tail) : Answers Q cs bs :=
  answers.imp fun tail _ right => right.trans (same tail)

end Answers

/-! ## Matching -/

def Begins (r : Regex) (items : List Item) (tail : List Char) : Prop :=
  ∃ matched after, tail = matched ++ after ∧ Accepts r.dotAll items matched ∧
    (r.toEnd → after = [])

theorem matchTails_answers (r : Regex) (cs : List Char) (items : List Item) :
    Answers (r.Begins items) cs (r.matchTails cs items) := by
  induction items with
  | nil =>
      refine (Answers.ended r.toEnd cs).congr fun tail => ⟨fun atEnd => ⟨[], tail, rfl, .nil, atEnd⟩, ?_⟩
      rintro ⟨_, after, rfl, ⟨⟩, atEnd⟩
      exact atEnd
  | cons item items ih =>
      cases item with
      | one a =>
          refine (ih.oneThen (a.accepts r.dotAll)).congr fun tail => ⟨?_, ?_⟩
          · rintro ⟨c, _, rfl, accepted, matched, after, rfl, all, atEnd⟩
            exact ⟨c :: matched, after, rfl, .one accepted all, atEnd⟩
          · rintro ⟨_, after, rfl, accepts, atEnd⟩
            cases accepts with
            | one accepted all => exact ⟨_, _, rfl, accepted, _, after, rfl, all, atEnd⟩
      | many a =>
          refine (ih.manyThen (a.accepts r.dotAll)).congr fun tail => ⟨?_, ?_⟩
          · rintro ⟨run, _, rfl, accepted, matched, after, rfl, all, atEnd⟩
            exact ⟨run ++ matched, after, (List.append_assoc _ _ _).symm, .many accepted all, atEnd⟩
          · rintro ⟨_, after, rfl, accepts, atEnd⟩
            cases accepts with
            | many accepted all =>
                exact ⟨_, _, List.append_assoc _ _ _, accepted, _, after, rfl, all, atEnd⟩

theorem isMatch_iff (r : Regex) (cs : List Char) :
    r.isMatch cs = true ↔ ∃ before matched after, cs = before ++ (matched ++ after) ∧
      Accepts r.dotAll r.items matched ∧ (r.fromStart → before = []) ∧ (r.toEnd → after = []) := by
  have answers := r.matchTails_answers cs r.items
  rw [isMatch]
  split
  · rename_i pinned
    rw [answers.headD]
    constructor
    · rintro ⟨matched, after, rfl, all, atEnd⟩
      exact ⟨[], matched, after, rfl, all, fun _ => rfl, atEnd⟩
    · rintro ⟨before, matched, after, rfl, all, atStart, atEnd⟩
      rw [atStart pinned]
      exact ⟨matched, after, rfl, all, atEnd⟩
  · rename_i free
    rw [answers.any]
    constructor
    · rintro ⟨before, tail, rfl, matched, after, rfl, all, atEnd⟩
      exact ⟨before, matched, after, rfl, all, fun pinned => absurd pinned free, atEnd⟩
    · rintro ⟨before, matched, after, rfl, all, -, atEnd⟩
      exact ⟨before, _, rfl, matched, after, rfl, all, atEnd⟩

theorem isMatch_anchored {dotAll : Bool} {items : List Item} {cs : List Char} :
    isMatch ⟨dotAll, true, items, true⟩ cs = true ↔ Accepts dotAll items cs := by
  rw [isMatch_iff]
  constructor
  · rintro ⟨before, matched, after, rfl, all, atStart, atEnd⟩
    obtain rfl := atStart rfl
    obtain rfl := atEnd rfl
    rwa [List.nil_append, List.append_nil]
  · intro all
    exact ⟨[], cs, [], (List.append_nil _).symm, all, fun _ => rfl, fun _ => rfl⟩

/-! ## Reading escaped text -/

theorem readItems?_plain (done : List Item) {c : Char} (plain : isMeta c = false) (cs : List Char) :
    readItems? done (c :: cs) = readItems? (.one (.char c) :: done) cs := by
  have other {d : Char} (special : isMeta d) : c ≠ d := by
    rintro rfl
    rw [plain] at special
    cases special
  rw [readItems?, if_neg (by simp [plain])]
  · exact fun eq _ => other (by decide) eq
  · exact other (by decide)
  · exact other (by decide)
  · exact fun _ _ eq _ => other (by decide) eq

theorem readItems?_escape (done : List Item) (held rest : List Char) :
    readItems? done (escape held ++ rest) =
      readItems? ((held.map fun c => .one (.char c)).reverse ++ done) rest := by
  induction held generalizing done with
  | nil => rfl
  | cons c held ih =>
      have first : readItems? done (escape (c :: held) ++ rest) =
          readItems? (.one (.char c) :: done) (escape held ++ rest) := by
        rw [escape, List.flatMap_cons, List.append_assoc]
        cases special : isMeta c with
        | true =>
            change readItems? done ('\\' :: c :: (escape held ++ rest)) = _
            rw [readItems?, if_pos special]
        | false => exact readItems?_plain done special _
      rw [first, ih, List.map_cons, List.reverse_cons, List.append_assoc]
      rfl

end SqlStore.Text.Regex
