import SqlStore.Proofs.Decimal
import SqlStore.Proofs.Sql.Printing
import SqlStore.Proofs.Sql.Writable

/-!
# Printed conditions are parsed back

By the structure of an expression: the parser of every level takes exactly what is printed at that
level. `OR` and `AND` chains are printed without parentheses on the left, so their parsers take the
operands of a chain one after another; what they are left to do is the same as before.
-/

namespace SqlStore.Sql

namespace Parser

variable {ts mid rest : List Token}

/-! ## Constants -/

theorem numberLiteral_digits {n : Nat} {negative : Bool} {i : Int64}
    (read : Decimal.readInt64 ((if negative then ['-'] else []) ++ Nat.toDigits 10 n) = .ok i) :
    numberLiteral (String.ofList (Nat.toDigits 10 n)) negative = .ok (.int i) := by
  have all : (Nat.toDigits 10 n).all Char.isDigit :=
    List.all_eq_true.2 fun c => Decimal.isDigit_toDigits
  unfold numberLiteral
  simp only [String.toList_ofList]
  rw [if_pos all]
  cases negative with
  | false =>
      change Decimal.readInt64 (Nat.toDigits 10 n) = .ok i at read
      simp only [Bool.false_eq_true, if_false, read]
  | true =>
      change Decimal.readInt64 ('-' :: Nat.toDigits 10 n) = .ok i at read
      simp only [if_true, read]

theorem run_literal {l : Literal} (noFloat : ∀ x, l ≠ .float x) :
    literal.run none (written l.lexemes rest) = .ok (.literal l, rest) := by
  cases l with
  | null => rfl
  | bool b => cases b <;> rfl
  | text s => rfl
  | float x => exact absurd rfl (noFloat x)
  | int i =>
      have low := i.le_toInt
      have high := i.toInt_lt
      by_cases negative : i.toInt < 0
      · have read : numberLiteral (String.ofList (Nat.toDigits 10 i.toInt.natAbs)) true =
            .ok (.int i) := by
          refine numberLiteral_digits ((Decimal.readInt64_minus (by omega)).trans ?_)
          have eq : -(i.toInt.natAbs : Int) = i.toInt := by omega
          rw [eq, Int64.ofInt_toInt]
        rw [Literal.lexemes, if_pos negative]
        refine (run_bind_of_ok (run_next .minus)).trans ((run_bind_of_ok (run_next _)).trans ?_)
        refine run_bind_of_ok (a := Literal.int i) ?_
        rw [run_lift, read]
        rfl
      · have read : numberLiteral (String.ofList (Nat.toDigits 10 i.toInt.natAbs)) false =
            .ok (.int i) := by
          refine numberLiteral_digits ((Decimal.readInt64_toDigits (by omega)).trans ?_)
          have eq : (i.toInt.natAbs : Int) = i.toInt := by omega
          rw [eq, Int64.ofInt_toInt]
        rw [Literal.lexemes, if_neg negative]
        refine (run_bind_of_ok (run_next _)).trans ?_
        refine run_bind_of_ok (a := Literal.int i) ?_
        rw [run_lift, read]
        rfl

theorem literal_starts (l : Literal) :
    Starts endsType (written l.lexemes rest) := by
  cases l with
  | bool b => cases b <;> exact .cons rfl
  | int i =>
      rw [Literal.lexemes]
      split <;> exact .cons rfl
  | _ => exact .cons rfl

/-! ## Column references -/

theorem columnRef_written (c : ColumnRef) (stop : Starts (· ≠ .period) rest) :
    ∃ first ts, written c.lexemes rest = .ident first :: ts ∧
      (Starts (· ≠ .openParen) rest → Starts (· ≠ .openParen) ts) ∧
      (columnRefFrom first).run none ts = .ok (c, rest) := by
  obtain ⟨table?, name⟩ := c
  cases table? with
  | none => exact ⟨name, rest, rfl, id, run_bind_of_ok (run_accept_of_starts stop)⟩
  | some t =>
      refine ⟨t, .period :: .ident name :: rest, rfl, fun _ => .cons (by decide), ?_⟩
      exact run_bind_of_ok (run_accept .period)

theorem run_columnRef (c : ColumnRef) (stop : Starts (· ≠ .period) rest) :
    columnRef.run none (written c.lexemes rest) = .ok (c, rest) := by
  obtain ⟨first, ts, eq, -, ok⟩ := columnRef_written c stop
  rw [eq]
  exact (run_bind_of_ok (run_name first)).trans ok

/-! ## What ends an expression -/

def endsExpr (level : Nat) (t : Token) : Bool :=
  t ≠ .period &&
  (3 ≤ level || (comparison? t).isNone && t ≠ .keyword .is && t ≠ .keyword .not) &&
  (2 ≤ level || t ≠ .keyword .and) &&
  (1 ≤ level || t ≠ .keyword .or)

theorem endsExpr_mono {level level' : Nat} (le : level ≤ level') (t : Token)
    (ends : endsExpr level t) : endsExpr level' t := by
  simp only [endsExpr, Bool.and_eq_true, Bool.or_eq_true, decide_eq_true_eq] at ends ⊢
  obtain ⟨⟨⟨period, operator⟩, and⟩, or⟩ := ends
  exact ⟨⟨⟨period, operator.imp_left fun h => Nat.le_trans h le⟩,
    and.imp_left fun h => Nat.le_trans h le⟩, or.imp_left fun h => Nat.le_trans h le⟩

theorem noPeriod_of_endsExpr {level : Nat} (stop : Starts (endsExpr level) rest) :
    Starts (· ≠ .period) rest :=
  stop.and_left.and_left.and_left

/-! ## Comparisons -/

variable {l r : Expr}

def endsOperand (t : Token) : Bool :=
  (comparison? t).isNone && t ≠ .keyword .is && t ≠ .keyword .not

theorem run_comparison_of_starts (first : run operand none ts = .ok (l, mid))
    (stop : Starts endsOperand mid) : run comparison none ts = .ok (l, mid) := by
  obtain ⟨le, first⟩ := run_eq_ok.1 first
  refine run_eq_ok.2 ⟨le, ?_⟩
  rw [comparison]
  refine bind_eq_ok.2 ⟨_, first, ?_⟩
  cases mid with
  | nil => rfl
  | cons t mid =>
      have ends := stop.head
      dsimp only
      split
      case h_5 eq _ =>
        cases eq
        simp only [endsOperand, Bool.and_eq_true] at ends
        rw [Option.isNone_iff_eq_none.1 ends.1.1]
        rfl
      case h_1 eq _ => cases eq
      all_goals
        rename_i eq _
        cases eq
        cases ends

theorem run_comparison_alone (first : run operand none ts = .ok (l, mid))
    (stop : Starts (endsExpr 2) mid) : run comparison none ts = .ok (l, mid) := by
  refine run_comparison_of_starts first (stop.mono fun t ends => ?_)
  simp only [endsExpr, Bool.and_eq_true, Bool.or_eq_true] at ends
  exact Bool.and_eq_true_iff.2 (by simpa using ends.1.1.2)

theorem run_comparison {op : BinaryOp} (compares : op.level = 2)
    (first : run operand none ts = .ok (l, written op.lexemes mid))
    (second : run operand none mid = .ok (r, rest)) :
    run comparison none ts = .ok (.binary op l r, rest) := by
  -- No operand begins with `NOT`, which would be read as a part of `IS NOT`.
  have noNot : ∀ mid', mid ≠ .keyword .not :: mid' := by
    rintro mid' rfl
    rw [run_operand_literal] at second
    · cases second
    · rintro _ ⟨⟩
    · rintro _ _ ⟨⟩
  obtain ⟨le₁, first⟩ := run_eq_ok.1 first
  obtain ⟨le₂, second⟩ := run_eq_ok.1 second
  have le : rest.length ≤ ts.length :=
    Nat.le_trans le₂ (Nat.le_trans (le_length_written op.lexemes mid) le₁)
  refine run_eq_ok.2 ⟨le, ?_⟩
  rw [comparison]
  refine bind_eq_ok.2 ⟨_, first, ?_⟩
  cases op with
  | or => cases compares
  | and => cases compares
  | is =>
      cases mid with
      | nil => exact bind_eq_ok.2 ⟨_, second, rfl⟩
      | cons t mid =>
          dsimp only [written, List.foldr, BinaryOp.lexemes, Lexeme.token]
          split
          case h_3 eq _ =>
            cases eq
            exact bind_eq_ok.2 ⟨_, second, rfl⟩
          case h_2 eq _ =>
            cases eq
            exact absurd rfl (noNot _)
          case h_1 eq _ => cases eq
          case h_4 eq _ => cases eq
          case h_5 noIs _ eq _ =>
            cases eq
            exact absurd rfl noIs
  | isNot => exact bind_eq_ok.2 ⟨_, second, rfl⟩
  | notLike =>
      have like : (expect (.keyword .like)).run none (.keyword .like :: mid) = .ok ((), mid) :=
        run_expect _
      obtain ⟨le₃, like⟩ := run_eq_ok.1 like
      exact bind_eq_ok.2 ⟨_, like, bind_eq_ok.2 ⟨_, second, rfl⟩⟩
  | _ => exact bind_eq_ok.2 ⟨_, second, rfl⟩

end Parser

/-! ## Expressions -/

open SqlStore.Sql.Parser

/-- What is printed for an expression at each level is what the parser of that level takes. The
parsers of chains are left where their further operands come. -/
structure Expr.ReadsBack (e : Expr) : Prop where
  operand : ∀ rest, Starts (endsExpr 3) rest →
    run operand none (written (e.lexemes 3) rest) = .ok (e, rest)
  comparison : ∀ rest, Starts (endsExpr 2) rest →
    run comparison none (written (e.lexemes 2) rest) = .ok (e, rest)
  conjunction : ∀ rest, Starts (endsExpr 2) rest →
    run conjunction none (written (e.lexemes 1) rest) = run (moreConjuncts e) none rest
  disjunction : ∀ rest, Starts (endsExpr 1) rest →
    run disjunction none (written (e.lexemes 0) rest) = run (moreDisjuncts e) none rest

namespace Expr

variable {e : Expr}

theorem comparison_of_operand (same : e.lexemes 2 = e.lexemes 3)
    (operand : ∀ rest, Starts (endsExpr 3) rest →
      run operand none (written (e.lexemes 3) rest) = .ok (e, rest)) (rest : List Token)
    (stop : Starts (endsExpr 2) rest) :
    run comparison none (written (e.lexemes 2) rest) = .ok (e, rest) := by
  rw [same]
  exact run_comparison_alone (operand rest (stop.mono (endsExpr_mono (by decide)))) stop

theorem conjunction_of_comparison (same : e.lexemes 1 = e.lexemes 2)
    (comparison : ∀ rest, Starts (endsExpr 2) rest →
      run comparison none (written (e.lexemes 2) rest) = .ok (e, rest)) (rest : List Token)
    (stop : Starts (endsExpr 2) rest) :
    run conjunction none (written (e.lexemes 1) rest) = run (moreConjuncts e) none rest := by
  rw [same]
  exact run_conjunction.trans (run_bind_of_ok (comparison rest stop))

theorem run_moreConjuncts_end {rest : List Token} (stop : Starts (endsExpr 1) rest) :
    run (moreConjuncts e) none rest = .ok (e, rest) := by
  refine run_moreConjuncts_of_starts (stop.mono fun t ends => ?_)
  simp only [endsExpr, Bool.and_eq_true, Bool.or_eq_true] at ends
  exact ends.1.2.resolve_left (by decide)

theorem run_moreDisjuncts_end {rest : List Token} (stop : Starts (endsExpr 0) rest) :
    run (moreDisjuncts e) none rest = .ok (e, rest) := by
  refine run_moreDisjuncts_of_starts (stop.mono fun t ends => ?_)
  simp only [endsExpr, Bool.and_eq_true, Bool.or_eq_true] at ends
  exact ends.2.resolve_left (by decide)

theorem disjunction_of_conjunction (same : e.lexemes 0 = e.lexemes 1)
    (conjunction : ∀ rest, Starts (endsExpr 2) rest →
      run conjunction none (written (e.lexemes 1) rest) = run (moreConjuncts e) none rest)
    (rest : List Token) (stop : Starts (endsExpr 1) rest) :
    run disjunction none (written (e.lexemes 0) rest) = run (moreDisjuncts e) none rest := by
  rw [same]
  refine run_disjunction.trans (run_bind_of_ok ?_)
  rw [conjunction rest (stop.mono (endsExpr_mono (by decide)))]
  exact run_moreConjuncts_end stop

theorem operand_of_disjunction (enclosed : e.lexemes 3 = enclosed (e.lexemes 0))
    (disjunction : ∀ rest, Starts (endsExpr 1) rest →
      run disjunction none (written (e.lexemes 0) rest) = run (moreDisjuncts e) none rest)
    (rest : List Token) :
    run operand none (written (e.lexemes 3) rest) = .ok (e, rest) := by
  have closes {level : Nat} : Starts (endsExpr level) (.closeParen :: rest) :=
    .cons (endsExpr_mono (Nat.zero_le level) _ (by decide))
  have inner : run Parser.disjunction none (written (e.lexemes 0) (.closeParen :: rest)) =
      .ok (e, .closeParen :: rest) :=
    (disjunction _ closes).trans (run_moreDisjuncts_end closes)
  rw [enclosed, written_enclosed]
  refine run_operand_openParen.trans ((run_bind_of_ok inner).trans ?_)
  exact run_bind_of_ok (run_expect .closeParen)

theorem readsBack_of_operand (flat : ∀ level, e.lexemes level = e.lexemes 3)
    (operand : ∀ rest, Starts (endsExpr 3) rest →
      run operand none (written (e.lexemes 3) rest) = .ok (e, rest)) : e.ReadsBack :=
  have comparison := comparison_of_operand (flat 2) operand
  have conjunction := conjunction_of_comparison ((flat 1).trans (flat 2).symm) comparison
  ⟨operand, comparison, conjunction,
    disjunction_of_conjunction ((flat 0).trans (flat 1).symm) conjunction⟩

theorem lexemes_binary (op : BinaryOp) (l r : Expr) (level : Nat) :
    (binary op l r).lexemes level =
      if op.level < level then
        enclosed (l.lexemes op.leftLevel ++ op.lexemes ++ r.lexemes op.rightLevel)
      else l.lexemes op.leftLevel ++ op.lexemes ++ r.lexemes op.rightLevel := rfl

theorem readsBack_or {l r : Expr} (left : l.ReadsBack) (right : r.ReadsBack) :
    (binary .or l r).ReadsBack := by
  have disjunction (rest : List Token) (stop : Starts (endsExpr 1) rest) :
      run Parser.disjunction none (written ((binary .or l r).lexemes 0) rest) =
        run (moreDisjuncts (.binary .or l r)) none rest := by
    have next : Starts (endsExpr 1) (.keyword .or :: written (r.lexemes 1) rest) :=
      .cons (by decide)
    have last : run Parser.conjunction none (written (r.lexemes 1) rest) = .ok (r, rest) :=
      (right.conjunction rest (stop.mono (endsExpr_mono (by decide)))).trans
        (run_moreConjuncts_end stop)
    change run _ none (written (l.lexemes 0 ++ [.keyword .or] ++ r.lexemes 1) rest) = _
    rw [written_append, written_append]
    exact (left.disjunction _ next).trans (run_moreDisjuncts.trans (run_bind_of_ok last))
  have operand rest (_ : Starts (endsExpr 3) rest) := operand_of_disjunction rfl disjunction rest
  have comparison := comparison_of_operand rfl operand
  exact ⟨operand, comparison, conjunction_of_comparison rfl comparison, disjunction⟩

theorem readsBack_and {l r : Expr} (left : l.ReadsBack) (right : r.ReadsBack) :
    (binary .and l r).ReadsBack := by
  have conjunction (rest : List Token) (stop : Starts (endsExpr 2) rest) :
      run Parser.conjunction none (written ((binary .and l r).lexemes 1) rest) =
        run (moreConjuncts (.binary .and l r)) none rest := by
    have next : Starts (endsExpr 2) (.keyword .and :: written (r.lexemes 2) rest) :=
      .cons (by decide)
    have last := right.comparison rest stop
    change run _ none (written (l.lexemes 1 ++ [.keyword .and] ++ r.lexemes 2) rest) = _
    rw [written_append, written_append]
    exact (left.conjunction _ next).trans (run_moreConjuncts.trans (run_bind_of_ok last))
  have disjunction := disjunction_of_conjunction rfl conjunction
  have operand rest (_ : Starts (endsExpr 3) rest) := operand_of_disjunction rfl disjunction rest
  exact ⟨operand, comparison_of_operand rfl operand, conjunction, disjunction⟩

theorem readsBack_comparison {op : BinaryOp} {l r : Expr} (compares : op.level = 2)
    (left : l.ReadsBack) (right : r.ReadsBack) : (binary op l r).ReadsBack := by
  have starts (rest : List Token) : Starts (endsExpr 3) (written op.lexemes rest) := by
    cases op <;> exact .cons (by decide)
  have flat {level : Nat} (le : level ≤ 2) : (binary op l r).lexemes level =
      l.lexemes 3 ++ op.lexemes ++ r.lexemes 3 := by
    rw [lexemes_binary, BinaryOp.leftLevel, BinaryOp.rightLevel, compares, if_neg (by omega)]
    rfl
  have closed : (binary op l r).lexemes 3 = enclosed ((binary op l r).lexemes 0) := by
    have inner := flat (Nat.zero_le 2)
    rw [inner, lexemes_binary, BinaryOp.leftLevel, BinaryOp.rightLevel, compares]
    rfl
  have comparison (rest : List Token) (stop : Starts (endsExpr 2) rest) :
      run Parser.comparison none (written ((binary op l r).lexemes 2) rest) =
        .ok (.binary op l r, rest) := by
    rw [flat (Nat.le_refl 2), written_append, written_append]
    exact run_comparison compares (left.operand _ (starts _))
      (right.operand rest (stop.mono (endsExpr_mono (by decide))))
  have conjunction :=
    conjunction_of_comparison ((flat (by decide)).trans (flat (by decide)).symm) comparison
  have disjunction :=
    disjunction_of_conjunction ((flat (by decide)).trans (flat (by decide)).symm) conjunction
  exact ⟨fun rest _ => operand_of_disjunction closed disjunction rest, comparison, conjunction,
    disjunction⟩

theorem mem_lexemes_binary {op : BinaryOp} {l r : Expr} {level : Nat} {x : Lexeme}
    (mem : x ∈ l.lexemes op.leftLevel ∨ x ∈ r.lexemes op.rightLevel) :
    x ∈ (binary op l r).lexemes level := by
  have inner : x ∈ l.lexemes op.leftLevel ++ op.lexemes ++ r.lexemes op.rightLevel := by
    rcases mem with mem | mem
    · exact List.mem_append_left _ (List.mem_append_left _ mem)
    · exact List.mem_append_right _ mem
  rw [lexemes_binary]
  split
  · exact List.mem_cons_of_mem _ (List.mem_append_left _ inner)
  · exact inner

theorem readsBack {level : Nat} (noCall : e.noCall) (plain : ∀ x ∈ e.lexemes level, x.isPlain) :
    e.ReadsBack := by
  induction e generalizing level with
  | column c =>
      refine readsBack_of_operand (fun _ => rfl) fun rest stop => ?_
      have stop' := noPeriod_of_endsExpr stop
      obtain ⟨first, ts, eq, -⟩ := columnRef_written c stop'
      have named := run_columnRef c stop'
      rw [lexemes, eq]
      rw [eq] at named
      exact run_operand_ident.trans (run_bind_of_ok named)
  | literal l =>
      have noFloat (x : Float) : l ≠ .float x := by
        rintro rfl
        cases plain (.float x) List.mem_cons_self
      refine readsBack_of_operand (fun _ => rfl) fun rest stop => ?_
      refine (run_operand_literal ?_ ?_).trans (run_literal noFloat)
      · intro ts eq
        cases (eq ▸ literal_starts l).head
      · intro s ts eq
        cases (eq ▸ literal_starts l).head
  | call f arg => cases noCall
  | binary op l r ihl ihr =>
      rw [Expr.noCall, Bool.and_eq_true] at noCall
      have left := ihl noCall.1 fun x mem => plain x (mem_lexemes_binary (.inl mem))
      have right := ihr noCall.2 fun x mem => plain x (mem_lexemes_binary (.inr mem))
      cases op with
      | or => exact readsBack_or left right
      | and => exact readsBack_and left right
      | _ => exact readsBack_comparison rfl left right

end Expr

end SqlStore.Sql
