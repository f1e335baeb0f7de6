import SqlStore.Proofs.Sql.Limiting
import SqlStore.Proofs.Sql.Loops

namespace SqlStore.Sql

open Text (isBlank trimLeft)

/-! ## Parsers before a fault -/

namespace Parser

variable {α β : Type} {e : SyntaxError} {ts : List Token}

/-- Whether a parser makes the same of the tokens before a fault as before none, or raises it. -/
def RaisesAt (p : Parser α) (e : SyntaxError) (ts : List Token) : Prop :=
  p.run (some e) ts = p.run none ts ∨ p.run (some e) ts = .error e

def Raises (p : Parser α) : Prop :=
  ∀ e ts, RaisesAt p e ts

namespace RaisesAt

theorem bind {p : Parser α} {f : α → Parser β} (first : RaisesAt p e ts)
    (last : ∀ a mid, p.run none ts = .ok (a, mid) → RaisesAt (f a) e mid) :
    RaisesAt (p >>= f) e ts := by
  rcases first with same | raised
  · cases ok : p.run none ts with
    | error e' =>
        left
        rw [run_bind, run_bind, same, ok]
        rfl
    | ok r =>
        rw [ok] at same
        rcases last r.1 r.2 ok with same' | raised'
        · exact .inl ((run_bind_of_ok same).trans (same'.trans (run_bind_of_ok ok).symm))
        · exact .inr ((run_bind_of_ok same).trans raised')
  · right
    rw [run_bind, raised]
    rfl

theorem congr {p q : Parser α} {us : List Token} (raises : RaisesAt q e us)
    (same : ∀ fault, p.run fault ts = q.run fault us) : RaisesAt p e ts := by
  rw [RaisesAt, same, same]
  exact raises

theorem of_ok {p : Parser α} {r : α × List Token} (ok : ∀ fault, p.run fault ts = .ok r) :
    RaisesAt p e ts :=
  .inl ((ok _).trans (ok _).symm)

end RaisesAt

namespace Raises

theorem pure (a : α) : Raises (pure a : Parser α) :=
  fun _ _ => .inl rfl

theorem fail (e' : SyntaxError) : Raises (fail e' : Parser α) :=
  fun _ _ => .inl rfl

theorem lift (x : Except SyntaxError α) : Raises (lift x) :=
  fun _ _ => .inl rfl

theorem bind {p : Parser α} {f : α → Parser β} (first : Raises p) (last : ∀ a, Raises (f a)) :
    Raises (p >>= f) :=
  fun e ts => (first e ts).bind fun a mid _ => last a e mid

theorem map {p : Parser α} (raises : Raises p) (g : α → β) : Raises (g <$> p) :=
  raises.bind fun a => .pure (g a)

theorem ite {c : Prop} [Decidable c] {p q : Parser α} (yes : Raises p) (no : Raises q) :
    Raises (if c then p else q) := by
  split
  · exact yes
  · exact no

theorem peek? : Raises peek? := by
  rintro e (_ | ⟨t, ts⟩)
  · exact .inr rfl
  · exact .inl rfl

theorem next : Raises next := by
  rintro e (_ | ⟨t, ts⟩)
  · exact .inr rfl
  · exact .inl rfl

theorem takeIf (p : Token → Bool) : Raises (takeIf? p) :=
  fun _ _ => .inl rfl

theorem accept (t : Token) : Raises (accept t) :=
  .bind (takeIf _) fun taken => .pure taken.isSome

theorem expect (t : Token) : Raises (expect t) :=
  .bind next fun _ => .ite (.pure ()) (.fail _)

theorem name : Raises name := by
  refine .bind next fun t => ?_
  split
  · exact .pure _
  · exact .fail _

/-! ### Lists -/

theorem moreItems {item : Parser α} (each : Raises item) : Raises (moreItems item) := by
  intro e ts
  induction ts using @moreItems.induct α with
  | case1 ts ih =>
      refine .congr (.bind (each e ts) fun a mid first => ?_) fun _ => run_moreItems item
      exact .bind (ih a mid (run_eq_ok.1 first).1) fun as mid _ => pure (a :: as) e mid
  | case2 ts other => exact .of_ok fun _ => run_moreItems_of_starts item (.of_ne other)

theorem items {item : Parser α} (each : Raises item) : Raises (items item) :=
  .bind each fun _ => .bind (moreItems each) fun _ => .pure _

theorem itemsToClose {item : Parser α} (each : Raises item) : Raises (itemsToClose item) := by
  intro e ts
  induction ts using @itemsToClose.induct α with
  | case1 ts ih =>
      refine .congr (.bind (each e ts) fun a mid first => ?_) fun _ => run_itemsToClose item
      refine .bind (next e mid) fun t mid' took => ?_
      obtain rfl := run_next_eq_ok.1 took
      split
      · exact pure [a] e mid'
      · split
        · subst t
          exact .bind (ih a mid' (run_eq_ok.1 first).1) fun as mid _ => pure (a :: as) e mid
        · exact fail _ e mid'

theorem names : Raises names := by
  intro e ts
  induction ts using names.induct with
  | case1 s ts ih =>
      refine .congr (.bind ih fun more mid _ => ?_) fun _ => run_names
      exact pure (s :: more) e mid
  | case2 ts other =>
      rcases endsWords_or_cons ts with starts | ⟨s, us, rfl⟩
      · exact .of_ok fun _ => run_names_of_starts starts
      · exact absurd rfl (other s us)

theorem dottedNames : Raises dottedNames := by
  intro e ts
  induction ts using dottedNames.induct with
  | case1 ts ih =>
      refine .congr (.bind (name e ts) fun s mid first => ?_) fun _ => run_dottedNames
      exact .bind (ih s mid (run_eq_ok.1 first).1) fun more mid _ => pure (s :: more) e mid
  | case2 ts other => exact .of_ok fun _ => run_dottedNames_of_starts (.of_ne other)

theorem tableName : Raises tableName :=
  .bind name fun _ => .bind dottedNames fun _ => .pure _

/-! ### Expressions -/

theorem literal : Raises literal := by
  refine .bind next fun t => ?_
  split
  · exact .bind (lift _) fun l => .pure _
  · refine .bind next fun t => ?_
    split
    · exact .bind (lift _) fun l => .pure _
    · exact .fail _
  · exact .pure _
  · exact .pure _
  · exact .pure _
  · exact .pure _
  · exact .fail _

theorem columnRefFrom (first : String) : Raises (columnRefFrom first) :=
  .bind (accept _) fun _ => .ite (.bind name fun _ => .pure _) (.pure _)

theorem columnRef : Raises columnRef :=
  .bind name columnRefFrom

end Raises

def comparedAt (l : Expr) (t : Token) : Parser Expr :=
  match comparison? t, t with
  | some op, _ => do
    discard next
    joinedBy op operand l
  | none, .keyword .is => do
    discard next
    if ← accept (.keyword .not) then joinedBy .isNot operand l else joinedBy .is operand l
  | none, .keyword .not => do
    discard next
    expect (.keyword .like)
    joinedBy .notLike operand l
  | none, _ => pure l

def compared (l : Expr) : Parser Expr := do
  match ← peek? with
  | none => return l
  | some t => comparedAt l t

theorem run_compared {fault : Option SyntaxError} (l : Expr) (t : Token) (us : List Token) :
    (compared l).run fault (t :: us) = (comparedAt l t).run fault (t :: us) :=
  run_bind_of_ok (run_peek_cons t us)

theorem run_comparison_compared {fault : Option SyntaxError} :
    run comparison fault ts = run (bind (m := Parser) operand compared) fault ts := by
  refine .trans ?_ (run_bind _ _).symm
  unfold run
  rw [comparison]
  rcases operand fault ts with e | ⟨⟨l, mid⟩, le⟩
  · rfl
  · change _ = (compared l).run fault mid
    have joined (op : BinaryOp) (us : List Token) : (joinedBy op operand l).run fault us =
        (run operand fault us).map fun r => (.binary op l r.1, r.2) := run_map _ _
    have dropped {p : Parser Expr} (t : Token) (us : List Token) :
        (discard next >>= fun _ => p).run fault (t :: us) = p.run fault us :=
      run_bind_of_ok (run_discard_next t us)
    dsimp only [Bind.bind, Except.bind]
    split
    · cases fault <;> rfl
    · rename_i us _
      have taken : (compared l).run fault (.keyword .is :: .keyword .not :: us) =
          (joinedBy .isNot operand l).run fault us :=
        (run_compared _ _ _).trans ((dropped _ _).trans (run_bind_of_ok (run_accept _)))
      rw [taken, joined]
      unfold run
      cases operand fault us <;> rfl
    · rename_i us _ other
      have noNot : Starts (· ≠ .keyword .not) us := by
        refine .of_ne fun vs eq => ?_
        subst eq
        exact other vs _ HEq.rfl rfl
      have taken : (compared l).run fault (.keyword .is :: us) =
          (joinedBy .is operand l).run fault us :=
        (run_compared _ _ _).trans ((dropped _ _).trans
          (run_bind_of_ok (run_accept_of_starts noNot)))
      rw [taken, joined]
      unfold run
      cases operand fault us <;> rfl
    · rename_i us _
      have taken : (compared l).run fault (.keyword .not :: us) =
          (expect (.keyword .like) >>= fun _ => joinedBy .notLike operand l).run fault us :=
        (run_compared _ _ _).trans (dropped _ _)
      rw [taken, run_bind]
      unfold run
      rcases expect (.keyword .like) fault us with e | ⟨⟨⟨⟩, vs⟩, le'⟩
      · rfl
      · change _ = (joinedBy .notLike operand l).run fault vs
        rw [joined]
        unfold run
        dsimp only
        cases operand fault vs <;> rfl
    · rename_i t us _ _ noIs noNot
      rw [run_compared]
      unfold comparedAt
      cases comparison? t with
      | some op =>
          refine .trans ?_ ((dropped t us).trans (joined op us)).symm
          unfold run
          dsimp only
          cases operand fault us <;> rfl
      | none =>
          dsimp only
          split
          · contradiction
          · exact absurd rfl noIs
          · exact absurd rfl noNot
          · rfl

namespace Raises

theorem comparedAt (l : Expr) (t : Token)
    (right : ∀ us, us.length < ts.length + 1 → RaisesAt operand e us) :
    RaisesAt (comparedAt l t) e (t :: ts) := by
  have joined (op : BinaryOp) {us : List Token} (shorter : us.length ≤ ts.length) :
      RaisesAt (joinedBy op operand l) e us :=
    (right us (Nat.lt_succ_of_le shorter)).bind fun r mid _ => pure _ e mid
  have dropped {p : Parser Expr} (raises : RaisesAt p e ts) :
      RaisesAt (discard Parser.next >>= fun _ => p) e (t :: ts) :=
    raises.congr fun _ => run_bind_of_ok (run_discard_next t ts)
  unfold Parser.comparedAt
  split
  · exact dropped (joined _ (Nat.le_refl _))
  · refine dropped ((accept _ e ts).bind fun negated mid ok => ?_)
    split
    · exact joined _ (length_le_of_run ok)
    · exact joined _ (length_le_of_run ok)
  · exact dropped ((expect _ e ts).bind fun _ mid ok => joined _ (length_le_of_run ok))
  · exact pure l e _

theorem comparisonAt (left : RaisesAt operand e ts)
    (right : ∀ us, us.length < ts.length → RaisesAt operand e us) : RaisesAt comparison e ts := by
  refine .congr (.bind left fun l mid ok => ?_) fun _ => run_comparison_compared
  refine (peek? e mid).bind fun t? mid' peeked => ?_
  cases mid with
  | nil =>
      cases peeked
      exact pure l e []
  | cons t us =>
      cases (run_peek_cons t us).symm.trans peeked
      exact comparedAt l t fun vs shorter =>
        right vs (Nat.lt_of_lt_of_le shorter (length_le_of_run ok))

theorem condition : Raises condition := by
  -- By the recursion of the six parsers.
  intro e ts
  refine (operand.mutual_induct (RaisesAt operand e) (RaisesAt disjunction e)
    (fun l => RaisesAt (moreDisjuncts l) e) (RaisesAt conjunction e)
    (fun l => RaisesAt (moreConjuncts l) e) (RaisesAt comparison e)
    ?openParen ?ident ?literal ?disjunction ?or ?orEnd ?conjunction ?and ?andEnd ?comparison).2.1 ts
  case openParen =>
    intro rest ih
    refine .congr (.bind ih fun l mid _ => ?_) fun _ => run_operand_openParen
    exact bind (expect .closeParen) (fun _ => .pure l) e mid
  case ident =>
    intro s rest
    refine .congr ?_ fun _ => run_operand_ident
    exact bind columnRef (fun c => .pure (Expr.column c)) e (.ident s :: rest)
  case literal =>
    intro ts noParen noName
    exact (literal e ts).congr fun _ => run_operand_literal noParen noName
  case disjunction =>
    intro ts first others
    refine .congr (.bind first fun l mid ok => ?_) fun _ => run_disjunction
    exact others l mid (run_eq_ok.1 ok).1
  case or =>
    intro l rest first others
    refine .congr (.bind first fun right mid ok => ?_) fun _ => run_moreDisjuncts
    exact others right mid (run_eq_ok.1 ok).1
  case orEnd =>
    intro l ts other
    exact .of_ok fun _ => run_moreDisjuncts_of_starts (.of_ne other)
  case conjunction =>
    intro ts first others
    refine .congr (.bind first fun l mid ok => ?_) fun _ => run_conjunction
    exact others l mid (run_eq_ok.1 ok).1
  case and =>
    intro l rest first others
    refine .congr (.bind first fun right mid ok => ?_) fun _ => run_moreConjuncts
    exact others right mid (run_eq_ok.1 ok).1
  case andEnd =>
    intro l ts other
    exact .of_ok fun _ => run_moreConjuncts_of_starts (.of_ne other)
  case comparison =>
    intro ts left _ _ _ right
    exact comparisonAt left fun us shorter => right (.literal .null) [] .comma us shorter

theorem conditionAfter (k : Keyword) : Raises (conditionAfter? k) :=
  .bind (accept _) fun _ => .ite (.bind condition fun _ => .pure _) (.pure _)

/-! ### Clauses -/

theorem alias? : Raises alias? := by
  refine .bind (accept _) fun written => .ite (.bind name fun s => .pure _) ?_
  refine .bind (takeIf _) fun t? => ?_
  split
  · exact .pure _
  · exact .pure _

theorem selectExpr : Raises selectExpr := by
  refine .bind name fun first => .bind (accept _) fun called => .ite ?_ ?_
  · refine .bind ?_ fun f => .bind (accept _) fun star => .ite ?_ ?_
    · unfold aggregate
      split
      · exact .pure _
      · exact .fail _
    · refine .ite (.bind (fail _) fun _ => ?_) ?_
      · exact .bind (expect _) fun _ => .pure _
      · exact .bind (expect _) fun _ => .pure _
    · exact .bind columnRef fun c => .bind (expect _) fun _ => .pure _
  · exact .bind (columnRefFrom first) fun c => .pure _

theorem selectItem : Raises selectItem :=
  .bind selectExpr fun _ => .bind alias? fun _ => .pure _

theorem sortKey : Raises sortKey :=
  .bind selectExpr fun _ => .bind (accept _) fun _ =>
    .ite (.pure _) (.bind ((accept _).map _) fun _ => .pure _)

theorem limit? : Raises limit? := by
  refine .bind (accept _) fun found => .ite (.pure _) ?_
  refine .bind literal fun first => .bind (accept _) fun comma => .ite ?_ ?_
  · exact .bind literal fun count => .pure _
  · exact .bind (accept _) fun offset => .ite (.bind literal fun start => .pure _) (.pure _)

theorem itemsBy (k : Keyword) {item : Parser α} (each : Raises item) : Raises (itemsBy k item) :=
  .bind (accept _) fun _ => .ite (.bind (expect _) fun _ => items each) (.pure _)

theorem joinWords (start : Token) : Raises (joinWords start) := by
  unfold Parser.joinWords
  split
  · exact .pure ()
  · exact .pure ()
  · exact .bind ((accept _).map _) fun _ => expect _
  · exact .bind ((accept _).map _) fun _ => expect _
  · exact .bind ((accept _).map _) fun _ => expect _
  · exact expect _

theorem joinedTable (start : Token) (kind : JoinKind) : Raises (joinedTable start kind) := by
  refine .bind (joinWords start) fun _ => .bind tableName fun table => .bind alias? fun a => ?_
  refine .ite (.bind (pure _) fun on? => .pure _) ?_
  exact .bind (conditionAfter .on) fun on? => .pure _

theorem moreTables : Raises moreTables := by
  intro e ts
  induction ts using Parser.moreTables.induct none with
  | case1 e faulty => cases faulty
  | case2 _ =>
      right
      unfold run
      rw [Parser.moreTables]
      rfl
  | case3 t ts alone =>
      exact .of_ok fun _ =>
        run_moreTables_of_starts (.cons (Option.isNone_iff_eq_none.2 alone)) (by rintro ⟨⟩)
  | case4 t ts kind joins ih =>
      refine .congr (.bind (joinedTable t kind e ts) fun item mid first => ?_)
        fun _ => run_moreTables joins
      exact .bind (ih item mid (run_eq_ok.1 first).1) fun more mid _ => pure (item :: more) e mid

theorem fromTables : Raises fromTables :=
  .bind tableName fun _ => .bind alias? fun _ => .bind moreTables fun _ => .pure _

/-! ### Statements -/

theorem typeArgument : Raises typeArgument := by
  refine .bind next fun t => ?_
  split
  · exact .lift _
  · exact .fail _

theorem columnDecl : Raises columnDecl := by
  refine .bind name fun column => .bind name fun word => .bind names fun words => ?_
  refine .bind (accept _) fun given => .ite ?_ ?_
  · exact .bind (itemsToClose typeArgument) fun args => .pure _
  · exact .bind (pure _) fun args => .pure _

theorem createTable : Raises createTable :=
  .bind (expect _) fun _ => .bind (expect _) fun _ => .bind tableName fun _ =>
    .bind (expect _) fun _ => .bind (items columnDecl) fun _ => .bind (expect _) fun _ => .pure _

theorem dropTable : Raises dropTable := by
  refine .bind (expect _) fun _ => .bind (expect _) fun _ => .bind (accept _) fun ifExists => ?_
  refine .ite (.bind (expect _) fun _ => .bind tableName fun _ => .pure _) ?_
  exact .bind tableName fun _ => .pure _

theorem select : Raises select := by
  refine .bind (expect _) fun _ => .bind (accept _) fun star => ?_
  extract_lets clauses
  have raises (list : List SelectItem) : Raises (clauses list) := by
    refine .bind (expect _) fun _ => .bind fromTables fun tables => ?_
    refine .bind (conditionAfter .where) fun where? => ?_
    refine .bind (itemsBy .group columnRef) fun groupBy => ?_
    exact .bind (itemsBy .order sortKey) fun orderBy => .bind limit? fun limit? => .pure _
  exact .ite (.bind (pure []) raises) (.bind (items selectItem) raises)

theorem valueRow : Raises valueRow :=
  .bind (expect _) fun _ => itemsToClose literal

theorem insert : Raises insert := by
  refine .bind (expect _) fun _ => .bind (expect _) fun _ => .bind tableName fun table => ?_
  refine .bind (accept _) fun given => ?_
  extract_lets rest
  have raises (columns? : Option (List String)) : Raises (rest columns?) :=
    .bind (expect _) fun _ => .bind (items valueRow) fun rows => .pure _
  exact .ite (.bind ((itemsToClose name).map some) raises) (.bind (pure none) raises)

theorem assignment (done : Dict Expr) : Raises (assignment done) :=
  .bind name fun _ => .bind (expect _) fun _ => .bind literal fun _ => .ite (.fail _) (.pure _)

theorem moreAssignments (done : Dict Expr) : Raises (moreAssignments done) := by
  intro e ts
  induction done, ts using moreAssignments.induct with
  | case1 done ts ih =>
      refine .congr (.bind (assignment done e ts) fun d mid first => ?_)
        fun _ => run_moreAssignments done
      exact ih d mid (run_eq_ok.1 first).1
  | case2 done ts other =>
      exact .of_ok fun _ => run_moreAssignments_of_starts done (.of_ne other)

theorem update : Raises update :=
  .bind (expect _) fun _ => .bind tableName fun _ => .bind (expect _) fun _ =>
    .bind (assignment _) fun first => .bind (moreAssignments first) fun _ =>
      .bind (conditionAfter .where) fun _ => .pure _

theorem delete : Raises delete :=
  .bind (expect _) fun _ => .bind (expect _) fun _ => .bind fromTables fun _ =>
    .bind (conditionAfter .where) fun _ => .pure _

theorem statement : Raises statement := by
  refine .bind peek? fun t? => ?_
  split
  · exact createTable
  · exact dropTable
  · exact select
  · exact insert
  · exact update
  · exact delete
  all_goals exact .fail _

theorem wholeStatement : Raises wholeStatement := by
  refine .bind statement fun s => .bind ((accept _).map _) fun _ => .bind peek? fun t? => ?_
  split
  · exact .fail _
  · exact .pure s

end Raises

end Parser

end SqlStore.Sql
