import SqlStore.Proofs.Sql.Running

/-!
# Loops of the parser

Every repetition of the parser is a loop of rounds. A round after which the loop goes on leaves
fewer tokens than it found, so that the rounds are no more than the tokens.
-/

namespace SqlStore.Sql.Parser

variable {σ α β : Type} {fault : Option SyntaxError}

/-! ## Rounds -/

/-- The rounds of a loop: how many go on with another state, each at fewer tokens, and what the
round after them gives. -/
inductive Rounds (round : σ → Parser (σ ⊕ β)) (fault : Option SyntaxError) :
    Nat → σ → List Token → Except SyntaxError (β × List Token) → Prop
  | leaves {s ts b rest} (left : (round s).run fault ts = .ok (.inr b, rest)) :
      Rounds round fault 0 s ts (.ok (b, rest))
  | fails {s ts e} (failed : (round s).run fault ts = .error e) :
      Rounds round fault 0 s ts (.error e)
  | again {n s s' ts mid r} (passed : (round s).run fault ts = .ok (.inl s', mid))
      (fewer : mid.length < ts.length) (others : Rounds round fault n s' mid r) :
      Rounds round fault (n + 1) s ts r

def LoopOf (round : σ → Parser (σ ⊕ β)) (loop : σ → Parser β) : Prop :=
  ∀ fault s ts, ∃ n ≤ ts.length, Rounds round fault n s ts ((loop s).run fault ts)

theorem LoopOf.of_rounds {round : σ → Parser (σ ⊕ β)} {loop : σ → Parser β}
    (fewer : ∀ fault s s' ts mid, (round s).run fault ts = .ok (.inl s', mid) →
      mid.length < ts.length)
    (eq : ∀ fault s ts, (loop s).run fault ts =
      (round s >>= Sum.elim loop pure).run fault ts) : LoopOf round loop := by
  intro fault s ts
  induction size : ts.length using Nat.strongRecOn generalizing s ts with
  | ind size' ih =>
      subst size
      rw [eq, run_bind]
      cases passed : (round s).run fault ts with
      | error e => exact ⟨0, Nat.zero_le _, .fails passed⟩
      | ok r =>
          obtain ⟨s' | b, mid⟩ := r
          · have shorter := fewer fault s s' ts mid passed
            obtain ⟨n, le, others⟩ := ih mid.length shorter s' mid rfl
            exact ⟨n + 1, Nat.lt_of_le_of_lt le shorter, .again passed shorter others⟩
          · exact ⟨0, Nat.zero_le _, .leaves passed⟩

theorem length_le_of_run {p : Parser α} {a : α} {ts rest : List Token}
    (ok : p.run fault ts = .ok (a, rest)) : rest.length ≤ ts.length :=
  (run_eq_ok.1 ok).1

/-! ## Loops that go on after a token -/

theorem starts_or_cons (t : Token) (ts : List Token) : Starts (· ≠ t) ts ∨ ∃ us, ts = t :: us := by
  rcases ts with _ | ⟨u, us⟩
  · exact .inl .nil
  · by_cases same : u = t
    · exact .inr ⟨us, by rw [same]⟩
    · exact .inl (.cons (decide_eq_true same))

def roundAfter (t : Token) (body : σ → Parser σ) (s : σ) : Parser (σ ⊕ σ) := do
  if ← accept t then return .inl (← body s) else return .inr s

theorem LoopOf.after {t : Token} {body : σ → Parser σ} {loop : σ → Parser σ}
    (again : ∀ fault s ts, (loop s).run fault (t :: ts) = (body s >>= loop).run fault ts)
    (stop : ∀ fault s ts, Starts (· ≠ t) ts → (loop s).run fault ts = .ok (s, ts)) :
    LoopOf (roundAfter t body) loop := by
  have taken (fault s ts) :
      (roundAfter t body s).run fault (t :: ts) = (Sum.inl <$> body s).run fault ts :=
    run_bind_of_ok (run_accept t)
  have left {ts} (fault s) (starts : Starts (· ≠ t) ts) :
      (roundAfter t body s).run fault ts = .ok (.inr s, ts) :=
    run_bind_of_ok (run_accept_of_starts starts)
  refine .of_rounds (fun fault s s' ts mid passed => ?_) fun fault s ts => ?_
  · rcases starts_or_cons t ts with starts | ⟨us, rfl⟩
    · cases (left fault s starts).symm.trans passed
    · rw [taken] at passed
      exact Nat.lt_succ_of_le (length_le_of_run passed)
  · rw [run_bind]
    rcases starts_or_cons t ts with starts | ⟨us, rfl⟩
    · rw [stop fault s ts starts, left fault s starts]
      rfl
    · rw [again, taken, run_map, run_bind]
      cases (body s).run fault us <;> rfl

/-! ## Loops that collect -/

def collecting (piece : Parser (List α × Bool)) (done : List α) : Parser (List α ⊕ List α) :=
  (fun (taken, goesOn) => if goesOn then .inl (done ++ taken) else .inr (done ++ taken)) <$> piece

def Collects (piece : Parser (List α × Bool)) (more : Parser (List α)) : Prop :=
  LoopOf (collecting piece) fun done => (done ++ ·) <$> more

theorem Collects.of_rounds {piece : Parser (List α × Bool)} {more : Parser (List α)}
    (fewer : ∀ fault as ts mid, piece.run fault ts = .ok ((as, true), mid) →
      mid.length < ts.length)
    (eq : ∀ fault ts, more.run fault ts = (piece >>= fun (taken, goesOn) =>
      if goesOn then (taken ++ ·) <$> more else pure taken).run fault ts) :
    Collects piece more := by
  refine LoopOf.of_rounds (fun fault done done' ts mid passed => ?_) fun fault done ts => ?_
  · rw [collecting, run_map] at passed
    obtain ⟨⟨⟨taken, goesOn⟩, mid⟩, first, same⟩ := map_eq_ok.1 passed
    cases goesOn with
    | true =>
        cases same
        exact fewer fault taken ts _ first
    | false => cases same
  · rw [run_map, eq, run_bind, run_bind, collecting, run_map]
    rcases piece.run fault ts with e | ⟨⟨taken, goesOn⟩, mid⟩
    · rfl
    · cases goesOn with
      | true =>
          change Except.map _ (((taken ++ ·) <$> more).run fault mid) =
            ((done ++ taken ++ ·) <$> more).run fault mid
          rw [run_map, run_map]
          cases more.run fault mid with
          | error e => rfl
          | ok r => simp [Except.map]
      | false => rfl

def itemAfter (t : Token) (item : Parser α) : Parser (List α × Bool) := do
  if ← accept t then return ([← item], true) else return ([], false)

theorem Collects.after {t : Token} {item : Parser α} {more : Parser (List α)}
    (again : ∀ fault ts, more.run fault (t :: ts) =
      (item >>= fun a => more >>= fun as => pure (a :: as)).run fault ts)
    (stop : ∀ fault ts, Starts (· ≠ t) ts → more.run fault ts = .ok ([], ts)) :
    Collects (itemAfter t item) more := by
  have taken (fault ts) : (itemAfter t item).run fault (t :: ts) =
      ((fun a => ([a], true)) <$> item).run fault ts :=
    run_bind_of_ok (run_accept t)
  have left {ts} (fault) (starts : Starts (· ≠ t) ts) :
      (itemAfter t item).run fault ts = .ok (([], false), ts) :=
    run_bind_of_ok (run_accept_of_starts starts)
  refine .of_rounds (fun fault as ts mid passed => ?_) fun fault ts => ?_
  · rcases starts_or_cons t ts with starts | ⟨us, rfl⟩
    · cases (left fault starts).symm.trans passed
    · rw [taken] at passed
      exact Nat.lt_succ_of_le (length_le_of_run passed)
  · rw [run_bind]
    rcases starts_or_cons t ts with starts | ⟨us, rfl⟩
    · rw [stop fault ts starts, left fault starts]
      rfl
    · rw [again, taken, run_map, run_bind]
      cases item.run fault us <;> rfl

def itemToClose (item : Parser α) : Parser (List α × Bool) := do
  let a ← item
  let t ← next
  if t = .closeParen then return ([a], false)
  else if t = .comma then return ([a], true)
  else fail (.unexpectedToken t)

theorem Collects.toClose {item : Parser α} {more : Parser (List α)}
    (eq : ∀ fault ts, more.run fault ts = (item >>= fun a => next >>= fun t =>
      if t = .closeParen then pure [a]
      else if t = .comma then more >>= fun as => pure (a :: as)
      else fail (.unexpectedToken t)).run fault ts) :
    Collects (itemToClose item) more := by
  refine .of_rounds (fun fault as ts mid passed => ?_) fun fault ts => ?_
  · obtain ⟨a, us, first, passed⟩ := run_bind_eq_ok.1 passed
    obtain ⟨t, vs, took, passed⟩ := run_bind_eq_ok.1 passed
    have le := length_le_of_run first
    rw [run_next_eq_ok.1 took] at le
    have same : mid = vs := by
      split at passed
      · cases passed
      · split at passed
        · cases passed
          rfl
        · cases passed
    rw [same]
    exact Nat.lt_of_succ_le le
  · rw [eq, itemToClose, run_bind, run_bind, run_bind]
    rcases item.run fault ts with e | ⟨a, us⟩
    · rfl
    · change Parser.run (next >>= _) fault us = (Parser.run (next >>= _) fault us >>= _)
      rw [run_bind, run_bind]
      rcases next.run fault us with e | ⟨t, vs⟩
      · rfl
      · by_cases close : t = .closeParen
        · subst t
          rfl
        · by_cases comma : t = .comma
          · subst t
            rfl
          · change Parser.run (ite (t = .closeParen) _ _) fault vs =
              (Parser.run (ite (t = .closeParen) _ _) fault vs >>= _)
            rw [if_neg close, if_neg close, if_neg comma, if_neg comma]
            rfl

def wordPiece : Parser (List String × Bool) := do
  match ← takeIf? (· matches .ident _) with
  | some (.ident s) => return ([s], true)
  | _ => return ([], false)

theorem run_names {s : String} {ts : List Token} :
    run names fault (.ident s :: ts) =
      run (bind (m := Parser) names fun more => pure (s :: more)) fault ts := by
  refine .trans ?_ (run_bind _ _).symm
  unfold run
  rw [names]
  cases names fault ts <;> rfl

def tablePiece : Parser (List FromItem × Bool) := do
  match ← peek? with
  | none => return ([], false)
  | some t => match joinKind? t with
    | none => return ([], false)
    | some kind =>
      discard next
      return ([← joinedTable t kind], true)

theorem endsWords_or_cons (ts : List Token) :
    Starts endsWords ts ∨ ∃ s us, ts = .ident s :: us := by
  rcases ts with _ | ⟨t, us⟩
  · exact .inl .nil
  · cases t with
    | ident s => exact .inr ⟨s, us, rfl⟩
    | _ => exact .inl (.cons rfl)

theorem collects_names : Collects wordPiece names := by
  have taken (fault s ts) : wordPiece.run fault (.ident s :: ts) = .ok (([s], true), ts) := rfl
  have left {ts} (fault) (starts : Starts endsWords ts) :
      wordPiece.run fault ts = .ok (([], false), ts) :=
    run_bind_of_ok (run_takeIf_of_starts starts)
  refine .of_rounds (fun fault as ts mid passed => ?_) fun fault ts => ?_
  · rcases endsWords_or_cons ts with starts | ⟨s, us, rfl⟩
    · cases (left fault starts).symm.trans passed
    · cases (taken fault s us).symm.trans passed
      exact Nat.lt_succ_self _
  · rw [run_bind]
    rcases endsWords_or_cons ts with starts | ⟨s, us, rfl⟩
    · rw [run_names_of_starts starts, left fault starts]
      rfl
    · rw [run_names, taken]
      rfl

theorem run_peek_cons (t : Token) (ts : List Token) :
    peek?.run fault (t :: ts) = .ok (some t, t :: ts) := by
  cases fault <;> rfl

theorem run_discard_next (t : Token) (ts : List Token) :
    (discard next).run fault (t :: ts) = .ok ((), ts) := rfl

theorem collects_moreTables : Collects tablePiece moreTables := by
  have taken {t kind} (fault ts) (joins : joinKind? t = some kind) :
      tablePiece.run fault (t :: ts) =
        ((fun item => ([item], true)) <$> joinedTable t kind).run fault ts := by
    refine (run_bind_of_ok (run_peek_cons t ts)).trans ?_
    simp only [joins]
    exact run_bind_of_ok (run_discard_next t ts)
  have left {t} (fault ts) (ends : joinKind? t = none) :
      tablePiece.run fault (t :: ts) = .ok (([], false), t :: ts) := by
    refine (run_bind_of_ok (run_peek_cons t ts)).trans ?_
    simp only [ends]
    rfl
  refine .of_rounds (fun fault as ts mid passed => ?_) fun fault ts => ?_
  · rcases ts with _ | ⟨t, ts⟩
    · cases fault <;> cases passed
    · cases joins : joinKind? t with
      | none => cases (left fault ts joins).symm.trans passed
      | some kind =>
          rw [taken fault ts joins] at passed
          exact Nat.lt_succ_of_le (length_le_of_run passed)
  · rw [run_bind]
    rcases ts with _ | ⟨t, ts⟩
    · unfold run
      cases fault <;> rw [moreTables] <;> rfl
    · cases joins : joinKind? t with
      | none =>
          have starts : Starts (fun u => (joinKind? u).isNone) (t :: ts) :=
            .cons (Option.isNone_iff_eq_none.2 joins)
          rw [run_moreTables_of_starts starts (by rintro ⟨⟩), left fault ts joins]
          rfl
      | some kind =>
          rw [run_moreTables joins, taken fault ts joins, run_map, run_bind]
          cases (joinedTable t kind).run fault ts <;> rfl

/-! ## Loops that join conditions -/

def joinedBy (op : BinaryOp) (operand : Parser Expr) (l : Expr) : Parser Expr :=
  .binary op l <$> operand

theorem LoopOf.joins {t : Token} {op : BinaryOp} {operand : Parser Expr} {more : Expr → Parser Expr}
    (again : ∀ fault l ts, (more l).run fault (t :: ts) =
      (operand >>= fun r => more (.binary op l r)).run fault ts)
    (stop : ∀ fault l ts, Starts (· ≠ t) ts → (more l).run fault ts = .ok (l, ts)) :
    LoopOf (roundAfter t (joinedBy op operand)) more := by
  refine .after (fun fault l ts => ?_) stop
  rw [again, run_bind, run_bind, joinedBy, run_map]
  cases operand.run fault ts <;> rfl

/-! ## Every loop of the parser -/

/-- The loops of the parser, each with its rounds. -/
structure LoopsTakeTokens : Prop where
  items : ∀ {α : Type} (item : Parser α), Collects (itemAfter .comma item) (moreItems item)
  closed : ∀ {α : Type} (item : Parser α), Collects (itemToClose item) (itemsToClose item)
  words : Collects wordPiece names
  qualified : Collects (itemAfter .period name) dottedNames
  tables : Collects tablePiece moreTables
  conjuncts : LoopOf (roundAfter (.keyword .and) (joinedBy .and comparison)) moreConjuncts
  disjuncts : LoopOf (roundAfter (.keyword .or) (joinedBy .or conjunction)) moreDisjuncts
  assignments : LoopOf (roundAfter .comma assignment) moreAssignments

theorem loopsTakeTokens : LoopsTakeTokens where
  items item := .after (fun _ _ => run_moreItems item) fun _ _ => run_moreItems_of_starts item
  closed item := .toClose fun _ _ => run_itemsToClose item
  words := collects_names
  qualified := .after (fun _ _ => run_dottedNames) fun _ _ => run_dottedNames_of_starts
  tables := collects_moreTables
  conjuncts := .joins (fun _ _ _ => run_moreConjuncts) fun _ _ _ => run_moreConjuncts_of_starts
  disjuncts := .joins (fun _ _ _ => run_moreDisjuncts) fun _ _ _ => run_moreDisjuncts_of_starts
  assignments := .after (fun _ done _ => run_moreAssignments done) fun _ done _ =>
    run_moreAssignments_of_starts done

end SqlStore.Sql.Parser
