import SqlStore.Sql.Parser.Statement
import SqlStore.Proofs.Except

namespace SqlStore.Sql

def Starts (P : Token → Bool) (ts : List Token) : Prop :=
  ∀ t ∈ ts.head?, P t

namespace Starts

variable {P Q : Token → Bool} {ts : List Token}

theorem nil : Starts P [] := by
  rintro t ⟨⟩

theorem cons {t : Token} (holds : P t) : Starts P (t :: ts) := by
  rintro t' ⟨⟩
  exact holds

theorem mono (imp : ∀ t, P t → Q t) (starts : Starts P ts) : Starts Q ts :=
  fun t mem => imp t (starts t mem)

theorem head {t : Token} (starts : Starts P (t :: ts)) : P t :=
  starts t rfl

theorem and_left (starts : Starts (fun t => P t && Q t) ts) : Starts P ts :=
  starts.mono fun _ both => (Bool.and_eq_true_iff.1 both).1

theorem and_right (starts : Starts (fun t => P t && Q t) ts) : Starts Q ts :=
  starts.mono fun _ both => (Bool.and_eq_true_iff.1 both).2

theorem ne {t : Token} (starts : Starts P ts) (other : P t = false) : Starts (· ≠ t) ts := by
  refine starts.mono fun u holds => decide_eq_true ?_
  rintro rfl
  rw [other] at holds
  cases holds

theorem of_ne {t : Token} (other : ∀ rest, ts = t :: rest → False) : Starts (· ≠ t) ts := by
  cases ts with
  | nil => exact nil
  | cons u ts =>
      refine cons (decide_eq_true ?_)
      rintro rfl
      exact other ts rfl

end Starts

namespace Parser

/-! ## What can not follow -/

def endsWords (t : Token) : Bool :=
  !t matches .ident _

def endsType (t : Token) : Bool :=
  !t matches .ident _ | .openParen

def endsReference (t : Token) : Bool :=
  !t matches .period | .openParen

/-! ## Results -/

variable {α β : Type} {fault : Option SyntaxError} {ts mid rest : List Token}

def run (p : Parser α) (fault : Option SyntaxError) (ts : List Token) :
    Except SyntaxError (α × List Token) :=
  (p fault ts).map (·.1)

theorem run_eq_ok {p : Parser α} {a : α} :
    p.run fault ts = .ok (a, rest) ↔ ∃ le, p fault ts = .ok ⟨(a, rest), le⟩ := by
  unfold run
  cases p fault ts with
  | error e =>
      constructor
      · rintro ⟨⟩
      · rintro ⟨_, ⟨⟩⟩
  | ok r =>
      obtain ⟨⟨a', rest'⟩, le⟩ := r
      constructor
      · rintro ⟨⟩
        exact ⟨le, rfl⟩
      · rintro ⟨_, ⟨⟩⟩
        rfl

theorem run_pure (a : α) : (pure a : Parser α).run fault ts = .ok (a, ts) := rfl

theorem run_lift (x : Except SyntaxError α) :
    (lift x).run fault ts = x.map fun a => (a, ts) := by
  cases x <;> rfl

theorem run_bind (p : Parser α) (f : α → Parser β) :
    (p >>= f).run fault ts = p.run fault ts >>= fun r => (f r.1).run fault r.2 := by
  unfold run
  cases first : p fault ts with
  | error e =>
      change Except.map _ (p fault ts >>= _) = _
      rw [first]
      rfl
  | ok r =>
      obtain ⟨⟨a, mid⟩, le⟩ := r
      change Except.map _ (p fault ts >>= _) = Except.map _ (f a fault mid)
      rw [first]
      change Except.map _ (f a fault mid >>= _) = _
      cases f a fault mid <;> rfl

theorem run_bind_eq_ok {p : Parser α} {f : α → Parser β} {b : β} :
    (p >>= f).run fault ts = .ok (b, rest) ↔
      ∃ a mid, p.run fault ts = .ok (a, mid) ∧ (f a).run fault mid = .ok (b, rest) := by
  rw [run_bind, bind_eq_ok]
  constructor
  · rintro ⟨⟨a, mid⟩, first, last⟩
    exact ⟨a, mid, first, last⟩
  · rintro ⟨a, mid, first, last⟩
    exact ⟨(a, mid), first, last⟩

theorem run_bind_of_ok {p : Parser α} {f : α → Parser β} {a : α}
    (first : p.run fault ts = .ok (a, mid)) :
    (p >>= f).run fault ts = (f a).run fault mid := by
  rw [run_bind, first]
  rfl

theorem run_map (g : α → β) (p : Parser α) :
    (g <$> p).run fault ts = (p.run fault ts).map fun r => (g r.1, r.2) := by
  have eq : g <$> p = p >>= fun a => pure (g a) := rfl
  rw [eq, run_bind]
  cases p.run fault ts <;> rfl

theorem run_discard (p : Parser α) :
    (discard p).run fault ts = (p.run fault ts).map fun r => ((), r.2) :=
  run_map (fun _ => ()) p

/-! ## Single tokens -/

theorem run_next_eq_ok {t : Token} :
    next.run fault ts = .ok (t, rest) ↔ ts = t :: rest := by
  cases ts with
  | nil =>
      constructor
      · rintro ⟨⟩
      · rintro ⟨⟩
  | cons u ts =>
      constructor
      · rintro ⟨⟩
        rfl
      · rintro ⟨⟩
        rfl

theorem run_next (t : Token) : next.run fault (t :: ts) = .ok (t, ts) := rfl

theorem run_accept (t : Token) : (accept t).run fault (t :: ts) = .ok (true, ts) := by
  have taken : (takeIf? (· == t)).run fault (t :: ts) = .ok (some t, ts) := by
    simp [takeIf?, run, Except.map]
  exact run_bind_of_ok taken

theorem run_takeIf_of_starts {p : Token → Bool} (starts : Starts (fun t => !p t) ts) :
    (takeIf? p).run fault ts = .ok (none, ts) := by
  cases ts with
  | nil => rfl
  | cons u ts =>
      have no : p u = false := by simpa using starts.head
      simp [takeIf?, run, Except.map, no]

theorem run_accept_of_starts {t : Token} (starts : Starts (· ≠ t) ts) :
    (accept t).run fault ts = .ok (false, ts) := by
  have other : Starts (fun u => !(u == t)) ts := starts.mono fun u ne => by simpa using ne
  exact run_bind_of_ok (run_takeIf_of_starts other)

theorem run_expect (t : Token) : (expect t).run fault (t :: ts) = .ok ((), ts) := by
  refine (run_bind_of_ok (run_next t)).trans ?_
  rw [if_pos rfl]
  rfl

theorem run_name (s : String) : name.run fault (.ident s :: ts) = .ok (s, ts) := rfl

/-! ## Repetition -/

theorem run_moreItems (item : Parser α) :
    run (moreItems item) fault (.comma :: ts) =
      run (item >>= fun a => bind (m := Parser) (moreItems item) fun as => pure (a :: as))
        fault ts := by
  refine .trans ?_ (run_bind _ _).symm
  unfold run
  rw [moreItems]
  rcases item fault ts with e | ⟨⟨a, mid⟩, le⟩
  · rfl
  · change Except.map _ (moreItems item fault mid >>= _) =
      Except.map _ (moreItems item fault mid >>= _)
    cases moreItems item fault mid <;> rfl

theorem run_moreItems_of_starts (item : Parser α) (starts : Starts (· ≠ .comma) ts) :
    run (moreItems item) fault ts = .ok ([], ts) := by
  refine run_eq_ok.2 ⟨Nat.le_refl _, ?_⟩
  rw [moreItems]
  rintro rest rfl
  exact absurd starts.head (by decide)

theorem run_itemsToClose (item : Parser α) :
    run (itemsToClose item) fault ts =
      run (item >>= fun a => next >>= fun t =>
        if t = .closeParen then pure [a]
        else if t = .comma then
          bind (m := Parser) (itemsToClose item) fun as => pure (a :: as)
        else fail (.unexpectedToken t)) fault ts := by
  refine .trans ?_ (run_bind _ _).symm
  unfold run
  rw [itemsToClose]
  rcases item fault ts with e | ⟨⟨a, mid⟩, le⟩
  · rfl
  · cases mid with
    | nil => rfl
    | cons t mid =>
        cases t with
        | comma =>
            change Except.map _ (itemsToClose item fault mid >>= _) =
              Except.map _ (Except.bind (Except.bind (itemsToClose item fault mid) _) _)
            cases itemsToClose item fault mid <;> rfl
        | _ => rfl

theorem run_names_of_starts (starts : Starts endsWords ts) :
    run names fault ts = .ok ([], ts) := by
  refine run_eq_ok.2 ⟨Nat.le_refl _, ?_⟩
  rw [names]
  rintro s rest rfl
  cases starts.head

theorem run_dottedNames :
    run dottedNames fault (.period :: ts) =
      run (name >>= fun s => bind (m := Parser) dottedNames fun more => pure (s :: more))
        fault ts := by
  refine .trans ?_ (run_bind _ _).symm
  unfold run
  rw [dottedNames]
  rcases name fault ts with e | ⟨⟨s, mid⟩, le⟩
  · rfl
  · change Except.map _ (dottedNames fault mid >>= _) = Except.map _ (dottedNames fault mid >>= _)
    cases dottedNames fault mid <;> rfl

theorem run_dottedNames_of_starts (starts : Starts (· ≠ .period) ts) :
    run dottedNames fault ts = .ok ([], ts) := by
  refine run_eq_ok.2 ⟨Nat.le_refl _, ?_⟩
  rw [dottedNames]
  rintro rest rfl
  exact absurd starts.head (by decide)

/-! ## Conditions -/

variable {l : Expr}

theorem run_operand_openParen :
    run operand fault (.openParen :: ts) =
      run (bind (m := Parser) disjunction fun e => do
        expect .closeParen
        return e) fault ts := by
  refine .trans ?_ (run_bind _ _).symm
  unfold run
  rw [operand]
  rcases disjunction fault ts with e | ⟨⟨e, mid⟩, le⟩
  · rfl
  · change Except.map _ (expect .closeParen fault mid >>= _) =
      Except.map _ (expect .closeParen fault mid >>= _)
    cases expect .closeParen fault mid <;> rfl

theorem run_operand_ident {s : String} :
    run operand fault (.ident s :: ts) =
      run (do return .column (← columnRef)) fault (.ident s :: ts) := by
  refine .trans ?_ (run_bind _ _).symm
  unfold run
  rw [operand]
  cases columnRef fault (.ident s :: ts) <;> rfl

theorem run_operand_literal (noParen : ∀ rest, ts = .openParen :: rest → False)
    (noName : ∀ s rest, ts = .ident s :: rest → False) :
    run operand fault ts = literal.run fault ts := by
  unfold run
  rw [operand]
  · exact noParen
  · exact noName

theorem run_conjunction :
    run conjunction fault ts = run (bind (m := Parser) comparison moreConjuncts) fault ts := by
  unfold run
  rw [conjunction]
  rfl

theorem run_moreConjuncts :
    run (moreConjuncts l) fault (.keyword .and :: ts) =
      run (bind (m := Parser) comparison fun r => moreConjuncts (.binary .and l r)) fault ts := by
  refine .trans ?_ (run_bind _ _).symm
  unfold run
  rw [moreConjuncts]
  rcases comparison fault ts with e | ⟨⟨r, mid⟩, le⟩
  · rfl
  · change Except.map _ (moreConjuncts (.binary .and l r) fault mid >>= _) = Except.map _ _
    cases moreConjuncts (.binary .and l r) fault mid <;> rfl

theorem run_moreConjuncts_of_starts (starts : Starts (· ≠ .keyword .and) ts) :
    run (moreConjuncts l) fault ts = .ok (l, ts) := by
  refine run_eq_ok.2 ⟨Nat.le_refl _, ?_⟩
  rw [moreConjuncts]
  rintro rest rfl
  exact absurd starts.head (by decide)

theorem run_disjunction :
    run disjunction fault ts = run (bind (m := Parser) conjunction moreDisjuncts) fault ts := by
  unfold run
  rw [disjunction]
  rfl

theorem run_moreDisjuncts :
    run (moreDisjuncts l) fault (.keyword .or :: ts) =
      run (bind (m := Parser) conjunction fun r => moreDisjuncts (.binary .or l r)) fault ts := by
  refine .trans ?_ (run_bind _ _).symm
  unfold run
  rw [moreDisjuncts]
  rcases conjunction fault ts with e | ⟨⟨r, mid⟩, le⟩
  · rfl
  · change Except.map _ (moreDisjuncts (.binary .or l r) fault mid >>= _) = Except.map _ _
    cases moreDisjuncts (.binary .or l r) fault mid <;> rfl

theorem run_moreDisjuncts_of_starts (starts : Starts (· ≠ .keyword .or) ts) :
    run (moreDisjuncts l) fault ts = .ok (l, ts) := by
  refine run_eq_ok.2 ⟨Nat.le_refl _, ?_⟩
  rw [moreDisjuncts]
  rintro rest rfl
  exact absurd starts.head (by decide)

/-! ## Tables and assignments -/

theorem run_moreTables {t : Token} {kind : JoinKind} (joins : joinKind? t = some kind) :
    run moreTables fault (t :: ts) =
      run (joinedTable t kind >>= fun item =>
        bind (m := Parser) moreTables fun more => pure (item :: more)) fault ts := by
  refine .trans ?_ (run_bind _ _).symm
  unfold run
  rw [moreTables, joins]
  rcases eq : joinedTable t kind fault ts with e | ⟨⟨item, mid⟩, le⟩
  · simp only
    rw [eq]
    rfl
  · simp only
    rw [eq]
    change Except.map _ (moreTables fault mid >>= _) = Except.map _ (moreTables fault mid >>= _)
    cases moreTables fault mid <;> rfl

theorem run_moreTables_of_starts (starts : Starts (fun t => (joinKind? t).isNone) ts)
    (noFault : ts = [] → fault = none) : run moreTables fault ts = .ok ([], ts) := by
  refine run_eq_ok.2 ⟨Nat.le_refl _, ?_⟩
  cases ts with
  | nil => rw [noFault rfl, moreTables]
  | cons t ts => rw [moreTables, Option.isNone_iff_eq_none.1 starts.head]

theorem run_moreAssignments (done : Dict Expr) :
    run (moreAssignments done) fault (.comma :: ts) =
      run (bind (m := Parser) (assignment done) moreAssignments) fault ts := by
  refine .trans ?_ (run_bind _ _).symm
  unfold run
  rw [moreAssignments]
  rcases assignment done fault ts with e | ⟨⟨d, mid⟩, le⟩
  · rfl
  · change Except.map _ (moreAssignments d fault mid >>= _) = Except.map _ _
    cases moreAssignments d fault mid <;> rfl

theorem run_moreAssignments_of_starts (done : Dict Expr) (starts : Starts (· ≠ .comma) ts) :
    run (moreAssignments done) fault ts = .ok (done, ts) := by
  refine run_eq_ok.2 ⟨Nat.le_refl _, ?_⟩
  rw [moreAssignments]
  rintro rest rfl
  exact absurd starts.head (by decide)

end Parser

end SqlStore.Sql
