import SqlStore.Proofs.Sql.Running

namespace SqlStore.Sql

/-! ## The shape of statements -/

def Expr.isLiteral : Expr → Bool
  | .literal _ => true
  | _ => false

def Expr.isSelectable : Expr → Bool
  | .column _ | .call _ (some _) | .call .count none => true
  | _ => false

def Expr.noCall : Expr → Bool
  | .call _ _ => false
  | .binary _ l r => l.noCall && r.noCall
  | _ => true

def WritableTables : List FromItem → Prop
  | [] => False
  | first :: more =>
    first.join? = none ∧ ∀ t ∈ more, ∃ j, t.join? = some j ∧ ∀ e ∈ j.on?, e.noCall

structure Select.Writable (s : Select) : Prop where
  items : ∀ item ∈ s.items, item.1.isSelectable
  tables : WritableTables s.tables
  where? : ∀ e ∈ s.where?, e.noCall
  orderBy : ∀ key ∈ s.orderBy, key.1.isSelectable
  limit? : ∀ arguments ∈ s.limit?, arguments.length = 2 ∧ ∀ e ∈ arguments, e.isLiteral

def WritableAssignments (d : Dict Expr) : Prop :=
  d.entries ≠ [] ∧ ∀ a ∈ d.entries, a.2.isLiteral

def Statement.Writable : Statement → Prop
  | .createTable _ columns => columns ≠ []
  | .dropTable _ _ => True
  | .insert _ columns? rows =>
    columns? ≠ some [] ∧ rows ≠ [] ∧ ∀ row ∈ rows, row ≠ [] ∧ ∀ e ∈ row, e.isLiteral
  | .select s => s.Writable
  | .update _ assignments where? =>
    WritableAssignments assignments ∧ ∀ e ∈ where?, e.noCall
  | .delete tables where? => WritableTables tables ∧ ∀ e ∈ where?, e.noCall

/-! ## What a parser ensures -/

namespace Parser

def Ensures {α : Type} (P : α → Prop) (p : Parser α) : Prop :=
  ∀ ⦃fault ts a rest⦄, p.run fault ts = .ok (a, rest) → P a

namespace Ensures

variable {α β : Type} {P Q : α → Prop} {R : β → Prop}

theorem trivial (p : Parser α) : Ensures (fun _ => True) p :=
  fun _ _ _ _ _ => True.intro

theorem mono {p : Parser α} (all : Ensures P p) (imp : ∀ a, P a → Q a) : Ensures Q p :=
  fun _ _ a _ ok => imp a (all ok)

theorem pure {a : α} (holds : P a) : Ensures P (pure a : Parser α) := by
  rintro fault ts a' rest ⟨⟩
  exact holds

theorem fail (e : SyntaxError) : Ensures P (fail e) := by
  rintro fault ts a rest ⟨⟩

theorem bind {p : Parser α} {f : α → Parser β} (first : Ensures P p)
    (last : ∀ a, P a → Ensures R (f a)) : Ensures R (p >>= f) := by
  intro fault ts b rest ok
  obtain ⟨a, mid, ok₁, ok₂⟩ := run_bind_eq_ok.1 ok
  exact last a (first ok₁) ok₂

theorem after {p : Parser α} {f : α → Parser β} (last : ∀ a, Ensures R (f a)) :
    Ensures R (p >>= f) :=
  (trivial p).bind fun a _ => last a

theorem map {p : Parser α} {g : α → β} (all : Ensures (fun a => R (g a)) p) :
    Ensures R (g <$> p) :=
  all.bind fun _ holds => .pure holds

theorem ite {c : Prop} [Decidable c] {p q : Parser α} (yes : c → Ensures P p)
    (no : ¬ c → Ensures P q) : Ensures P (if c then p else q) := by
  by_cases holds : c
  · rw [if_pos holds]
    exact yes holds
  · rw [if_neg holds]
    exact no holds

/-! ### Lists -/

theorem moreItems {item : Parser α} (each : Ensures P item) :
    Ensures (fun as => ∀ a ∈ as, P a) (moreItems item) := by
  intro fault ts
  -- By the recursion of the repetition, which goes on after each comma.
  induction ts using @moreItems.induct α with
  | case1 ts ih =>
      intro as rest ok
      obtain ⟨a, mid, first, ok⟩ := run_bind_eq_ok.1 ((run_moreItems item).symm.trans ok)
      obtain ⟨more, mid', others, ok⟩ := run_bind_eq_ok.1 ok
      cases ok
      obtain ⟨le, -⟩ := run_eq_ok.1 first
      exact List.forall_mem_cons.2 ⟨each first, ih a mid le others⟩
  | case2 ts other =>
      intro as rest ok
      cases (run_moreItems_of_starts item (.of_ne other)).symm.trans ok
      rintro a ⟨⟩

theorem items {item : Parser α} (each : Ensures P item) :
    Ensures (fun as => as ≠ [] ∧ ∀ a ∈ as, P a) (items item) :=
  each.bind fun _ first => (moreItems each).bind fun _ more =>
    .pure ⟨List.cons_ne_nil _ _, List.forall_mem_cons.2 ⟨first, more⟩⟩

theorem itemsToClose {item : Parser α} (each : Ensures P item) :
    Ensures (fun as => as ≠ [] ∧ ∀ a ∈ as, P a) (itemsToClose item) := by
  intro fault ts
  induction ts using @itemsToClose.induct α with
  | case1 ts ih =>
      intro as rest ok
      obtain ⟨a, mid, first, ok⟩ := run_bind_eq_ok.1 ((run_itemsToClose item).symm.trans ok)
      obtain ⟨t, mid', took, last⟩ := run_bind_eq_ok.1 ok
      obtain rfl := run_next_eq_ok.1 took
      split at last
      · cases last
        exact ⟨List.cons_ne_nil _ _, List.forall_mem_singleton.2 (each first)⟩
      · split at last
        · subst t
          obtain ⟨more, _, others, last⟩ := run_bind_eq_ok.1 last
          cases last
          obtain ⟨le, -⟩ := run_eq_ok.1 first
          exact ⟨List.cons_ne_nil _ _,
            List.forall_mem_cons.2 ⟨each first, (ih a mid' le others).2⟩⟩
        · cases last

end Ensures

/-! ## Expressions -/

theorem literal_ensures : Ensures (fun e => e.isLiteral) literal := by
  refine .after fun t => ?_
  split
  · exact .after fun l => .pure rfl
  · refine .after fun t => ?_
    split
    · exact .after fun l => .pure rfl
    · exact .fail _
  · exact .pure rfl
  · exact .pure rfl
  · exact .pure rfl
  · exact .pure rfl
  · exact .fail _

theorem noCall_of_isLiteral {e : Expr} (isLiteral : e.isLiteral) : e.noCall := by
  cases e with
  | literal l => rfl
  | _ => cases isLiteral

theorem condition_ensures : Ensures (fun e => e.noCall) condition := by
  intro fault ts
  let Good (p : Parser Expr) (ts : List Token) : Prop :=
    ∀ ⦃e rest⦄, p.run fault ts = .ok (e, rest) → e.noCall
  -- By the recursion of the six parsers; the operands joined so far are an argument of two.
  refine (operand.mutual_induct (Good operand) (Good disjunction)
    (fun l ts => l.noCall → Good (moreDisjuncts l) ts) (Good conjunction)
    (fun l ts => l.noCall → Good (moreConjuncts l) ts) (Good comparison)
    ?openParen ?ident ?literal ?disjunction ?or ?orEnd ?conjunction ?and ?andEnd ?comparison).2.1 ts
  case openParen =>
    intro rest ih e r ok
    obtain ⟨e', mid, inner, ok⟩ := run_bind_eq_ok.1 (run_operand_openParen.symm.trans ok)
    obtain ⟨⟨⟩, _, closed, ok⟩ := run_bind_eq_ok.1 ok
    cases ok
    exact ih inner
  case ident =>
    intro s rest e r ok
    obtain ⟨c, mid, named, ok⟩ := run_bind_eq_ok.1 (run_operand_ident.symm.trans ok)
    cases ok
    rfl
  case literal =>
    intro ts noParen noName e r ok
    exact noCall_of_isLiteral (literal_ensures ((run_operand_literal noParen noName).symm.trans ok))
  case disjunction =>
    intro ts first others e r ok
    obtain ⟨l, mid, ok₁, ok₂⟩ := run_bind_eq_ok.1 (run_disjunction.symm.trans ok)
    exact others l mid (run_eq_ok.1 ok₁).1 (first ok₁) ok₂
  case or =>
    intro l rest first others left e r ok
    obtain ⟨right, mid, ok₁, ok₂⟩ := run_bind_eq_ok.1 (run_moreDisjuncts.symm.trans ok)
    refine others right mid (run_eq_ok.1 ok₁).1 ?_ ok₂
    rw [Expr.noCall, left, first ok₁, Bool.and_self]
  case orEnd =>
    intro l ts other left e r ok
    cases (run_moreDisjuncts_of_starts (.of_ne other)).symm.trans ok
    exact left
  case conjunction =>
    intro ts first others e r ok
    obtain ⟨l, mid, ok₁, ok₂⟩ := run_bind_eq_ok.1 (run_conjunction.symm.trans ok)
    exact others l mid (run_eq_ok.1 ok₁).1 (first ok₁) ok₂
  case and =>
    intro l rest first others left e r ok
    obtain ⟨right, mid, ok₁, ok₂⟩ := run_bind_eq_ok.1 (run_moreConjuncts.symm.trans ok)
    refine others right mid (run_eq_ok.1 ok₁).1 ?_ ok₂
    rw [Expr.noCall, left, first ok₁, Bool.and_self]
  case andEnd =>
    intro l ts other left e r ok
    cases (run_moreConjuncts_of_starts (.of_ne other)).symm.trans ok
    exact left
  case comparison =>
    intro ts left isNot is notLike op e r ok
    obtain ⟨le, ok⟩ := run_eq_ok.1 ok
    rw [comparison] at ok
    obtain ⟨⟨⟨l, mid⟩, le₁⟩, ok₁, ok⟩ := bind_eq_ok.1 ok
    have left := left (run_eq_ok.2 ⟨le₁, ok₁⟩)
    have joined {op : BinaryOp} {right : Expr} (good : right.noCall) :
        (Expr.binary op l right).noCall := by
      rw [Expr.noCall, left, good, Bool.and_self]
    dsimp only at ok
    split at ok
    · split at ok
      · cases ok
      · cases ok
        exact left
    · obtain ⟨⟨⟨right, _⟩, le₂⟩, ok₂, ok⟩ := bind_eq_ok.1 ok
      cases ok
      exact joined (isNot l [] _ ‹_› (run_eq_ok.2 ⟨le₂, ok₂⟩))
    · obtain ⟨⟨⟨right, _⟩, le₂⟩, ok₂, ok⟩ := bind_eq_ok.1 ok
      cases ok
      exact joined (is l [] _ ‹_› (run_eq_ok.2 ⟨le₂, ok₂⟩))
    · obtain ⟨⟨⟨⟨⟩, mid'⟩, le₂⟩, -, ok⟩ := bind_eq_ok.1 ok
      obtain ⟨⟨⟨right, _⟩, le₃⟩, ok₃, ok⟩ := bind_eq_ok.1 ok
      cases ok
      exact joined (notLike l [] _ ‹_› mid' le₂ (run_eq_ok.2 ⟨le₃, ok₃⟩))
    · split at ok
      · obtain ⟨⟨⟨right, _⟩, le₂⟩, ok₂, ok⟩ := bind_eq_ok.1 ok
        cases ok
        exact joined (op l [] _ _ ‹_› (run_eq_ok.2 ⟨le₂, ok₂⟩))
      · cases ok
        exact left

theorem selectExpr_ensures : Ensures (fun e => e.isSelectable) selectExpr := by
  refine .after fun first => .after fun called => .ite (fun _ => ?_) fun _ => ?_
  · refine .after fun f => .after fun star => .ite (fun _ => ?_) fun _ => ?_
    · refine .ite (fun _ => .bind (.fail _) (P := fun _ => False) fun _ no => no.elim) fun count => ?_
      rw [Decidable.not_not.1 count]
      exact .after fun _ => .pure rfl
    · exact .after fun c => .after fun _ => .pure rfl
  · exact .after fun c => .pure rfl

theorem selectItem_ensures : Ensures (fun item => item.1.isSelectable) selectItem :=
  selectExpr_ensures.bind fun _ good => .after fun _ => .pure good

theorem sortKey_ensures : Ensures (fun key => key.1.isSelectable) sortKey :=
  selectExpr_ensures.bind fun _ good => .after fun _ =>
    .ite (fun _ => .pure good) fun _ => .after fun _ => .pure good

theorem conditionAfter_ensures (k : Keyword) :
    Ensures (fun e? => ∀ e ∈ e?, e.noCall) (conditionAfter? k) := by
  refine .after fun found => .ite (fun _ => ?_) fun _ => .pure nofun
  refine condition_ensures.bind fun e good => .pure ?_
  rintro e' ⟨⟩
  exact good

theorem itemsBy_ensures {α : Type} {P : α → Prop} {item : Parser α} (k : Keyword)
    (each : Ensures P item) : Ensures (fun as => ∀ a ∈ as, P a) (itemsBy k item) :=
  .after fun _ => .ite (fun _ => .after fun _ => (Ensures.items each).mono fun _ good => good.2)
    fun _ => .pure nofun

theorem limit_ensures : Ensures
    (fun l => ∀ arguments ∈ l, arguments.length = 2 ∧ ∀ e ∈ arguments, e.isLiteral) limit? := by
  have two {a b : Expr} (first : a.isLiteral) (last : b.isLiteral) : ∀ arguments ∈ some [a, b],
      arguments.length = 2 ∧ ∀ e ∈ arguments, e.isLiteral := by
    rintro arguments ⟨⟩
    exact ⟨rfl, List.forall_mem_cons.2 ⟨first, List.forall_mem_singleton.2 last⟩⟩
  refine .after fun found => .ite (fun _ => .pure nofun) fun _ => ?_
  refine literal_ensures.bind fun a first => .after fun comma => .ite (fun _ => ?_) fun _ => ?_
  · exact literal_ensures.bind fun b last => .pure (two first last)
  · refine .after fun offset => .ite (fun _ => ?_) fun _ => .pure (two rfl first)
    exact literal_ensures.bind fun b last => .pure (two last first)

/-! ## Tables -/

theorem joinedTable_ensures (start : Token) (kind : JoinKind) :
    Ensures (fun t => ∃ j, t.join? = some j ∧ ∀ e ∈ j.on?, e.noCall) (joinedTable start kind) := by
  refine .after fun _ => .after fun table => .after fun a => .ite (fun _ => ?_) fun _ => ?_
  · refine .bind (P := (· = none)) (.pure rfl) ?_
    rintro on? rfl
    exact .pure ⟨_, rfl, nofun⟩
  · exact (conditionAfter_ensures .on).bind fun on? good => .pure ⟨_, rfl, good⟩

theorem moreTables_ensures :
    Ensures (fun ts => ∀ t ∈ ts, ∃ j, t.join? = some j ∧ ∀ e ∈ j.on?, e.noCall) moreTables := by
  intro fault ts
  induction ts using moreTables.induct fault with
  | case1 e faulty =>
      intro tables rest ok
      subst faulty
      obtain ⟨le, ok⟩ := run_eq_ok.1 ok
      rw [moreTables] at ok
      cases ok
  | case2 noFault =>
      intro tables rest ok
      cases (run_moreTables_of_starts .nil fun _ => noFault).symm.trans ok
      rintro t ⟨⟩
  | case3 t ts ends =>
      intro tables rest ok
      have starts : Starts (fun t => (joinKind? t).isNone) (t :: ts) :=
        .cons (Option.isNone_iff_eq_none.2 ends)
      have nonempty : t :: ts = [] → fault = none := by rintro ⟨⟩
      cases (run_moreTables_of_starts starts nonempty).symm.trans ok
      rintro t ⟨⟩
  | case4 t ts kind joins ih =>
      intro tables rest ok
      obtain ⟨item, mid, first, ok⟩ := run_bind_eq_ok.1 ((run_moreTables joins).symm.trans ok)
      obtain ⟨more, _, others, ok⟩ := run_bind_eq_ok.1 ok
      cases ok
      obtain ⟨le, -⟩ := run_eq_ok.1 first
      exact List.forall_mem_cons.2 ⟨joinedTable_ensures t kind first, ih item mid le others⟩

theorem fromTables_ensures : Ensures WritableTables fromTables :=
  .after fun _ => .after fun _ => moreTables_ensures.bind fun _ good => .pure ⟨rfl, good⟩

/-! ## Statements -/

theorem createTable_ensures : Ensures Statement.Writable createTable :=
  .after fun _ => .after fun _ => .after fun _ => .after fun _ =>
    (Ensures.items (.trivial columnDecl)).bind fun _ good => .after fun _ => .pure good.1

theorem dropTable_ensures : Ensures Statement.Writable dropTable := by
  refine .after fun _ => .after fun _ => .after fun ifExists => .ite (fun _ => ?_) fun _ => ?_
  · exact .after fun _ => .after fun _ => .pure trivial
  · exact .after fun _ => .pure trivial

theorem select_ensures : Ensures Statement.Writable select := by
  refine .after fun _ => .after fun star => ?_
  extract_lets rest
  have restGood (items : List SelectItem) (good : ∀ item ∈ items, item.1.isSelectable) :
      Ensures Statement.Writable (rest items) := by
    refine .after fun _ => fromTables_ensures.bind fun tables tablesGood => ?_
    refine (conditionAfter_ensures .where).bind fun where? whereGood => .after fun groupBy => ?_
    refine (itemsBy_ensures .order sortKey_ensures).bind fun orderBy orderGood => ?_
    refine limit_ensures.bind fun limit? limitGood => .pure ?_
    exact ⟨good, tablesGood, whereGood, orderGood, limitGood⟩
  refine .ite (fun _ => ?_) fun _ => ?_
  · refine .bind (P := (· = [])) (.pure rfl) ?_
    rintro items rfl
    exact restGood [] nofun
  · exact (Ensures.items selectItem_ensures).bind fun items good => restGood items good.2

theorem valueRow_ensures :
    Ensures (fun row => row ≠ [] ∧ ∀ e ∈ row, e.isLiteral) valueRow :=
  .after fun _ => .itemsToClose literal_ensures

theorem insert_ensures : Ensures Statement.Writable insert := by
  refine .after fun _ => .after fun _ => .after fun table => .after fun given => ?_
  extract_lets rest
  have restGood (columns? : Option (List String)) (good : columns? ≠ some []) :
      Ensures Statement.Writable (rest columns?) :=
    .after fun _ => (Ensures.items valueRow_ensures).bind fun rows rowsGood =>
      .pure ⟨good, rowsGood⟩
  refine .ite (fun _ => ?_) fun _ => ?_
  · refine .bind (P := (· ≠ some [])) (.map ?_) restGood
    exact (Ensures.itemsToClose (.trivial name)).mono fun columns good eq =>
      good.1 (Option.some.inj eq)
  · refine .bind (P := (· = none)) (.pure rfl) ?_
    rintro columns? rfl
    exact restGood none nofun

theorem assignment_ensures {done : Dict Expr} (good : ∀ a ∈ done.entries, a.2.isLiteral) :
    Ensures WritableAssignments (assignment done) := by
  refine .after fun column => .after fun _ => literal_ensures.bind fun e isLiteral => ?_
  refine .ite (fun _ => .fail _) fun _ => .pure ⟨?_, fun a mem => ?_⟩
  · change Dict.insertEntry column e done.entries ≠ []
    cases done.entries with
    | nil => exact List.cons_ne_nil _ _
    | cons b bs =>
        rw [Dict.insertEntry]
        split
        · exact List.cons_ne_nil _ _
        · split <;> exact List.cons_ne_nil _ _
  · rcases Dict.mem_insertEntry mem with rfl | mem
    · exact isLiteral
    · exact good a mem

theorem moreAssignments_ensures {done : Dict Expr} (good : WritableAssignments done) :
    Ensures WritableAssignments (moreAssignments done) := by
  intro fault ts
  induction done, ts using moreAssignments.induct with
  | case1 done ts ih =>
      intro all rest ok
      obtain ⟨d, mid, first, others⟩ :=
        run_bind_eq_ok.1 ((run_moreAssignments done).symm.trans ok)
      obtain ⟨le, -⟩ := run_eq_ok.1 first
      exact ih d mid le (assignment_ensures good.2 first) others
  | case2 done ts other =>
      intro all rest ok
      cases (run_moreAssignments_of_starts done (.of_ne other)).symm.trans ok
      exact good

theorem update_ensures : Ensures Statement.Writable update := by
  refine .after fun _ => .after fun _ => .after fun _ => ?_
  refine (assignment_ensures fun _ mem => absurd mem List.not_mem_nil).bind fun _ first => ?_
  refine (moreAssignments_ensures first).bind fun _ all => ?_
  exact (conditionAfter_ensures .where).bind fun _ good => .pure ⟨all, good⟩

theorem delete_ensures : Ensures Statement.Writable delete :=
  .after fun _ => .after fun _ => fromTables_ensures.bind fun _ tables =>
    (conditionAfter_ensures .where).bind fun _ good => .pure ⟨tables, good⟩

theorem statement_ensures : Ensures Statement.Writable statement := by
  refine .after fun t? => ?_
  split
  · exact createTable_ensures
  · exact dropTable_ensures
  · exact select_ensures
  · exact insert_ensures
  · exact update_ensures
  · exact delete_ensures
  all_goals exact .fail _

theorem wholeStatement_ensures : Ensures Statement.Writable wholeStatement := by
  refine statement_ensures.bind fun s good => .after fun _ => .after fun t? => ?_
  split
  · exact .fail _
  · exact .pure good

end Parser

theorem TokenStream.parse_eq_ok {α : Type} {p : Parser α} {s : TokenStream} {a : α} :
    s.parse p = .ok a ↔ ∃ rest, p.run s.fault s.tokens = .ok (a, rest) := by
  rw [TokenStream.parse, Parser.run]
  rcases p s.fault s.tokens with e | ⟨⟨a', rest⟩, le⟩
  · constructor
    · rintro ⟨⟩
    · rintro ⟨_, ⟨⟩⟩
  · constructor
    · rintro ⟨⟩
      exact ⟨rest, rfl⟩
    · rintro ⟨_, ⟨⟩⟩
      rfl

theorem Statement.writable_of_parse {text : String} {s : Statement}
    (ok : Statement.parse text = .ok s) : s.Writable := by
  obtain ⟨rest, ok⟩ := TokenStream.parse_eq_ok.1 ok
  exact Parser.wholeStatement_ensures ok

end SqlStore.Sql
