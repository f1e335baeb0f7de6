import SqlStore.Proofs.Dict
import SqlStore.Proofs.Sql.Conditions
import SqlStore.Proofs.Sql.Scanning

namespace SqlStore.Sql

namespace Parser

variable {α : Type} {f : α → List Lexeme} {P : Token → Bool} {rest : List Token}

/-! ## Lists -/

theorem run_moreItems_written {item : Parser α} (comma : P .comma) {as : List α}
    (each : ∀ a ∈ as, ∀ rest, Starts P rest → item.run none (written (f a) rest) = .ok (a, rest))
    (stop : Starts (fun t => P t && t ≠ .comma) rest) :
    run (moreItems item) none (written (as.flatMap fun a => .comma :: f a) rest) =
        .ok (as, rest) ∧
      Starts P (written (as.flatMap fun a => .comma :: f a) rest) := by
  induction as with
  | nil => exact ⟨run_moreItems_of_starts item stop.and_right, stop.and_left⟩
  | cons a as ih =>
      obtain ⟨others, starts⟩ := ih fun b mem => each b (List.mem_cons_of_mem a mem)
      have first := each a List.mem_cons_self _ starts
      rw [List.flatMap_cons, List.cons_append]
      refine ⟨?_, .cons comma⟩
      change run (moreItems item) none (.comma :: written (f a ++ _) rest) = _
      rw [written_append]
      exact (run_moreItems item).trans ((run_bind_of_ok first).trans (run_bind_of_ok others))

theorem run_items_written {item : Parser α} (comma : P .comma) {as : List α} (nonempty : as ≠ [])
    (each : ∀ a ∈ as, ∀ rest, Starts P rest → item.run none (written (f a) rest) = .ok (a, rest))
    (stop : Starts (fun t => P t && t ≠ .comma) rest) :
    (items item).run none (written (listed f as) rest) = .ok (as, rest) := by
  cases as with
  | nil => exact absurd rfl nonempty
  | cons a as =>
      obtain ⟨others, starts⟩ :=
        run_moreItems_written comma (fun b mem => each b (List.mem_cons_of_mem a mem)) stop
      have first := each a List.mem_cons_self _ starts
      rw [listed, written_append]
      exact (run_bind_of_ok first).trans (run_bind_of_ok others)

theorem run_itemsToClose_written {item : Parser α} (comma : P .comma) (close : P .closeParen)
    {as : List α} (nonempty : as ≠ [])
    (each : ∀ a ∈ as, ∀ rest, Starts P rest → item.run none (written (f a) rest) = .ok (a, rest)) :
    run (itemsToClose item) none (written (listed f as ++ [.closeParen]) rest) = .ok (as, rest) := by
  cases as with
  | nil => exact absurd rfl nonempty
  | cons a as =>
      clear nonempty
      rw [listed, List.append_assoc, written_append]
      induction as generalizing a with
      | nil =>
          have first := each a List.mem_cons_self (.closeParen :: rest) (.cons close)
          exact (run_itemsToClose item).trans
            ((run_bind_of_ok first).trans (run_bind_of_ok (run_next .closeParen)))
      | cons b bs ih =>
          have others := ih b fun c mem => each c (List.mem_cons_of_mem a mem)
          rw [List.flatMap_cons, List.append_assoc, List.cons_append]
          change run _ none (written (f a) (.comma :: written (f b ++ _) rest)) = _
          rw [written_append]
          refine (run_itemsToClose item).trans ?_
          refine (run_bind_of_ok (each a List.mem_cons_self _ (.cons comma))).trans ?_
          exact (run_bind_of_ok (run_next .comma)).trans (run_bind_of_ok others)

/-! ## Names and aliases -/

def endsItem (t : Token) : Bool :=
  !t matches .period | .openParen | .ident _ | .keyword .as

theorem run_tableName (s : String) (stop : Starts (· ≠ .period) rest) :
    tableName.run none (.ident s :: rest) = .ok (s, rest) := by
  refine (run_bind_of_ok (run_name s)).trans
    ((run_bind_of_ok (run_dottedNames_of_starts stop)).trans ?_)
  rw [run_pure, String.intercalate_singleton]

theorem run_alias (a : Option String) (stop : Starts endsItem rest) :
    alias?.run none (written (aliasLexemes a) rest) = .ok (a, rest) := by
  cases a with
  | some a => exact run_bind_of_ok (run_accept (.keyword .as))
  | none =>
      refine (run_bind_of_ok (run_accept_of_starts (stop.ne rfl))).trans ?_
      refine run_bind_of_ok (run_takeIf_of_starts (stop.mono fun t ends => ?_))
      cases t with
      | ident s => cases ends
      | _ => rfl

theorem starts_alias (as : P (.keyword .as)) (a : Option String) (starts : Starts P rest) :
    Starts P (written (aliasLexemes a) rest) := by
  cases a with
  | some a => exact .cons as
  | none => exact starts

/-! ## Select lists and sort keys -/

theorem ofName_text (g : Aggregate) : Aggregate.ofName? g.text = some g := by
  cases g <;> decide

theorem run_selectExpr {e : Expr} (selectable : e.isSelectable)
    (stop : Starts endsReference rest) :
    selectExpr.run none (written (e.lexemes 0) rest) = .ok (e, rest) := by
  have noPeriod : Starts (· ≠ .period) rest := stop.ne rfl
  have noParen : Starts (· ≠ .openParen) rest := stop.ne rfl
  have named (g : Aggregate) {ts : List Token} :
      (aggregate g.text).run none ts = .ok (g, ts) := by
    rw [aggregate, ofName_text]
    rfl
  cases e with
  | literal l => cases selectable
  | binary op l r => cases selectable
  | column c =>
      obtain ⟨first, ts, eq, noCall, ok⟩ := columnRef_written c noPeriod
      rw [Expr.lexemes, eq]
      refine (run_bind_of_ok (run_name first)).trans ?_
      exact (run_bind_of_ok (run_accept_of_starts (noCall noParen))).trans (run_bind_of_ok ok)
  | call g arg =>
      cases arg with
      | none =>
          cases g with
          | sum => cases selectable
          | count =>
              refine (run_bind_of_ok (run_name _)).trans ?_
              refine (run_bind_of_ok (run_accept .openParen)).trans ?_
              refine (run_bind_of_ok (named .count)).trans ?_
              refine (run_bind_of_ok (run_accept .asterisk)).trans ?_
              exact run_bind_of_ok (run_expect .closeParen)
      | some c =>
          have closed : Starts (· ≠ .period) (.closeParen :: rest) := .cons (by decide)
          obtain ⟨first, ts, eq, -⟩ := columnRef_written c closed
          have starts : Starts (· ≠ .asterisk) (written c.lexemes (.closeParen :: rest)) := by
            rw [eq]
            exact .cons (by simp)
          change selectExpr.run none (.ident g.text :: written (enclosed c.lexemes) rest) = _
          rw [written_enclosed]
          refine (run_bind_of_ok (run_name g.text)).trans ?_
          refine (run_bind_of_ok (run_accept .openParen)).trans ?_
          refine (run_bind_of_ok (named g)).trans ?_
          refine (run_bind_of_ok (run_accept_of_starts starts)).trans ?_
          refine (run_bind_of_ok (run_columnRef c closed)).trans ?_
          exact run_bind_of_ok (run_expect .closeParen)

theorem run_selectItem {item : SelectItem} (selectable : item.1.isSelectable)
    (stop : Starts endsItem rest) :
    selectItem.run none (written (itemLexemes item) rest) = .ok (item, rest) := by
  have stop' : Starts endsReference
      (written (aliasLexemes item.2) rest) := by
    refine starts_alias (by decide) item.2 (stop.mono fun t ends => ?_)
    cases t <;> first | rfl | cases ends
  rw [itemLexemes, written_append]
  exact (run_bind_of_ok (run_selectExpr selectable stop')).trans
    (run_bind_of_ok (run_alias item.2 stop))

theorem run_sortKey {key : Expr × Direction} (selectable : key.1.isSelectable) :
    sortKey.run none (written (keyLexemes key) rest) = .ok (key, rest) := by
  obtain ⟨e, direction⟩ := key
  rw [keyLexemes, written_append]
  cases direction with
  | desc =>
      refine (run_bind_of_ok (run_selectExpr selectable (.cons (by decide)))).trans ?_
      exact run_bind_of_ok (run_accept (.keyword .desc))
  | asc =>
      refine (run_bind_of_ok (run_selectExpr selectable (.cons (by decide)))).trans ?_
      refine (run_bind_of_ok (run_accept_of_starts (.cons (by decide)))).trans ?_
      refine run_bind_of_ok (a := ()) ((run_discard _).trans ?_)
      change Except.map _ ((accept (.keyword .asc)).run none (.keyword .asc :: rest)) = _
      rw [run_accept]
      rfl

/-! ## Clauses -/

theorem run_conditionAfter {k : Keyword} {e? : Option Expr} (noCall : ∀ e ∈ e?, e.noCall)
    (plain : ∀ x ∈ conditionLexemes k e?, x.isPlain)
    (stop : Starts (fun t => endsExpr 0 t && t ≠ .keyword k) rest) :
    (conditionAfter? k).run none (written (conditionLexemes k e?) rest) = .ok (e?, rest) := by
  cases e? with
  | none => exact run_bind_of_ok (run_accept_of_starts stop.and_right)
  | some e =>
      have ends : Starts (endsExpr 0) rest := stop.and_left
      have plain' : ∀ x ∈ e.lexemes 0, x.isPlain := fun x mem => plain x (List.mem_cons_of_mem _ mem)
      have readsBack := Expr.readsBack (noCall e rfl) plain'
      have taken : condition.run none (written (e.lexemes 0) rest) = .ok (e, rest) :=
        (readsBack.disjunction rest (ends.mono (endsExpr_mono (by decide)))).trans
          (Expr.run_moreDisjuncts_end ends)
      exact (run_bind_of_ok (run_accept (.keyword k))).trans (run_bind_of_ok taken)

theorem starts_condition {k : Keyword} (holds : P (.keyword k)) (e? : Option Expr)
    (starts : Starts P rest) : Starts P (written (conditionLexemes k e?) rest) := by
  cases e? with
  | some e => exact .cons holds
  | none => exact starts

theorem run_itemsBy {k : Keyword} {item : Parser α} (comma : P .comma) {as : List α}
    (each : ∀ a ∈ as, ∀ rest, Starts P rest → item.run none (written (f a) rest) = .ok (a, rest))
    (stop : Starts (fun t => P t && t ≠ .comma && t ≠ .keyword k) rest) :
    (itemsBy k item).run none (written (byLexemes k f as) rest) = .ok (as, rest) := by
  rw [byLexemes]
  by_cases empty : as.isEmpty
  · rw [if_pos empty, List.isEmpty_iff.1 empty]
    exact run_bind_of_ok (run_accept_of_starts stop.and_right)
  · have nonempty : as ≠ [] := fun eq => empty (List.isEmpty_iff.2 eq)
    rw [if_neg empty]
    refine (run_bind_of_ok (run_accept (.keyword k))).trans ?_
    refine (run_bind_of_ok (run_expect (.keyword .by))).trans ?_
    exact run_items_written comma nonempty each stop.and_left

theorem starts_by {k : Keyword} (holds : P (.keyword k)) (as : List α) (starts : Starts P rest) :
    Starts P (written (byLexemes k f as) rest) := by
  rw [byLexemes]
  split
  · exact starts
  · exact .cons holds

theorem run_literal_of_isLiteral {e : Expr} (isLiteral : e.isLiteral)
    (plain : ∀ x ∈ e.lexemes 0, x.isPlain) :
    literal.run none (written (e.lexemes 0) rest) = .ok (e, rest) := by
  cases e with
  | literal l =>
      apply run_literal
      intro x
      rintro rfl
      cases plain (.float x) List.mem_cons_self
  | _ => cases isLiteral

theorem run_limit {l : Option (List Expr)}
    (two : ∀ arguments ∈ l, arguments.length = 2 ∧ ∀ e ∈ arguments, e.isLiteral)
    (plain : ∀ x ∈ limitLexemes l, x.isPlain) (stop : Starts (· ≠ .keyword .limit) rest) :
    limit?.run none (written (limitLexemes l) rest) = .ok (l, rest) := by
  cases l with
  | none => exact run_bind_of_ok (run_accept_of_starts stop)
  | some arguments =>
      obtain ⟨length, literals⟩ := two arguments rfl
      match arguments, length with
      | [a, b], _ =>
          have taken (e : Expr) (mem : e ∈ [a, b]) (rest : List Token) :
              literal.run none (written (e.lexemes 0) rest) = .ok (e, rest) :=
            run_literal_of_isLiteral (literals e mem) fun x mem' =>
              plain x (List.mem_cons_of_mem _ (mem_listed mem mem'))
          have eq : limitLexemes (some [a, b]) =
              .keyword .limit :: (a.lexemes 0 ++ .comma :: b.lexemes 0) := by
            simp [limitLexemes, listed]
          rw [eq]
          change limit?.run none (.keyword .limit :: written (a.lexemes 0 ++ _) rest) = _
          rw [written_append]
          refine (run_bind_of_ok (run_accept (.keyword .limit))).trans ?_
          refine (run_bind_of_ok (taken a List.mem_cons_self _)).trans ?_
          refine (run_bind_of_ok (run_accept .comma)).trans ?_
          exact run_bind_of_ok (taken b (List.mem_cons_of_mem a List.mem_cons_self) rest)

theorem starts_limit (holds : P (.keyword .limit)) (l : Option (List Expr))
    (starts : Starts P rest) : Starts P (written (limitLexemes l) rest) := by
  cases l with
  | some arguments => exact .cons holds
  | none => exact starts

/-! ## Tables -/

def endsTable (t : Token) : Bool :=
  endsItem t && endsExpr 0 t && t ≠ .keyword .on

theorem endsItem_of_endsTable (stop : Starts endsTable rest) : Starts endsItem rest :=
  stop.and_left.and_left

theorem run_joinedTable {item : FromItem} {j : Join} (joined : item.join? = some j)
    (noCall : ∀ e ∈ j.on?, e.noCall) (plain : ∀ x ∈ item.lexemes, x.isPlain)
    (stop : Starts endsTable rest) :
    ∃ start ts, written item.lexemes rest = start :: ts ∧ joinKind? start = some j.kind ∧
      endsTable start ∧ (joinedTable start j.kind).run none ts = .ok (item, rest) := by
  obtain ⟨name, a, join?⟩ := item
  obtain rfl : join? = some j := joined
  obtain ⟨kind, on?⟩ := j
  have ends : Starts endsItem rest := endsItem_of_endsTable stop
  have endsOn : Starts (fun t => endsExpr 0 t && t ≠ .keyword .on) rest := by
    refine stop.mono fun t ends => ?_
    simp only [endsTable, Bool.and_eq_true] at ends ⊢
    exact ⟨ends.1.2, ends.2⟩
  -- After its first words every kind of join goes on in the same way.
  have taken {start : Token} {ts : List Token}
      (conditional : ¬ (start = .comma ∨ start = .keyword .cross))
      (words : (joinWords start).run none ts = .ok ((), .ident name :: written
        (aliasLexemes a) (written (conditionLexemes .on on?) rest))) :
      (joinedTable start kind).run none ts = .ok (⟨name, a, some ⟨kind, on?⟩⟩, rest) := by
    have endsAlias : Starts endsItem (written (conditionLexemes .on on?) rest) :=
      starts_condition (by decide) on? ends
    have endsName : Starts (· ≠ .period)
        (written (aliasLexemes a) (written (conditionLexemes .on on?) rest)) :=
      starts_alias (by decide) a (endsAlias.ne rfl)
    have condition := run_conditionAfter noCall
      (fun x mem => plain x (List.mem_append_right _ mem)) endsOn
    refine (run_bind_of_ok words).trans ((run_bind_of_ok (run_tableName name endsName)).trans ?_)
    refine (run_bind_of_ok (run_alias a endsAlias)).trans ?_
    dsimp only
    rw [if_neg conditional]
    exact run_bind_of_ok condition
  rw [FromItem.lexemes, written_append, written_append]
  cases kind with
  | inner => exact ⟨.keyword .join, _, rfl, rfl, by decide, taken (by decide) rfl⟩
  | left => exact ⟨.keyword .left, _, rfl, rfl, by decide, taken (by decide) rfl⟩
  | right => exact ⟨.keyword .right, _, rfl, rfl, by decide, taken (by decide) rfl⟩
  | full => exact ⟨.keyword .full, _, rfl, rfl, by decide, taken (by decide) rfl⟩

theorem run_moreTables_written {items : List FromItem}
    (joined : ∀ t ∈ items, ∃ j, t.join? = some j ∧ ∀ e ∈ j.on?, e.noCall)
    (plain : ∀ x ∈ items.flatMap FromItem.lexemes, x.isPlain)
    (stop : Starts (fun t => endsTable t && (joinKind? t).isNone) rest) :
    run moreTables none (written (items.flatMap FromItem.lexemes) rest) = .ok (items, rest) ∧
      Starts endsTable (written (items.flatMap FromItem.lexemes) rest) := by
  induction items with
  | nil => exact ⟨run_moreTables_of_starts stop.and_right fun _ => rfl, stop.and_left⟩
  | cons item items ih =>
      rw [List.flatMap_cons] at plain ⊢
      obtain ⟨others, starts⟩ := ih (fun t mem => joined t (List.mem_cons_of_mem item mem))
        fun x mem => plain x (List.mem_append_right _ mem)
      obtain ⟨j, joins, noCall⟩ := joined item List.mem_cons_self
      obtain ⟨start, ts, eq, kind, ends, taken⟩ := run_joinedTable joins noCall
        (fun x mem => plain x (List.mem_append_left _ mem)) starts
      rw [written_append, eq]
      refine ⟨?_, .cons ends⟩
      exact (run_moreTables kind).trans ((run_bind_of_ok taken).trans (run_bind_of_ok others))

theorem run_fromTables {items : List FromItem} (writable : WritableTables items)
    (plain : ∀ x ∈ items.flatMap FromItem.lexemes, x.isPlain)
    (stop : Starts (fun t => endsTable t && (joinKind? t).isNone) rest) :
    fromTables.run none (written (items.flatMap FromItem.lexemes) rest) = .ok (items, rest) := by
  cases items with
  | nil => exact writable.elim
  | cons first more =>
      obtain ⟨name, a, join?⟩ := first
      obtain ⟨rfl, joined⟩ : join? = none ∧ _ := writable
      rw [List.flatMap_cons] at plain ⊢
      obtain ⟨others, starts⟩ := run_moreTables_written joined
        (fun x mem => plain x (List.mem_append_right _ mem)) stop
      have endsAlias : Starts endsItem (written (more.flatMap FromItem.lexemes) rest) :=
        endsItem_of_endsTable starts
      have endsName : Starts (· ≠ .period)
          (written (aliasLexemes a) (written (more.flatMap FromItem.lexemes) rest)) :=
        starts_alias (by decide) a (endsAlias.ne rfl)
      rw [written_append]
      refine (run_bind_of_ok (run_tableName name endsName)).trans ?_
      exact (run_bind_of_ok (run_alias a endsAlias)).trans (run_bind_of_ok others)

/-! ## Column declarations, rows and assignments -/

theorem run_typeArgument (n : UInt64) :
    typeArgument.run none (written [.digits n.toNat] rest) = .ok (n, rest) := by
  refine (run_bind_of_ok (run_next _)).trans ?_
  change (lift _).run none rest = _
  rw [run_lift, String.toList_ofList, Decimal.readUInt64_toDigits]
  rfl

theorem run_columnDecl (d : ColumnDecl)
    (stop : Starts endsType rest) :
    columnDecl.run none (written d.lexemes rest) = .ok (d, rest) := by
  obtain ⟨name, typeName, args⟩ := d
  have words : " ".intercalate [typeName] = typeName := String.intercalate_singleton
  rw [ColumnDecl.lexemes]
  cases args with
  | nil =>
      have noName : Starts endsWords rest := stop.mono fun t ends => by
        cases t <;> first | rfl | cases ends
      have noParen : Starts (· ≠ .openParen) rest := stop.ne rfl
      refine (run_bind_of_ok (run_name name)).trans ((run_bind_of_ok (run_name typeName)).trans ?_)
      refine (run_bind_of_ok (run_names_of_starts noName)).trans ?_
      refine (run_bind_of_ok (run_accept_of_starts noParen)).trans ?_
      rw [words]
      rfl
  | cons n ns =>
      have taken : run (itemsToClose typeArgument) none
          (written (listed (fun n => [.digits n.toNat]) (n :: ns) ++ [.closeParen]) rest) =
            .ok (n :: ns, rest) :=
        run_itemsToClose_written (P := fun _ => true) rfl rfl (List.cons_ne_nil n ns)
          fun m _ rest _ => run_typeArgument m
      refine (run_bind_of_ok (run_name name)).trans ((run_bind_of_ok (run_name typeName)).trans ?_)
      refine (run_bind_of_ok (run_names_of_starts (.cons rfl))).trans ?_
      refine (run_bind_of_ok (run_accept .openParen)).trans ((run_bind_of_ok taken).trans ?_)
      rw [words]
      rfl

theorem run_valueRow {row : List Expr} (nonempty : row ≠ []) (literals : ∀ e ∈ row, e.isLiteral)
    (plain : ∀ x ∈ enclosed (listed (·.lexemes 0) row), x.isPlain) :
    valueRow.run none (written (enclosed (listed (·.lexemes 0) row)) rest) = .ok (row, rest) := by
  refine (run_bind_of_ok (run_expect .openParen)).trans ?_
  refine run_itemsToClose_written (P := fun _ => true) rfl rfl nonempty fun e mem rest _ => ?_
  refine run_literal_of_isLiteral (literals e mem) fun x mem' => plain x ?_
  exact List.mem_cons_of_mem _ (List.mem_append_left _ (mem_listed mem mem'))

theorem run_assignment {done : Dict Expr} {a : String × Expr} (isLiteral : a.2.isLiteral)
    (plain : ∀ x ∈ a.2.lexemes 0, x.isPlain) (new : done.get? a.1 = none) :
    (assignment done).run none (written (.name a.1 :: .equal :: a.2.lexemes 0) rest) =
      .ok (done.insert a.1 a.2, rest) := by
  have fresh : ¬ done.contains a.1 := by simp [Dict.contains, new]
  refine (run_bind_of_ok (run_name a.1)).trans ((run_bind_of_ok (run_expect .equal)).trans ?_)
  refine (run_bind_of_ok (run_literal_of_isLiteral isLiteral plain)).trans ?_
  rw [if_neg fresh]
  rfl

theorem new_of_insert {done : Dict Expr} {a : String × Expr} {as : List (String × Expr)}
    (new : ∀ b ∈ as, done.get? b.1 = none) (other : a.1 ∉ as.map (·.1)) :
    ∀ b ∈ as, (done.insert a.1 a.2).get? b.1 = none := by
  intro b mem
  have ne : b.1 ≠ a.1 := fun eq => other (List.mem_map.2 ⟨b, mem, eq⟩)
  rw [Dict.get?_insert, if_neg ne]
  exact new b mem

theorem run_moreAssignments_written {done : Dict Expr} {as : List (String × Expr)}
    (literals : ∀ a ∈ as, a.2.isLiteral) (plain : ∀ a ∈ as, ∀ x ∈ a.2.lexemes 0, x.isPlain)
    (new : ∀ a ∈ as, done.get? a.1 = none) (distinct : (as.map (·.1)).Nodup)
    (stop : Starts (· ≠ .comma) rest) :
    run (moreAssignments done) none
        (written (as.flatMap fun a => .comma :: .name a.1 :: .equal :: a.2.lexemes 0) rest) =
      .ok (done.insertAll as, rest) := by
  induction as generalizing done with
  | nil => exact run_moreAssignments_of_starts done stop
  | cons a as ih =>
      rw [List.map_cons, List.nodup_cons] at distinct
      have new' := new_of_insert (fun b mem => new b (List.mem_cons_of_mem a mem)) distinct.1
      have others := ih (fun b mem => literals b (List.mem_cons_of_mem a mem))
        (fun b mem => plain b (List.mem_cons_of_mem a mem)) new' distinct.2
      rw [List.flatMap_cons, written_append]
      refine (run_moreAssignments done).trans (.trans (run_bind_of_ok ?_) others)
      exact run_assignment (literals a List.mem_cons_self) (plain a List.mem_cons_self)
        (new a List.mem_cons_self)

/-! ## Statements -/

theorem run_createTable {table : String} {columns : List ColumnDecl} (nonempty : columns ≠ []) :
    createTable.run none (written (Statement.createTable table columns).lexemes []) =
      .ok (.createTable table columns, []) := by
  have taken : (items columnDecl).run none
      (written (listed ColumnDecl.lexemes columns) [.closeParen]) = .ok (columns, [.closeParen]) :=
    run_items_written (P := endsType) rfl nonempty
      (fun d _ _ stop => run_columnDecl d stop) (.cons rfl)
  rw [Statement.lexemes, written_append, written_enclosed]
  refine (run_bind_of_ok (run_expect _)).trans ((run_bind_of_ok (run_expect _)).trans ?_)
  refine (run_bind_of_ok (run_tableName table (.cons (by decide)))).trans ?_
  refine (run_bind_of_ok (run_expect _)).trans ((run_bind_of_ok taken).trans ?_)
  exact run_bind_of_ok (run_expect _)

theorem run_dropTable (table : String) (ifExists : Bool) :
    dropTable.run none (written (Statement.dropTable table ifExists).lexemes []) =
      .ok (.dropTable table ifExists, []) := by
  refine (run_bind_of_ok (run_expect _)).trans ((run_bind_of_ok (run_expect _)).trans ?_)
  cases ifExists with
  | true =>
      refine (run_bind_of_ok (run_accept _)).trans ((run_bind_of_ok (run_expect _)).trans ?_)
      exact run_bind_of_ok (run_tableName table .nil)
  | false =>
      refine (run_bind_of_ok (run_accept_of_starts (.cons rfl))).trans ?_
      exact run_bind_of_ok (run_tableName table .nil)

theorem run_insert {table : String} {columns? : Option (List String)} {rows : List (List Expr)}
    (writable : (Statement.insert table columns? rows).Writable)
    (plain : (Statement.insert table columns? rows).Plain) :
    insert.run none (written (Statement.insert table columns? rows).lexemes []) =
      .ok (.insert table columns? rows, []) := by
  obtain ⟨given, nonempty, each⟩ := writable
  have taken : (items valueRow).run none
      (written (listed (fun row => enclosed (listed (·.lexemes 0) row)) rows) []) =
        .ok (rows, []) := by
    refine run_items_written (P := fun _ => true) rfl nonempty (fun row mem rest _ => ?_) .nil
    refine run_valueRow (each row mem).1 (each row mem).2 fun x mem' => plain x ?_
    exact List.mem_append_right _ (List.mem_cons_of_mem _ (mem_listed mem mem'))
  cases columns? with
  | none =>
      refine (run_bind_of_ok (run_expect _)).trans ((run_bind_of_ok (run_expect _)).trans ?_)
      refine (run_bind_of_ok (run_tableName table (.cons (by decide)))).trans ?_
      refine (run_bind_of_ok (run_accept_of_starts (.cons (by decide)))).trans ?_
      refine (run_bind_of_ok (run_pure none)).trans ((run_bind_of_ok (run_expect _)).trans ?_)
      exact run_bind_of_ok taken
  | some columns =>
      let rest := written (.keyword .values ::
        listed (fun row => enclosed (listed (·.lexemes 0) row)) rows) []
      have names : run (itemsToClose name) none
          (written (listed (fun c => [.name c]) columns ++ [.closeParen]) rest) =
            .ok (columns, rest) :=
        run_itemsToClose_written (P := fun _ => true) rfl rfl (fun eq => given (congrArg some eq))
          fun c _ rest _ => run_name c
      have given : run (some <$> (itemsToClose name : Parser (List String))) none
          (written (listed (fun c => [.name c]) columns ++ [.closeParen]) rest) =
            .ok (some columns, rest) :=
        (run_map _ _).trans (congrArg (Except.map fun r => (some r.1, r.2)) names)
      rw [Statement.lexemes, written_append, written_append]
      refine (run_bind_of_ok (run_expect _)).trans ((run_bind_of_ok (run_expect _)).trans ?_)
      refine (run_bind_of_ok (run_tableName table (.cons (by decide)))).trans ?_
      refine (run_bind_of_ok (run_accept .openParen)).trans ((run_bind_of_ok given).trans ?_)
      exact (run_bind_of_ok (run_expect _)).trans (run_bind_of_ok taken)

theorem run_update {table : String} {assignments : Dict Expr} {where? : Option Expr}
    (writable : (Statement.update table assignments where?).Writable)
    (plain : (Statement.update table assignments where?).Plain) :
    update.run none (written (Statement.update table assignments where?).lexemes []) =
      .ok (.update table assignments where?, []) := by
  obtain ⟨⟨nonempty, literals⟩, noCall⟩ := writable
  have condition := run_conditionAfter noCall
    (fun x mem => plain x (List.mem_append_right _ mem)) .nil
  have distinct := assignments.nodup_keys
  have all := assignments.ofList_entries
  have plain' : ∀ a ∈ assignments.entries, ∀ x ∈ a.2.lexemes 0, x.isPlain := by
    intro a mem x mem'
    refine plain x (List.mem_append_left _ (List.mem_append_right _ (mem_listed mem ?_)))
    exact List.mem_cons_of_mem _ (List.mem_cons_of_mem _ mem')
  rw [Statement.lexemes, written_append, written_append]
  refine (run_bind_of_ok (run_expect _)).trans ?_
  refine (run_bind_of_ok (run_tableName table (.cons (by decide)))).trans ?_
  refine (run_bind_of_ok (run_expect _)).trans ?_
  cases eq : assignments.entries with
  | nil => exact absurd eq nonempty
  | cons a as =>
      rw [eq] at literals distinct all plain'
      rw [List.map_cons, List.nodup_cons] at distinct
      have new := new_of_insert (fun b (_ : b ∈ as) => Dict.get?_empty b.1) distinct.1
      have others := run_moreAssignments_written
        (fun b mem => literals b (List.mem_cons_of_mem a mem))
        (fun b mem => plain' b (List.mem_cons_of_mem a mem)) new distinct.2
        (starts_condition (k := .where) (by decide) where? .nil)
      rw [listed, written_append]
      refine (run_bind_of_ok (run_assignment (literals a List.mem_cons_self)
        (plain' a List.mem_cons_self) (Dict.get?_empty a.1))).trans ?_
      refine (run_bind_of_ok others).trans ((run_bind_of_ok condition).trans ?_)
      change Except.ok (Statement.update table (Dict.ofList (a :: as)) where?, []) = _
      rw [all]

theorem run_delete {tables : List FromItem} {where? : Option Expr}
    (writable : (Statement.delete tables where?).Writable)
    (plain : (Statement.delete tables where?).Plain) :
    delete.run none (written (Statement.delete tables where?).lexemes []) =
      .ok (.delete tables where?, []) := by
  have taken := run_fromTables writable.1
    (fun x mem => plain x (List.mem_append_left _ (List.mem_append_right _ mem)))
    (starts_condition (k := .where) (by decide) where? .nil)
  have condition := run_conditionAfter writable.2
    (fun x mem => plain x (List.mem_append_right _ mem)) .nil
  rw [Statement.lexemes, written_append, written_append]
  refine (run_bind_of_ok (run_expect _)).trans ((run_bind_of_ok (run_expect _)).trans ?_)
  exact (run_bind_of_ok taken).trans (run_bind_of_ok condition)

theorem run_clauses {s : Select} (writable : s.Writable) (plain : ∀ x ∈ s.clauses, x.isPlain) :
    run (do
      expect (.keyword .from)
      let tables ← fromTables
      let where? ← conditionAfter? .where
      let groupBy ← itemsBy .group columnRef
      let orderBy ← itemsBy .order sortKey
      let limit? ← limit?
      return Statement.select { items := s.items, tables, where?, groupBy, orderBy, limit? }) none
        (written s.clauses []) = .ok (.select s, []) := by
  rw [Select.clauses] at plain ⊢
  simp only [List.forall_mem_append, List.forall_mem_cons] at plain
  obtain ⟨⟨⟨⟨⟨-, plainTables⟩, plainWhere⟩, -⟩, -⟩, plainLimit⟩ := plain
  rw [written_append, written_append, written_append, written_append]
  refine (run_bind_of_ok (run_expect _)).trans ?_
  refine (run_bind_of_ok (run_fromTables writable.tables plainTables ?_)).trans ?_
  · exact starts_condition (by decide) _ (starts_by (by decide) _
      (starts_by (by decide) _ (starts_limit (by decide) _ .nil)))
  refine (run_bind_of_ok (run_conditionAfter writable.where? plainWhere ?_)).trans ?_
  · exact starts_by (by decide) _ (starts_by (by decide) _ (starts_limit (by decide) _ .nil))
  refine (run_bind_of_ok (run_itemsBy (P := (· ≠ .period)) (by decide)
    (fun c _ _ stop => run_columnRef c stop) ?_)).trans ?_
  · exact starts_by (by decide) _ (starts_limit (by decide) _ .nil)
  refine (run_bind_of_ok (run_itemsBy (P := fun _ => true) rfl
    (fun key mem _ _ => run_sortKey (writable.orderBy key mem)) ?_)).trans ?_
  · exact starts_limit (by decide) _ .nil
  exact run_bind_of_ok (run_limit writable.limit? plainLimit .nil)

theorem run_select {s : Select} (writable : s.Writable) (plain : ∀ x ∈ s.lexemes, x.isPlain) :
    select.run none (written s.lexemes []) = .ok (.select s, []) := by
  have clauses := run_clauses writable fun x mem => plain x (List.mem_append_right _ mem)
  rw [Select.lexemes, written_append]
  refine (run_bind_of_ok (run_expect _)).trans ?_
  by_cases star : s.items = []
  · rw [star] at clauses ⊢
    refine (run_bind_of_ok (run_accept .asterisk)).trans ?_
    exact (run_bind_of_ok (run_pure [])).trans clauses
  · have stop : Starts (fun t => endsItem t && t ≠ .comma) (written s.clauses []) :=
      .cons (by decide)
    have taken := run_items_written (by decide) star
      (fun item mem _ stop => run_selectItem (writable.items item mem) stop) stop
    -- A select item begins with a name.
    have noStar :
        Starts (· ≠ .asterisk) (written (listed itemLexemes s.items) (written s.clauses [])) := by
      refine .of_ne fun ts eq => ?_
      rw [eq] at taken
      cases taken
    rw [if_neg (by simpa using star)]
    refine (run_bind_of_ok (run_accept_of_starts noStar)).trans ?_
    exact (run_bind_of_ok taken).trans clauses

theorem run_peek (t : Token) : peek?.run none (t :: rest) = .ok (some t, t :: rest) := rfl

theorem run_wholeStatement {s : Statement} (writable : s.Writable) (plain : s.Plain) :
    wholeStatement.run none (written s.lexemes []) = .ok (s, []) := by
  have taken : statement.run none (written s.lexemes []) = .ok (s, []) := by
    cases s with
    | createTable table columns =>
        exact (run_bind_of_ok (run_peek _)).trans (run_createTable writable)
    | dropTable table ifExists =>
        exact (run_bind_of_ok (run_peek _)).trans (run_dropTable table ifExists)
    | insert table columns? rows =>
        exact (run_bind_of_ok (run_peek _)).trans (run_insert writable plain)
    | select s => exact (run_bind_of_ok (run_peek _)).trans (run_select writable plain)
    | update table assignments where? =>
        exact (run_bind_of_ok (run_peek _)).trans (run_update writable plain)
    | delete tables where? =>
        exact (run_bind_of_ok (run_peek _)).trans (run_delete writable plain)
  exact (run_bind_of_ok taken).trans rfl

end Parser

/-- The parser returns the statements of the right shape and no others: every statement that a text
parses to is writable, and every writable statement is what its printed text parses to. -/
theorem Statement.parse_exactly_writable :
    (∀ text s, Statement.parse text = .ok s → s.Writable) ∧
    ∀ s : Statement, s.Writable → s.Plain → Statement.parse s.print = .ok s := by
  refine ⟨fun text s ok => writable_of_parse ok, fun s writable plain => ?_⟩
  rw [Statement.parse, Statement.print, String.toList_ofList, scan_spelled plain]
  exact TokenStream.parse_eq_ok.2 ⟨[], Parser.run_wholeStatement writable plain⟩

theorem Statement.parse_exactly_writable_delete :
    let c (name : String) : Expr := .column ⟨none, name⟩
    let s : Statement := .delete [⟨"t", some "u", none⟩] (some (.binary .and
      (.binary .or (c "a\"b") (.binary .is (c "c") (.literal (.text "it's"))))
      (.binary .equal (c "d") (.literal (.int Int64.minValue)))))
    s.print = "DELETE FROM \"t\" AS \"u\" WHERE (`a\"b` OR \"c\" IS 'it''s') AND \"d\" = " ++
      "-9223372036854775808" ∧ Statement.parse s.print = .ok s ∧ s.Writable := by
  intro c s
  have writable : s.Writable := by
    refine ⟨⟨rfl, nofun⟩, ?_⟩
    rintro e ⟨⟩
    rfl
  have plain : s.Plain := by
    unfold Statement.Plain
    decide
  have parsed := Statement.parse_exactly_writable.2 s writable plain
  exact ⟨by decide, parsed, Statement.parse_exactly_writable.1 s.print s parsed⟩

end SqlStore.Sql
