import SqlStore.Proofs.Sql.Continuing

namespace SqlStore.Sql

namespace Parser

variable {α : Type}

/-! ## The parser of a clause -/

theorem limit?_none {ts rest : List Token} (ok : limit?.run none ts = .ok (none, rest)) :
    rest = ts := by
  cases ts with
  | nil =>
      cases ok
      rfl
  | cons t ts =>
      by_cases limit : t = .keyword .limit
      · subst t
        have given : Ensures (· ≠ none) (do
            let first ← literal
            if ← accept .comma then return some [first, ← literal]
            if ← accept (.keyword .offset) then return some [← literal, first]
            return some [.literal (.int 0), first]) := by
          refine .after fun a => .after fun comma => .ite (fun _ => .after fun b => .pure nofun)
            fun _ => .after fun offset => .ite (fun _ => .after fun b => .pure nofun) fun _ => ?_
          exact .pure nofun
        exact absurd rfl (given ((run_bind_of_ok (run_accept (.keyword .limit))).symm.trans ok))
      · have absent : Starts (· ≠ .keyword .limit) (t :: ts) := .cons (decide_eq_true limit)
        cases (run_bind_of_ok (run_accept_of_starts absent)).symm.trans ok
        rfl

/-! ## SELECT before a clause -/

/-- Whether a parser that takes the end of a `SELECT` without `LIMIT` takes a `LIMIT` clause after
it, and gives the same `SELECT` with that clause. -/
def Limitable (p : Parser Statement) : Prop :=
  ∀ ⦃ts s rest⦄, p.run none ts = .ok (.select s, rest) → s.limit? = none → rest <:+ ts ∧
    (rest = [] → ∀ ⦃arguments more⦄,
      limit?.run none (.keyword .limit :: more) = .ok (some arguments, []) →
      p.run none (ts ++ .keyword .limit :: more) =
        .ok (.select { s with limit? := some arguments }, []))

theorem Steady.limitable {p : Parser α} {f : α → Parser Statement} (first : Steady p)
    (last : ∀ a, Limitable (f a)) : Limitable (p >>= f) := by
  intro ts s rest ok unlimited
  obtain ⟨a, mid, ok₁, ok₂⟩ := run_bind_eq_ok.1 ok
  obtain ⟨suffix₁, goesOn₁⟩ := first ts ok₁
  obtain ⟨suffix₂, goesOn₂⟩ := last a ok₂ unlimited
  refine ⟨suffix₂.trans suffix₁, fun atEnd arguments more limits => ?_⟩
  exact (run_bind_of_ok (goesOn₁ more)).trans (goesOn₂ atEnd limits)

theorem limitable_limit (items : List SelectItem) (tables : List FromItem) (where? : Option Expr)
    (groupBy : List ColumnRef) (orderBy : List (Expr × Direction)) :
    Limitable (limit? >>= fun limit? =>
      pure (.select { items, tables, where?, groupBy, orderBy, limit? })) := by
  intro ts s rest ok unlimited
  obtain ⟨l, mid, limited, last⟩ := run_bind_eq_ok.1 ok
  cases last
  obtain rfl : l = none := unlimited
  obtain rfl := limit?_none limited
  refine ⟨List.suffix_refl _, ?_⟩
  rintro rfl arguments more limits
  exact run_bind_of_ok limits

theorem limitable_select : Limitable select := by
  refine (Steady.expect _).limitable fun _ => (Steady.accept (by decide)).limitable fun star => ?_
  extract_lets clauses
  have limitable (items : List SelectItem) : Limitable (clauses items) := by
    refine (Steady.expect _).limitable fun _ => Steady.fromTables.limitable fun tables => ?_
    refine (Steady.conditionAfter (by decide)).limitable fun where? => ?_
    refine (Steady.itemsBy (by decide) Steady.columnRef).limitable fun groupBy => ?_
    refine (Steady.itemsBy (by decide) Steady.sortKey).limitable fun orderBy => ?_
    exact limitable_limit items tables where? groupBy orderBy
  split
  · exact (Steady.pure []).limitable limitable
  · exact (Steady.items Steady.selectItem).limitable limitable

/-! ## Whole statements -/

theorem Limitable.of_ensures {p : Parser Statement}
    (never : Ensures (fun s => ∀ q, s ≠ .select q) p) : Limitable p :=
  fun _ s _ ok => absurd rfl (never ok s)

theorem Limitable.peeked {f : Option Token → Parser Statement}
    (atEnd : Ensures (fun s => ∀ q, s ≠ .select q) (f none))
    (each : ∀ t, Limitable (f (some t))) : Limitable (peek? >>= f) := by
  intro ts s rest ok unlimited
  cases ts with
  | nil =>
      have peeked : peek?.run none [] = .ok (none, []) := rfl
      exact absurd rfl (atEnd ((run_bind_of_ok peeked).symm.trans ok) s)
  | cons t ts =>
      obtain ⟨suffix, goesOn⟩ := each t ((run_bind_of_ok (run_peek t)).symm.trans ok) unlimited
      exact ⟨suffix, fun atEnd arguments more limits =>
        (run_bind_of_ok (run_peek t)).trans (goesOn atEnd limits)⟩

theorem limitable_statement : Limitable statement := by
  refine .peeked (.fail _) fun t => ?_
  split
  · exact .of_ensures (.after fun _ => .after fun _ => .after fun _ => .after fun _ => .after fun _ =>
      .after fun _ => .pure nofun)
  · refine .of_ensures (.after fun _ => .after fun _ => .after fun _ => .ite (fun _ => ?_) fun _ => ?_)
    · exact .after fun _ => .after fun _ => .pure nofun
    · exact .after fun _ => .pure nofun
  · exact limitable_select
  · refine .of_ensures (.after fun _ => .after fun _ => .after fun _ => .after fun _ => ?_)
    extract_lets rest
    have never (columns? : Option (List String)) :
        Ensures (fun s => ∀ q, s ≠ .select q) (rest columns?) :=
      .after fun _ => .after fun _ => .pure nofun
    exact .ite (fun _ => .after never) fun _ => .after never
  · exact .of_ensures (.after fun _ => .after fun _ => .after fun _ => .after fun _ => .after fun _ =>
      .after fun _ => .pure nofun)
  · exact .of_ensures (.after fun _ => .after fun _ => .after fun _ => .after fun _ => .pure nofun)
  all_goals exact .of_ensures (.fail _)

theorem run_wholeStatement_cases {fault : Option SyntaxError} {ts rest : List Token} {s : Statement}
    (ok : wholeStatement.run fault ts = .ok (s, rest)) : fault = none ∧
      (statement.run none ts = .ok (s, []) ∨ statement.run none ts = .ok (s, [.semicolon])) := by
  obtain ⟨s', mid, parsed, ok⟩ := run_bind_eq_ok.1 ok
  obtain ⟨⟨⟩, mid', closed, ok⟩ := run_bind_eq_ok.1 ok
  obtain ⟨t?, mid'', peeked, ok⟩ := run_bind_eq_ok.1 ok
  have atEnd : mid' = [] ∧ fault = none ∧ s' = s := by
    cases mid' with
    | nil =>
        cases fault with
        | none =>
            cases peeked
            cases ok
            exact ⟨rfl, rfl, rfl⟩
        | some e => cases peeked
    | cons t mid' =>
        have peeked' : peek?.run fault (t :: mid') = .ok (some t, t :: mid') := by
          cases fault <;> rfl
        cases peeked'.symm.trans peeked
        cases ok
  obtain ⟨rfl, rfl, rfl⟩ := atEnd
  refine ⟨rfl, ?_⟩
  cases mid with
  | nil => exact .inl parsed
  | cons t mid =>
      rw [run_discard] at closed
      by_cases semicolon : t = .semicolon
      · subst t
        rw [run_accept] at closed
        cases closed
        exact .inr parsed
      · rw [run_accept_of_starts (.cons (decide_eq_true semicolon))] at closed
        cases closed

theorem run_wholeStatement_of_statement {ts : List Token} {s : Statement}
    (ok : statement.run none ts = .ok (s, [])) : wholeStatement.run none ts = .ok (s, []) :=
  (run_bind_of_ok ok).trans rfl

end Parser

/-! ## Texts of LIMIT clauses -/

open SqlStore.Sql.Parser

def limitTexts (offset count : Nat) : List String :=
  [" LIMIT " ++ toString offset ++ ", " ++ toString count,
    " LIMIT " ++ toString count ++ " OFFSET " ++ toString offset] ++
      if offset = 0 then [" LIMIT " ++ toString count] else []

def limitArguments (offset count : Nat) : List Expr :=
  [.literal (.int (.ofNat offset)), .literal (.int (.ofNat count))]

def limitForms (offset count : Nat) : List (List Lexeme) :=
  [[.keyword .limit, .digits offset, .comma, .digits count],
    [.keyword .limit, .digits count, .keyword .offset, .digits offset]] ++
      if offset = 0 then [[.keyword .limit, .digits count]] else []

theorem limitTexts_eq (offset count : Nat) : limitTexts offset count =
    (limitForms offset count).map fun xs => String.ofList (' ' :: spelled xs) := by
  have spell {xs : List Lexeme} {clause : String} (eq : ' ' :: spelled xs = clause.toList) :
      String.ofList (' ' :: spelled xs) = clause := by
    rw [eq, String.ofList_toList]
  have comma : ' ' :: spelled [.keyword .limit, .digits offset, .comma, .digits count] =
      (" LIMIT " ++ toString offset ++ ", " ++ toString count).toList := by
    simp [spelled, Lexeme.gap, Lexeme.touches, Lexeme.text, Lexeme.token, Token.text, Keyword.text]
  have word : ' ' :: spelled [.keyword .limit, .digits count, .keyword .offset, .digits offset] =
      (" LIMIT " ++ toString count ++ " OFFSET " ++ toString offset).toList := by
    simp [spelled, Lexeme.gap, Lexeme.touches, Lexeme.text, Lexeme.token, Token.text, Keyword.text]
  have alone : ' ' :: spelled [.keyword .limit, .digits count] =
      (" LIMIT " ++ toString count).toList := by
    simp [spelled, Lexeme.gap, Lexeme.touches, Lexeme.text, Lexeme.token, Token.text, Keyword.text]
  rw [limitTexts, limitForms, List.map_append, List.map_cons, List.map_singleton, spell comma,
    spell word]
  split
  · rw [List.map_singleton, spell alone]
  · rfl

theorem mem_limitForms {offset count : Nat} {form : List Lexeme}
    (mem : form ∈ limitForms offset count) :
    form = [.keyword .limit, .digits offset, .comma, .digits count] ∨
      form = [.keyword .limit, .digits count, .keyword .offset, .digits offset] ∨
      offset = 0 ∧ form = [.keyword .limit, .digits count] := by
  rw [limitForms, List.mem_append] at mem
  split at mem
  · rename_i zero
    simpa [zero, or_assoc] using mem
  · rename_i some
    simpa [some] using mem

theorem lexemes_ofNat {n : Nat} (small : n < 2 ^ 63) :
    (Literal.int (.ofNat n)).lexemes = [.digits n] := by
  have value : (Int64.ofNat n).toInt = n := Int64.toInt_ofNat_of_lt small
  rw [Literal.lexemes, value, if_neg (by omega)]
  rfl

theorem run_limitForm {offset count : Nat} (small : offset < 2 ^ 63) (small' : count < 2 ^ 63)
    {form : List Lexeme} (mem : form ∈ limitForms offset count) :
    limit?.run none (written form []) = .ok (some (limitArguments offset count), []) := by
  have taken {n : Nat} (small : n < 2 ^ 63) (rest : List Token) :
      literal.run none ((Lexeme.digits n).token :: rest) = .ok (.literal (.int (.ofNat n)), rest) := by
    have taken : literal.run none (written (Literal.int (.ofNat n)).lexemes rest) =
        .ok (.literal (.int (.ofNat n)), rest) := run_literal nofun
    rw [lexemes_ofNat small] at taken
    exact taken
  have limit (rest : List Token) : (accept (.keyword .limit)).run none (.keyword .limit :: rest) =
      .ok (true, rest) := run_accept _
  have noComma {rest : List Token} (starts : Starts (· ≠ .comma) rest) :
      (accept .comma).run none rest = .ok (false, rest) := run_accept_of_starts starts
  rcases mem_limitForms mem with rfl | rfl | ⟨rfl, rfl⟩
  · refine (run_bind_of_ok (limit _)).trans ((run_bind_of_ok (taken small _)).trans ?_)
    refine (run_bind_of_ok (run_accept .comma)).trans ?_
    exact run_bind_of_ok (taken small' [])
  · refine (run_bind_of_ok (limit _)).trans ((run_bind_of_ok (taken small' _)).trans ?_)
    refine (run_bind_of_ok (noComma (.cons (by decide)))).trans ?_
    refine (run_bind_of_ok (run_accept (.keyword .offset))).trans ?_
    exact run_bind_of_ok (taken small [])
  · refine (run_bind_of_ok (limit _)).trans ((run_bind_of_ok (taken small' _)).trans ?_)
    refine (run_bind_of_ok (noComma .nil)).trans ?_
    exact run_bind_of_ok (run_accept_of_starts .nil)

theorem Statement.parse_limited {sql : String} {s : Select}
    (parsed : Statement.parse sql = .ok (.select s)) (unlimited : s.limit? = none)
    (unclosed : (TokenStream.scan sql.toList).tokens.getLast? ≠ some .semicolon)
    {offset count : Nat} (small : offset < 2 ^ 63) (small' : count < 2 ^ 63) {clause : String}
    (written : clause ∈ limitTexts offset count) : Statement.parse (sql ++ clause) =
      .ok (.select { s with limit? := some (limitArguments offset count) }) := by
  rw [limitTexts_eq] at written
  obtain ⟨form, mem, rfl⟩ := List.mem_map.1 written
  obtain ⟨plain, more, begins⟩ : (∀ x ∈ form, x.isPlain) ∧
      ∃ more, Sql.written form [] = .keyword .limit :: more := by
    rcases mem_limitForms mem with rfl | rfl | ⟨rfl, rfl⟩ <;>
    exact ⟨by simp [Lexeme.isPlain], _, rfl⟩
  have limits := run_limitForm small small' mem
  obtain ⟨rest, ok⟩ := TokenStream.parse_eq_ok.1 parsed
  obtain ⟨sound, whole | closed⟩ := run_wholeStatement_cases ok
  · obtain ⟨-, goesOn⟩ := limitable_statement whole unlimited
    rw [begins] at limits
    have all := run_wholeStatement_of_statement (goesOn rfl limits)
    have blank : Text.isBlank ' ' := by decide
    have scanned := scan_append blank sql.toList (spelled form) sound
    rw [scan_spelled plain, begins] at scanned
    rw [Statement.parse, String.toList_append, String.toList_ofList, scanned]
    exact TokenStream.parse_eq_ok.2 ⟨[], all⟩
  · obtain ⟨suffix, -⟩ := limitable_statement closed unlimited
    obtain ⟨before, eq⟩ := suffix
    rw [← eq, List.getLast?_concat] at unclosed
    exact absurd rfl unclosed

end SqlStore.Sql
