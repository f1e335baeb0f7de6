import SqlStore.Proofs.Sql.Statements

namespace SqlStore.Sql

open Text (blankRanges inRanges isBlank trimLeft)

/-! ## White space -/

theorem exists_of_inRanges {n : Nat} {ranges : List (Nat × Nat)} (mem : inRanges n ranges) :
    ∃ r ∈ ranges, r.1 ≤ n ∧ n ≤ r.2 := by
  induction ranges with
  | nil => cases mem
  | cons r ranges ih =>
      simp only [inRanges, Bool.and_eq_true, Bool.or_eq_true, decide_eq_true_eq] at mem
      rcases mem.2 with high | later
      · exact ⟨r, List.mem_cons_self, mem.1, high⟩
      · obtain ⟨r', mem', bounds⟩ := ih later
        exact ⟨r', List.mem_cons_of_mem r mem', bounds⟩

def blanks : List Char :=
  blankRanges.flatMap fun r => (List.range' r.1 (r.2 + 1 - r.1)).map Char.ofNat

theorem mem_blanks {b : Char} (blank : isBlank b) : b ∈ blanks := by
  obtain ⟨r, mem, low, high⟩ := exists_of_inRanges blank
  refine List.mem_flatMap.2 ⟨r, mem, List.mem_map.2 ⟨b.toNat, ?_, Char.ofNat_toNat b⟩⟩
  rw [List.mem_range'_1]
  omega

def continuers : List Char :=
  ['\x27', '\x22', '\x60', '=', '>', '.']

theorem blanks_separate {b : Char} (mem : b ∈ blanks) :
    b.isDigit = false ∧ isWordChar b = false ∧ b ∉ continuers := by
  have all : blanks.all fun b => !b.isDigit && !isWordChar b && !continuers.contains b := by
    decide +kernel
  simpa [and_assoc] using List.all_eq_true.1 all b mem

variable {b : Char}

theorem isDigit_of_blank (blank : isBlank b) : b.isDigit = false :=
  (blanks_separate (mem_blanks blank)).1

theorem isWordChar_of_blank (blank : isBlank b) : isWordChar b = false :=
  (blanks_separate (mem_blanks blank)).2.1

theorem ne_of_blank (blank : isBlank b) {c : Char} (continues : c ∈ continuers) : b ≠ c := by
  rintro rfl
  exact (blanks_separate (mem_blanks blank)).2.2 continues

/-! ## Texts that go on after white space -/

theorem dropWhile_append_stop {p : Char → Bool} {b : Char} (stop : p b = false) (cs ds : List Char) :
    (cs ++ b :: ds).dropWhile p = cs.dropWhile p ++ b :: ds := by
  induction cs with
  | nil => exact List.dropWhile_cons_of_neg (by simp [stop])
  | cons c cs ih =>
      rw [List.cons_append, List.dropWhile_cons, List.dropWhile_cons, ih]
      split <;> rfl

theorem takeWhile_append_stop {p : Char → Bool} {b : Char} (stop : p b = false) (cs ds : List Char) :
    (cs ++ b :: ds).takeWhile p = cs.takeWhile p := by
  induction cs with
  | nil => exact List.takeWhile_cons_of_neg (by simp [stop])
  | cons c cs ih => rw [List.cons_append, List.takeWhile_cons, List.takeWhile_cons, ih]

variable {c : Char} {t : Token} {cs body rest : List Char}

theorem takeStringBody_append (blank : isBlank b) (taken : takeStringBody cs = some (body, rest))
    (ds : List Char) :
    takeStringBody (cs ++ b :: ds) = some (body, rest ++ b :: ds) := by
  fun_induction takeStringBody cs generalizing body rest with
  | case1 => cases taken
  | case2 cs ih =>
      obtain ⟨⟨body', rest'⟩, taken, eq⟩ := Option.map_eq_some_iff.1 taken
      cases eq
      rw [List.cons_append, List.cons_append, takeStringBody, ih taken]
      rfl
  | case3 cs single =>
      cases taken
      rw [List.cons_append, takeStringBody]
      rintro rest eq
      cases cs with
      | nil =>
          cases eq
          exact ne_of_blank blank (by decide) rfl
      | cons d cs =>
          cases eq
          exact single cs rfl
  | case4 c cs _ other ih =>
      obtain ⟨⟨body', rest'⟩, taken, eq⟩ := Option.map_eq_some_iff.1 taken
      cases eq
      rw [List.cons_append, takeStringBody, ih taken]
      · rfl
      · exact fun _ quote _ => other quote
      · exact other

theorem takeNameBody_append {quote : Char} (b : Char) (taken : takeNameBody quote cs = some (body, rest))
    (ds : List Char) :
    takeNameBody quote (cs ++ b :: ds) = some (body, rest ++ b :: ds) := by
  induction cs generalizing body rest with
  | nil => cases taken
  | cons c cs ih =>
      rw [takeNameBody] at taken
      rw [List.cons_append, takeNameBody]
      split at taken
      · rename_i close
        cases taken
        rw [if_pos close]
      · rename_i other
        obtain ⟨⟨body', rest'⟩, taken, eq⟩ := Option.map_eq_some_iff.1 taken
        cases eq
        rw [if_neg other, ih taken]
        rfl

theorem scanNumber_append (blank : isBlank b) (c : Char) (cs ds : List Char) :
    scanNumber c (cs ++ b :: ds) = ((scanNumber c cs).1, (scanNumber c cs).2 ++ b :: ds) := by
  have digit := isDigit_of_blank blank
  rw [scanNumber, scanNumber, takeWhile_append_stop digit, dropWhile_append_stop digit]
  cases cs.dropWhile Char.isDigit with
  | nil => simp [ne_of_blank blank (c := '.') (by decide)]
  | cons d after =>
      by_cases point : d = '.'
      · subst d
        simp only [List.cons_append, takeWhile_append_stop digit, dropWhile_append_stop digit]
      · simp [point]

theorem scanSymbol_append (blank : isBlank b) (scanned : scanSymbol c cs = .ok (t, rest))
    (ds : List Char) :
    scanSymbol c (cs ++ b :: ds) = .ok (t, rest ++ b :: ds) := by
  have stays {d : Char} (stop : ∀ rest, cs = d :: rest → False) (continues : d ∈ continuers) :
      (cs ++ b :: ds).head? ≠ some d := by
    cases cs with
    | nil =>
        rintro ⟨⟩
        exact ne_of_blank blank continues rfl
    | cons c cs =>
        rintro ⟨⟩
        exact stop cs rfl
  unfold scanSymbol at scanned
  split at scanned <;> cases scanned
  case h_5 noEqual noGreater =>
    exact scanSymbol_less (stays noEqual (by decide)) (stays noGreater (by decide))
  case h_7 noEqual => exact scanSymbol_greater (stays noEqual (by decide))
  all_goals rfl

theorem scanToken_append (blank : isBlank b) (scanned : scanToken c cs = .ok (t, rest))
    (ds : List Char) :
    scanToken c (cs ++ b :: ds) = .ok (t, rest ++ b :: ds) := by
  rw [scanToken] at scanned ⊢
  split at scanned
  · rename_i quote
    rw [if_pos quote]
    split at scanned
    · rename_i body rest' taken
      cases scanned
      rw [takeStringBody_append blank taken]
    · cases scanned
  · rename_i noString
    rw [if_neg noString]
    split at scanned
    · rename_i quote
      rw [if_pos quote]
      split at scanned
      · rename_i body rest' taken
        cases scanned
        rw [takeNameBody_append b taken]
      · cases scanned
    · rename_i noName
      rw [if_neg noName]
      split at scanned
      · rename_i digit
        rw [if_pos digit, scanNumber_append blank, Except.ok.inj scanned]
      · rename_i noDigit
        rw [if_neg noDigit]
        split at scanned
        · rename_i start
          cases scanned
          have word := isWordChar_of_blank blank
          rw [if_pos start, takeWhile_append_stop word, dropWhile_append_stop word]
        · rename_i noWord
          rw [if_neg noWord]
          exact scanSymbol_append blank scanned ds

theorem scan_append (blank : isBlank b) (cs ds : List Char) (sound : (TokenStream.scan cs).fault = none) :
    TokenStream.scan (cs ++ b :: ds) =
      ⟨(TokenStream.scan cs).tokens ++ (TokenStream.scan ds).tokens, (TokenStream.scan ds).fault⟩ := by
  induction cs using TokenStream.scan.induct with
  | case1 cs empty =>
      have same : trimLeft (cs ++ b :: ds) = trimLeft ds := by
        rw [trimLeft, List.dropWhile_append, ← trimLeft, empty]
        exact List.dropWhile_cons_of_pos blank
      rw [scan_of_blank empty, scan_congr same]
      rfl
  | case2 cs c rest trimmed e fault =>
      rw [scan_of_fault trimmed fault] at sound
      cases sound
  | case3 cs c rest trimmed t rest' token shorter ih =>
      rw [scan_of_token trimmed token] at sound ⊢
      have goesOn : trimLeft (cs ++ b :: ds) = c :: (rest ++ b :: ds) := by
        rw [trimLeft, List.dropWhile_append, ← trimLeft, trimmed]
        rfl
      rw [scan_of_token goesOn (scanToken_append blank token ds), ih sound]
      rfl

/-! ## Tokens before a LIMIT clause -/

theorem Starts.append_limit {P : Token → Bool} {ts : List Token} (starts : Starts P ts)
    (limit : P (.keyword .limit)) (more : List Token) :
    Starts P (ts ++ .keyword .limit :: more) := by
  cases ts with
  | nil => exact .cons limit
  | cons t ts => exact .cons starts.head

/-! ## Comparisons -/

theorem written_eq (xs : List Lexeme) (rest : List Token) :
    written xs rest = xs.map Lexeme.token ++ rest := by
  induction xs with
  | nil => rfl
  | cons x xs ih => exact congrArg (x.token :: ·) ih

theorem BinaryOp.length_lexemes_pos (op : BinaryOp) : 0 < op.lexemes.length := by
  cases op <;> exact Nat.zero_lt_succ _

namespace Parser

theorem run_expect_eq_ok {t : Token} {ts rest : List Token}
    (ok : (Parser.expect t).run none ts = .ok ((), rest)) : ts = t :: rest := by
  obtain ⟨got, mid, took, last⟩ := run_bind_eq_ok.1 ok
  obtain rfl := run_next_eq_ok.1 took
  split at last
  · rename_i same
    cases last
    rw [same]
  · cases last

theorem written_of_comparison {t : Token} {op : BinaryOp} (compares : comparison? t = some op) :
    op.level = 2 ∧ ∀ rest, t :: rest = written op.lexemes rest := by
  cases t with
  | keyword k => cases k <;> cases compares; exact ⟨rfl, fun _ => rfl⟩
  | _ => cases compares <;> exact ⟨rfl, fun _ => rfl⟩

theorem run_comparison_cases {ts rest : List Token} {e : Expr}
    (ok : run comparison none ts = .ok (e, rest)) : ∃ l mid, run operand none ts = .ok (l, mid) ∧
      (Starts endsOperand mid ∧ e = l ∧ rest = mid ∨ ∃ op r mid', op.level = 2 ∧
        mid = written op.lexemes mid' ∧ run operand none mid' = .ok (r, rest) ∧
        e = .binary op l r) := by
  obtain ⟨le, ok⟩ := run_eq_ok.1 ok
  rw [comparison] at ok
  obtain ⟨⟨⟨l, mid⟩, le₁⟩, first, ok⟩ := bind_eq_ok.1 ok
  refine ⟨l, mid, run_eq_ok.2 ⟨le₁, first⟩, ?_⟩
  dsimp only at ok
  split at ok
  · cases ok
    exact .inl ⟨.nil, rfl, rfl⟩
  · obtain ⟨⟨⟨r, _⟩, le₂⟩, second, ok⟩ := bind_eq_ok.1 ok
    cases ok
    exact .inr ⟨.isNot, r, _, rfl, rfl, run_eq_ok.2 ⟨le₂, second⟩, rfl⟩
  · obtain ⟨⟨⟨r, _⟩, le₂⟩, second, ok⟩ := bind_eq_ok.1 ok
    cases ok
    exact .inr ⟨.is, r, _, rfl, rfl, run_eq_ok.2 ⟨le₂, second⟩, rfl⟩
  · obtain ⟨⟨⟨⟨⟩, mid'⟩, le₂⟩, like, ok⟩ := bind_eq_ok.1 ok
    obtain ⟨⟨⟨r, _⟩, le₃⟩, second, ok⟩ := bind_eq_ok.1 ok
    cases ok
    obtain rfl := run_expect_eq_ok (run_eq_ok.2 ⟨le₂, like⟩)
    exact .inr ⟨.notLike, r, _, rfl, rfl, run_eq_ok.2 ⟨le₃, second⟩, rfl⟩
  · rename_i t r₂ _ _ noIs noNot
    split at ok
    · rename_i op compares
      obtain ⟨⟨⟨r, _⟩, le₂⟩, second, ok⟩ := bind_eq_ok.1 ok
      cases ok
      obtain ⟨level, same⟩ := written_of_comparison compares
      exact .inr ⟨op, r, _, level, same _, run_eq_ok.2 ⟨le₂, second⟩, rfl⟩
    · rename_i alone
      cases ok
      have ends : endsOperand t := by
        simp only [endsOperand, alone, Option.isNone_none, Bool.true_and, Bool.and_eq_true,
          decide_eq_true_eq]
        exact ⟨noIs, noNot⟩
      exact .inl ⟨.cons ends, rfl, rfl⟩

variable {α β : Type}

/-! ## Parsers before a LIMIT clause -/

/-- Whether what a parser makes of the tokens `ts` is the same before a `LIMIT` clause. What it
leaves are the last of the tokens. -/
def SteadyAt (p : Parser α) (ts : List Token) : Prop :=
  ∀ ⦃a rest⦄, p.run none ts = .ok (a, rest) → rest <:+ ts ∧
    ∀ more, p.run none (ts ++ .keyword .limit :: more) = .ok (a, rest ++ .keyword .limit :: more)

def Steady (p : Parser α) : Prop :=
  ∀ ts, SteadyAt p ts

namespace SteadyAt

variable {p : Parser α} {ts : List Token}

theorem bind {f : α → Parser β} (first : SteadyAt p ts)
    (last : ∀ a mid, p.run none ts = .ok (a, mid) → SteadyAt (f a) mid) : SteadyAt (p >>= f) ts := by
  intro b rest ok
  obtain ⟨a, mid, ok₁, ok₂⟩ := run_bind_eq_ok.1 ok
  obtain ⟨suffix₁, goesOn₁⟩ := first ok₁
  obtain ⟨suffix₂, goesOn₂⟩ := last a mid ok₁ ok₂
  exact ⟨suffix₂.trans suffix₁, fun more => (run_bind_of_ok (goesOn₁ more)).trans (goesOn₂ more)⟩

theorem congr {q : Parser α} (steady : SteadyAt q ts) (same : p.run none ts = q.run none ts)
    (goesOn : ∀ more, p.run none (ts ++ .keyword .limit :: more) =
      q.run none (ts ++ .keyword .limit :: more)) : SteadyAt p ts := by
  intro a rest ok
  obtain ⟨suffix, goesOn'⟩ := steady (same.symm.trans ok)
  exact ⟨suffix, fun more => (goesOn more).trans (goesOn' more)⟩

theorem cons {q : Parser α} {t : Token} (steady : SteadyAt q ts)
    (same : ∀ us, p.run none (t :: us) = q.run none us) : SteadyAt p (t :: ts) := by
  intro a rest ok
  obtain ⟨suffix, goesOn⟩ := steady ((same ts).symm.trans ok)
  exact ⟨suffix.trans (List.suffix_cons t ts), fun more => (same _).trans (goesOn more)⟩

theorem of_starts {P : Token → Bool} {a : α} (starts : Starts P ts) (limit : P (.keyword .limit))
    (same : ∀ us, Starts P us → p.run none us = .ok (a, us)) : SteadyAt p ts := by
  intro a' rest ok
  cases (same ts starts).symm.trans ok
  exact ⟨List.suffix_refl ts, fun more => same _ (starts.append_limit limit more)⟩

end SteadyAt

namespace Steady

theorem pure (a : α) : Steady (pure a : Parser α) := by
  rintro ts _ rest ⟨⟩
  exact ⟨List.suffix_refl ts, fun more => rfl⟩

theorem fail (e : SyntaxError) : Steady (fail e : Parser α) := by
  rintro ts a rest ⟨⟩

theorem lift (x : Except SyntaxError α) : Steady (lift x) := by
  cases x with
  | ok a => exact pure a
  | error e => exact fail e

theorem bind {p : Parser α} {f : α → Parser β} (first : Steady p) (last : ∀ a, Steady (f a)) :
    Steady (p >>= f) :=
  fun ts => (first ts).bind fun a mid _ => last a mid

theorem map {p : Parser α} (steady : Steady p) (g : α → β) : Steady (g <$> p) :=
  steady.bind fun a => .pure (g a)

theorem ite {c : Prop} [Decidable c] {p q : Parser α} (yes : Steady p) (no : Steady q) :
    Steady (if c then p else q) := by
  split
  · exact yes
  · exact no

theorem next : Steady next := by
  intro ts t rest ok
  obtain rfl := run_next_eq_ok.1 ok
  exact ⟨List.suffix_cons t rest, fun more => rfl⟩

theorem takeIf {p : Token → Bool} (limit : p (.keyword .limit) = false) : Steady (takeIf? p) := by
  intro ts
  have none {us : List Token} (starts : Starts (fun t => !p t) us) : SteadyAt (takeIf? p) us :=
    .of_starts starts (by rw [limit]; rfl) fun _ starts => run_takeIf_of_starts starts
  cases ts with
  | nil => exact none .nil
  | cons t ts =>
      cases takes : p t with
      | true =>
          refine (pure (some t) ts).cons fun us => ?_
          simp [takeIf?, Parser.run, Except.map, takes, Pure.pure]
      | false => exact none (.cons (by rw [takes]; rfl))

theorem accept {t : Token} (other : t ≠ .keyword .limit) : Steady (accept t) := by
  refine bind (takeIf ?_) fun taken => .pure taken.isSome
  exact beq_false_of_ne other.symm

theorem expect (t : Token) : Steady (expect t) :=
  .bind next fun _ => .ite (.pure ()) (.fail _)

theorem name : Steady name := by
  refine .bind next fun t => ?_
  split
  · exact .pure _
  · exact .fail _

/-! ### Lists -/

theorem moreItems {item : Parser α} (each : Steady item) : Steady (moreItems item) := by
  intro ts
  induction ts using @moreItems.induct α with
  | case1 ts ih =>
      refine .cons (.bind (each ts) fun a mid first => ?_) fun us => run_moreItems item
      exact .bind (ih a mid (run_eq_ok.1 first).1) fun as mid _ => pure (a :: as) mid
  | case2 ts other =>
      exact .of_starts (.of_ne other) (by decide) fun us => run_moreItems_of_starts item

theorem items {item : Parser α} (each : Steady item) : Steady (items item) :=
  .bind each fun _ => .bind (moreItems each) fun _ => .pure _

theorem dottedNames : Steady dottedNames := by
  intro ts
  induction ts using dottedNames.induct with
  | case1 ts ih =>
      refine .cons (.bind (name ts) fun s mid first => ?_) fun us => run_dottedNames
      exact .bind (ih s mid (run_eq_ok.1 first).1) fun more mid _ => pure (s :: more) mid
  | case2 ts other =>
      exact .of_starts (.of_ne other) (by decide) fun us => run_dottedNames_of_starts

theorem tableName : Steady tableName :=
  .bind name fun _ => .bind dottedNames fun _ => .pure _

/-! ### Expressions -/

theorem literal : Steady literal := by
  refine .bind next fun t => ?_
  split
  · exact .bind (lift _) fun l => .pure _
  · refine .bind next fun t => ?_
    split
    · exact .bind (lift _) fun l => .pure _
    · exact .fail _
  · exact .pure _
  · exact .pure _
  · exact .pure _
  · exact .pure _
  · exact .fail _

theorem columnRefFrom (first : String) : Steady (columnRefFrom first) := by
  refine .bind (accept (by decide)) fun qualified => .ite ?_ (.pure _)
  exact .bind name fun s => .pure _

theorem columnRef : Steady columnRef :=
  .bind name columnRefFrom

theorem comparisonAt {ts : List Token} (left : SteadyAt operand ts)
    (right : ∀ us, us.length < ts.length → SteadyAt operand us) : SteadyAt comparison ts := by
  intro e rest ok
  obtain ⟨l, mid, first, cases⟩ := run_comparison_cases ok
  obtain ⟨suffix, goesOn⟩ := left first
  rcases cases with ⟨alone, rfl, rfl⟩ | ⟨op, r, mid', compares, rfl, second, rfl⟩
  · exact ⟨suffix, fun more =>
      run_comparison_of_starts (goesOn more) (alone.append_limit (by decide) more)⟩
  · rw [written_eq] at first suffix
    have shorter : mid'.length < ts.length := by
      have le := suffix.length_le
      have operator := op.length_lexemes_pos
      rw [List.length_append, List.length_map] at le
      omega
    obtain ⟨suffix', goesOn'⟩ := right mid' shorter second
    refine ⟨suffix'.trans ((List.suffix_append _ _).trans suffix), fun more => ?_⟩
    refine run_comparison compares ?_ (goesOn' more)
    rw [written_eq, ← List.append_assoc, ← written_eq]
    exact goesOn more

theorem condition : Steady condition := by
  -- By the recursion of the six parsers.
  intro ts
  refine (operand.mutual_induct (SteadyAt operand) (SteadyAt disjunction)
    (fun l => SteadyAt (moreDisjuncts l)) (SteadyAt conjunction)
    (fun l => SteadyAt (moreConjuncts l)) (SteadyAt comparison)
    ?openParen ?ident ?literal ?disjunction ?or ?orEnd ?conjunction ?and ?andEnd ?comparison).2.1 ts
  case openParen =>
    intro rest ih
    refine .cons (.bind ih fun e mid _ => ?_) fun us => run_operand_openParen
    exact bind (expect .closeParen) (fun _ => .pure e) mid
  case ident =>
    intro s rest
    refine .congr ?_ run_operand_ident fun more => run_operand_ident
    exact bind columnRef (fun c => .pure (Expr.column c)) (.ident s :: rest)
  case literal =>
    intro ts noParen noName
    refine (literal ts).congr (run_operand_literal noParen noName) fun more => ?_
    cases ts with
    | nil => exact run_operand_literal (by simp) (by simp)
    | cons t ts =>
        refine run_operand_literal ?_ ?_
        · rintro _ ⟨⟩
          exact noParen ts rfl
        · rintro s _ ⟨⟩
          exact noName s ts rfl
  case disjunction =>
    intro ts first others
    refine .congr (.bind first fun l mid ok => ?_) run_disjunction fun more => run_disjunction
    exact others l mid (run_eq_ok.1 ok).1
  case or =>
    intro l rest first others
    refine .cons (.bind first fun right mid ok => ?_) fun us => run_moreDisjuncts
    exact others right mid (run_eq_ok.1 ok).1
  case orEnd =>
    intro l ts other
    exact .of_starts (.of_ne other) (by decide) fun us => run_moreDisjuncts_of_starts
  case conjunction =>
    intro ts first others
    refine .congr (.bind first fun l mid ok => ?_) run_conjunction fun more => run_conjunction
    exact others l mid (run_eq_ok.1 ok).1
  case and =>
    intro l rest first others
    refine .cons (.bind first fun right mid ok => ?_) fun us => run_moreConjuncts
    exact others right mid (run_eq_ok.1 ok).1
  case andEnd =>
    intro l ts other
    exact .of_starts (.of_ne other) (by decide) fun us => run_moreConjuncts_of_starts
  case comparison =>
    intro ts left _ _ _ right
    exact comparisonAt left fun us shorter => right (.literal .null) [] .comma us shorter

theorem conditionAfter {k : Keyword} (other : k ≠ .limit) : Steady (conditionAfter? k) := by
  refine .bind (accept (by simpa using other)) fun found => .ite ?_ (.pure _)
  exact .bind condition fun e => .pure _

/-! ### Clauses -/

theorem alias? : Steady alias? := by
  refine .bind (accept (by decide)) fun written => .ite (.bind name fun s => .pure _) ?_
  refine .bind (takeIf rfl) fun t? => ?_
  split
  · exact .pure _
  · exact .pure _

theorem selectExpr : Steady selectExpr := by
  refine .bind name fun first => .bind (accept (by decide)) fun called => .ite ?_ ?_
  · refine .bind ?_ fun f => .bind (accept (by decide)) fun star => .ite ?_ ?_
    · unfold aggregate
      split
      · exact .pure _
      · exact .fail _
    · refine .ite (.bind (fail _) fun _ => ?_) ?_
      · exact .bind (expect _) fun _ => .pure _
      · exact .bind (expect _) fun _ => .pure _
    · exact .bind columnRef fun c => .bind (expect _) fun _ => .pure _
  · exact .bind (columnRefFrom first) fun c => .pure _

theorem selectItem : Steady selectItem :=
  .bind selectExpr fun _ => .bind alias? fun _ => .pure _

theorem sortKey : Steady sortKey := by
  refine .bind selectExpr fun e => .bind (accept (by decide)) fun descends => .ite (.pure _) ?_
  exact .bind ((accept (by decide)).map _) fun _ => .pure _

theorem itemsBy {k : Keyword} (other : k ≠ .limit) {item : Parser α} (each : Steady item) :
    Steady (itemsBy k item) := by
  refine .bind (accept (by simpa using other)) fun found => .ite ?_ (.pure _)
  exact .bind (expect _) fun _ => items each

theorem joinedTable (start : Token) (kind : JoinKind) : Steady (joinedTable start kind) := by
  refine .bind ?_ fun _ => .bind tableName fun table => .bind alias? fun a => ?_
  · unfold joinWords
    split
    · exact .pure ()
    · exact .pure ()
    · exact .bind ((accept (by decide)).map _) fun _ => expect _
    · exact .bind ((accept (by decide)).map _) fun _ => expect _
    · exact .bind ((accept (by decide)).map _) fun _ => expect _
    · exact expect _
  · refine .ite (.bind (pure _) fun on? => .pure _) ?_
    exact .bind (conditionAfter (by decide)) fun on? => .pure _

theorem moreTables : Steady moreTables := by
  intro ts
  have ends {us : List Token} (starts : Starts (fun t => (joinKind? t).isNone) us) :
      SteadyAt Parser.moreTables us :=
    .of_starts starts rfl fun us starts => run_moreTables_of_starts starts fun _ => rfl
  induction ts using Parser.moreTables.induct none with
  | case1 e faulty => cases faulty
  | case2 noFault => exact ends .nil
  | case3 t ts alone => exact ends (.cons (Option.isNone_iff_eq_none.2 alone))
  | case4 t ts kind joins ih =>
      refine .cons (.bind (joinedTable t kind ts) fun item mid first => ?_)
        fun us => run_moreTables joins
      exact .bind (ih item mid (run_eq_ok.1 first).1) fun more mid _ => pure (item :: more) mid

theorem fromTables : Steady fromTables :=
  .bind tableName fun _ => .bind alias? fun _ => .bind moreTables fun _ => .pure _

end Steady

end Parser

end SqlStore.Sql
