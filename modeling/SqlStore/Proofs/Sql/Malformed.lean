import SqlStore.Proofs.Sql.Faults

namespace SqlStore.Sql

open Text (isBlank trimLeft)

variable {cs rest left : List Char} {e : SyntaxError} {ts : List Token}

/-! ## Where no token begins -/

def symbolStarts : List Char :=
  ['!', '<', '>', '*', '(', ')', ',', ';', '.', '-', '=']

/-- What is wrong with a text that begins with the character `c` and with no token. -/
inductive Malformed : Char → List Char → SyntaxError → Prop
  | string (body : List Char) : Malformed '\x27' (Lexeme.doubled body) .unclosedString
  | name {quote : Char} {cs : List Char} (isQuote : quote = '\x22' ∨ quote = '\x60')
      (unclosed : quote ∉ cs) : Malformed quote cs .unclosedName
  | exclamation {cs : List Char} (alone : cs.head? ≠ some '=') : Malformed '!' cs .loneExclamation
  | char {c : Char} {cs : List Char} (noWord : isSymbolStart c) (noSymbol : c ∉ symbolStarts) :
      Malformed c cs (.unexpectedChar c)

theorem Lexeme.doubled_cons (c : Char) (body : List Char) : doubled (c :: body) =
    (if c = '\x27' then ['\x27', '\x27'] else [c]) ++ doubled body :=
  List.flatMap_cons

theorem takeStringBody_eq_none : takeStringBody cs = none ↔ ∃ body, cs = Lexeme.doubled body := by
  fun_induction takeStringBody cs with
  | case1 => exact ⟨fun _ => ⟨[], rfl⟩, fun _ => rfl⟩
  | case2 cs ih =>
      refine Option.map_eq_none_iff.trans (ih.trans ⟨?_, ?_⟩)
      · rintro ⟨body, rfl⟩
        exact ⟨'\x27' :: body, rfl⟩
      · rintro ⟨_ | ⟨c, body⟩, eq⟩
        · cases eq
        · rw [Lexeme.doubled_cons] at eq
          split at eq
          · exact ⟨body, (List.cons.inj (List.cons.inj eq).2).2⟩
          · rename_i other
            exact absurd (List.cons.inj eq).1.symm other
  | case3 cs single =>
      constructor
      · rintro ⟨⟩
      rintro ⟨_ | ⟨c, body⟩, eq⟩
      · cases eq
      · rw [Lexeme.doubled_cons] at eq
        split at eq
        · exact (single _ (List.cons.inj eq).2).elim
        · rename_i other
          exact absurd (List.cons.inj eq).1.symm other
  | case4 c cs _ other ih =>
      refine Option.map_eq_none_iff.trans (ih.trans ⟨?_, ?_⟩)
      · rintro ⟨body, rfl⟩
        refine ⟨c :: body, ?_⟩
        rw [Lexeme.doubled_cons, if_neg other]
        rfl
      · rintro ⟨_ | ⟨d, body⟩, eq⟩
        · cases eq
        · rw [Lexeme.doubled_cons] at eq
          split at eq
          · exact absurd (List.cons.inj eq).1 other
          · exact ⟨body, (List.cons.inj eq).2⟩

theorem takeNameBody_eq_none {quote : Char} : takeNameBody quote cs = none ↔ quote ∉ cs := by
  induction cs with
  | nil => exact ⟨fun _ => List.not_mem_nil, fun _ => rfl⟩
  | cons c cs ih =>
      rw [takeNameBody, List.mem_cons, not_or]
      split
      · rename_i same
        simp [same]
      · rename_i other
        rw [Option.map_eq_none_iff, ih]
        exact ⟨fun absent => ⟨Ne.symm other, absent⟩, And.right⟩

theorem scanSymbol_eq_error {c : Char} : scanSymbol c cs = .error e ↔
    c = '!' ∧ cs.head? ≠ some '=' ∧ e = .loneExclamation ∨
      c ∉ symbolStarts ∧ e = .unexpectedChar c := by
  unfold scanSymbol
  split
  case h_2 stop =>
    have alone : cs.head? ≠ some '=' := by
      cases cs with
      | nil => nofun
      | cons d cs =>
          rintro ⟨⟩
          exact stop cs rfl
    simp [symbolStarts, alone, eq_comm]
  case h_16 =>
    have noSymbol : c ∉ symbolStarts := by simp_all [symbolStarts]
    simp_all [eq_comm]
  all_goals simp [symbolStarts]

theorem scanToken_eq_error {c : Char} (notBlank : isBlank c = false) :
    scanToken c cs = .error e ↔ Malformed c cs e := by
  constructor
  · intro failed
    unfold scanToken at failed
    split at failed
    · rename_i quote
      subst quote
      split at failed
      · cases failed
      · rename_i none
        cases failed
        obtain ⟨body, rfl⟩ := takeStringBody_eq_none.1 none
        exact .string body
    · rename_i noString
      split at failed
      · rename_i isQuote
        split at failed
        · cases failed
        · rename_i none
          cases failed
          exact .name (by simpa using isQuote) (takeNameBody_eq_none.1 none)
      · rename_i noName
        split at failed
        · cases failed
        · rename_i noDigit
          split at failed
          · cases failed
          · rename_i noWord
            rcases scanSymbol_eq_error.1 failed with ⟨rfl, alone, rfl⟩ | ⟨noSymbol, rfl⟩
            · exact .exclamation alone
            · refine .char ?_ noSymbol
              simp_all [isSymbolStart]
  · intro malformed
    cases malformed with
    | string body =>
        rw [scanToken, if_pos rfl, takeStringBody_eq_none.2 ⟨body, rfl⟩]
    | name isQuote unclosed =>
        have noString : c ≠ '\x27' := by
          rintro rfl
          exact absurd isQuote (by decide)
        rw [scanToken, if_neg noString, if_pos (by simpa using isQuote),
          takeNameBody_eq_none.2 unclosed]
    | exclamation alone =>
        rw [scanToken_symbol (by decide)]
        exact scanSymbol_eq_error.2 (.inl ⟨rfl, alone, rfl⟩)
    | char noWord noSymbol =>
        rw [scanToken_symbol noWord]
        exact scanSymbol_eq_error.2 (.inr ⟨noSymbol, rfl⟩)

/-! ## Tokens before a place -/

inductive Scans : List Char → List Token → List Char → Prop
  | done (cs : List Char) : Scans cs [] cs
  | token {cs rest rest' left : List Char} {c : Char} {t : Token} {ts : List Token}
      (trimmed : trimLeft cs = c :: rest) (token : scanToken c rest = .ok (t, rest'))
      (others : Scans rest' ts left) : Scans cs (t :: ts) left

theorem Scans.scan (scans : Scans cs ts left) : TokenStream.scan cs =
    ⟨ts ++ (TokenStream.scan left).tokens, (TokenStream.scan left).fault⟩ := by
  induction scans with
  | done => rfl
  | token trimmed token _ ih =>
      rw [scan_of_token trimmed token, ih]
      rfl

theorem Scans.length_le (scans : Scans cs ts left) : ts.length + left.length ≤ cs.length := by
  induction scans with
  | done => exact Nat.le_of_eq (Nat.zero_add _)
  | token trimmed token _ ih =>
      have shorter := length_lt_of_scanToken trimmed token
      rw [List.length_cons]
      omega

theorem not_blank_of_trimLeft {c : Char} (trimmed : trimLeft cs = c :: rest) :
    isBlank c = false := by
  rw [trimLeft] at trimmed
  have nonempty : cs.dropWhile isBlank ≠ [] := by
    rw [trimmed]
    exact List.cons_ne_nil c rest
  simpa only [trimmed, List.head_cons] using List.head_dropWhile_not isBlank nonempty

theorem exists_scans (cs : List Char) : ∃ ts left, Scans cs ts left ∧
    (trimLeft left = [] ∨ ∃ c rest e, trimLeft left = c :: rest ∧ Malformed c rest e) := by
  induction cs using TokenStream.scan.induct with
  | case1 cs blank => exact ⟨[], cs, .done cs, .inl blank⟩
  | case2 cs c rest trimmed e fault =>
      have malformed := (scanToken_eq_error (not_blank_of_trimLeft trimmed)).1 fault
      exact ⟨[], cs, .done cs, .inr ⟨c, rest, e, trimmed, malformed⟩⟩
  | case3 cs c rest trimmed t rest' token _ ih =>
      obtain ⟨ts, left, scans, ends⟩ := ih
      exact ⟨t :: ts, left, .token trimmed token scans, ends⟩

/-! ## White space after a text -/

theorem Malformed.append_blank {b c : Char} (blank : isBlank b) (malformed : Malformed c cs e) :
    Malformed c (cs ++ [b]) e := by
  cases malformed with
  | string body =>
      have doubled : Lexeme.doubled (body ++ [b]) = Lexeme.doubled body ++ [b] := by
        rw [Lexeme.doubled, List.flatMap_append, List.flatMap_singleton,
          if_neg (ne_of_blank blank (by decide)), ← Lexeme.doubled]
      rw [← doubled]
      exact .string _
  | name isQuote unclosed =>
      refine .name isQuote fun mem => ?_
      rcases List.mem_append.1 mem with inside | last
      · exact unclosed inside
      · rw [List.mem_singleton] at last
        subst last
        rcases isQuote with rfl | rfl <;> exact ne_of_blank blank (by decide) rfl
  | exclamation alone =>
      refine .exclamation ?_
      cases cs with
      | nil =>
          rintro ⟨⟩
          exact ne_of_blank blank (by decide) rfl
      | cons d cs => exact alone
  | char noWord noSymbol => exact .char noWord noSymbol

theorem scan_append_blank {b : Char} (blank : isBlank b) (cs : List Char) :
    TokenStream.scan (cs ++ [b]) = TokenStream.scan cs := by
  have goesOn {cs rest c} (trimmed : trimLeft cs = c :: rest) :
      trimLeft (cs ++ [b]) = c :: (rest ++ [b]) := by
    rw [trimLeft, List.dropWhile_append, ← trimLeft, trimmed]
    rfl
  induction cs using TokenStream.scan.induct with
  | case1 cs empty =>
      have same : trimLeft (cs ++ [b]) = [] := by
        rw [trimLeft, List.dropWhile_append, ← trimLeft, empty]
        exact List.dropWhile_cons_of_pos blank
      rw [scan_of_blank same, scan_of_blank empty]
  | case2 cs c rest trimmed e fault =>
      have malformed := (scanToken_eq_error (not_blank_of_trimLeft trimmed)).1 fault
      have fault' := (scanToken_eq_error (not_blank_of_trimLeft trimmed)).2
        (malformed.append_blank blank)
      rw [scan_of_fault (goesOn trimmed) fault', scan_of_fault trimmed fault]
  | case3 cs c rest trimmed t rest' token _ ih =>
      rw [scan_of_token (goesOn trimmed) (scanToken_append blank token []),
        scan_of_token trimmed token, ih]

theorem Statement.parse_append_blank {b : Char} (blank : isBlank b) (cs : List Char) :
    Statement.parse (String.ofList (cs ++ [b])) = Statement.parse (String.ofList cs) := by
  rw [Statement.parse, Statement.parse, String.toList_ofList, String.toList_ofList,
    scan_append_blank blank]

/-! ## Parsing a malformed text -/

theorem TokenStream.parse_eq_error {α : Type} {p : Parser α} {s : TokenStream} {e : SyntaxError} :
    s.parse p = .error e ↔ p.run s.fault s.tokens = .error e := by
  rw [TokenStream.parse, Parser.run]
  rcases p s.fault s.tokens with e' | r
  · constructor <;> rintro ⟨⟩ <;> rfl
  · constructor <;> rintro ⟨⟩

theorem Parser.wholeStatement_raises (e : SyntaxError) (ts : List Token) :
    ∃ e', TokenStream.parse wholeStatement ⟨ts, some e⟩ = .error e' ∧
      ∀ s, TokenStream.parse wholeStatement ⟨ts, none⟩ = .ok s → e' = e := by
  rcases Raises.wholeStatement e ts with same | raised
  · cases alone : wholeStatement.run none ts with
    | error e' =>
        refine ⟨e', TokenStream.parse_eq_error.2 (same.trans alone), fun s ok => ?_⟩
        obtain ⟨rest, ok⟩ := TokenStream.parse_eq_ok.1 ok
        cases alone.symm.trans ok
    | ok r =>
        -- A whole statement ends where there is nothing more, not even a fault.
        cases (run_wholeStatement_cases (same.trans alone)).1
  · exact ⟨e, TokenStream.parse_eq_error.2 raised, fun _ _ => rfl⟩

/-- Every loop of the parser takes a token in each round, and the scanner takes a text apart, at
least one character a token, to its end or to a place where no token begins. A text with such a
place is not parsed, and the error is that of the place if the tokens before it are a statement. -/
theorem Statement.parse_malformed (text : String) :
    Parser.LoopsTakeTokens ∧
    (∃ ts left, Scans text.toList ts left ∧ ts.length ≤ text.length ∧
      (trimLeft left = [] ∨ ∃ c rest e, trimLeft left = c :: rest ∧ Malformed c rest e)) ∧
    ∀ ts left c rest e, Scans text.toList ts left → trimLeft left = c :: rest →
      Malformed c rest e →
        (∃ e', Statement.parse text = .error e') ∧
        ∀ s, TokenStream.parse Parser.wholeStatement ⟨ts, none⟩ = .ok s →
          Statement.parse text = .error e := by
  refine ⟨Parser.loopsTakeTokens, ?_, ?_⟩
  · obtain ⟨ts, left, scans, ends⟩ := exists_scans text.toList
    have le := scans.length_le
    rw [String.length_toList] at le
    exact ⟨ts, left, scans, by omega, ends⟩
  · intro ts left c rest e scans trimmed malformed
    have fault := (scanToken_eq_error (not_blank_of_trimLeft trimmed)).2 malformed
    have stream : TokenStream.scan text.toList = ⟨ts, some e⟩ := by
      rw [scans.scan, scan_of_fault trimmed fault, List.append_nil]
    obtain ⟨e', raised, same⟩ := Parser.wholeStatement_raises e ts
    rw [Statement.parse, stream]
    refine ⟨⟨e', raised⟩, fun s ok => ?_⟩
    rw [raised, same s ok]

theorem Statement.parse_malformed_drop :
    let ts : List Token := [.keyword .drop, .keyword .table, .ident "t"]
    Scans "drop table t!".toList ts "!".toList ∧
      TokenStream.parse Parser.wholeStatement ⟨ts, none⟩ = .ok (.dropTable "t" false) ∧
      Statement.parse "drop table t!" = .error .loneExclamation := by
  intro ts
  have name : Scans [' ', 't', '!'] [.ident "t"] ['!'] :=
    .token rfl rfl (.done _)
  have table : Scans [' ', 't', 'a', 'b', 'l', 'e', ' ', 't', '!'] (ts.drop 1) ['!'] :=
    .token rfl rfl name
  have scans : Scans ['d', 'r', 'o', 'p', ' ', 't', 'a', 'b', 'l', 'e', ' ', 't', '!'] ts ['!'] :=
    .token rfl rfl table
  have writable : (Statement.dropTable "t" false).Writable := trivial
  have plain : (Statement.dropTable "t" false).Plain := by
    unfold Statement.Plain
    decide
  have alone : TokenStream.parse Parser.wholeStatement ⟨ts, none⟩ = .ok (.dropTable "t" false) :=
    TokenStream.parse_eq_ok.2 ⟨[], Parser.run_wholeStatement writable plain⟩
  obtain ⟨-, -, faults⟩ := Statement.parse_malformed "drop table t!"
  obtain ⟨-, raised⟩ := faults ts ['!'] '!' [] .loneExclamation scans rfl (.exclamation nofun)
  exact ⟨scans, alone, raised _ alone⟩

end SqlStore.Sql
