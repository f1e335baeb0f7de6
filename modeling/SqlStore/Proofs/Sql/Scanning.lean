import SqlStore.Proofs.Decimal
import SqlStore.Proofs.Sql.Printing

namespace SqlStore.Sql

open Text (isBlank trimLeft)

variable {cs rest rest' : List Char} {c : Char} {t : Token}

/-! ## One token at a time -/

theorem scan_of_blank (blank : trimLeft cs = []) : TokenStream.scan cs = ⟨[], none⟩ := by
  rw [TokenStream.scan]
  split
  · rfl
  · rename_i eq
    rw [blank] at eq
    cases eq

theorem scan_of_token (trimmed : trimLeft cs = c :: rest) (token : scanToken c rest = .ok (t, rest')) :
    TokenStream.scan cs = ⟨t :: (TokenStream.scan rest').tokens, (TokenStream.scan rest').fault⟩ := by
  rw [TokenStream.scan]
  split
  · rename_i eq
    rw [trimmed] at eq
    cases eq
  · rename_i eq
    rw [trimmed] at eq
    cases eq
    split
    · rename_i eq
      rw [token] at eq
      cases eq
    · rename_i eq
      rw [token] at eq
      cases eq
      rfl

theorem scan_of_fault {e : SyntaxError} (trimmed : trimLeft cs = c :: rest)
    (fault : scanToken c rest = .error e) : TokenStream.scan cs = ⟨[], some e⟩ := by
  rw [TokenStream.scan]
  split
  · rename_i eq
    rw [trimmed] at eq
    cases eq
  · rename_i eq
    rw [trimmed] at eq
    cases eq
    split
    · rename_i eq
      rw [fault] at eq
      cases eq
      rfl
    · rename_i eq
      rw [fault] at eq
      cases eq

theorem scan_congr {ds : List Char} (same : trimLeft cs = trimLeft ds) :
    TokenStream.scan cs = TokenStream.scan ds := by
  cases trimmed : trimLeft ds with
  | nil => rw [scan_of_blank trimmed, scan_of_blank (same.trans trimmed)]
  | cons d rest =>
      cases token : scanToken d rest with
      | error e => rw [scan_of_fault trimmed token, scan_of_fault (same.trans trimmed) token]
      | ok r => rw [scan_of_token trimmed token, scan_of_token (same.trans trimmed) token]

theorem scan_blank (blank : isBlank c) : TokenStream.scan (c :: cs) = TokenStream.scan cs :=
  scan_congr (List.dropWhile_cons_of_pos blank)

/-! ## Strings, names and numbers -/

theorem takeStringBody_doubled (body : List Char) (stop : rest.head? ≠ some '\x27') :
    takeStringBody (Lexeme.doubled body ++ '\x27' :: rest) = some (body, rest) := by
  induction body with
  | nil =>
      rw [Lexeme.doubled, List.flatMap_nil, List.nil_append, takeStringBody]
      rintro rest' rfl
      exact stop rfl
  | cons c body ih =>
      rw [Lexeme.doubled, List.flatMap_cons, List.append_assoc]
      by_cases quote : c = '\x27'
      · subst c
        change takeStringBody ('\x27' :: '\x27' :: (Lexeme.doubled body ++ '\x27' :: rest)) = _
        rw [takeStringBody, ih]
        rfl
      · rw [if_neg quote]
        change takeStringBody (c :: (Lexeme.doubled body ++ '\x27' :: rest)) = _
        rw [takeStringBody, ih]
        · rfl
        · rintro rest' rfl
          exact absurd rfl quote
        · rintro rfl
          exact absurd rfl quote

theorem takeNameBody_of_not_mem {quote : Char} {body : List Char} (free : quote ∉ body) :
    takeNameBody quote (body ++ quote :: rest) = some (body, rest) := by
  induction body with
  | nil => rw [List.nil_append, takeNameBody, if_pos rfl]
  | cons c body ih =>
      rw [List.mem_cons, not_or] at free
      rw [List.cons_append, takeNameBody, if_neg (Ne.symm free.1), ih free.2]
      rfl

theorem scanToken_string (s : String) (stop : rest.head? ≠ some '\x27') :
    scanToken '\x27' (Lexeme.doubled s.toList ++ '\x27' :: rest) = .ok (.string s, rest) := by
  rw [scanToken, if_pos rfl, takeStringBody_doubled _ stop]
  simp only [String.ofList_toList]

theorem scanToken_name {quote : Char} (isQuote : quote = '\x22' ∨ quote = '\x60') {s : String}
    (free : quote ∉ s.toList) :
    scanToken quote (s.toList ++ quote :: rest) = .ok (.ident s, rest) := by
  have noString : quote ≠ '\x27' := by
    rintro rfl
    exact absurd isQuote (by decide)
  have names : (quote = '\x22' || quote = '\x60') = true := by
    simpa using isQuote
  rw [scanToken, if_neg noString, if_pos names, takeNameBody_of_not_mem free]
  simp only [String.ofList_toList]

theorem scanToken_of_isDigit (digit : c.isDigit) : scanToken c cs = .ok (scanNumber c cs) := by
  have noString : c ≠ '\x27' := by
    rintro rfl
    exact absurd digit (by decide)
  have noName : ¬ (c = '\x22' || c = '\x60') = true := by
    intro quote
    rcases Bool.or_eq_true_iff.1 quote with eq | eq <;>
    · rw [of_decide_eq_true eq] at digit
      exact absurd digit (by decide)
  rw [scanToken, if_neg noString, if_neg noName, if_pos digit]

theorem scanToken_digits {d : Char} {ds : List Char} (first : d.isDigit) (all : ∀ c ∈ ds, c.isDigit)
    (stop : ∀ c ∈ rest.head?, ¬ c.isDigit ∧ c ≠ '.') :
    scanToken d (ds ++ rest) = .ok (.number (String.ofList (d :: ds)), rest) := by
  obtain ⟨taken, left⟩ := takeWhile_append_of_stop all fun c mem => (stop c mem).1
  rw [scanToken_of_isDigit first, scanNumber, taken, left]
  cases rest with
  | nil => rfl
  | cons c rest =>
      split
      · rename_i eq
        cases eq
        exact absurd rfl (stop '.' rfl).2
      · rfl

theorem scanToken_fraction {d : Char} {ds fs : List Char} (first : d.isDigit)
    (all : ∀ c ∈ ds, c.isDigit) (fraction : ∀ c ∈ fs, c.isDigit)
    (stop : ∀ c ∈ rest.head?, ¬ c.isDigit) :
    scanToken d (ds ++ '.' :: fs ++ rest) =
      .ok (.number (String.ofList (d :: ds ++ '.' :: fs)), rest) := by
  have point : ∀ c ∈ ('.' :: (fs ++ rest)).head?, ¬ c.isDigit := by
    rintro c ⟨⟩
    decide
  obtain ⟨taken, left⟩ := takeWhile_append_of_stop all point
  obtain ⟨taken', left'⟩ := takeWhile_append_of_stop fraction stop
  rw [scanToken_of_isDigit first, List.append_assoc, List.cons_append, scanNumber, taken, left]
  simp only [taken', left']

theorem isBlank_of_isDigit (digit : c.isDigit) : isBlank c = false := by
  simp only [Char.isDigit, Bool.and_eq_true, decide_eq_true_eq, UInt32.le_iff_toNat_le] at digit
  have low : 48 ≤ c.toNat := digit.1
  have high : c.toNat ≤ 57 := digit.2
  simp only [isBlank, Text.inRanges, Text.blankRanges]
  simp
  omega

/-! ## Words -/

def isPlainWord : List Char → Bool
  | [] => false
  | c :: cs =>
    !isBlank c && c ≠ '\x27' && c ≠ '\x22' && c ≠ '\x60' && !c.isDigit && isWordStart c &&
      cs.all isWordChar

theorem scanToken_word (word : isPlainWord (c :: cs)) (stop : ∀ d ∈ rest.head?, ¬ isWordChar d) :
    scanToken c (cs ++ rest) = .ok (wordToken (String.ofList (c :: cs)), rest) := by
  simp only [isPlainWord, Bool.and_eq_true, decide_eq_true_eq, Bool.not_eq_true',
    List.all_eq_true] at word
  obtain ⟨⟨⟨⟨⟨⟨-, noString⟩, noDouble⟩, noBacktick⟩, noDigit⟩, start⟩, all⟩ := word
  obtain ⟨taken, left⟩ := takeWhile_append_of_stop all stop
  have noName : ¬ (c = '\x22' || c = '\x60') = true := by
    simp [noDouble, noBacktick]
  rw [scanToken, if_neg noString, if_neg noName, if_neg (by simp [noDigit]), if_pos start, taken,
    left]

theorem Keyword.isPlainWord_text (k : Keyword) : isPlainWord k.text.toList := by
  cases k <;> decide

theorem wordToken_keyword (k : Keyword) : wordToken k.text = .keyword k := by
  cases k <;> decide

theorem Aggregate.isPlainWord_text (f : Aggregate) : isPlainWord f.text.toList := by
  cases f <;> decide

theorem wordToken_aggregate (f : Aggregate) : wordToken f.text = .ident f.text := by
  cases f <;> decide

/-! ## Symbols -/

def isSymbolStart (c : Char) : Bool :=
  !isBlank c && c ≠ '\x27' && c ≠ '\x22' && c ≠ '\x60' && !c.isDigit && !isWordStart c

theorem scanToken_symbol (symbol : isSymbolStart c) : scanToken c rest = scanSymbol c rest := by
  simp only [isSymbolStart, Bool.and_eq_true, decide_eq_true_eq, Bool.not_eq_true'] at symbol
  obtain ⟨⟨⟨⟨⟨-, noString⟩, noDouble⟩, noBacktick⟩, noDigit⟩, noWord⟩ := symbol
  have noName : ¬ (c = '\x22' || c = '\x60') = true := by
    simp [noDouble, noBacktick]
  rw [scanToken, if_neg noString, if_neg noName, if_neg (by simp [noDigit]),
    if_neg (by simp [noWord])]

theorem scanSymbol_less (equal : rest.head? ≠ some '=') (greater : rest.head? ≠ some '>') :
    scanSymbol '<' rest = .ok (.less, rest) := by
  rw [scanSymbol]
  · rintro rest' rfl
    exact equal rfl
  · rintro rest' rfl
    exact greater rfl

theorem scanSymbol_greater (equal : rest.head? ≠ some '=') :
    scanSymbol '>' rest = .ok (.greater, rest) := by
  rw [scanSymbol]
  rintro rest' rfl
  exact equal rfl

/-! ## Lexemes -/

namespace Lexeme

def isClosed : Lexeme → Bool
  | openParen | period | minus | name _ => true
  | _ => false

def breaks : List Char :=
  [' ', ')', ',', '(']

theorem break_of_touches {x y : Lexeme} (touches : x.touches y) (opened : x.isClosed = false) :
    ∃ c cs, y.text = c :: cs ∧ c ∈ breaks := by
  unfold Lexeme.touches at touches
  split at touches
  · cases opened
  · cases opened
  · cases opened
  · exact ⟨')', [], rfl, by decide⟩
  · exact ⟨',', [], rfl, by decide⟩
  · cases opened
  · exact ⟨'(', [], rfl, by decide⟩
  · cases touches

theorem break_gap {x : Lexeme} (opened : x.isClosed = false) (xs : List Lexeme) :
    ∀ c ∈ (x.gap xs ++ spelled xs).head?, c ∈ breaks := by
  cases xs with
  | nil => rintro c ⟨⟩
  | cons y ys =>
      rw [gap]
      by_cases touches : x.touches y
      · rw [if_pos touches, List.nil_append, spelled]
        obtain ⟨c, cs, text, mem⟩ := break_of_touches touches opened
        rw [text]
        rintro d ⟨⟩
        exact mem
      · rw [if_neg touches]
        rintro c ⟨⟩
        decide

theorem not_of_breaks {p : Char → Bool} (none : breaks.all fun c => !p c)
    (stop : ∀ c ∈ rest.head?, c ∈ breaks) : ∀ c ∈ rest.head?, ¬ p c := by
  intro c mem
  simpa using List.all_eq_true.1 none c (stop c mem)

theorem head?_ne_of_breaks (other : c ∉ breaks) (stop : ∀ c ∈ rest.head?, c ∈ breaks) :
    rest.head? ≠ some c :=
  fun eq => other (stop c eq)

def ScannedAs (text : List Char) (t : Token) (rest : List Char) : Prop :=
  ∃ c cs, text = c :: cs ∧ isBlank c = false ∧ scanToken c (cs ++ rest) = .ok (t, rest)

theorem scannedAs_word {w : String} (word : isPlainWord w.toList)
    (stop : ∀ c ∈ rest.head?, c ∈ breaks) : ScannedAs w.toList (wordToken w) rest := by
  cases eq : w.toList with
  | nil =>
      rw [eq] at word
      cases word
  | cons c cs =>
      rw [eq] at word
      have scanned := scanToken_word word (not_of_breaks (by decide) stop)
      rw [← eq, String.ofList_toList] at scanned
      simp only [isPlainWord, Bool.and_eq_true, Bool.not_eq_true'] at word
      exact ⟨c, cs, rfl, word.1.1.1.1.1.1, scanned⟩

theorem scannedAs_symbol {cs : List Char} (symbol : isSymbolStart c)
    (scanned : scanSymbol c (cs ++ rest) = .ok (t, rest)) : ScannedAs (c :: cs) t rest := by
  refine ⟨c, cs, rfl, ?_, (scanToken_symbol symbol).trans scanned⟩
  simp only [isSymbolStart, Bool.and_eq_true, Bool.not_eq_true'] at symbol
  exact symbol.1.1.1.1.1

theorem scannedAs_name {s : String} (plain : (name s).isPlain) :
    ScannedAs (quotedName s) (.ident s) rest := by
  rw [quotedName]
  by_cases double : '\x22' ∈ s.toList
  · have free : '\x60' ∉ s.toList := fun backtick => by simp [isPlain, double, backtick] at plain
    rw [if_pos double]
    refine ⟨'\x60', s.toList ++ ['\x60'], rfl, by decide, ?_⟩
    rw [List.append_assoc]
    exact scanToken_name (.inr rfl) free
  · rw [if_neg double]
    refine ⟨'\x22', s.toList ++ ['\x22'], rfl, by decide, ?_⟩
    rw [List.append_assoc]
    exact scanToken_name (.inl rfl) double

theorem scannedAs_string (s : String) (stop : ∀ c ∈ rest.head?, c ∈ breaks) :
    ScannedAs (quotedString s) (.string s) rest := by
  refine ⟨'\x27', doubled s.toList ++ ['\x27'], rfl, by decide, ?_⟩
  rw [List.append_assoc]
  exact scanToken_string s (head?_ne_of_breaks (by decide) stop)

theorem scannedAs_digits (n : Nat) (stop : ∀ c ∈ rest.head?, c ∈ breaks) :
    ScannedAs (Nat.toDigits 10 n) (.number (String.ofList (Nat.toDigits 10 n))) rest := by
  obtain ⟨d, ds, digits, digit⟩ := Decimal.toDigits_cons n
  have all : ∀ c ∈ ds, c.isDigit := fun c mem => by
    refine Decimal.isDigit_toDigits (n := n) ?_
    rw [digits]
    exact List.mem_cons_of_mem d mem
  rw [digits]
  refine ⟨d, ds, rfl, isBlank_of_isDigit digit, scanToken_digits digit all fun c mem => ⟨?_, ?_⟩⟩
  · exact not_of_breaks (by decide) stop c mem
  · rintro rfl
    exact head?_ne_of_breaks (by decide) stop mem

theorem scannedAs_text {x : Lexeme} (plain : x.isPlain)
    (stop : x.isClosed = false → ∀ c ∈ rest.head?, c ∈ breaks) :
    ScannedAs x.text x.token rest := by
  cases x with
  | keyword k =>
      rw [token, ← wordToken_keyword]
      exact scannedAs_word k.isPlainWord_text (stop rfl)
  | function f =>
      rw [token, ← wordToken_aggregate]
      exact scannedAs_word f.isPlainWord_text (stop rfl)
  | name s => exact scannedAs_name plain
  | string s => exact scannedAs_string s (stop rfl)
  | digits n =>
      have eq : (digits n).text = Nat.toDigits 10 n := String.toList_ofList
      rw [eq]
      exact scannedAs_digits n (stop rfl)
  | float x => cases plain
  -- The two symbols that another character can continue.
  | less =>
      exact scannedAs_symbol (by decide) (scanSymbol_less
        (head?_ne_of_breaks (by decide) (stop rfl)) (head?_ne_of_breaks (by decide) (stop rfl)))
  | greater =>
      exact scannedAs_symbol (by decide) (scanSymbol_greater
        (head?_ne_of_breaks (by decide) (stop rfl)))
  | _ => exact scannedAs_symbol (by decide) rfl

theorem scan_text {x : Lexeme} (plain : x.isPlain)
    (stop : x.isClosed = false → ∀ c ∈ rest.head?, c ∈ breaks) :
    TokenStream.scan (x.text ++ rest) =
      ⟨x.token :: (TokenStream.scan rest).tokens, (TokenStream.scan rest).fault⟩ := by
  obtain ⟨c, cs, text, noBlank, token⟩ := scannedAs_text plain stop
  refine scan_of_token ?_ token
  rw [text, List.cons_append, trimLeft, List.dropWhile_cons_of_neg (by simp [noBlank])]

theorem scan_gap (x : Lexeme) (xs : List Lexeme) :
    TokenStream.scan (x.gap xs ++ rest) = TokenStream.scan rest := by
  cases xs with
  | nil => rfl
  | cons y ys =>
      rw [gap]
      split
      · rfl
      · exact scan_blank (by decide)

end Lexeme

theorem scan_spelled {xs : List Lexeme} (plain : ∀ x ∈ xs, x.isPlain) :
    TokenStream.scan (spelled xs) = ⟨written xs [], none⟩ := by
  induction xs with
  | nil => exact scan_of_blank rfl
  | cons x xs ih =>
      have first := plain x List.mem_cons_self
      have rest := ih fun y mem => plain y (List.mem_cons_of_mem x mem)
      rw [spelled, List.append_assoc, Lexeme.scan_text first fun opened => x.break_gap opened xs,
        Lexeme.scan_gap, rest]
      rfl

end SqlStore.Sql
