import SqlStore.Proofs.Sql.Continuing

namespace SqlStore.Sql

open Text (isAlphabetic isBlank trimLeft)

variable {c : Char} {cs word space text : List Char} {k : Keyword} {t : Token} {ts : List Token}

/-! ## Words -/

theorem isAlpha_of_toUpper (upper : c.toUpper.isUpper) : c.isAlpha := by
  refine Bool.or_eq_true_iff.2 ?_
  unfold Char.toUpper at upper
  split at upper
  · rename_i lower
    exact .inr (Bool.and_eq_true_iff.2 ⟨decide_eq_true lower.1, decide_eq_true lower.2⟩)
  · exact .inl upper

theorem toNat_of_isAlpha (letter : c.isAlpha) :
    65 ≤ c.toNat ∧ c.toNat ≤ 90 ∨ 97 ≤ c.toNat ∧ c.toNat ≤ 122 := by
  rcases Bool.or_eq_true_iff.1 letter with upper | lower
  · obtain ⟨low, high⟩ := of_decide_eq_true upper
    exact .inl ⟨UInt32.le_iff_toNat_le.1 low, UInt32.le_iff_toNat_le.1 high⟩
  · obtain ⟨low, high⟩ := Bool.and_eq_true_iff.1 lower
    exact .inr ⟨UInt32.le_iff_toNat_le.1 (of_decide_eq_true low),
      UInt32.le_iff_toNat_le.1 (of_decide_eq_true high)⟩

theorem isAlphabetic_of_isAlpha (letter : c.isAlpha) : isAlphabetic c := by
  have bounds := toNat_of_isAlpha letter
  rw [isAlphabetic, if_pos (by omega)]
  exact letter

theorem isWordChar_of_isWordStart (start : isWordStart c) : isWordChar c := by
  rcases Bool.or_eq_true_iff.1 start with letter | underscore
  · simp [isWordChar, letter]
  · simp [isWordChar, underscore]

theorem not_isDigit_of_isWordStart (start : isWordStart c) : c.isDigit = false := by
  refine Bool.eq_false_iff.2 fun digit => ?_
  have bounds : 48 ≤ c.toNat ∧ c.toNat ≤ 57 := Char.isDigit_iff_toNat.1 digit
  rcases Bool.or_eq_true_iff.1 start with letter | underscore
  · rw [isAlphabetic, if_pos (by omega)] at letter
    have := toNat_of_isAlpha letter
    omega
  · rw [of_decide_eq_true underscore] at digit
    exact absurd digit (by decide)

theorem not_isBlank_of_isWordStart (start : isWordStart c) : isBlank c = false := by
  refine Bool.eq_false_iff.2 fun blank => ?_
  cases (isWordChar_of_isWordStart start).symm.trans (isWordChar_of_blank blank)

theorem isWordStart_of_isAlpha (letter : c.isAlpha) : isWordStart c := by
  simp [isWordStart, isAlphabetic_of_isAlpha letter]

theorem isPlainWord_of_isWordStart (start : isWordStart c) (all : ∀ d ∈ cs, isWordChar d) :
    isPlainWord (c :: cs) := by
  have noQuote {q : Char} (quote : isWordStart q = false) : c ≠ q := by
    rintro rfl
    rw [start] at quote
    cases quote
  have noString : c ≠ '\x27' := noQuote (by decide)
  have noDouble : c ≠ '\x22' := noQuote (by decide)
  have noBacktick : c ≠ '\x60' := noQuote (by decide)
  simpa [isPlainWord, not_isBlank_of_isWordStart start, not_isDigit_of_isWordStart start, start,
    noString, noDouble, noBacktick] using all

theorem flatMap_upperChar (letters : ∀ c ∈ word, c.isAlpha) :
    word.flatMap Text.upperChar = word.map Char.toUpper := by
  induction word with
  | nil => rfl
  | cons c word ih =>
      have bounds := toNat_of_isAlpha (letters c List.mem_cons_self)
      have upper : Text.upperChar c = [c.toUpper] := if_pos (by omega)
      rw [List.flatMap_cons, upper, ih fun d mem => letters d (List.mem_cons_of_mem c mem)]
      rfl

theorem Keyword.ofWord?_eq_some {w : String} (upper : Text.upper w = k.text) :
    Keyword.ofWord? w = some k := by
  simp only [ofWord?, upper]
  cases k <;> decide

theorem Keyword.isUpper_of_mem (mem : c ∈ k.text.toList) : c.isUpper := by
  have all : k.text.toList.all Char.isUpper := by cases k <;> decide
  exact List.all_eq_true.1 all c mem

theorem isAlpha_of_keyword (same : word.map Char.toUpper = k.text.toList) :
    ∀ c ∈ word, c.isAlpha := fun c mem => by
  have upper : c.toUpper ∈ k.text.toList := same ▸ List.mem_map_of_mem mem
  exact isAlpha_of_toUpper (Keyword.isUpper_of_mem upper)

theorem wordToken_anyCase (same : word.map Char.toUpper = k.text.toList) :
    wordToken (String.ofList word) = .keyword k := by
  have upper : Text.upper (String.ofList word) = k.text := by
    rw [Text.upper, String.toList_ofList, flatMap_upperChar (isAlpha_of_keyword same), same,
      String.ofList_toList]
  rw [wordToken, Keyword.ofWord?_eq_some upper]

/-! ## Spellings -/

def Token.isSymbol : Token → Bool
  | keyword _ | ident _ | string _ | number _ => false
  | _ => true

/-- The texts that are one token. The letters of a keyword may be in upper or lower case. -/
inductive Spells : List Char → Token → Prop
  | keyword {word : List Char} {k : Keyword} (same : word.map Char.toUpper = k.text.toList) :
      Spells word (.keyword k)
  | word {c : Char} {cs : List Char} (start : isWordStart c) (all : ∀ d ∈ cs, isWordChar d)
      (other : Keyword.ofWord? (String.ofList (c :: cs)) = none) :
      Spells (c :: cs) (.ident (String.ofList (c :: cs)))
  | name {quote : Char} {s : String} (isQuote : quote = '\x22' ∨ quote = '\x60')
      (free : quote ∉ s.toList) : Spells (quote :: (s.toList ++ [quote])) (.ident s)
  | string (s : String) : Spells ('\x27' :: (Lexeme.doubled s.toList ++ ['\x27'])) (.string s)
  | digits {d : Char} {ds : List Char} (first : d.isDigit) (all : ∀ c ∈ ds, c.isDigit) :
      Spells (d :: ds) (.number (String.ofList (d :: ds)))
  | fraction {d : Char} {ds fs : List Char} (first : d.isDigit) (all : ∀ c ∈ ds, c.isDigit)
      (fraction : ∀ c ∈ fs, c.isDigit) :
      Spells (d :: (ds ++ '.' :: fs)) (.number (String.ofList (d :: ds ++ '.' :: fs)))
  | unequal : Spells ['<', '>'] .notEqual
  | symbol {t : Token} (symbol : t.isSymbol) : Spells t.text.toList t

namespace Spells

theorem scannedAs_word (start : isWordStart c) (all : ∀ d ∈ cs, isWordChar d) :
    Lexeme.ScannedAs (c :: cs) (wordToken (String.ofList (c :: cs))) [] :=
  ⟨c, cs, rfl, not_isBlank_of_isWordStart start,
    scanToken_word (isPlainWord_of_isWordStart start all) nofun⟩

theorem scannedAs (spells : Spells word t) : Lexeme.ScannedAs word t [] := by
  cases spells with
  | keyword same =>
      have letters := isAlpha_of_keyword same
      rw [← wordToken_anyCase same]
      cases word with
      -- No keyword is empty.
      | nil =>
          rename_i k
          cases k <;> cases same
      | cons c cs =>
          refine scannedAs_word ?_ fun d mem => ?_
          · exact isWordStart_of_isAlpha (letters c List.mem_cons_self)
          · exact isWordChar_of_isWordStart
              (isWordStart_of_isAlpha (letters d (List.mem_cons_of_mem c mem)))
  | word start all other =>
      have scanned := scannedAs_word start all
      rwa [wordToken, other] at scanned
  | @name quote s isQuote free =>
      have noBlank : isBlank quote = false := by
        rcases isQuote with rfl | rfl <;> decide
      refine ⟨quote, _, rfl, noBlank, ?_⟩
      rw [List.append_assoc]
      exact scanToken_name isQuote free
  | string s =>
      refine ⟨'\x27', _, rfl, by decide, ?_⟩
      rw [List.append_assoc]
      exact scanToken_string s nofun
  | digits first all => exact ⟨_, _, rfl, isBlank_of_isDigit first, scanToken_digits first all nofun⟩
  | fraction first all fraction =>
      exact ⟨_, _, rfl, isBlank_of_isDigit first, scanToken_fraction first all fraction nofun⟩
  | unequal => exact Lexeme.scannedAs_symbol (by decide) rfl
  | symbol symbol =>
      cases t with
      | keyword | ident | string | number => cases symbol
      | _ => exact Lexeme.scannedAs_symbol (by decide) rfl

theorem scan (spells : Spells word t) : TokenStream.scan word = ⟨[t], none⟩ := by
  obtain ⟨c, cs, rfl, noBlank, token⟩ := spells.scannedAs
  rw [List.append_nil] at token
  have trimmed : trimLeft (c :: cs) = c :: cs := List.dropWhile_cons_of_neg (by simp [noBlank])
  rw [scan_of_token trimmed token, scan_of_blank rfl]

end Spells

/-! ## Tokens that are written out -/

/-- Texts of tokens in their order, each in one of its spellings and with white space after it,
which only the last one can do without. -/
inductive WrittenOut : List Token → List Char → Prop
  | nil : WrittenOut [] []
  | cons {t : Token} {ts : List Token} {word space text : List Char} (spells : Spells word t)
      (blank : space.all isBlank) (apart : ts ≠ [] → space ≠ []) (others : WrittenOut ts text) :
      WrittenOut (t :: ts) (word ++ space ++ text)

theorem scan_blanks (blank : space.all isBlank) :
    TokenStream.scan (space ++ text) = TokenStream.scan text :=
  scan_congr (List.dropWhile_append_of_pos (List.all_eq_true.1 blank))

theorem WrittenOut.scan (out : WrittenOut ts text) : TokenStream.scan text = ⟨ts, none⟩ := by
  induction out with
  | nil => exact scan_of_blank rfl
  | @cons t ts word space text spells blank apart others ih =>
      rw [List.append_assoc]
      cases space with
      -- A token without white space after it is the last one.
      | nil =>
          obtain rfl : ts = [] := Classical.not_not.1 fun more => apart more rfl
          cases others
          rw [List.append_nil, List.append_nil]
          exact spells.scan
      | cons b space =>
          have here := spells.scan
          have sound : (TokenStream.scan word).fault = none := congrArg TokenStream.fault here
          rw [List.all_cons, Bool.and_eq_true] at blank
          have rest : TokenStream.scan (space ++ text) = ⟨ts, none⟩ := (scan_blanks blank.2).trans ih
          rw [List.cons_append, scan_append blank.1 word _ sound, here, rest]
          rfl

/-- Tokens that are written out, with any white space before them, are scanned to these tokens.
Whatever stands between the quotes of strings and names among them, they take no part in the tokens
of a text before them, nor of one after them. -/
theorem scan_writtenOut (blank : space.all isBlank) (out : WrittenOut ts text) :
    TokenStream.scan (space ++ text) = ⟨ts, none⟩ ∧
    ∀ before after b b', (TokenStream.scan before).fault = none → isBlank b → isBlank b' →
      TokenStream.scan (before ++ b :: (text ++ b' :: after)) =
        ⟨(TokenStream.scan before).tokens ++ (ts ++ (TokenStream.scan after).tokens),
          (TokenStream.scan after).fault⟩ := by
  refine ⟨(scan_blanks blank).trans out.scan, fun before after b b' sound blank₁ blank₂ => ?_⟩
  have here : (TokenStream.scan text).fault = none := congrArg TokenStream.fault out.scan
  rw [scan_append blank₁ before _ sound, scan_append blank₂ text after here, out.scan]

theorem scan_writtenOut_quotes :
    let ts : List Token := [.keyword .or, .string "'", .ident "'", .number "4."]
    let text := "oR\t''''\u2003\"'\" 4.".toList
    ['\n'].all isBlank ∧ WrittenOut ts text ∧
      TokenStream.scan ('\n' :: text) = ⟨ts, none⟩ := by
  intro ts text
  have blank : ['\n'].all isBlank := by decide
  have number : WrittenOut [.number "4."] ['4', '.'] :=
    @WrittenOut.cons _ _ ['4', '.'] [] _ (@Spells.fraction '4' [] [] rfl nofun nofun) rfl nofun .nil
  have name : WrittenOut [.ident "'", .number "4."] ['\x22', '\x27', '\x22', ' ', '4', '.'] :=
    @WrittenOut.cons _ _ _ [' '] _ (@Spells.name '\x22' "'" (.inl rfl) (by decide)) (by decide) nofun
      number
  have out : WrittenOut ts text :=
    @WrittenOut.cons _ _ ['o', 'R'] ['\t'] _ (.keyword rfl) (by decide) nofun
      (@WrittenOut.cons _ _ _ ['\u2003'] _ (.string "'") (by decide) nofun name)
  exact ⟨blank, out, (scan_writtenOut blank out).1⟩

end SqlStore.Sql
