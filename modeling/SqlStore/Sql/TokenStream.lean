import SqlStore.Sql.Token
import SqlStore.Text.Alphanumeric
import SqlStore.Text.Basic

/-!
# Token streams

A text is split into tokens. White space separates tokens and is otherwise ignored. A text is read
up to its first fault, which ends the stream of tokens.
-/

namespace SqlStore.Sql

open Text (isAlphabetic isNumeric trimLeft)

/-- The tokens of a text up to its end, or up to a fault. -/
structure TokenStream where
  tokens : List Token
  fault : Option SyntaxError
deriving DecidableEq

def isWordStart (c : Char) : Bool :=
  isAlphabetic c || c = '_'

def isWordChar (c : Char) : Bool :=
  isAlphabetic c || isNumeric c || c = '_'

def takeStringBody : List Char → Option (List Char × List Char)
  | [] => none
  | '\x27' :: '\x27' :: cs => (takeStringBody cs).map fun (body, rest) => ('\x27' :: body, rest)
  | '\x27' :: cs => some ([], cs)
  | c :: cs => (takeStringBody cs).map fun (body, rest) => (c :: body, rest)

def takeNameBody (quote : Char) : List Char → Option (List Char × List Char)
  | [] => none
  | c :: cs =>
    if c = quote then some ([], cs)
    else (takeNameBody quote cs).map fun (body, rest) => (c :: body, rest)

def wordToken (word : String) : Token :=
  match Keyword.ofWord? word with
  | some k => .keyword k
  | none => .ident word

def scanNumber (c : Char) (cs : List Char) : Token × List Char :=
  let whole := c :: cs.takeWhile Char.isDigit
  match cs.dropWhile Char.isDigit with
  | '.' :: ds =>
    (.number (String.ofList (whole ++ '.' :: ds.takeWhile Char.isDigit)), ds.dropWhile Char.isDigit)
  | rest => (.number (String.ofList whole), rest)

def scanSymbol (c : Char) (cs : List Char) : Except SyntaxError (Token × List Char) :=
  match c, cs with
  | '!', '=' :: rest => .ok (.notEqual, rest)
  | '!', _ => .error .loneExclamation
  | '<', '=' :: rest => .ok (.lessOrEqual, rest)
  | '<', '>' :: rest => .ok (.notEqual, rest)
  | '<', rest => .ok (.less, rest)
  | '>', '=' :: rest => .ok (.greaterOrEqual, rest)
  | '>', rest => .ok (.greater, rest)
  | '*', rest => .ok (.asterisk, rest)
  | '(', rest => .ok (.openParen, rest)
  | ')', rest => .ok (.closeParen, rest)
  | ',', rest => .ok (.comma, rest)
  | ';', rest => .ok (.semicolon, rest)
  | '.', rest => .ok (.period, rest)
  | '-', rest => .ok (.minus, rest)
  | '=', rest => .ok (.equal, rest)
  | _, _ => .error (.unexpectedChar c)

def scanToken (c : Char) (cs : List Char) : Except SyntaxError (Token × List Char) :=
  if c = '\x27' then
    match takeStringBody cs with
    | some (body, rest) => .ok (.string (String.ofList body), rest)
    | none => .error .unclosedString
  else if c = '\x22' || c = '\x60' then
    match takeNameBody c cs with
    | some (body, rest) => .ok (.ident (String.ofList body), rest)
    | none => .error .unclosedName
  else if c.isDigit then .ok (scanNumber c cs)
  else if isWordStart c then
    .ok (wordToken (String.ofList (c :: cs.takeWhile isWordChar)), cs.dropWhile isWordChar)
  else scanSymbol c cs

/-! ## A token takes at least one character -/

theorem length_takeStringBody_le {cs body rest : List Char}
    (h : takeStringBody cs = some (body, rest)) : rest.length ≤ cs.length := by
  fun_induction takeStringBody cs generalizing body rest with
  | case1 => cases h
  | case2 cs ih =>
    obtain ⟨⟨body', rest'⟩, eq, h⟩ := Option.map_eq_some_iff.1 h
    cases h
    have := ih eq
    simp only [List.length_cons]
    omega
  | case3 cs _ =>
    cases h
    simp
  | case4 c cs _ _ ih =>
    obtain ⟨⟨body', rest'⟩, eq, h⟩ := Option.map_eq_some_iff.1 h
    cases h
    have := ih eq
    simp only [List.length_cons]
    omega

theorem length_takeNameBody_le {quote : Char} {cs body rest : List Char}
    (h : takeNameBody quote cs = some (body, rest)) : rest.length ≤ cs.length := by
  induction cs generalizing body rest with
  | nil => cases h
  | cons c cs ih =>
    simp only [takeNameBody] at h
    split at h
    · cases h
      simp
    · obtain ⟨⟨body', rest'⟩, eq, h⟩ := Option.map_eq_some_iff.1 h
      cases h
      have := ih eq
      simp only [List.length_cons]
      omega

theorem length_scanNumber_le (c : Char) (cs : List Char) :
    (scanNumber c cs).2.length ≤ cs.length := by
  have h : (cs.dropWhile Char.isDigit).length ≤ cs.length :=
    (List.dropWhile_suffix _).length_le
  simp only [scanNumber]
  split
  · rename_i ds eq
    have : (ds.dropWhile Char.isDigit).length ≤ ds.length :=
      (List.dropWhile_suffix _).length_le
    rw [eq, List.length_cons] at h
    simp only
    omega
  · exact h

theorem length_scanSymbol_le {c : Char} {cs rest : List Char} {t : Token}
    (h : scanSymbol c cs = .ok (t, rest)) : rest.length ≤ cs.length := by
  unfold scanSymbol at h
  split at h <;> cases h <;> simp

theorem length_scanToken_le {c : Char} {cs rest : List Char} {t : Token}
    (h : scanToken c cs = .ok (t, rest)) : rest.length ≤ cs.length := by
  unfold scanToken at h
  split at h
  · split at h
    · cases h
      exact length_takeStringBody_le ‹_›
    · cases h
  · split at h
    · split at h
      · cases h
        exact length_takeNameBody_le ‹_›
      · cases h
    · split at h
      · have := length_scanNumber_le c cs
        rw [Except.ok.inj h] at this
        exact this
      · split at h
        · cases h
          exact (List.dropWhile_suffix _).length_le
        · exact length_scanSymbol_le h

theorem length_lt_of_scanToken {c : Char} {cs rest rest' : List Char} {t : Token}
    (h : trimLeft cs = c :: rest) (hs : scanToken c rest = .ok (t, rest')) :
    rest'.length < cs.length := by
  have h₁ : (cs.dropWhile Text.isBlank).length ≤ cs.length :=
    (List.dropWhile_suffix _).length_le
  have h₂ := length_scanToken_le hs
  simp only [trimLeft] at h
  rw [h, List.length_cons] at h₁
  omega

/-! ## The token stream -/

def TokenStream.scan (cs : List Char) : TokenStream :=
  match h : trimLeft cs with
  | [] => ⟨[], none⟩
  | c :: rest =>
    match hs : scanToken c rest with
    | .error e => ⟨[], some e⟩
    | .ok (t, rest') =>
      have : rest'.length < cs.length := length_lt_of_scanToken h hs
      let s := scan rest'
      ⟨t :: s.tokens, s.fault⟩
termination_by cs.length

end SqlStore.Sql
