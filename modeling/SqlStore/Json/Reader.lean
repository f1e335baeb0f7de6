import SqlStore.Dict
import SqlStore.Json.Basic

namespace SqlStore.Json

open SqlStore.Decimal (Numeral Exponent Sign)

/-- A value taken off the front of a text, and the shorter rest. -/
abbrev Taken (α : Type) (cs : List Char) : Type :=
  Option { r : α × List Char // r.2.length < cs.length }

def isSpace (c : Char) : Bool :=
  c = ' ' || c = '\t' || c = '\n' || c = '\r'

def skipSpace (cs : List Char) : List Char :=
  cs.dropWhile isSpace

theorem length_skipSpace_le (cs : List Char) : (skipSpace cs).length ≤ cs.length :=
  (List.dropWhile_suffix isSpace).length_le

theorem length_lt_of_skipSpace {cs rest : List Char} {c : Char} (h : skipSpace cs = c :: rest) :
    rest.length < cs.length := by
  have := length_skipSpace_le cs
  rw [h, List.length_cons] at this
  omega

/-! ## Strings -/

inductive Piece where
  | char (c : Char)
  | unit (n : Nat)

def hexDigit? (c : Char) : Option Nat :=
  if c.isDigit then some (c.toNat - '0'.toNat)
  else if 'a' ≤ c ∧ c ≤ 'f' then some (c.toNat - 'a'.toNat + 10)
  else if 'A' ≤ c ∧ c ≤ 'F' then some (c.toNat - 'A'.toNat + 10)
  else none

def simpleEscape? (c : Char) : Option Char :=
  if c = '\x22' || c = '\\' || c = '/' then some c
  else if c = 'b' then some '\x08'
  else if c = 'f' then some '\x0c'
  else if c = 'n' then some '\n'
  else if c = 'r' then some '\r'
  else if c = 't' then some '\t'
  else none

def takePieces : List Char → Option (List Piece × List Char)
  | [] => none
  | '\x22' :: cs => some ([], cs)
  | '\\' :: 'u' :: a :: b :: c :: d :: cs => do
    let n := ((← hexDigit? a) * 16 + (← hexDigit? b)) * 256 + (← hexDigit? c) * 16 + (← hexDigit? d)
    let (ps, rest) ← takePieces cs
    return (.unit n :: ps, rest)
  | '\\' :: e :: cs => do
    let c ← simpleEscape? e
    let (ps, rest) ← takePieces cs
    return (.char c :: ps, rest)
  | c :: cs =>
    if c.toNat < 0x20 || c = '\\' then none
    else do
      let (ps, rest) ← takePieces cs
      return (.char c :: ps, rest)

/-- The text that pieces denote. A high surrogate must be followed by a low one, and a low one
must follow a high one. -/
def denoted? : List Piece → Option (List Char)
  | [] => some []
  | .char c :: ps => (denoted? ps).map (c :: ·)
  | .unit h :: .unit l :: ps =>
    if 0xD800 ≤ h ∧ h < 0xDC00 then
      if 0xDC00 ≤ l ∧ l < 0xE000 then
        (denoted? ps).map (Char.ofNat (0x10000 + (h - 0xD800) * 0x400 + (l - 0xDC00)) :: ·)
      else none
    else if 0xDC00 ≤ h ∧ h < 0xE000 then none
    else (denoted? (.unit l :: ps)).map (Char.ofNat h :: ·)
  | .unit n :: ps =>
    if 0xD800 ≤ n ∧ n < 0xE000 then none else (denoted? ps).map (Char.ofNat n :: ·)

theorem length_takePieces_lt {cs rest : List Char} {ps : List Piece}
    (h : takePieces cs = some (ps, rest)) : rest.length < cs.length := by
  fun_induction takePieces cs generalizing ps rest with
  | case1 => cases h
  | case2 cs => cases h; simp
  | case3 a b c d cs ih =>
    simp only [Option.bind_eq_bind, Option.bind_eq_some_iff] at h
    obtain ⟨_, _, _, _, _, _, _, _, ⟨ps', rest'⟩, eq, h⟩ := h
    cases h
    have := ih eq
    simp only [List.length_cons]
    omega
  | case4 e cs _ ih =>
    simp only [Option.bind_eq_bind, Option.bind_eq_some_iff] at h
    obtain ⟨_, _, ⟨ps', rest'⟩, eq, h⟩ := h
    cases h
    have := ih eq
    simp only [List.length_cons]
    omega
  | case5 => cases h
  | case6 c cs _ _ _ _ ih =>
    simp only [Option.bind_eq_bind, Option.bind_eq_some_iff] at h
    obtain ⟨⟨ps', rest'⟩, eq, h⟩ := h
    cases h
    have := ih eq
    simp only [List.length_cons]
    omega

def takeString (cs : List Char) : Taken (Option String) cs :=
  match h : takePieces cs with
  | some (ps, rest) => some ⟨((denoted? ps).map String.ofList, rest), length_takePieces_lt h⟩
  | none => none

/-! ## Numbers -/

def takeDigits (cs : List Char) : Taken (List Char) cs :=
  match h : cs.takeWhile Char.isDigit with
  | [] => none
  | d :: ds => some ⟨(d :: ds, cs.dropWhile Char.isDigit), by
      have := congrArg List.length (List.takeWhile_append_dropWhile (p := Char.isDigit) (l := cs))
      rw [List.length_append, h, List.length_cons] at this
      simp only
      omega⟩

def takeFraction (cs : List Char) : Option { r : List Char × List Char // r.2.length ≤ cs.length } :=
  match cs with
  | '.' :: ds => do
    let ⟨r, h⟩ ← takeDigits ds
    return ⟨r, by simp only [List.length_cons]; omega⟩
  | ds => some ⟨([], ds), Nat.le_refl _⟩

def takeExponent (cs : List Char) :
    Option { r : Option Exponent × List Char // r.2.length ≤ cs.length } :=
  match cs with
  | [] => some ⟨(none, []), Nat.le_refl _⟩
  | c :: ds =>
    if c = 'e' || c = 'E' then
      match ds with
      | '+' :: ds => do
        let ⟨(digits, rest), h⟩ ← takeDigits ds
        return ⟨(some ⟨some .plus, digits⟩, rest),
          Nat.le_succ_of_le (Nat.le_succ_of_le (Nat.le_of_lt h))⟩
      | '-' :: ds => do
        let ⟨(digits, rest), h⟩ ← takeDigits ds
        return ⟨(some ⟨some .minus, digits⟩, rest),
          Nat.le_succ_of_le (Nat.le_succ_of_le (Nat.le_of_lt h))⟩
      | ds => do
        let ⟨(digits, rest), h⟩ ← takeDigits ds
        return ⟨(some ⟨none, digits⟩, rest), Nat.le_succ_of_le (Nat.le_of_lt h)⟩
    else some ⟨(none, c :: ds), Nat.le_refl _⟩

def takeUnsigned (negative : Bool) (cs : List Char) : Taken Numeral cs := do
  let ⟨(whole, r₁), h₁⟩ ← takeDigits cs
  if whole.head? = some '0' ∧ 1 < whole.length then none
  else
    let ⟨(fraction, r₂), h₂⟩ ← takeFraction r₁
    let ⟨(exponent, r₃), h₃⟩ ← takeExponent r₂
    return ⟨(⟨negative, whole, fraction, exponent⟩, r₃), by simp only at *; omega⟩

def takeNumeral (cs : List Char) : Taken Numeral cs :=
  match cs with
  | '-' :: ds => do
    let ⟨r, h⟩ ← takeUnsigned true ds
    return ⟨r, by simp only [List.length_cons]; omega⟩
  | ds => takeUnsigned false ds

/-! ## Values -/

mutual

def takeValue (cs : List Char) : Taken Json cs :=
  match h : skipSpace cs with
  | [] => none
  | 'n' :: 'u' :: 'l' :: 'l' :: rest => some ⟨(.null, rest), by
      have := length_lt_of_skipSpace h; simp only [List.length_cons] at *; omega⟩
  | 't' :: 'r' :: 'u' :: 'e' :: rest => some ⟨(.bool true, rest), by
      have := length_lt_of_skipSpace h; simp only [List.length_cons] at *; omega⟩
  | 'f' :: 'a' :: 'l' :: 's' :: 'e' :: rest => some ⟨(.bool false, rest), by
      have := length_lt_of_skipSpace h; simp only [List.length_cons] at *; omega⟩
  | '\x22' :: rest => do
    let ⟨(text, rest), hr⟩ ← takeString rest
    return ⟨(.string text, rest), Nat.lt_trans hr (length_lt_of_skipSpace h)⟩
  | '[' :: rest => do
    have := length_lt_of_skipSpace h
    let ⟨(items, rest), hr⟩ ← takeItems rest
    return ⟨(.array items, rest), Nat.lt_trans hr (length_lt_of_skipSpace h)⟩
  | '\x7b' :: rest => do
    have := length_lt_of_skipSpace h
    let ⟨(members, rest), hr⟩ ← takeMembers rest
    return ⟨(.object members, rest), Nat.lt_trans hr (length_lt_of_skipSpace h)⟩
  | c :: rest => do
    let ⟨(n, rest), hr⟩ ← takeNumeral (c :: rest)
    return ⟨(.number n, rest), by
      have := length_skipSpace_le cs
      rw [h] at this
      exact Nat.lt_of_lt_of_le hr this⟩
termination_by (cs.length, 0)

def takeItems (cs : List Char) : Taken (List Json) cs :=
  match h : skipSpace cs with
  | ']' :: rest => some ⟨([], rest), length_lt_of_skipSpace h⟩
  | _ => takeSomeItems cs
termination_by (cs.length, 2)

def takeSomeItems (cs : List Char) : Taken (List Json) cs := do
  let ⟨(item, r₁), h₁⟩ ← takeValue cs
  match h : skipSpace r₁ with
  | ']' :: r₂ => some ⟨([item], r₂), Nat.lt_trans (length_lt_of_skipSpace h) h₁⟩
  | ',' :: r₂ =>
    have h₂ := Nat.lt_trans (length_lt_of_skipSpace h) h₁
    let ⟨(items, r₃), h₃⟩ ← takeSomeItems r₂
    return ⟨(item :: items, r₃), Nat.lt_trans h₃ h₂⟩
  | _ => none
termination_by (cs.length, 1)

def takeMembers (cs : List Char) : Taken (List (Option String × Json)) cs :=
  match h : skipSpace cs with
  | '\x7d' :: rest => some ⟨([], rest), length_lt_of_skipSpace h⟩
  | _ => takeSomeMembers cs
termination_by (cs.length, 2)

def takeSomeMembers (cs : List Char) : Taken (List (Option String × Json)) cs :=
  match h₀ : skipSpace cs with
  | '\x22' :: r₀ => do
    let ⟨(name, r₁), h₁⟩ ← takeString r₀
    match h₂ : skipSpace r₁ with
    | ':' :: r₂ =>
      have l₂ := Nat.lt_trans (Nat.lt_trans (length_lt_of_skipSpace h₂) h₁)
        (length_lt_of_skipSpace h₀)
      let ⟨(value, r₃), h₃⟩ ← takeValue r₂
      match h₄ : skipSpace r₃ with
      | '\x7d' :: r₄ =>
        some ⟨([(name, value)], r₄),
          Nat.lt_trans (Nat.lt_trans (length_lt_of_skipSpace h₄) h₃) l₂⟩
      | ',' :: r₄ =>
        have l₄ := Nat.lt_trans (Nat.lt_trans (length_lt_of_skipSpace h₄) h₃) l₂
        let ⟨(members, r₅), h₅⟩ ← takeSomeMembers r₄
        return ⟨((name, value) :: members, r₅), Nat.lt_trans h₅ l₄⟩
      | _ => none
    | _ => none
  | _ => none
termination_by (cs.length, 1)

end

def read? (text : String) : Option Json := do
  let ⟨(j, rest), _⟩ ← takeValue text.toList
  if (skipSpace rest).isEmpty then some j else none

/-! ## Single values -/

def choice? : Json → Option String
  | .string text => text
  | .object [(name, .null)] => name
  | _ => none

def char? (j : Json) : Option Char :=
  match j.string?.map String.toList with
  | some [c] => some c
  | _ => none

/-! ## Fields -/

def optionalMember? (name : String) (ms : List (Option String × Json)) : Option (Option Json) :=
  match membersNamed name ms with
  | [] => some none
  | [j] => some (some j)
  | _ => none

/-- The fields of a record: an object, where fields may be missing and unknown ones are ignored,
or an array of at most as many values, in the order of the fields. -/
def fields? (names : List String) : Json → Option (List (Option Json))
  | .object ms =>
    if ms.any fun m => m.1.isNone then none
    else names.mapM fun name => optionalMember? name ms
  | .array items =>
    if items.length ≤ names.length then
      some (items.map some ++ List.replicate (names.length - items.length) none)
    else none
  | _ => none

def optionalField? {α : Type} (read : Json → Option α) : Option Json → Option (Option α)
  | none => some none
  | some .null => some none
  | some j => (read j).map some

/-! ## Dictionaries and lists -/

def dict? {α : Type} (read : Json → Option α) : Json → Option (Dict α)
  | .object ms => do
    return Dict.ofList (← ms.mapM fun (name, j) => do return (← name, ← read j))
  | _ => none

def list? {α : Type} (read : Json → Option α) : Json → Option (List α)
  | .array items => items.mapM read
  | _ => none

end SqlStore.Json
