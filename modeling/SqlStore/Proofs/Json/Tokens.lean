import SqlStore.Json.Reader
import SqlStore.Proofs.Decimal

namespace SqlStore.Json
open SqlStore.Decimal (Numeral Exponent Sign)

variable {α : Type}

/-! ## Strings -/

theorem takePieces_simpleEscape {e c : Char} (escape : simpleEscape? e = some c) (cs : List Char) :
    takePieces ('\\' :: e :: cs) = (takePieces cs).map fun r => (.char c :: r.1, r.2) := by
  have noUnit : ∀ a b c d ds, e = 'u' → cs = a :: b :: c :: d :: ds → False := by
    rintro a b c d ds rfl -
    simp [simpleEscape?] at escape
  rw [takePieces]
  · rw [escape]
    cases takePieces cs <;> rfl
  · exact noUnit

theorem hexDigit?_digitChar : ∀ n < 16, hexDigit? n.digitChar = some n := by
  decide

theorem takePieces_unitEscape {n : Nat} (small : n < 32) (cs : List Char) :
    takePieces ('\\' :: 'u' :: '0' :: '0' :: (n / 16).digitChar :: (n % 16).digitChar :: cs) =
      (takePieces cs).map fun r => (.unit n :: r.1, r.2) := by
  have zero : hexDigit? '0' = some 0 := rfl
  have high := hexDigit?_digitChar (n / 16) (by omega)
  have low := hexDigit?_digitChar (n % 16) (by omega)
  have value : n / 16 * 16 + n % 16 = n := Nat.div_add_mod' n 16
  rw [takePieces, zero, high, low]
  cases takePieces cs <;> simp [value]

theorem takePieces_plain {c : Char} (printable : ¬ c.toNat < 0x20) (quote : c ≠ '\x22')
    (backslash : c ≠ '\\') (cs : List Char) :
    takePieces (c :: cs) = (takePieces cs).map fun r => (.char c :: r.1, r.2) := by
  rw [takePieces]
  · simp only [printable, backslash, decide_false, Bool.or_self]
    cases takePieces cs <;> rfl
  all_goals simp_all

theorem escapeChar_cases (c : Char) :
    (∃ e, escapeChar c = ['\\', e] ∧ simpleEscape? e = some c) ∨
    (c.toNat < 0x20 ∧ escapeChar c =
      ['\\', 'u', '0', '0', (c.toNat / 16).digitChar, (c.toNat % 16).digitChar]) ∨
    (¬ c.toNat < 0x20 ∧ c ≠ '\x22' ∧ c ≠ '\\' ∧ escapeChar c = [c]) := by
  unfold escapeChar
  split
  · subst c; exact .inl ⟨_, rfl, rfl⟩
  · split
    · subst c; exact .inl ⟨_, rfl, rfl⟩
    · iterate 5
        split
        · subst c; exact .inl ⟨_, rfl, rfl⟩
      split
      · exact .inr (.inl ⟨‹_›, rfl⟩)
      · exact .inr (.inr ⟨‹_›, ‹_›, ‹_›, rfl⟩)

def Piece.StandsFor (p : Piece) (c : Char) : Prop :=
  p = .char c ∨ (p = .unit c.toNat ∧ c.toNat < 0x20)

theorem takePieces_escapeChar (c : Char) :
    ∃ p : Piece, p.StandsFor c ∧ ∀ cs,
      takePieces (escapeChar c ++ cs) = (takePieces cs).map fun r => (p :: r.1, r.2) := by
  rcases escapeChar_cases c with ⟨e, eq, escape⟩ | ⟨small, eq⟩ | ⟨printable, quote, backslash, eq⟩
  · exact ⟨.char c, .inl rfl, fun cs => by rw [eq]; exact takePieces_simpleEscape escape cs⟩
  · exact ⟨.unit c.toNat, .inr ⟨rfl, small⟩, fun cs => by rw [eq]; exact takePieces_unitEscape small cs⟩
  · exact ⟨.char c, .inl rfl, fun cs => by
      rw [eq]; exact takePieces_plain printable quote backslash cs⟩

theorem denoted?_cons {p : Piece} {c : Char} (stands : p.StandsFor c) (ps : List Piece) :
    denoted? (p :: ps) = (denoted? ps).map (c :: ·) := by
  rcases stands with rfl | ⟨rfl, small⟩
  · rw [denoted?]
  · have back : Char.ofNat c.toNat = c := Char.ofNat_toNat c
    cases ps with
    | nil => simp [denoted?, back]; omega
    | cons q qs =>
        cases q with
        | char d => simp [denoted?, back]; omega
        | unit l =>
            rw [denoted?, if_neg (by omega), if_neg (by omega), back]

theorem takePieces_written (s rest : List Char) :
    ∃ ps, takePieces (s.flatMap escapeChar ++ '\x22' :: rest) = some (ps, rest) ∧
      denoted? ps = some s := by
  induction s with
  | nil => exact ⟨[], by simp [takePieces], by simp [denoted?]⟩
  | cons c s ih =>
      obtain ⟨ps, taken, denoted⟩ := ih
      obtain ⟨p, stands, take⟩ := takePieces_escapeChar c
      refine ⟨p :: ps, ?_, ?_⟩
      · rw [List.flatMap_cons, List.append_assoc, take, taken]
        rfl
      · rw [denoted?_cons stands, denoted]
        rfl

variable {p : α × List Char → Prop}

def taken (t : Option { r : α × List Char // p r }) : Option (α × List Char) :=
  t.map (·.1)

theorem taken_eq_some {t : Option { r : α × List Char // p r }} {r : α × List Char} :
    taken t = some r ↔ ∃ shorter, t = some ⟨r, shorter⟩ := by
  unfold taken
  constructor
  · intro eq
    obtain ⟨⟨r', shorter⟩, rfl, rfl⟩ := Option.map_eq_some_iff.1 eq
    exact ⟨shorter, rfl⟩
  · rintro ⟨shorter, rfl⟩
    rfl

theorem taken_takeString (s : String) (rest : List Char) :
    taken (takeString (s.toList.flatMap escapeChar ++ '\x22' :: rest)) = some (some s, rest) := by
  obtain ⟨ps, eq, denoted⟩ := takePieces_written s.toList rest
  unfold takeString
  split
  · rename_i ps' rest' eq'
    rw [eq] at eq'
    cases eq'
    simp [taken, denoted]
  · rename_i none'
    rw [eq] at none'
    cases none'

/-! ## Numbers -/

def EndsNumber (rest : List Char) : Prop :=
  ∀ c ∈ rest.head?, ¬ c.isDigit ∧ c ≠ '.' ∧ c ≠ 'e' ∧ c ≠ 'E'

theorem taken_takeDigits {ds rest : List Char} (nonempty : ds ≠ []) (all : ∀ c ∈ ds, c.isDigit)
    (stop : ∀ c ∈ rest.head?, ¬ c.isDigit) : taken (takeDigits (ds ++ rest)) = some (ds, rest) := by
  obtain ⟨eq, dropped⟩ := takeWhile_append_of_stop (p := Char.isDigit) all stop
  unfold takeDigits
  split
  · rename_i eq'
    rw [eq] at eq'
    exact absurd eq' nonempty
  · rename_i d ds' eq'
    rw [eq] at eq'
    simp [taken, ← eq', dropped]

theorem taken_takeFraction {ds rest : List Char} (all : ∀ c ∈ ds, c.isDigit)
    (stop : ∀ c ∈ rest.head?, ¬ c.isDigit ∧ c ≠ '.') :
    taken (takeFraction ((if ds.isEmpty then [] else '.' :: ds) ++ rest)) = some (ds, rest) := by
  cases ds with
  | nil =>
      rw [List.isEmpty_nil, if_pos rfl, List.nil_append, takeFraction]
      · rfl
      · rintro ds rfl
        exact (stop '.' rfl).2 rfl
  | cons d ds =>
      obtain ⟨shorter, eq⟩ := taken_eq_some.1
        (taken_takeDigits (List.cons_ne_nil d ds) all fun c mem => (stop c mem).1)
      rw [List.isEmpty_cons, if_neg Bool.false_ne_true, List.cons_append, takeFraction, eq]
      rfl

theorem taken_takeExponent {e? : Option Exponent} {rest : List Char}
    (digits : ∀ e, e? = some e → e.digits ≠ [] ∧ ∀ c ∈ e.digits, c.isDigit)
    (ends : EndsNumber rest) :
    taken (takeExponent ((e?.map Exponent.toList).getD [] ++ rest)) = some (e?, rest) := by
  cases e? with
  | none =>
      rw [Option.map_none, Option.getD_none, List.nil_append]
      cases rest with
      | nil => rfl
      | cons c rest => simp [takeExponent, ends c rfl, taken]
  | some e =>
      obtain ⟨sign, ds⟩ := e
      obtain ⟨nonempty, all⟩ := digits _ rfl
      change ds ≠ [] at nonempty
      change ∀ c ∈ ds, c.isDigit = true at all
      obtain ⟨shorter, eq⟩ := taken_eq_some.1
        (taken_takeDigits nonempty all fun c mem => (ends c mem).1)
      have noSign : ∀ c ds', c.isDigit = false → ds ++ rest = c :: ds' → False := by
        intro c ds' noDigit eq
        cases ds with
        | nil => exact nonempty rfl
        | cons d ds =>
            cases eq
            rw [all _ List.mem_cons_self] at noDigit
            exact absurd noDigit (by decide)
      rw [Option.map_some, Option.getD_some, Exponent.toList]
      match sign with
      | none =>
          change taken (takeExponent ('e' :: (ds ++ rest))) = _
          rw [takeExponent, if_pos (by decide), eq]
          · rfl
          · exact fun ds' => noSign '+' ds' rfl
          · exact fun ds' => noSign '-' ds' rfl
      | some .plus =>
          change taken (takeExponent ('e' :: '+' :: (ds ++ rest))) = _
          rw [takeExponent, if_pos (by decide), eq]
          rfl
      | some .minus =>
          change taken (takeExponent ('e' :: '-' :: (ds ++ rest))) = _
          rw [takeExponent, if_pos (by decide), eq]
          rfl

end SqlStore.Json

namespace SqlStore.Decimal

structure Numeral.WellFormed (n : Numeral) : Prop where
  nonempty : n.whole ≠ []
  digits : ∀ c ∈ n.whole, c.isDigit
  noLeadingZero : n.whole.head? = some '0' → n.whole.length ≤ 1
  fraction : ∀ c ∈ n.fraction, c.isDigit
  exponent : ∀ e, n.exponent = some e → e.digits ≠ [] ∧ ∀ c ∈ e.digits, c.isDigit

def Numeral.unsigned (n : Numeral) : List Char :=
  n.whole ++ ((if n.fraction.isEmpty then [] else '.' :: n.fraction)
    ++ (n.exponent.map Exponent.toList).getD [])

theorem Numeral.toList_eq (n : Numeral) :
    n.toList = if n.negative then '-' :: n.unsigned else n.unsigned := by
  unfold Numeral.toList Numeral.unsigned
  cases n.negative <;> simp

theorem Numeral.WellFormed.head {n : Numeral} (wellFormed : n.WellFormed) :
    ∃ d ds, n.unsigned = d :: ds ∧ d.isDigit := by
  have nonempty := wellFormed.nonempty
  have digits := wellFormed.digits
  unfold Numeral.unsigned
  cases whole : n.whole with
  | nil => exact absurd whole nonempty
  | cons d ds => exact ⟨d, _, rfl, digits d (by simp [whole])⟩

end SqlStore.Decimal

namespace SqlStore.Json
open SqlStore.Decimal (Numeral Exponent Sign)

theorem taken_takeUnsigned {n : Numeral} (wellFormed : n.WellFormed) {rest : List Char}
    (ends : EndsNumber rest) : taken (takeUnsigned n.negative (n.unsigned ++ rest)) = some (n, rest) := by
  obtain ⟨negative, whole, fraction, exponent⟩ := n
  obtain ⟨nonempty, digits, noLeadingZero, fractionDigits, exponentDigits⟩ := wellFormed
  simp only [Numeral.unsigned] at nonempty digits noLeadingZero fractionDigits exponentDigits ⊢
  have stop : ∀ c ∈ ((exponent.map Exponent.toList).getD [] ++ rest).head?,
      ¬ c.isDigit ∧ c ≠ '.' := by
    intro c mem
    cases exponent with
    | none => exact ⟨(ends c mem).1, (ends c mem).2.1⟩
    | some e =>
        cases mem
        decide
  have stop' : ∀ c ∈ ((if fraction.isEmpty then [] else '.' :: fraction) ++
      ((exponent.map Exponent.toList).getD [] ++ rest)).head?, ¬ c.isDigit := by
    intro c mem
    split at mem
    · exact (stop c mem).1
    · cases mem
      decide
  obtain ⟨_, eqWhole⟩ := taken_eq_some.1 (taken_takeDigits nonempty digits stop')
  obtain ⟨_, eqFraction⟩ := taken_eq_some.1 (taken_takeFraction fractionDigits stop)
  obtain ⟨_, eqExponent⟩ := taken_eq_some.1 (taken_takeExponent exponentDigits ends)
  have zero : ¬ (whole.head? = some '0' ∧ 1 < whole.length) := by
    rintro ⟨zero, long⟩
    have := noLeadingZero zero
    omega
  rw [List.append_assoc, List.append_assoc, takeUnsigned, eqWhole]
  simp only [Option.bind_eq_bind, Option.bind_some, if_neg zero]
  rw [eqFraction]
  simp only [Option.bind_some]
  rw [eqExponent]
  rfl

theorem taken_takeNumeral {n : Numeral} (wellFormed : n.WellFormed) {rest : List Char}
    (ends : EndsNumber rest) : taken (takeNumeral (n.toList ++ rest)) = some (n, rest) := by
  obtain ⟨_, eq⟩ := taken_eq_some.1 (taken_takeUnsigned wellFormed ends)
  rw [Numeral.toList_eq]
  cases negative : n.negative with
  | true =>
      rw [negative] at eq
      rw [if_pos rfl, List.cons_append, takeNumeral, eq]
      rfl
  | false =>
      rw [negative] at eq
      rw [if_neg Bool.false_ne_true, takeNumeral, eq]
      · rfl
      · obtain ⟨d, ds, head, digit⟩ := wellFormed.head
        rw [head]
        rintro ds' ⟨⟩
        exact absurd digit (by decide)

end SqlStore.Json
