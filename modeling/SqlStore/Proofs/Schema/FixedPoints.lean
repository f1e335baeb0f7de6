import SqlStore.Proofs.Schema.Fits

namespace SqlStore

open Calendar (Instant)

/-! ## Texts of values -/

namespace Decimal

theorem Numeral.WellFormed.text_ne_empty {n : Numeral} (wellFormed : n.WellFormed) :
    String.ofList n.toList ≠ "" := by
  obtain ⟨d, ds, written, -⟩ := wellFormed.head
  rw [n.toList_eq, written]
  split <;> simp

theorem Layout.text_ne_empty (l : Layout) (x : Float) : l.text x ≠ "" := by
  rw [text]
  split
  · simp
  · split
    · split <;> simp
    · exact (l.finite_wellFormed x).text_ne_empty

end Decimal

theorem Value.toText_ne_empty {v : Value} (truthy : v.truthy) : v.toText ≠ "" := by
  cases v with
  | null => cases truthy
  | bool b => cases b <;> simp [toText]
  | int i => exact (Decimal.ofInt_wellFormed _).text_ne_empty
  | float x => exact plainLayout.text_ne_empty x
  | text s => simpa [Value.truthy, toText] using truthy
  | date t => simp [toText, Instant.text]

def Value.orNull (v : Value) : Value :=
  if v.isNaN then .null else v

theorem Value.orNull_orNull (v : Value) : v.orNull.orNull = v.orNull := by
  unfold orNull
  split <;> rfl

namespace Column

variable {c : Column} {p : NumericPolicy} {v s : Value}

/-! ## Fitted texts -/

theorem fit_of_fitsWidth {s : String} (width : c.FitsWidth s) : c.fit s = s := by
  rw [fit]
  cases declared : c.length with
  | none => rfl
  | some n =>
      obtain ⟨short, padded⟩ := width n declared
      have kept : s.toList.take n.toNat = s.toList := List.take_of_length_le short
      cases filled : c.pad with
      | none => simp [kept]
      | some pad =>
          have full : s.toList.length = n.toNat := padded (by simp [filled])
          simp [kept, full]

theorem fit_ne_empty (long : ∀ n, c.length = some n → 1 ≤ n.toNat) {s : String} (nonempty : s ≠ "") :
    c.fit s ≠ "" := by
  rw [fit]
  cases declared : c.length with
  | none => exact nonempty
  | some n =>
      have positive := long n declared
      have kept : s.toList.take n.toNat ≠ [] := by
        rw [ne_eq, List.take_eq_nil_iff]
        simp [nonempty]
        omega
      cases c.pad <;> simp [kept]

theorem fit_eq {n : UInt64} (declared : c.length = some n) (s : String) :
    ∃ kept, kept <+: s.toList ∧ (c.fit s).toList
      = kept ++ (c.pad.map (List.replicate (n.toNat - kept.length))).getD [] := by
  refine ⟨s.toList.take n.toNat, List.take_prefix .., ?_⟩
  rw [fit, declared]
  cases c.pad <;> simp

/-! ## Stored values -/

/-- Whether a stored value is stored again as it is, once it has been read. -/
def Restores (c : Column) (p : NumericPolicy) (s : Value) : Prop :=
  ∃ s', c.encode? p (c.decode p s) = some s' ∧ s'.orNull = s.orNull

theorem encode?_text (kind : c.kind = .string) {text : String} (nonempty : text ≠ "")
    (width : c.FitsWidth text) : c.encode? p (.text text) = some (.text text) := by
  have truthy : (Value.text text).truthy := by simpa [Value.truthy] using nonempty
  simp [encode?, kind, truthy, Value.toText, fit_of_fitsWidth width]

theorem restores_string (kind : c.kind = .string) (long : ∀ n, c.length = some n → 1 ≤ n.toNat)
    (encoded : c.encode? p v = some s) : c.Restores p s ∧ c.Restores p s.orNull := by
  have null : c.Restores p .null := ⟨.null, by simp [encode?, decode, kind, Value.truthy], rfl⟩
  simp only [encode?, kind, Option.some.injEq] at encoded
  subst encoded
  split
  · rename_i truthy
    have nonempty := fit_ne_empty long (Value.toText_ne_empty truthy)
    have text : c.Restores p (.text (c.fit v.toText)) := by
      refine ⟨_, ?_, rfl⟩
      simp only [decode, kind]
      exact encode?_text kind nonempty (c.fit_fitsWidth _)
    exact ⟨text, text⟩
  · exact ⟨null, null⟩

theorem restores_boolean (kind : c.kind = .boolean) (encoded : c.encode? p v = some s) :
    c.Restores p s ∧ c.Restores p s.orNull := by
  simp only [encode?, kind, Option.some.injEq] at encoded
  subst encoded
  have same : c.Restores p (.bool v.truthy) :=
    ⟨_, by simp [encode?, decode, kind, Value.truthy], rfl⟩
  exact ⟨same, same⟩

theorem encode?_notANumber (numeric : c.kind = .integer ∨ c.kind = .float) :
    c.encode? .coerce .notANumber = some .notANumber := by
  have infinite : Decimal.nan.isFinite = false := by decide
  rcases numeric with kind | kind <;>
    simp [encode?, kind, Value.notANumber, absentNumber, infinite]

theorem restores_null (numeric : c.kind = .integer ∨ c.kind = .float) (p : NumericPolicy) :
    c.Restores p .null := by
  cases p with
  | coerce =>
      refine ⟨.notANumber, ?_, by decide⟩
      have read : c.decode .coerce .null = .notANumber := by
        rcases numeric with kind | kind <;> rw [decode, kind]
      rw [read, encode?_notANumber numeric]
  | reject =>
      refine ⟨.null, ?_, rfl⟩
      rcases numeric with kind | kind <;> simp [encode?, decode, kind]

theorem restores_integer (kind : c.kind = .integer) (encoded : c.encode? p v = some s) :
    c.Restores p s ∧ c.Restores p s.orNull := by
  have null := restores_null (.inl kind) p
  rcases encode?_integer kind encoded with ⟨-, rfl⟩ | ⟨i, rfl⟩ | ⟨rfl, rfl⟩
  · exact ⟨null, null⟩
  · have int : c.Restores p (.int i) := ⟨.int i, by simp [encode?, decode, kind], rfl⟩
    exact ⟨int, int⟩
  · have read : c.decode .coerce .notANumber = .notANumber := by
      simp only [decode, kind]
      rfl
    exact ⟨⟨_, by rw [read, encode?_notANumber (.inl kind)], rfl⟩, null⟩

theorem encode?_float (kind : c.kind = .float) (encoded : c.encode? p v = some s) :
    s = .null ∨ ∃ x, s = .float x := by
  have absent (encoded : absentNumber p = some s) : ∃ x, s = .float x := by
    cases p <;> cases encoded
    exact ⟨_, rfl⟩
  simp only [encode?, kind] at encoded
  cases v with
  | null =>
      cases encoded
      exact .inl rfl
  | int i | float x | date t =>
      cases encoded
      exact .inr ⟨_, rfl⟩
  | text t =>
      dsimp only at encoded
      split at encoded
      · cases encoded
        exact .inr ⟨_, rfl⟩
      · exact .inr (absent encoded)
  | bool b => exact .inr (absent encoded)

theorem restores_float (kind : c.kind = .float) (encoded : c.encode? p v = some s) :
    c.Restores p s ∧ c.Restores p s.orNull := by
  have null := restores_null (.inr kind) p
  rcases encode?_float kind encoded with rfl | ⟨x, rfl⟩
  · exact ⟨null, null⟩
  · have float : c.Restores p (.float x) := ⟨.float x, by simp [encode?, decode, kind], rfl⟩
    refine ⟨float, ?_⟩
    rw [Value.orNull]
    split
    · exact null
    · exact float

theorem millis_ofMillis? {ms : Int} {t : Instant} (read : Instant.ofMillis? ms = some t) :
    t.millis = ms := by
  simp only [Instant.ofMillis?] at read
  split at read
  · cases read
    simp only [Instant.millis]
    rw [Int.fdiv_eq_ediv_of_nonneg _ (by decide), Int.fmod_eq_emod_of_nonneg _ (by decide)]
    omega
  · cases read

theorem restores_date (kind : c.kind = .date) (regular : s = .null ∨ ∃ ms : Int64, s = .int ms ∧
    (Instant.ofMillis? ms.toInt).isSome) : c.Restores p s ∧ c.Restores p s.orNull := by
  rcases regular with rfl | ⟨ms, rfl, regular⟩
  · have null : c.Restores p .null := ⟨.null, by simp [encode?, decode, kind], rfl⟩
    exact ⟨null, null⟩
  · obtain ⟨t, read⟩ := Option.isSome_iff_exists.1 regular
    have int : c.Restores p (.int ms) := by
      refine ⟨.int ms, ?_, rfl⟩
      simp [encode?, decode, kind, read, timestamp, millis_ofMillis? read]
    exact ⟨int, int⟩

/-- What a column stores is stored again as it is once it has been read, under every policy and
whether or not it has been written as NULL in between. A date column is the exception for what is
no timestamp of a representable date, and a binary column is not read at all. A text of a column
with a length has at most that many characters, or just as many where it is filled up, and all but
what fills it up is the start of the text that has been given. -/
theorem encode?_decode (p : NumericPolicy) (shown : c.kind ≠ .binary)
    (long : ∀ n, c.length = some n → 1 ≤ n.toNat) (encoded : c.encode? p v = some s) :
    ((c.kind = .date → s = .null ∨ ∃ ms : Int64, s = .int ms ∧
        (Instant.ofMillis? ms.toInt).isSome) →
      ∀ read, read = s ∨ read = s.orNull →
        ∃ s', c.encode? p (c.decode p read) = some s' ∧ s'.orNull = s.orNull) ∧
    ∀ n, c.kind = .string → c.length = some n → s = .null ∨ ∃ text kept, s = .text text ∧
      text.length ≤ n.toNat ∧ (c.pad.isSome → text.length = n.toNat) ∧ kept <+: v.toText.toList ∧
      text.toList = kept ++ (c.pad.map (List.replicate (n.toNat - kept.length))).getD [] := by
  constructor
  · intro regular
    have both : c.Restores p s ∧ c.Restores p s.orNull := by
      cases kind : c.kind with
      | string => exact restores_string kind long encoded
      | binary => exact absurd kind shown
      | boolean => exact restores_boolean kind encoded
      | integer => exact restores_integer kind encoded
      | float => exact restores_float kind encoded
      | date => exact restores_date kind (regular kind)
    rintro read (rfl | rfl)
    · exact both.1
    · obtain ⟨s', stored, same⟩ := both.2
      exact ⟨s', stored, same.trans s.orNull_orNull⟩
  · intro n kind declared
    simp only [encode?, kind, Option.some.injEq] at encoded
    subst encoded
    split
    · obtain ⟨kept, start, written⟩ := fit_eq declared v.toText
      obtain ⟨short, padded⟩ := c.fit_fitsWidth v.toText n declared
      exact .inr ⟨_, kept, rfl, short, padded, start, written⟩
    · exact .inl rfl

theorem encode?_decode_three :
    let filled : Column := ⟨"a", .string, 0, some 3, some ' '⟩
    let number : Column := ⟨"b", .integer, 1, none, none⟩
    let date : Column := ⟨"c", .date, 2, none, none⟩
    filled.encode? .coerce (.text "x") = some (.text "x  ") ∧
      number.encode? .coerce (.text "one") = some .notANumber ∧
      date.encode? .coerce (.int (-1)) = some (.int (-1)) ∧
      (∃ s', filled.encode? .coerce (filled.decode .coerce (.text "x  ")) = some s' ∧
        s'.orNull = .text "x  ") ∧
      (∃ s', number.encode? .coerce (number.decode .coerce .null) = some s' ∧ s'.orNull = .null) ∧
      ∃ s', date.encode? .coerce (date.decode .coerce (.int (-1))) = some s' ∧
        s'.orNull = .int (-1) := by
  intro filled number date
  have stored : filled.encode? .coerce (.text "x") = some (.text "x  ") ∧
      number.encode? .coerce (.text "one") = some .notANumber ∧
      date.encode? .coerce (.int (-1)) = some (.int (-1)) := by decide
  have long : ∀ n, filled.length = some n → 1 ≤ n.toNat := by
    rintro n ⟨⟩
    decide
  refine ⟨stored.1, stored.2.1, stored.2.2, ?_, ?_, ?_⟩
  · exact (encode?_decode .coerce (by decide) long stored.1).1 (by rintro ⟨⟩) _ (.inl rfl)
  · exact (encode?_decode .coerce (by decide) (by rintro n ⟨⟩) stored.2.1).1 (by rintro ⟨⟩) _
      (.inr (by decide))
  · exact (encode?_decode .coerce (by decide) (by rintro n ⟨⟩) stored.2.2).1
      (fun _ => .inr ⟨-1, rfl, by decide⟩) _ (.inl rfl)

end Column

end SqlStore
