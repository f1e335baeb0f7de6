import SqlStore.Proofs.Text.Regex
import SqlStore.Query.Condition

namespace SqlStore.Query

open Sql (BinaryOp)
open Text (Regex)
open Text.Regex (Accepts Atom Item readItems?)

/-- Whether a text is made of pieces for the parts of a pattern, one after another. -/
inductive Matches : List Char → List Char → Prop
  | nil : Matches [] []
  | anyText {p t} (run : List Char) : Matches p t → Matches ('%' :: p) (run ++ t)
  | anyChar {p t} (c : Char) : Matches p t → Matches ('_' :: p) (c :: t)
  | escaped {c p t} : c = '%' ∨ c = '_' → Matches p t → Matches ('\\' :: c :: p) (c :: t)
  | backslash {c p t} : c ≠ '%' → c ≠ '_' → Matches p t → Matches ('\\' :: c :: p) ('\\' :: c :: t)
  | lastBackslash : Matches ['\\'] ['\\']
  | char {c p t} : c ≠ '%' → c ≠ '_' → c ≠ '\\' → Matches p t → Matches (c :: p) (c :: t)

/-! ## Items for the parts of a pattern -/

/-- Whether items accept the texts that a pattern stands for. -/
def Denote (items : List Item) (pattern : List Char) : Prop :=
  ∀ text, Accepts true items text ↔ Matches pattern text

namespace Denote

variable {items : List Item} {pattern : List Char}

theorem nil : Denote [] [] := by
  intro text
  constructor
  · rintro ⟨⟩
    exact .nil
  · rintro ⟨⟩
    exact .nil

theorem anyText (denote : Denote items pattern) :
    Denote (.many .any :: items) ('%' :: pattern) := by
  intro text
  constructor
  · intro accepts
    cases accepts with
    | many _ rest => exact .anyText _ ((denote _).1 rest)
  · intro made
    cases made with
    | anyText run rest => exact .many (fun _ _ => rfl) ((denote _).2 rest)
    | char other => exact absurd rfl other

theorem anyChar (denote : Denote items pattern) :
    Denote (.one .any :: items) ('_' :: pattern) := by
  intro text
  constructor
  · intro accepts
    cases accepts with
    | one _ rest => exact .anyChar _ ((denote _).1 rest)
  · intro made
    cases made with
    | anyChar c rest => exact .one rfl ((denote _).2 rest)
    | char _ other => exact absurd rfl other

theorem accepts_char {c : Char} {text : List Char} : Accepts true (.one (.char c) :: items) text ↔
    ∃ rest, text = c :: rest ∧ Accepts true items rest := by
  constructor
  · intro accepts
    cases accepts with
    | one same rest =>
        obtain rfl := beq_iff_eq.1 same
        exact ⟨_, rfl, rest⟩
  · rintro ⟨rest, rfl, accepts⟩
    exact .one (beq_self_eq_true c) accepts

theorem escaped (denote : Denote items pattern) {c : Char} (wildcard : c = '%' ∨ c = '_') :
    Denote (.one (.char c) :: items) ('\\' :: c :: pattern) := by
  intro text
  rw [accepts_char]
  constructor
  · rintro ⟨rest, rfl, accepts⟩
    exact .escaped wildcard ((denote rest).1 accepts)
  · intro made
    cases made with
    | escaped _ rest => exact ⟨_, rfl, (denote _).2 rest⟩
    | backslash notPercent notUnderscore =>
        exact (wildcard.elim notPercent notUnderscore).elim
    | char _ _ other => exact absurd rfl other

theorem backslash (denote : Denote items pattern) {c : Char} (notPercent : c ≠ '%')
    (notUnderscore : c ≠ '_') :
    Denote (.one (.char '\\') :: .one (.char c) :: items) ('\\' :: c :: pattern) := by
  intro text
  simp only [accepts_char]
  constructor
  · rintro ⟨_, rfl, rest, rfl, accepts⟩
    exact .backslash notPercent notUnderscore ((denote rest).1 accepts)
  · intro made
    cases made with
    | escaped wildcard => exact (wildcard.elim notPercent notUnderscore).elim
    | backslash _ _ rest => exact ⟨_, rfl, _, rfl, (denote _).2 rest⟩
    | char _ _ other => exact absurd rfl other

theorem char (denote : Denote items pattern) {c : Char} (notPercent : c ≠ '%')
    (notUnderscore : c ≠ '_') (last : c = '\\' → pattern = []) :
    Denote (.one (.char c) :: items) (c :: pattern) := by
  intro text
  rw [accepts_char]
  constructor
  · rintro ⟨rest, rfl, accepts⟩
    have made := (denote rest).1 accepts
    by_cases backslash : c = '\\'
    · subst c
      obtain rfl := last rfl
      cases made
      exact .lastBackslash
    · exact .char notPercent notUnderscore backslash made
  · intro made
    cases made with
    | anyText => exact absurd rfl notPercent
    | anyChar => exact absurd rfl notUnderscore
    | escaped | backslash => cases last rfl
    | lastBackslash => exact ⟨[], rfl, (denote []).2 .nil⟩
    | char _ _ _ rest => exact ⟨_, rfl, (denote _).2 rest⟩

end Denote

/-! ## The translation -/

def literals (held : List Char) : List Item :=
  held.map fun c => .one (.char c)

theorem literals_append (held more : List Char) (items : List Item) :
    literals (held ++ more) ++ items = literals held ++ (literals more ++ items) := by
  rw [literals, List.map_append, List.append_assoc]
  rfl

theorem readItems?_held (before : List Item) (held rest : List Char) :
    readItems? before.reverse (Regex.escape held ++ rest) =
      readItems? (before ++ literals held).reverse rest := by
  rw [Text.Regex.readItems?_escape, List.reverse_append]
  rfl

theorem read_translate (before : List Item) (held pattern : List Char) : ∃ items,
    Denote items pattern ∧ readItems? before.reverse (translate held pattern ++ ['$']) =
      some (before ++ (literals held ++ items), true) := by
  -- At a wildcard the held characters become items that stand before those of the rest.
  fun_induction translate held pattern generalizing before with
  | case1 held =>
      refine ⟨[], .nil, ?_⟩
      rw [readItems?_held, readItems?, List.reverse_reverse, List.append_nil]
  | case2 held pattern ih =>
      obtain ⟨items, denote, read⟩ := ih before
      rw [literals_append] at read
      exact ⟨_, denote.escaped (.inl rfl), read⟩
  | case3 held pattern ih =>
      obtain ⟨items, denote, read⟩ := ih before
      rw [literals_append] at read
      exact ⟨_, denote.escaped (.inr rfl), read⟩
  | case4 held c pattern notPercent notUnderscore ih =>
      obtain ⟨items, denote, read⟩ := ih before
      rw [literals_append] at read
      exact ⟨_, denote.backslash notPercent notUnderscore, read⟩
  | case5 held pattern ih =>
      obtain ⟨items, denote, read⟩ := ih (before ++ literals held ++ [.many .any])
      refine ⟨_, denote.anyText, ?_⟩
      rw [List.append_assoc, readItems?_held]
      rw [List.reverse_append, List.append_assoc, List.append_assoc] at read
      exact read
  | case6 held pattern ih =>
      obtain ⟨items, denote, read⟩ := ih (before ++ literals held ++ [.one .any])
      refine ⟨_, denote.anyChar, ?_⟩
      rw [List.append_assoc, readItems?_held]
      rw [List.reverse_append, List.append_assoc, List.append_assoc] at read
      exact read
  | case7 held c pattern _ _ noBackslash notPercent notUnderscore ih =>
      obtain ⟨items, denote, read⟩ := ih before
      rw [literals_append] at read
      refine ⟨_, denote.char notPercent notUnderscore fun last => ?_, read⟩
      cases pattern with
      | nil => rfl
      | cons d pattern => exact (noBackslash d pattern last rfl).elim

theorem like_iff {pattern text : String} :
    like pattern text = true ↔ Matches pattern.toList text.toList := by
  obtain ⟨items, denote, read⟩ := read_translate [] [] pattern.toList
  have read : readItems? [] (translate [] pattern.toList ++ ['$']) = some (items, true) := read
  have compiled : Regex.read? (likeText pattern) = some ⟨true, true, items, true⟩ := by
    change (readItems? [] (translate [] pattern.toList ++ ['$'])).bind _ = _
    rw [read]
    rfl
  rw [like, compiled]
  exact Text.Regex.isMatch_anchored.trans (denote text.toList)

/-! ## Values -/

theorem isNull_eq_false {v : Value} : (!v.isNull) = true ↔ v ≠ .null := by
  cases v <;> simp [Value.isNull]

/-- A text is like a pattern if it is made of pieces for the parts of the pattern, one after another.
`LIKE` holds of values by their texts, and `NOT LIKE` is its negation; but neither holds where an
operand is NULL. -/
theorem like_language :
    (∀ pattern text : String, like pattern text = true ↔ Matches pattern.toList text.toList) ∧
    ∀ (m : OrMode) (v pattern : Value),
      (BinaryOp.like.holds m v pattern = true ↔ v ≠ .null ∧ pattern ≠ .null ∧
        Matches pattern.toText.toList v.toText.toList) ∧
      (BinaryOp.notLike.holds m v pattern = true ↔ v ≠ .null ∧ pattern ≠ .null ∧
        ¬ Matches pattern.toText.toList v.toText.toList) := by
  refine ⟨fun pattern text => like_iff, fun m v pattern => ?_⟩
  have holds : v.like pattern = true ↔ v ≠ .null ∧ pattern ≠ .null ∧
      Matches pattern.toText.toList v.toText.toList := by
    rw [Value.like, Bool.and_eq_true, Bool.and_eq_true, isNull_eq_false, isNull_eq_false, like_iff,
      and_assoc]
  refine ⟨holds, ?_⟩
  rw [BinaryOp.holds, Bool.and_eq_true, Bool.and_eq_true, isNull_eq_false, isNull_eq_false,
    Bool.not_eq_true', ← Bool.not_eq_true, holds]
  tauto

example : like "a\\\\%_" "a\\\\\nb" = true := by decide

end SqlStore.Query
