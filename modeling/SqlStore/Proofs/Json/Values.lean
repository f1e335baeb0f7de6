import SqlStore.Proofs.Json.Tokens

namespace SqlStore.Json
open SqlStore.Decimal (Numeral)

inductive WellFormed : Json → Prop
  | null : WellFormed .null
  | bool (b : Bool) : WellFormed (.bool b)
  | number {n : Numeral} (numeral : n.WellFormed) : WellFormed (.number n)
  | string (s : String) : WellFormed (.string (some s))
  | array {items : List Json} (each : ∀ j ∈ items, WellFormed j) : WellFormed (.array items)
  | object {members : List (String × Json)} (each : ∀ m ∈ members, WellFormed m.2) :
      WellFormed (.ofMembers members)

theorem isSpace_of_isDigit {c : Char} (digit : c.isDigit) : isSpace c = false := by
  simp only [isSpace, Bool.or_eq_false_iff, decide_eq_false_iff_not]
  refine ⟨⟨⟨?_, ?_⟩, ?_⟩, ?_⟩ <;> rintro rfl <;> exact absurd digit (by decide)

theorem skipSpace_cons {c : Char} (noSpace : isSpace c = false) (cs : List Char) :
    skipSpace (c :: cs) = c :: cs := by
  simp [skipSpace, noSpace]

theorem takeValue_number {cs : List Char} {c : Char} {n : Numeral} {rest : List Char}
    (start : c.isDigit ∨ c = '-') (eq : taken (takeNumeral (c :: cs)) = some (n, rest)) :
    taken (takeValue (c :: cs)) = some (.number n, rest) := by
  have skip : skipSpace (c :: cs) = c :: cs := by
    rcases start with digit | rfl
    · exact skipSpace_cons (isSpace_of_isDigit digit) cs
    · rfl
  obtain ⟨_, eq⟩ := taken_eq_some.1 eq
  rw [takeValue]
  split
  all_goals
    rename_i h
    rw [skip] at h
    cases h
  case h_8 =>
    rw [eq]
    rfl
  all_goals exact absurd start (by decide)

theorem takeValue_string (s : String) (rest : List Char) :
    taken (takeValue ((Json.string (some s)).write ++ rest)) = some (.string (some s), rest) := by
  obtain ⟨_, eq⟩ := taken_eq_some.1 (taken_takeString s rest)
  have text : (Json.string (some s)).write ++ rest =
      '\x22' :: (s.toList.flatMap escapeChar ++ '\x22' :: rest) := by
    simp [write, writeString]
  have skip := skipSpace_cons (show isSpace '\x22' = false from rfl)
    (s.toList.flatMap escapeChar ++ '\x22' :: rest)
  rw [text, takeValue]
  split
  all_goals
    rename_i h
    rw [skip] at h
    cases h
  · rw [eq]
    rfl
  · contradiction

theorem takeValue_array {cs : List Char} {items : List Json} {rest : List Char}
    (eq : taken (takeItems cs) = some (items, rest)) :
    taken (takeValue ('[' :: cs)) = some (.array items, rest) := by
  obtain ⟨_, eq⟩ := taken_eq_some.1 eq
  have skip := skipSpace_cons (show isSpace '[' = false from rfl) cs
  rw [takeValue]
  split
  all_goals
    rename_i h
    rw [skip] at h
    cases h
  · rw [eq]
    rfl
  · contradiction

theorem takeValue_object {cs rest : List Char} {members : List (Option String × Json)}
    (eq : taken (takeMembers cs) = some (members, rest)) :
    taken (takeValue ('\x7b' :: cs)) = some (.object members, rest) := by
  obtain ⟨_, eq⟩ := taken_eq_some.1 eq
  have skip := skipSpace_cons (show isSpace '\x7b' = false from rfl) cs
  rw [takeValue]
  split
  all_goals
    rename_i h
    rw [skip] at h
    cases h
  · rw [eq]
    rfl
  · contradiction

def ReadsBack (j : Json) : Prop :=
  ∀ rest, EndsNumber rest → taken (takeValue (j.write ++ rest)) = some (j, rest)

theorem endsNumber_of_head {c : Char} (stop : c = ',' ∨ c = ']' ∨ c = '\x7d') (cs : List Char) :
    EndsNumber (c :: cs) := by
  rintro _ ⟨⟩
  rcases stop with rfl | rfl | rfl <;> decide

theorem takeSomeItems_last {cs rest : List Char} {j : Json}
    (eq : taken (takeValue cs) = some (j, ']' :: rest)) :
    taken (takeSomeItems cs) = some ([j], rest) := by
  obtain ⟨_, eq⟩ := taken_eq_some.1 eq
  have skip := skipSpace_cons (show isSpace ']' = false from rfl) rest
  rw [takeSomeItems, eq]
  simp only [Option.bind_eq_bind, Option.bind_some]
  split
  · rename_i h
    rw [skip] at h
    cases h
    rfl
  · rename_i h
    rw [skip] at h
    cases h
  · rename_i noClose _
    exact absurd skip (noClose rest)

theorem takeSomeItems_more {cs cs' rest : List Char} {j : Json} {items : List Json}
    (eq : taken (takeValue cs) = some (j, ',' :: cs'))
    (later : taken (takeSomeItems cs') = some (items, rest)) :
    taken (takeSomeItems cs) = some (j :: items, rest) := by
  obtain ⟨_, eq⟩ := taken_eq_some.1 eq
  obtain ⟨_, later⟩ := taken_eq_some.1 later
  have skip := skipSpace_cons (show isSpace ',' = false from rfl) cs'
  rw [takeSomeItems, eq]
  simp only [Option.bind_eq_bind, Option.bind_some]
  split
  · rename_i h
    rw [skip] at h
    cases h
  · rename_i h
    rw [skip] at h
    cases h
    rw [later]
    rfl
  · rename_i noComma
    exact absurd skip (noComma cs')

theorem taken_takeSomeItems {j : Json} {items : List Json} (each : ∀ i ∈ j :: items, i.ReadsBack)
    (rest : List Char) :
    taken (takeSomeItems (j.write ++ (writeMoreItems items ++ rest))) = some (j :: items, rest) := by
  induction items generalizing j with
  | nil =>
      exact takeSomeItems_last (each j List.mem_cons_self _ (endsNumber_of_head (by simp) _))
  | cons i items ih =>
      rw [writeMoreItems, List.cons_append, List.cons_append, List.append_assoc]
      exact takeSomeItems_more (each j List.mem_cons_self _ (endsNumber_of_head (by simp) _))
        (ih fun k mem => each k (List.mem_cons_of_mem j mem))

theorem write_head {j : Json} (wellFormed : j.WellFormed) :
    ∃ c cs, j.write = c :: cs ∧ isSpace c = false ∧ c ≠ ']' := by
  cases wellFormed with
  | null => exact ⟨'n', _, rfl, rfl, by decide⟩
  | bool b => cases b <;> exact ⟨_, _, rfl, rfl, by decide⟩
  | string s => exact ⟨'\x22', _, rfl, rfl, by decide⟩
  | array _ => exact ⟨'[', _, rfl, rfl, by decide⟩
  | object _ => exact ⟨'\x7b', _, rfl, rfl, by decide⟩
  | @number n numeral =>
      obtain ⟨d, ds, head, digit⟩ := numeral.head
      rw [write, Numeral.toList_eq, head]
      cases n.negative with
      | true => exact ⟨'-', _, rfl, rfl, by decide⟩
      | false =>
          refine ⟨d, _, rfl, isSpace_of_isDigit digit, ?_⟩
          rintro rfl
          exact absurd digit (by decide)

theorem taken_takeItems {items : List Json} (wellFormed : ∀ j ∈ items, j.WellFormed)
    (each : ∀ j ∈ items, j.ReadsBack) (rest : List Char) :
    taken (takeItems (writeItems items ++ rest)) = some (items, rest) := by
  cases items with
  | nil =>
      have skip := skipSpace_cons (show isSpace ']' = false from rfl) rest
      rw [writeItems, List.singleton_append, takeItems]
      split
      · rename_i h
        rw [skip] at h
        cases h
        rfl
      · rename_i noClose
        exact absurd skip (noClose rest)
  | cons j items =>
      have later := taken_takeSomeItems each rest
      obtain ⟨c, cs, head, noSpace, noClose⟩ := write_head (wellFormed j List.mem_cons_self)
      rw [writeItems, List.append_assoc, takeItems]
      split
      · rename_i h
        rw [head, List.cons_append, skipSpace_cons noSpace] at h
        cases h
        exact absurd rfl noClose
      · exact later

def afterMember (m : Option String × Json) (rest : List Char) :
    Option (List (Option String × Json) × List Char) :=
  match skipSpace rest with
  | '\x7d' :: r => some ([m], r)
  | ',' :: r => (taken (takeSomeMembers r)).map fun t => (m :: t.1, t.2)
  | _ => none

theorem takeSomeMembers_member {cs rest : List Char} {j : Json} (name : String)
    (eq : taken (takeValue cs) = some (j, rest)) :
    taken (takeSomeMembers (writeString (some name) ++ ':' :: cs)) =
      afterMember (some name, j) rest := by
  obtain ⟨_, eq⟩ := taken_eq_some.1 eq
  obtain ⟨_, eqName⟩ := taken_eq_some.1 (taken_takeString name (':' :: cs))
  have text : writeString (some name) ++ ':' :: cs =
      '\x22' :: (name.toList.flatMap escapeChar ++ '\x22' :: ':' :: cs) := by
    simp [writeString]
  have quote := skipSpace_cons (show isSpace '\x22' = false from rfl)
    (name.toList.flatMap escapeChar ++ '\x22' :: ':' :: cs)
  have colon := skipSpace_cons (show isSpace ':' = false from rfl) cs
  rw [text, takeSomeMembers]
  split
  · rename_i h
    rw [quote] at h
    cases h
    rw [eqName]
    simp only [Option.bind_eq_bind, Option.bind_some]
    split
    · rename_i h
      rw [colon] at h
      cases h
      rw [eq]
      simp only [Option.bind_some]
      split
      · rename_i h
        simp only [afterMember, h]
        rfl
      · rename_i r h
        simp only [afterMember, h]
        cases takeSomeMembers r <;> rfl
      · rename_i noClose noComma
        unfold afterMember
        split
        · rename_i h
          exact (noClose _ h).elim
        · rename_i h
          exact (noComma _ h).elim
        · rfl
    · rename_i noColon
      exact absurd colon (noColon cs)
  · rename_i noQuote
    exact absurd quote (noQuote _)

theorem taken_takeSomeMembers {name : String} {j : Json} {members : List (String × Json)}
    (each : ∀ m ∈ (name, j) :: members, m.2.ReadsBack) (rest : List Char) :
    taken (takeSomeMembers (writeString (some name) ++ ':' :: (j.write ++
      (writeMoreMembers (members.map fun m => (some m.1, m.2)) ++ rest)))) =
      some ((some name, j) :: members.map fun m => (some m.1, m.2), rest) := by
  have first : j.ReadsBack := each _ List.mem_cons_self
  induction members generalizing name j with
  | nil =>
      rw [List.map_nil, writeMoreMembers, List.singleton_append,
        takeSomeMembers_member name (first _ (endsNumber_of_head (by simp) _))]
      rfl
  | cons m members ih =>
      obtain ⟨name', j'⟩ := m
      have later := ih (fun k mem => each k (List.mem_cons_of_mem _ mem))
        (each (name', j') (by simp))
      have text : writeMoreMembers (((name', j') :: members).map fun m => (some m.1, m.2)) ++ rest =
          ',' :: (writeString (some name') ++ ':' :: (j'.write ++
            (writeMoreMembers (members.map fun m => (some m.1, m.2)) ++ rest))) := by
        simp [writeMoreMembers]
      rw [text, takeSomeMembers_member name (first _ (endsNumber_of_head (by simp) _)), afterMember,
        skipSpace_cons rfl]
      simp only [later]
      rfl

theorem taken_takeMembers {members : List (String × Json)}
    (each : ∀ m ∈ members, m.2.ReadsBack) (rest : List Char) :
    taken (takeMembers (writeMembers (members.map fun m => (some m.1, m.2)) ++ rest)) =
      some (members.map fun m => (some m.1, m.2), rest) := by
  cases members with
  | nil =>
      have skip := skipSpace_cons (show isSpace '\x7d' = false from rfl) rest
      rw [List.map_nil, writeMembers, List.singleton_append, takeMembers]
      split
      · rename_i h
        rw [skip] at h
        cases h
        rfl
      · rename_i noClose
        exact absurd skip (noClose rest)
  | cons m members =>
      obtain ⟨name, j⟩ := m
      have later := taken_takeSomeMembers each rest
      have text : writeMembers (((name, j) :: members).map fun m => (some m.1, m.2)) ++ rest =
          writeString (some name) ++ ':' :: (j.write ++
            (writeMoreMembers (members.map fun m => (some m.1, m.2)) ++ rest)) := by
        simp [writeMembers]
      rw [text, takeMembers]
      split
      · rename_i h
        rw [writeString, List.cons_append, List.cons_append, skipSpace_cons rfl] at h
        cases h
      · exact later

theorem WellFormed.readsBack {j : Json} (wellFormed : j.WellFormed) : j.ReadsBack := by
  induction wellFormed with
  | null =>
      intro rest _
      change taken (takeValue ('n' :: 'u' :: 'l' :: 'l' :: rest)) = _
      rw [takeValue]
      rfl
  | bool b =>
      intro rest _
      cases b with
      | false =>
          change taken (takeValue ('f' :: 'a' :: 'l' :: 's' :: 'e' :: rest)) = _
          rw [takeValue]
          rfl
      | true =>
          change taken (takeValue ('t' :: 'r' :: 'u' :: 'e' :: rest)) = _
          rw [takeValue]
          rfl
  | @number n numeral =>
      intro rest ends
      have eq := taken_takeNumeral numeral ends
      obtain ⟨d, ds, head, digit⟩ := numeral.head
      rw [write]
      rw [Numeral.toList_eq, head] at eq ⊢
      cases negative : n.negative with
      | true =>
          rw [negative] at eq
          exact takeValue_number (.inr rfl) eq
      | false =>
          rw [negative] at eq
          exact takeValue_number (.inl digit) eq
  | string s => exact fun rest _ => takeValue_string s rest
  | array each ih =>
      intro rest _
      rw [write, List.cons_append]
      exact takeValue_array (taken_takeItems each ih rest)
  | object each ih =>
      intro rest _
      rw [ofMembers, write, List.cons_append]
      exact takeValue_object (taken_takeMembers ih rest)

theorem read?_text {j : Json} (wellFormed : j.WellFormed) : Json.read? j.text = some j := by
  have eq : taken (takeValue j.text.toList) = some (j, []) := by
    rw [Json.text, String.toList_ofList, ← List.append_nil j.write]
    exact wellFormed.readsBack [] (by rintro _ ⟨⟩)
  obtain ⟨_, eq⟩ := taken_eq_some.1 eq
  rw [read?, eq]
  rfl

end SqlStore.Json
