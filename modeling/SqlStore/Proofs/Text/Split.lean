import SqlStore.Text.Basic

namespace SqlStore.Text

variable {sep : Char}

theorem append_separated_inj {xs ys as bs : List Char} (first : sep ∉ as) (second : sep ∉ bs) :
    xs ++ sep :: as = ys ++ sep :: bs ↔ xs = ys ∧ as = bs := by
  constructor
  · intro eq
    rcases List.append_eq_append_iff.1 eq with ⟨mid, rfl, tail⟩ | ⟨mid, rfl, tail⟩
    all_goals
      cases mid with
      | nil =>
          cases tail
          exact ⟨by rw [List.append_nil], rfl⟩
      | cons x mid =>
          rw [List.cons_append, List.cons.injEq] at tail
          simp [tail.2] at first second
  · rintro ⟨rfl, rfl⟩
    rfl

theorem splitAt_separated {part rest : List Char} (free : sep ∉ part) :
    splitAt sep (part ++ sep :: rest) = part :: splitAt sep rest := by
  induction part with
  | nil => exact if_pos rfl
  | cons c part ih =>
      rw [List.mem_cons, not_or] at free
      rw [List.cons_append, splitAt, if_neg (Ne.symm free.1), ih free.2]

theorem free_of_mem_splitAt {cs part : List Char} (mem : part ∈ splitAt sep cs) : sep ∉ part := by
  induction cs generalizing part with
  | nil =>
      rw [splitAt, List.mem_singleton] at mem
      exact mem ▸ List.not_mem_nil
  | cons c cs ih =>
      rw [splitAt] at mem
      split at mem
      · rcases List.mem_cons.1 mem with rfl | mem
        · exact List.not_mem_nil
        · exact ih mem
      · rename_i other
        split at mem
        · rename_i head parts eq
          rw [eq] at ih
          rcases List.mem_cons.1 mem with rfl | mem
          · rw [List.mem_cons, not_or]
            exact ⟨Ne.symm other, ih List.mem_cons_self⟩
          · exact ih (List.mem_cons_of_mem _ mem)
        · rw [List.mem_singleton] at mem
          simpa [mem] using Ne.symm other

theorem splitAt_of_free {part : List Char} (free : sep ∉ part) : splitAt sep part = [part] := by
  induction part with
  | nil => rfl
  | cons c part ih =>
      rw [List.mem_cons, not_or] at free
      rw [splitAt, if_neg (Ne.symm free.1), ih free.2]

theorem splitAt_intercalate {parts : List (List Char)} (nonempty : parts ≠ [])
    (free : ∀ part ∈ parts, sep ∉ part) : splitAt sep ([sep].intercalate parts) = parts := by
  induction parts with
  | nil => exact absurd rfl nonempty
  | cons part parts ih =>
      rw [List.forall_mem_cons] at free
      cases parts with
      | nil =>
          rw [List.intercalate_singleton]
          exact splitAt_of_free free.1
      | cons next parts =>
          rw [List.intercalate_cons_cons, List.append_assoc, List.singleton_append,
            splitAt_separated free.1, ih (List.cons_ne_nil _ _) free.2]

end SqlStore.Text
