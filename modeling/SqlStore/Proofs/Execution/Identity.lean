import SqlStore.Proofs.Execution.Catalog
import SqlStore.Proofs.Plan
import SqlStore.Proofs.Text.Split

namespace SqlStore

/-! ## Table names -/

namespace TableName

theorem read?_eq_some {name : String} {n : TableName} : read? name = some n ↔
    "" ∉ (Text.splitAt '.' name.toList).map String.ofList ∧
      (Text.splitAt '.' name.toList).map String.ofList = n.space?.toList ++ [n.table] := by
  obtain ⟨space?, table⟩ := n
  rw [read?]
  generalize (Text.splitAt '.' name.toList).map String.ofList = parts
  have empty : parts.any String.isEmpty ↔ "" ∈ parts := by
    simp [List.any_eq_true]
  simp only [empty]
  split
  · rename_i some
    exact iff_of_false nofun fun both => both.1 some
  · rename_i none
    rw [and_iff_right none]
    split
    · cases space? <;> simp
    · cases space? <;> simp
    · rename_i one two
      cases space? with
      | none => exact iff_of_false nofun (one table)
      | some ns => exact iff_of_false nofun (two ns table)

theorem Written.free {n : TableName} (written : n.Written) :
    '.' ∉ n.inNamespace.toList ∧ '.' ∉ n.table.toList := by
  obtain ⟨name, named⟩ := written
  obtain ⟨-, parts⟩ := read?_eq_some.1 named
  have free {part : String} (mem : part ∈ n.space?.toList ++ [n.table]) : '.' ∉ part.toList := by
    rw [← parts] at mem
    obtain ⟨cs, mem', rfl⟩ := List.mem_map.1 mem
    rw [String.toList_ofList]
    exact Text.free_of_mem_splitAt mem'
  refine ⟨?_, free (List.mem_append_right _ (List.mem_singleton_self _))⟩
  rw [inNamespace]
  cases space : n.space? with
  | none => decide
  | some ns =>
      refine free (List.mem_append_left _ ?_)
      rw [space]
      exact List.mem_singleton_self ns

theorem read?_public {name table : String} (named : read? name = some ⟨none, table⟩) :
    read? ("public." ++ name) = some ⟨some "public", table⟩ := by
  obtain ⟨nonempty, parts⟩ := read?_eq_some.1 named
  have split : Text.splitAt '.' ("public." ++ name).toList =
      "public".toList :: Text.splitAt '.' name.toList := by
    have free : '.' ∉ "public".toList := by decide
    rw [String.toList_append]
    exact Text.splitAt_separated free
  rw [read?_eq_some, split, List.map_cons, String.ofList_toList]
  refine ⟨fun mem => ?_, congrArg _ parts⟩
  rcases List.mem_cons.1 mem with eq | mem
  · exact absurd eq (by decide)
  · exact nonempty mem

end TableName

/-! ## Keys -/

structure TableId where
  database : String
  space : String
  table : String
deriving Repr, DecidableEq

inductive TablePart where
  | definition
  | rows
deriving Repr, DecidableEq

def TablePart.name : TablePart → String
  | .definition => "definition"
  | .rows => "rows"

namespace Connection

/-- The table that a name stands for; one without a namespace is in the default one. -/
def identity (c : Connection) (n : TableName) : TableId :=
  ⟨c.database, n.inNamespace, n.table⟩

def key (c : Connection) (n : TableName) : TablePart → String
  | .definition => c.definitionKey n
  | .rows => c.rowsKey n

variable {c d : Connection} {m n : TableName}

theorem toList_key (c : Connection) (n : TableName) (p : TablePart) : (c.key n p).toList =
    (((c.database.toList ++ '.' :: n.inNamespace.toList) ++ '.' :: "tables".toList) ++
      '.' :: n.table.toList) ++ '.' :: p.name.toList := by
  cases p <;> simp [key, definitionKey, rowsKey, TableName.keyStem, TablePart.name,
    String.toList_append]

theorem key_eq_iff (first : m.Written) (second : n.Written) {p q : TablePart} :
    c.key m p = d.key n q ↔ c.identity m = d.identity n ∧ p = q := by
  have names {p q : TablePart} : p.name.toList = q.name.toList ↔ p = q := by
    cases p <;> cases q <;> decide
  have free (p : TablePart) : '.' ∉ p.name.toList := by
    cases p <;> decide
  have tables : '.' ∉ "tables".toList := by decide
  rw [← String.toList_inj, toList_key, toList_key,
    Text.append_separated_inj (free p) (free q),
    Text.append_separated_inj first.free.2 second.free.2,
    Text.append_separated_inj tables tables,
    Text.append_separated_inj first.free.1 second.free.1]
  simp only [names, String.toList_inj, identity, TableId.mk.injEq, and_true, and_assoc]

theorem key_congr (same : c.identity m = d.identity n) (p : TablePart) :
    c.key m p = d.key n p := by
  rw [identity, identity, TableId.mk.injEq] at same
  rw [← String.toList_inj, toList_key, toList_key, same.1, same.2.1, same.2.2]

variable {view : View}

theorem table?_of_identity (same : c.identity m = d.identity n) {t : Table}
    (found : d.table? view n = .ok (some t)) : c.table? view m = .ok (some ⟨m.text, t.columns⟩) :=
  table?_of_text (congrArg view (key_congr same .definition)) found

theorem rows_of_identity (same : c.identity m = d.identity n) {rows : List Row} :
    c.rows view m = .ok rows ↔ d.rows view n = .ok rows :=
  have text := congrArg view (key_congr same .rows)
  ⟨rows_of_text text.symm, rows_of_text text⟩

end Connection

end SqlStore
