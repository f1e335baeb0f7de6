import SqlStore.Json.Reader

namespace SqlStore

inductive OrMode where
  | standard
  | legacy
deriving Repr, DecidableEq, Inhabited

inductive NumericPolicy where
  | coerce
  | reject
deriving Repr, DecidableEq, Inhabited

structure Config where
  orMode : OrMode
  numericPolicy : NumericPolicy
deriving Repr, DecidableEq, Inhabited

def OrMode.name : OrMode → String
  | .standard => "standard"
  | .legacy => "legacy"

def NumericPolicy.name : NumericPolicy → String
  | .coerce => "coerce"
  | .reject => "reject"

def OrMode.ofName? (s : String) : Option OrMode :=
  [OrMode.standard, .legacy].find? fun m => m.name == s

def NumericPolicy.ofName? (s : String) : Option NumericPolicy :=
  [NumericPolicy.coerce, .reject].find? fun p => p.name == s

namespace Config

def default : Config := ⟨.standard, .coerce⟩

def ofJson? (j : Json) : Option Config := do
  match ← Json.fields? ["or_semantics", "numeric_policy"] j with
  | [orMode, numericPolicy] =>
    let orMode ← match orMode with
      | none => some default.orMode
      | some j => j.choice?.bind OrMode.ofName?
    let numericPolicy ← match numericPolicy with
      | none => some default.numericPolicy
      | some j => j.choice?.bind NumericPolicy.ofName?
    return ⟨orMode, numericPolicy⟩
  | _ => none

def read? (text : String) : Option Config :=
  (Json.read? text).bind ofJson?

end Config

end SqlStore
