import SqlStore.Dict

namespace SqlStore

inductive Write where
  | set (key text : String)
  | remove (key : String)
deriving Repr, DecidableEq

def Write.key : Write → String
  | .set key _ => key
  | .remove key => key

inductive StorageFault where
  | injected
  | unwritable
deriving Repr, DecidableEq

def StorageFault.message : StorageFault → String
  | .injected => "injected failure"
  | .unwritable => "the file can not be replaced"

class Storage (σ : Type) where
  get? : σ → String → Option String
  write : σ → Write → Except StorageFault Unit × σ

namespace Storage

variable {σ : Type} [Storage σ]

def writeAll (s : σ) : List Write → Except StorageFault Unit × σ
  | [] => (.ok (), s)
  | w :: ws => match write s w with
    | (.ok (), s') => writeAll s' ws
    | (.error fault, s') => (.error fault, s')

end Storage

/-! ## Stores in memory -/

def Write.apply (d : Dict String) : Write → Dict String
  | .set key text => d.insert key text
  | .remove key => d.erase key

structure Memory where
  entries : Dict String
deriving Inhabited

def Memory.empty : Memory := ⟨.empty⟩

instance : Storage Memory where
  get? s key := s.entries.get? key
  write s w := (.ok (), ⟨w.apply s.entries⟩)

end SqlStore
