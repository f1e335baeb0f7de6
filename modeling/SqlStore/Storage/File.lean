import SqlStore.Json.Reader
import SqlStore.Storage.Basic

namespace SqlStore

structure Place where
  text? : Option String
  writable : Bool
deriving Repr, DecidableEq

structure FileStore where
  entries : Dict String
  place : Place

namespace FileStore

def decode (text? : Option String) : Dict String :=
  ((text?.bind Json.read?).bind (Json.dict? Json.string?)).getD .empty

def encode (entries : Dict String) : String :=
  (Json.ofMembers (entries.map Json.ofString).entries).text

def openAt (place : Place) : FileStore :=
  ⟨decode place.text?, place⟩

def flush (s : FileStore) : Except StorageFault Unit × FileStore :=
  if s.place.writable then
    (.ok (), { s with place := { s.place with text? := some (encode s.entries) } })
  else (.error .unwritable, s)

def restore (s : FileStore) (key : String) : Option String → FileStore
  | some text => { s with entries := s.entries.insert key text }
  | none => { s with entries := s.entries.erase key }

/-- Makes a change in the entries and then in the file. If the file can not be replaced, the
entries are put back. -/
def change (s : FileStore) (w : Write) : Except StorageFault Unit × FileStore :=
  match flush { s with entries := w.apply s.entries } with
  | (.ok (), s') => (.ok (), s')
  | (.error fault, s') => (.error fault, s'.restore w.key (s.entries.get? w.key))

def isIdle (s : FileStore) : Write → Bool
  | .set _ _ => false
  | .remove key => !s.entries.contains key

end FileStore

instance : Storage FileStore where
  get? s key := s.entries.get? key
  write s w := if s.isIdle w then (.ok (), s) else s.change w

end SqlStore
