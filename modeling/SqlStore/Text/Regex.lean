/-!
# Regular expressions

Sequences of characters and points between anchors, where a star lets what stands before it occur
any number of times. A point stands for any character but a line feed, and after the flag `s` for a
line feed too.
-/

namespace SqlStore.Text

inductive Regex.Atom where
  | char (c : Char)
  | any
deriving Repr, DecidableEq

inductive Regex.Item where
  | one (a : Atom)
  | many (a : Atom)
deriving Repr, DecidableEq

structure Regex where
  dotAll : Bool
  fromStart : Bool
  items : List Regex.Item
  toEnd : Bool
deriving Repr, DecidableEq

namespace Regex

/-! ## Syntax -/

def isMeta (c : Char) : Bool :=
  ['\\', '.', '+', '*', '?', '(', ')', '|', '[', ']', '\x7b', '\x7d', '^', '$', '#', '&', '-',
    '~'].contains c

def escape (cs : List Char) : List Char :=
  cs.flatMap fun c => if isMeta c then ['\\', c] else [c]

/-- Reads items up to the end of the text or an anchor there, after those in `done`, of which the
last stands first. -/
def readItems? (done : List Item) : List Char → Option (List Item × Bool)
  | [] => some (done.reverse, false)
  | ['$'] => some (done.reverse, true)
  | '*' :: cs => match done with
    | .one a :: before => readItems? (.many a :: before) cs
    | _ => none
  | '.' :: cs => readItems? (.one .any :: done) cs
  | '\\' :: c :: cs => if isMeta c then readItems? (.one (.char c) :: done) cs else none
  | c :: cs => if isMeta c then none else readItems? (.one (.char c) :: done) cs

def readFlag : List Char → Bool × List Char
  | '(' :: '?' :: 's' :: ')' :: cs => (true, cs)
  | cs => (false, cs)

def readAnchor : List Char → Bool × List Char
  | '^' :: cs => (true, cs)
  | cs => (false, cs)

def read? (text : List Char) : Option Regex := do
  let (dotAll, cs) := readFlag text
  let (fromStart, cs) := readAnchor cs
  let (items, toEnd) ← readItems? [] cs
  return ⟨dotAll, fromStart, items, toEnd⟩

/-! ## Matching

All tails of the text are matched at once, so that the work is the product of the two lengths. A
list of answers has one for every tail, the whole text first and the empty tail last. -/

def Atom.accepts (dotAll : Bool) : Atom → Char → Bool
  | .char d, c => c == d
  | .any, c => dotAll || c != '\n'

def ended (toEnd : Bool) : List Char → List Bool
  | [] => [true]
  | _ :: cs => (!toEnd) :: ended toEnd cs

def oneThen (p : Char → Bool) : List Char → List Bool → List Bool
  | c :: cs, _ :: rest => (p c && rest.headD false) :: oneThen p cs rest
  | _, _ => [false]

def manyThen (p : Char → Bool) : List Char → List Bool → List Bool
  | c :: cs, b :: rest =>
    let later := manyThen p cs rest
    (b || p c && later.headD false) :: later
  | _, bs => bs

def matchTails (r : Regex) (cs : List Char) : List Item → List Bool
  | [] => ended r.toEnd cs
  | .one a :: items => oneThen (a.accepts r.dotAll) cs (matchTails r cs items)
  | .many a :: items => manyThen (a.accepts r.dotAll) cs (matchTails r cs items)

def isMatch (r : Regex) (cs : List Char) : Bool :=
  let answers := matchTails r cs r.items
  if r.fromStart then answers.headD false else answers.any id

end Regex

end SqlStore.Text
