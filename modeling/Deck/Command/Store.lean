import Deck.Command.Host
import Deck.Command.Path

/-!
# Stores

A store holds files and directories under one root.  A path is followed name by name,
from the root or from the directory one works in: every name but the last one has to
be a directory that exists, also where two points follow it.

* `Store.get?_put_self`, `Store.get?_put_of_ne`: a write changes one place.
-/

namespace Deck.Command

/-- The names on the way from the root. -/
abbrev Place := List (List Char)

/-- What stands at a place. -/
inductive Entry where
  | file (content : ByteArray)
  | directory

instance : DecidableEq Entry
  | .file a, .file b =>
    decidable_of_iff (a.data = b.data) (by rw [Entry.file.injEq, ByteArray.ext_iff])
  | .directory, .directory => .isTrue rfl
  | .file _, .directory => .isFalse Entry.noConfusion
  | .directory, .file _ => .isFalse Entry.noConfusion

/-- Files and directories by their places. -/
structure Store where
  entries : List (Place × Entry)

namespace Store

/-- The entry at a place; the root is a directory. -/
def get? (s : Store) (p : Place) : Option Entry :=
  if p = [] then some .directory else s.entries.lookup p

/-- The entries with one of them set; an entry that is there keeps its place in the list. -/
def putEntry (p : Place) (e : Entry) : List (Place × Entry) → List (Place × Entry)
  | [] => [(p, e)]
  | (k, v) :: r => if k = p then (k, e) :: r else (k, v) :: putEntry p e r

def put (s : Store) (p : Place) (e : Entry) : Store := ⟨putEntry p e s.entries⟩

/-- The place one name further on.  Two points lead to the parent, and the root is its own. -/
def step (p : Place) (name : List Char) : Place :=
  if name = ['.', '.'] then p.dropLast else p ++ [name]

/-- Follows names from a place. -/
def walk (s : Store) (p : Place) : List (List Char) → Except OpenFault Place
  | [] => .ok p
  | name :: names =>
    match s.get? p with
    | none => .error .noEntry
    | some (.file _) => .error .notDirectory
    | some .directory => s.walk (step p name) names

/-- Follows a path from the root, or from the place `home`. -/
def find (s : Store) (home : Place) (path : String) : Except OpenFault Place :=
  s.walk (if Path.root path.toList = [] then home else []) (Path.parts path.toList)

def isPresent (s : Store) (home : Place) (path : String) : Bool :=
  match s.find home path with
  | .ok p => (s.get? p).isSome
  | .error _ => false

def read (s : Store) (home : Place) (path : String) : Except OpenFault ByteArray :=
  match s.find home path with
  | .error e => .error e
  | .ok p =>
    match s.get? p with
    | none => .error .noEntry
    | some .directory => .error .isDirectory
    | some (.file content) => .ok content

/-- The place of a file that may be written, and what it holds so far. -/
def target (s : Store) (home : Place) (path : String) : Except OpenFault (Place × ByteArray) :=
  match s.find home path with
  | .error e => .error e
  | .ok p =>
    match s.get? p with
    | none => .ok (p, .empty)
    | some .directory => .error .isDirectory
    | some (.file content) => .ok (p, content)

def write (s : Store) (home : Place) (path : String) (content : ByteArray) :
    Except OpenFault Store :=
  (s.target home path).map fun (p, _) => s.put p (.file content)

def append (s : Store) (home : Place) (path : String) (content : ByteArray) :
    Except OpenFault Store :=
  (s.target home path).map fun (p, before) => s.put p (.file (before ++ content))

/-! ## Writing changes one place -/

theorem lookup_putEntry_self (p : Place) (e : Entry) :
    ∀ es : List (Place × Entry), (putEntry p e es).lookup p = some e
  | [] => by simp [putEntry]
  | (k, v) :: r => by
    by_cases h : k = p
    · simp [putEntry, h]
    · have h' : (p == k) = false := by simpa using Ne.symm h
      simp [putEntry, h, List.lookup_cons, h', lookup_putEntry_self p e r]

theorem lookup_putEntry_of_ne {p q : Place} (h : q ≠ p) (e : Entry) :
    ∀ es : List (Place × Entry), (putEntry p e es).lookup q = es.lookup q
  | [] => by
    have h' : (q == p) = false := by simpa using h
    simp [putEntry, List.lookup_cons, h']
  | (k, v) :: r => by
    by_cases hk : k = p
    · have h' : (q == p) = false := by simpa using h
      subst hk
      simp [putEntry, List.lookup_cons, h']
    · simp [putEntry, hk, List.lookup_cons, lookup_putEntry_of_ne h e r]

theorem get?_put_self (s : Store) {p : Place} (h : p ≠ []) (e : Entry) :
    (s.put p e).get? p = some e := by
  simp [get?, put, h, lookup_putEntry_self]

theorem get?_put_of_ne (s : Store) {p q : Place} (h : q ≠ p) (e : Entry) :
    (s.put p e).get? q = s.get? q := by
  simp [get?, put, lookup_putEntry_of_ne h]

end Store

/-! ## Sessions -/

/-- A store, the place one works in and how it is called, and what was said on both channels. -/
structure Session where
  store : Store
  place : Place
  home : String
  said : String
  complaints : String

/-- The session after a write, if there was one. -/
def Session.update (s : Session) : Except OpenFault Store → Except OpenFault Unit × Session
  | .error e => (.error e, s)
  | .ok store => (.ok (), { s with store := store })

/-- A session is a host whose clock stands still. -/
instance : Host (StateM Session) where
  isPresent path := fun s => (s.store.isPresent s.place path, s)
  read path := fun s => (s.store.read s.place path, s)
  write path content := fun s => s.update (s.store.write s.place path content)
  append path content := fun s => s.update (s.store.append s.place path content)
  home := fun s => (s.home, s)
  say text := fun s => ((), { s with said := s.said ++ text })
  complain text := fun s => ((), { s with complaints := s.complaints ++ text })
  timestamp := fun s => ("<time>", s)
  clock := fun s => (0, s)

end Deck.Command
