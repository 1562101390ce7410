import Deck.Text.Split

/-!
# Paths

A path is a list of names with slashes between them.  Empty names and single points
mean nothing and are left out.  Two points lead to the parent: `Path.normal` keeps
them, since the way to a parent may lead through a name that does not exist, and
`Path.lexical` cancels them against the name before.
-/

namespace Deck.Command.Path

open Text

/-- The names in a path, two points among them. -/
def parts (s : List Char) : List (List Char) :=
  (splitOn '/' s).filter fun p => p != [] && p != ['.']

/-- What an absolute path starts with: exactly two slashes are kept. -/
def root (s : List Char) : List Char :=
  match s with
  | '/' :: '/' :: '/' :: _ => ['/']
  | '/' :: '/' :: _ => ['/', '/']
  | '/' :: _ => ['/']
  | _ => []

/-- A path from its root and its names. -/
def ofParts (root : List Char) (ps : List (List Char)) : List Char :=
  match root ++ joinWith '/' ps with
  | [] => ['.']
  | s => s

/-- The path without the names that mean nothing. -/
def normal (s : String) : String := String.ofList (ofParts (root s.toList) (parts s.toList))

/-- One more name on the way from the root; the names passed are in reverse. -/
def follow (absolute : Bool) (passed : List (List Char)) (p : List Char) : List (List Char) :=
  if p = ['.', '.'] then
    match passed with
    | [] => if absolute then [] else [p]
    | q :: qs => if q = ['.', '.'] then p :: q :: qs else qs
  else p :: passed

/-- The path with the two points cancelled. -/
def lexical (s : String) : String :=
  let r := root s.toList
  String.ofList (ofParts r (((parts s.toList).foldl (follow (r != [])) []).reverse))

/-- A path as seen from the directory `home`. -/
def within (home s : String) : String :=
  if root s.toList = [] then lexical (home ++ "/" ++ s) else lexical s

end Deck.Command.Path
