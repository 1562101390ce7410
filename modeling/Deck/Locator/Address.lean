import Deck.Text.Split

/-!
# Numeric addresses

A host that is written in brackets has to be a numeric address.  An address of
version 4 is four decimal numbers up to 255 with points between them.  One of
version 6 is eight groups of four hexadecimal digits at most with colons between
them, where two colons may stand once for groups of noughts, and the last two groups
may be written as an address of version 4.
-/

namespace Deck.Locator

open Text

def isHexDigit (c : Char) : Bool :=
  c.isDigit || ('a' ≤ c && c ≤ 'f') || ('A' ≤ c && c ≤ 'F')

/-- One of the four numbers: no noughts in front, and 255 at most. -/
def isOctet (s : List Char) : Bool :=
  s != [] && s.all Char.isDigit && s.length ≤ 3 && (s == ['0'] || s.head? != some '0') &&
    s.foldl (fun n d => n * 10 + (d.toNat - '0'.toNat)) 0 ≤ 255

def isIPv4 (s : List Char) : Bool :=
  let parts := splitOn '.' s
  parts.length == 4 && parts.all isOctet

def isGroup (s : List Char) : Bool :=
  s != [] && s.all isHexDigit && s.length ≤ 4

/-- The groups of an address, an address of version 4 at the end counting as two.  Two colons
leave an empty group. -/
def groups? (s : List Char) : Option (List (List Char)) :=
  let parts := splitOn ':' s
  let last := parts.getLast?.getD []
  if parts.length < 3 then none
  else if '.' ∈ last then
    if isIPv4 last then some (parts.dropLast ++ [['0'], ['0']]) else none
  else some parts

/-- Whether groups without one left out make an address. -/
def isFull (groups : List (List Char)) : Bool := groups.length == 8 && groups.all isGroup

/-- Whether groups make an address of which the ones at the place `k` are left out.  The first
or the last group may be empty only next to that place. -/
def isShort (groups : List (List Char)) (k : Nat) : Bool :=
  let before := groups.take k
  let after := groups.drop (k + 1)
  let high := if before == [[]] then [] else before
  let low := if after == [[]] then [] else after
  high.all isGroup && low.all isGroup && high.length + low.length ≤ 7

/-- The places of the empty groups other than the first and the last one. -/
def gaps (groups : List (List Char)) : List Nat :=
  (List.range groups.length).filter fun i =>
    0 < i && i + 1 < groups.length && groups[i]? == some []

def isIPv6Groups (groups : List (List Char)) : Bool :=
  match gaps groups with
  | [] => isFull groups
  | [k] => isShort groups k
  | _ => false

/-- Whether the text is an address of version 6.  A zone may follow a percent sign. -/
def isIPv6 (s : List Char) : Bool :=
  let zone := s.dropWhile (· != '%')
  (zone == [] || zone.tail != [] && !zone.tail.contains '%') &&
    match groups? (s.takeWhile (· != '%')) with
    | some groups => groups.length ≤ 9 && isIPv6Groups groups
    | none => false

/-- Whether the text is an address of a version to come: a letter, hexadecimal digits, a point
and something more. -/
def isFutureAddress (s : List Char) : Bool :=
  match s with
  | 'v' :: r =>
    r.takeWhile isHexDigit != [] &&
      match r.dropWhile isHexDigit with
      | '.' :: t => t != []
      | _ => false
  | _ => false

end Deck.Locator
