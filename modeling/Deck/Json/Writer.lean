import Deck.Json.Basic
import Deck.Number.Layout

/-!
# Writing JSON

A value is written on one line and in ASCII: other characters are given by their
codes, those past `U+FFFF` by two of them.
-/

namespace Deck.Json

/-- Four hexadecimal digits. -/
def hexCode (n : Nat) : List Char :=
  let digit (k : Nat) : Char := (Nat.toDigits 16 (k % 16)).headD '0'
  [digit (n / 4096), digit (n / 256), digit (n / 16), digit n]

/-- A character by its code, or by the two codes of a pair. -/
def codeChars (n : Nat) : List Char :=
  if n < 0x10000 then '\\' :: 'u' :: hexCode n
  else
    let m := n - 0x10000
    '\\' :: 'u' :: (hexCode (0xD800 + m / 0x400) ++ '\\' :: 'u' :: hexCode (0xDC00 + m % 0x400))

/-- A character within a string. -/
def escapeChar (c : Char) : List Char :=
  if c = '"' ∨ c = '\\' then ['\\', c]
  else if 0x20 ≤ c.toNat ∧ c.toNat < 0x7F then [c]
  else codeChars c.toNat

def writeString (s : String) : String :=
  String.ofList ('"' :: (s.toList.flatMap escapeChar ++ ['"']))

/-- A number that is no whole one, or is written as none. -/
def writeFloat : Number.Binary64 → String
  | .undefined => "NaN"
  | .infinite negative => if negative then "-Infinity" else "Infinity"
  | x => x.text ⟨-4, 15, 2⟩

mutual

/-- The text of a value. -/
def write : Json → String
  | .null => "null"
  | .bool b => if b then "true" else "false"
  | .int n => toString n
  | .float x => writeFloat x
  | .str s => writeString s
  | .arr items => "[" ++ ", ".intercalate (writeItems items) ++ "]"
  | .obj fields => "\x7b" ++ ", ".intercalate (writeFields fields) ++ "\x7d"

def writeItems : List Json → List String
  | [] => []
  | v :: vs => write v :: writeItems vs

def writeFields : List (String × Json) → List String
  | [] => []
  | (k, v) :: vs => (writeString k ++ ": " ++ write v) :: writeFields vs

end

end Deck.Json
