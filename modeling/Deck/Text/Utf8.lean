/-!
# Reading UTF-8

`decode` reads a text from bytes, and refuses at the first byte that cannot start
a character or go on with one.  A fault tells where the refused sequence lies:
it covers the bytes up to the one that is out of place.

* `continuation_length`: reading on never lengthens what is left.
-/

namespace Deck.Text.Utf8

/-- Why a sequence of bytes is no character. -/
inductive Reason where
  | invalidStart
  | invalidContinuation
  | unexpectedEnd
  deriving DecidableEq, Repr

/-- A refused sequence: its first byte, its place and length, and the reason. -/
structure Fault where
  byte : UInt8
  position : Nat
  length : Nat
  reason : Reason
  deriving DecidableEq, Repr

def Reason.text : Reason → String
  | .invalidStart => "invalid start byte"
  | .invalidContinuation => "invalid continuation byte"
  | .unexpectedEnd => "unexpected end of data"

/-- Two hexadecimal digits. -/
def byteText (b : UInt8) : String :=
  let digit (n : Nat) : Char := "0123456789abcdef".toList.getD n '0'
  String.ofList ['0', 'x', digit (b.toNat / 16), digit (b.toNat % 16)]

def Fault.message (f : Fault) : String :=
  let place :=
    if f.length ≤ 1 then "byte " ++ byteText f.byte ++ " in position " ++ toString f.position
    else "bytes in position " ++ toString f.position ++ "-"
      ++ toString (f.position + f.length - 1)
  "'utf-8' codec can't decode " ++ place ++ ": " ++ f.reason.text

/-- What the first byte of a longer character says: the bits it carries, the number of
bytes that follow, and the bounds of the next one. -/
structure Lead where
  bits : Nat
  following : Nat
  low : Nat
  high : Nat

/-- The bounds of the second byte rule out overlong forms, surrogates, and code points
past the last one. -/
def Lead.ofByte? (b : Nat) : Option Lead :=
  if b < 0xC2 then none
  else if b < 0xE0 then some ⟨b - 0xC0, 1, 0x80, 0xBF⟩
  else if b = 0xE0 then some ⟨0, 2, 0xA0, 0xBF⟩
  else if b = 0xED then some ⟨0xD, 2, 0x80, 0x9F⟩
  else if b < 0xF0 then some ⟨b - 0xE0, 2, 0x80, 0xBF⟩
  else if b = 0xF0 then some ⟨0, 3, 0x90, 0xBF⟩
  else if b < 0xF4 then some ⟨b - 0xF0, 3, 0x80, 0xBF⟩
  else if b = 0xF4 then some ⟨4, 3, 0x80, 0x8F⟩
  else none

/-- Reads `following` more bytes of a character after `taken` ones.  On failure it tells
how many bytes fitted. -/
def continuation (bits taken : Nat) : (following low high : Nat) → List UInt8 →
    Except (Reason × Nat) (Nat × List UInt8)
  | 0, _, _, bs => .ok (bits, bs)
  | _ + 1, _, _, [] => .error (.unexpectedEnd, taken)
  | n + 1, low, high, b :: bs =>
    if low ≤ b.toNat ∧ b.toNat ≤ high then
      continuation (bits * 64 + (b.toNat - 0x80)) (taken + 1) n 0x80 0xBF bs
    else .error (.invalidContinuation, taken)

theorem continuation_length {following : Nat} :
    ∀ {bits taken low high : Nat} {bs : List UInt8} {r : Nat × List UInt8},
      continuation bits taken following low high bs = .ok r → r.2.length ≤ bs.length := by
  induction following with
  | zero =>
    intro _ _ _ _ bs r h
    simp only [continuation, Except.ok.injEq] at h
    subst h; exact Nat.le_refl _
  | succ n ih =>
    intro bits taken low high bs r h
    cases bs with
    | nil => simp [continuation] at h
    | cons b bs =>
      rw [continuation] at h
      split at h
      · exact Nat.le_succ_of_le (ih h)
      · simp at h

/-- Reads on at `position`, after the characters `before`, which are in reverse. -/
def decodeFrom (position : Nat) (before : List Char) : List UInt8 → Except Fault (List Char)
  | [] => .ok before.reverse
  | b :: bs =>
    if b.toNat < 0x80 then decodeFrom (position + 1) (Char.ofNat b.toNat :: before) bs
    else match Lead.ofByte? b.toNat with
      | none => .error ⟨b, position, 1, .invalidStart⟩
      | some lead =>
        match h : continuation lead.bits 1 lead.following lead.low lead.high bs with
        | .error (reason, taken) => .error ⟨b, position, taken, reason⟩
        | .ok r =>
          decodeFrom (position + 1 + lead.following) (Char.ofNat r.1 :: before) r.2
termination_by bs => bs.length
decreasing_by
  · simp
  · exact Nat.lt_succ_of_le (continuation_length h)

/-- The text that the bytes stand for. -/
def decode (bytes : List UInt8) : Except Fault (List Char) := decodeFrom 0 [] bytes

/-- A carriage return, alone or before a line feed, becomes a line feed. -/
def unifyBreaks : List Char → List Char
  | [] => []
  | '\r' :: '\n' :: r => '\n' :: unifyBreaks r
  | c :: r => (if c = '\r' then '\n' else c) :: unifyBreaks r

end Deck.Text.Utf8
