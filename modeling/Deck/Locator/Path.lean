import Deck.Locator.Address
import Deck.Text.Quoted
import Deck.Text.Scan

/-!
# The path of a locator

A locator is made of a scheme, an authority, a path, a query and a fragment, of
which all but the path may be missing.  `path` gives the path, and refuses a locator
whose authority is malformed: brackets may only stand around a numeric address, and
no character may stand for one that would end the authority.

* `break_not_mem_message`: why a locator is refused is told on one line.
-/

namespace Deck.Locator

open Text

/-- Why a locator is refused. -/
inductive Fault where
  | badBrackets
  | badFutureAddress
  | bracketedIPv4
  | noAddress (host : List Char)
  | unsafeCharacters (authority : List Char)
  deriving DecidableEq, Repr

def Fault.message : Fault → String
  | .badBrackets => "Invalid IPv6 URL"
  | .badFutureAddress => "IPvFuture address is invalid"
  | .bracketedIPv4 => "An IPv4 address cannot be in brackets"
  | .noAddress host =>
    quoted (String.ofList host) ++ " does not appear to be an IPv4 or IPv6 address"
  | .unsafeCharacters authority =>
    "netloc '" ++ String.ofList authority ++
      "' contains invalid characters under NFKC normalization"

/-- The locator without control characters and spaces in front, and without tabs and line
breaks. -/
def clean (s : List Char) : List Char :=
  (s.dropWhile fun c => c.toNat ≤ 0x20).filter fun c => c != '\t' && c != '\r' && c != '\n'

def isSchemeChar (c : Char) : Bool := c.isAlphanum || c == '+' || c == '-' || c == '.'

/-- What follows the scheme, which starts with a letter and ends with the first colon. -/
def dropScheme (s : List Char) : List Char :=
  match s.takeWhile (· != ':'), s.dropWhile (· != ':') with
  | c :: r, _ :: t => if c.isAlpha && r.all isSchemeChar then t else s
  | _, _ => s

def isAuthorityChar (c : Char) : Bool := c != '/' && c != '?' && c != '#'

def isPathChar (c : Char) : Bool := c != '?' && c != '#'

/-! ## Authorities -/

/-- A host in brackets is a numeric address of version 6 or of one to come. -/
def checkHost (host : List Char) : Except Fault Unit :=
  if host.head? = some 'v' then
    if isFutureAddress host then .ok () else .error .badFutureAddress
  else if isIPv6 host then .ok ()
  else if isIPv4 host then .error .bracketedIPv4
  else .error (.noAddress host)

/-- What stands between the brackets of a host, which start it.  Only a port may follow. -/
def bracketedHost? (s : List Char) : Option (List Char) :=
  match s with
  | '[' :: r =>
    match (r.dropWhile (· != ']')).tail with
    | [] => some (r.takeWhile (· != ']'))
    | c :: _ => if c = ':' then some (r.takeWhile (· != ']')) else none
  | _ => none

/-- Brackets come in a pair, and around the host.  A pair that stands before the host leaves
the host to be a numeric address by itself. -/
def checkBrackets (authority : List Char) : Except Fault Unit :=
  if '[' ∉ authority ∧ ']' ∉ authority then .ok ()
  else if '[' ∉ authority ∨ ']' ∉ authority then .error .badBrackets
  else
    let host := afterLast '@' authority
    if '[' ∈ host then
      match bracketedHost? host with
      | none => .error .badBrackets
      | some inner => checkHost inner
    else checkHost (host.takeWhile (· != ':'))

/-- Characters whose compatibility form holds one of `/ ? # @ :`. -/
def isUnsafe (c : Char) : Bool :=
  [0x2047, 0x2048, 0x2049, 0x2100, 0x2101, 0x2105, 0x2106, 0x2A74, 0xFE13, 0xFE16, 0xFE55,
    0xFE56, 0xFE5F, 0xFE6B, 0xFF03, 0xFF0F, 0xFF1A, 0xFF1F, 0xFF20].contains c.toNat

def checkAuthority (authority : List Char) : Except Fault Unit :=
  match checkBrackets authority with
  | .error e => .error e
  | .ok () => if authority.any isUnsafe then .error (.unsafeCharacters authority) else .ok ()

/-! ## Paths -/

/-- The path of a locator without its scheme. -/
def pathAfterScheme (s : List Char) : Except Fault (List Char) :=
  match s with
  | '/' :: '/' :: r =>
    (checkAuthority (r.takeWhile isAuthorityChar)).map fun _ =>
      (r.dropWhile isAuthorityChar).takeWhile isPathChar
  | _ => .ok (s.takeWhile isPathChar)

/-- The path of a locator. -/
def path (s : List Char) : Except Fault (List Char) := pathAfterScheme (dropScheme (clean s))

/-! ## Refused locators -/

theorem checkHost_ne (host authority : List Char) :
    checkHost host ≠ .error (.unsafeCharacters authority) := by
  unfold checkHost
  repeat' split
  all_goals simp

theorem checkBrackets_ne (s authority : List Char) :
    checkBrackets s ≠ .error (.unsafeCharacters authority) := by
  unfold checkBrackets
  split
  · simp
  split
  · simp
  dsimp only
  split
  · split
    · simp
    · exact checkHost_ne _ _
  · exact checkHost_ne _ _

/-- Unsafe characters are told of the authority itself. -/
theorem eq_of_checkAuthority {s authority : List Char}
    (h : checkAuthority s = .error (.unsafeCharacters authority)) : authority = s := by
  unfold checkAuthority at h
  split at h
  · rename_i e hbrackets
    obtain rfl := Except.error.inj h
    exact absurd hbrackets (checkBrackets_ne s authority)
  · split at h
    · exact (Fault.unsafeCharacters.inj (Except.error.inj h)).symm
    · simp at h

theorem mem_of_mem_dropScheme {c : Char} {s : List Char} (h : c ∈ dropScheme s) : c ∈ s := by
  unfold dropScheme at h
  split at h
  · rename_i d t hdrop
    split at h
    · exact List.dropWhile_subset _ (hdrop ▸ List.mem_cons_of_mem _ h)
    · exact h
  · exact h

/-- An authority holds no line break: the locator was freed of them. -/
theorem break_not_mem_authority {s authority : List Char}
    (h : path s = .error (.unsafeCharacters authority)) : '\n' ∉ authority := by
  have hclean : '\n' ∉ dropScheme (clean s) := by
    intro hmem
    simpa [clean] using mem_of_mem_dropScheme hmem
  unfold path pathAfterScheme at h
  split at h
  · rename_i r hr
    have hcheck : checkAuthority (r.takeWhile isAuthorityChar) =
        .error (.unsafeCharacters authority) := by
      cases hc : checkAuthority (r.takeWhile isAuthorityChar) with
      | error e =>
        rw [hc] at h
        rw [Except.error.inj h]
      | ok u =>
        rw [hc] at h
        exact nomatch h
    obtain rfl := eq_of_checkAuthority hcheck
    intro hmem
    rw [hr] at hclean
    exact hclean (by simp [List.takeWhile_subset _ hmem])
  · simp at h

/-- Why a locator is refused is told on one line. -/
theorem break_not_mem_message {s : List Char} {e : Fault} (h : path s = .error e) :
    '\n' ∉ e.message.toList := by
  cases e with
  | badBrackets | badFutureAddress | bracketedIPv4 => decide +kernel
  | noAddress host =>
    rw [Fault.message, String.toList_append, List.mem_append]
    exact not_or.mpr ⟨break_not_mem_quoted _, by decide +kernel⟩
  | unsafeCharacters authority =>
    have hauthority := break_not_mem_authority h
    rw [← String.toList_ofList (l := authority)] at hauthority
    rw [Fault.message, String.toList_append, String.toList_append, List.mem_append,
      List.mem_append]
    exact not_or.mpr ⟨not_or.mpr ⟨by decide +kernel, hauthority⟩, by decide +kernel⟩

end Deck.Locator
