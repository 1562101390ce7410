import Deck.Command.Options
import Deck.Text.Numeral

/-!
# Reading the arguments

Every argument is first classed by its look: two dashes alone end the options, an
argument that starts with a dash is an option, and any other one is a value.  A long
option may be cut short as long as it stays unique, a value may be joined to its
option, and switches with short names may share a dash.

The program hands everything from its command on to the command.  Arguments that
nobody asked for are collected, and refused in the end.

* `Words.rest_length`: what an option leaves is no longer than what it was given.
* `parse` gives the arguments of the command, or why there is nothing to do.
-/

namespace Deck.Command

/-- Why the arguments are refused. -/
inductive Refusal where
  | ambiguous (argument : String) (candidates : List String)
  | strayValue (flag : Flag) (value : String)
  | noValue (flag : Flag)
  | badCommand (name : String)
  | missing (name : String)
  | unrecognized (arguments : List String)
  deriving DecidableEq, Repr

def Refusal.message : Refusal → String
  | .ambiguous argument candidates =>
    "ambiguous option: " ++ argument ++ " could match " ++ ", ".intercalate candidates
  | .strayValue flag value =>
    "argument " ++ flag.label ++ ": ignored explicit argument " ++ Text.quoted value
  | .noValue flag => "argument " ++ flag.label ++ ": expected one argument"
  | .badCommand name =>
    "argument command: invalid choice: " ++ Text.quoted name ++ " (choose from 'compile')"
  | .missing name => "the following arguments are required: " ++ name
  | .unrecognized arguments => "unrecognized arguments: " ++ " ".intercalate arguments

/-- Why there is nothing to do: help was asked for, or the arguments are refused. -/
inductive Halt where
  | help (level : Level)
  | refused (level : Level) (why : Refusal)
  deriving DecidableEq, Repr

/-! ## Classes of arguments -/

/-- An option that an argument names, whether by a long name, and the value joined to it. -/
structure Match where
  name : String
  flag : Flag
  joined : Option (List Char)
  deriving DecidableEq, Repr

/-- The class of an argument. -/
inductive Look where
  | value
  | separator
  | option (found : Match)
  | unknownOption
  deriving DecidableEq, Repr

/-- Whether the text is a negative number, with or without a fraction. -/
def isNegativeNumber (s : List Char) : Bool :=
  match s with
  | '-' :: r =>
    let body := if r.getLast? = some '\n' then r.dropLast else r
    match Text.splitOn '.' body with
    | [whole] => !whole.isEmpty && whole.all Text.isDecimal
    | [whole, fraction] =>
      whole.all Text.isDecimal && !fraction.isEmpty && fraction.all Text.isDecimal
    | _ => false
  | _ => false

/-- The options that an argument may stand for. -/
def candidates (t : Table) (s : List Char) : List Match :=
  match s with
  | '-' :: '-' :: _ =>
    let name := s.takeWhile (· != '=')
    let joined := match s.dropWhile (· != '=') with
      | [] => none
      | _ :: v => some v
    t.filterMap fun (long, flag) =>
      if name.isPrefixOf long.toList then some ⟨long, flag, joined⟩ else none
  | _ =>
    t.filterMap fun (name, flag) =>
      if name.toList = s.take 2 then some ⟨name, flag, some (s.drop 2)⟩
      else if s.isPrefixOf name.toList then some ⟨name, flag, none⟩
      else none

/-- The option that stands before an equals sign. -/
def beforeEquals? (t : Table) (s : List Char) : Option Match :=
  match s.dropWhile (· != '=') with
  | [] => none
  | _ :: v =>
    let name := String.ofList (s.takeWhile (· != '='))
    (t.find? name).map fun flag => ⟨name, flag, some v⟩

/-- The class of an argument before the separator. -/
def look (t : Table) (argument : String) : Except Refusal Look :=
  let s := argument.toList
  if s.head? ≠ some '-' then .ok .value
  else
    match t.find? argument with
    | some flag => .ok (.option ⟨argument, flag, none⟩)
    | none =>
      if s = ['-'] then .ok .value
      else
        match beforeEquals? t s with
        | some found => .ok (.option found)
        | none =>
          match candidates t s with
          | [found] => .ok (.option found)
          | [] =>
            .ok (if isNegativeNumber s ∨ ' ' ∈ s then .value else .unknownOption)
          | many => .error (.ambiguous argument (many.map (·.name)))

/-- An argument with its class. -/
structure Word where
  text : String
  look : Look
  deriving DecidableEq, Repr

/-- The classes of all arguments.  After the separator everything is a value. -/
def words (t : Table) : List String → Except Refusal (List Word)
  | [] => .ok []
  | a :: as =>
    if a = "--" then .ok (⟨a, .separator⟩ :: as.map (⟨·, .value⟩))
    else do
      let l ← look t a
      let ws ← words t as
      pure (⟨a, l⟩ :: ws)

/-! ## Options -/

/-- The options that an argument sets, in order, and the arguments that follow. -/
structure Words.Set where
  changes : List (Flag × Value)
  rest : List Word

/-- Follows an option into its joined value: behind a short switch more short names may stand.
The answer is the switches that were passed and the last option with what is joined to it. -/
def cluster (t : Table) (short : Bool) (flag : Flag) :
    List Char → Except Refusal (List Flag × Flag × Option (List Char))
  | [] => .error (.strayValue flag "")
  | c :: r =>
    if flag.takesValue then .ok ([], flag, some (c :: r))
    else if !short then .error (.strayValue flag (String.ofList (c :: r)))
    else
      match t.find? (String.ofList ['-', c]) with
      | none => .error (.strayValue flag (String.ofList (c :: r)))
      | some next =>
        if r = [] then .ok ([flag], next, none)
        else (cluster t true next r).map fun (passed, last) => (flag :: passed, last)

/-- The options in an argument. -/
def Match.cluster (t : Table) (m : Match) :
    Except Refusal (List Flag × Flag × Option (List Char)) :=
  match m.joined with
  | none => .ok ([], m.flag, none)
  | some v =>
    if m.flag.takesValue then .ok ([], m.flag, some v)
    else Command.cluster t (m.name.toList[1]? ≠ some '-') m.flag v

/-- What an option sets, given the arguments after it. -/
def Match.read (t : Table) (m : Match) (rest : List Word) : Except Refusal Words.Set := do
  let (passed, last, joined) ← m.cluster t
  let before := passed.map fun f => (f, Value.text "")
  match joined with
  | some v => pure ⟨before ++ [(last, .ofChars v)], rest⟩
  | none =>
    if last.takesValue then
      match rest with
      | ⟨v, .value⟩ :: rest => pure ⟨before ++ [(last, .ofChars v.toList)], rest⟩
      | _ => .error (.noValue last)
    else pure ⟨before ++ [(last, .text "")], rest⟩

/-- What an option leaves is no longer than what it was given. -/
theorem Words.rest_length {t : Table} {m : Match} {rest : List Word} {r : Words.Set}
    (h : m.read t rest = .ok r) : r.rest.length ≤ rest.length := by
  unfold Match.read at h
  cases hu : m.cluster t with
  | error e => rw [hu] at h; simp [bind, Except.bind] at h
  | ok u =>
    obtain ⟨passed, last, joined⟩ := u
    rw [hu] at h
    simp only [bind, Except.bind, pure, Except.pure] at h
    split at h
    · simp only [Except.ok.injEq] at h
      subst h; exact Nat.le_refl _
    · split at h
      · split at h
        · simp only [Except.ok.injEq] at h
          subst h; simp
        · simp at h
      · simp only [Except.ok.injEq] at h
        subst h; exact Nat.le_refl _

/-! ## The command -/

/-- What has been read of a command's arguments. -/
structure Progress where
  settings : Settings
  input : Option String
  extras : List String

/-- The value at the head of the arguments, with the separators around it. -/
def takeValue? (ws : List Word) : Option (String × List Word) :=
  match ws.dropWhile (·.look == .separator) with
  | ⟨v, .value⟩ :: rest => some (v, rest.dropWhile (·.look == .separator))
  | _ => none

def Word.isOption (w : Word) : Bool :=
  match w.look with
  | .option _ | .unknownOption => true
  | .value | .separator => false

/-- Changes some settings; help ends everything. -/
def applyAll (level : Level) (s : Settings) : List (Flag × Value) → Except Halt Settings
  | [] => .ok s
  | (flag, value) :: cs =>
    if flag = .help then .error (.help level) else applyAll level (s.apply flag value) cs

theorem takeValue?_length {ws : List Word} {r : String × List Word} (h : takeValue? ws = some r) :
    r.2.length < ws.length := by
  unfold takeValue? at h
  split at h
  · rename_i v rest hd
    simp only [Option.some.injEq] at h
    subst h
    have h₁ := (List.dropWhile_sublist (l := ws) (·.look == .separator)).length_le
    have h₂ := (List.dropWhile_sublist (l := rest) (·.look == .separator)).length_le
    rw [hd] at h₁
    simp only [List.length_cons] at h₁ ⊢
    omega
  · simp at h

/-- Reads the arguments of the command: one value, and options around it. -/
def readWords (p : Progress) (ws : List Word) : Except Halt Progress :=
  match ws with
  | [] => .ok p
  | w :: rest =>
    match w.look with
    | .unknownOption => readWords { p with extras := p.extras ++ [w.text] } rest
    | .option found =>
      match _hr : found.read (table .compile) rest with
      | .error why => .error (.refused .compile why)
      | .ok set =>
        match applyAll .compile p.settings set.changes with
        | .error halt => .error halt
        | .ok settings => readWords { p with settings := settings } set.rest
    | .value | .separator =>
      match _hv : (if p.input = none then takeValue? (w :: rest) else none) with
      | some (v, rest') => readWords { p with input := some v } rest'
      | none =>
        let others := rest.takeWhile (!·.isOption)
        readWords { p with extras := p.extras ++ w.text :: others.map (·.text) }
          (rest.dropWhile (!·.isOption))
termination_by ws.length
decreasing_by
  · simp
  · exact Nat.lt_succ_of_le (Words.rest_length _hr)
  · split at _hv
    · exact takeValue?_length _hv
    · simp at _hv
  · exact Nat.lt_succ_of_le (List.dropWhile_sublist _).length_le

/-- Reads the arguments of the command; `before` are the ones that the program passed over. -/
def compileArguments (before : List String) (args : List String) : Except Halt Arguments :=
  match words (table .compile) args with
  | .error why => .error (.refused .compile why)
  | .ok ws =>
    match readWords ⟨.default, none, []⟩ ws with
    | .error halt => .error halt
    | .ok p =>
      match p.input with
      | none => .error (.refused .compile (.missing "input"))
      | some input =>
        if before ++ p.extras = [] then .ok ⟨input, p.settings⟩
        else .error (.refused .program (.unrecognized (before ++ p.extras)))

/-! ## The program -/

/-- Reads the words up to the command; `before` are unknown options. -/
def programArguments (before : List String) (ws : List Word) : Except Halt Arguments :=
  match ws with
  | [] => .error (.refused .program (.missing "command"))
  | w :: rest =>
    match w.look with
    | .unknownOption => programArguments (before ++ [w.text]) rest
    | .option found =>
      match found.read (table .program) rest with
      | .error why => .error (.refused .program why)
      | .ok _ => .error (.help .program)
    | .separator =>
      if rest = [] then .error (.refused .program (.missing "command"))
      else .error (.refused .program (.badCommand w.text))
    | .value =>
      if w.text = "compile" then compileArguments before (rest.map (·.text))
      else .error (.refused .program (.badCommand w.text))
termination_by structural ws

/-- The arguments of the command, or why there is nothing to do. -/
def parse (args : List String) : Except Halt Arguments :=
  match words (table .program) args with
  | .error why => .error (.refused .program why)
  | .ok ws => programArguments [] ws

end Deck.Command
