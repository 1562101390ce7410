/-!
# One kind of emphasis

A *pass* looks for one kind of emphasis in a text and puts tags in place of its
delimiters.  A delimiter is made of exactly `width` marks: more of them in a row
delimit nothing.  Two delimiters enclose a *span*, which is not empty and holds no
mark, no line break and, but for the pass that runs first, no angle bracket.  The
scan goes from left to right, and on from the end of the span that was found.

* `Pass.span?_length`: what follows a span is shorter than what it was found in.
* `Pass.apply_of_not_mem`: a text without marks is kept.
-/

namespace Deck.Emphasis

/-- One kind of emphasis: the mark, how many of them delimit a span, the name of the tag,
and whether a span stops at the tags of an earlier pass. -/
structure Pass where
  mark : Char
  width : Nat
  tag : String
  stopsAtTags : Bool
  deriving DecidableEq, Repr

/-- What was found at the start of a text: the characters between two delimiters, and what
follows the second one. -/
structure Span where
  content : List Char
  rest : List Char

namespace Pass

variable (p : Pass)

/-- The characters that no span of the pass holds. -/
def bars (c : Char) : Bool :=
  c == p.mark || c == '\r' || c == '\n' || p.stopsAtTags && (c == '<' || c == '>')

/-- What follows `n` marks at the start of a text. -/
def afterMarks? : (n : Nat) → List Char → Option (List Char)
  | 0, s => some s
  | _ + 1, [] => none
  | n + 1, c :: r => if c = p.mark then afterMarks? n r else none

/-- The span that starts at the head of a text, given that no mark stands before it. -/
def span? (s : List Char) : Option Span :=
  match p.afterMarks? p.width s with
  | none => none
  | some inner =>
    match p.afterMarks? p.width (inner.dropWhile (!p.bars ·)) with
    | none => none
    | some rest =>
      if inner.takeWhile (!p.bars ·) = [] ∨ rest.head? = some p.mark then none
      else some ⟨inner.takeWhile (!p.bars ·), rest⟩

theorem afterMarks?_length : ∀ {n : Nat} {s r : List Char}, p.afterMarks? n s = some r →
    r.length ≤ s.length := by
  intro n
  induction n with
  | zero =>
    intro s r h
    simp only [afterMarks?, Option.some.injEq] at h
    subst h; exact Nat.le_refl _
  | succ n ih =>
    intro s r h
    cases s with
    | nil => simp [afterMarks?] at h
    | cons c s =>
      rw [afterMarks?] at h
      split at h
      · exact Nat.le_succ_of_le (ih h)
      · simp at h

/-- What follows a span is shorter than what it was found in. -/
theorem span?_length {s : List Char} {f : Span} (h : p.span? s = some f) :
    f.rest.length < s.length := by
  unfold span? at h
  split at h
  · simp at h
  · rename_i inner hi
    split at h
    · simp at h
    · rename_i rest hr
      split at h
      · simp at h
      · rename_i hne
        simp only [Option.some.injEq] at h
        subst h
        have hi := p.afterMarks?_length hi
        have hr := p.afterMarks?_length hr
        have hw := congrArg List.length (List.takeWhile_append_dropWhile (p := (!p.bars ·))
          (l := inner))
        rw [List.length_append] at hw
        have hp : 0 < (inner.takeWhile (!p.bars ·)).length :=
          List.length_pos_iff.mpr fun he => hne (Or.inl he)
        dsimp only
        omega

/-- The tags that take the place of the delimiters. -/
def opening : List Char := '<' :: (p.tag.toList ++ ['>'])

def closing : List Char := '<' :: '/' :: (p.tag.toList ++ ['>'])

/-- The pass over a text; `afterMark` tells whether a mark stands before it. -/
def applyAfter (afterMark : Bool) (s : List Char) : List Char :=
  match s with
  | [] => []
  | c :: r =>
    if afterMark then c :: applyAfter (c == p.mark) r
    else
      match _hs : p.span? (c :: r) with
      | some f => p.opening ++ f.content ++ p.closing ++ applyAfter true f.rest
      | none => c :: applyAfter (c == p.mark) r
termination_by s.length
decreasing_by
  · simp
  · exact p.span?_length _hs
  · simp

/-- The pass over a whole text. -/
def apply (s : List Char) : List Char := p.applyAfter false s

/-! ## Text without marks -/

theorem span?_of_head_ne {c : Char} {r : List Char} (hw : 0 < p.width) (hc : c ≠ p.mark) :
    p.span? (c :: r) = none := by
  obtain ⟨n, hn⟩ := Nat.exists_eq_succ_of_ne_zero (Nat.pos_iff_ne_zero.mp hw)
  simp [span?, hn, afterMarks?, hc]

theorem applyAfter_of_not_mem (hw : 0 < p.width) : ∀ {s : List Char}, p.mark ∉ s →
    ∀ b, p.applyAfter b s = s := by
  intro s
  induction s with
  | nil => intro _ b; rw [applyAfter]
  | cons c r ih =>
    intro hm b
    obtain ⟨hc, hr⟩ := List.ne_and_not_mem_of_not_mem_cons hm
    have hs := p.span?_of_head_ne (r := r) hw hc.symm
    cases b with
    | true => rw [applyAfter, if_pos rfl, ih hr]
    | false =>
      rw [applyAfter, if_neg (by simp)]
      split
      · rename_i f hf; rw [hs] at hf; simp at hf
      · rw [ih hr]

/-- A text without marks is kept. -/
theorem apply_of_not_mem (hw : 0 < p.width) {s : List Char} (h : p.mark ∉ s) : p.apply s = s :=
  p.applyAfter_of_not_mem hw h false

end Pass

end Deck.Emphasis
