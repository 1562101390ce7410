import Deck.Text.Scan

/-!
# Runs of marks

Emphasis is told by how many marks stand in a row.  A text is cut at its runs of a mark: what
stands before the first one, and then each run with the text behind it.  A run goes on as far as
it can in both directions, so that there is some text between two runs.

* `Runs.ofText_eq_iff`: **a text can be cut at its runs in one way.**
* `Runs.ofText_append_run`: a run that is put between two texts is a run of the whole.
-/

namespace Deck.Emphasis

open Text

/-- Some marks in a row, and the text behind them up to the next run. -/
structure Run where
  length : Nat
  gap : List Char
  deriving DecidableEq, Repr

def Run.text (mark : Char) (r : Run) : List Char := List.replicate r.length mark ++ r.gap

/-- The text that some runs make, one after the other. -/
def runsText (mark : Char) (rs : List Run) : List Char := rs.flatMap (Run.text mark)

@[simp] theorem runsText_nil (mark : Char) : runsText mark [] = [] := rfl

@[simp] theorem runsText_cons (mark : Char) (r : Run) (rs : List Run) :
    runsText mark (r :: rs) = List.replicate r.length mark ++ (r.gap ++ runsText mark rs) := by
  simp [runsText, Run.text]

theorem runsText_append (mark : Char) (rs qs : List Run) :
    runsText mark (rs ++ qs) = runsText mark rs ++ runsText mark qs :=
  List.flatMap_append

/-- The runs are as long as they can be: no mark stands in a gap, and only the gap behind the
last run may be empty. -/
inductive MaximalRuns (mark : Char) : List Run → Prop
  | nil : MaximalRuns mark []
  | cons {r : Run} {rs : List Run} : 0 < r.length → mark ∉ r.gap → (r.gap = [] → rs = []) →
      MaximalRuns mark rs → MaximalRuns mark (r :: rs)

section

variable {mark : Char} {r : Run} {rs qs : List Run} {g s t : List Char} {m n : Nat}

/-! ## Where a run starts and ends -/

theorem replicate_of_pos (mark : Char) (hn : 0 < n) :
    List.replicate n mark = mark :: List.replicate (n - 1) mark := by
  cases n with
  | zero => exact absurd hn (Nat.lt_irrefl 0)
  | succ n => rfl

/-- A run starts with a mark. -/
theorem MaximalRuns.exists_cons (h : MaximalRuns mark (r :: rs)) :
    ∃ t, runsText mark (r :: rs) = mark :: t := by
  cases h with
  | cons hpos _ _ _ =>
    rw [runsText_cons, replicate_of_pos mark hpos]
    exact ⟨_, rfl⟩

/-- A text that starts with no mark does so with some other text in front that holds none. -/
theorem head_append_ne (hg : mark ∉ g) (ht : g = [] → t.head? ≠ some mark) :
    (g ++ t).head? ≠ some mark := by
  cases g with
  | nil => exact ht rfl
  | cons c g =>
    intro h
    obtain rfl : c = mark := Option.some.inj h
    exact hg List.mem_cons_self

/-- No mark stands right behind a run. -/
theorem MaximalRuns.head_gap_ne (h : MaximalRuns mark (r :: rs)) :
    (r.gap ++ runsText mark rs).head? ≠ some mark := by
  cases h with
  | cons _ hgap hlast _ =>
    refine head_append_ne hgap fun hnil => ?_
    rw [hlast hnil]
    simp

theorem takeWhile_replicate_append (h : s.head? ≠ some mark) :
    (List.replicate n mark ++ s).takeWhile (· == mark) = List.replicate n mark := by
  refine takeWhile_append_of_all (fun c hc => ?_) fun c hc => ?_
  · exact beq_iff_eq.mpr (List.eq_of_mem_replicate hc)
  · rw [beq_eq_false_iff_ne]
    rintro rfl
    exact h hc

/-- A text starts with one run at most. -/
theorem replicate_append_inj (hs : s.head? ≠ some mark) (ht : t.head? ≠ some mark)
    (h : List.replicate m mark ++ s = List.replicate n mark ++ t) : m = n ∧ s = t := by
  have hrun : List.replicate m mark = List.replicate n mark := by
    rw [← takeWhile_replicate_append (n := m) hs, h, takeWhile_replicate_append ht]
  have hlength : m = n := by simpa using congrArg List.length hrun
  subst hlength
  exact ⟨rfl, List.append_cancel_left h⟩

/-- A text goes on without marks up to one place at most. -/
theorem append_mark_inj {a b : List Char} (ha : mark ∉ a) (hb : mark ∉ b)
    (h : a ++ mark :: s = b ++ mark :: t) : a = b ∧ s = t := by
  have hsame : a = b := by
    rw [← takeWhile_ne_append ha s, h, takeWhile_ne_append hb t]
  subst hsame
  exact ⟨rfl, (List.cons.inj (List.append_cancel_left h)).2⟩

theorem MaximalRuns.append (hrs : MaximalRuns mark rs)
    (hlast : ∀ r, rs.getLast? = some r → r.gap ≠ []) (hqs : MaximalRuns mark qs) :
    MaximalRuns mark (rs ++ qs) := by
  induction hrs with
  | nil => exact hqs
  | @cons r rs hpos hgap hempty _ ih =>
    refine .cons hpos hgap (fun hnil => ?_) (ih fun q hq => hlast q ?_)
    · -- An empty gap would be the last one, at which nothing may be added.
      obtain rfl := hempty hnil
      exact absurd hnil (hlast r rfl)
    · cases rs with
      | nil => exact absurd hq (by simp)
      | cons q' rs => rwa [List.getLast?_cons_cons]

/-- A text that ends with its last run ends with a mark. -/
theorem MaximalRuns.gap_ne_nil (h : MaximalRuns mark rs)
    (hend : (runsText mark rs).getLast? ≠ some mark) :
    ∀ r, rs.getLast? = some r → r.gap ≠ [] := by
  intro r hr hnil
  obtain ⟨qs, rfl⟩ := List.getLast?_eq_some_iff.mp hr
  have hpos : 0 < r.length := by
    clear hend hr
    induction qs with
    | nil => cases h with | cons hpos _ _ _ => exact hpos
    | cons q qs ih => cases h with | cons _ _ _ h => exact ih h
  refine hend ?_
  rw [runsText_append, runsText_cons, runsText_nil, hnil, List.append_nil, List.append_nil,
    List.getLast?_append, List.getLast?_replicate, if_neg (Nat.ne_of_gt hpos)]
  rfl

end

/-! ## Cutting a text at its runs -/

/-- A text cut at its runs of a mark: what stands before the first one, and the runs. -/
structure Runs where
  lead : List Char
  runs : List Run
  deriving DecidableEq, Repr

namespace Runs

def text (mark : Char) (rs : Runs) : List Char := rs.lead ++ runsText mark rs.runs

/-- The lengths of the runs, from left to right. -/
def lengths (rs : Runs) : List Nat := rs.runs.map Run.length

/-- Puts a mark in front of a text.  A run that the text starts with gets longer. -/
def consMark : Runs → Runs
  | ⟨[], r :: rs⟩ => ⟨[], ⟨r.length + 1, r.gap⟩ :: rs⟩
  | ⟨lead, rs⟩ => ⟨[], ⟨1, lead⟩ :: rs⟩

/-- A text cut at its runs of a mark. -/
def ofText (mark : Char) : List Char → Runs
  | [] => ⟨[], []⟩
  | c :: s =>
    if c = mark then (ofText mark s).consMark else ⟨c :: (ofText mark s).lead, (ofText mark s).runs⟩

/-- All runs are as long as they can be. -/
structure Maximal (mark : Char) (rs : Runs) : Prop where
  lead : mark ∉ rs.lead
  runs : MaximalRuns mark rs.runs

variable {mark : Char} {rs : Runs}

theorem text_consMark (mark : Char) (rs : Runs) : rs.consMark.text mark = mark :: rs.text mark := by
  unfold consMark
  split
  · simp [text, List.replicate_succ]
  · simp [text]

theorem Maximal.consMark (h : rs.Maximal mark) : rs.consMark.Maximal mark := by
  unfold Runs.consMark
  split
  · rename_i r rs
    cases h.runs with
    | cons hpos hgap hlast hruns =>
      exact ⟨List.not_mem_nil, .cons (Nat.succ_pos r.length) hgap hlast hruns⟩
  · rename_i lead rs hlead
    refine ⟨List.not_mem_nil, .cons Nat.one_pos h.lead (fun hnil => ?_) h.runs⟩
    cases rs with
    | nil => rfl
    | cons r rs => exact absurd rfl (hlead r rs hnil)

theorem text_ofText (mark : Char) (s : List Char) : (ofText mark s).text mark = s := by
  induction s with
  | nil => rfl
  | cons c s ih =>
    rw [ofText]
    split
    · rename_i hc
      rw [text_consMark, ih, hc]
    · exact congrArg (c :: ·) ih

theorem maximal_ofText (mark : Char) (s : List Char) : (ofText mark s).Maximal mark := by
  induction s with
  | nil => exact ⟨List.not_mem_nil, .nil⟩
  | cons c s ih =>
    rw [ofText]
    split
    · exact ih.consMark
    · rename_i hc
      refine ⟨?_, ih.runs⟩
      rw [List.mem_cons, not_or]
      exact ⟨Ne.symm hc, ih.lead⟩

theorem ofText_append_of_not_mem {u : List Char} (hu : mark ∉ u) (s : List Char) :
    ofText mark (u ++ s) = ⟨u ++ (ofText mark s).lead, (ofText mark s).runs⟩ := by
  induction u with
  | nil => rfl
  | cons c u ih =>
    obtain ⟨hc, hu⟩ := List.ne_and_not_mem_of_not_mem_cons hu
    rw [List.cons_append, ofText, if_neg hc.symm, ih hu]
    rfl

/-- A run that no mark follows is read as a run. -/
theorem ofText_replicate_append {s g : List Char} {rs : List Run} (h : ofText mark s = ⟨g, rs⟩)
    (hg : g = [] → rs = []) {n : Nat} (hn : 0 < n) :
    ofText mark (List.replicate n mark ++ s) = ⟨[], ⟨n, g⟩ :: rs⟩ := by
  induction n with
  | zero => exact absurd hn (Nat.lt_irrefl 0)
  | succ n ih =>
    rw [List.replicate_succ, List.cons_append, ofText, if_pos rfl]
    cases n with
    | zero =>
      rw [List.replicate_zero, List.nil_append, h]
      cases g with
      | nil => rw [hg rfl]; rfl
      | cons c g => rfl
    | succ n =>
      rw [ih (Nat.succ_pos n)]
      rfl

theorem ofText_runsText {rs : List Run} (h : MaximalRuns mark rs) :
    ofText mark (runsText mark rs) = ⟨[], rs⟩ := by
  induction h with
  | nil => rfl
  | @cons r rs hpos hgap hlast _ ih =>
    rw [runsText_cons]
    refine ofText_replicate_append ?_ hlast hpos
    rw [ofText_append_of_not_mem hgap, ih, List.append_nil]

/-- **A text can be cut at its runs in one way.** -/
theorem ofText_eq_iff {s : List Char} : ofText mark s = rs ↔ rs.text mark = s ∧ rs.Maximal mark := by
  constructor
  · rintro rfl
    exact ⟨text_ofText mark s, maximal_ofText mark s⟩
  · rintro ⟨rfl, h⟩
    rw [text, ofText_append_of_not_mem h.lead, ofText_runsText h.runs, List.append_nil]

/-- A run that is put between two texts is a run of the whole. -/
theorem ofText_append_run {n : Nat} (hn : 0 < n) {u v : List Char}
    (hu : u.getLast? ≠ some mark) (hv : v.head? ≠ some mark) :
    ofText mark (u ++ List.replicate n mark ++ v) = ⟨(ofText mark u).lead,
      (ofText mark u).runs ++ ⟨n, (ofText mark v).lead⟩ :: (ofText mark v).runs⟩ := by
  have htu := text_ofText mark u
  have htv := text_ofText mark v
  obtain ⟨hleadu, hrunsu⟩ := maximal_ofText mark u
  obtain ⟨hleadv, hrunsv⟩ := maximal_ofText mark v
  generalize ofText mark u = U at htu hleadu hrunsu ⊢
  generalize ofText mark v = V at htv hleadv hrunsv ⊢
  rw [text] at htu htv
  refine ofText_eq_iff.mpr ⟨?_, hleadu, hrunsu.append ?_ (.cons hn hleadv ?_ hrunsv)⟩
  · rw [text, runsText_append, runsText_cons, htv, ← List.append_assoc, htu, List.append_assoc]
  · intro r hr
    refine hrunsu.gap_ne_nil (fun hend => hu ?_) r hr
    rw [← htu, List.getLast?_append, hend]
    rfl
  · intro hnil
    cases hruns : V.runs with
    | nil => rfl
    | cons r rs =>
      -- The second text would start with a run.
      rw [hruns] at htv hrunsv
      obtain ⟨t, ht⟩ := hrunsv.exists_cons
      have hlead : V.lead = [] := hnil
      rw [← htv, hlead, ht] at hv
      exact absurd rfl hv

end Runs

end Deck.Emphasis
