import Mathlib.Data.Bool.AllAny
import Mathlib.Data.List.Induction
import Deck.Fence.Attributes

/-!
# Attributes as they are written

An attribute of a code fence has two spellings: quotes stand around it as a whole, or around its
value.  `WrittenTokens` says that a text is a row of such attributes with spaces, tabs and commas
between them.  It does not look at how attributes are found.

* `read?_valueQuoted`, `read?_whole`: an attribute is read from each of its spellings.
* `scan_append_of_idle`: a search passes over what can start no attribute.
* `scan_written`: **a search finds exactly the attributes that are written**.
* `LineNumbering.ofAttributes_eq`: **the last attribute counts** that can be used.
* `numbering_written`: so does the last token, whatever other ones are written.
-/

namespace Deck.Fence

open Text

/-! ## Spellings -/

/-- A letter, with word characters and hyphens behind it. -/
def IsKey (k : List Char) : Prop :=
  ∃ c r, k = c :: r ∧ c.isAlpha = true ∧ ∀ x ∈ r, isKeyChar x = true

instance : DecidablePred IsKey := fun k =>
  match k with
  | [] => isFalse (by simp [IsKey])
  | c :: r => decidable_of_iff (c.isAlpha = true ∧ r.all isKeyChar = true) (by simp [IsKey])

/-- Where the quotes of an attribute stand. -/
inductive Spelling where
  | whole
  | valueQuoted
  deriving DecidableEq, Repr

/-- An attribute as it is written. -/
def Spelling.text : Spelling → List Char → List Char → List Char
  | .whole, k, v => '\'' :: (k ++ ':' :: (v ++ ['\'']))
  | .valueQuoted, k, v => k ++ ':' :: '\'' :: (v ++ ['\''])

/-- A key with a value that has no blank and no quote in it, and no comma at its end. -/
structure Token where
  spelling : Spelling
  key : List Char
  value : List Char
  isKey : IsKey key
  value_ne : value ≠ []
  value_bare : ∀ c ∈ value, c ≠ '\'' ∧ isBlank c = false
  value_last : value.getLast? ≠ some ','

namespace Token

def text (t : Token) : List Char := t.spelling.text t.key t.value

/-- The attribute that a token is. -/
def toAttribute (t : Token) : Attribute := ⟨t.key, t.value, t.text⟩

end Token

/-- What stands between two tokens. -/
def IsSeparator (s : List Char) : Prop := s ≠ [] ∧ ∀ c ∈ s, c = ' ' ∨ c = '\t' ∨ c = ','

-- The check goes along the text; found by itself it would go through all characters.
instance : DecidablePred IsSeparator := fun s =>
  decidable_of_iff (s ≠ [] ∧ (s.all fun c => c = ' ' ∨ c = '\t' ∨ c = ',') = true)
    (and_congr_right' List.all_iff_forall_prop)

/-- The text is a row of tokens. -/
inductive WrittenTokens : List Token → List Char → Prop
  | nil : WrittenTokens [] []
  | single (t : Token) : WrittenTokens [t] t.text
  | cons {t u : Token} {ts : List Token} {sep s : List Char} : IsSeparator sep →
      WrittenTokens (u :: ts) s → WrittenTokens (t :: u :: ts) (t.text ++ (sep ++ s))

/-! ## Reading an attribute -/

/-- The text without the commas at its end. -/
def dropCommas (s : List Char) : List Char := (s.reverse.dropWhile (· == ',')).reverse

theorem dropCommas_eq_self {s : List Char} (h : s.getLast? ≠ some ',') : dropCommas s = s := by
  rw [dropCommas]
  have hstop : ∀ c, s.reverse.head? = some c → (c == ',') = false := by
    intro c hc
    rw [List.head?_reverse] at hc
    rw [beq_eq_false_iff_ne]
    rintro rfl
    exact h hc
  rw [← List.nil_append s.reverse, dropWhile_append_of_all (by simp) hstop, List.reverse_reverse]

theorem readKey?_append {k : List Char} (hk : IsKey k) (t : List Char) :
    Attribute.readKey? (k ++ ':' :: t) =
      some (k, trim (readValue (trimStart t)).1, dropQuote (readValue (trimStart t)).2) := by
  obtain ⟨c, r, rfl, hc, hr⟩ := hk
  have hstop : ∀ x, (':' :: t).head? = some x → isKeyChar x = false := by
    rintro x ⟨⟩
    decide
  have hgap : trimStart (':' :: t) = ':' :: t := by
    refine trimStart_eq_self ?_
    rintro x ⟨⟩
    decide
  rw [List.cons_append, Attribute.readKey?, if_pos hc, dropWhile_append_of_all hr hstop, hgap,
    takeWhile_append_of_all hr hstop]
  rfl

theorem dropQuote_of_head_ne {s : List Char} (h : s.head? ≠ some '\'') : dropQuote s = s := by
  unfold dropQuote
  split
  · exact absurd rfl h
  · rfl

/-- No key starts with a quote. -/
theorem IsKey.head_ne_quote {k : List Char} (hk : IsKey k) (t : List Char) :
    (k ++ t).head? ≠ some '\'' := by
  obtain ⟨c, r, rfl, hc, -⟩ := hk
  intro h
  obtain rfl : c = '\'' := Option.some.inj h
  exact absurd hc (by decide)

theorem readValue_quoted {v : List Char} (hv : '\'' ∉ v) (t : List Char) :
    readValue ('\'' :: (v ++ '\'' :: t)) = (v, t) := by
  rw [readValue, quotedValue?, dropWhile_ne_append hv, takeWhile_ne_append hv, Option.getD_some]

/-- A value that does not stand in quotes goes on up to the next blank or quote. -/
theorem readValue_bare {s : List Char} (h : ∀ v t, s ≠ '\'' :: (v ++ '\'' :: t)) :
    readValue s = (dropCommas (s.takeWhile isBareChar), s.dropWhile isBareChar) := by
  have hnone : quotedValue? s = none := by
    unfold quotedValue?
    split
    · rename_i r
      split
      · rfl
      · rename_i c t hc
        obtain ⟨t, hr⟩ := exists_of_dropWhile_ne (x := '\'') (s := r) (by rw [hc]; simp)
        exact absurd (congrArg _ hr) (h (r.takeWhile (· != '\'')) t)
    · rfl
  rw [readValue, hnone, Option.getD_none, bareValue, dropCommas]

theorem read?_of_readKey? {s t key value : List Char}
    (h : Attribute.readKey? (dropQuote (s ++ t)) = some (key, value, t)) :
    Attribute.read? (s ++ t) = some (⟨key, value, s⟩, t) := by
  have hlength : (s ++ t).length - t.length = s.length := by simp
  rw [Attribute.read?, h, Option.map_some]
  simp only [hlength, List.take_left']

section

variable {k v t : List Char} (hk : IsKey k)
include hk

/-- A value in quotes may hold anything but a quote. -/
theorem read?_valueQuoted (hv : '\'' ∉ v) (ht : t.head? ≠ some '\'') :
    Attribute.read? (Spelling.valueQuoted.text k v ++ t) =
      some (⟨k, trim v, Spelling.valueQuoted.text k v⟩, t) := by
  have htext : Spelling.valueQuoted.text k v ++ t = k ++ ':' :: '\'' :: (v ++ '\'' :: t) := by
    simp [Spelling.text]
  have hquote : trimStart ('\'' :: (v ++ '\'' :: t)) = '\'' :: (v ++ '\'' :: t) := by
    refine trimStart_eq_self ?_
    rintro x ⟨⟩
    decide
  refine read?_of_readKey? ?_
  rw [htext, dropQuote_of_head_ne (hk.head_ne_quote _), readKey?_append hk, hquote,
    readValue_quoted hv, dropQuote_of_head_ne ht]

/-- Without quotes of its own a value has to be free of blanks. -/
theorem read?_whole (hne : v ≠ []) (hv : ∀ c ∈ v, c ≠ '\'' ∧ isBlank c = false)
    (hlast : v.getLast? ≠ some ',') :
    Attribute.read? (Spelling.whole.text k v ++ t) = some (⟨k, v, Spelling.whole.text k v⟩, t) := by
  have htext : Spelling.whole.text k v ++ t = '\'' :: (k ++ ':' :: (v ++ '\'' :: t)) := by
    simp [Spelling.text]
  have hstart : ∀ c, (v ++ '\'' :: t).head? = some c → c ≠ '\'' ∧ isBlank c = false := by
    obtain ⟨x, r, rfl⟩ := List.exists_cons_of_ne_nil hne
    rintro c ⟨⟩
    exact hv x List.mem_cons_self
  have hbare : ∀ c ∈ v, isBareChar c = true := by
    intro c hc
    simpa [isBareChar] using hv c hc
  have hstop : ∀ c, ('\'' :: t).head? = some c → isBareChar c = false := by
    rintro c ⟨⟩
    decide
  have hnot : ∀ x y, v ++ '\'' :: t ≠ '\'' :: (x ++ '\'' :: y) := by
    intro x y h
    exact (hstart '\'' (by rw [h]; rfl)).1 rfl
  have hself : trim v = v := trim_of_forall fun c hc => (hv c hc).2
  refine read?_of_readKey? ?_
  rw [htext, dropQuote, readKey?_append hk, trimStart_eq_self fun c hc => (hstart c hc).2,
    readValue_bare hnot, takeWhile_append_of_all hbare hstop, dropWhile_append_of_all hbare hstop,
    dropCommas_eq_self hlast, hself, dropQuote]

end

/-- **A token is read as the attribute that it is**, if no quote follows it. -/
theorem Token.read? (a : Token) {t : List Char} (ht : t.head? ≠ some '\'') :
    Attribute.read? (a.text ++ t) = some (a.toAttribute, t) := by
  obtain ⟨spelling, k, v, hk, hne, hv, hlast⟩ := a
  cases spelling with
  | whole => exact read?_whole hk hne hv hlast
  | valueQuoted =>
    have hself : trim v = v := trim_of_forall fun c hc => (hv c hc).2
    have hquote : '\'' ∉ v := fun h => (hv _ h).1 rfl
    have hread := read?_valueQuoted hk hquote ht
    rwa [hself] at hread

/-! ## Searching -/

theorem scan_nil : scan [] = [] := by rw [scan]

theorem scan_of_read? {s t : List Char} {a : Attribute} (h : Attribute.read? s = some (a, t)) :
    scan s = a :: scan t := by
  cases s with
  | nil => cases h
  | cons c r =>
    rw [scan]
    split
    · rename_i a' t' h'
      rw [h, Option.some.injEq, Prod.mk.injEq] at h'
      rw [h'.1, h'.2]
    · rename_i h'
      exact absurd (h.symm.trans h') (by simp)

theorem scan_of_none {c : Char} {r : List Char} (h : Attribute.read? (c :: r) = none) :
    scan (c :: r) = scan r := by
  rw [scan]
  split
  · rename_i a' t' h'
    exact absurd (h.symm.trans h') (by simp)
  · rfl

/-- A search passes over what is no letter and no quote. -/
theorem scan_append_of_idle {s : List Char} (hs : ∀ c ∈ s, c.isAlpha = false ∧ c ≠ '\'')
    (t : List Char) : scan (s ++ t) = scan t := by
  induction s with
  | nil => rfl
  | cons c s ih =>
    obtain ⟨⟨halpha, hquote⟩, hs⟩ := List.forall_mem_cons.mp hs
    have hnone : Attribute.read? (c :: (s ++ t)) = none := by
      rw [Attribute.read?, dropQuote_of_head_ne (by simpa using hquote), Attribute.readKey?,
        if_neg (by simp [halpha])]
      rfl
    rw [List.cons_append, scan_of_none hnone, ih hs]

theorem IsSeparator.scan {sep : List Char} (h : IsSeparator sep) (t : List Char) :
    scan (sep ++ t) = Fence.scan t := by
  refine scan_append_of_idle (fun c hc => ?_) t
  rcases h.2 c hc with rfl | rfl | rfl <;> decide

/-- **A search finds exactly the attributes that are written.** -/
theorem scan_written {ts : List Token} {s : List Char} (h : WrittenTokens ts s) :
    scan s = ts.map Token.toAttribute := by
  induction h with
  | nil => exact scan_nil
  | single a =>
    have hread := a.read? (t := []) (by simp)
    rw [List.append_nil] at hread
    rw [scan_of_read? hread, scan_nil]
    rfl
  | @cons a b ts sep s hsep _ ih =>
    have hhead : (sep ++ s).head? ≠ some '\'' := by
      obtain ⟨c, r, rfl⟩ := List.exists_cons_of_ne_nil hsep.1
      intro h
      obtain rfl : c = '\'' := Option.some.inj h
      exact absurd (hsep.2 '\'' List.mem_cons_self) (by decide)
    rw [scan_of_read? (a.read? hhead), hsep.scan, ih]
    rfl

/-! ## What attributes say -/

/-- The attribute names lines to highlight. -/
def Attribute.namesLines (a : Attribute) : Bool := a.key = "lines".toList ∧ a.value ≠ []

/-- The attribute gives the first line a number. -/
def Attribute.namesStart (a : Attribute) : Bool := a.key = "start".toList ∧ isNumeral a.value

/-- The value of the last attribute that has some property. -/
def lastValue (p : Attribute → Bool) (as : List Attribute) : Option (List Char) :=
  (as.filter p).getLast?.map Attribute.value

theorem exists_of_lastValue {p : Attribute → Bool} {as : List Attribute} {v : List Char}
    (h : lastValue p as = some v) : ∃ a ∈ as, p a = true ∧ a.value = v := by
  obtain ⟨a, ha, rfl⟩ := Option.map_eq_some_iff.mp h
  obtain ⟨hmem, hp⟩ := List.mem_filter.mp (List.mem_of_getLast? ha)
  exact ⟨a, hmem, hp, rfl⟩

theorem lastValue_concat (p : Attribute → Bool) (as : List Attribute) (a : Attribute) :
    lastValue p (as ++ [a]) = if p a then some a.value else lastValue p as := by
  rw [lastValue, List.filter_append]
  cases h : p a with
  | false => simp [h, lastValue]
  | true => simp [h]

namespace LineNumbering

theorem ofAttributes_concat (as : List Attribute) (a : Attribute) :
    ofAttributes (as ++ [a]) = (ofAttributes as).add a.meaning := by
  rw [ofAttributes, List.foldl_append]
  rfl

theorem add_meaning (n : LineNumbering) (a : Attribute) : n.add a.meaning =
    ⟨if a.namesLines then some a.value else n.lines,
      if a.namesStart then some a.value else n.start⟩ := by
  have hne : "lines".toList ≠ "start".toList := by decide
  obtain ⟨k, v, source⟩ := a
  simp only [Attribute.meaning, Attribute.namesLines, Attribute.namesStart, decide_eq_true_eq]
  split
  · rename_i h
    rw [if_neg]
    · rfl
    · rintro ⟨hstart, -⟩
      exact hne (h.1.symm.trans hstart)
  · split
    · rename_i hstart
      split
      · rename_i hnumeral
        rw [if_pos ⟨hstart, hnumeral⟩]
        rfl
      · rename_i hnumeral
        rw [if_neg fun h => hnumeral h.2]
        rfl
    · rename_i hstart
      rw [if_neg fun h => hstart h.1]
      rfl

/-- **The last attribute counts** that can be used. -/
theorem ofAttributes_eq (as : List Attribute) : ofAttributes as =
    ⟨lastValue Attribute.namesLines as, lastValue Attribute.namesStart as⟩ := by
  induction as using List.reverseRecOn with
  | nil => rfl
  | append_singleton as a ih =>
    rw [ofAttributes_concat, add_meaning, ih, lastValue_concat, lastValue_concat]

theorem ofAttributes_singleton (a : Attribute) : ofAttributes [a] =
    ⟨if a.namesLines then some a.value else none, if a.namesStart then some a.value else none⟩ :=
  add_meaning empty a

end LineNumbering

/-! ## What tokens say -/

/-- The value of the last token with the key `lines`. -/
def lastRange (ts : List Token) : Option (List Char) :=
  (ts.filter fun t => t.key = "lines".toList).getLast?.map Token.value

/-- The value of the last token with the key `start` that is a numeral. -/
def lastStart (ts : List Token) : Option (List Char) :=
  (ts.filter fun t => t.key = "start".toList ∧ isNumeral t.value).getLast?.map Token.value

/-- The token says something about line numbers. -/
def Token.counts (t : Token) : Bool :=
  t.key = "lines".toList ∨ t.key = "start".toList ∧ isNumeral t.value

theorem lastRange_filter_counts (ts : List Token) :
    lastRange (ts.filter Token.counts) = lastRange ts := by
  rw [lastRange, List.filter_filter, lastRange]
  congr 3
  funext t
  simp only [Token.counts, ← Bool.decide_and]
  exact decide_eq_decide.mpr ⟨And.left, fun h => ⟨h, Or.inl h⟩⟩

theorem lastStart_filter_counts (ts : List Token) :
    lastStart (ts.filter Token.counts) = lastStart ts := by
  rw [lastStart, List.filter_filter, lastStart]
  congr 3
  funext t
  simp only [Token.counts, ← Bool.decide_and]
  exact decide_eq_decide.mpr ⟨And.left, fun h => ⟨h, Or.inr h⟩⟩

theorem lastValue_map_toAttribute (p : Attribute → Bool) (ts : List Token) :
    lastValue p (ts.map Token.toAttribute) =
      (ts.filter fun t => p t.toAttribute).getLast?.map Token.value := by
  rw [lastValue, List.filter_map, List.getLast?_map, Option.map_map]
  rfl

/-- **The last token of each kind counts.** -/
theorem numbering_written {ts : List Token} {s : List Char} (h : WrittenTokens ts s) :
    LineNumbering.ofAttributes (scan s) = ⟨lastRange ts, lastStart ts⟩ := by
  have hrange : ∀ t : Token, t.toAttribute.namesLines = decide (t.key = "lines".toList) := by
    intro t
    simp [Attribute.namesLines, Token.toAttribute, t.value_ne]
  rw [scan_written h, LineNumbering.ofAttributes_eq, lastValue_map_toAttribute,
    lastValue_map_toAttribute]
  simp only [hrange]
  rfl

end Deck.Fence
