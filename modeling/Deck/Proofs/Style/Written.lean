import Deck.Proofs.Style.Pieces
import Deck.Style.Block

/-!
# The written forms of style blocks

Pairs of a key and a value are written between braces, with commas between them and a colon
behind each key.  Blanks may stand around the block, the keys and the values, blank pieces
between the commas, and a pair of quotes around a value.

`WrittenBlock` says that a text is such a written form.  It does not look at how a block is
read.

* `ofPiece?_written`: a pair is read from each of its written forms.
* `read_written`: **so is a list of pairs.**
* `exists_writtenBlock`: each list of pairs can be written.
-/

namespace Deck.Style

open Text

/-! ## Written forms -/

/-- The characters that a block is built with. -/
def signs : List Char := [',', ':', '\x7b', '\x7d', '(', ')']

def braces : List Char := ['\x7b', '\x7d']

/-- A pair that can be written. -/
structure Pair.Valid (p : Pair) : Prop where
  key_ne : p.key ≠ []
  key_trim : trim p.key = p.key
  key_free : ∀ c ∈ p.key, c ∉ signs
  value_ne : p.value ≠ []
  value_trim : trim p.value = p.value
  value_free : ∀ c ∈ p.value, c ∉ braces
  value_shielded : Shielded p.value

/-- A text of nothing but blanks. -/
def AllBlank (s : List Char) : Prop := ∀ c ∈ s, isBlank c = true

/-- A value as it stands, or in a pair of quotes.  One that stands in such a pair itself has to
be put into another one. -/
inductive WrittenValue (v : List Char) : List Char → Prop
  | bare : (∀ q t, isQuote q = true → v ≠ q :: (t ++ [q])) → WrittenValue v v
  | quoted {q : Char} : isQuote q = true → WrittenValue v (q :: (v ++ [q]))

/-- A pair with blanks around its key and its value. -/
inductive WrittenPair (p : Pair) : List Char → Prop
  | spaced {a b c d w : List Char} : AllBlank a → AllBlank b → AllBlank c → AllBlank d →
      WrittenValue p.value w → WrittenPair p (a ++ p.key ++ b ++ ':' :: (c ++ w ++ d))

/-- The pieces between commas: pairs in their order, and blank pieces anywhere. -/
inductive WrittenPieces : List Pair → List (List Char) → Prop
  | nil : WrittenPieces [] []
  | blank {ps : List Pair} {s : List Char} {ss : List (List Char)} : AllBlank s →
      WrittenPieces ps ss → WrittenPieces ps (s :: ss)
  | pair {p : Pair} {ps : List Pair} {s : List Char} {ss : List (List Char)} : WrittenPair p s →
      WrittenPieces ps ss → WrittenPieces (p :: ps) (s :: ss)

/-- The pieces between braces, with blanks around the block. -/
inductive WrittenBlock (ps : List Pair) : List Char → Prop
  | braced {a b : List Char} {ss : List (List Char)} : AllBlank a → AllBlank b →
      WrittenPieces ps ss → WrittenBlock ps (a ++ '\x7b' :: (join ss ++ ['\x7d']) ++ b)

/-! ## What blanks and pairs are made of -/

theorem mem_signs_of_mem_braces {c : Char} (h : c ∈ braces) :
    c ∈ signs ∧ c ≠ ',' ∧ c ≠ ':' ∧ isQuote c = false := by
  have hall : braces.all (fun x => x ∈ signs ∧ x ≠ ',' ∧ x ≠ ':' ∧ isQuote x = false) := by
    decide
  exact of_decide_eq_true (List.all_eq_true.mp hall c h)

/-- A blank is none of the characters that a block is built with. -/
theorem AllBlank.not_mem {s : List Char} (h : AllBlank s) {c : Char}
    (hc : c ∈ signs) : c ∉ s := by
  have hall : signs.all (!isBlank ·) := by decide
  have hblank : isBlank c = false := by simpa using List.all_eq_true.mp hall c hc
  intro hm
  exact absurd (h c hm) (by simp [hblank])

theorem AllBlank.uncut {s : List Char} (h : AllBlank s) : Uncut 0 s := by
  refine Uncut.of_forall fun c hc => ⟨?_, ?_, ?_⟩
  all_goals
    rintro rfl
    exact h.not_mem (by decide) hc

theorem Pair.Valid.key_not_mem {p : Pair} (hp : p.Valid) {c : Char}
    (hc : c ∈ signs) : c ∉ p.key := fun hm => hp.key_free c hm hc

theorem Pair.Valid.key_uncut {p : Pair} (hp : p.Valid) : Uncut 0 p.key := by
  refine Uncut.of_forall fun c hc => ⟨?_, ?_, ?_⟩
  all_goals
    rintro rfl
    exact hp.key_not_mem (by decide) hc

theorem isQuote_cases {q : Char} (h : isQuote q = true) : q = '\'' ∨ q = '"' := by
  simpa [isQuote] using h

theorem WrittenValue.uncut {v w : List Char} (h : WrittenValue v w) (hv : Shielded v) :
    Uncut 0 w := by
  cases h with
  | bare _ => exact uncut_of_shielded hv
  | @quoted q hq =>
    have hquote : Uncut 0 [q] := Uncut.of_forall fun c hc => by
      obtain rfl := List.mem_singleton.mp hc
      rcases isQuote_cases hq with rfl | rfl <;> decide
    exact (hquote.append (uncut_of_shielded hv)).append hquote

theorem WrittenValue.mem {v w : List Char} (h : WrittenValue v w) {c : Char} (hc : c ∈ w) :
    c ∈ v ∨ isQuote c = true := by
  cases h with
  | bare _ => exact Or.inl hc
  | @quoted q hq =>
    rcases List.mem_cons.mp hc with rfl | hc
    · exact Or.inr hq
    rcases List.mem_append.mp hc with hc | hc
    · exact Or.inl hc
    · exact Or.inr (List.mem_singleton.mp hc ▸ hq)

/-! ## Reading a pair -/

/-- Trimmed text starts and ends with no blank. -/
theorem trim_written {v w : List Char} (h : WrittenValue v w) (hv : trim v = v) : trim w = w := by
  cases h with
  | bare _ => exact hv
  | @quoted q hq =>
    have hblank : isBlank q = false := by rcases isQuote_cases hq with rfl | rfl <;> decide
    refine trim_eq_self (fun c hc => ?_) (fun c hc => ?_)
    · obtain rfl := Option.some.inj hc
      exact hblank
    · rw [← List.cons_append, List.getLast?_concat] at hc
      obtain rfl := Option.some.inj hc
      exact hblank

theorem unquote_written {v w : List Char} (h : WrittenValue v w) : unquote w = v := by
  cases h with
  | bare h => exact unquote_of_not_wrapped h
  | quoted hq => exact unquote_wrap hq v

/-- **A pair is read from each of its written forms.** -/
theorem ofPiece?_written {p : Pair} (hp : p.Valid) {s : List Char} (h : WrittenPair p s) :
    Pair.ofPiece? s = some p := by
  obtain @⟨a, b, c, d, w, ha, hb, hc, hd, hw⟩ := h
  have hcolon : ':' ∉ a ++ p.key ++ b := by
    simp only [List.mem_append, not_or]
    exact ⟨⟨ha.not_mem (by decide), hp.key_not_mem (by decide)⟩, hb.not_mem (by decide)⟩
  have hkey : trim (a ++ p.key ++ b) = p.key := by rw [trim_around ha hb, hp.key_trim]
  have hvalue : trim (unquote (trim (c ++ w ++ d))) = p.value := by
    rw [trim_around hc hd, trim_written hw hp.value_trim, unquote_written hw, hp.value_trim]
  rw [Pair.ofPiece?, dropWhile_ne_append hcolon]
  simp only [takeWhile_ne_append hcolon, hkey, hvalue]
  rw [if_neg]
  rintro (hk | hv)
  · exact hp.key_ne hk
  · exact hp.value_ne hv

/-! ## Reading a block -/

/-- A written pair is not blank, since its colon is not. -/
theorem WrittenPair.trim_ne_nil {p : Pair} {s : List Char} (h : WrittenPair p s) :
    trim s ≠ [] := by
  obtain ⟨-, -, -, -, -⟩ := h
  rw [Ne, trim_eq_nil_iff]
  intro hblank
  exact absurd (hblank ':' (by simp)) (by decide)

theorem WrittenPair.uncut {p : Pair} (hp : p.Valid) {s : List Char} (h : WrittenPair p s) :
    Uncut 0 s := by
  obtain ⟨ha, hb, hc, hd, hw⟩ := h
  have hvalue := (hc.uncut.append (hw.uncut hp.value_shielded)).append hd.uncut
  exact ((ha.uncut.append hp.key_uncut).append hb.uncut).append
    (hvalue.cons (by decide) (Or.inl (by decide)))

/-- A written pair holds no brace. -/
theorem WrittenPair.not_mem {p : Pair} (hp : p.Valid) {s : List Char} (h : WrittenPair p s)
    {c : Char} (hc : c ∈ braces) : c ∉ s := by
  obtain @⟨a, b, c', d, w, ha, hb, hc', hd, hw⟩ := h
  obtain ⟨hsign, -, hcolon, hquote⟩ := mem_signs_of_mem_braces hc
  have hvalue : c ∉ w := by
    intro hm
    rcases hw.mem hm with hv | hq
    · exact hp.value_free c hv hc
    · exact absurd hq (by simp [hquote])
  simp only [List.mem_append, List.mem_cons, not_or]
  exact ⟨⟨⟨ha.not_mem hsign, hp.key_not_mem hsign⟩, hb.not_mem hsign⟩, hcolon,
    ⟨hc'.not_mem hsign, hvalue⟩, hd.not_mem hsign⟩

/-- What holds of blank texts and of written pairs holds of all pieces. -/
theorem WrittenPieces.forall {P : List Char → Prop} (hblank : ∀ s, AllBlank s → P s)
    {ps : List Pair} {ss : List (List Char)} (h : WrittenPieces ps ss)
    (hpair : ∀ p ∈ ps, ∀ s, WrittenPair p s → P s) : ∀ s ∈ ss, P s := by
  induction h with
  | nil => exact fun s hs => absurd hs List.not_mem_nil
  | blank hs _ ih => exact List.forall_mem_cons.mpr ⟨hblank _ hs, ih hpair⟩
  | pair hs _ ih =>
    obtain ⟨hp, hps⟩ := List.forall_mem_cons.mp hpair
    exact List.forall_mem_cons.mpr ⟨hp _ hs, ih hps⟩

theorem pairs_written {ps : List Pair} (hps : ∀ p ∈ ps, p.Valid) {ss : List (List Char)}
    (h : WrittenPieces ps ss) : pairs ss = .ok ps := by
  induction h with
  | nil => rfl
  | blank hs _ ih => rw [pairs, if_pos (trim_eq_nil_iff.mpr hs), ih hps]
  | pair hs _ ih =>
    obtain ⟨hp, hps⟩ := List.forall_mem_cons.mp hps
    rw [pairs, if_neg hs.trim_ne_nil, ofPiece?_written hp hs, ih hps]
    rfl

theorem mem_join {c : Char} {ss : List (List Char)} (h : c ∈ join ss) :
    c = ',' ∨ ∃ s ∈ ss, c ∈ s := by
  induction ss with
  | nil => exact absurd h List.not_mem_nil
  | cons s ss ih =>
    by_cases hss : ss = []
    · subst hss
      exact Or.inr ⟨s, List.mem_cons_self, h⟩
    · rw [join_cons hss] at h
      rcases List.mem_append.mp h with h | h
      · exact Or.inr ⟨s, List.mem_cons_self, h⟩
      rcases List.mem_cons.mp h with h | h
      · exact Or.inl h
      obtain hcomma | ⟨t, ht, hc⟩ := ih h
      · exact Or.inl hcomma
      · exact Or.inr ⟨t, List.mem_cons_of_mem s ht, hc⟩

/-- Between the braces of a written block there is no other one. -/
theorem WrittenPieces.not_mem_join {ps : List Pair} (hps : ∀ p ∈ ps, p.Valid)
    {ss : List (List Char)} (h : WrittenPieces ps ss) {c : Char} (hc : c ∈ braces) :
    c ∉ join ss := by
  obtain ⟨hsign, hne, -⟩ := mem_signs_of_mem_braces hc
  have hall := h.forall (fun s hs => hs.not_mem hsign) fun p hp s hs => hs.not_mem (hps p hp) hc
  intro hm
  obtain hcomma | ⟨s, hs, hcs⟩ := mem_join hm
  · exact hne hcomma
  · exact hall s hs hcs

/-- What a block encloses, whatever stands around it. -/
theorem trim_braced {a b : List Char} (ha : AllBlank a) (hb : AllBlank b) (s : List Char) :
    trim (a ++ '\x7b' :: (s ++ ['\x7d']) ++ b) = '\x7b' :: (s ++ ['\x7d']) := by
  rw [trim_around ha hb]
  refine trim_eq_self (fun c hc => ?_) (fun c hc => ?_)
  · obtain rfl := Option.some.inj hc
    decide
  · rw [← List.cons_append, List.getLast?_concat] at hc
    obtain rfl := Option.some.inj hc
    decide

/-- **Reading undoes writing**, whatever the layout. -/
theorem read_written {ps : List Pair} (hne : ps ≠ []) (hps : ∀ p ∈ ps, p.Valid)
    {raw : List Char} (h : WrittenBlock ps raw) : read raw = .ok ps := by
  obtain @⟨a, b, ss, ha, hb, hpieces⟩ := h
  have hss : ss ≠ [] := by
    rintro rfl
    cases hpieces
    exact hne rfl
  have huncut := hpieces.forall (fun s hs => hs.uncut) fun p hp s hs => hs.uncut (hps p hp)
  have hinterior : interior? ('\x7b' :: (join ss ++ ['\x7d'])) = some (join ss) := by
    simp [interior?]
  rw [read, trim_braced ha hb, if_neg (List.cons_ne_nil _ _), hinterior]
  have hbraces : ¬('\x7b' ∈ join ss ∨ '\x7d' ∈ join ss) := by
    rintro (hm | hm)
    · exact hpieces.not_mem_join hps (by decide) hm
    · exact hpieces.not_mem_join hps (by decide) hm
  simp only [if_neg hbraces, pieces_join hss huncut, pairs_written hps hpieces]

/-! ## Writing a block -/

/-- **Each list of pairs can be written**: with all values in quotes, for one. -/
theorem exists_writtenBlock (ps : List Pair) : ∃ raw, WrittenBlock ps raw := by
  have hnil : AllBlank [] := fun c hc => absurd hc List.not_mem_nil
  have hpieces : ∃ ss, WrittenPieces ps ss := by
    induction ps with
    | nil => exact ⟨[], .nil⟩
    | cons p ps ih =>
      obtain ⟨ss, hss⟩ := ih
      have hquoted : WrittenValue p.value ('"' :: (p.value ++ ['"'])) := .quoted (by decide)
      exact ⟨_ :: ss, .pair (.spaced hnil hnil hnil hnil hquoted) hss⟩
  obtain ⟨ss, hss⟩ := hpieces
  exact ⟨_, .braced hnil hnil hss⟩

end Deck.Style
