import Deck.Proofs.Fence.Tokens

/-!
# The two spellings of an attribute

Quotes around a value keep it together, whatever it holds.  Quotes around the whole attribute do
not: the value goes on up to the first blank, commas at its end are dropped, and the search goes
on behind it.  What the spellings have in common is told by `IsBare`.

* `sublist_of_mem_scan`: what is found is a part of the text.
* `scan_valueQuoted`: in quotes of its own a value is read as it is, without the blanks around it.
* `scan_whole_of_isBare`: **a bare value is read from either spelling**.
* `isBare_of_mem_scan_whole`: **no other value is read from the first one**.
* `numbering_spellings_iff`: **when the spellings say the same** about line numbers.
-/

namespace Deck.Fence

open Text

/-- A text without blanks, and without a comma at its end. -/
def IsBare (s : List Char) : Prop := (∀ c ∈ s, isBlank c = false) ∧ s.getLast? ≠ some ','

instance : DecidablePred IsBare := fun s =>
  decidable_of_iff ((s.all fun c => isBlank c = false) = true ∧ s.getLast? ≠ some ',')
    (and_congr_left' List.all_iff_forall_prop)

/-- No digit is a blank. -/
theorem isBlank_of_isDigit {c : Char} (h : isDigit c = true) : isBlank c = false := by
  have hapart : (digits.pairs.all fun r => blanks.pairs.all fun t => r.2 < t.1 || t.2 < r.1) := by
    decide +kernel
  rw [Bool.eq_false_iff]
  intro hblank
  obtain ⟨r, hr, hr₁, hr₂⟩ := Ranges.contains_iff.mp h
  obtain ⟨t, ht, ht₁, ht₂⟩ := Ranges.contains_iff.mp hblank
  have hrt := List.all_eq_true.mp (List.all_eq_true.mp hapart r hr) t ht
  simp only [Bool.or_eq_true, decide_eq_true_eq] at hrt
  omega

theorem isBare_of_isNumeral {s : List Char} (h : isNumeral s = true) : IsBare s := by
  simp only [isNumeral, Bool.and_eq_true] at h
  have hdigits := List.all_eq_true.mp h.2
  refine ⟨fun c hc => isBlank_of_isDigit (hdigits c hc), fun hcomma => ?_⟩
  exact absurd (hdigits ',' (List.mem_of_mem_getLast? hcomma)) (by decide +kernel)

theorem dropCommas_sublist (s : List Char) : (dropCommas s).Sublist s := by
  rw [← List.reverse_sublist, dropCommas, List.reverse_reverse]
  exact List.dropWhile_sublist _

theorem isBare_dropCommas {s : List Char} (h : ∀ c ∈ s, isBlank c = false) :
    IsBare (dropCommas s) := by
  constructor
  · exact fun c hc => h c ((dropCommas_sublist s).mem hc)
  · intro hlast
    rw [dropCommas, List.getLast?_reverse] at hlast
    exact absurd (head_dropWhile_eq_false hlast) (by decide)

theorem isBare_of_mem_lastValue {p : Attribute → Bool} {as : List Attribute}
    (h : ∀ a ∈ as, IsBare a.value) {v : List Char} (hv : lastValue p as = some v) : IsBare v := by
  obtain ⟨a, ha, -, rfl⟩ := exists_of_lastValue hv
  exact h a ha

/-! ## Parts of a text -/

theorem dropQuote_suffix (s : List Char) : dropQuote s <:+ s := by
  unfold dropQuote
  split
  · exact List.suffix_cons _ _
  · exact List.suffix_refl _

theorem trimStart_suffix (s : List Char) : trimStart s <:+ s := List.dropWhile_suffix _

theorem readValue_parts (s : List Char) :
    (readValue s).1.Sublist s ∧ (readValue s).2 <:+ s := by
  by_cases h : ∃ v t, s = '\'' :: (v ++ '\'' :: t)
  · obtain ⟨v, t, rfl⟩ := h
    -- The first quote closes the value, and it need not be the one that is given.
    obtain ⟨v, t, hquote, hv⟩ := List.eq_append_cons_of_mem (a := '\'')
      (List.mem_append_right v (List.mem_cons_self (l := t)))
    rw [hquote, readValue_quoted hv]
    exact ⟨(List.sublist_append_left _ _).cons _, ⟨'\'' :: (v ++ ['\'']), by simp⟩⟩
  · rw [readValue_bare fun v t hs => h ⟨v, t, hs⟩]
    exact ⟨(dropCommas_sublist _).trans (List.takeWhile_sublist _), List.dropWhile_suffix _⟩

/-- Behind its key an attribute has a value that is trimmed. -/
theorem exists_readValue_of_readKey? {s k v t : List Char}
    (h : Attribute.readKey? s = some (k, v, t)) :
    ∃ u, u <:+ s ∧ v = trim (readValue u).1 ∧ t = dropQuote (readValue u).2 := by
  unfold Attribute.readKey? at h
  split at h
  · cases h
  · rename_i c r
    split at h
    · split at h
      · rename_i u hu
        simp only [Option.some.injEq, Prod.mk.injEq] at h
        obtain ⟨-, rfl, rfl⟩ := h
        have hcolon : ':' :: u <:+ r :=
          hu ▸ (trimStart_suffix _).trans (List.dropWhile_suffix _)
        exact ⟨trimStart u, (trimStart_suffix u).trans (((List.suffix_cons _ _).trans
          hcolon).trans (List.suffix_cons _ _)), rfl, rfl⟩
      · cases h
    · cases h

theorem exists_readValue_of_read? {s t : List Char} {a : Attribute}
    (h : Attribute.read? s = some (a, t)) :
    ∃ u, u <:+ s ∧ a.value = trim (readValue u).1 ∧ t = dropQuote (readValue u).2 := by
  obtain ⟨⟨k, v, r⟩, hkey, hat⟩ := Option.map_eq_some_iff.mp h
  obtain ⟨rfl, rfl⟩ := Prod.mk.inj hat
  obtain ⟨u, hu, hvalue, hrest⟩ := exists_readValue_of_readKey? hkey
  exact ⟨u, hu.trans (dropQuote_suffix s), hvalue, hrest⟩

/-- One step of a search: the value is a part of the text, and the search goes on in the text. -/
theorem parts_of_read? {s t : List Char} {a : Attribute} (h : Attribute.read? s = some (a, t)) :
    a.value.Sublist s ∧ t <:+ s := by
  obtain ⟨u, hu, hvalue, rfl⟩ := exists_readValue_of_read? h
  obtain ⟨hpart, hrest⟩ := readValue_parts u
  rw [hvalue]
  exact ⟨((trim_sublist _).trans hpart).trans hu.sublist,
    ((dropQuote_suffix _).trans hrest).trans hu⟩

/-- **What is found is a part of the text.** -/
theorem sublist_of_mem_scan {s : List Char} : ∀ a ∈ scan s, a.value.Sublist s := by
  induction s using scan.induct with
  | case1 =>
    rw [scan_nil]
    exact fun a ha => absurd ha List.not_mem_nil
  | case2 c r a t hread ih =>
    obtain ⟨hvalue, hrest⟩ := parts_of_read? hread
    rw [scan_of_read? hread]
    exact List.forall_mem_cons.mpr ⟨hvalue, fun b hb => (ih b hb).trans hrest.sublist⟩
  | case3 c r hread ih =>
    rw [scan_of_none hread]
    exact fun a ha => (ih a ha).trans (List.sublist_cons_self c r)

/-! ## Texts with a quote at their end -/

/-- No quote stands in the text before its last character. -/
def QuoteLast (s : List Char) : Prop := ∀ a b, s = a ++ '\'' :: b → b = []

theorem quoteLast_concat {s : List Char} (h : '\'' ∉ s) : QuoteLast (s ++ ['\'']) := by
  intro a b hab
  rcases b.eq_nil_or_concat with rfl | ⟨b, x, rfl⟩
  · rfl
  · rw [List.concat_eq_append, ← List.cons_append, ← List.append_assoc] at hab
    have hs := (List.append_inj' hab rfl).1
    exact absurd (hs ▸ List.mem_append_right a List.mem_cons_self) h

theorem QuoteLast.of_suffix {s t : List Char} (hs : QuoteLast s) (h : t <:+ s) : QuoteLast t := by
  obtain ⟨r, rfl⟩ := h
  rintro a b rfl
  exact hs (r ++ a) b (List.append_assoc r a ('\'' :: b)).symm

/-- With no second quote to close it a value is bare. -/
theorem QuoteLast.isBare_readValue {s : List Char} (h : QuoteLast s) : IsBare (readValue s).1 := by
  rw [readValue_bare fun v t hs => absurd (h [] _ hs) (by simp)]
  refine isBare_dropCommas fun c hc => ?_
  have hc := forall_mem_takeWhile isBareChar s c hc
  simp only [isBareChar, Bool.and_eq_true, Bool.not_eq_true'] at hc
  exact hc.2

/-- One step of a search: what is found is bare, and no quote but a last one is left. -/
theorem QuoteLast.read? {s t : List Char} {a : Attribute} (hs : QuoteLast s)
    (h : Attribute.read? s = some (a, t)) : IsBare a.value ∧ QuoteLast t := by
  obtain ⟨u, hu, hvalue, -⟩ := exists_readValue_of_read? h
  have hbare := (hs.of_suffix hu).isBare_readValue
  rw [hvalue, trim_of_forall hbare.1]
  exact ⟨hbare, hs.of_suffix (parts_of_read? h).2⟩

/-- **Only bare values are found** where no quote can close one. -/
theorem isBare_of_mem_scan {s : List Char} (hs : QuoteLast s) :
    ∀ a ∈ scan s, IsBare a.value := by
  induction s using scan.induct with
  | case1 =>
    rw [scan_nil]
    exact fun a ha => absurd ha List.not_mem_nil
  | case2 c r a t hread ih =>
    obtain ⟨hbare, hrest⟩ := hs.read? hread
    rw [scan_of_read? hread]
    exact List.forall_mem_cons.mpr ⟨hbare, ih hrest⟩
  | case3 c r hread ih =>
    rw [scan_of_none hread]
    exact ih (hs.of_suffix (List.suffix_cons c r))

/-! ## Both spellings -/

theorem exists_read?_of_readKey? {s key value t : List Char}
    (h : Attribute.readKey? (dropQuote s) = some (key, value, t)) :
    ∃ source, Attribute.read? s = some (⟨key, value, source⟩, t) := by
  refine ⟨s.take (s.length - t.length), ?_⟩
  rw [Attribute.read?, h]
  rfl

/-- What is read first, if quotes stand around the whole. -/
theorem read?_whole_first {k : List Char} (hk : IsKey k) (v : List Char) : ∃ source,
    Attribute.read? (Spelling.whole.text k v) =
      some (⟨k, trim (readValue (trimStart (v ++ ['\'']))).1, source⟩,
        dropQuote (readValue (trimStart (v ++ ['\'']))).2) :=
  exists_read?_of_readKey? (readKey?_append hk (v ++ ['\'']))

/-- Nothing is found in blanks and a quote. -/
theorem scan_quote_after {b : List Char} (hb : ∀ c ∈ b, isBlank c = true) :
    scan (dropQuote (b ++ ['\''])) = [] := by
  have hquote : scan ['\''] = [] := by
    rw [scan_of_none rfl, scan_nil]
  have hidle : ∀ c ∈ b, c.isAlpha = false ∧ c ≠ '\'' := by
    intro c hc
    refine ⟨isAlpha_of_isBlank (hb c hc), ?_⟩
    rintro rfl
    exact absurd (hb _ hc) (by decide)
  cases b with
  | nil => exact scan_nil
  | cons c b =>
    rw [dropQuote_of_head_ne, scan_append_of_idle hidle, hquote]
    simpa using (hidle c List.mem_cons_self).2

section

variable {k v : List Char} (hk : IsKey k) (hv : '\'' ∉ v)
include hk hv

/-- In quotes of its own a value is read as it is. -/
theorem scan_valueQuoted : scan (Spelling.valueQuoted.text k v) =
    [⟨k, trim v, Spelling.valueQuoted.text k v⟩] := by
  have hread := read?_valueQuoted hk hv (t := []) (by simp)
  rw [List.append_nil] at hread
  rw [scan_of_read? hread, scan_nil]

/-- **Only bare values are found**, if quotes stand around the whole. -/
theorem isBare_of_mem_scan_whole : ∀ a ∈ scan (Spelling.whole.text k v), IsBare a.value := by
  obtain ⟨source, hread⟩ := read?_whole_first hk v
  have hlast := (quoteLast_concat hv).of_suffix (trimStart_suffix _)
  have hbare := hlast.isBare_readValue
  rw [scan_of_read? hread]
  refine List.forall_mem_cons.mpr ⟨?_, isBare_of_mem_scan ?_⟩
  · rwa [trim_of_forall hbare.1]
  · exact hlast.of_suffix ((dropQuote_suffix _).trans (readValue_parts _).2)

/-- **A bare value is read** also if quotes stand around the whole, and nothing else is. -/
theorem scan_whole_of_isBare (hbare : IsBare (trim v)) : ∃ source,
    scan (Spelling.whole.text k v) = [⟨k, trim v, source⟩] := by
  obtain ⟨b, hb, hblank⟩ := exists_trimEnd_append (trimStart v)
  have hstart : trimStart (v ++ ['\'']) = trim v ++ (b ++ ['\'']) := by
    rw [trimStart_append_cons (by decide), hb, List.append_assoc]
    rfl
  have hvalue : ∀ c ∈ trim v, isBareChar c = true := by
    intro c hc
    have hquote : c ≠ '\'' := by
      rintro rfl
      exact hv ((trim_sublist v).mem hc)
    simp [isBareChar, hquote, hbare.1 c hc]
  have hstop : ∀ c, (b ++ ['\'']).head? = some c → isBareChar c = false := by
    refine head?_append_of_forall (fun c hc => ?_) ?_
    · simp [isBareChar, hblank c hc]
    · rintro c ⟨⟩
      decide
  have hread := readValue_bare (s := trim v ++ (b ++ ['\''])) fun x y h => by
    have := (quoteLast_concat hv).of_suffix (trimStart_suffix _) [] _ (hstart.trans h)
    simp at this
  rw [takeWhile_append_of_all hvalue hstop, dropWhile_append_of_all hvalue hstop,
    dropCommas_eq_self hbare.2, ← hstart] at hread
  obtain ⟨source, hfirst⟩ := read?_whole_first hk v
  rw [hread, trim_trim] at hfirst
  exact ⟨source, by rw [scan_of_read? hfirst, scan_quote_after hblank]⟩

/-- In quotes of its own a value counts if its key is known, and it is no bad start. -/
theorem numbering_valueQuoted :
    LineNumbering.ofAttributes (scan (Spelling.valueQuoted.text k v)) =
      ⟨if k = "lines".toList ∧ trim v ≠ [] then some (trim v) else none,
        if k = "start".toList ∧ isNumeral (trim v) then some (trim v) else none⟩ := by
  rw [scan_valueQuoted hk hv, LineNumbering.ofAttributes_singleton]
  simp only [Attribute.namesLines, Attribute.namesStart, decide_eq_true_eq]

/-- **When the spellings say the same**: of a value that is not bare, only if they say nothing. -/
theorem numbering_spellings_iff :
    LineNumbering.ofAttributes (scan (Spelling.whole.text k v)) =
        LineNumbering.ofAttributes (scan (Spelling.valueQuoted.text k v)) ↔
      IsBare (trim v) ∨
        LineNumbering.ofAttributes (scan (Spelling.whole.text k v)) = .empty ∧
        LineNumbering.ofAttributes (scan (Spelling.valueQuoted.text k v)) = .empty := by
  have hquoted := numbering_valueQuoted hk hv
  constructor
  · intro h
    by_cases hbare : IsBare (trim v)
    · exact Or.inl hbare
    -- A range would have to be found from the first spelling too, and a numeral is bare.
    have hlines : ¬(k = "lines".toList ∧ trim v ≠ []) := by
      intro hrange
      rw [LineNumbering.ofAttributes_eq, hquoted, if_pos hrange, LineNumbering.mk.injEq] at h
      exact hbare (isBare_of_mem_lastValue (isBare_of_mem_scan_whole hk hv) h.1)
    have hstart : ¬(k = "start".toList ∧ isNumeral (trim v) = true) :=
      fun hnumeral => hbare (isBare_of_isNumeral hnumeral.2)
    rw [if_neg hlines, if_neg hstart] at hquoted
    exact Or.inr ⟨h.trans hquoted, hquoted⟩
  · rintro (hbare | ⟨hwhole, hempty⟩)
    · obtain ⟨source, hsource⟩ := scan_whole_of_isBare hk hv hbare
      rw [hsource, scan_valueQuoted hk hv, LineNumbering.ofAttributes_singleton,
        LineNumbering.ofAttributes_singleton]
      rfl
    · rw [hwhole, hempty]

end

end Deck.Fence
