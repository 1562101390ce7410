import Deck.Proofs.Emphasis.Runs
import Deck.Proofs.Html.Escaped
import Deck.Proofs.Html.Unescape
import Deck.Render.Page

/-!
# Quotes around a caption

A title or an author may arrive in a pair of double quotes, which are no part of it.  The two
quotes are taken off one by one, though, each of them whether or not the other one is there, and
the one at the end also from before a last line break.  So a text that merely starts or ends
with something quoted loses one of the quotes that belong to it.

* `stripQuotes_enclosed`: a pair of quotes is taken off, whatever it encloses.
* `dropClosingQuote_eq_self_iff`: the texts that lose nothing at their end.
* `stripQuotes_eq_iff`: exactly if the quotes are paired, nothing but a pair of them is lost.
* `captions_kept_iff`: **a page shows title and author as they were meant exactly if the quotes
  at the ends of both are paired.**
-/

namespace Deck.Render

open Html

variable {s : List Char}

/-! ## Pairs of quotes -/

/-- The text without the pair of double quotes around it, if there is one. -/
def withoutPair (s : List Char) : List Char :=
  if 2 ≤ s.length ∧ s.head? = some '"' ∧ s.getLast? = some '"' then s.tail.dropLast else s

/-- Double quotes stand at both ends of a text, or at neither of them.  At the end of a text that
does not start with a quote, one before a last line break counts as well. -/
inductive PairedQuotes : List Char → Prop
  | enclosed (t : List Char) : PairedQuotes ('"' :: (t ++ ['"']))
  | bare {s : List Char} : s.head? ≠ some '"' → s.getLast? ≠ some '"' → ¬['"', '\n'] <:+ s →
      PairedQuotes s

theorem withoutPair_enclosed (t : List Char) : withoutPair ('"' :: (t ++ ['"'])) = t := by
  have hlast : ('"' :: (t ++ ['"'])).getLast? = some '"' := by
    rw [← List.cons_append, List.getLast?_concat]
  rw [withoutPair, if_pos ⟨by simp, rfl, hlast⟩, List.tail_cons, List.dropLast_concat]

theorem withoutPair_of_head_ne (h : s.head? ≠ some '"') : withoutPair s = s :=
  if_neg fun hpair => h hpair.2.1

theorem withoutPair_of_getLast_ne {r : List Char} (h : r.getLast? ≠ some '"') :
    withoutPair ('"' :: r) = '"' :: r := by
  refine if_neg fun ⟨hlength, _, hlast⟩ => h ?_
  cases r with
  | nil => simp at hlength
  | cons c r => rwa [List.getLast?_cons_cons] at hlast

/-! ## One quote after the other -/

theorem dropOpeningQuote_of_head_ne (h : s.head? ≠ some '"') : dropOpeningQuote s = s := by
  unfold dropOpeningQuote
  split
  · exact absurd rfl h
  · rfl

theorem dropClosingQuote_concat (t : List Char) : dropClosingQuote (t ++ ['"']) = t := by
  rw [dropClosingQuote, List.reverse_append]
  exact List.reverse_reverse t

theorem dropClosingQuote_break (t : List Char) :
    dropClosingQuote (t ++ ['"', '\n']) = t ++ ['\n'] := by
  rw [dropClosingQuote, List.reverse_append]
  show ('\n' :: t.reverse).reverse = _
  rw [List.reverse_cons, List.reverse_reverse]

/-- At its end a text loses a quote, or nothing. -/
theorem dropClosingQuote_cases (s : List Char) :
    (∃ t, s = t ++ ['"'] ∧ dropClosingQuote s = t) ∨
      (∃ t, s = t ++ ['"', '\n'] ∧ dropClosingQuote s = t ++ ['\n']) ∨
      s.getLast? ≠ some '"' ∧ ¬['"', '\n'] <:+ s ∧ dropClosingQuote s = s := by
  by_cases hquote : s.getLast? = some '"'
  · obtain ⟨t, rfl⟩ := List.getLast?_eq_some_iff.mp hquote
    exact Or.inl ⟨t, rfl, dropClosingQuote_concat t⟩
  by_cases hbreak : ['"', '\n'] <:+ s
  · obtain ⟨t, rfl⟩ := hbreak
    exact Or.inr (Or.inl ⟨t, rfl, dropClosingQuote_break t⟩)
  refine Or.inr (Or.inr ⟨hquote, hbreak, ?_⟩)
  unfold dropClosingQuote
  split
  · rename_i r hr
    obtain rfl := List.reverse_eq_iff.mp hr
    exact absurd (by simp) hquote
  · rename_i r hr
    obtain rfl := List.reverse_eq_iff.mp hr
    exact absurd ⟨r.reverse, by simp⟩ hbreak
  · rfl

theorem length_dropClosingQuote_le (s : List Char) : (dropClosingQuote s).length ≤ s.length := by
  obtain ⟨t, rfl, h⟩ | ⟨t, rfl, h⟩ | ⟨-, -, h⟩ := dropClosingQuote_cases s
  · simp [h]
  · simp [h]
  · exact Nat.le_of_eq (congrArg List.length h)

/-- The texts that lose nothing at their end. -/
theorem dropClosingQuote_eq_self_iff :
    dropClosingQuote s = s ↔ s.getLast? ≠ some '"' ∧ ¬['"', '\n'] <:+ s := by
  obtain ⟨t, rfl, h⟩ | ⟨t, rfl, h⟩ | ⟨hquote, hbreak, h⟩ := dropClosingQuote_cases s
  · simp [h]
  · simp [h]
  · exact ⟨fun _ => ⟨hquote, hbreak⟩, fun _ => h⟩

/-- **Nothing but a pair of quotes is lost** exactly if the quotes are paired. -/
theorem stripQuotes_eq_iff :
    dropClosingQuote (dropOpeningQuote s) = withoutPair s ↔ PairedQuotes s := by
  by_cases hhead : s.head? = some '"'
  · obtain ⟨r, rfl⟩ := List.head?_eq_some_iff.mp hhead
    show dropClosingQuote r = _ ↔ _
    by_cases hlast : r.getLast? = some '"'
    · obtain ⟨t, rfl⟩ := List.getLast?_eq_some_iff.mp hlast
      rw [dropClosingQuote_concat, withoutPair_enclosed]
      exact ⟨fun _ => .enclosed t, fun _ => rfl⟩
    · -- The quote at the start is lost, and there is none at the end that would allow it.
      rw [withoutPair_of_getLast_ne hlast]
      constructor
      · intro h
        have hlength := length_dropClosingQuote_le r
        rw [h, List.length_cons] at hlength
        omega
      · intro h
        cases h with
        | enclosed t => exact absurd (by simp) hlast
        | bare hne => exact absurd rfl hne
  · rw [dropOpeningQuote_of_head_ne hhead, withoutPair_of_head_ne hhead,
      dropClosingQuote_eq_self_iff]
    constructor
    · rintro ⟨hquote, hbreak⟩
      exact .bare hhead hquote hbreak
    · intro h
      cases h with
      | enclosed t => exact absurd rfl hhead
      | bare _ hquote hbreak => exact ⟨hquote, hbreak⟩

theorem stripQuotes_enclosed (s : String) : stripQuotes ("\"" ++ s ++ "\"") = s := by
  have hlist : ("\"" ++ s ++ "\"").toList = '"' :: (s.toList ++ ['"']) := by simp
  rw [stripQuotes, hlist]
  show String.ofList (dropClosingQuote (s.toList ++ ['"'])) = s
  rw [dropClosingQuote_concat, String.ofList_toList]

/-! ## The page -/

/-- A caption as it is meant: without the pair of quotes around it, escaped, or the default. -/
def meantCaption (default : String) (a : Option String) : String :=
  escape (a.elim default fun s => String.ofList (withoutPair s.toList))

/-- The quotes at the ends of a caption are paired, if there is one. -/
def PairedCaption (a : Option String) : Prop := ∀ s ∈ a, PairedQuotes s.toList

/-- A caption comes out in some way, and as it is meant exactly if its quotes are paired. -/
theorem exists_caption_eq (default : String) (a : Option String) :
    ∃ t, caption default a = .ok (escape t) ∧
      (escape t = meantCaption default a ↔ PairedCaption a) := by
  cases a with
  | none => exact ⟨default, rfl, fun _ s hs => (nomatch hs), fun _ => rfl⟩
  | some s =>
    refine ⟨stripQuotes s, rfl, ?_⟩
    have hpaired : PairedCaption (some s) ↔ PairedQuotes s.toList := by
      simp [PairedCaption]
    rw [hpaired, ← stripQuotes_eq_iff]
    constructor
    · intro h
      exact String.ofList_inj.mp (escape_injective h)
    · intro h
      exact congrArg (fun t => escape (String.ofList t)) h

/-- Author and title have lines of their own in the head of the page. -/
theorem exists_pageHead_eq (shell : Shell) : ∃ first : List String, first ≠ [] ∧
    ∀ title author, ∃ later, pageHead title author shell =
      first ++ ("    <meta name=\"author\" content=\"" ++ author ++ "\">") ::
        ("    <meta name=\"title\" content=\"" ++ title ++ "\">") :: later :=
  ⟨(pageHead "" "" shell).take 5, by simp [pageHead],
    fun title author => ⟨(pageHead title author shell).drop 7, rfl⟩⟩

/-- Author and title stand in quotes on the page. -/
theorem exists_pageText_eq (body : String) (shell : Shell) : ∃ start middle : List Char,
    ∀ title author, ∃ rest, (pageText body title author shell).toList =
      start ++ (author.toList ++ '"' :: (middle ++ (title.toList ++ '"' :: rest))) := by
  obtain ⟨first, hfirst, hhead⟩ := exists_pageHead_eq shell
  refine ⟨("\n".intercalate first ++ "\n    <meta name=\"author\" content=\"").toList,
    ">\n    <meta name=\"title\" content=\"".toList, fun title author => ?_⟩
  obtain ⟨later, hlater⟩ := hhead title author
  refine ⟨(">\n" ++ "\n".intercalate (later ++ body :: pageFoot shell)).toList, ?_⟩
  rw [pageText, hlater, List.append_assoc, String.intercalate_append_of_ne_nil hfirst (by simp),
    List.cons_append, List.cons_append, String.intercalate_cons_of_ne_nil (by simp),
    String.intercalate_cons_of_ne_nil (by simp)]
  simp

theorem pageText_inj {body t a t' a' : String} {shell : Shell}
    (h : pageText body (escape t) (escape a) shell = pageText body (escape t') (escape a') shell) :
    t = t' ∧ a = a' := by
  have hmem : ∀ s, '"' ∉ (escape s).toList := fun s => (escaped_escape s).not_mem (by simp)
  obtain ⟨start, middle, hpage⟩ := exists_pageText_eq body shell
  obtain ⟨rest, hrest⟩ := hpage (escape t) (escape a)
  obtain ⟨rest', hrest'⟩ := hpage (escape t') (escape a')
  rw [h, hrest'] at hrest
  obtain ⟨hauthor, hlater⟩ :=
    Emphasis.append_mark_inj (hmem a') (hmem a) (List.append_cancel_left hrest)
  obtain ⟨htitle, -⟩ :=
    Emphasis.append_mark_inj (hmem t') (hmem t) (List.append_cancel_left hlater)
  exact ⟨escape_injective (String.toList_inj.mp htitle.symm),
    escape_injective (String.toList_inj.mp hauthor.symm)⟩

/-- **Captions are kept exactly if their quotes are paired.**  Nothing but a pair of quotes is lost
of such a text, and of no other one; in particular a pair is taken off whatever it encloses.  A
page shows title and author as they are meant exactly if the quotes of both are paired. -/
theorem captions_kept_iff (s body : String) (title author : Option String) (shell : Shell) :
    ((stripQuotes s).toList = withoutPair s.toList ↔ PairedQuotes s.toList) ∧
    stripQuotes ("\"" ++ s ++ "\"") = s ∧
    (page body title author shell = .ok (pageText body (meantCaption defaultTitle title)
        (meantCaption defaultAuthor author) shell) ↔
      PairedCaption title ∧ PairedCaption author) := by
  refine ⟨?_, stripQuotes_enclosed s, ?_⟩
  · rw [stripQuotes, String.toList_ofList]
    exact stripQuotes_eq_iff
  · obtain ⟨t, ht, htitle⟩ := exists_caption_eq defaultTitle title
    obtain ⟨a, ha, hauthor⟩ := exists_caption_eq defaultAuthor author
    have hpage : page body title author shell =
        .ok (pageText body (escape t) (escape a) shell) := by
      rw [page, ht, ha]
      rfl
    rw [hpage, Except.ok.injEq, ← htitle, ← hauthor]
    constructor
    · intro h
      obtain ⟨rfl, rfl⟩ := pageText_inj h
      exact ⟨rfl, rfl⟩
    · rintro ⟨ht, ha⟩
      rw [ht, ha]

/-- A title that ends with a word in quotes loses the last of them. -/
theorem quotedWord_cut : stripQuotes "The \"Big Lie\"" = "The \"Big Lie" ∧
    withoutPair "The \"Big Lie\"".toList = "The \"Big Lie\"".toList := by
  decide +kernel

end Deck.Render
