import Deck.Media.Kind
import Deck.Proofs.Locator.Authority

/-!
# Queries and fragments

A question mark or a number sign ends the path of a locator.  Whatever stands behind it might be
taken for a part that comes earlier: a colon for the end of a scheme, brackets and an `@` for an
authority, points for an extension.  But each part ends at the mark at the latest, and the mark
itself can belong to none of them.  So a locator has the same path with a query as without it, and
is refused for the same reason.

* `clean_append_mark`, `dropScheme_append_mark`, `pathAfterScheme_append_mark`: the mark and what
  follows it, step by step.
* `path_append_mark`: **the path hangs on what stands before the mark**.
* `classified_without_suffix`: and so does what the locator refers to.
-/

namespace Deck.Locator

open Text

variable {mark : Char}

theorem not_isPathChar_iff : isPathChar mark = false ↔ mark = '?' ∨ mark = '#' := by
  simp only [isPathChar, bne, Bool.and_eq_false_iff, Bool.not_eq_false', beq_iff_eq]

/-- The mark is kept, and what stands before it is cleaned as it is by itself. -/
theorem clean_append_mark (hmark : isPathChar mark = false) (s t : List Char) :
    ∃ t', clean (s ++ mark :: t) = clean s ++ mark :: t' := by
  have hhigh : decide (mark.toNat ≤ 0x20) = false := by
    rcases not_isPathChar_iff.mp hmark with rfl | rfl <;> decide
  have hkept : (mark != '\t' && mark != '\r' && mark != '\n') = true := by
    rcases not_isPathChar_iff.mp hmark with rfl | rfl <;> decide
  refine ⟨t.filter fun c => c != '\t' && c != '\r' && c != '\n', ?_⟩
  rw [clean, dropWhile_append_cons hhigh, List.filter_append, List.filter_cons, if_pos hkept]
  rfl

/-- Characters that belong to no scheme stand behind it. -/
theorem dropScheme_of_mem_takeWhile {s : List Char} {c : Char} (hc : isSchemeChar c = false)
    (hmem : c ∈ s.takeWhile (· != ':')) : dropScheme s = s := by
  unfold dropScheme
  split
  · rename_i d r _ t htake _
    rw [htake] at hmem
    rw [if_neg]
    intro hscheme
    obtain ⟨hd, hr⟩ := Bool.and_eq_true_iff.mp hscheme
    rcases List.mem_cons.mp hmem with rfl | hmem
    · simp [isSchemeChar, Char.isAlphanum, hd] at hc
    · exact absurd (List.all_eq_true.mp hr c hmem) (by simp [hc])
  · rfl

/-- A colon behind the mark ends no scheme. -/
theorem dropScheme_append_mark (hmark : isPathChar mark = false) (s t : List Char) :
    dropScheme (s ++ mark :: t) = dropScheme s ++ mark :: t := by
  by_cases hs : ':' ∈ s
  · exact dropScheme_append_of_mem hs _
  · have hnot : isSchemeChar mark = false ∧ (mark != ':') = true := by
      rcases not_isPathChar_iff.mp hmark with rfl | rfl <;> decide
    have hread : (s ++ mark :: t).takeWhile (· != ':') = s ++ mark :: t.takeWhile (· != ':') := by
      rw [List.takeWhile_append_of_pos (all_ne_of_not_mem hs), List.takeWhile_cons, if_pos hnot.2]
    have hmem : mark ∈ (s ++ mark :: t).takeWhile (· != ':') := by
      rw [hread]
      simp
    rw [dropScheme_of_mem_takeWhile hnot.1 hmem, dropScheme_of_not_mem hs]

theorem pathAfterScheme_of_ne {s : List Char} (h : ∀ r, s ≠ '/' :: '/' :: r) :
    pathAfterScheme s = .ok (s.takeWhile isPathChar) := by
  unfold pathAfterScheme
  split
  · exact absurd rfl (h _)
  · rfl

/-- The mark ends the authority, if nothing has ended it before, and it ends the path. -/
theorem pathAfterScheme_append_mark (hmark : isPathChar mark = false) (s t : List Char) :
    pathAfterScheme (s ++ mark :: t) = pathAfterScheme s := by
  by_cases hslashes : ∃ r, s = '/' :: '/' :: r
  · obtain ⟨r, rfl⟩ := hslashes
    have hends : isAuthorityChar mark = false := by
      rcases not_isPathChar_iff.mp hmark with rfl | rfl <;> decide
    show (checkAuthority ((r ++ mark :: t).takeWhile isAuthorityChar)).map
      (fun _ => ((r ++ mark :: t).dropWhile isAuthorityChar).takeWhile isPathChar) = _
    rw [takeWhile_append_cons hends, dropWhile_append_cons hends, takeWhile_append_cons hmark]
    rfl
  · have hne : mark ≠ '/' := by
      rcases not_isPathChar_iff.mp hmark with rfl | rfl <;> decide
    have hnone : ∀ r, s ++ mark :: t ≠ '/' :: '/' :: r := by
      intro r hr
      -- The mark is neither of the two slashes, so both stand before it.
      obtain ⟨-, hr⟩ | ⟨u, rfl, hu⟩ := List.append_eq_cons_iff.mp hr
      · exact hne (List.cons.inj hr).1
      obtain ⟨-, hu⟩ | ⟨v, rfl, -⟩ := List.append_eq_cons_iff.mp hu.symm
      · exact hne (List.cons.inj hu).1
      · exact hslashes ⟨v, rfl⟩
    rw [pathAfterScheme_of_ne hnone, pathAfterScheme_of_ne fun r hr => hslashes ⟨r, hr⟩,
      takeWhile_append_cons hmark]

/-- **The path of a locator hangs on what stands before the mark.** -/
theorem path_append_mark (hmark : isPathChar mark = false) (url rest : List Char) :
    path (url ++ mark :: rest) = path url := by
  obtain ⟨rest', hclean⟩ := clean_append_mark hmark url rest
  rw [path, hclean, dropScheme_append_mark hmark, pathAfterScheme_append_mark hmark]
  rfl

theorem extension_append_mark (hmark : isPathChar mark = false) (url rest : List Char) :
    extension (url ++ mark :: rest) = extension url := by
  rw [extension, path_append_mark hmark]
  rfl

/-- **A query or a fragment never counts** for what a locator refers to: with it and without it
there is the same extension, or the same reason for which there is none. -/
theorem classified_without_suffix {url suffix : List Char}
    (hsuffix : suffix.head? = some '?' ∨ suffix.head? = some '#') :
    extension (url ++ suffix) = extension url ∧
      Media.isVideo (url ++ suffix) = Media.isVideo url ∧
      (extension (url ++ suffix)).map Media.videoFormat =
        (extension url).map Media.videoFormat := by
  obtain ⟨mark, rest, rfl, hmark⟩ :
      ∃ mark rest, suffix = mark :: rest ∧ isPathChar mark = false := by
    cases suffix with
    | nil => simp at hsuffix
    | cons mark rest =>
      refine ⟨mark, rest, rfl, not_isPathChar_iff.mpr ?_⟩
      simpa only [List.head?_cons, Option.some.injEq] using hsuffix
  have hextension := extension_append_mark hmark url rest
  exact ⟨hextension, congrArg (Except.map Media.isVideoExtension) hextension,
    congrArg (Except.map Media.videoFormat) hextension⟩

/-- The query holds all that might count elsewhere: a colon, brackets, slashes and an extension. -/
theorem movieQuery_passed_over :
    extension (" http://[::1]:80/a.b/Film.WEBM".toList ++ "?t=//[x@y:z/c.png#.mov".toList) =
        .ok ".webm".toList ∧
      extension ("//[::1".toList ++ "#]/a.mp4".toList) = .error .badBrackets := by
  have haccepted : extension " http://[::1]:80/a.b/Film.WEBM".toList = .ok ".webm".toList :=
    rfl
  have hrefused : extension "//[::1".toList = .error .badBrackets := rfl
  exact ⟨(classified_without_suffix (Or.inl rfl)).1.trans haccepted,
    (classified_without_suffix (Or.inr rfl)).1.trans hrefused⟩

end Deck.Locator
