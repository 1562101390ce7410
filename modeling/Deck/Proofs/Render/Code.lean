import Deck.Proofs.Fence.Closing
import Deck.Proofs.Html.Unescape
import Deck.Proofs.Render.Fields

/-!
# Code blocks in a page

A code block is rendered exactly when its text is the written form of a fenced block.  Its
markup names the language and the lines of the block, and encloses its code, of which nothing
is lost: decoding the entities gives every character back.

* `codeMarkup_ne_empty`: what is rendered is not the empty text.
* `codeBlock_fenced`: **which texts are rendered, and what becomes of them.**
* `codeBlock_closed`: **which fence closes a block that is rendered.**
-/

namespace Deck.Render

open Fence Html Text

theorem codeMarkup_ne_empty (style : String) (directives : List String) (code : List Char) :
    codeMarkup style directives code ≠ "" := by
  intro h
  have hlist := congrArg String.toList h
  simp [codeMarkup] at hlist

theorem lineDirectives_outcome (attributes : String) :
    (lineDirectives attributes).outcome =
      .ok (numberingDirectives (.ofAttributes (scan attributes.toList))) := rfl

/-- **Code blocks are the written forms of fenced blocks.**  A text is the written form of one
block at most; it always comes out, and it comes out empty if it is the form of none.  The
directives of a block are kept, and so is its code, in which only entities are decoded. -/
theorem codeBlock_fenced (style raw : String) :
    (∀ b b' : Fence.Block, Fenced raw.toList b → Fenced raw.toList b' → b = b') ∧
    ∃ out, (codeBlock style raw).outcome = .ok out ∧
      (out ≠ "" ↔ ∃ b, Fenced raw.toList b) ∧
      ∀ b, Fenced raw.toList b → ∃ directives code,
        (lineDirectives (String.ofList (b.attributes.getD []))).outcome = .ok directives ∧
        WithoutFinalBreak b.body code ∧
        out = "<pre" ++ style ++ "><code " ++ " ".intercalate (["data-trim", "data-noescape"] ++
          (b.language.toList.map fun l => "class=\"language-" ++ String.ofList l ++ "\"") ++
          directives) ++ ">" ++ escape (String.ofList code) ++ "</code></pre>" ∧
        unescape (escape (String.ofList code)).toList = code := by
  refine ⟨fun b b' => Fenced.unique, _, codeBlock_outcome style raw, ?_, ?_⟩
  · simp only [← read?_eq_some_iff]
    cases Fence.read? raw.toList with
    | none => simp
    | some b => simpa using codeMarkup_ne_empty style _ b.code
  · intro b hb
    rw [← read?_eq_some_iff] at hb
    refine ⟨_, b.code, lineDirectives_outcome _, withoutFinalBreak_code b, ?_, ?_⟩
    · rw [hb, String.toList_ofList]
      rfl
    · rw [unescape_escape, String.toList_ofList]

/-- Only a text that is no block comes out empty. -/
theorem codeBlock_ne_empty_iff {style raw out : String}
    (h : (codeBlock style raw).outcome = .ok out) :
    out ≠ "" ↔ ∃ b, Fence.read? raw.toList = some b := by
  obtain rfl := Except.ok.inj ((codeBlock_outcome style raw).symm.trans h)
  cases Fence.read? raw.toList with
  | none => simp
  | some b => simpa using codeMarkup_ne_empty style _ b.code

/-- **The last fence closes a code block.**  A text is rendered exactly if it opens a block and
has only blanks behind its last fence, and the body goes on up to that fence.  So the first fence
closes what is rendered, and a text that goes on behind its first fence comes out empty, exactly
if a fence with only blanks behind it is the only one. -/
theorem codeBlock_closed (style raw : String) :
    (∀ rest rest', Opens raw.toList rest → Opens raw.toList rest' → rest = rest') ∧
    ∃ out, (codeBlock style raw).outcome = .ok out ∧
      (out ≠ "" ↔ ∃ rest before after, Opens raw.toList rest ∧ LastFence rest before after ∧
        ∀ c ∈ after, isBlank c = true) ∧
      ∀ rest, Opens raw.toList rest →
        (∀ b, Fence.read? raw.toList = some b →
          ∃ after, LastFence rest b.body after ∧ ∀ c ∈ after, isBlank c = true) ∧
        (((∀ b, Fence.read? raw.toList = some b →
              ¬fence <:+: b.body ∧ ∃ after, FirstFence rest b.body after) ∧
            ∀ before after, FirstFence rest before after → (∃ c ∈ after, isBlank c = false) →
              out = "") ↔
          ∀ before after, ClosingFence rest before after →
            ∀ before' after', FenceBetween rest before' after' → before' = before) := by
  have hout := codeBlock_outcome style raw
  have hread := codeBlock_ne_empty_iff hout
  refine ⟨fun rest rest' => Opens.unique, _, hout, ?_, fun rest hopens => ⟨?_, ?_⟩⟩
  · rw [hread]
    constructor
    · rintro ⟨b, hb⟩
      obtain ⟨rest, after, hopens, hclosing⟩ := exists_opens_of_read? hb
      exact ⟨rest, b.body, after, hopens, hclosing.last, hclosing.blank⟩
    · rintro ⟨rest, before, after, hopens, hlast, hblank⟩
      obtain ⟨b, hb, -⟩ := hopens.read?_iff.mpr ⟨after, hlast.between, hblank⟩
      exact ⟨b, hb⟩
  · intro b hb
    obtain ⟨after, hclosing⟩ := hopens.read?_iff.mp ⟨b, hb, rfl⟩
    exact ⟨after, hclosing.last, hclosing.blank⟩
  · rw [← hopens.read?_first_iff]
    refine ⟨And.left, fun hfirst => ⟨hfirst, fun before after hbefore hmore => ?_⟩⟩
    rw [hopens.read?_eq_none hfirst hbefore hmore]

/-- A block with a fence in its body. -/
theorem innerFence_kept :
    Opens "```js\na\n```\nb\n```".toList "a\n```\nb\n```".toList ∧
    FirstFence "a\n```\nb\n```".toList "a\n".toList "\nb\n```".toList ∧
    (∃ c ∈ "\nb\n```".toList, isBlank c = false) ∧
    Fence.read? "```js\na\n```\nb\n```".toList =
      some ⟨some "js".toList, none, "a\n```\nb\n".toList⟩ ∧
    fence <:+: "a\n```\nb\n".toList ∧
    (codeBlock "" "```js\na\n```\nb\n```").outcome =
      .ok "<pre><code data-trim data-noescape class=\"language-js\">a\n```\nb</code></pre>" := by
  have hread : Fence.read? "```js\na\n```\nb\n```".toList =
      some ⟨some "js".toList, none, "a\n```\nb\n".toList⟩ := by
    decide
  have hinner : "a\n```\nb\n".toList = "a\n".toList ++ fence ++ "\nb\n".toList := by
    decide
  have hbetween : "a\n```\nb\n```".toList = "a\n".toList ++ fence ++ "\nb\n```".toList := by
    decide
  refine ⟨?_, ⟨hbetween, ?_⟩, ⟨'b', by decide, by decide⟩, hread, ⟨_, _, hinner.symm⟩, ?_⟩
  · obtain ⟨hvalid, -⟩ := fenced_of_read? hread
    exact ⟨_, ⟨[], [], [], ['\n'], [], by simp, by simp, by simp, Or.inl rfl, by simp⟩, hvalid,
      by decide⟩
  · intro b a hb
    obtain _ | ⟨x, _ | ⟨y, b⟩⟩ := b
    · exact absurd (List.cons.inj hb).1 (by decide)
    · exact absurd (List.cons.inj (List.cons.inj hb).2).1 (by decide)
    · exact Nat.le_add_left 2 b.length
  · have hnone : scan [] = [] := by rw [scan]
    rw [codeBlock_outcome, hread]
    show Except.ok (codeMarkup "" (_ ++ numberingDirectives (.ofAttributes (scan []))) _) = _
    rw [hnone]
    exact congrArg Except.ok (by decide)

end Deck.Render
