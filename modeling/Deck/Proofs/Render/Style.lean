import Mathlib.Data.List.Forall2
import Deck.Proofs.Html.Unescape
import Deck.Proofs.Render.Fields
import Deck.Proofs.Style.Accepted

/-!
# What a style block declares

The pairs of a style block become declarations, in their order.  Three keys stand for the layer
of an element and for its distance from the left and from the top; if one of them occurs, a
declaration that takes the element out of the flow comes first.

* `Declares`: the declaration of a pair.
* `styleAttribute_written`: **each written form of some pairs gives the attribute with their
  declarations**.
* `lineStyle_all_or_nothing`: **a block is accepted as a whole or not at all**, and is not
  rejected without a warning.
-/

namespace Deck.Render

open Html Style

/-- The keys that place an element. -/
def placingKeys : List (List Char) :=
  ["calque".toList, "horizontal-margin".toList, "vertical-margin".toList]

/-- What a pair declares: a property is named by its key, and the keys that place an element
stand for properties with other names. -/
inductive Declares : Pair → String → Prop
  | layer (v : List Char) : Declares ⟨"calque".toList, v⟩ ("z-index: " ++ String.ofList v)
  | left (v : List Char) :
      Declares ⟨"horizontal-margin".toList, v⟩ ("left: " ++ String.ofList v ++ "px")
  | top (v : List Char) :
      Declares ⟨"vertical-margin".toList, v⟩ ("top: " ++ String.ofList v ++ "px")
  | property {k : List Char} (v : List Char) : k ∉ placingKeys →
      Declares ⟨k, v⟩ (String.ofList k ++ ": " ++ String.ofList v)

/-- The declarations of some pairs, with the one that goes in front. -/
def withPosition (ps : List Pair) (ds : List String) : List String :=
  if ∃ p ∈ ps, p.key ∈ placingKeys then "position: absolute" :: ds else ds

theorem not_mem_placingKeys_iff {key : List Char} : key ∉ placingKeys ↔
    key ≠ "calque".toList ∧ key ≠ "horizontal-margin".toList ∧
      key ≠ "vertical-margin".toList := by
  simp only [placingKeys, List.mem_cons, List.not_mem_nil, or_false, not_or, ne_eq]

theorem ofKey?_of_not_mem {key : List Char} (h : key ∉ placingKeys) :
    Placement.ofKey? key = none := by
  obtain ⟨hlayer, hleft, htop⟩ := not_mem_placingKeys_iff.mp h
  rw [Placement.ofKey?, if_neg hlayer, if_neg hleft, if_neg htop]

theorem places_iff {p : Pair} : p.places = true ↔ p.key ∈ placingKeys := by
  constructor
  · intro h
    by_contra hkey
    rw [Pair.places, ofKey?_of_not_mem hkey] at h
    exact absurd h (by decide)
  · have hall : ∀ key ∈ placingKeys, (Placement.ofKey? key).isSome = true := by decide
    exact hall p.key

theorem declares_declaration (p : Pair) : Declares p p.declaration := by
  obtain ⟨k, v⟩ := p
  by_cases hkey : k ∈ placingKeys
  · simp only [placingKeys, List.mem_cons, List.not_mem_nil, or_false] at hkey
    rcases hkey with rfl | rfl | rfl
    · have htext : (⟨"calque".toList, v⟩ : Pair).declaration = "z-index: " ++ String.ofList v :=
        String.append_empty
      exact htext ▸ .layer v
    · exact .left v
    · exact .top v
  · rw [Pair.declaration, ofKey?_of_not_mem hkey]
    exact .property v hkey

theorem declarations_eq (ps : List Pair) :
    declarations ps = withPosition ps (ps.map Pair.declaration) := by
  have hany : ps.any Pair.places = true ↔ ∃ p ∈ ps, p.key ∈ placingKeys := by
    simp only [List.any_eq_true, places_iff]
  rw [declarations, withPosition]
  by_cases h : ps.any Pair.places = true
  · rw [if_pos h, if_pos (hany.mp h)]
    rfl
  · rw [if_neg h, if_neg (mt hany.mpr h)]
    rfl

/-- **Parsing undoes writing.**  A list of pairs can be written, and each of its written forms
gives the attribute `style`, with the declarations of the pairs in their order. -/
theorem styleAttribute_written {ps : List Pair} (hne : ps ≠ []) (hps : ∀ p ∈ ps, p.Valid) :
    (∃ raw, WrittenBlock ps raw) ∧ ∀ raw : String, WrittenBlock ps raw.toList →
      ∃ value ds, (styleAttribute raw).outcome = .ok (" style=\"" ++ value ++ "\"") ∧
        List.Forall₂ Declares ps ds ∧
        unescape value.toList = ("; ".intercalate (withPosition ps ds)).toList := by
  refine ⟨exists_writtenBlock ps, fun raw hraw => ?_⟩
  refine ⟨escape ("; ".intercalate (declarations ps)), ps.map Pair.declaration, ?_, ?_, ?_⟩
  · rw [styleAttribute, read_written hne hps hraw]
    cases ps with
    | nil => exact absurd rfl hne
    | cons p ps => rfl
  · rw [List.forall₂_map_right_iff, List.forall₂_same]
    exact fun p _ => declares_declaration p
  · rw [unescape_escape, declarations_eq]

/-- Pairs of which one places its element, and two have values with commas and quotes. -/
def framedPairs : List Pair :=
  [⟨"background".toList, "url(a:b, (c))".toList⟩, ⟨"calque".toList, "3".toList⟩,
    ⟨"content".toList, "\"x\"".toList⟩]

def framedBlock : String := " \x7b,background\t: url(a:b, (c)) , ,calque:'3', content :'\"x\"'\x7d\n"

theorem framedPairs_valid : ∀ p ∈ framedPairs, p.Valid := by
  have hurl : Shielded "url(a:b, (c))".toList := by
    refine .char (by decide) (by decide) (by decide) (.char (by decide) (by decide) (by decide)
      (.char (by decide) (by decide) (by decide) ?_))
    refine .group (s := "a:b, (c)".toList) (t := []) ?_ .nil
    iterate 5 refine .char (by decide) (by decide) ?_
    exact .group (s := ['c']) (t := []) (.char (by decide) (by decide) .nil) .nil
  have hquoted : Shielded "\"x\"".toList := by
    iterate 3 refine .char (by decide) (by decide) (by decide) ?_
    exact .nil
  have hthree : Shielded "3".toList := .char (by decide) (by decide) (by decide) .nil
  have hfree : ∀ {s t : List Char}, s.all (· ∉ t) → ∀ c ∈ s, c ∉ t :=
    fun hall c hc => of_decide_eq_true (List.all_eq_true.mp hall c hc)
  intro p hp
  simp only [framedPairs, List.mem_cons, List.not_mem_nil, or_false] at hp
  rcases hp with rfl | rfl | rfl
  · exact ⟨by decide, by decide, hfree (by decide), by decide, by decide, hfree (by decide), hurl⟩
  · exact ⟨by decide, by decide, hfree (by decide), by decide, by decide, hfree (by decide), hthree⟩
  · exact ⟨by decide, by decide, hfree (by decide), by decide, by decide, hfree (by decide), hquoted⟩

theorem framedBlock_written : WrittenBlock framedPairs framedBlock.toList := by
  have hblank : ∀ s : List Char, s.all Text.isBlank = true → AllBlank s :=
    fun s => List.all_eq_true.mp
  have hfirst : WrittenPair ⟨"background".toList, "url(a:b, (c))".toList⟩
      "background\t: url(a:b, (c)) ".toList :=
    .spaced (hblank [] rfl) (hblank ['\t'] rfl) (hblank [' '] rfl) (hblank [' '] rfl)
      (.bare fun q t hq h => absurd ((List.cons.inj h).1 ▸ hq) (by decide))
  have hsecond : WrittenPair ⟨"calque".toList, "3".toList⟩ "calque:'3'".toList :=
    .spaced (hblank [] rfl) (hblank [] rfl) (hblank [] rfl) (hblank [] rfl) (.quoted (by decide))
  have hthird : WrittenPair ⟨"content".toList, "\"x\"".toList⟩ " content :'\"x\"'".toList :=
    .spaced (hblank [' '] rfl) (hblank [' '] rfl) (hblank [] rfl) (hblank [] rfl)
      (.quoted (by decide))
  have hpieces := WrittenPieces.blank (hblank [] rfl) (.pair hfirst (.blank (hblank [' '] rfl)
    (.pair hsecond (.pair hthird .nil))))
  exact .braced (hblank [' '] rfl) (hblank ['\n'] rfl) hpieces

theorem framedBlock_attribute : framedPairs ≠ [] ∧ (∀ p ∈ framedPairs, p.Valid) ∧
    WrittenBlock framedPairs framedBlock.toList ∧
    ∃ value ds, (styleAttribute framedBlock).outcome = .ok (" style=\"" ++ value ++ "\"") ∧
      List.Forall₂ Declares framedPairs ds ∧
      unescape value.toList = ("; ".intercalate (withPosition framedPairs ds)).toList := by
  have hne : framedPairs ≠ [] := List.cons_ne_nil _ _
  refine ⟨hne, framedPairs_valid, framedBlock_written, ?_⟩
  exact (styleAttribute_written hne framedPairs_valid).2 framedBlock framedBlock_written

/-! ## Accepted and rejected blocks -/

theorem styleText_ne_empty (declarations : List String) : styleText declarations ≠ "" := by
  intro h
  have hlist := congrArg String.toList h
  simp [styleText] at hlist

section

variable {raw : String}

theorem styleAttribute_of_error {reason : Rejection} (h : read raw.toList = .error reason) :
    styleAttribute raw = ⟨[.styleIgnored raw reason], .ok ""⟩ := by
  rw [styleAttribute, h]
  rfl

theorem styleAttribute_of_nil (h : read raw.toList = .ok []) :
    styleAttribute raw = ⟨[], .ok ""⟩ := by
  rw [styleAttribute, h]
  rfl

theorem styleAttribute_of_cons {p : Pair} {ps : List Pair} (h : read raw.toList = .ok (p :: ps)) :
    styleAttribute raw = ⟨[.styleRead raw (declarations (p :: ps))],
      .ok (styleText (declarations (p :: ps)))⟩ := by
  rw [styleAttribute, h]
  rfl

end

/-- A block that is missing is as good as the empty one. -/
theorem accepted_getD_iff (raw : Option String) :
    Accepted (raw.getD "").toList ↔ ∃ s, raw = some s ∧ Accepted s.toList := by
  cases raw with
  | none =>
    have hempty : ¬∃ p ps, read [] = .ok (p :: ps) := by
      rintro ⟨p, ps, h⟩
      cases h
    simpa [exists_read_cons_iff] using hempty
  | some s => simp

theorem hollow_getD_iff (raw : Option String) :
    Hollow (raw.getD "").toList ↔ ∀ s, raw = some s → Hollow s.toList := by
  cases raw with
  | none => simpa using read_eq_nil_iff.mp rfl
  | some s => simp

/-- **All or nothing, and never in silence.**  A block gives an attribute exactly when it is
accepted.  It gives none without a warning exactly when there is no block, or a hollow one; each
other block gives none, and one warning. -/
theorem lineStyle_all_or_nothing (raw : Option String) :
    ∃ out, (lineStyle raw).outcome = .ok out ∧
      (out ≠ "" ↔ ∃ s, raw = some s ∧ Accepted s.toList) ∧
      (out = "" ∧ (lineStyle raw).warnings = [] ↔ ∀ s, raw = some s → Hollow s.toList) ∧
      (¬(∃ s, raw = some s ∧ Accepted s.toList) → ¬(∀ s, raw = some s → Hollow s.toList) →
        out = "" ∧ ∃ w, (lineStyle raw).warnings = [w]) := by
  rw [← accepted_getD_iff, ← hollow_getD_iff, ← exists_read_cons_iff, ← read_eq_nil_iff,
    lineStyle_eq]
  generalize raw.getD "" = s
  cases hread : read s.toList with
  | error reason =>
    rw [styleAttribute_of_error hread]
    exact ⟨"", rfl, by simp, by simp [Report.warnings, Notice.severity], fun _ _ => ⟨rfl, _, rfl⟩⟩
  | ok ps =>
    cases ps with
    | nil =>
      rw [styleAttribute_of_nil hread]
      exact ⟨"", rfl, by simp, by simp [Report.warnings], fun _ h => absurd rfl h⟩
    | cons p ps =>
      rw [styleAttribute_of_cons hread]
      exact ⟨_, rfl, by simp [styleText_ne_empty], by simp [styleText_ne_empty],
        fun h => absurd ⟨p, ps, rfl⟩ h⟩

end Deck.Render
