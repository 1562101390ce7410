import Deck.Proofs.Dump.Shape

/-!
# When a dump is refused

A dump of the right shape is refused for what one of its lines lacks, or for a style block
around a style block, and for nothing else.

* `RefusedIff`: work is refused exactly in some case, and then for a breach of the contract.
* `RefusedIff.bind`, `RefusedIff.mapM`, `RefusedIff.each`: work is refused if a part of it is.
* `DeficientElement`, `DeficientLine`: what may be wrong with a line.
* `element_refusedIff`, `line_refusedIff`, `slide_refusedIff`: the parts of a dump.
* `presentation_refused_iff`: **a dump is refused exactly if it has no slides or a deficient
  line**.
-/

namespace Deck.Dump

open Json

/-! ## Refusals -/

/-- The fields that some node needs. -/
def neededNames : List String := ["slides", "level", "text", "items", "content", "element"]

/-- A fault that tells of a breach of the contract of a dump. -/
inductive IsBreach : Fault → Prop
  | missingField (owner : String) {name : String} : name ∈ neededNames →
      IsBreach (.missingField owner name)
  | nestedStyleNode : IsBreach .nestedStyleNode

theorem IsBreach.ofContent {e : Fault} (h : IsBreach e) : e.ofContent = true := by
  cases h with
  | missingField => rfl
  | nestedStyleNode => rfl

/-- Work is refused exactly if `P` holds, and then for a breach of the contract. -/
def RefusedIff {α : Type} (x : Except Fault α) (P : Prop) : Prop :=
  match x with
  | .ok _ => ¬P
  | .error e => P ∧ IsBreach e

namespace RefusedIff

variable {α β : Type} {P Q : Prop}

theorem iff {x : Except Fault α} (h : RefusedIff x P) : (∃ e, x = .error e) ↔ P := by
  cases x with
  | ok a => exact ⟨fun ⟨_, he⟩ => (nomatch he), fun hp => absurd hp h⟩
  | error e => exact ⟨fun _ => h.1, fun _ => ⟨e, rfl⟩⟩

theorem isBreach {x : Except Fault α} (h : RefusedIff x P) {e : Fault} (he : x = .error e) :
    IsBreach e := by
  subst he
  exact h.2

theorem congr {x : Except Fault α} (h : RefusedIff x P) (hpq : P ↔ Q) : RefusedIff x Q :=
  propext hpq ▸ h

theorem ok (a : α) : RefusedIff (.ok a) False := id

/-- Work is refused in its first part, or after it. -/
theorem bind {x : Except Fault α} {f : α → Except Fault β} (hx : RefusedIff x P)
    (hf : ∀ a, x = .ok a → RefusedIff (f a) Q) : RefusedIff (x >>= f) (P ∨ Q) := by
  cases x with
  | error e => exact ⟨Or.inl hx.1, hx.2⟩
  | ok a => exact (hf a rfl).congr (or_iff_right hx).symm

/-- What follows and is never refused adds no refusal. -/
theorem bind_of_never {x : Except Fault α} {f : α → Except Fault β} (hx : RefusedIff x P)
    (hf : ∀ a, RefusedIff (f a) False) : RefusedIff (x >>= f) P :=
  (hx.bind fun a _ => hf a).congr (iff_of_eq (or_false P))

theorem map {x : Except Fault α} (hx : RefusedIff x P) (f : α → β) : RefusedIff (x.map f) P := by
  cases x with
  | error e => exact hx
  | ok a => exact hx

theorem mapM {f : α → Except Fault β} {R : α → Prop} {as : List α}
    (h : ∀ a ∈ as, RefusedIff (f a) (R a)) : RefusedIff (as.mapM f) (∃ a ∈ as, R a) := by
  induction as with
  | nil => exact (ok []).congr (by simp)
  | cons a as ih =>
    rw [List.mapM_cons]
    have hrest := ih fun b hb => h b (List.mem_cons_of_mem a hb)
    refine ((h a List.mem_cons_self).bind fun b _ =>
      hrest.bind_of_never fun bs => ok (b :: bs)).congr ?_
    simp

theorem bindReport {r : Report α} {f : α → Report β} (hr : RefusedIff r.outcome P)
    (hf : ∀ a, r.outcome = .ok a → RefusedIff (f a).outcome Q) :
    RefusedIff (r.bind f).outcome (P ∨ Q) := by
  rw [Report.bind_outcome]
  exact hr.bind hf

theorem bindReport_of_never {r : Report α} {f : α → Report β} (hr : RefusedIff r.outcome P)
    (hf : ∀ a, RefusedIff (f a).outcome False) : RefusedIff (r.bind f).outcome P := by
  rw [Report.bind_outcome]
  exact hr.bind_of_never hf

theorem each {f : α → Report β} {R : α → Prop} {as : List α}
    (h : ∀ a ∈ as, RefusedIff (f a).outcome (R a)) :
    RefusedIff (Report.each f as).outcome (∃ a ∈ as, R a) := by
  induction as with
  | nil => exact (ok []).congr (by simp)
  | cons a as ih =>
    rw [Report.each_cons]
    have hrest := ih fun b hb => h b (List.mem_cons_of_mem a hb)
    refine ((h a List.mem_cons_self).bindReport fun b _ =>
      hrest.bindReport_of_never fun bs => ok (b :: bs)).congr ?_
    simp

end RefusedIff

/-- A field that is needed is refused if it is missing or null. -/
theorem require_refusedIff (fields : Fields) (name : String) (h : name ∈ neededNames) :
    RefusedIff (require (.obj fields) name) (Lacks fields name) := by
  rw [require_obj]
  split
  · rename_i hnull
    exact ⟨hnull, .missingField _ h⟩
  · rename_i hne
    exact hne

/-! ## Elements -/

/-- What an element of some type may lack. -/
def DeficientAs (fields : Fields) : NodeType → Prop
  | .heading => Lacks fields "level" ∨ Lacks fields "text"
  | .paragraph | .quote => Lacks fields "text"
  | .list _ =>
    Lacks fields "items" ∨ ∃ item ∈ objects (field fields "items"), Lacks item "text"
  | .media => Lacks fields "url" ∧ Lacks fields "content"
  | .code => Lacks fields "content"

/-- An element of known type that lacks something.  A node of unknown type lacks nothing. -/
def DeficientElement (fields : Fields) : Prop :=
  ∃ type, HasType fields type ∧ DeficientAs fields type

/-- An item that is an object needs a text. -/
theorem listItem_refusedIff {v : Json} (h : itemShape v = true) :
    RefusedIff (listItem v) (∃ item, v = .obj item ∧ Lacks item "text") := by
  cases v with
  | str s => exact (RefusedIff.ok (Json.str s)).congr (by simp)
  | obj fields =>
    refine (require_refusedIff fields "text" (by decide)).congr ?_
    simp
  | _ => simp [itemShape, isObject] at h

/-- A list needs items, and each of them a text. -/
theorem list_refusedIff {fields : Fields} (h : isArrayOf itemShape (field fields "items") = true)
    (kind : ListKind) :
    RefusedIff (elementOfType (.obj fields) (.list kind)) (DeficientAs fields (.list kind)) := by
  obtain hnull | ⟨values, hvalues, hall⟩ := isArrayOf_iff.mp h
  · rw [elementOfType, require_obj_of_lacks hnull]
    exact ⟨Or.inl hnull, .missingField _ (by decide)⟩
  · rw [elementOfType, require_obj_of_eq hvalues (by simp)]
    refine ((RefusedIff.mapM fun x hx => listItem_refusedIff (hall x hx)).bind_of_never
      fun texts => RefusedIff.ok (Element.list kind texts)).congr ?_
    have hgiven : ¬Lacks fields "items" := not_lacks_of_eq hvalues (by simp)
    rw [DeficientAs, or_iff_right hgiven, hvalues]
    simp only [mem_objects]
    constructor
    · rintro ⟨x, hx, item, rfl, hlacks⟩
      exact ⟨item, hx, hlacks⟩
    · rintro ⟨item, hmem, hlacks⟩
      exact ⟨_, hmem, item, rfl, hlacks⟩

/-- A media element needs a locator or a line of text. -/
theorem mediaSource_refusedIff {fields : Fields} (h : leavesShape fields = true) :
    RefusedIff (mediaSource (.obj fields)) (DeficientAs fields .media) := by
  obtain hnull | ⟨url, hurl⟩ := leaf_of_shape h "url" (by decide)
  · rw [mediaSource_of_lacks hnull]
    refine ((require_refusedIff fields "content" (by decide)).bind_of_never
      fun content => RefusedIff.ok (MediaSource.written (some content))).congr ?_
    exact (and_iff_right hnull).symm
  · have hgiven : ¬Lacks fields "url" := not_lacks_of_eq hurl (by simp)
    rw [mediaSource_of_url hurl]
    exact (RefusedIff.ok _).congr ⟨False.elim, fun h => hgiven h.1⟩

theorem elementOfType_refusedIff {fields : Fields} (h : elementShape fields = true)
    (type : NodeType) :
    RefusedIff (elementOfType (.obj fields) type) (DeficientAs fields type) := by
  obtain ⟨hleaves, hitems⟩ := Bool.and_eq_true_iff.mp h
  have hone : ∀ {name : String}, name ∈ neededNames → ∀ make : Json → Element Json,
      RefusedIff (require (.obj fields) name >>= fun v => pure (make v)) (Lacks fields name) := by
    intro name hname make
    exact (require_refusedIff fields name hname).bind_of_never fun v => RefusedIff.ok (make v)
  cases type with
  | heading =>
    exact (require_refusedIff fields "level" (by decide)).bind fun level _ =>
      hone (by decide) (.heading level)
  | paragraph => exact hone (by decide) .paragraph
  | quote => exact hone (by decide) .quote
  | list kind => exact list_refusedIff hitems kind
  | media =>
    exact (mediaSource_refusedIff hleaves).bind_of_never fun source =>
      RefusedIff.ok (Element.media source)
  | code => exact hone (by decide) .code

/-- **An element is refused** exactly if it is deficient. -/
theorem element_refusedIff {fields : Fields} (h : elementShape fields = true) :
    RefusedIff (element (.obj fields)) (DeficientElement fields) := by
  by_cases hknown : ∃ type, HasType fields type
  · obtain ⟨type, htype⟩ := hknown
    rw [element_of_hasType htype]
    refine ((elementOfType_refusedIff h type).map some).congr ?_
    constructor
    · intro hdef
      exact ⟨type, htype, hdef⟩
    · rintro ⟨t, ht, hdef⟩
      rwa [htype.unique ht]
  · have hunknown : ∀ type, ¬HasType fields type := not_exists.mp hknown
    have hleaves := (Bool.and_eq_true_iff.mp h).1
    rw [element_of_unknown (leaf_of_shape hleaves "$type" (by decide)) hunknown]
    refine (RefusedIff.ok none).congr ?_
    exact ⟨False.elim, fun ⟨type, htype, _⟩ => hunknown type htype⟩

/-! ## Lines -/

/-- What may be wrong with a line. -/
inductive DeficientLine (fields : Fields) : Prop
  | element : DeficientElement fields → DeficientLine fields
  /-- A style block around nothing. -/
  | hollow : field fields "$type" = styledType → Lacks fields "element" → DeficientLine fields
  /-- A style block around another one. -/
  | nested {inner : Fields} : field fields "$type" = styledType →
      field fields "element" = .obj inner → field inner "$type" = styledType →
      DeficientLine fields
  | inner {inner : Fields} : field fields "$type" = styledType →
      field fields "element" = .obj inner → DeficientElement inner → DeficientLine fields

theorem DeficientElement.ne_styledType {fields : Fields} (h : DeficientElement fields) :
    field fields "$type" ≠ styledType := by
  obtain ⟨type, htype, -⟩ := h
  exact htype.ne_styledType

/-- To drop a node is no refusal. -/
theorem keepOrDrop_refusedIff {x : Except Fault (Option (Element Json))} {P : Prop}
    (h : RefusedIff x P) (dropped : Notice) (keep : Element Json → Line Json) :
    RefusedIff ((Report.ofExcept x).bind (keepOrDrop dropped keep)).outcome P := by
  refine RefusedIff.bindReport_of_never (r := Report.ofExcept x) h fun e => ?_
  cases e with
  | none => exact RefusedIff.ok none
  | some e => exact RefusedIff.ok (some (keep e))

/-- **A line is refused** exactly if it is deficient. -/
theorem line_refusedIff {fields : Fields} (h : lineShape fields = true) :
    RefusedIff (line (.obj fields)).outcome (DeficientLine fields) := by
  obtain ⟨hshape, hinner⟩ := Bool.and_eq_true_iff.mp h
  by_cases htype : field fields "$type" = styledType
  · have hnot : ¬DeficientElement fields := fun hdef => hdef.ne_styledType htype
    obtain hnull | ⟨inner, hfield, hinner⟩ := isObjectIfAny_iff.mp hinner
    · rw [line_of_lacks_element htype hnull]
      exact ⟨.hollow htype hnull, .missingField _ (by decide)⟩
    · rw [line_of_element htype hfield]
      split
      · rename_i hnested
        exact ⟨.nested htype hfield hnested, .nestedStyleNode⟩
      · rename_i hne
        refine (keepOrDrop_refusedIff (element_refusedIff hinner) _ _).congr ?_
        -- The other ways of being deficient speak of another type, or of another element.
        constructor
        · exact .inner htype hfield
        · rintro (hdef | ⟨-, hlacks⟩ | ⟨-, hobj, hnested⟩ | ⟨-, hobj, hdef⟩)
          · exact absurd hdef hnot
          · exact absurd hlacks (not_lacks_of_eq hfield (by simp))
          · obtain rfl := Json.obj.inj (hobj.symm.trans hfield)
            exact absurd hnested hne
          · obtain rfl := Json.obj.inj (hobj.symm.trans hfield)
            exact hdef
  · rw [line_of_ne htype]
    refine (keepOrDrop_refusedIff (element_refusedIff hshape) _ _).congr ?_
    constructor
    · exact .element
    · rintro (hdef | ⟨hstyled, -⟩ | ⟨hstyled, -, -⟩ | ⟨hstyled, -, -⟩)
      · exact hdef
      all_goals exact absurd hstyled htype

/-! ## Blocks, slides and decks -/

theorem block_refusedIff {fields : Fields} (h : blockShape fields = true) :
    RefusedIff (block (.obj fields)).outcome (∃ l ∈ blockLines fields, DeficientLine l) := by
  obtain ⟨hlines, hmedia⟩ := Bool.and_eq_true_iff.mp h
  obtain ⟨hl, hlall⟩ := holdsObjects_of_shape hlines
  obtain ⟨hm, hmall⟩ := holdsObjects_of_shape hmedia
  rw [block_of_holds hl hm]
  refine (RefusedIff.each fun f hf => line_refusedIff ?_).bindReport_of_never fun found =>
    RefusedIff.ok (Block.mk (found.filterMap id))
  exact (List.mem_append.mp hf).elim (hlall f) (hmall f)

theorem slide_refusedIff {fields : Fields} (h : slideShape fields = true) :
    RefusedIff (slide (.obj fields)).outcome (∃ l ∈ slideLines fields, DeficientLine l) := by
  obtain ⟨hb, hball⟩ := holdsObjects_of_shape h
  rw [slide_of_holds hb]
  refine ((RefusedIff.each fun f hf => block_refusedIff (hball f hf)).bindReport_of_never
    fun blocks => RefusedIff.ok (Slide.mk blocks)).congr ?_
  exact exists_mem_flatMap.symm

theorem template_refusedIff {v : Json} (h : isObjectIfAny slideShape v = true) :
    RefusedIff (template v).outcome (∃ l ∈ templateLines v, DeficientLine l) := by
  obtain rfl | ⟨fields, rfl, hslide⟩ := isObjectIfAny_iff.mp h
  · exact (RefusedIff.ok none).congr (by simp [templateLines])
  · -- An object without fields counts as no template, and it has no lines either.
    by_cases hempty : fields = []
    · subst hempty
      exact (RefusedIff.ok none).congr (by simp [templateLines, slideLines, field, lookup, objects])
    · rw [template_of_ne_nil hempty]
      exact (slide_refusedIff hslide).bindReport_of_never fun s => RefusedIff.ok (some s)

/-- Metadata of the right shape are never refused. -/
theorem metadata_refusedIff {v : Json} (h : isObjectIfAny leavesShape v = true) :
    RefusedIff (metadata v) False := by
  obtain rfl | ⟨fields, rfl, -⟩ := isObjectIfAny_iff.mp h
  · exact RefusedIff.ok none
  · rw [metadata]
    split
    · exact RefusedIff.ok (some _)
    · exact RefusedIff.ok none

theorem presentation_refusedIff {dump : Json} {fields : Fields} (hroot : HasRoot dump fields)
    (hshape : deckShape fields = true) : RefusedIff (presentation dump).outcome
      (Lacks fields "slides" ∨ ∃ l ∈ deckLines fields, DeficientLine l) := by
  obtain ⟨hleft, hmetadata⟩ := Bool.and_eq_true_iff.mp hshape
  obtain ⟨hslides, htemplate⟩ := Bool.and_eq_true_iff.mp hleft
  obtain ⟨hholds, hall⟩ := holdsObjects_of_shape hslides
  obtain hfield | ⟨hlacks, -⟩ := hholds
  · have hgiven : ¬Lacks fields "slides" := not_lacks_of_eq hfield (by simp)
    rw [presentation_of_slides hroot hfield, or_iff_right hgiven]
    have hlines : ((∃ f ∈ objects (field fields "slides"), ∃ l ∈ slideLines f, DeficientLine l) ∨
        ∃ l ∈ templateLines (field fields "template"), DeficientLine l) ↔
          ∃ l ∈ deckLines fields, DeficientLine l := by
      rw [← exists_mem_flatMap, deckLines]
      simp only [List.mem_append, or_and_right, exists_or]
    refine RefusedIff.congr ?_ hlines
    refine (RefusedIff.each fun f hf => slide_refusedIff (hall f hf)).bindReport
      fun slides _ => (template_refusedIff htemplate).bindReport_of_never fun t => ?_
    refine RefusedIff.bindReport_of_never (metadata_refusedIff hmetadata) fun m => ?_
    exact RefusedIff.ok (Presentation.mk slides t m)
  · rw [presentation_of_lacks hroot hlacks]
    exact ⟨Or.inl hlacks, .missingField _ (by decide)⟩

/-- **A dump of the right shape is refused exactly if it has no slides or a deficient line**,
and always for a breach of the contract. -/
theorem presentation_refused_iff {dump : Json} {fields : Fields} (hroot : HasRoot dump fields)
    (hshape : deckShape fields = true) :
    ((∃ e, (presentation dump).outcome = .error e) ↔
      Lacks fields "slides" ∨ ∃ l ∈ deckLines fields, DeficientLine l) ∧
    ∀ e, (presentation dump).outcome = .error e → IsBreach e ∧ e.ofContent = true := by
  have h := presentation_refusedIff hroot hshape
  exact ⟨h.iff, fun e he => ⟨h.isBreach he, (h.isBreach he).ofContent⟩⟩

/-- A deck without slides, whose template has a style block around nothing among its media. -/
def hollowFields : Fields :=
  [("slides", .arr []), ("template", .obj [("blocks", .arr [.obj [("media", .arr [
    .obj [("$type", .str "Table"), ("items", .null)],
    .obj [("$type", .str "StyledElement"), ("style", .str "")]])]])])]

theorem hollowDeck_refused : HasRoot (.obj [("presentation", .obj hollowFields)]) hollowFields ∧
    deckShape hollowFields = true ∧
    ∃ e, (presentation (.obj [("presentation", .obj hollowFields)])).outcome = .error e ∧
      IsBreach e := by
  have hroot : HasRoot (.obj [("presentation", .obj hollowFields)]) hollowFields :=
    .wrapped rfl rfl
  have hshape : deckShape hollowFields = true := by decide
  have hline : ∃ l ∈ deckLines hollowFields, DeficientLine l :=
    ⟨_, List.mem_cons_of_mem _ List.mem_cons_self, .hollow rfl rfl⟩
  obtain ⟨hrefused, hbreach⟩ := presentation_refused_iff hroot hshape
  obtain ⟨e, he⟩ := hrefused.mpr (Or.inr hline)
  exact ⟨hroot, hshape, e, he, (hbreach e he).1⟩

end Deck.Dump
