import Deck.Dump.Presentation
import Deck.Proofs.Report

/-!
# What a node holds

Where a node is an object, asking it for a field always works, and a field that is missing
counts as one that holds null.

* `require_obj`: a field that is needed is there unless it is missing or null.
* `NodeType.ofName?_eq_some_iff`: the names of the types.
* `element_of_hasType`, `element_of_unknown`: a node is read as its type says, and a node of
  unknown type is none.
* `line_of_ne`, `line_of_element`: the line of a node without and with a style block.
* `block_of_holds`, `slide_of_holds`, `presentation_of_slides`: what is read from fields that
  hold arrays of objects.
-/

namespace Deck.Dump

open Json

/-- The fields of an object. -/
abbrev Fields := List (String × Json)

/-- What stands in a field, and null if it is missing. -/
def field (fields : Fields) (name : String) : Json := (lookup name fields).getD .null

/-- The field is missing or null. -/
def Lacks (fields : Fields) (name : String) : Prop := field fields name = .null

instance (fields : Fields) (name : String) : Decidable (Lacks fields name) :=
  inferInstanceAs (Decidable (_ = _))

theorem not_lacks_of_eq {fields : Fields} {name : String} {v : Json} (h : field fields name = v)
    (hv : v ≠ .null) : ¬Lacks fields name := fun hlacks => hv (h.symm.trans hlacks)

theorem get_obj (fields : Fields) (name : String) :
    get (.obj fields) name = .ok (field fields name) := rfl

theorem toOption_eq_none_iff {v : Json} : toOption v = none ↔ v = .null := by
  cases v <;> simp [toOption]

theorem toOption_of_ne {v : Json} (h : v ≠ .null) : toOption v = some v := by
  cases v with
  | null => exact absurd rfl h
  | _ => rfl

/-- A field that is needed is there unless it is missing or null. -/
theorem require_obj (fields : Fields) (name : String) : require (.obj fields) name =
    if field fields name = .null then .error (.missingField (owner fields) name)
    else .ok (field fields name) := by
  have hopt : (lookup name fields).bind toOption = toOption (field fields name) := by
    rw [field]
    cases lookup name fields with
    | none => rfl
    | some v => rfl
  rw [require, hopt]
  split
  · rename_i v hv
    have hne : field fields name ≠ .null := by
      rw [Ne, ← toOption_eq_none_iff, hv]
      simp
    rw [toOption_of_ne hne, Option.some.injEq] at hv
    rw [if_neg hne, hv]
  · rename_i hv
    rw [if_pos (toOption_eq_none_iff.mp hv)]

theorem require_obj_of_eq {fields : Fields} {name : String} {v : Json}
    (h : field fields name = v) (hv : v ≠ .null) : require (.obj fields) name = .ok v := by
  rw [require_obj, h, if_neg hv]

theorem require_obj_of_lacks {fields : Fields} {name : String} (h : Lacks fields name) :
    require (.obj fields) name = .error (.missingField (owner fields) name) := by
  rw [require_obj]
  exact if_pos h

/-! ## Types -/

/-- The names that a node of some type may give for it. -/
def NodeType.aliases : NodeType → List String
  | .heading => ["Heading", "Header", "LineHeading"]
  | .paragraph => ["Paragraph", "LineParagraph"]
  | .quote => ["Quote"]
  | .list .unordered => ["PointedList", "UnorderedList"]
  | .list .ordered => ["OrderedList"]
  | .media => ["Media", "ImageBlock", "VideoBlock"]
  | .code => ["CodeBlock"]

theorem NodeType.ofName?_eq_some_iff {name : String} {type : NodeType} :
    ofName? name = some type ↔ name ∈ type.aliases := by
  constructor
  · intro h
    have hall : ∀ e ∈ names, e.1 ∈ e.2.aliases := by decide
    obtain ⟨l₁, l₂, hsplit, -⟩ := List.lookup_eq_some_iff.mp h
    exact hall (name, type) (by simp [hsplit])
  · have hall : ∀ type : NodeType, ∀ name ∈ type.aliases, ofName? name = some type := by
      rintro (_ | _ | _ | (_ | _) | _ | _) <;> decide
    exact hall type name

/-- The node says that it is of the type. -/
def HasType (fields : Fields) (type : NodeType) : Prop :=
  ∃ name ∈ type.aliases, field fields "$type" = .str name

theorem HasType.unique {fields : Fields} {s t : NodeType} (hs : HasType fields s)
    (ht : HasType fields t) : s = t := by
  obtain ⟨n, hn, hfield⟩ := hs
  obtain ⟨m, hm, hfield'⟩ := ht
  obtain rfl : n = m := Json.str.inj (hfield.symm.trans hfield')
  rw [← NodeType.ofName?_eq_some_iff] at hn hm
  exact Option.some.inj (hn.symm.trans hm)

/-- No element is of the type that wraps elements. -/
theorem HasType.ne_styledType {fields : Fields} {type : NodeType} (h : HasType fields type) :
    field fields "$type" ≠ styledType := by
  obtain ⟨n, hn, hfield⟩ := h
  rintro hs
  obtain rfl : n = "StyledElement" := Json.str.inj (hfield.symm.trans hs)
  rw [← NodeType.ofName?_eq_some_iff] at hn
  exact absurd hn (by decide +revert)

theorem element_of_name {fields : Fields} {name : String} (h : field fields "$type" = .str name) :
    element (.obj fields) = (NodeType.ofName? name).elim (.ok none) fun type =>
      (elementOfType (.obj fields) type).map some := by
  rw [element, get_obj, h]
  cases hname : NodeType.ofName? name with
  | none => simp [hname, bind, Except.bind, pure, Except.pure]
  | some type =>
    simp only [hname, bind, Except.bind, pure, Except.pure, Option.elim_some]
    cases elementOfType (.obj fields) type <;> rfl

theorem element_of_hasType {fields : Fields} {type : NodeType} (h : HasType fields type) :
    element (.obj fields) = (elementOfType (.obj fields) type).map some := by
  obtain ⟨n, hn, hfield⟩ := h
  rw [element_of_name hfield, NodeType.ofName?_eq_some_iff.mpr hn, Option.elim_some]

/-- A type that is missing, null or a string, but no name of a type. -/
theorem element_of_unknown {fields : Fields}
    (hleaf : field fields "$type" = .null ∨ ∃ s, field fields "$type" = .str s)
    (h : ∀ type, ¬HasType fields type) : element (.obj fields) = .ok none := by
  obtain hnull | ⟨s, hs⟩ := hleaf
  · rw [element, get_obj, hnull]
    rfl
  · have hname : NodeType.ofName? s = none := by
      rw [Option.eq_none_iff_forall_ne_some]
      intro type htype
      exact h type ⟨s, NodeType.ofName?_eq_some_iff.mp htype, hs⟩
    rw [element_of_name hs, hname, Option.elim_none]

/-- A media element without a locator. -/
theorem mediaSource_of_lacks {fields : Fields} (h : Lacks fields "url") :
    mediaSource (.obj fields) =
      require (.obj fields) "content" >>= fun content => pure (.written (some content)) := by
  rw [mediaSource, get_obj, h]
  rfl

/-- A media element with a locator, whatever else it holds. -/
theorem mediaSource_of_url {fields : Fields} {url : String}
    (h : field fields "url" = .str url) : mediaSource (.obj fields) =
      (locator (.str url)).map fun v => .located v (toOption (field fields "alt")) := by
  rw [mediaSource, get_obj, h]
  rfl

/-! ## Lines -/

/-- An element is kept as a line.  A node of unknown type is dropped, with a notice. -/
def keepOrDrop (dropped : Notice) (keep : Element Json → Line Json) :
    Option (Element Json) → Report (Option (Line Json))
  | none => (Report.note dropped).bind fun _ => .pure none
  | some e => .pure (some (keep e))

theorem line_of_ne {fields : Fields} (h : field fields "$type" ≠ styledType) :
    line (.obj fields) = (Report.ofExcept (element (.obj fields))).bind
      (keepOrDrop (.unknownNode (field fields "$type")) .plain) := by
  show (if field fields "$type" = styledType then styledLine (.obj fields) else _) = _
  rw [if_neg h]
  rfl

theorem line_of_lacks_element {fields : Fields} (h : field fields "$type" = styledType)
    (he : Lacks fields "element") :
    line (.obj fields) = .fail (.missingField (owner fields) "element") := by
  show (if field fields "$type" = styledType then styledLine (.obj fields) else _) = _
  rw [if_pos h, styledLine, require_obj_of_lacks he]
  rfl

/-- What stands in the field of a style block, and the empty text if it does not count as
given. -/
def styleOf (fields : Fields) : Json :=
  if (field fields "style").isGiven then field fields "style" else .str ""

theorem line_of_element {fields inner : Fields} (h : field fields "$type" = styledType)
    (he : field fields "element" = .obj inner) : line (.obj fields) =
      if field inner "$type" = styledType then .fail .nestedStyleNode
      else (Report.ofExcept (element (.obj inner))).bind
        (keepOrDrop (.unknownStyledNode (field inner "$type")) fun e =>
          .styled (.plain e) (some (styleOf fields))) := by
  show (if field fields "$type" = styledType then styledLine (.obj fields) else _) = _
  rw [if_pos h, styledLine, require_obj_of_eq he (by simp)]
  rfl

/-! ## Blocks and slides -/

/-- The field holds an array of these objects.  A field that is missing or null holds none. -/
def HoldsObjects (fields : Fields) (name : String) (fs : List Fields) : Prop :=
  field fields name = .arr (fs.map .obj) ∨ Lacks fields name ∧ fs = []

theorem children_of_holds {fields : Fields} {name : String} {fs : List Fields}
    (h : HoldsObjects fields name fs) : children (.obj fields) name = .ok (fs.map .obj) := by
  show itemsIfGiven (field fields name) = _
  obtain harr | ⟨hnull, rfl⟩ := h
  · rw [harr]
    cases fs with
    | nil => rfl
    | cons f fs => rfl
  · rw [hnull]
    rfl

theorem block_of_holds {fields : Fields} {ls ms : List Fields}
    (hl : HoldsObjects fields "lines" ls) (hm : HoldsObjects fields "media" ms) :
    block (.obj fields) = (Report.each (fun f => line (.obj f)) (ls ++ ms)).bind fun found =>
      .pure ⟨found.filterMap id⟩ := by
  rw [block, children_of_holds hl, children_of_holds hm, ← Report.each_map, List.map_append]
  rfl

theorem slide_of_holds {fields : Fields} {bs : List Fields} (h : HoldsObjects fields "blocks" bs) :
    slide (.obj fields) = (Report.each (fun f => block (.obj f)) bs).bind fun blocks =>
      .pure ⟨blocks⟩ := by
  rw [slide, children_of_holds h, ← Report.each_map]
  rfl

theorem template_of_ne_nil {fields : Fields} (h : fields ≠ []) :
    template (.obj fields) = (slide (.obj fields)).bind fun s => .pure (some s) := by
  have hgiven : (Json.obj fields).isGiven = true := by simpa [isGiven] using h
  rw [template, if_pos hgiven]
  rfl

theorem template_of_not_given {v : Json} (h : v.isGiven = false) :
    template v = Report.pure none := by
  rw [template, if_neg (by simp [h])]
  rfl

/-! ## Dumps -/

/-- The dump is the object, or wraps it in the field `presentation`: it counts as a wrapper if
it has that field and no field `slides`. -/
inductive HasRoot : Json → Fields → Prop
  | bare {fields : Fields} : lookup "presentation" fields = none ∨ lookup "slides" fields ≠ none →
      HasRoot (.obj fields) fields
  | wrapped {outer fields : Fields} : lookup "presentation" outer = some (.obj fields) →
      lookup "slides" outer = none → HasRoot (.obj outer) fields

theorem HasRoot.exists_root {dump : Json} {fields : Fields} (h : HasRoot dump fields) :
    ∃ outer, dump = .obj outer ∧ root outer = .obj fields := by
  cases h with
  | bare h =>
    refine ⟨fields, rfl, ?_⟩
    unfold root
    split
    · rename_i hp hs
      exact absurd h (by simp [hp, hs])
    · rfl
  | wrapped hp hs =>
    refine ⟨_, rfl, ?_⟩
    rw [root, hp, hs]

theorem hasRoot_obj_iff {outer fields : Fields} :
    HasRoot (.obj outer) fields ↔ root outer = .obj fields := by
  constructor
  · intro h
    obtain ⟨_, houter, hroot⟩ := h.exists_root
    rwa [Json.obj.inj houter]
  · intro h
    unfold root at h
    split at h
    · rename_i inner hp hs
      subst h
      exact .wrapped hp hs
    · rename_i hnot
      obtain rfl := Json.obj.inj h
      refine .bare (Classical.or_iff_not_imp_right.mpr fun hs => ?_)
      rw [Option.eq_none_iff_forall_ne_some]
      exact fun inner hp => hnot inner hp (not_not.mp hs)

theorem presentation_of_lacks {dump : Json} {fields : Fields} (hroot : HasRoot dump fields)
    (h : Lacks fields "slides") :
    presentation dump = .fail (.missingField (owner fields) "slides") := by
  obtain ⟨outer, rfl, hnode⟩ := hroot.exists_root
  rw [presentation, hnode, require_obj_of_lacks h]
  rfl

theorem presentation_of_slides {dump : Json} {fields : Fields} (hroot : HasRoot dump fields)
    {ss : List Fields} (h : field fields "slides" = .arr (ss.map .obj)) :
    presentation dump = (Report.each (fun f => slide (.obj f)) ss).bind fun slides =>
      (template (field fields "template")).bind fun template =>
        (Report.ofExcept (metadata (field fields "metadata"))).bind fun metadata =>
          (Report.note (.deckLoaded slides.length template.isSome metadata)).bind fun _ =>
            .pure ⟨slides, template, metadata⟩ := by
  obtain ⟨outer, rfl, hnode⟩ := hroot.exists_root
  rw [presentation, hnode, require_obj_of_eq h (by simp), ← Report.each_map]
  rfl

end Deck.Dump
