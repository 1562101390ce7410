import Deck.Proofs.Dump.Shape
import Deck.Proofs.Render.Kinds

/-!
# Fields that are not known

A dump may carry more than is read from it: whoever writes it puts fields of its own into the
nodes.  `Annotated` says that a value has got such fields, in any of its objects and at any depth.
A node is asked for fields by their names only, so it does not notice the others, with one
exception: an object without fields does not count as given.

* `Extended.lookup_cases`: fields that are known are found as before.
* `require_annotated`, `elementOfType_annotated`, `line_annotated`, `slide_annotated`: nodes of the
  right shape are read as before, and refused with the same fault.
* `presentation_annotated`: **fields that are not known make no difference**.
-/

namespace Deck.Dump

open Json

/-! ## Values with further fields -/

/-- The names of the fields that are read. -/
def knownNames : List String :=
  ["$type", "presentation", "slides", "template", "metadata", "title", "author", "blocks", "lines",
    "media", "level", "text", "items", "url", "alt", "content", "element", "style"]

theorem leafNames_subset : leafNames ⊆ knownNames := by decide

/-- Fields with new ones among them.  The old ones keep their names and their order, what they
hold is related, and the names of the new ones are not known. -/
inductive Extended (R : Json → Json → Prop) : Fields → Fields → Prop
  | nil : Extended R [] []
  | kept {name : String} {v w : Json} {fs gs : Fields} : R v w → Extended R fs gs →
      Extended R ((name, v) :: fs) ((name, w) :: gs)
  | added {name : String} {w : Json} {fs gs : Fields} : name ∉ knownNames → Extended R fs gs →
      Extended R fs ((name, w) :: gs)

/-- The value with new fields in some of its objects. -/
inductive Annotated : Json → Json → Prop
  | same (v : Json) : Annotated v v
  | arr {vs ws : List Json} : List.Forall₂ Annotated vs ws → Annotated (.arr vs) (.arr ws)
  | obj {fs gs : Fields} : Extended Annotated fs gs → Annotated (.obj fs) (.obj gs)

theorem Extended.refl {R : Json → Json → Prop} (hR : ∀ v, R v v) (fs : Fields) :
    Extended R fs fs := by
  induction fs with
  | nil => exact .nil
  | cons f fs ih => exact .kept (hR f.2) ih

theorem Extended.ne_nil {R : Json → Json → Prop} {fs gs : Fields} (h : Extended R fs gs)
    (hfs : fs ≠ []) : gs ≠ [] := by
  cases h with
  | nil => exact hfs
  | kept => exact List.cons_ne_nil _ _
  | added => exact List.cons_ne_nil _ _

/-- **Fields that are known are found as before.** -/
theorem Extended.lookup_cases {R : Json → Json → Prop} {fs gs : Fields} (h : Extended R fs gs)
    (name : String) (hname : name ∈ knownNames) :
    lookup name fs = none ∧ lookup name gs = none ∨
      ∃ v w, lookup name fs = some v ∧ lookup name gs = some w ∧ R v w := by
  induction h with
  | nil => exact Or.inl ⟨rfl, rfl⟩
  | kept hvw _ ih =>
    rw [lookup, lookup]
    split
    · exact Or.inr ⟨_, _, rfl, rfl, hvw⟩
    · exact ih
  | @added k w fs gs hk _ ih =>
    have hne : k ≠ name := fun h => hk (h ▸ hname)
    rwa [show lookup name ((k, w) :: gs) = lookup name gs from if_neg hne]

theorem annotated_arr_iff {vs : List Json} {w : Json} :
    Annotated (.arr vs) w ↔ ∃ ws, w = .arr ws ∧ List.Forall₂ Annotated vs ws := by
  constructor
  · rintro (_ | h)
    · exact ⟨vs, rfl, List.forall₂_same.mpr fun v _ => .same v⟩
    · exact ⟨_, rfl, h⟩
  · rintro ⟨ws, rfl, h⟩
    exact .arr h

theorem annotated_obj_iff {fs : Fields} {w : Json} :
    Annotated (.obj fs) w ↔ ∃ gs, w = .obj gs ∧ Extended Annotated fs gs := by
  constructor
  · rintro (_ | _ | h)
    · exact ⟨fs, rfl, .refl .same fs⟩
    · exact ⟨_, rfl, h⟩
  · rintro ⟨gs, rfl, h⟩
    exact .obj h

theorem Annotated.eq_of_isLeaf {v w : Json} (h : Annotated v w) (hv : isLeaf v = true) :
    w = v := by
  cases h with
  | same => rfl
  | arr => cases hv
  | obj => cases hv

/-- A text is found in an array with new fields if it was there before. -/
theorem str_mem_iff_of_annotated {vs ws : List Json} (h : List.Forall₂ Annotated vs ws)
    (s : String) : Json.str s ∈ ws ↔ .str s ∈ vs := by
  have hstr : ∀ {v w : Json}, Annotated v w → (Json.str s = w ↔ .str s = v) := by
    rintro v w (_ | _ | _)
    · exact Iff.rfl
    · simp
    · simp
  induction h with
  | nil => exact Iff.rfl
  | cons hvw _ ih =>
    rw [List.mem_cons, List.mem_cons]
    exact or_congr (hstr hvw) ih

/-- A value that is no object is asked for a field in vain, as before. -/
theorem exists_require_error {v w : Json} (h : Annotated v w) (hv : ∀ fs, v ≠ .obj fs)
    (name : String) : ∃ e, require v name = .error e ∧ require w name = .error e := by
  cases h with
  | same =>
    cases v with
    | obj fs => exact absurd rfl (hv fs)
    | _ => exact ⟨_, rfl, rfl⟩
  | arr h =>
    refine ⟨_, rfl, ?_⟩
    rw [require]
    simp only [List.contains_iff_mem, str_mem_iff_of_annotated h]
  | obj => exact absurd rfl (hv _)

/-! ## Nodes -/

section

variable {fs gs : Fields} (h : Extended Annotated fs gs)
include h

theorem annotated_field (name : String) (hname : name ∈ knownNames) :
    Annotated (field fs name) (field gs name) := by
  rw [field, field]
  obtain ⟨hfs, hgs⟩ | ⟨v, w, hfs, hgs, hvw⟩ := h.lookup_cases name hname
  · rw [hfs, hgs]
    exact .same .null
  · rw [hfs, hgs]
    exact hvw

theorem field_annotated {name : String} (hname : name ∈ knownNames)
    (hleaf : isLeaf (field fs name) = true) : field gs name = field fs name :=
  (annotated_field h name hname).eq_of_isLeaf hleaf

/-- The name of a node in a fault stays the same. -/
theorem owner_annotated (hleaf : isLeaf (field fs "$type") = true) : owner gs = owner fs := by
  rw [owner, owner]
  obtain ⟨hfs, hgs⟩ | ⟨v, w, hfs, hgs, hvw⟩ := h.lookup_cases "$type" (by decide)
  · rw [hfs, hgs]
  · rw [field, hfs] at hleaf
    rw [hfs, hgs, hvw.eq_of_isLeaf hleaf]

theorem require_annotated (htype : isLeaf (field fs "$type") = true) {name : String}
    (hname : name ∈ knownNames) (hleaf : isLeaf (field fs name) = true) :
    require (.obj gs) name = require (.obj fs) name := by
  rw [require_obj, require_obj, field_annotated h hname hleaf, owner_annotated h htype]

variable (hleaves : leavesShape fs = true)
include hleaves

theorem leaf_annotated (name : String) (hname : name ∈ leafNames) :
    field gs name = field fs name :=
  field_annotated h (leafNames_subset hname) (List.all_eq_true.mp hleaves name hname)

theorem requireLeaf_annotated (name : String) (hname : name ∈ leafNames) :
    require (.obj gs) name = require (.obj fs) name :=
  require_annotated h (List.all_eq_true.mp hleaves "$type" (by decide)) (leafNames_subset hname)
    (List.all_eq_true.mp hleaves name hname)

theorem mediaSource_annotated : mediaSource (.obj gs) = mediaSource (.obj fs) := by
  rw [mediaSource, mediaSource, get_obj, get_obj, get_obj, get_obj,
    leaf_annotated h hleaves "url" (by decide), leaf_annotated h hleaves "alt" (by decide),
    requireLeaf_annotated h hleaves "content" (by decide)]

end

theorem exists_map_obj_of_annotated {ls : List Fields} {ws : List Json}
    (h : List.Forall₂ Annotated (ls.map .obj) ws) :
    ∃ ls', ws = ls'.map .obj ∧ List.Forall₂ (Extended Annotated) ls ls' := by
  induction ls generalizing ws with
  | nil =>
    cases h
    exact ⟨[], rfl, .nil⟩
  | cons f ls ih =>
    obtain ⟨w, ws, hw, hrest, rfl⟩ := List.forall₂_cons_left_iff.mp h
    obtain ⟨g, rfl, hg⟩ := annotated_obj_iff.mp hw
    obtain ⟨ls', rfl, hall⟩ := ih hrest
    exact ⟨g :: ls', rfl, .cons hg hall⟩

section

variable {fs gs : Fields} (h : Extended Annotated fs gs)
include h

theorem exists_field_eq_objects {name : String} (hname : name ∈ knownNames) {ls : List Fields}
    (hls : field fs name = .arr (ls.map .obj)) :
    ∃ ls', field gs name = .arr (ls'.map .obj) ∧ List.Forall₂ (Extended Annotated) ls ls' := by
  have hfield := annotated_field h name hname
  rw [hls] at hfield
  obtain ⟨ws, hws, hall⟩ := annotated_arr_iff.mp hfield
  obtain ⟨ls', rfl, hextended⟩ := exists_map_obj_of_annotated hall
  exact ⟨ls', hws, hextended⟩

/-- The objects in a field have got new fields, and they are as many as before. -/
theorem exists_holdsObjects {name : String} (hname : name ∈ knownNames) {p : Fields → Bool}
    (hshape : isArrayOf (isObject p) (field fs name) = true) :
    ∃ ls ls', HoldsObjects fs name ls ∧ HoldsObjects gs name ls' ∧
      List.Forall₂ (fun l l' => p l = true ∧ Extended Annotated l l') ls ls' := by
  obtain ⟨hholds, hall⟩ := holdsObjects_of_shape hshape
  obtain hfield | ⟨hlacks, -⟩ := hholds
  · obtain ⟨ls', hfield', hextended⟩ := exists_field_eq_objects h hname hfield
    exact ⟨_, ls', Or.inl hfield, Or.inl hfield',
      (List.forall₂_and_left _ _).mpr ⟨hall, hextended⟩⟩
  · have hlacks' := (field_annotated h hname (by rw [hlacks]; rfl)).trans hlacks
    exact ⟨[], [], Or.inr ⟨hlacks, rfl⟩, Or.inr ⟨hlacks', rfl⟩, .nil⟩

end

/-! ## Lines -/

theorem listItem_annotated {v w : Json} (hv : itemShape v = true) (h : Annotated v w) :
    listItem w = listItem v := by
  cases v with
  | obj fs =>
    obtain ⟨gs, rfl, hextended⟩ := annotated_obj_iff.mp h
    exact requireLeaf_annotated hextended hv "text" (by decide)
  | str s => rw [h.eq_of_isLeaf rfl]
  | _ => cases hv

theorem mapM_listItem_annotated {vs ws : List Json} (hvs : ∀ v ∈ vs, itemShape v = true)
    (h : List.Forall₂ Annotated vs ws) : ws.mapM listItem = vs.mapM listItem := by
  induction h with
  | nil => rfl
  | cons hvw _ ih =>
    obtain ⟨hv, hvs⟩ := List.forall_mem_cons.mp hvs
    rw [List.mapM_cons, List.mapM_cons, listItem_annotated hv hvw, ih hvs]

section

variable {fs gs : Fields} (h : Extended Annotated fs gs)
include h

theorem elementOfType_annotated (hshape : elementShape fs = true) (type : NodeType) :
    elementOfType (.obj gs) type = elementOfType (.obj fs) type := by
  obtain ⟨hleaves, hitems⟩ := Bool.and_eq_true_iff.mp hshape
  have hrequire := requireLeaf_annotated h hleaves
  cases type with
  | heading =>
    rw [elementOfType, elementOfType, hrequire "level" (by decide), hrequire "text" (by decide)]
  | paragraph => rw [elementOfType, elementOfType, hrequire "text" (by decide)]
  | quote => rw [elementOfType, elementOfType, hrequire "text" (by decide)]
  | list kind =>
    obtain hnull | ⟨vs, hvs, hall⟩ := isArrayOf_iff.mp hitems
    · have htype : isLeaf (field fs "$type") = true := List.all_eq_true.mp hleaves _ (by decide)
      rw [elementOfType, elementOfType,
        require_annotated h htype (by decide) (by rw [hnull]; rfl)]
    · have hfield := annotated_field h "items" (by decide)
      rw [hvs] at hfield
      obtain ⟨ws, hws, hvw⟩ := annotated_arr_iff.mp hfield
      rw [elementOfType, elementOfType, require_obj_of_eq hws (by simp),
        require_obj_of_eq hvs (by simp)]
      show (ws.mapM listItem >>= _) = (vs.mapM listItem >>= _)
      rw [mapM_listItem_annotated hall hvw]
  | media => rw [elementOfType, elementOfType, mediaSource_annotated h hleaves]
  | code => rw [elementOfType, elementOfType, hrequire "content" (by decide)]

theorem element_annotated (hshape : elementShape fs = true) :
    element (.obj gs) = element (.obj fs) := by
  have htype := leaf_annotated h (Bool.and_eq_true_iff.mp hshape).1 "$type" (by decide)
  rw [element, element, get_obj, get_obj, htype, funext (elementOfType_annotated h hshape)]

/-- **A line is read as before.** -/
theorem line_annotated (hshape : lineShape fs = true) : line (.obj gs) = line (.obj fs) := by
  obtain ⟨helement, hinner⟩ := Bool.and_eq_true_iff.mp hshape
  have hleaves := (Bool.and_eq_true_iff.mp helement).1
  have hsame := leaf_annotated h hleaves "$type" (by decide)
  by_cases hstyled : field fs "$type" = styledType
  · have hfield := annotated_field h "element" (by decide)
    obtain hnull | ⟨inner, hobj, hshape⟩ := isObjectIfAny_iff.mp hinner
    · rw [hnull] at hfield
      rw [line_of_lacks_element hstyled hnull,
        line_of_lacks_element (hsame.trans hstyled) (hfield.eq_of_isLeaf rfl),
        owner_annotated h (List.all_eq_true.mp hleaves _ (by decide))]
    · -- The style block and the node within it have got new fields, each of them its own.
      rw [hobj] at hfield
      obtain ⟨inner', hobj', hextended⟩ := annotated_obj_iff.mp hfield
      have htype := leaf_annotated hextended (Bool.and_eq_true_iff.mp hshape).1 "$type" (by decide)
      have hstyle : styleOf gs = styleOf fs := by
        rw [styleOf, styleOf, leaf_annotated h hleaves "style" (by decide)]
      rw [line_of_element hstyled hobj, line_of_element (hsame.trans hstyled) hobj', hstyle, htype,
        element_annotated hextended hshape]
  · rw [line_of_ne hstyled, line_of_ne (hsame ▸ hstyled), hsame, element_annotated h helement]

end

/-! ## Slides -/

section

variable {fs gs : Fields} (h : Extended Annotated fs gs)
include h

theorem block_annotated (hshape : blockShape fs = true) : block (.obj gs) = block (.obj fs) := by
  obtain ⟨hlines, hmedia⟩ := Bool.and_eq_true_iff.mp hshape
  obtain ⟨ls, ls', hls, hls', hl⟩ := exists_holdsObjects h (by decide) hlines
  obtain ⟨ms, ms', hms, hms', hm⟩ := exists_holdsObjects h (by decide) hmedia
  have hfound : Report.each (fun f => line (.obj f)) (ls' ++ ms') =
      Report.each (fun f => line (.obj f)) (ls ++ ms) :=
    Report.each_congr ((List.rel_append hl hm).imp fun _ _ hl => line_annotated hl.2 hl.1)
  rw [block_of_holds hls hms, block_of_holds hls' hms', hfound]

theorem slide_annotated (hshape : slideShape fs = true) : slide (.obj gs) = slide (.obj fs) := by
  obtain ⟨bs, bs', hbs, hbs', hall⟩ := exists_holdsObjects h (by decide) hshape
  have hblocks : Report.each (fun f => block (.obj f)) bs' =
      Report.each (fun f => block (.obj f)) bs :=
    Report.each_congr (hall.imp fun _ _ hb => block_annotated hb.2 hb.1)
  rw [slide_of_holds hbs, slide_of_holds hbs', hblocks]

end

/-- An object with fields stays one, and what has none must not get any to be read as before. -/
theorem template_annotated {v w : Json} (hv : isObjectIfAny slideShape v = true)
    (h : Annotated v w) (hempty : v = .obj [] → w = .obj []) : template w = template v := by
  obtain rfl | ⟨fs, rfl, hshape⟩ := isObjectIfAny_iff.mp hv
  · rw [h.eq_of_isLeaf rfl]
  · obtain ⟨gs, rfl, hextended⟩ := annotated_obj_iff.mp h
    -- Whether it counts as given hangs on whether it has any field, known or not.
    by_cases hfs : fs = []
    · subst hfs
      rw [hempty rfl]
    · rw [template_of_ne_nil hfs, template_of_ne_nil (hextended.ne_nil hfs),
        slide_annotated hextended hshape]

/-- A template without fields is none, and with a field that is not known it is one. -/
example : (template (.obj [])).outcome = .ok none ∧
    (template (.obj [("theme", .null)])).outcome = .ok (some ⟨[]⟩) := ⟨rfl, rfl⟩

@[inherit_doc template_annotated]
theorem metadata_annotated {v w : Json} (hv : isObjectIfAny leavesShape v = true)
    (h : Annotated v w) (hempty : v = .obj [] → w = .obj []) : metadata w = metadata v := by
  obtain rfl | ⟨fs, rfl, hleaves⟩ := isObjectIfAny_iff.mp hv
  · rw [h.eq_of_isLeaf rfl]
  · obtain ⟨gs, rfl, hextended⟩ := annotated_obj_iff.mp h
    have hfield := leaf_annotated hextended hleaves
    by_cases hfs : fs = []
    · subst hfs
      rw [hempty rfl]
    · have hgiven : ∀ {fields : Fields}, fields ≠ [] → (Json.obj fields).isGiven = true := by
        simp [isGiven]
      rw [metadata, metadata, if_pos (hgiven hfs), if_pos (hgiven (hextended.ne_nil hfs)), get_obj,
        get_obj, get_obj, get_obj, hfield "title" (by decide), hfield "author" (by decide)]

/-! ## Dumps -/

theorem root_annotated {fs gs : Fields} (h : Extended Annotated fs gs) :
    Annotated (root fs) (root gs) := by
  rw [root, root]
  obtain ⟨hfs, hgs⟩ | ⟨v, w, hfs, hgs, hvw⟩ := h.lookup_cases "presentation" (by decide)
  · rw [hfs, hgs]
    exact .obj h
  · obtain ⟨hfs', hgs'⟩ | ⟨v', w', hfs', hgs', -⟩ := h.lookup_cases "slides" (by decide)
    · rw [hfs, hgs, hfs', hgs']
      exact hvw
    · rw [hfs, hgs, hfs', hgs']
      exact .obj h

theorem presentation_of_require_error {outer : Fields} {e : Fault}
    (h : require (root outer) "slides" = .error e) : presentation (.obj outer) = .fail e := by
  rw [presentation, h]
  rfl

theorem presentation_extended {dump dump' : Json} {fs gs : Fields} (hroot : HasRoot dump fs)
    (hroot' : HasRoot dump' gs) (h : Extended Annotated fs gs) (hshape : deckShape fs = true)
    (htype : isLeaf (field fs "$type") = true)
    (hempty : ∀ name ∈ ["template", "metadata"], field fs name = .obj [] →
      field gs name = .obj []) : presentation dump' = presentation dump := by
  obtain ⟨hleft, hmetadata⟩ := Bool.and_eq_true_iff.mp hshape
  obtain ⟨hslides, htemplate⟩ := Bool.and_eq_true_iff.mp hleft
  obtain ⟨hholds, hall⟩ := holdsObjects_of_shape hslides
  obtain hfield | ⟨hlacks, -⟩ := hholds
  · obtain ⟨ss, hfield', hextended⟩ := exists_field_eq_objects h (by decide) hfield
    have hslides : Report.each (fun f => slide (.obj f)) ss =
        Report.each (fun f => slide (.obj f)) (objects (field fs "slides")) :=
      Report.each_congr (((List.forall₂_and_left _ _).mpr ⟨hall, hextended⟩).imp
        fun _ _ hs => slide_annotated hs.2 hs.1)
    rw [presentation_of_slides hroot hfield, presentation_of_slides hroot' hfield', hslides,
      template_annotated htemplate (annotated_field h _ (by decide)) (hempty "template" (by decide)),
      metadata_annotated hmetadata (annotated_field h _ (by decide)) (hempty "metadata" (by decide))]
  · have hlacks' := (field_annotated h (by decide) (by rw [hlacks]; rfl)).trans hlacks
    rw [presentation_of_lacks hroot hlacks, presentation_of_lacks hroot' hlacks',
      owner_annotated h htype]

/-- **Fields that are not known make no difference** to what a dump of the right shape is read as,
be it a deck or a fault, and none to its page.  They may stand anywhere, but for a template and
for metadata that have no fields at all. -/
theorem presentation_annotated {dump dump' : Json} (h : Annotated dump dump')
    (hshape : ∀ fields, HasRoot dump fields →
      deckShape fields = true ∧ isLeaf (field fields "$type") = true)
    (hempty : ∀ fields fields', HasRoot dump fields → HasRoot dump' fields' →
      ∀ name ∈ ["template", "metadata"], field fields name = .obj [] →
        field fields' name = .obj []) :
    presentation dump' = presentation dump ∧
      ∀ shell, Render.compiled dump' shell = Render.compiled dump shell := by
  suffices hsame : presentation dump' = presentation dump from
    ⟨hsame, fun shell => by rw [Render.compiled, Render.compiled, hsame]⟩
  cases h with
  | same => rfl
  | arr => rfl
  | @obj outer outer' houter =>
    have hnode := root_annotated houter
    by_cases hobject : ∃ fields, root outer = .obj fields
    · obtain ⟨fields, hfields⟩ := hobject
      rw [hfields] at hnode
      obtain ⟨fields', hfields', hextended⟩ := annotated_obj_iff.mp hnode
      have hroot := hasRoot_obj_iff.mpr hfields
      have hroot' := hasRoot_obj_iff.mpr hfields'
      obtain ⟨hdeck, htype⟩ := hshape fields hroot
      exact presentation_extended hroot hroot' hextended hdeck htype
        (hempty fields fields' hroot hroot')
    · -- The wrapper holds no object, and what it holds has no slides either way.
      obtain ⟨e, he, he'⟩ := exists_require_error hnode (not_exists.mp hobject) "slides"
      rw [presentation_of_require_error he, presentation_of_require_error he']

/-- A list with an item of its own and one that is a text. -/
def listLine : Json :=
  .obj [("$type", .str "PointedList"), ("items", .arr [.obj [("text", .str "a")], .str "b"])]

/-- The same list, with new fields in it and in its first item. -/
def markedLine : Json :=
  .obj [("$type", .str "PointedList"), ("range", .arr [.int 1, .int 2]),
    ("items", .arr [.obj [("text", .str "a"), ("bullet", .str "-")], .str "b"])]

/-- A deck of the list, with a template that counts as none and a title. -/
def listFields : Fields :=
  [("slides", .arr [.obj [("blocks", .arr [.obj [("lines", .arr [listLine])]])]]),
    ("template", .obj []), ("metadata", .obj [("title", .str "T")])]

/-- The same deck, with new fields in all of its objects but the template. -/
def markedFields : Fields :=
  [("$container", .null), ("slides", .arr [.obj [("index", .int 0),
      ("blocks", .arr [.obj [("lines", .arr [markedLine]), ("index", .int 0)]])]]),
    ("template", .obj []), ("metadata", .obj [("title", .str "T"), ("date", .str "")])]

theorem listFields_marked : Extended Annotated listFields markedFields := by
  have hitem : Annotated (.obj [("text", .str "a")])
      (.obj [("text", .str "a"), ("bullet", .str "-")]) :=
    .obj (.kept (.same _) (.added (by decide) .nil))
  have hline : Annotated listLine markedLine :=
    .obj (.kept (.same _) (.added (by decide)
      (.kept (.arr (.cons hitem (.cons (.same _) .nil))) .nil)))
  have hblock : Annotated (.obj [("lines", .arr [listLine])])
      (.obj [("lines", .arr [markedLine]), ("index", .int 0)]) :=
    .obj (.kept (.arr (.cons hline .nil)) (.added (by decide) .nil))
  have hmetadata : Annotated (.obj [("title", .str "T")])
      (.obj [("title", .str "T"), ("date", .str "")]) :=
    .obj (.kept (.same _) (.added (by decide) .nil))
  refine .added (by decide) (.kept (.arr (.cons (.obj ?_) .nil))
    (.kept (.same _) (.kept hmetadata .nil)))
  exact .added (by decide) (.kept (.arr (.cons hblock .nil)) .nil)

theorem markedDump_read :
    Annotated (.obj [("presentation", .obj listFields)])
        (.obj [("presentation", .obj markedFields), ("version", .str "1")]) ∧
      deckShape listFields = true ∧
      presentation (.obj [("presentation", .obj markedFields), ("version", .str "1")]) =
        presentation (.obj [("presentation", .obj listFields)]) ∧
      (presentation (.obj [("presentation", .obj listFields)])).outcome =
        .ok ⟨[⟨[⟨[.plain (.list .unordered [.str "a", .str "b"])]⟩]⟩], none,
          some ⟨some (.str "T"), none⟩⟩ := by
  have hmarked : Annotated (.obj [("presentation", .obj listFields)])
      (.obj [("presentation", .obj markedFields), ("version", .str "1")]) :=
    .obj (.kept (.obj listFields_marked) (.added (by decide) .nil))
  have hshape : deckShape listFields = true := by decide
  refine ⟨hmarked, hshape, (presentation_annotated hmarked ?_ ?_).1, by decide +kernel⟩
  · intro fields hroot
    obtain rfl := Json.obj.inj (hasRoot_obj_iff.mp hroot)
    exact ⟨hshape, rfl⟩
  · intro fields fields' hroot hroot'
    obtain rfl := Json.obj.inj (hasRoot_obj_iff.mp hroot)
    obtain rfl := Json.obj.inj (hasRoot_obj_iff.mp hroot')
    decide

end Deck.Dump
