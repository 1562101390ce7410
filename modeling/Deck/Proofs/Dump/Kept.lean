import Deck.Proofs.Dump.Kinds
import Deck.Proofs.Dump.RoundTrip

/-!
# What is kept of a dump

Of a dump of the right shape that is not refused, the nodes of unknown type are dropped, with a
warning for each, and nothing else is.  So such nodes may stand anywhere among the lines of a
block without a change to the deck.

* `Dropped`: the nodes that are dropped, with a style block or without one.
* `LineModel`, `BlockModel`, `DeckModel`: what the other nodes stand for.
* `line_of_dropped`, `line_of_model`: how a node of either sort is read.
* `lineModel_of_not_dropped`: there is no third sort, except for nodes that are refused.
* `line_tallies`, `slide_tallies`, `presentation_tallies`: what is read from a part of a dump, and
  how many warnings are given.
* `outcome_of_sameDeck`: the deck does not hang on the nodes that are dropped.
* `presentation_conserved`: **unknown lines are dropped, and nothing else is**.
-/

namespace Deck.Dump

open Json Text

/-! ## Nodes that are dropped -/

theorem isElement_iff {fields : Fields} :
    isElement fields = true ↔ ∃ type, HasType fields type := by
  simp only [HasType, ← NodeType.ofName?_eq_some_iff]
  rw [isElement]
  cases field fields "$type" with
  | str name => simp [Option.isSome_iff_exists]
  | _ => simp

/-- The type of the node is missing or null, or a string that is no name of a type. -/
def Unknown (fields : Fields) : Prop :=
  isLeaf (field fields "$type") = true ∧ field fields "$type" ≠ styledType ∧
    ∀ type, ¬HasType fields type

instance (fields : Fields) : Decidable (Unknown fields) :=
  decidable_of_iff (isLeaf (field fields "$type") = true ∧ field fields "$type" ≠ styledType ∧
    ¬isElement fields = true) <| by rw [isElement_iff, not_exists, Unknown]

/-- The node is dropped: its type is unknown, or it is a style block around a node of unknown
type. -/
def Dropped (fields : Fields) : Prop :=
  Unknown fields ∨ field fields "$type" = styledType ∧
    ∃ inner, field fields "element" = .obj inner ∧ Unknown inner

instance (fields : Fields) : Decidable (Dropped fields) :=
  decidable_of_iff (Unknown fields ∨ field fields "$type" = styledType ∧
    isObject (fun inner => Unknown inner) (field fields "element") = true) <| by
      simp only [isObject_iff, decide_eq_true_eq, Dropped]

/-- The nodes that are not dropped. -/
def kept (nodes : List Fields) : List Fields := nodes.filter fun f => ¬Dropped f

theorem kept_append (ls ms : List Fields) : kept (ls ++ ms) = kept ls ++ kept ms :=
  List.filter_append ..

theorem kept_cons_of_dropped {fields : Fields} (h : Dropped fields) (nodes : List Fields) :
    kept (fields :: nodes) = kept nodes :=
  List.filter_cons_of_neg (by simpa using h)

theorem kept_cons_of_not_dropped {fields : Fields} (h : ¬Dropped fields) (nodes : List Fields) :
    kept (fields :: nodes) = fields :: kept nodes :=
  List.filter_cons_of_pos (by simpa using h)

/-- A node that is dropped gives a warning and no line. -/
theorem line_of_dropped {fields : Fields} (h : Dropped fields) :
    ∃ n : Notice, n.severity = .warning ∧ line (.obj fields) = ⟨[n], .ok none⟩ := by
  rcases h with ⟨hleaf, hstyled, hnone⟩ | ⟨htype, inner, hfield, hleaf, hstyled, hnone⟩
  · refine ⟨.unknownNode (field fields "$type"), rfl, ?_⟩
    rw [line_of_ne hstyled, element_of_unknown (isLeaf_iff.mp hleaf) hnone]
    rfl
  · refine ⟨.unknownStyledNode (field inner "$type"), rfl, ?_⟩
    rw [line_of_element htype hfield, if_neg hstyled,
      element_of_unknown (isLeaf_iff.mp hleaf) hnone]
    rfl

/-! ## What a node stands for -/

/-- The element that a node of known type stands for. -/
inductive ElementModel : Fields → Element String → Prop
  | dump {fields : Fields} {e : Element String} : ElementDump fields e → ElementModel fields e
  /-- A locator may stand in quotes, or in blanks, or in neither. -/
  | located {fields : Fields} {url : String} {alt : Option String} : HasType fields .media →
      field fields "url" = .str url → field fields "alt" = optional alt →
      ElementModel fields (.media (.located (String.ofList (unquote (trim url.toList))) alt))

/-- The line that a node stands for.  A style block that is missing is the empty one. -/
inductive LineModel : Fields → Line String → Prop
  | plain {fields : Fields} {e : Element String} : ElementModel fields e →
      LineModel fields (.plain e)
  | styled {fields inner : Fields} {e : Element String} {style : Option String} :
      field fields "$type" = styledType → field fields "element" = .obj inner →
      ElementModel inner e → field fields "style" = optional style →
      LineModel fields (.styled (.plain e) (some (style.getD "")))

/-- A block has the lines that are kept of the field `lines`, and then of the field `media`. -/
def BlockModel (fields : Fields) (b : Block String) : Prop :=
  List.Forall₂ LineModel (kept (blockLines fields)) b.lines

/-- A slide has a block for each object. -/
def SlideModel (fields : Fields) (s : Slide String) : Prop :=
  List.Forall₂ BlockModel (objects (field fields "blocks")) s.blocks

/-- An object without fields counts as none. -/
inductive TemplateModel : Json → Option (Slide String) → Prop
  | none {v : Json} : v.isGiven = false → TemplateModel v none
  | some {fields : Fields} {s : Slide String} : fields ≠ [] → SlideModel fields s →
      TemplateModel (.obj fields) (some s)

@[inherit_doc TemplateModel]
inductive MetadataModel : Json → Option (Metadata String) → Prop
  | none {v : Json} : v.isGiven = false → MetadataModel v none
  | some {fields : Fields} {m : Metadata String} : fields ≠ [] →
      field fields "title" = optional m.title → field fields "author" = optional m.author →
      MetadataModel (.obj fields) (some m)

/-- A deck has a slide for each object. -/
structure DeckModel (fields : Fields) (p : Presentation String) : Prop where
  slides : List.Forall₂ SlideModel (objects (field fields "slides")) p.slides
  template : TemplateModel (field fields "template") p.template
  metadata : MetadataModel (field fields "metadata") p.metadata

theorem ElementModel.ne_styledType {fields : Fields} {e : Element String}
    (h : ElementModel fields e) : field fields "$type" ≠ styledType := by
  cases h with
  | dump h => exact h.ne_styledType
  | located htype => exact htype.ne_styledType

theorem element_of_model {fields : Fields} {e : Element String} (h : ElementModel fields e) :
    element (.obj fields) = .ok (some (e.map .str)) := by
  cases h with
  | dump h => exact element_of_dump h
  | located htype hurl halt =>
    rw [element_of_hasType htype, elementOfType, mediaSource_of_url hurl, halt,
      toOption_optional]
    rfl

theorem styleOf_optional {fields : Fields} {style : Option String}
    (h : field fields "style" = optional style) : styleOf fields = .str (style.getD "") := by
  cases style with
  | none =>
    rw [styleOf, h]
    rfl
  | some s => exact styleOf_str h

/-- A node that stands for a line is read as this line, without a notice. -/
theorem line_of_model {fields : Fields} {l : Line String} (h : LineModel fields l) :
    line (.obj fields) = Report.pure (some (l.map .str)) := by
  cases h with
  | plain he =>
    rw [line_of_ne he.ne_styledType, element_of_model he]
    rfl
  | styled htype hinner he hstyle =>
    rw [line_of_element htype hinner, if_neg he.ne_styledType, element_of_model he,
      styleOf_optional hstyle]
    rfl

/-! ## Nodes are dropped or stand for lines -/

theorem exists_optional {v : Json} (h : v = .null ∨ ∃ s, v = .str s) :
    ∃ a, v = optional a := by
  obtain rfl | ⟨s, rfl⟩ := h
  · exact ⟨none, rfl⟩
  · exact ⟨some s, rfl⟩

/-- A leaf that is not missing is a string. -/
theorem exists_str {fields : Fields} (h : leavesShape fields = true) {name : String}
    (hname : name ∈ leafNames) (hgiven : ¬Lacks fields name) :
    ∃ s, field fields name = .str s :=
  (leaf_of_shape h name hname).resolve_left hgiven

theorem exists_itemDumps {values : List Json} (hshape : ∀ v ∈ values, itemShape v = true)
    (htext : ∀ item, Json.obj item ∈ values → ¬Lacks item "text") :
    ∃ texts, List.Forall₂ ItemDump values texts := by
  induction values with
  | nil => exact ⟨[], .nil⟩
  | cons v values ih =>
    obtain ⟨texts, htexts⟩ := ih (fun x hx => hshape x (List.mem_cons_of_mem v hx))
      fun item hitem => htext item (List.mem_cons_of_mem v hitem)
    have hv := hshape v List.mem_cons_self
    cases v with
    | str s => exact ⟨s :: texts, .cons (.text s) htexts⟩
    | obj fields =>
      obtain ⟨s, hs⟩ := exists_str hv (by decide) (htext fields List.mem_cons_self)
      exact ⟨s :: texts, .cons (.object hs) htexts⟩
    | _ => simp [itemShape, isObject] at hv

/-- An element of known type that lacks nothing. -/
theorem exists_elementModel {fields : Fields} (h : elementShape fields = true) {type : NodeType}
    (htype : HasType fields type) (hdef : ¬DeficientAs fields type) :
    ∃ e, ElementModel fields e := by
  obtain ⟨hleaves, hitems⟩ := Bool.and_eq_true_iff.mp h
  cases type with
  | heading =>
    obtain ⟨hlevel, htext⟩ := not_or.mp hdef
    obtain ⟨level, hlevel⟩ := exists_str hleaves (by decide) hlevel
    obtain ⟨text, htext⟩ := exists_str hleaves (by decide) htext
    exact ⟨_, .dump (.heading htype hlevel htext)⟩
  | paragraph =>
    obtain ⟨text, htext⟩ := exists_str hleaves (by decide) hdef
    exact ⟨_, .dump (.paragraph htype htext)⟩
  | quote =>
    obtain ⟨text, htext⟩ := exists_str hleaves (by decide) hdef
    exact ⟨_, .dump (.quote htype htext)⟩
  | list kind =>
    obtain ⟨hgiven, htexts⟩ := not_or.mp hdef
    obtain ⟨values, hvalues, hall⟩ := (isArrayOf_iff.mp hitems).resolve_left hgiven
    rw [hvalues] at htexts
    obtain ⟨texts, htexts⟩ := exists_itemDumps hall fun item hitem hlacks =>
      htexts ⟨item, mem_objects.mpr hitem, hlacks⟩
    exact ⟨_, .dump (.list htype hvalues htexts)⟩
  | media =>
    obtain ⟨alt, halt⟩ := exists_optional (leaf_of_shape hleaves "alt" (by decide))
    obtain hurl | ⟨url, hurl⟩ := leaf_of_shape hleaves "url" (by decide)
    · obtain ⟨content, hcontent⟩ := exists_str hleaves (by decide) fun hlacks => hdef ⟨hurl, hlacks⟩
      exact ⟨_, .dump (.written htype hurl hcontent)⟩
    · exact ⟨_, .located htype hurl halt⟩
  | code =>
    obtain ⟨content, hcontent⟩ := exists_str hleaves (by decide) hdef
    exact ⟨_, .dump (.code htype hcontent)⟩

/-- A node that is not of unknown type is of a known one. -/
theorem exists_hasType {fields : Fields} (h : elementShape fields = true)
    (hstyled : field fields "$type" ≠ styledType) (hunknown : ¬Unknown fields) :
    ∃ type, HasType fields type := by
  by_contra hnone
  have hleaf := leaf_of_shape (Bool.and_eq_true_iff.mp h).1 "$type" (by decide)
  exact hunknown ⟨isLeaf_iff.mpr hleaf, hstyled, not_exists.mp hnone⟩

/-- **A node that is not refused is dropped or stands for a line.** -/
theorem lineModel_of_not_dropped {fields : Fields} (h : lineShape fields = true)
    (hdef : ¬DeficientLine fields) (hdropped : ¬Dropped fields) : ∃ l, LineModel fields l := by
  obtain ⟨hshape, hinner⟩ := Bool.and_eq_true_iff.mp h
  by_cases htype : field fields "$type" = styledType
  · obtain hnull | ⟨inner, hfield, hinner⟩ := isObjectIfAny_iff.mp hinner
    · exact absurd (.hollow htype hnull) hdef
    have hne : field inner "$type" ≠ styledType := fun hnested =>
      hdef (.nested htype hfield hnested)
    obtain ⟨type, hknown⟩ := exists_hasType hinner hne fun hunknown =>
      hdropped (Or.inr ⟨htype, inner, hfield, hunknown⟩)
    obtain ⟨e, he⟩ := exists_elementModel hinner hknown fun hlacks =>
      hdef (.inner htype hfield ⟨type, hknown, hlacks⟩)
    have hleaves := (Bool.and_eq_true_iff.mp hshape).1
    obtain ⟨style, hstyle⟩ := exists_optional (leaf_of_shape hleaves "style" (by decide))
    exact ⟨_, .styled htype hfield he hstyle⟩
  · obtain ⟨type, hknown⟩ := exists_hasType hshape htype fun hunknown =>
      hdropped (Or.inl hunknown)
    obtain ⟨e, he⟩ := exists_elementModel hshape hknown fun hlacks =>
      hdef (.element ⟨type, hknown, hlacks⟩)
    exact ⟨_, .plain he⟩

/-! ## What is read, and how many warnings are given -/

/-- What becomes of a line, and the number of warnings about it. -/
inductive LineRead (fields : Fields) : Option (Line Json) → Nat → Prop
  | dropped : Dropped fields → LineRead fields none 1
  | kept {l : Line String} : ¬Dropped fields → LineModel fields l →
      LineRead fields (some (l.map .str)) 0

theorem line_tallies {fields : Fields} (h : lineShape fields = true) :
    (line (.obj fields)).Tallies Notice.isWarning (LineRead fields) := by
  intro o ho
  by_cases hdropped : Dropped fields
  · obtain ⟨n, hn, hline⟩ := line_of_dropped hdropped
    rw [hline] at ho ⊢
    obtain rfl := Except.ok.inj ho
    rw [List.countP_singleton, if_pos (by simpa [Notice.isWarning] using hn)]
    exact .dropped hdropped
  · -- The line is not refused, so it is not deficient.
    have hdef := line_refusedIff h
    rw [ho] at hdef
    obtain ⟨l, hl⟩ := lineModel_of_not_dropped h hdef hdropped
    rw [line_of_model hl] at ho ⊢
    obtain rfl := Except.ok.inj ho
    exact .kept hdropped hl

/-- The lines of a block: the ones that are kept, and a warning for each other one. -/
theorem exists_of_along_lines {ls : List Fields} {os : List (Option (Line Json))} {n : Nat}
    (h : Report.Along LineRead ls os n) : ∃ ms, List.Forall₂ LineModel (kept ls) ms ∧
      os.filterMap id = ms.map (Line.map .str) ∧ n = ls.countP fun f => Dropped f := by
  induction h with
  | nil => exact ⟨[], .nil, rfl, rfl⟩
  | @cons f o m n ls os hf _ ih =>
    obtain ⟨ms, hms, hos, rfl⟩ := ih
    cases hf with
    | dropped hd =>
      refine ⟨ms, ?_, hos, ?_⟩
      · rwa [kept_cons_of_dropped hd]
      · rw [List.countP_cons_of_pos (by simpa using hd), Nat.add_comm]
    | @kept l hd hl =>
      refine ⟨l :: ms, ?_, ?_, ?_⟩
      · rw [kept_cons_of_not_dropped hd]
        exact .cons hl hms
      · exact congrArg (l.map .str :: ·) hos
      · rw [List.countP_cons_of_neg (by simpa using hd), Nat.zero_add]

/-- What is read from a node is what it stands for, with a warning for each of its lines that is
dropped. -/
def PartRead {β γ : Type} (Model : Fields → β → Prop) (write : β → γ)
    (lines : Fields → List Fields) (fields : Fields) (c : γ) (n : Nat) : Prop :=
  ∃ b, Model fields b ∧ c = write b ∧ n = (lines fields).countP fun f => Dropped f

/-- The parts of a list stand for the parts of what is read, and their warnings add up. -/
theorem exists_of_along {β γ : Type} {Model : Fields → β → Prop} {write : β → γ}
    {lines : Fields → List Fields} {fs : List Fields} {cs : List γ} {n : Nat}
    (h : Report.Along (PartRead Model write lines) fs cs n) :
    ∃ bs, List.Forall₂ Model fs bs ∧ cs = bs.map write ∧
      n = (fs.flatMap lines).countP fun f => Dropped f := by
  induction h with
  | nil => exact ⟨[], .nil, rfl, rfl⟩
  | cons hf _ ih =>
    obtain ⟨b, hb, rfl, rfl⟩ := hf
    obtain ⟨bs, hbs, rfl, rfl⟩ := ih
    refine ⟨b :: bs, .cons hb hbs, rfl, ?_⟩
    rw [List.flatMap_cons, List.countP_append]

theorem block_tallies {fields : Fields} (h : blockShape fields = true) :
    (block (.obj fields)).Tallies Notice.isWarning
      (PartRead BlockModel (Block.map .str) blockLines fields) := by
  obtain ⟨hlines, hmedia⟩ := Bool.and_eq_true_iff.mp h
  obtain ⟨hl, hlall⟩ := holdsObjects_of_shape hlines
  obtain ⟨hm, hmall⟩ := holdsObjects_of_shape hmedia
  rw [block_of_holds hl hm]
  refine (Report.Tallies.each fun f hf => line_tallies ?_).bind_pure fun os n halong => ?_
  · exact (List.mem_append.mp hf).elim (hlall f) (hmall f)
  · obtain ⟨ms, hms, hos, hn⟩ := exists_of_along_lines halong
    exact ⟨⟨ms⟩, hms, congrArg Block.mk hos, hn⟩

theorem slide_tallies {fields : Fields} (h : slideShape fields = true) :
    (slide (.obj fields)).Tallies Notice.isWarning
      (PartRead SlideModel (Slide.map .str) slideLines fields) := by
  obtain ⟨hb, hall⟩ := holdsObjects_of_shape h
  rw [slide_of_holds hb]
  refine (Report.Tallies.each fun f hf => block_tallies (hall f hf)).bind_pure fun bs n halong => ?_
  obtain ⟨ms, hms, rfl, hn⟩ := exists_of_along halong
  exact ⟨⟨ms⟩, hms, rfl, hn⟩

theorem template_tallies {v : Json} (h : isObjectIfAny slideShape v = true) :
    (template v).Tallies Notice.isWarning fun t n => ∃ s, TemplateModel v s ∧
      t = s.map (Slide.map .str) ∧ n = (templateLines v).countP fun f => Dropped f := by
  obtain rfl | ⟨fields, rfl, hslide⟩ := isObjectIfAny_iff.mp h
  · exact .pure ⟨none, .none rfl, rfl, rfl⟩
  · by_cases hempty : fields = []
    · subst hempty
      exact .pure ⟨none, .none rfl, rfl, rfl⟩
    · rw [template_of_ne_nil hempty]
      refine (slide_tallies hslide).bind_pure fun t n ht => ?_
      obtain ⟨s, hs, rfl, hn⟩ := ht
      exact ⟨some s, .some hempty hs, rfl, hn⟩

theorem metadata_of_shape {v : Json} (h : isObjectIfAny leavesShape v = true) :
    ∃ m, MetadataModel v m ∧ metadata v = .ok (m.map (Metadata.map .str)) := by
  obtain rfl | ⟨fields, rfl, hleaves⟩ := isObjectIfAny_iff.mp h
  · exact ⟨none, .none rfl, rfl⟩
  · by_cases hempty : fields = []
    · subst hempty
      exact ⟨none, .none rfl, rfl⟩
    · obtain ⟨title, htitle⟩ := exists_optional (leaf_of_shape hleaves "title" (by decide))
      obtain ⟨author, hauthor⟩ := exists_optional (leaf_of_shape hleaves "author" (by decide))
      exact ⟨some ⟨title, author⟩, .some hempty htitle hauthor,
        metadata_of_dump (.some hempty htitle hauthor)⟩

theorem presentation_tallies {dump : Json} {fields : Fields} (hroot : HasRoot dump fields)
    (hshape : deckShape fields = true) : (presentation dump).Tallies Notice.isWarning fun p n =>
      ∃ q, DeckModel fields q ∧ p = q.map .str ∧
        n = (deckLines fields).countP fun f => Dropped f := by
  obtain ⟨hleft, hmetadata⟩ := Bool.and_eq_true_iff.mp hshape
  obtain ⟨hslides, htemplate⟩ := Bool.and_eq_true_iff.mp hleft
  obtain ⟨hholds, hall⟩ := holdsObjects_of_shape hslides
  obtain hfield | ⟨hlacks, -⟩ := hholds
  · rw [presentation_of_slides hroot hfield]
    obtain ⟨m, hm, hmetadata⟩ := metadata_of_shape hmetadata
    refine (Report.Tallies.each fun f hf => slide_tallies (hall f hf)).bind fun ss k hss => ?_
    obtain ⟨slides, hslides, rfl, rfl⟩ := exists_of_along hss
    refine (template_tallies htemplate).bind fun t n ht => ?_
    obtain ⟨template, htemplate, rfl, rfl⟩ := ht
    rw [hmetadata, Report.ofExcept_ok_bind]
    refine Report.Tallies.bind_of_silent (r := Report.note _) rfl fun _ _ => .pure ?_
    refine ⟨⟨slides, template, m⟩, ⟨hslides, htemplate, hm⟩, rfl, ?_⟩
    rw [deckLines, List.countP_append]
    rfl
  · intro p hp
    rw [presentation_of_lacks hroot hlacks] at hp
    cases hp

/-! ## Dumps that differ in what is dropped -/

/-- The blocks have the same lines, apart from ones that are dropped. -/
def SameBlock (f g : Fields) : Prop :=
  ∃ ls ms ls' ms', HoldsObjects f "lines" ls ∧ HoldsObjects f "media" ms ∧
    HoldsObjects g "lines" ls' ∧ HoldsObjects g "media" ms' ∧
    kept ls = kept ls' ∧ kept ms = kept ms'

/-- The slides have the same blocks, apart from lines that are dropped. -/
def SameSlide (f g : Fields) : Prop :=
  ∃ bs cs, HoldsObjects f "blocks" bs ∧ HoldsObjects g "blocks" cs ∧
    List.Forall₂ SameBlock bs cs

@[inherit_doc SameSlide]
inductive SameTemplate : Json → Json → Prop
  | none {v w : Json} : v.isGiven = false → w.isGiven = false → SameTemplate v w
  | some {f g : Fields} : f ≠ [] → g ≠ [] → SameSlide f g → SameTemplate (.obj f) (.obj g)

/-- The decks differ in nothing but lines that are dropped. -/
structure SameDeck (f g : Fields) : Prop where
  slides : ∃ ss ts, field f "slides" = .arr (ss.map .obj) ∧
    field g "slides" = .arr (ts.map .obj) ∧ List.Forall₂ SameSlide ss ts
  template : SameTemplate (field f "template") (field g "template")
  metadata : field f "metadata" = field g "metadata"

/-- The lines that are read from some nodes. -/
def linesOf (nodes : List Fields) : Except Fault (List (Line Json)) :=
  (Report.each (fun f => line (.obj f)) nodes).outcome.map (List.filterMap id)

theorem linesOf_cons (f : Fields) (nodes : List Fields) : linesOf (f :: nodes) =
    (line (.obj f)).outcome.bind fun o => (linesOf nodes).map (o.toList ++ ·) := by
  rw [linesOf, linesOf, Report.each_cons_outcome]
  cases (line (.obj f)).outcome with
  | error e => rfl
  | ok o =>
    cases (Report.each (fun f => line (.obj f)) nodes).outcome with
    | error e => rfl
    | ok os => cases o <;> rfl

theorem linesOf_cons_of_dropped {f : Fields} (hf : Dropped f) (nodes : List Fields) :
    linesOf (f :: nodes) = linesOf nodes := by
  obtain ⟨n, -, hline⟩ := line_of_dropped hf
  rw [linesOf_cons, hline]
  show (linesOf nodes).map ([] ++ ·) = _
  cases linesOf nodes <;> rfl

/-- **Nodes that are dropped** change nothing of the lines that are read. -/
theorem linesOf_kept (nodes : List Fields) : linesOf (kept nodes) = linesOf nodes := by
  induction nodes with
  | nil => rfl
  | cons f nodes ih =>
    by_cases hf : Dropped f
    · rw [kept_cons_of_dropped hf, linesOf_cons_of_dropped hf, ih]
    · rw [kept_cons_of_not_dropped hf, linesOf_cons, linesOf_cons, ih]

theorem block_outcome {fields : Fields} {ls ms : List Fields}
    (hl : HoldsObjects fields "lines" ls) (hm : HoldsObjects fields "media" ms) :
    (block (.obj fields)).outcome = (linesOf (kept ls ++ kept ms)).map Block.mk := by
  rw [block_of_holds hl hm, Report.bind_pure_outcome, ← kept_append, linesOf_kept, linesOf]
  cases (Report.each (fun f => line (.obj f)) (ls ++ ms)).outcome <;> rfl

theorem outcome_of_sameBlock {f g : Fields} (h : SameBlock f g) :
    (block (.obj f)).outcome = (block (.obj g)).outcome := by
  obtain ⟨ls, ms, ls', ms', hl, hm, hl', hm', hlines, hmedia⟩ := h
  rw [block_outcome hl hm, block_outcome hl' hm', hlines, hmedia]

theorem outcome_of_sameSlide {f g : Fields} (h : SameSlide f g) :
    (slide (.obj f)).outcome = (slide (.obj g)).outcome := by
  obtain ⟨bs, cs, hb, hc, hall⟩ := h
  rw [slide_of_holds hb, slide_of_holds hc, Report.bind_pure_outcome, Report.bind_pure_outcome,
    Report.each_outcome_congr (hall.imp fun _ _ => outcome_of_sameBlock)]

theorem outcome_of_sameTemplate {v w : Json} (h : SameTemplate v w) :
    (template v).outcome = (template w).outcome := by
  cases h with
  | none hv hw => rw [template_of_not_given hv, template_of_not_given hw]
  | some hf hg hs =>
    rw [template_of_ne_nil hf, template_of_ne_nil hg, Report.bind_pure_outcome,
      Report.bind_pure_outcome, outcome_of_sameSlide hs]

theorem outcome_of_sameDeck {dump dump' : Json} {f g : Fields} (hf : HasRoot dump f)
    (hg : HasRoot dump' g) (h : SameDeck f g) :
    (presentation dump').outcome = (presentation dump).outcome := by
  obtain ⟨⟨ss, ts, hss, hts, hslides⟩, htemplate, hmetadata⟩ := h
  rw [presentation_of_slides hf hss, presentation_of_slides hg hts]
  simp only [Report.bind_outcome]
  rw [Report.each_outcome_congr (hslides.imp fun _ _ => outcome_of_sameSlide),
    outcome_of_sameTemplate htemplate, hmetadata]

/-! ## What is kept -/

/-- **Unknown lines are dropped, and nothing else is.**  If a dump of the right shape is not
refused, then each slide, each block and each line of it is kept, in its order and as what it
stands for, but for the lines of unknown type.  There are as many warnings as such lines, and
it makes no difference to the deck which of them the dump holds, and where. -/
theorem presentation_conserved {dump : Json} {fields : Fields} (hroot : HasRoot dump fields)
    (hshape : deckShape fields = true) :
    (∀ p, (presentation dump).outcome = .ok p →
      (∃ q, DeckModel fields q ∧ p = q.map .str) ∧
        (presentation dump).warnings.length = (deckLines fields).countP fun f => Dropped f) ∧
    ∀ dump' fields', HasRoot dump' fields' → SameDeck fields fields' →
      (presentation dump').outcome = (presentation dump).outcome := by
  refine ⟨fun p hp => ?_, fun dump' fields' hroot' hsame => outcome_of_sameDeck hroot hroot' hsame⟩
  obtain ⟨q, hq, hpq, hn⟩ := presentation_tallies hroot hshape p hp
  exact ⟨⟨q, hq, hpq⟩, List.countP_eq_length_filter.symm.trans hn⟩

/-- A deck of one block. -/
def oneBlock (lines media : List Fields) : Fields :=
  [("slides", .arr [.obj [("blocks", .arr [.obj [("lines", .arr (lines.map .obj)),
    ("media", .arr (media.map .obj))]])]])]

/-- A paragraph, and a node that is no line. -/
def mixedLines : List Fields :=
  [[("$type", .str "Paragraph"), ("text", .str "a")], [("$type", .str "Table")]]

/-- A style block around a node without a type, and a picture. -/
def mixedMedia : List Fields :=
  [[("$type", .str "StyledElement"), ("element", .obj [])],
    [("$type", .str "Media"), ("url", .str " b.png ")]]

/-- The dump holds two lines and two nodes that are dropped.  Without these, and with another one
in front, it is read as the same deck. -/
theorem mixedDump_conserved :
    (presentation (.obj (oneBlock mixedLines mixedMedia))).warnings.length = 2 ∧
      (presentation (.obj (oneBlock ([] :: mixedLines.take 1) (mixedMedia.drop 1)))).outcome =
        (presentation (.obj (oneBlock mixedLines mixedMedia))).outcome := by
  have hroot : ∀ ls ms, HasRoot (.obj (oneBlock ls ms)) (oneBlock ls ms) :=
    fun ls ms => .bare (Or.inl rfl)
  obtain ⟨hkept, hsame⟩ := presentation_conserved (hroot mixedLines mixedMedia) (by decide)
  refine ⟨(hkept ⟨[⟨[⟨[.plain (.paragraph (.str "a")),
    .plain (.media (.located (.str "b.png") none))]⟩]⟩], none, none⟩ ?_).2,
    hsame _ _ (hroot _ _) ⟨?_, .none rfl rfl, rfl⟩⟩
  · decide +kernel
  · refine ⟨[_], [_], rfl, rfl, .cons ⟨[_], [_], Or.inl rfl, Or.inl rfl, .cons ?_ .nil⟩ .nil⟩
    exact ⟨_, _, _, _, Or.inl rfl, Or.inl rfl, Or.inl rfl, Or.inl rfl, by decide, by decide⟩

end Deck.Dump
