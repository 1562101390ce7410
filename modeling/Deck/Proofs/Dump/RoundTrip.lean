import Deck.Proofs.Dump.Node

/-!
# Dumps of a deck

`IsDump dump p` says that a dump writes the deck `p`, and leaves open whatever a front end may
choose: the name of a type, the form of a list item, the quotes around a locator, which lines
of a block go to its media, whether the deck is wrapped, the order of fields, and fields that
have no meaning.

* `line_of_dump`, `block_of_dump`, `slide_of_dump`: a part is read from any dump of it, and
  without a notice.
* `exists_lineDump`: a line that a front end may give has a dump.
* `presentation_of_dump`: **every deck has dumps, and each of them is read as that deck.**
-/

namespace Deck

/-! ## What can be written -/

/-- An element that a front end may give: its media are located, or hold a line of text. -/
def Element.Writable {α : Type} : Element α → Prop
  | .media (.written none) => False
  | _ => True

/-- A line that a front end may give: an element, or one with a style block. -/
def Line.Writable {α : Type} : Line α → Prop
  | .plain e => e.Writable
  | .styled (.plain e) (some _) => e.Writable
  | _ => False

/-- A deck of such lines. -/
def Presentation.Writable {α : Type} (p : Presentation α) : Prop :=
  ∀ s ∈ p.sections, ∀ b ∈ s.blocks, ∀ l ∈ b.lines, l.Writable

namespace Dump

open Json Text

/-! ## How it is written -/

/-- A string that may be missing, as it is written in a field. -/
def optional (a : Option String) : Json := a.elim .null .str

/-- An item of a list is written as its text, or as an object that holds it. -/
inductive ItemDump : Json → String → Prop
  | text (s : String) : ItemDump (.str s) s
  | object {fields : Fields} {s : String} : field fields "text" = .str s → ItemDump (.obj fields) s

inductive ElementDump : Fields → Element String → Prop
  | heading {fields : Fields} {level text : String} : HasType fields .heading →
      field fields "level" = .str level → field fields "text" = .str text →
      ElementDump fields (.heading level text)
  | paragraph {fields : Fields} {text : String} : HasType fields .paragraph →
      field fields "text" = .str text → ElementDump fields (.paragraph text)
  | quote {fields : Fields} {text : String} : HasType fields .quote →
      field fields "text" = .str text → ElementDump fields (.quote text)
  | list {fields : Fields} {kind : ListKind} {vs : List Json} {texts : List String} :
      HasType fields (.list kind) → field fields "items" = .arr vs →
      List.Forall₂ ItemDump vs texts → ElementDump fields (.list kind texts)
  | written {fields : Fields} {content : String} : HasType fields .media →
      Lacks fields "url" → field fields "content" = .str content →
      ElementDump fields (.media (.written (some content)))
  /-- A locator stands in quotes of either sort. -/
  | located {fields : Fields} {q url : String} {alt : Option String} : HasType fields .media →
      q = "'" ∨ q = "\"" → field fields "url" = .str (q ++ url ++ q) →
      field fields "alt" = optional alt → ElementDump fields (.media (.located url alt))
  | code {fields : Fields} {content : String} : HasType fields .code →
      field fields "content" = .str content → ElementDump fields (.code content)

inductive LineDump : Fields → Line String → Prop
  | plain {fields : Fields} {e : Element String} : ElementDump fields e →
      LineDump fields (.plain e)
  | styled {fields inner : Fields} {e : Element String} {style : String} :
      field fields "$type" = .str "StyledElement" → field fields "element" = .obj inner →
      ElementDump inner e → field fields "style" = .str style →
      LineDump fields (.styled (.plain e) (some style))

/-- The last lines of a block may be written as its media. -/
def BlockDump (fields : Fields) (b : Block String) : Prop :=
  ∃ ls ms, HoldsObjects fields "lines" ls ∧ HoldsObjects fields "media" ms ∧
    List.Forall₂ LineDump (ls ++ ms) b.lines

def SlideDump (fields : Fields) (s : Slide String) : Prop :=
  ∃ bs, HoldsObjects fields "blocks" bs ∧ List.Forall₂ BlockDump bs s.blocks

/-- An object without fields would count as no template. -/
inductive TemplateDump : Json → Option (Slide String) → Prop
  | none : TemplateDump .null none
  | some {fields : Fields} {s : Slide String} : fields ≠ [] → SlideDump fields s →
      TemplateDump (.obj fields) (some s)

inductive MetadataDump : Json → Option (Metadata String) → Prop
  | none : MetadataDump .null none
  | some {fields : Fields} {m : Metadata String} : fields ≠ [] →
      field fields "title" = optional m.title → field fields "author" = optional m.author →
      MetadataDump (.obj fields) (some m)

structure DeckDump (fields : Fields) (p : Presentation String) : Prop where
  slides : ∃ ss, field fields "slides" = .arr (ss.map .obj) ∧ List.Forall₂ SlideDump ss p.slides
  template : TemplateDump (field fields "template") p.template
  metadata : MetadataDump (field fields "metadata") p.metadata

/-- The dump writes the deck, wrapped or not. -/
def IsDump (dump : Json) (p : Presentation String) : Prop :=
  ∃ fields, HasRoot dump fields ∧ DeckDump fields p

/-! ## Reading a dump -/

theorem toOption_optional (a : Option String) : toOption (optional a) = a.map .str := by
  cases a <;> rfl

theorem listItem_of_dump {v : Json} {s : String} (h : ItemDump v s) :
    listItem v = .ok (.str s) := by
  cases h with
  | text => rfl
  | object htext => exact require_obj_of_eq htext (by simp)

theorem mapM_listItem {vs : List Json} {texts : List String} (h : List.Forall₂ ItemDump vs texts) :
    vs.mapM listItem = .ok (texts.map .str) := by
  induction h with
  | nil => rfl
  | cons hv _ ih =>
    rw [List.mapM_cons, listItem_of_dump hv, ih]
    rfl

/-- The quotes around a locator are taken off, and nothing else. -/
theorem locator_of_quoted {q : String} (hq : q = "'" ∨ q = "\"") (url : String) :
    locator (.str (q ++ url ++ q)) = .ok (.str url) := by
  have hwrap : ∃ c, isQuote c = true ∧ isBlank c = false ∧
      (q ++ url ++ q).toList = c :: (url.toList ++ [c]) := by
    rcases hq with rfl | rfl
    · exact ⟨'\'', rfl, by decide, by simp⟩
    · exact ⟨'"', rfl, by decide, by simp⟩
  obtain ⟨c, hquote, hblank, htext⟩ := hwrap
  have htrim : trim (c :: (url.toList ++ [c])) = c :: (url.toList ++ [c]) := by
    refine trim_eq_self ?_ ?_
    · rintro x ⟨⟩
      exact hblank
    · intro x hx
      rw [← List.cons_append, List.getLast?_concat, Option.some.injEq] at hx
      rwa [← hx]
  rw [locator, htext, htrim, unquote_wrap hquote, String.ofList_toList]

/-- **An element is read from any dump of it.** -/
theorem element_of_dump {fields : Fields} {e : Element String} (h : ElementDump fields e) :
    element (.obj fields) = .ok (some (e.map .str)) := by
  cases h with
  | heading htype hlevel htext =>
    rw [element_of_hasType htype, elementOfType, require_obj_of_eq hlevel (by simp),
      require_obj_of_eq htext (by simp)]
    rfl
  | paragraph htype htext | quote htype htext | code htype htext =>
    rw [element_of_hasType htype, elementOfType, require_obj_of_eq htext (by simp)]
    rfl
  | list htype hitems hall =>
    rw [element_of_hasType htype, elementOfType, require_obj_of_eq hitems (by simp)]
    show Except.map some ((List.mapM listItem _) >>= _) = _
    rw [mapM_listItem hall]
    rfl
  | written htype hurl hcontent =>
    rw [element_of_hasType htype, elementOfType, mediaSource_of_lacks hurl,
      require_obj_of_eq hcontent (by simp)]
    rfl
  | located htype hq hurl halt =>
    rw [element_of_hasType htype, elementOfType, mediaSource_of_url hurl, locator_of_quoted hq,
      halt, toOption_optional]
    rfl

theorem ElementDump.ne_styledType {fields : Fields} {e : Element String}
    (h : ElementDump fields e) : field fields "$type" ≠ styledType := by
  cases h with
  | heading htype | paragraph htype | quote htype | list htype | written htype | located htype
  | code htype => exact htype.ne_styledType

/-- A style block is kept, also the empty one, which does not count as given. -/
theorem styleOf_str {fields : Fields} {style : String} (h : field fields "style" = .str style) :
    styleOf fields = .str style := by
  rw [styleOf, h]
  split
  · rfl
  · rename_i hgiven
    have hempty : style = "" := by simpa [isGiven] using hgiven
    rw [hempty]

/-- **A line is read from any dump of it**, and without a notice. -/
theorem line_of_dump {fields : Fields} {l : Line String} (h : LineDump fields l) :
    line (.obj fields) = Report.pure (some (l.map .str)) := by
  cases h with
  | plain he =>
    rw [line_of_ne he.ne_styledType, element_of_dump he]
    rfl
  | styled htype hinner he hstyle =>
    rw [line_of_element htype hinner, if_neg he.ne_styledType, element_of_dump he,
      styleOf_str hstyle]
    rfl

theorem block_of_dump {fields : Fields} {b : Block String} (h : BlockDump fields b) :
    block (.obj fields) = Report.pure (b.map .str) := by
  obtain ⟨ls, ms, hl, hm, hall⟩ := h
  have hlines : Report.each (fun f => line (.obj f)) (ls ++ ms) =
      Report.pure (b.lines.map fun l => some (l.map .str)) :=
    Report.each_of_forall₂ hall fun _ _ => line_of_dump
  have hkept : (b.lines.map fun l => some (l.map Json.str)).filterMap id =
      b.lines.map (Line.map .str) := by
    simp [List.filterMap_map]
  rw [block_of_holds hl hm, hlines, Report.pure_bind, hkept]
  rfl

theorem slide_of_dump {fields : Fields} {s : Slide String} (h : SlideDump fields s) :
    slide (.obj fields) = Report.pure (s.map .str) := by
  obtain ⟨bs, hb, hall⟩ := h
  have hblocks : Report.each (fun f => block (.obj f)) bs =
      Report.pure (s.blocks.map (Block.map .str)) :=
    Report.each_of_forall₂ hall fun _ _ => block_of_dump
  rw [slide_of_holds hb, hblocks, Report.pure_bind]
  rfl

theorem template_of_dump {v : Json} {t : Option (Slide String)} (h : TemplateDump v t) :
    template v = Report.pure (t.map (Slide.map .str)) := by
  cases h with
  | none => exact template_of_not_given rfl
  | some hne hs =>
    rw [template_of_ne_nil hne, slide_of_dump hs, Report.pure_bind]
    rfl

theorem metadata_of_dump {v : Json} {m : Option (Metadata String)} (h : MetadataDump v m) :
    metadata v = .ok (m.map (Metadata.map .str)) := by
  cases h with
  | none => rfl
  | @some fields m hne htitle hauthor =>
    have hgiven : (Json.obj fields).isGiven = true := by simpa [isGiven] using hne
    rw [metadata, if_pos hgiven, get_obj, get_obj, htitle, hauthor]
    show Except.ok (Option.some (Metadata.mk (toOption (optional m.title))
      (toOption (optional m.author)))) = _
    rw [toOption_optional, toOption_optional]
    rfl

/-- A deck is read from any dump of it, and all there is to tell is that it was read. -/
theorem presentation_eq_of_isDump {dump : Json} {p : Presentation String} (h : IsDump dump p) :
    presentation dump = ⟨[.deckLoaded p.slides.length p.template.isSome
      (p.metadata.map (Metadata.map .str))], .ok (p.map .str)⟩ := by
  obtain ⟨fields, hroot, ⟨ss, hfield, hall⟩, htemplate, hmetadata⟩ := h
  have hslides : Report.each (fun f => slide (.obj f)) ss =
      Report.pure (p.slides.map (Slide.map .str)) :=
    Report.each_of_forall₂ hall fun _ _ => slide_of_dump
  rw [presentation_of_slides hroot hfield, hslides, Report.pure_bind, template_of_dump htemplate,
    Report.pure_bind, metadata_of_dump hmetadata, Report.ofExcept_ok_bind, List.length_map,
    Option.isSome_map]
  rfl

/-! ## Every deck has a dump -/

theorem exists_forall₂ {α β : Type} {R : α → β → Prop} {bs : List β} (h : ∀ b ∈ bs, ∃ a, R a b) :
    ∃ as, List.Forall₂ R as bs := by
  induction bs with
  | nil => exact ⟨[], .nil⟩
  | cons b bs ih =>
    obtain ⟨a, ha⟩ := h b List.mem_cons_self
    obtain ⟨as, has⟩ := ih fun c hc => h c (List.mem_cons_of_mem b hc)
    exact ⟨a :: as, .cons ha has⟩

theorem exists_elementDump {e : Element String} (he : e.Writable) :
    ∃ fields, ElementDump fields e := by
  cases e with
  | heading level text =>
    exact ⟨[("$type", .str "Heading"), ("level", .str level), ("text", .str text)],
      .heading ⟨"Heading", by decide, rfl⟩ rfl rfl⟩
  | paragraph text =>
    exact ⟨[("$type", .str "Paragraph"), ("text", .str text)],
      .paragraph ⟨"Paragraph", by decide, rfl⟩ rfl⟩
  | quote text =>
    exact ⟨[("$type", .str "Quote"), ("text", .str text)], .quote ⟨"Quote", by decide, rfl⟩ rfl⟩
  | list kind texts =>
    have hitems : List.Forall₂ ItemDump (texts.map .str) texts := by
      rw [List.forall₂_map_left_iff]
      exact List.forall₂_same.mpr fun s _ => .text s
    cases kind with
    | unordered =>
      exact ⟨[("$type", .str "UnorderedList"), ("items", .arr (texts.map .str))],
        .list ⟨"UnorderedList", by decide, rfl⟩ rfl hitems⟩
    | ordered =>
      exact ⟨[("$type", .str "OrderedList"), ("items", .arr (texts.map .str))],
        .list ⟨"OrderedList", by decide, rfl⟩ rfl hitems⟩
  | media source =>
    cases source with
    | written content =>
      cases content with
      | none => exact he.elim
      | some content =>
        exact ⟨[("$type", .str "Media"), ("content", .str content)],
          .written ⟨"Media", by decide, rfl⟩ rfl rfl⟩
    | located url alt =>
      exact ⟨[("$type", .str "Media"), ("url", .str ("'" ++ url ++ "'")), ("alt", optional alt)],
        .located ⟨"Media", by decide, rfl⟩ (Or.inl rfl) rfl rfl⟩
  | code content =>
    exact ⟨[("$type", .str "CodeBlock"), ("content", .str content)],
      .code ⟨"CodeBlock", by decide, rfl⟩ rfl⟩

/-- A line that a front end may give has a dump. -/
theorem exists_lineDump {l : Line String} (hl : l.Writable) : ∃ fields, LineDump fields l := by
  match l, hl with
  | .plain e, he =>
    obtain ⟨fields, h⟩ := exists_elementDump he
    exact ⟨fields, .plain h⟩
  | .styled (.plain e) (some style), he =>
    obtain ⟨inner, h⟩ := exists_elementDump he
    exact ⟨[("$type", .str "StyledElement"), ("element", .obj inner), ("style", .str style)],
      .styled rfl rfl h rfl⟩

theorem exists_blockDump {b : Block String} (hb : ∀ l ∈ b.lines, l.Writable) :
    ∃ fields, BlockDump fields b := by
  obtain ⟨ls, hls⟩ := exists_forall₂ fun l hl => exists_lineDump (hb l hl)
  refine ⟨[("lines", .arr (ls.map .obj))], ls, [], Or.inl rfl, Or.inr ⟨rfl, rfl⟩, ?_⟩
  rwa [List.append_nil]

theorem exists_slideDump {s : Slide String} (hs : ∀ b ∈ s.blocks, ∀ l ∈ b.lines, l.Writable) :
    ∃ fields, fields ≠ [] ∧ SlideDump fields s := by
  obtain ⟨bs, hbs⟩ := exists_forall₂ fun b hb => exists_blockDump (hs b hb)
  exact ⟨[("blocks", .arr (bs.map .obj))], by simp, bs, Or.inl rfl, hbs⟩

theorem exists_templateDump {t : Option (Slide String)}
    (ht : ∀ s ∈ t, ∀ b ∈ s.blocks, ∀ l ∈ b.lines, l.Writable) : ∃ v, TemplateDump v t := by
  cases t with
  | none => exact ⟨.null, .none⟩
  | some s =>
    obtain ⟨fields, hne, h⟩ := exists_slideDump (ht s rfl)
    exact ⟨.obj fields, .some hne h⟩

theorem exists_metadataDump (m : Option (Metadata String)) : ∃ v, MetadataDump v m := by
  cases m with
  | none => exact ⟨.null, .none⟩
  | some m =>
    exact ⟨.obj [("title", optional m.title), ("author", optional m.author)],
      .some (by simp) rfl rfl⟩

theorem exists_isDump {p : Presentation String} (hp : p.Writable) : ∃ dump, IsDump dump p := by
  have hmem : ∀ {s}, s ∈ p.template ∨ s ∈ p.slides → s ∈ p.sections := by
    intro s hs
    rw [Presentation.sections, List.mem_append, Option.mem_toList]
    exact hs
  obtain ⟨ss, hss⟩ := exists_forall₂ fun s (hs : s ∈ p.slides) => by
    obtain ⟨fields, -, h⟩ := exists_slideDump (hp s (hmem (Or.inr hs)))
    exact ⟨fields, h⟩
  obtain ⟨t, ht⟩ := exists_templateDump fun s hs => hp s (hmem (Or.inl hs))
  obtain ⟨m, hm⟩ := exists_metadataDump p.metadata
  have hslides : lookup "slides" [("slides", .arr (ss.map .obj)), ("template", t),
      ("metadata", m)] ≠ none := by
    simp [lookup]
  exact ⟨.obj [("slides", .arr (ss.map .obj)), ("template", t), ("metadata", m)], _,
    .bare (Or.inr hslides), ⟨ss, rfl, hss⟩, ht, hm⟩

/-! ## The round trip -/

/-- **Every deck has dumps, and each of them is read as that deck**, without a warning. -/
theorem presentation_of_dump {p : Presentation String} (hp : p.Writable) :
    (∃ dump, IsDump dump p) ∧ ∀ dump, IsDump dump p →
      (presentation dump).outcome = .ok (p.map .str) ∧
      ∀ n ∈ (presentation dump).notices, n.severity ≠ .warning := by
  refine ⟨exists_isDump hp, fun dump h => ?_⟩
  rw [presentation_eq_of_isDump h]
  refine ⟨rfl, ?_⟩
  intro n hn
  obtain rfl := List.mem_singleton.mp hn
  show Severity.debug ≠ Severity.warning
  decide

/-- A deck with a template, an empty style block and a locator that is quoted itself. -/
def variedDeck : Presentation String where
  slides := [⟨[⟨[.plain (.heading "##" ""), .styled (.plain (.list .ordered ["a", "b"])) (some ""),
    .plain (.media (.located "'x'.mp4" none))]⟩]⟩]
  template := some ⟨[]⟩
  metadata := some ⟨some "", none⟩

/-- A dump of it: wrapped, with one item as an object, and with the last line as a media. -/
def variedDump : Json :=
  .obj [("presentation", .obj [
    ("slides", .arr [.obj [("blocks", .arr [.obj [
      ("lines", .arr [
        .obj [("$type", .str "LineHeading"), ("level", .str "##"), ("text", .str "")],
        .obj [("$type", .str "StyledElement"), ("style", .str ""), ("element", .obj [
          ("$type", .str "OrderedList"),
          ("items", .arr [.str "a", .obj [("text", .str "b")]])])]]),
      ("media", .arr [.obj [("$type", .str "VideoBlock"), ("url", .str "\"'x'.mp4\"")]])]])]]),
    ("template", .obj [("blocks", .arr [])]),
    ("metadata", .obj [("title", .str ""), ("author", .null)])])]

theorem variedDump_isDump : IsDump variedDump variedDeck := by
  have hheading : LineDump [("$type", .str "LineHeading"), ("level", .str "##"),
      ("text", .str "")] (.plain (.heading "##" "")) :=
    .plain (.heading ⟨"LineHeading", by decide, rfl⟩ rfl rfl)
  have hlist : LineDump [("$type", .str "StyledElement"), ("style", .str ""),
      ("element", .obj [("$type", .str "OrderedList"),
        ("items", .arr [.str "a", .obj [("text", .str "b")]])])]
      (.styled (.plain (.list .ordered ["a", "b"])) (some "")) :=
    .styled rfl rfl (.list ⟨"OrderedList", by decide, rfl⟩ rfl
      (.cons (.text "a") (.cons (.object rfl) .nil))) rfl
  have hmedia : LineDump [("$type", .str "VideoBlock"), ("url", .str "\"'x'.mp4\"")]
      (.plain (.media (.located "'x'.mp4" none))) :=
    .plain (.located ⟨"VideoBlock", by decide, rfl⟩ (Or.inr rfl) rfl rfl)
  refine ⟨_, .wrapped rfl rfl, ⟨[_], rfl, .cons ⟨[_], Or.inl rfl, .cons ?_ .nil⟩ .nil⟩,
    .some (by simp) ⟨[], Or.inl rfl, .nil⟩, .some (by simp) rfl rfl⟩
  exact ⟨[_, _], [_], Or.inl rfl, Or.inl rfl, .cons hheading (.cons hlist (.cons hmedia .nil))⟩

theorem variedDeck_loaded : variedDeck.Writable ∧ IsDump variedDump variedDeck ∧
    (presentation variedDump).outcome = .ok (variedDeck.map .str) ∧
    ∀ n ∈ (presentation variedDump).notices, n.severity ≠ .warning := by
  have hwritable : variedDeck.Writable := by
    simp [Presentation.Writable, Presentation.sections, variedDeck, Line.Writable,
      Element.Writable]
  exact ⟨hwritable, variedDump_isDump,
    (presentation_of_dump hwritable).2 variedDump variedDump_isDump⟩

end Dump

end Deck
