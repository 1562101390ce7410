import Deck.Proofs.Dump.Refusal

/-!
# Values of the right kind

Nobody checks the values of a dump before they are used.  Most of them are used where the dump
is read, and the others where its deck is rendered, so the kinds that are right for a dump are
told together with the kinds that are right for a deck.

* `rightKinds`: the values that are used are of the kinds that their uses ask for.
* `Presentation.hasTexts`: in a deck that has been read, this means texts.
* `Told.break_not_mem_message`: what is told of a dump is one line, if the names of nodes are.
* `Keeps`: work that keeps kinds ends with a fault that can be told, if they are right.
* `keeps_presentation`: **reading keeps kinds**.
-/

namespace Deck

open Json Dump

/-! ## Kinds -/

def Json.isText : Json → Bool
  | .str _ => true
  | _ => false

/-- A text, or a value that does not count as given. -/
def Json.isTextIfGiven (v : Json) : Bool := !v.isGiven || v.isText

/-- In an element, texts stand where they are used as such. -/
def MediaSource.hasTexts : MediaSource Json → Bool
  | .written content => content.all isTextIfGiven
  | .located url alt => isText url && alt.all isTextIfGiven

@[inherit_doc MediaSource.hasTexts]
def Element.hasTexts : Element Json → Bool
  | .heading level text => isText level && isText text
  | .paragraph text | .quote text => isText text
  | .list _ items => items.all isText
  | .media source => source.hasTexts
  | .code content => isText content

/-- In a line, texts stand where they are used as such, and style blocks stand alone. -/
def Line.hasTexts : Line Json → Bool
  | .plain e => e.hasTexts
  | .foreign _ => true
  | .styled (.plain e) style => e.hasTexts && style.all isTextIfGiven
  | .styled (.foreign _) style => style.all isTextIfGiven
  | .styled (.styled _ _) _ => false

def Block.hasTexts (b : Block Json) : Bool := b.lines.all Line.hasTexts

def Slide.hasTexts (s : Slide Json) : Bool := s.blocks.all Block.hasTexts

def Metadata.hasTexts (m : Metadata Json) : Bool := m.title.all isText && m.author.all isText

def Presentation.hasTexts (p : Presentation Json) : Bool :=
  p.slides.all Slide.hasTexts && p.template.all Slide.hasTexts && p.metadata.all Metadata.hasTexts

namespace Dump

/-- The value can be gone through, and all that it holds is such. -/
def holdsOnly (p : Json → Bool) (v : Json) : Bool :=
  match items v with
  | .ok values => values.all p
  | .error _ => false

/-- What stands in the field is gone through, if it counts as given. -/
def childrenAre (p : Json → Bool) (fields : Fields) (name : String) : Bool :=
  !(field fields name).isGiven || holdsOnly p (field fields name)

/-- The type of the node is one of an element. -/
def isElement (fields : Fields) : Bool :=
  match field fields "$type" with
  | .str name => (NodeType.ofName? name).isSome
  | _ => false

/-! Of a node that lacks a field it can only be told that it does.  It depends on the reader of
what is told for which nodes this will do: they are the ones that `lax` admits. -/

variable (lax : Fields → Bool)

/-- The field is needed, and what stands in it is such. -/
def needed (p : Json → Bool) (fields : Fields) (name : String) : Bool :=
  if field fields name = .null then lax fields else p (field fields name)

def rightItem : Json → Bool
  | .str _ => true
  | .obj fields => needed lax isText fields "text"
  | _ => false

def rightMedia (fields : Fields) : Bool :=
  if field fields "url" = .null then needed lax isTextIfGiven fields "content"
  else isText (field fields "url") && isTextIfGiven (field fields "alt")

def rightElementOfType (fields : Fields) : NodeType → Bool
  | .heading => needed lax isText fields "level" && needed lax isText fields "text"
  | .paragraph | .quote => needed lax isText fields "text"
  | .list _ => needed lax (holdsOnly (rightItem lax)) fields "items"
  | .media => rightMedia lax fields
  | .code => needed lax isText fields "content"

/-- A node of unknown type is dropped, and what it holds is never used.  But its type is looked
up, which takes a value that is neither an array nor an object. -/
def rightElement (fields : Fields) : Bool :=
  match field fields "$type" with
  | .str name => (NodeType.ofName? name).all (rightElementOfType lax fields)
  | .arr _ | .obj _ => false
  | _ => true

/-- What stands in a node with a style block.  The style block is used if the element is kept,
and of a second style block nothing is used but its type. -/
def rightInner (style : Json) : Json → Bool
  | .obj inner =>
    if field inner "$type" = styledType then true
    else rightElement lax inner && (!isElement inner || isTextIfGiven style)
  | _ => false

def rightLine : Json → Bool
  | .obj fields =>
    if field fields "$type" = styledType then
      needed lax (rightInner lax (field fields "style")) fields "element"
    else rightElement lax fields
  | _ => false

def rightBlock : Json → Bool
  | .obj fields => childrenAre (rightLine lax) fields "lines" &&
      childrenAre (rightLine lax) fields "media"
  | _ => false

def rightSlide : Json → Bool
  | .obj fields => childrenAre (rightBlock lax) fields "blocks"
  | _ => false

def rightMetadata : Json → Bool
  | .obj fields => isLeaf (field fields "title") && isLeaf (field fields "author")
  | _ => false

def rightRoot : Json → Bool
  | .obj fields => needed lax (holdsOnly (rightSlide lax)) fields "slides" &&
      (!(field fields "template").isGiven || rightSlide lax (field fields "template")) &&
      (!(field fields "metadata").isGiven || rightMetadata (field fields "metadata"))
  | _ => false

/-- The values of a dump that are used are of the right kinds.  The kind of the dump itself is
checked, and that of the node that it wraps is not. -/
def rightKinds : Json → Bool
  | .obj fields => rightRoot lax (root fields)
  | _ => true

/-! ## Work that keeps kinds -/

/-- A fault that can be told. -/
inductive Told : Fault → Prop
  | notObject (kind : Kind) : Told (.notObject kind)
  | missingField {fields : Fields} {name : String} : lax fields = true → name ∈ neededNames →
      Told (.missingField (owner fields) name)
  | nestedStyleNode : Told .nestedStyleNode
  | locator {url : List Char} {e : Locator.Fault} : Locator.path url = .error e →
      Told (.locator e)

variable {lax} {α β : Type}

theorem Told.ofContent {e : Fault} (h : Told lax e) : e.ofContent = true := by
  cases h with
  | notObject | missingField | nestedStyleNode | locator => rfl

/-- The name by which a fault calls the node is one line. -/
def isNamedOnOneLine (fields : Fields) : Bool := !(owner fields).toList.contains '\n'

/-- If the nodes are called by one line, then the fault is told on one line. -/
theorem Told.break_not_mem_message {e : Fault} (h : Told isNamedOnOneLine e) :
    '\n' ∉ e.message.toList := by
  cases h with
  | notObject kind =>
    have hkind : '\n' ∉ kind.name.toList := by cases kind <;> decide +kernel
    show '\n' ∉ ("Expected a JSON object, got " ++ kind.name).toList
    rw [String.toList_append, List.mem_append]
    exact not_or.mpr ⟨by decide +kernel, hkind⟩
  | @missingField fields name hname hmem =>
    have hnames : ∀ name ∈ neededNames, '\n' ∉ name.toList := by decide +kernel
    have howner : '\n' ∉ (owner fields).toList := by simpa [isNamedOnOneLine] using hname
    show '\n' ∉ (owner fields ++ " is missing required field '" ++ name ++ "'").toList
    simp only [String.toList_append, List.mem_append, not_or]
    exact ⟨⟨⟨howner, by decide +kernel⟩, hnames _ hmem⟩, by decide +kernel⟩
  | nestedStyleNode => decide +kernel
  | locator h => exact Locator.break_not_mem_message h

variable (lax) in
/-- Work on something of the kinds `p` yields a value of the kinds `q`.  If `p` is right and
there is no value, then the fault can be told. -/
inductive Keeps {α : Type} : Except Fault α → Bool → (α → Bool) → Prop
  | ok {a : α} {p : Bool} {q : α → Bool} : q a = p → Keeps (.ok a) p q
  | told {e : Fault} {p : Bool} {q : α → Bool} : (p = true → Told lax e) → Keeps (.error e) p q

namespace Keeps

variable {p r : Bool} {q : α → Bool} {t : β → Bool}

/-- Where no kinds are right, any fault will do. -/
theorem wrong (e : Fault) : Keeps lax (.error e : Except Fault α) false q := told Bool.noConfusion

/-- Whether something else is of the right kinds does not change. -/
theorem and_left {x : Except Fault α} (h : Keeps lax x p q) (r : Bool) :
    Keeps lax x (r && p) (fun a => r && q a) := by
  cases h with
  | ok h => exact .ok (congrArg (r && ·) h)
  | told h => exact .told fun hp => h (Bool.and_eq_true_iff.mp hp).2

@[inherit_doc and_left]
theorem and_right {x : Except Fault α} (h : Keeps lax x p q) (r : Bool) :
    Keeps lax x (p && r) (fun a => q a && r) := by
  cases h with
  | ok h => exact .ok (congrArg (· && r) h)
  | told h => exact .told fun hp => h (Bool.and_eq_true_iff.mp hp).1

/-- Work that is done if the value counts as given. -/
theorem ifGiven {x : Except Fault α} (h : Keeps lax x p q) {a : α} (ha : q a = true) (v : Json) :
    Keeps lax (if v.isGiven then x else .ok a) (!v.isGiven || p) q := by
  cases v.isGiven with
  | true => exact h
  | false => exact .ok ha

theorem bind {x : Except Fault α} {f : α → Except Fault β} (hx : Keeps lax x p q)
    (hf : ∀ a, x = .ok a → Keeps lax (f a) (q a) t) : Keeps lax (x >>= f) p t := by
  cases hx with
  | told h => exact .told h
  | ok h => exact h ▸ hf _ rfl

/-- What follows always yields a value. -/
theorem bind_pure {x : Except Fault α} {f : α → β} (hx : Keeps lax x p q)
    (hf : ∀ a, t (f a) = q a) : Keeps lax (x >>= fun a => pure (f a)) p t :=
  hx.bind fun a _ => ok (hf a)

theorem mapM {f : α → Except Fault β} {p : α → Bool} {as : List α}
    (h : ∀ a, Keeps lax (f a) (p a) t) : Keeps lax (as.mapM f) (as.all p) (·.all t) := by
  induction as with
  | nil => exact ok rfl
  | cons a as ih =>
    rw [List.mapM_cons, List.all_cons]
    exact ((h a).and_right _).bind fun b _ => (ih.and_left _).bind_pure fun bs => List.all_cons

theorem bindReport {x : Report α} {f : α → Report β} (hx : Keeps lax x.outcome p q)
    (hf : ∀ a, x.outcome = .ok a → Keeps lax (f a).outcome (q a) t) :
    Keeps lax (x.bind f).outcome p t := by
  rw [Report.bind_outcome]
  exact hx.bind hf

theorem bindReport_pure {x : Report α} {f : α → β} (hx : Keeps lax x.outcome p q)
    (hf : ∀ a, t (f a) = q a) : Keeps lax (x.bind fun a => .pure (f a)).outcome p t :=
  hx.bindReport fun a _ => ok (hf a)

theorem each {f : α → Report β} {p : α → Bool} {as : List α}
    (h : ∀ a, Keeps lax (f a).outcome (p a) t) :
    Keeps lax (Report.each f as).outcome (as.all p) (·.all t) := by
  induction as with
  | nil => exact ok rfl
  | cons a as ih =>
    rw [Report.each_cons, List.all_cons]
    exact ((h a).and_right _).bindReport fun b _ =>
      (ih.and_left _).bindReport_pure fun bs => List.all_cons

end Keeps

/-! ## Fields -/

theorem keeps_require {fields : Fields} {name : String} (h : name ∈ neededNames)
    (p : Json → Bool) : Keeps lax (require (.obj fields) name) (needed lax p fields name) p := by
  rw [require_obj, needed]
  split
  · exact .told fun hlax => .missingField hlax h
  · exact .ok rfl

theorem keeps_items (p : Json → Bool) (v : Json) :
    Keeps lax (items v) (holdsOnly p v) (·.all p) := by
  rw [holdsOnly]
  cases items v with
  | ok values => exact .ok rfl
  | error e => exact .wrong e

theorem keeps_children (p : Json → Bool) (fields : Fields) (name : String) :
    Keeps lax (children (.obj fields) name) (childrenAre p fields name) (·.all p) := by
  show Keeps lax (itemsIfGiven (field fields name)) _ _
  exact (keeps_items p _).ifGiven rfl _

theorem keeps_neededItems {fields : Fields} {name : String} (h : name ∈ neededNames)
    (p : Json → Bool) : Keeps lax (require (.obj fields) name >>= items)
      (needed lax (holdsOnly p) fields name) (·.all p) :=
  (keeps_require h (holdsOnly p)).bind fun v _ => keeps_items p v

theorem all_isText_toOption (v : Json) : (toOption v).all isText = isLeaf v := by
  cases v <;> rfl

theorem all_isTextIfGiven_toOption (v : Json) :
    (toOption v).all isTextIfGiven = isTextIfGiven v := by
  cases v <;> rfl

/-! ## Elements -/

theorem keeps_listItem (v : Json) : Keeps lax (listItem v) (rightItem lax v) isText := by
  cases v with
  | str s => exact .ok rfl
  | obj fields => exact keeps_require (by decide) isText
  | _ => exact .wrong _

theorem keeps_locator (v : Json) : Keeps lax (locator v) (isText v) isText := by
  cases v with
  | str s => exact .ok rfl
  | _ => exact .wrong _

theorem mediaSource_of_ne {fields : Fields} (h : field fields "url" ≠ .null) :
    mediaSource (.obj fields) = locator (field fields "url") >>= fun url =>
      pure (.located url (toOption (field fields "alt"))) := by
  have hurl : toOption (field fields "url") = some (field fields "url") := toOption_of_ne h
  simp only [mediaSource, get_obj, bind, Except.bind, hurl]

theorem keeps_mediaSource (fields : Fields) :
    Keeps lax (mediaSource (.obj fields)) (rightMedia lax fields) MediaSource.hasTexts := by
  rw [rightMedia]
  split
  · rename_i hnull
    rw [mediaSource_of_lacks hnull]
    exact (keeps_require (by decide) isTextIfGiven).bind_pure fun content => rfl
  · rename_i hne
    rw [mediaSource_of_ne hne, ← all_isTextIfGiven_toOption (field fields "alt")]
    exact ((keeps_locator _).and_right _).bind_pure fun url => rfl

theorem keeps_elementOfType (fields : Fields) (type : NodeType) :
    Keeps lax (elementOfType (.obj fields) type) (rightElementOfType lax fields type)
      Element.hasTexts := by
  cases type with
  | heading =>
    exact ((keeps_require (by decide) isText).and_right _).bind fun level _ =>
      ((keeps_require (by decide) isText).and_left _).bind_pure fun text => rfl
  | paragraph | quote | code =>
    exact (keeps_require (by decide) isText).bind_pure fun text => rfl
  | list kind =>
    rw [elementOfType, ← bind_assoc]
    exact (keeps_neededItems (by decide) (rightItem lax)).bind fun values _ =>
      (Keeps.mapM keeps_listItem).bind_pure fun texts => rfl
  | media => exact (keeps_mediaSource fields).bind_pure fun source => rfl

/-- Reading an element keeps its kinds. -/
theorem keeps_element (fields : Fields) : Keeps lax (element (.obj fields))
    (rightElement lax fields) (·.all Element.hasTexts) := by
  rw [rightElement]
  cases htype : field fields "$type" with
  | str name =>
    rw [element_of_name htype]
    show Keeps lax _ ((NodeType.ofName? name).all _) _
    cases NodeType.ofName? name with
    | none => exact .ok rfl
    | some type => exact (keeps_elementOfType fields type).bind_pure fun e => rfl
  | arr | obj =>
    rw [element, get_obj, htype]
    exact .wrong _
  | _ =>
    rw [element, get_obj, htype]
    exact .ok rfl

/-- An element is kept if it is of the type of one. -/
theorem isElement_of_element {fields : Fields} {o : Option (Element Json)}
    (h : element (.obj fields) = .ok o) : isElement fields = o.isSome := by
  rw [isElement]
  cases htype : field fields "$type" with
  | str name =>
    rw [element_of_name htype] at h
    show (NodeType.ofName? name).isSome = _
    generalize NodeType.ofName? name = type at h ⊢
    cases type with
    | none =>
      obtain rfl := Except.ok.inj h
      rfl
    | some type =>
      rw [Option.elim_some] at h
      cases he : elementOfType (.obj fields) type with
      | error e =>
        rw [he] at h
        cases h
      | ok e =>
        rw [he] at h
        obtain rfl := Except.ok.inj h
        rfl
  | arr | obj =>
    rw [element, get_obj, htype] at h
    cases h
  | _ =>
    rw [element, get_obj, htype] at h
    obtain rfl := Except.ok.inj h
    rfl

/-! ## Lines -/

/-- A line is kept with its element, or dropped with it. -/
theorem Keeps.keepOrDrop {x : Except Fault (Option (Element Json))} {p r : Bool}
    (hx : Keeps lax x p (·.all Element.hasTexts)) {keep : Element Json → Line Json}
    (hkeep : ∀ o, x = .ok o → (o.map keep).all Line.hasTexts = (o.all Element.hasTexts && r))
    (dropped : Notice) :
    Keeps lax ((Report.ofExcept x).bind (Dump.keepOrDrop dropped keep)).outcome (p && r)
      (·.all Line.hasTexts) := by
  refine Keeps.bindReport (x := Report.ofExcept x) (hx.and_right r) fun o ho => ?_
  cases o with
  | none => exact .ok (hkeep none ho)
  | some e => exact .ok (hkeep (some e) ho)

theorem isTextIfGiven_styleOf (fields : Fields) :
    isTextIfGiven (styleOf fields) = isTextIfGiven (field fields "style") := by
  rw [styleOf]
  split
  · rfl
  · rename_i hgiven
    rw [isTextIfGiven, isTextIfGiven, Bool.not_eq_true _ |>.mp hgiven]
    rfl

/-- Reading a node with a style block keeps the kinds of what is in it. -/
theorem keeps_line_styled {fields : Fields} (h : field fields "$type" = styledType) :
    Keeps lax (line (.obj fields)).outcome
      (needed lax (rightInner lax (field fields "style")) fields "element")
      (·.all Line.hasTexts) := by
  by_cases hlacks : field fields "element" = .null
  · rw [line_of_lacks_element h hlacks, needed, if_pos hlacks]
    exact .told fun hlax => .missingField hlax (by decide)
  rw [needed, if_neg hlacks]
  cases hinner : field fields "element" with
  | obj inner =>
    rw [line_of_element h hinner, rightInner]
    split
    · exact .told fun _ => .nestedStyleNode
    · refine (keeps_element inner).keepOrDrop (fun o ho => ?_) _
      -- The style block goes into the line only with an element.
      rw [isElement_of_element ho]
      cases o with
      | none => rfl
      | some e =>
        show (e.hasTexts && isTextIfGiven (styleOf fields)) = _
        rw [isTextIfGiven_styleOf]
        rfl
  | null => exact absurd hinner hlacks
  | _ =>
    show Keeps lax (if field fields "$type" = styledType then styledLine (.obj fields)
      else _).outcome false _
    rw [if_pos h, styledLine, require_obj_of_eq hinner (by simp)]
    exact .wrong _

/-- Reading a line keeps its kinds. -/
theorem keeps_line (v : Json) :
    Keeps lax (line v).outcome (rightLine lax v) (·.all Line.hasTexts) := by
  cases v with
  | obj fields =>
    rw [rightLine]
    split
    · rename_i hstyled
      exact keeps_line_styled hstyled
    · rename_i hne
      rw [line_of_ne hne]
      rw [← Bool.and_true (rightElement lax fields)]
      refine (keeps_element fields).keepOrDrop (fun o _ => ?_) _
      cases o with
      | none => rfl
      | some e => exact (Bool.and_true _).symm
  | _ => exact .wrong _

/-! ## Blocks, slides and decks -/

theorem all_filterMap_id (found : List (Option (Line Json))) :
    (found.filterMap id).all Line.hasTexts = found.all (·.all Line.hasTexts) := by
  induction found with
  | nil => rfl
  | cons o found ih =>
    cases o with
    | none => exact ih
    | some l => exact congrArg (l.hasTexts && ·) ih

theorem keeps_block (v : Json) :
    Keeps lax (block v).outcome (rightBlock lax v) Block.hasTexts := by
  cases v with
  | obj fields =>
    refine Keeps.bindReport (x := Report.ofExcept (children _ "lines"))
      ((keeps_children (rightLine lax) fields "lines").and_right _) fun lines _ => ?_
    refine Keeps.bindReport (x := Report.ofExcept (children _ "media"))
      ((keeps_children (rightLine lax) fields "media").and_left _) fun media _ => ?_
    rw [← List.all_append]
    exact (Keeps.each keeps_line).bindReport_pure fun found => all_filterMap_id found
  | _ => exact .wrong _

theorem keeps_slide (v : Json) :
    Keeps lax (slide v).outcome (rightSlide lax v) Slide.hasTexts := by
  cases v with
  | obj fields =>
    exact Keeps.bindReport (x := Report.ofExcept (children _ "blocks"))
      (keeps_children (rightBlock lax) fields "blocks") fun blocks _ =>
        (Keeps.each keeps_block).bindReport_pure fun blocks => rfl
  | _ => exact .wrong _

theorem keeps_template (v : Json) : Keeps lax (template v).outcome
    (!v.isGiven || rightSlide lax v) (·.all Slide.hasTexts) := by
  rw [template, apply_ite Report.outcome]
  refine Keeps.ifGiven ?_ (a := none) rfl v
  exact (keeps_slide v).bindReport_pure fun s => rfl

theorem keeps_metadata (v : Json) : Keeps lax (metadata v)
    (!v.isGiven || rightMetadata v) (·.all Metadata.hasTexts) := by
  rw [metadata]
  refine Keeps.ifGiven ?_ rfl v
  cases v with
  | obj fields =>
    refine .ok ?_
    show ((toOption _).all isText && (toOption _).all isText) = _
    rw [all_isText_toOption, all_isText_toOption]
    rfl
  | _ => exact .wrong _

/-- **Reading keeps kinds.** -/
theorem keeps_presentation (dump : Json) :
    Keeps lax (presentation dump).outcome (rightKinds lax dump) Presentation.hasTexts := by
  cases dump with
  | obj fields =>
    show Keeps lax (Report.bind (Report.ofExcept (require (root fields) "slides" >>= items))
      _).outcome (rightRoot lax (root fields)) _
    cases root fields with
    | obj node =>
      refine Keeps.bindReport (x := Report.ofExcept _)
        (((keeps_neededItems (by decide) (rightSlide lax)).and_right _).and_right _) fun nodes _ => ?_
      refine (((Keeps.each keeps_slide).and_right _).and_right _).bindReport fun slides _ => ?_
      refine (((keeps_template _).and_left _).and_right _).bindReport fun t _ => ?_
      exact Keeps.bindReport (x := Report.ofExcept (metadata (field node "metadata")))
        ((keeps_metadata _).and_left _) fun m _ => .ok rfl
    | _ => exact .wrong _
  | _ => exact .told fun _ => .notObject _

end Dump

end Deck
