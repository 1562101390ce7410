import Deck.Proofs.Dump.Node

/-!
# Dumps of the right shape

The shape of a dump is what can be told of it without the types of its nodes: there is an array
where an array is gone through, an object where fields are asked for, and a string where text
is meant.  Any of them may be missing or null.

* `deckShape`: the shape of an unwrapped dump.
* `deckLines`: the nodes that are read as lines, from the slides and from the template.
* `holdsObjects_of_shape`: a field of the right shape holds the objects that are found in it.
-/

namespace Deck.Dump

open Json

/-! ## Values -/

/-- A string, which may be missing. -/
def isLeaf : Json → Bool
  | .null | .str _ => true
  | _ => false

/-- An array of such values, which may be missing. -/
def isArrayOf (p : Json → Bool) : Json → Bool
  | .null => true
  | .arr values => values.all p
  | _ => false

/-- An object with such fields. -/
def isObject (p : Fields → Bool) : Json → Bool
  | .obj fields => p fields
  | _ => false

/-- An object with such fields, which may be missing. -/
def isObjectIfAny (p : Fields → Bool) : Json → Bool
  | .null => true
  | v => isObject p v

/-- The objects in an array. -/
def objects : Json → List Fields
  | .arr values => values.filterMap fun
    | .obj fields => some fields
    | _ => none
  | _ => []

theorem isLeaf_iff {v : Json} : isLeaf v = true ↔ v = .null ∨ ∃ s, v = .str s := by
  cases v <;> simp [isLeaf]

theorem isObject_iff {p : Fields → Bool} {v : Json} :
    isObject p v = true ↔ ∃ fields, v = .obj fields ∧ p fields = true := by
  cases v <;> simp [isObject]

theorem isObjectIfAny_iff {p : Fields → Bool} {v : Json} :
    isObjectIfAny p v = true ↔ v = .null ∨ ∃ fields, v = .obj fields ∧ p fields = true := by
  cases v <;> simp [isObjectIfAny, isObject]

theorem isArrayOf_iff {p : Json → Bool} {v : Json} :
    isArrayOf p v = true ↔ v = .null ∨ ∃ values, v = .arr values ∧ ∀ x ∈ values, p x = true := by
  cases v <;> simp [isArrayOf]

theorem mem_objects {values : List Json} {fields : Fields} :
    fields ∈ objects (.arr values) ↔ Json.obj fields ∈ values := by
  rw [objects, List.mem_filterMap]
  constructor
  · rintro ⟨v, hv, h⟩
    cases v with
    | obj fs =>
      obtain rfl : fs = fields := by simpa using h
      exact hv
    | _ => simp at h
  · intro h
    exact ⟨.obj fields, h, rfl⟩

/-- An array of nothing but objects. -/
theorem objects_map_obj (fs : List Fields) : objects (.arr (fs.map .obj)) = fs := by
  rw [objects, List.filterMap_map]
  exact List.filterMap_some

theorem exists_map_obj {p : Fields → Bool} {values : List Json}
    (h : ∀ x ∈ values, isObject p x = true) : ∃ fs : List Fields, values = fs.map .obj := by
  induction values with
  | nil => exact ⟨[], rfl⟩
  | cons v values ih =>
    obtain ⟨fields, rfl, -⟩ := isObject_iff.mp (h v List.mem_cons_self)
    obtain ⟨fs, rfl⟩ := ih fun x hx => h x (List.mem_cons_of_mem _ hx)
    exact ⟨fields :: fs, rfl⟩

/-- A field of the right shape holds the objects that are found in it. -/
theorem holdsObjects_of_shape {p : Fields → Bool} {fields : Fields} {name : String}
    (h : isArrayOf (isObject p) (field fields name) = true) :
    HoldsObjects fields name (objects (field fields name)) ∧
      ∀ f ∈ objects (field fields name), p f = true := by
  obtain hnull | ⟨values, hv, hall⟩ := isArrayOf_iff.mp h
  · rw [hnull]
    exact ⟨Or.inr ⟨hnull, rfl⟩, nofun⟩
  · obtain ⟨fs, rfl⟩ := exists_map_obj hall
    rw [hv, objects_map_obj]
    refine ⟨Or.inl hv, fun f hf => ?_⟩
    exact hall (.obj f) (List.mem_map_of_mem hf)

/-- What holds of something that is found in one of the parts. -/
theorem exists_mem_flatMap {α β : Type} {as : List α} {f : α → List β} {P : β → Prop} :
    (∃ b ∈ as.flatMap f, P b) ↔ ∃ a ∈ as, ∃ b ∈ f a, P b := by
  constructor
  · rintro ⟨b, hb, h⟩
    obtain ⟨a, ha, hb⟩ := List.mem_flatMap.mp hb
    exact ⟨a, ha, b, hb, h⟩
  · rintro ⟨a, ha, b, hb, h⟩
    exact ⟨b, List.mem_flatMap.mpr ⟨a, ha, hb⟩, h⟩

/-! ## Nodes -/

/-- The fields that hold text. -/
def leafNames : List String :=
  ["$type", "level", "text", "content", "url", "alt", "style", "title", "author"]

def leavesShape (fields : Fields) : Bool := leafNames.all fun name => isLeaf (field fields name)

def itemShape : Json → Bool
  | .str _ => true
  | v => isObject leavesShape v

def elementShape (fields : Fields) : Bool :=
  leavesShape fields && isArrayOf itemShape (field fields "items")

def lineShape (fields : Fields) : Bool :=
  elementShape fields && isObjectIfAny elementShape (field fields "element")

def blockShape (fields : Fields) : Bool :=
  isArrayOf (isObject lineShape) (field fields "lines") &&
    isArrayOf (isObject lineShape) (field fields "media")

def slideShape (fields : Fields) : Bool :=
  isArrayOf (isObject blockShape) (field fields "blocks")

def deckShape (fields : Fields) : Bool :=
  isArrayOf (isObject slideShape) (field fields "slides") &&
    isObjectIfAny slideShape (field fields "template") &&
    isObjectIfAny leavesShape (field fields "metadata")

theorem leaf_of_shape {fields : Fields} (h : leavesShape fields = true) (name : String)
    (hname : name ∈ leafNames) : field fields name = .null ∨ ∃ s, field fields name = .str s :=
  isLeaf_iff.mp (List.all_eq_true.mp h name hname)

/-! ## The lines of a dump -/

def blockLines (fields : Fields) : List Fields :=
  objects (field fields "lines") ++ objects (field fields "media")

def slideLines (fields : Fields) : List Fields :=
  (objects (field fields "blocks")).flatMap blockLines

def templateLines : Json → List Fields
  | .obj fields => slideLines fields
  | _ => []

/-- The nodes that are read as lines. -/
def deckLines (fields : Fields) : List Fields :=
  (objects (field fields "slides")).flatMap slideLines ++ templateLines (field fields "template")

end Deck.Dump
