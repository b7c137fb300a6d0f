import PackageFinder.Yaml.Token

/-!
# Values of a document

A document is a tree of texts, lists and mappings.  An alias stands for the value that is anchored
elsewhere.  A tree may be cut off where the text that it was read from turned out to be faulty:
what was read before is there.
-/

namespace PackageFinder.Yaml

/-- What is said about a value before it. -/
structure Header where
  /-- Where the value starts. -/
  mark : Mark
  /-- The number of its anchor. -/
  anchor : Option Nat := none
  /-- Its tag. -/
  tag : Option Tag := none
  deriving DecidableEq, Repr, Inhabited

/-- A value of a document. -/
inductive Node where
  | scalar (header : Header) (style : Style) (text : String)
  | list (header : Header) (items : List Node)
  | mapping (header : Header) (entries : List (Node × Node))
  | reference (mark : Mark) (anchor : Nat)
  | void
  | cut
  deriving Repr, Inhabited

namespace Node

/-- An empty plain text. -/
def empty (mark : Mark) : Node := scalar { mark } .plain ""

mutual

/-- The last value with an anchor, in a tree. -/
def find? (anchor : Nat) : Node → Option Node
  | scalar header style text =>
    if header.anchor = some anchor then some (scalar header style text) else none
  | list header items => match findAmong? anchor items with
    | some found => some found
    | none => if header.anchor = some anchor then some (list header items) else none
  | mapping header entries => match findInside? anchor entries with
    | some found => some found
    | none => if header.anchor = some anchor then some (mapping header entries) else none
  | reference _ _ => none
  | void => none
  | cut => none

/-- The last value with an anchor, in some trees. -/
def findAmong? (anchor : Nat) : List Node → Option Node
  | [] => none
  | node :: nodes => match findAmong? anchor nodes with
    | some found => some found
    | none => find? anchor node

/-- The last value with an anchor, in some keys and their values. -/
def findInside? (anchor : Nat) : List (Node × Node) → Option Node
  | [] => none
  | (key, value) :: entries => match findInside? anchor entries with
    | some found => some found
    | none => match find? anchor value with
      | some found => some found
      | none => find? anchor key

end

mutual

/-- Whether a tree is not cut off. -/
def isWhole : Node → Bool
  | scalar _ _ _ => true
  | list _ items => areWhole items
  | mapping _ entries => entriesAreWhole entries
  | reference _ _ => true
  | void => true
  | cut => false

/-- Whether none of some trees is cut off. -/
def areWhole : List Node → Bool
  | [] => true
  | node :: nodes => node.isWhole && areWhole nodes

/-- Whether none of some keys and values is cut off. -/
def entriesAreWhole : List (Node × Node) → Bool
  | [] => true
  | (key, value) :: entries => key.isWhole && value.isWhole && entriesAreWhole entries

end

/-! ### Comparing values -/

mutual

/-- Whether two values are the same. -/
def isSame : Node → Node → Bool
  | scalar header style text, scalar header' style' text' =>
    decide (header = header' ∧ style = style' ∧ text = text')
  | list header items, list header' items' => decide (header = header') && areSame items items'
  | mapping header entries, mapping header' entries' =>
    decide (header = header') && entriesAreSame entries entries'
  | reference mark anchor, reference mark' anchor' => decide (mark = mark' ∧ anchor = anchor')
  | void, void => true
  | cut, cut => true
  | _, _ => false

/-- Whether some values are the same as others, one by one. -/
def areSame : List Node → List Node → Bool
  | [], [] => true
  | node :: nodes, node' :: nodes' => node.isSame node' && areSame nodes nodes'
  | _, _ => false

/-- Whether some keys and values are the same as others, one by one. -/
def entriesAreSame : List (Node × Node) → List (Node × Node) → Bool
  | [], [] => true
  | (key, value) :: entries, (key', value') :: entries' =>
    key.isSame key' && value.isSame value' && entriesAreSame entries entries'
  | _, _ => false

end

mutual

/-- Values are compared for equality. -/
theorem isSame_iff (a b : Node) : a.isSame b = true ↔ a = b := by
  cases a with
  | scalar header style text => cases b <;> simp [isSame]
  | list header items =>
    cases b with
    | list header' items' => simp [isSame, areSame_iff items items']
    | _ => simp [isSame]
  | mapping header entries =>
    cases b with
    | mapping header' entries' => simp [isSame, entriesAreSame_iff entries entries']
    | _ => simp [isSame]
  | reference mark anchor => cases b <;> simp [isSame]
  | void => cases b <;> simp [isSame]
  | cut => cases b <;> simp [isSame]

/-- So are lists of them. -/
theorem areSame_iff (as bs : List Node) : areSame as bs = true ↔ as = bs := by
  cases as with
  | nil => cases bs <;> simp [areSame]
  | cons a as =>
    cases bs with
    | nil => simp [areSame]
    | cons b bs => simp [areSame, isSame_iff a b, areSame_iff as bs]

/-- So are keys with their values. -/
theorem entriesAreSame_iff (as bs : List (Node × Node)) : entriesAreSame as bs = true ↔ as = bs := by
  cases as with
  | nil => cases bs <;> simp [entriesAreSame]
  | cons a as =>
    obtain ⟨key, value⟩ := a
    cases bs with
    | nil => simp [entriesAreSame]
    | cons b bs =>
      obtain ⟨key', value'⟩ := b
      simp [entriesAreSame, isSame_iff key key', isSame_iff value value', entriesAreSame_iff as bs]

end

instance : DecidableEq Node := fun a b => decidable_of_iff _ (isSame_iff a b)

end Node

end PackageFinder.Yaml
