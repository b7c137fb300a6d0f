import Mathlib.Tactic.Lemma
import PackageFinder.Json.Printer

/-!
# The lines of written values

A written value is a list of lines, and `Value.lines` gives them with their depths
(`Value.below_lines`). The lines of a list or an object are its brackets and the lines of what is in
it (`mem_lines_list`, `mem_lines_object`).
-/

namespace PackageFinder.Json

/-- A line of a text. -/
structure Line where
  /-- How many spaces it starts with. -/
  depth : Nat
  /-- What stands after them. -/
  content : List Char
  deriving DecidableEq, Repr

/-- The characters of a line. -/
def Line.text (l : Line) : List Char := List.replicate l.depth ' ' ++ l.content

/-- What stands before more items. -/
def comma {α : Type} (more : List α) : List Char := if more.isEmpty then [] else [',']

mutual

/-- The lines of a value that is written at a depth, with one text before it on its first line and
another after it on its last. -/
def Value.lines (depth : Nat) (before after : List Char) : Value → List Line
  | .list (v :: vs) =>
    ⟨depth, before ++ ['[']⟩ :: (itemLines (depth + 1) (v :: vs) ++ [⟨depth, ']' :: after⟩])
  | .object (m :: ms) =>
    ⟨depth, before ++ ['{']⟩ :: (memberLines (depth + 1) (m :: ms) ++ [⟨depth, '}' :: after⟩])
  | v => [⟨depth, before ++ v.pretty depth ++ after⟩]

/-- The lines of items. -/
def itemLines (depth : Nat) : List Value → List Line
  | [] => []
  | v :: vs => v.lines depth [] (comma vs) ++ itemLines depth vs

/-- The lines of members. -/
def memberLines (depth : Nat) : List (String × Value) → List Line
  | [] => []
  | (k, v) :: ms => v.lines depth (writeString k ++ [':', ' ']) (comma ms) ++ memberLines depth ms

end

/-- A number has one line. -/
lemma Value.lines_number (depth : Nat) (before after : List Char) (n : Number) :
    (number n).lines depth before after = [⟨depth, before ++ n.write ++ after⟩] := rfl

/-- A list with items has a line for each of its brackets, and those of its items between them. -/
lemma Value.lines_list (depth : Nat) (before after : List Char) (v : Value) (vs : List Value) :
    (list (v :: vs)).lines depth before after
      = ⟨depth, before ++ ['[']⟩ ::
        (itemLines (depth + 1) (v :: vs) ++ [⟨depth, ']' :: after⟩]) := rfl

/-- So has an object with members. -/
lemma Value.lines_object (depth : Nat) (before after : List Char) (m : String × Value)
    (ms : List (String × Value)) : (object (m :: ms)).lines depth before after
      = ⟨depth, before ++ ['\x7b']⟩ ::
        (memberLines (depth + 1) (m :: ms) ++ [⟨depth, '\x7d' :: after⟩]) := rfl

/-- The characters of lines, each of which starts after a line feed. -/
def below : List Line → List Char
  | [] => []
  | l :: ls => newLine l.depth ++ l.content ++ below ls

/-- Lines below lines come after them. -/
lemma below_append (ls ls' : List Line) : below (ls ++ ls') = below ls ++ below ls' := by
  induction ls with
  | nil => rfl
  | cons l ls ih => simp [below, ih]

/-- Between the contents of lines there are line feeds and spaces. -/
lemma mem_below {ls : List Line} {c : Char} (hc : c ∈ below ls) :
    c = '\n' ∨ c = ' ' ∨ ∃ l ∈ ls, c ∈ l.content := by
  induction ls with
  | nil => cases hc
  | cons l ls ih =>
    rw [below, newLine, List.mem_append, List.mem_append, List.mem_cons] at hc
    rcases hc with ((newLine | space) | content) | later
    · exact .inl newLine
    · exact .inr (.inl (List.eq_of_mem_replicate space))
    · exact .inr (.inr ⟨l, List.mem_cons_self, content⟩)
    · rcases ih later with newLine | space | ⟨l', hl', content⟩
      · exact .inl newLine
      · exact .inr (.inl space)
      · exact .inr (.inr ⟨l', List.mem_cons_of_mem l hl', content⟩)

mutual

/-- A written value is its lines. -/
lemma Value.below_lines (depth : Nat) (before after : List Char) (v : Value) :
    below (v.lines depth before after) = newLine depth ++ before ++ v.pretty depth ++ after := by
  cases v with
  | list vs =>
    cases vs with
    | nil => simp [Value.lines, below]
    | cons v vs =>
      rw [Value.lines, itemLines, below, below_append, below_append,
        Value.below_lines (depth + 1) [] (comma vs) v, Value.pretty, ← below_itemLines]
      simp [below]
  | object ms =>
    cases ms with
    | nil => simp [Value.lines, below]
    | cons m ms =>
      obtain ⟨k, v⟩ := m
      rw [Value.lines, memberLines, below, below_append, below_append,
        Value.below_lines (depth + 1) (writeString k ++ [':', ' ']) (comma ms) v, Value.pretty,
        ← below_memberLines]
      simp [below]
  | _ => simp [Value.lines, below]

/-- Written items are their lines, after the comma before them. -/
lemma below_itemLines (depth : Nat) (vs : List Value) :
    comma vs ++ below (itemLines depth vs) = prettyItems depth vs := by
  cases vs with
  | nil => rfl
  | cons v vs =>
    rw [itemLines, below_append, Value.below_lines depth [] (comma vs) v, prettyItems,
      ← below_itemLines]
    simp [comma]

/-- Written members are their lines, after the comma before them. -/
lemma below_memberLines (depth : Nat) (ms : List (String × Value)) :
    comma ms ++ below (memberLines depth ms) = prettyMembers depth ms := by
  cases ms with
  | nil => rfl
  | cons m ms =>
    obtain ⟨k, v⟩ := m
    rw [memberLines, below_append,
      Value.below_lines depth (writeString k ++ [':', ' ']) (comma ms) v, prettyMembers,
      ← below_memberLines]
    simp [comma]

end

/-- Lines are joined by line feeds. -/
lemma below_eq {ls : List Line} (h : ls ≠ []) :
    below ls = '\n' :: ['\n'].intercalate (ls.map Line.text) := by
  induction ls with
  | nil => exact (h rfl).elim
  | cons l ls ih =>
    cases ls with
    | nil => simp [below, newLine, Line.text]
    | cons l' ls =>
      rw [below, ih (List.cons_ne_nil l' ls), List.map_cons (l := l' :: ls), List.map_cons (l := ls),
        List.intercalate_cons_cons]
      simp [newLine, Line.text]

/-- A value has a line. -/
lemma Value.lines_ne_nil (depth : Nat) (before after : List Char) (v : Value) :
    v.lines depth before after ≠ [] := by
  cases v with
  | list vs => cases vs <;> simp [Value.lines]
  | object ms => cases ms <;> simp [Value.lines]
  | _ => simp [Value.lines]

variable {depth k : Nat} {before after : List Char} {l : Line}

/-- The lines of items are those of each. -/
lemma mem_itemLines {vs : List Value} (h : l ∈ itemLines depth vs) :
    ∃ v ∈ vs, ∃ more : List Value, l ∈ v.lines depth [] (comma more) := by
  induction vs with
  | nil => cases h
  | cons v vs ih =>
    rcases List.mem_append.1 h with here | later
    · exact ⟨v, List.mem_cons_self, vs, here⟩
    · obtain ⟨w, hw, line⟩ := ih later
      exact ⟨w, List.mem_cons_of_mem v hw, line⟩

/-- The lines of members are those of each, after its key. -/
lemma mem_memberLines {ms : List (String × Value)} (h : l ∈ memberLines depth ms) :
    ∃ m ∈ ms, ∃ more : List (String × Value),
      l ∈ m.2.lines depth (writeString m.1 ++ [':', ' ']) (comma more) := by
  induction ms with
  | nil => cases h
  | cons m ms ih =>
    rcases List.mem_append.1 h with here | later
    · exact ⟨m, List.mem_cons_self, ms, here⟩
    · obtain ⟨m', hm, line⟩ := ih later
      exact ⟨m', List.mem_cons_of_mem m hm, line⟩

/-- A line of a list is the one that it starts on, or its closing bracket, or a line of an item. -/
lemma mem_lines_list {vs : List Value} (h : l ∈ (Value.list vs).lines depth before after) :
    (∃ rest, l = ⟨depth, before ++ '[' :: rest⟩) ∨ l = ⟨depth, ']' :: after⟩ ∨
      l ∈ itemLines (depth + 1) vs := by
  cases vs with
  | nil =>
    rw [Value.lines, List.mem_singleton, List.append_assoc] at h
    · exact .inl ⟨_, h⟩
    · nofun
    · nofun
  | cons v vs =>
    rw [Value.lines, List.mem_cons, List.mem_append, List.mem_singleton] at h
    rcases h with first | items | last
    · exact .inl ⟨[], first⟩
    · exact .inr (.inr items)
    · exact .inr (.inl last)

/-- A line of an object that has members is one of its braces or a line of a member. -/
lemma mem_lines_object {m : String × Value} {ms : List (String × Value)}
    (h : l ∈ (Value.object (m :: ms)).lines depth before after) :
    l = ⟨depth, before ++ ['\x7b']⟩ ∨ l = ⟨depth, '\x7d' :: after⟩ ∨
      l ∈ memberLines (depth + 1) (m :: ms) := by
  rw [Value.lines, List.mem_cons, List.mem_append, List.mem_singleton] at h
  exact h.imp_right Or.symm

/-- Items with as many lines each. -/
lemma length_itemLines {vs : List Value}
    (h : ∀ v ∈ vs, ∀ after : List Char, (v.lines depth [] after).length = k) :
    (itemLines depth vs).length = k * vs.length := by
  induction vs with
  | nil => rfl
  | cons v vs ih =>
    rw [itemLines, List.length_append, h v List.mem_cons_self,
      ih fun w hw => h w (List.mem_cons_of_mem v hw), List.length_cons, Nat.mul_succ, Nat.add_comm]

/-- A list has one line if it is empty, and two besides those of its items if it is not. -/
lemma length_lines_list {α : Type} {toValue : α → Value} (depth : Nat) (before after : List Char)
    (h : ∀ a before after, ((toValue a).lines (depth + 1) before after).length = k) (as : List α) :
    ((Value.list (as.map toValue)).lines depth before after).length
      = if as = [] then 1 else k * as.length + 2 := by
  cases as with
  | nil => rfl
  | cons a as =>
    have items : (itemLines (depth + 1) ((a :: as).map toValue)).length = k * (a :: as).length := by
      rw [length_itemLines (k := k), List.length_map]
      intro v hv after
      obtain ⟨b, _, rfl⟩ := List.mem_map.1 hv
      exact h b [] after
    rw [List.map_cons] at items
    rw [if_neg (List.cons_ne_nil a as), List.map_cons, Value.lines, List.length_cons,
      List.length_append, items]
    rfl

end PackageFinder.Json
