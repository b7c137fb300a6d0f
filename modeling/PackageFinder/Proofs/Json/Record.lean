import PackageFinder.Proofs.Json.Scalar

/-!
# Reading written lists and records

A list of objects and a record are read back if their items and members are.  What is left open is
how one item or member is read, given enough steps and whatever may follow it in a written text.
The inductions are over the items and over the members.
-/

namespace PackageFinder.Json

/-- What follows a member in a written text: a comma, or the end of the line. -/
inductive AfterMember : List Char → Prop where
  | comma (r : List Char) : AfterMember (',' :: r)
  | newLine (r : List Char) : AfterMember ('\n' :: r)

/-- A written text, or the `null` for none, is read back. -/
lemma readTextOrNull_pretty (u : Option String) (depth : Nat) (r : List Char) :
    readTextOrNull (' ' :: ((u.elim Value.null Value.text).pretty depth ++ r)) = .ok (u, r) := by
  cases u with
  | none => exact readTextOrNull_null r
  | some u => exact readTextOrNull_writeString u r

/-- A written whole number that fits is read back before what follows a member. -/
lemma readNatural_pretty {n : Nat} (hn : n < 2 ^ 64) (depth : Nat) {r : List Char}
    (hr : AfterMember r) :
    readNatural (' ' :: ((Value.number (.whole n)).pretty depth ++ r)) = .ok (n, r) := by
  cases hr with
  | comma r => exact readNatural_write hn rfl (by decide) (by decide) (by decide) r
  | newLine r => exact readNatural_write hn rfl (by decide) (by decide) (by decide) r

/-- A written object begins with its brace. -/
lemma pretty_object (depth : Nat) (ms : List (String × Value)) :
    ∃ s, (Value.object ms).pretty depth = '{' :: s := by
  cases ms with
  | nil => exact ⟨_, by rw [Value.pretty]⟩
  | cons m ms => exact ⟨_, by rw [Value.pretty]; rfl⟩

/-- The bracket on the line after the last item ends a list. -/
lemma readItemEnd_close (depth : Nat) (r : List Char) :
    readItemEnd (newLine depth ++ ']' :: r) = .ok (.done, r) := by
  rw [readItemEnd, skipBlanks_newLine]
  rfl

/-- The object on the line after a comma is the next item. -/
lemma readItemEnd_next (depth : Nat) (r : List Char) :
    readItemEnd (',' :: (newLine depth ++ '{' :: r)) = .ok (.more, '{' :: r) := by
  have h : skipBlanks (newLine depth ++ '{' :: r) = '{' :: r := by
    rw [skipBlanks_newLine]
    rfl
  rw [readItemEnd, skipBlanks_of_not_blank (by decide)]
  simp [h]

/-- The object on the line after the bracket is the first item. -/
lemma readListStart_first (depth : Nat) (r : List Char) :
    readListStart (newLine depth ++ '{' :: r) = .ok (.more, '{' :: r) := by
  rw [readListStart, skipBlanks_newLine]
  rfl

/-- The brace on the line after the last member ends an object. -/
lemma readMemberEnd_close (depth : Nat) (r : List Char) :
    readMemberEnd (newLine depth ++ '}' :: r) = .ok (.done, r) := by
  rw [readMemberEnd, skipBlanks_newLine]
  rfl

/-- The key on the line after a comma is that of the next member. -/
lemma readMemberEnd_next (depth : Nat) (r : List Char) :
    readMemberEnd (',' :: (newLine depth ++ '"' :: r)) = .ok (.more, r) := by
  have h : skipBlanks (newLine depth ++ '"' :: r) = '"' :: r := by
    rw [skipBlanks_newLine]
    rfl
  rw [readMemberEnd, skipBlanks_of_not_blank (by decide)]
  simp [h]

/-- The key on the line after the brace is that of the first member. -/
lemma readObjectStart_first (depth : Nat) (r : List Char) :
    readObjectStart (newLine depth ++ '"' :: r) = .ok (.more, r) := by
  rw [readObjectStart, skipBlanks_newLine]
  rfl

section Lists
variable {α : Type} {item : Nat → List Char → Except Stop (α × List Char)} {write : α → Value}
  {steps depth fuel : Nat}

/-- Items that can be read are read one after the other, up to the bracket. -/
lemma readItemsWith_pretty (ho : ∀ x, ∃ s, (write x).pretty depth = '{' :: s)
    (h : ∀ x fuel r, steps ≤ fuel → item fuel ((write x).pretty depth ++ r) = .ok (x, r))
    (x : α) (xs : List α) (hf : xs.length + 1 + steps ≤ fuel) (outer : Nat) (r : List Char) :
    readItemsWith item fuel ((write x).pretty depth
      ++ (prettyItems depth (xs.map write) ++ (newLine outer ++ ']' :: r))) = .ok (x :: xs, r) := by
  -- each item takes one step of the loop, and gets the steps that are left
  induction xs generalizing x fuel with
  | nil =>
    obtain ⟨fuel, rfl⟩ : ∃ n, fuel = n + 1 := ⟨fuel - 1, by omega⟩
    rw [List.length_nil] at hf
    rw [readItemsWith, h x fuel _ (by omega), List.map_nil, prettyItems, List.nil_append]
    simp only [bind, Except.bind, readItemEnd_close]
  | cons y ys ih =>
    obtain ⟨fuel, rfl⟩ : ∃ n, fuel = n + 1 := ⟨fuel - 1, by omega⟩
    rw [List.length_cons] at hf
    have ih := @ih fuel y (by omega)
    obtain ⟨s, hs⟩ := ho y
    rw [readItemsWith, h x fuel _ (by omega), List.map_cons, prettyItems]
    simp only [hs, List.cons_append, List.append_assoc] at ih ⊢
    simp only [bind, Except.bind, readItemEnd_next, ih]

/-- A written list of objects that can be read is read. -/
lemma readListWith_pretty (ho : ∀ x, ∃ s, (write x).pretty (depth + 1) = '{' :: s)
    (h : ∀ x fuel r, steps ≤ fuel → item fuel ((write x).pretty (depth + 1) ++ r) = .ok (x, r))
    (xs : List α) (hf : xs.length + steps ≤ fuel) (r : List Char) :
    readListWith item fuel ((Value.list (xs.map write)).pretty depth ++ r) = .ok (xs, r) := by
  cases xs with
  | nil =>
    rw [List.map_nil, Value.pretty]
    rfl
  | cons x xs =>
    rw [List.length_cons] at hf
    have hi := readItemsWith_pretty ho h x xs hf depth r
    obtain ⟨s, hs⟩ := ho x
    rw [List.map_cons, Value.pretty]
    simp only [hs, List.cons_append, List.append_assoc, List.nil_append] at hi ⊢
    rw [readListWith, skipBlanks_of_not_blank (by decide)]
    simp only [bind, Except.bind, readListStart_first, hi]

end Lists

/-- A written list is at least as long as the list. -/
lemma length_le_length_pretty (depth : Nat) (vs : List Value) :
    vs.length ≤ ((Value.list vs).pretty depth).length := by
  have hi : ∀ ws, ws.length ≤ (prettyItems (depth + 1) ws).length := by
    intro ws
    induction ws with
    | nil => exact Nat.zero_le _
    | cons w ws ih =>
      rw [prettyItems]
      simp only [List.length_cons, List.length_append, List.cons_append]
      omega
  cases vs with
  | nil => exact Nat.zero_le _
  | cons v vs =>
    have := hi vs
    rw [Value.pretty]
    simp only [List.length_cons, List.length_append, List.cons_append]
    omega

/-- A written object is longer than each of its values. -/
lemma length_pretty_member (depth : Nat) {k : String} {v : Value} {ms : List (String × Value)}
    (h : (k, v) ∈ ms) :
    (v.pretty (depth + 1)).length + 4 ≤ ((Value.object ms).pretty depth).length := by
  have hi : ∀ ns, (k, v) ∈ ns →
      (v.pretty (depth + 1)).length + 4 ≤ (prettyMembers (depth + 1) ns).length := by
    intro ns hn
    induction ns with
    | nil => exact absurd hn List.not_mem_nil
    | cons n ns ih =>
      obtain ⟨k', v'⟩ := n
      rw [prettyMembers]
      simp only [writeString, newLine, List.length_cons, List.length_append, List.length_nil,
        List.cons_append]
      cases List.mem_cons.1 hn with
      | inl e =>
        cases e
        omega
      | inr hn =>
        have := ih hn
        omega
  cases ms with
  | nil => exact absurd h List.not_mem_nil
  | cons m ms =>
    obtain ⟨k', v'⟩ := m
    rw [Value.pretty]
    simp only [writeString, newLine, List.length_cons, List.length_append, List.length_nil,
      List.cons_append]
    cases List.mem_cons.1 h with
    | inl e =>
      cases e
      omega
    | inr h =>
      have := hi ms h
      omega

/-- A written object is longer than each of its lists. -/
lemma length_le_of_list_member {α : Type} (depth : Nat) (k : String) (write : α → Value)
    (xs : List α) {ms : List (String × Value)} (h : (k, .list (xs.map write)) ∈ ms) :
    xs.length + 4 ≤ ((Value.object ms).pretty depth).length := by
  have hl := length_le_length_pretty (depth + 1) (xs.map write)
  have hm := length_pretty_member depth h
  rw [List.length_map] at hl
  omega

namespace RecordShape
variable {σ α : Type} {shape : RecordShape σ α} {steps depth fuel : Nat} {d d' : σ}

/-- A written member is read onto what has been collected, in `steps` steps or more. -/
def Takes (shape : RecordShape σ α) (steps depth : Nat) (d : σ) (k : String) (v : Value)
    (d' : σ) : Prop :=
  ∀ fuel r, steps ≤ fuel → AfterMember r →
    shape.readMember fuel d
      (k.toList.flatMap escapeChar ++ '"' :: ':' :: ' ' :: (v.pretty depth ++ r)) = .ok (d', r)

/-- Written members are read onto what has been collected, one after the other. -/
inductive Collects (shape : RecordShape σ α) (steps depth : Nat) :
    σ → List (String × Value) → σ → Prop where
  | nil {a} : Collects shape steps depth a [] a
  | cons {a b c k v ms} :
    Takes shape steps depth a k v b →
    Collects shape steps depth b ms c →
    Collects shape steps depth a ((k, v) :: ms) c

/-- A member is taken if its field is still open and what is written for it is read. -/
lemma Takes.of_field {β : Type} {k : String} {v : Value} {get : σ → Option β} {set : σ → β → σ}
    {reader : Nat → List Char → Except Stop (β × List Char)} {mayMiss : Bool} (x : β)
    (hfind : shape.fields.find? (·.name = k) = some (.of k get set reader mayMiss))
    (hset : get d = none)
    (hread : ∀ fuel r, steps ≤ fuel → AfterMember r →
      reader fuel (' ' :: (v.pretty depth ++ r)) = .ok (x, r)) :
    Takes shape steps depth d k v (set d x) := by
  intro fuel r hf hr
  have hc (s : List Char) : readColon (':' :: s) = .ok ((), s) := rfl
  have hx := hread fuel r hf hr
  unfold readMember
  simp only [readString_flatMap_escapeChar, String.ofList_toList, bind, Except.bind, hfind,
    Field.of, hset, Option.isSome_none, Bool.false_eq_true, if_false, hc, hx]

/-- A written text is taken by a field that keeps a text. -/
lemma Takes.of_text {k : String} {get : σ → Option String} {set : σ → String → σ} (t : String)
    (hfind : shape.fields.find? (·.name = k) = some (.of k get set fun _ => readText))
    (hset : get d = none) :
    Takes shape steps depth d k (.text t) (set d t) :=
  .of_field t hfind hset fun _ r _ _ => readText_writeString t r

/-- Members that can be read are read one after the other, up to the brace. -/
lemma Collects.readMembers {k : String} {v : Value} {ms : List (String × Value)}
    (h : Collects shape steps depth d ((k, v) :: ms) d') (hf : ms.length + 1 + steps ≤ fuel)
    (outer : Nat) (r : List Char) :
    shape.readMembers fuel d (k.toList.flatMap escapeChar ++ '"' :: ':' :: ' '
      :: (v.pretty depth ++ (prettyMembers depth ms ++ (newLine outer ++ '}' :: r))))
      = .ok (d', r) := by
  -- as for items; what has been collected grows by each member
  induction ms generalizing d k v fuel with
  | nil =>
    obtain ⟨fuel, rfl⟩ : ∃ n, fuel = n + 1 := ⟨fuel - 1, by omega⟩
    cases h with
    | cons ht hn =>
      cases hn
      rw [List.length_nil] at hf
      have ht := ht fuel (newLine outer ++ '}' :: r) (by omega) (.newLine _)
      rw [prettyMembers, List.nil_append, RecordShape.readMembers, ht]
      simp only [bind, Except.bind, readMemberEnd_close]
  | cons m ms ih =>
    obtain ⟨fuel, rfl⟩ : ∃ n, fuel = n + 1 := ⟨fuel - 1, by omega⟩
    obtain ⟨k', v'⟩ := m
    cases h with
    | @cons _ b _ _ _ _ ht hm =>
      rw [List.length_cons] at hf
      have ih := @ih fuel b k' v' hm (by omega)
      have ht := ht fuel
        (prettyMembers depth ((k', v') :: ms) ++ (newLine outer ++ '}' :: r)) (by omega)
        (by rw [prettyMembers]; exact .comma _)
      rw [RecordShape.readMembers, ht, prettyMembers]
      simp only [List.cons_append, List.append_assoc, List.nil_append, writeString_append]
      simp only [bind, Except.bind, readMemberEnd_next, ih]

/-- A record is read back from its written members. -/
lemma read_pretty {ms : List (String × Value)} {x : α}
    (h : Collects shape steps (depth + 1) shape.empty ms d) (hx : shape.finish d = .ok x)
    (hf : ms.length + steps ≤ fuel) (r : List Char) :
    shape.read fuel ((Value.object ms).pretty depth ++ r) = .ok (x, r) := by
  have hc : shape.complete d r = .ok (x, r) := by simp only [complete, hx]
  cases ms with
  | nil =>
    cases h
    rw [Value.pretty]
    exact hc
  | cons m ms =>
    obtain ⟨k, v⟩ := m
    rw [List.length_cons] at hf
    have hm := h.readMembers hf depth r
    rw [Value.pretty]
    simp only [List.cons_append, List.append_assoc, List.nil_append, writeString_append]
    rw [read, skipBlanks_of_not_blank (by decide)]
    simp only [bind, Except.bind, readObjectStart_first, hm, hc]

end RecordShape

end PackageFinder.Json
