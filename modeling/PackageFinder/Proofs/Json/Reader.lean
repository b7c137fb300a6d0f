import PackageFinder.Proofs.Json.Numeral
import PackageFinder.Proofs.Json.Token

/-!
# Reading values

The reader takes exactly the texts of trees that are not too deep and whose numbers are not too large,
and makes of them the values of these trees. One direction is by induction on the grammar, the other by
induction on the steps of the reader.
-/

namespace PackageFinder.Json

variable {s r : List Char}

/-! ## What is read stands in the text -/

/-- A value stands in a text after blanks. -/
def HasValue (depth : ℕ) (s : List Char) (v : Value) (r : List Char) : Prop :=
  ∃ t s₁, Blanks s s₁ ∧ Starts (.value t) s₁ r ∧ t.depth ≤ depth ∧ t.value? = some v

/-- Items stand in a text after blanks. -/
def HasItems (depth : ℕ) (s : List Char) (vs : List Value) (r : List Char) : Prop :=
  ∃ ts s₁, Blanks s s₁ ∧ Starts (.items ts) s₁ r ∧ itemsDepth ts ≤ depth ∧ itemsValue? ts = some vs

/-- Members stand in a text from the first quote on. -/
def HasMembers (depth : ℕ) (s : List Char) (ms : List (String × Value)) (r : List Char) : Prop :=
  ∃ ts, Starts (.members ts) ('"' :: s) r ∧ membersDepth ts ≤ depth ∧ membersValue? ts = some ms

/-- A number that is read stands in the text, with its sign. -/
lemma exists_number {negative : Bool} {x : Number} (h : readNumber negative s = .ok (x, r)) :
    ∃ t : Tree, Starts (.value t) (if negative then '-' :: s else s) r ∧ t.depth = 0 ∧
      t.value? = some (.number x) := by
  obtain ⟨n, r', rfl, rfl, ends⟩ := exists_numeral h
  have read := Numeral.readNumber_toOption ends
  rw [h] at read
  obtain ⟨x', value, same⟩ := Option.map_eq_some_iff.1 read.symm
  cases same
  have text : (if n.negative then '-' :: (n.unsigned ++ r) else n.unsigned ++ r) = n.text ++ r := by
    rw [Numeral.text]
    split
    · rw [List.cons_append]
    · rfl
  rw [text]
  exact ⟨.number n, .number, rfl, by rw [Tree.value?, value]; rfl⟩

section
variable {fuel depth : ℕ}

/-- One step into a value. -/
lemma hasValue_of_readValue
    (ih_items : ∀ depth s vs r, readItems fuel depth s = .ok (vs, r) → HasItems depth s vs r)
    (ih_members : ∀ depth s ms r, readMembers fuel depth s = .ok (ms, r) → HasMembers depth s ms r)
    {v : Value} (h : readValue (fuel + 1) depth s = .ok (v, r)) : HasValue depth s v r := by
  have blanks := blanks_skipBlanks s
  rw [readValue] at h
  cases start : skipBlanks s with
  | nil =>
    rw [start] at h
    cases h
  | cons c s₁ =>
    rw [start] at h blanks
    dsimp only at h
    suffices found : ∃ t, Starts (.value t) (c :: s₁) r ∧ t.depth ≤ depth ∧ t.value? = some v by
      obtain ⟨t, stands, rest⟩ := found
      exact ⟨t, _, blanks, stands, rest⟩
    -- what the value starts with tells what it is
    split at h
    · rename_i null
      subst null
      obtain ⟨⟨_, r'⟩, word, h⟩ := bind_eq_ok h
      cases h
      cases readWord_eq_ok_iff.1 word
      exact ⟨.null, .null, Nat.zero_le _, rfl⟩
    split at h
    · rename_i yes
      subst yes
      obtain ⟨⟨_, r'⟩, word, h⟩ := bind_eq_ok h
      cases h
      cases readWord_eq_ok_iff.1 word
      exact ⟨.bool true, .yes, Nat.zero_le _, rfl⟩
    split at h
    · rename_i no
      subst no
      obtain ⟨⟨_, r'⟩, word, h⟩ := bind_eq_ok h
      cases h
      cases readWord_eq_ok_iff.1 word
      exact ⟨.bool false, .no, Nat.zero_le _, rfl⟩
    split at h
    · rename_i quote
      subst quote
      obtain ⟨⟨t, r'⟩, string, h⟩ := bind_eq_ok h
      cases h
      exact ⟨.text _, .text (readString_eq_ok_iff.1 string), Nat.zero_le _, rfl⟩
    split at h
    · rename_i minus
      subst minus
      obtain ⟨⟨x, r'⟩, number, h⟩ := bind_eq_ok h
      cases h
      obtain ⟨t, stands, flat, value⟩ := exists_number number
      exact ⟨t, stands, flat.le.trans (Nat.zero_le _), value⟩
    split at h
    · obtain ⟨⟨x, r'⟩, number, h⟩ := bind_eq_ok h
      cases h
      obtain ⟨t, stands, flat, value⟩ := exists_number number
      exact ⟨t, stands, flat.le.trans (Nat.zero_le _), value⟩
    split at h
    · rename_i bracket
      subst bracket
      cases depth with
      | zero => cases h
      | succ depth =>
        obtain ⟨⟨next, s₂⟩, first, h⟩ := bind_eq_ok h
        cases next with
        | done =>
          cases h
          exact ⟨.list [], .emptyList (readListStart_eq_done_iff.1 first),
            Nat.succ_le_succ (Nat.zero_le _), rfl⟩
        | more =>
          obtain ⟨⟨vs, r'⟩, items, h⟩ := bind_eq_ok h
          cases h
          obtain ⟨ts, s₃, more, stand, low, values⟩ := ih_items _ _ _ _ items
          have before := blanks_of_skipBlanks (readListStart_eq_more_iff.1 first).1
          refine ⟨.list ts, .list (before.trans more) stand, Nat.succ_le_succ low, ?_⟩
          rw [Tree.value?, values]
          rfl
    split at h
    · rename_i brace
      subst brace
      cases depth with
      | zero => cases h
      | succ depth =>
        obtain ⟨⟨next, s₂⟩, first, h⟩ := bind_eq_ok h
        cases next with
        | done =>
          cases h
          exact ⟨.object [], .emptyObject (readObjectStart_eq_done_iff.1 first),
            Nat.succ_le_succ (Nat.zero_le _), rfl⟩
        | more =>
          obtain ⟨⟨ms, r'⟩, members, h⟩ := bind_eq_ok h
          cases h
          obtain ⟨ts, stand, low, values⟩ := ih_members _ _ _ _ members
          have before := readObjectStart_eq_more_iff.1 first
          refine ⟨.object ts, .object before stand, Nat.succ_le_succ low, ?_⟩
          rw [Tree.value?, values]
          rfl
    · cases h

/-- One step into the items of a list. -/
lemma hasItems_of_readItems
    (ih_value : ∀ depth s v r, readValue fuel depth s = .ok (v, r) → HasValue depth s v r)
    (ih_items : ∀ depth s vs r, readItems fuel depth s = .ok (vs, r) → HasItems depth s vs r)
    {vs : List Value} (h : readItems (fuel + 1) depth s = .ok (vs, r)) : HasItems depth s vs r := by
  rw [readItems] at h
  obtain ⟨⟨v, s₂⟩, first, h⟩ := bind_eq_ok h
  obtain ⟨⟨next, s₃⟩, mark, h⟩ := bind_eq_ok h
  obtain ⟨t, s₁, blanks, stands, low, value⟩ := ih_value _ _ _ _ first
  cases next with
  | done =>
    cases h
    have bracket := readItemEnd_eq_done_iff.1 mark
    refine ⟨[t], s₁, blanks, .lastItem stands bracket, max_le low (Nat.zero_le _), ?_⟩
    rw [itemsValue?, value]
    rfl
  | more =>
    obtain ⟨⟨vs, r'⟩, items, h⟩ := bind_eq_ok h
    cases h
    obtain ⟨s₄, comma, cut, -⟩ := readItemEnd_eq_more_iff.1 mark
    obtain ⟨ts, s₅, more, stand, low', values⟩ := ih_items _ _ _ _ items
    have before := blanks_of_skipBlanks cut
    refine ⟨t :: ts, s₁, blanks, .nextItem stands comma (before.trans more) stand, max_le low low', ?_⟩
    rw [itemsValue?, value, values]
    rfl

/-- One step into the members of an object. -/
lemma hasMembers_of_readMembers
    (ih_value : ∀ depth s v r, readValue fuel depth s = .ok (v, r) → HasValue depth s v r)
    (ih_members : ∀ depth s ms r, readMembers fuel depth s = .ok (ms, r) → HasMembers depth s ms r)
    {ms : List (String × Value)} (h : readMembers (fuel + 1) depth s = .ok (ms, r)) :
    HasMembers depth s ms r := by
  rw [readMembers] at h
  obtain ⟨⟨key, s₁⟩, quoted, h⟩ := bind_eq_ok h
  obtain ⟨⟨_, s₂⟩, colon, h⟩ := bind_eq_ok h
  obtain ⟨⟨v, s₃⟩, first, h⟩ := bind_eq_ok h
  obtain ⟨⟨next, s₄⟩, mark, h⟩ := bind_eq_ok h
  obtain ⟨t, s₅, blanks, stands, low, value⟩ := ih_value _ _ _ _ first
  have key_quoted := readString_eq_ok_iff.1 quoted
  have colon := readColon_eq_ok_iff.1 colon
  cases next with
  | done =>
    cases h
    have brace := readMemberEnd_eq_done_iff.1 mark
    refine ⟨[(String.ofList key, t)], .lastMember key_quoted colon blanks stands brace,
      max_le low (Nat.zero_le _), ?_⟩
    rw [membersValue?, value]
    rfl
  | more =>
    obtain ⟨⟨ms, r'⟩, members, h⟩ := bind_eq_ok h
    cases h
    obtain ⟨s₆, comma, more⟩ := readMemberEnd_eq_more_iff.1 mark
    obtain ⟨ts, stand, low', values⟩ := ih_members _ _ _ _ members
    refine ⟨(String.ofList key, t) :: ts,
      .nextMember key_quoted colon blanks stands comma more stand, max_le low low', ?_⟩
    rw [membersValue?, value, values]
    rfl

end

/-- What is read stands in the text. -/
lemma reads_stands (fuel : ℕ) :
    (∀ depth s v r, readValue fuel depth s = .ok (v, r) → HasValue depth s v r) ∧
    (∀ depth s vs r, readItems fuel depth s = .ok (vs, r) → HasItems depth s vs r) ∧
    ∀ depth s ms r, readMembers fuel depth s = .ok (ms, r) → HasMembers depth s ms r := by
  induction fuel with
  | zero =>
    refine ⟨?_, ?_, ?_⟩
    · intro depth s v r h
      cases h
    · intro depth s vs r h
      cases h
    · intro depth s ms r h
      cases h
  | succ fuel ih =>
    obtain ⟨ih_value, ih_items, ih_members⟩ := ih
    refine ⟨?_, ?_, ?_⟩
    · intro depth s v r h
      exact hasValue_of_readValue ih_items ih_members h
    · intro depth s vs r h
      exact hasItems_of_readItems ih_value ih_items h
    · intro depth s ms r h
      exact hasMembers_of_readMembers ih_value ih_members h

/-! ## What stands in the text is read -/

/-- A text that goes on with no number. -/
def Follows (r : List Char) : Prop :=
  ∀ c ∈ r.head?, isBlank c = true ∨ c = ',' ∨ c = ']' ∨ c = '}'

/-- No number goes on where blanks lead to a comma or to something that closes. -/
lemma Blanks.follows {c : Char} (h : Blanks s (c :: r)) (mark : c = ',' ∨ c = ']' ∨ c = '}') :
    Follows s := by
  cases h with
  | nil =>
    rintro _ ⟨⟩
    exact .inr mark
  | cons blank =>
    rintro _ ⟨⟩
    exact .inl blank

/-- Nor where they lead to the end. -/
lemma Blanks.follows_nil (h : Blanks s []) : Follows s := by
  cases h with
  | nil => exact nofun
  | cons blank =>
    rintro _ ⟨⟩
    exact .inl blank

/-- A number ends where no number goes on. -/
lemma Follows.ends (h : Follows r) (n : Numeral) : n.Ends r := by
  have marks : ∀ c, isBlank c = true ∨ c = ',' ∨ c = ']' ∨ c = '}' →
      c.isDigit = false ∧ c ≠ 'e' ∧ c ≠ 'E' ∧ c ≠ '.' := by
    simp only [isBlank, Bool.or_eq_true, decide_eq_true_eq]
    rintro c ((((rfl | rfl) | rfl) | rfl) | rfl | rfl | rfl)
    all_goals decide
  refine ⟨fun c hc => (marks c (h c hc)).1, fun _ => ⟨fun e => ?_, fun e => ?_⟩, fun _ _ e => ?_⟩
  · exact (marks _ (h _ e)).2.1 rfl
  · exact (marks _ (h _ e)).2.2.1 rfl
  · exact (marks _ (h _ e)).2.2.2 rfl

/-- A number starts with a sign or a digit. -/
lemma Numeral.exists_head (n : Numeral) :
    (n.negative = true ∧ n.text = '-' :: n.unsigned) ∨
      ∃ c s', n.negative = false ∧ n.text = n.unsigned ∧ n.unsigned = c :: s' ∧ c.isDigit = true := by
  cases negative : n.negative with
  | true => exact .inl ⟨rfl, by rw [text, if_pos negative]⟩
  | false =>
    obtain ⟨c, w, hw⟩ := List.exists_cons_of_ne_nil n.nonempty
    refine .inr ⟨c, w ++ (n.fraction ++ n.tail), rfl, ?_, ?_, ?_⟩
    · rw [text, negative, if_neg Bool.false_ne_true]
    · rw [unsigned, hw, List.cons_append]
    · exact n.digits c (by rw [hw]; exact List.mem_cons_self)

/-- A value starts with a character that is neither blank nor a bracket that closes. -/
lemma Starts.head {t : Tree} (h : Starts (.value t) s r) :
    ∃ c s', s = c :: s' ∧ isBlank c = false ∧ c ≠ ']' := by
  cases h with
  | null => exact ⟨'n', _, rfl, rfl, by decide⟩
  | yes => exact ⟨'t', _, rfl, rfl, by decide⟩
  | no => exact ⟨'f', _, rfl, rfl, by decide⟩
  | text => exact ⟨'"', _, rfl, rfl, by decide⟩
  | emptyList => exact ⟨'[', _, rfl, rfl, by decide⟩
  | list => exact ⟨'[', _, rfl, rfl, by decide⟩
  | emptyObject => exact ⟨'{', _, rfl, rfl, by decide⟩
  | object => exact ⟨'{', _, rfl, rfl, by decide⟩
  | @number n =>
    obtain ⟨-, text⟩ | ⟨c, s, -, text, start, digit⟩ := n.exists_head
    · exact ⟨'-', n.unsigned ++ r, by rw [text]; rfl, rfl, by decide⟩
    · refine ⟨c, s ++ r, by rw [text, start]; rfl, isBlank_of_isDigit digit, ?_⟩
      rintro rfl
      cases digit

/-- A number has a character. -/
lemma Numeral.text_ne_nil (n : Numeral) : n.text ≠ [] := by
  obtain ⟨-, text⟩ | ⟨c, s, -, text, start, -⟩ := n.exists_head
  · rw [text]
    exact List.cons_ne_nil _ _
  · rw [text, start]
    exact List.cons_ne_nil _ _

/-- Something is taken off the text. -/
lemma Starts.length_lt {p : Part} (h : Starts p s r) : r.length < s.length := by
  induction h with
  | @number n r =>
    have := List.length_pos_iff.2 n.text_ne_nil
    rw [List.length_append]
    omega
  | text quoted => exact Nat.lt_succ_of_lt quoted.length_lt
  | emptyList blanks =>
    have := blanks.length_le
    simp only [List.length_cons] at *
    omega
  | list blanks _ ih =>
    have := blanks.length_le
    simp only [List.length_cons] at *
    omega
  | lastItem _ blanks ih =>
    have := blanks.length_le
    simp only [List.length_cons] at *
    omega
  | nextItem _ comma blanks _ ih ih' =>
    have := comma.length_le
    have := blanks.length_le
    simp only [List.length_cons] at *
    omega
  | emptyObject blanks =>
    have := blanks.length_le
    simp only [List.length_cons] at *
    omega
  | object blanks _ ih =>
    have := blanks.length_le
    simp only [List.length_cons] at *
    omega
  | lastMember quoted colon blanks _ brace ih =>
    have := quoted.length_lt
    have := colon.length_le
    have := blanks.length_le
    have := brace.length_le
    simp only [List.length_cons] at *
    omega
  | nextMember quoted colon blanks _ comma more _ ih ih' =>
    have := quoted.length_lt
    have := colon.length_le
    have := blanks.length_le
    have := comma.length_le
    have := more.length_le
    simp only [List.length_cons] at *
    omega
  | _ =>
    rw [List.length_append]
    exact Nat.lt_add_of_pos_left (by decide)

/-- The reader takes a part for what it stands for, given enough steps: two for each character. -/
def Part.IsRead : Part → List Char → List Char → Prop
  | .value t, s, r => ∀ v fuel depth, t.value? = some v → t.depth ≤ depth →
    2 * s.length ≤ fuel + 1 → Follows r → readValue (fuel + 1) depth s = .ok (v, r)
  | .items ts, s, r => ∀ vs fuel depth, itemsValue? ts = some vs → itemsDepth ts ≤ depth →
    2 * s.length ≤ fuel → readItems (fuel + 1) depth s = .ok (vs, r)
  | .members ts, s, r => ∃ s', s = '"' :: s' ∧ ∀ ms fuel depth, membersValue? ts = some ms →
    membersDepth ts ≤ depth → 2 * s'.length ≤ fuel → readMembers (fuel + 1) depth s' = .ok (ms, r)

/-- Blanks before a value are passed over. -/
lemma readValue_blanks {s₁ : List Char} (h : Blanks s s₁) (fuel depth : ℕ) :
    readValue (fuel + 1) depth s = readValue (fuel + 1) depth s₁ := by
  rw [readValue, readValue, h.skipBlanks]

section
variable {fuel depth : ℕ}

/-- A number is read for what it stands for, with its sign. -/
lemma readValue_number {n : Numeral} {x : Number} (value : n.number? = some x) (h : Follows r) :
    readValue (fuel + 1) depth (n.text ++ r) = .ok (.number x, r) := by
  have read : readNumber n.negative (n.unsigned ++ r) = .ok (x, r) := by
    refine eq_ok_of_toOption ?_
    rw [Numeral.readNumber_toOption (h.ends n), value]
    rfl
  obtain ⟨negative, text⟩ | ⟨c, s', negative, text, start, digit⟩ := n.exists_head
  · rw [negative] at read
    rw [text, List.cons_append, readValue, skipBlanks_of_not_blank rfl]
    change (readNumber true (n.unsigned ++ r) >>= _) = _
    rw [read]
    rfl
  · rw [negative, start, List.cons_append] at read
    rw [text, start, List.cons_append, readValue, skipBlanks_of_not_blank (isBlank_of_isDigit digit)]
    have ne : ∀ c', c'.isDigit = false → c ≠ c' := by
      rintro c' no_digit rfl
      rw [digit] at no_digit
      cases no_digit
    dsimp only
    rw [if_neg (ne _ rfl), if_neg (ne _ rfl), if_neg (ne _ rfl), if_neg (ne _ rfl),
      if_neg (ne _ rfl), if_pos digit, read]
    rfl

/-- A string is read after its quote. -/
lemma readValue_text {t : List Char} (h : Quoted t s r) :
    readValue (fuel + 1) depth ('"' :: s) = .ok (.text (String.ofList t), r) := by
  rw [readValue, skipBlanks_of_not_blank rfl]
  change (readString s >>= _) = _
  rw [readString_eq_ok_iff.2 h]
  rfl

/-- A list without items is read if one more level is left for it. -/
lemma readValue_emptyList (h : readListStart s = .ok (.done, r)) :
    readValue (fuel + 1) (depth + 1) ('[' :: s) = .ok (.list [], r) := by
  rw [readValue, skipBlanks_of_not_blank rfl]
  change (readListStart s >>= _) = _
  rw [h]
  rfl

/-- A list is read with the items that are read in it. -/
lemma readValue_list {s₁ : List Char} {vs : List Value} (first : readListStart s = .ok (.more, s₁))
    (h : readItems fuel depth s₁ = .ok (vs, r)) :
    readValue (fuel + 1) (depth + 1) ('[' :: s) = .ok (.list vs, r) := by
  rw [readValue, skipBlanks_of_not_blank rfl]
  change (readListStart s >>= _) = _
  rw [first]
  change (readItems fuel depth s₁ >>= _) = _
  rw [h]
  rfl

/-- An object without members is read if one more level is left for it. -/
lemma readValue_emptyObject (h : readObjectStart s = .ok (.done, r)) :
    readValue (fuel + 1) (depth + 1) ('{' :: s) = .ok (.object [], r) := by
  rw [readValue, skipBlanks_of_not_blank rfl]
  change (readObjectStart s >>= _) = _
  rw [h]
  rfl

/-- An object is read with the members that are read in it. -/
lemma readValue_object {s₁ : List Char} {ms : List (String × Value)}
    (first : readObjectStart s = .ok (.more, s₁)) (h : readMembers fuel depth s₁ = .ok (ms, r)) :
    readValue (fuel + 1) (depth + 1) ('{' :: s) = .ok (.object ms, r) := by
  rw [readValue, skipBlanks_of_not_blank rfl]
  change (readObjectStart s >>= _) = _
  rw [first]
  change (readMembers fuel depth s₁ >>= _) = _
  rw [h]
  rfl

/-- The last item is read alone. -/
lemma readItems_last {s₁ : List Char} {v : Value} (first : readValue fuel depth s = .ok (v, s₁))
    (mark : readItemEnd s₁ = .ok (.done, r)) :
    readItems (fuel + 1) depth s = .ok ([v], r) := by
  rw [readItems, first]
  change (readItemEnd s₁ >>= _) = _
  rw [mark]
  rfl

/-- An item that a comma follows is read before the items after the comma. -/
lemma readItems_next {s₁ s₂ : List Char} {v : Value} {vs : List Value}
    (first : readValue fuel depth s = .ok (v, s₁)) (mark : readItemEnd s₁ = .ok (.more, s₂))
    (rest : readItems fuel depth s₂ = .ok (vs, r)) :
    readItems (fuel + 1) depth s = .ok (v :: vs, r) := by
  rw [readItems, first]
  change (readItemEnd s₁ >>= _) = _
  rw [mark]
  change (readItems fuel depth s₂ >>= _) = _
  rw [rest]
  rfl

/-- The last member is read alone. -/
lemma readMembers_last {key s₁ s₂ s₃ : List Char} {v : Value} (quoted : Quoted key s s₁)
    (colon : readColon s₁ = .ok ((), s₂)) (first : readValue fuel depth s₂ = .ok (v, s₃))
    (mark : readMemberEnd s₃ = .ok (.done, r)) :
    readMembers (fuel + 1) depth s = .ok ([(String.ofList key, v)], r) := by
  rw [readMembers, readString_eq_ok_iff.2 quoted]
  change (readColon s₁ >>= _) = _
  rw [colon]
  change (readValue fuel depth s₂ >>= _) = _
  rw [first]
  change (readMemberEnd s₃ >>= _) = _
  rw [mark]
  rfl

/-- A member that a comma follows is read before the members after the comma. -/
lemma readMembers_next {key s₁ s₂ s₃ s₄ : List Char} {v : Value} {ms : List (String × Value)}
    (quoted : Quoted key s s₁) (colon : readColon s₁ = .ok ((), s₂))
    (first : readValue fuel depth s₂ = .ok (v, s₃)) (mark : readMemberEnd s₃ = .ok (.more, s₄))
    (rest : readMembers fuel depth s₄ = .ok (ms, r)) :
    readMembers (fuel + 1) depth s = .ok ((String.ofList key, v) :: ms, r) := by
  rw [readMembers, readString_eq_ok_iff.2 quoted]
  change (readColon s₁ >>= _) = _
  rw [colon]
  change (readValue fuel depth s₂ >>= _) = _
  rw [first]
  change (readMemberEnd s₃ >>= _) = _
  rw [mark]
  change (readMembers fuel depth s₄ >>= _) = _
  rw [rest]
  rfl

end

/-- Items start with a value. -/
lemma Starts.items_head {ts : List Tree} (h : Starts (.items ts) s r) :
    ∃ c s', s = c :: s' ∧ isBlank c = false ∧ c ≠ ']' := by
  cases h with
  | lastItem first => exact first.head
  | nextItem first => exact first.head

/-- Blanks end before items. -/
lemma Starts.skipBlanks_items {s₁ : List Char} {ts : List Tree} (h : Starts (.items ts) s₁ r)
    (blanks : Blanks s s₁) : skipBlanks s = s₁ ∧ s₁ ≠ [] ∧ s₁.head? ≠ some ']' := by
  obtain ⟨c, s', rfl, black, no_bracket⟩ := h.items_head
  refine ⟨blanks.skipBlanks_cons black, List.cons_ne_nil _ _, ?_⟩
  rintro ⟨⟩
  exact no_bracket rfl

/-- What stands in the text is read. -/
lemma Starts.isRead {p : Part} (h : Starts p s r) : p.IsRead s r := by
  induction h with
  | null =>
    intro v fuel depth value _ _ _
    cases value
    rfl
  | yes =>
    intro v fuel depth value _ _ _
    cases value
    rfl
  | no =>
    intro v fuel depth value _ _ _
    cases value
    rfl
  | number =>
    intro v fuel depth value _ _ follows
    obtain ⟨x, number, rfl⟩ := Option.map_eq_some_iff.1 value
    exact readValue_number number follows
  | text quoted =>
    intro v fuel depth value _ _ _
    cases value
    exact readValue_text quoted
  | emptyList bracket =>
    intro v fuel depth value low _ _
    cases value
    obtain ⟨depth, rfl⟩ := Nat.exists_eq_add_of_lt low
    exact readValue_emptyList (readListStart_eq_done_iff.2 bracket)
  | @list ts s s₁ r blanks items ih =>
    intro v fuel depth value low enough _
    obtain ⟨vs, values, rfl⟩ := Option.map_eq_some_iff.1 value
    have := blanks.length_le
    rw [List.length_cons] at enough
    obtain ⟨fuel, rfl⟩ : ∃ n, fuel = n + 1 := ⟨fuel - 1, by omega⟩
    obtain ⟨depth, rfl⟩ : ∃ n, depth = n + 1 := ⟨depth - 1, by rw [Tree.depth] at low; omega⟩
    have first := readListStart_eq_more_iff.2 (items.skipBlanks_items blanks)
    exact readValue_list first (ih vs fuel depth values (Nat.le_of_succ_le_succ low) (by omega))
  | @lastItem t s s₁ r first bracket ih =>
    intro vs fuel depth values low enough
    obtain ⟨v, value, rest⟩ := Option.bind_eq_some_iff.1 values
    cases rest
    have := first.length_lt
    obtain ⟨fuel, rfl⟩ : ∃ n, fuel = n + 1 := ⟨fuel - 1, by omega⟩
    have read := ih v fuel depth value (le_trans (le_max_left _ _) low) (by omega)
      (bracket.follows (.inr (.inl rfl)))
    exact readItems_last read (readItemEnd_eq_done_iff.2 bracket)
  | @nextItem t ts s s₁ s₂ s₃ r first comma blanks rest ih ih' =>
    intro vs fuel depth values low enough
    obtain ⟨v, value, others⟩ := Option.bind_eq_some_iff.1 values
    obtain ⟨vs, rest_values, rfl⟩ := Option.map_eq_some_iff.1 others
    have := first.length_lt
    have := comma.length_le
    have := blanks.length_le
    rw [List.length_cons] at *
    obtain ⟨fuel, rfl⟩ : ∃ n, fuel = n + 1 := ⟨fuel - 1, by omega⟩
    have read := ih v fuel depth value (le_trans (le_max_left _ _) low) (by omega)
      (comma.follows (.inl rfl))
    have mark := readItemEnd_eq_more_iff.2 ⟨s₂, comma, rest.skipBlanks_items blanks⟩
    exact readItems_next read mark
      (ih' vs fuel depth rest_values (le_trans (le_max_right _ _) low) (by omega))
  | emptyObject brace =>
    intro v fuel depth value low _ _
    cases value
    obtain ⟨depth, rfl⟩ := Nat.exists_eq_add_of_lt low
    exact readValue_emptyObject (readObjectStart_eq_done_iff.2 brace)
  | @object ts s s₁ r blanks members ih =>
    intro v fuel depth value low enough _
    obtain ⟨ms, values, rfl⟩ := Option.map_eq_some_iff.1 value
    obtain ⟨s', rfl, ih⟩ := ih
    have := blanks.length_le
    rw [List.length_cons] at *
    obtain ⟨fuel, rfl⟩ : ∃ n, fuel = n + 1 := ⟨fuel - 1, by omega⟩
    obtain ⟨depth, rfl⟩ : ∃ n, depth = n + 1 := ⟨depth - 1, by rw [Tree.depth] at low; omega⟩
    have first := readObjectStart_eq_more_iff.2 blanks
    exact readValue_object first (ih ms fuel depth values (Nat.le_of_succ_le_succ low) (by omega))
  | @lastMember key t s s₁ s₂ s₃ s₄ r quoted colon blanks first brace ih =>
    refine ⟨s, rfl, fun ms fuel depth values low enough => ?_⟩
    obtain ⟨v, value, rest⟩ := Option.bind_eq_some_iff.1 values
    cases rest
    have := quoted.length_lt
    have := colon.length_le
    have := blanks.length_le
    rw [List.length_cons] at *
    obtain ⟨fuel, rfl⟩ : ∃ n, fuel = n + 1 := ⟨fuel - 1, by omega⟩
    have read := ih v fuel depth value (le_trans (le_max_left _ _) low) (by omega)
      (brace.follows (.inr (.inr rfl)))
    rw [← readValue_blanks blanks] at read
    exact readMembers_last quoted (readColon_eq_ok_iff.2 colon) read
      (readMemberEnd_eq_done_iff.2 brace)
  | @nextMember key t ts s s₁ s₂ s₃ s₄ s₅ s₆ r quoted colon blanks first comma more rest ih ih' =>
    refine ⟨s, rfl, fun ms fuel depth values low enough => ?_⟩
    obtain ⟨v, value, others⟩ := Option.bind_eq_some_iff.1 values
    obtain ⟨ms, rest_values, rfl⟩ := Option.map_eq_some_iff.1 others
    obtain ⟨s', rfl, ih'⟩ := ih'
    have := quoted.length_lt
    have := colon.length_le
    have := blanks.length_le
    have := first.length_lt
    have := comma.length_le
    have := more.length_le
    simp only [List.length_cons] at *
    obtain ⟨fuel, rfl⟩ : ∃ n, fuel = n + 1 := ⟨fuel - 1, by omega⟩
    have read := ih v fuel depth value (le_trans (le_max_left _ _) low) (by omega)
      (comma.follows (.inl rfl))
    rw [← readValue_blanks blanks] at read
    exact readMembers_next quoted (readColon_eq_ok_iff.2 colon) read
      (readMemberEnd_eq_more_iff.2 ⟨s₅, comma, more⟩)
      (ih' ms fuel depth rest_values (le_trans (le_max_right _ _) low) (by omega))

/-- A text is read for the tree that it is a text of, if the tree is not too deep and none of its
numbers is too large. -/
theorem parse_eq_ok_iff {text : String} {v : Value} : parse text = .ok v ↔
    ∃ t, IsText t text.toList ∧ t.depth ≤ depthLimit ∧ t.value? = some v := by
  unfold parse readWhole
  constructor
  · intro h
    dsimp only at h
    split at h
    · rename_i result
      cases h
      obtain ⟨⟨v, r⟩, read, rest⟩ := bind_eq_ok result
      obtain ⟨t, s₁, before, stands, low, value⟩ := (reads_stands _).1 _ _ _ _ read
      dsimp only at rest
      split at rest
      · rename_i ends
        cases rest
        exact ⟨t, ⟨s₁, r, before, stands, blanks_of_skipBlanks ends⟩, low, value⟩
      · cases rest
    · cases h
  · rintro ⟨t, ⟨s₁, s₂, before, stands, after⟩, low, value⟩
    have enough := before.length_le
    have read := stands.isRead v (2 * text.toList.length + 1) depthLimit value low (by omega)
      after.follows_nil
    rw [← readValue_blanks before] at read
    dsimp only
    rw [read]
    dsimp only [bind, Except.bind]
    rw [after.skipBlanks]
    rfl

end PackageFinder.Json
