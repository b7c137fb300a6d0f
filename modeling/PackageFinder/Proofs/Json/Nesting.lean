import PackageFinder.Proofs.Json.Layout

/-!
# How deep written values are nested

`Nesting` reads a text for the lists and objects that are open, passing over strings. What the
strings of a value hold does not show in the lines that are written for it: a line feed stands
nowhere but between two lines (`splitOn_pretty`), no other control character stands anywhere
(`eq_newLine_of_mem_pretty`), and every line starts with as many spaces as lists and objects are
open there, one less if it starts by closing one (`indentation_of_pretty`).
-/

namespace PackageFinder.Json

/-! ## What is open -/

/-- Opens a list or an object. -/
def isOpening (c : Char) : Bool := c == '[' || c == '{'

/-- Closes a list or an object. -/
def isClosing (c : Char) : Bool := c == ']' || c == '}'

/-- Where a reader of a written value is. -/
inductive Nesting where
  /-- Outside of strings, in so many lists and objects. -/
  | outside (depth : Nat)
  /-- In a string. -/
  | string (depth : Nat)
  /-- After a backslash in a string. -/
  | escape (depth : Nat)
  deriving DecidableEq, Repr

namespace Nesting

/-- In how many lists and objects. -/
def depth : Nesting → Nat
  | outside d | string d | escape d => d

/-- After one more character. -/
def next : Nesting → Char → Nesting
  | outside d, c =>
    if c = '"' then string d
    else if isOpening c then outside (d + 1)
    else if isClosing c then outside (d - 1)
    else outside d
  | string d, c => if c = '"' then outside d else if c = '\\' then escape d else string d
  | escape d, _ => string d

/-- After a text. -/
def read (n : Nesting) (s : List Char) : Nesting := s.foldl next n

/-- Two texts are read one after the other. -/
lemma read_append (n : Nesting) (s t : List Char) : n.read (s ++ t) = (n.read s).read t :=
  List.foldl_append

/-- How many lists and objects a line stands in that comes next, but for one that it starts by
closing. -/
def lineDepth (n : Nesting) (line : List Char) : Nat :=
  n.depth - if (line.dropWhile (· == ' ')).head?.any isClosing then 1 else 0

/-- Spaces open and close nothing. -/
lemma read_spaces (d n : Nat) : (outside d).read (List.replicate n ' ') = outside d := by
  induction n with
  | zero => rfl
  | succ n ih => exact ih

end Nesting

/-- With how many spaces a line starts. -/
def indentation (line : List Char) : Nat := (line.takeWhile (· == ' ')).length

/-- A line starts with the spaces of its depth and no more. -/
lemma Line.cut_text {l : Line} (h : ∀ c ∈ l.content.head?, c ≠ ' ') :
    indentation l.text = l.depth ∧ l.text.dropWhile (· == ' ') = l.content := by
  have spaces : ∀ c ∈ List.replicate l.depth ' ', (c == ' ') = true := by
    intro c hc
    rw [List.eq_of_mem_replicate hc]
    rfl
  rw [indentation, Line.text, List.takeWhile_append_of_pos spaces,
    List.dropWhile_append_of_pos spaces]
  cases content : l.content with
  | nil => simp
  | cons c s =>
    have visible : (c == ' ') = false := by simpa [content] using h
    simp [visible]

/-- A text that does not start with a space or by closing anything. -/
def Leads (s : List Char) : Prop := ∀ c ∈ s.head?, c ≠ ' ' ∧ isClosing c = false

/-- Two such texts make one when put together. -/
lemma Leads.append {s t : List Char} (hs : Leads s) (ht : Leads t) : Leads (s ++ t) := by
  cases s with
  | nil => exact ht
  | cons c s => exact hs

/-- Such a text closes nothing with its first character. -/
lemma Leads.any_isClosing {s : List Char} (h : Leads s) : s.head?.any isClosing = false := by
  cases s with
  | nil => rfl
  | cons c s => exact (h c rfl).2

/-- A piece of a line: it holds no control character, does not start with a space or by closing
anything, and leaves as many lists and objects open as are open before it. -/
structure IsPiece (s : List Char) : Prop where
  /-- There is no control character. -/
  printed : ∀ c ∈ s, 0x20 ≤ c.toNat
  /-- It does not start with a space or by closing anything. -/
  starts : Leads s
  /-- After it as much is open as before it. -/
  reads : ∀ d, (Nesting.outside d).read s = .outside d

namespace IsPiece

/-- Nothing is a piece. -/
lemma nil : IsPiece [] := ⟨nofun, nofun, fun _ => rfl⟩

/-- Two pieces are a piece. -/
lemma append {s t : List Char} (hs : IsPiece s) (ht : IsPiece t) : IsPiece (s ++ t) where
  printed := List.forall_mem_append.2 ⟨hs.printed, ht.printed⟩
  starts := hs.starts.append ht.starts
  reads d := by rw [Nesting.read_append, hs.reads, ht.reads]

end IsPiece

/-- A character that may stand anywhere in a piece. -/
def isPlain (c : Char) : Bool :=
  decide (0x20 < c.toNat) && c != '"' && !isOpening c && !isClosing c

/-- Plain characters are a piece. -/
lemma IsPiece.of_plain {s : List Char} (h : ∀ c ∈ s, isPlain c = true) : IsPiece s where
  printed c hc := by
    have := h c hc
    simp only [isPlain, Bool.and_eq_true, decide_eq_true_eq] at this
    omega
  starts c hc := by
    have := h c (List.mem_of_mem_head? hc)
    simp only [isPlain, Bool.and_eq_true, decide_eq_true_eq, Bool.not_eq_true'] at this
    refine ⟨?_, this.2⟩
    rintro rfl
    exact absurd this.1.1.1 (by decide)
  reads d := by
    induction s with
    | nil => rfl
    | cons c s ih =>
      have hc := h c List.mem_cons_self
      simp only [isPlain, Bool.and_eq_true, bne_iff_ne, Bool.not_eq_true'] at hc
      have stays : (Nesting.outside d).next c = .outside d := by
        simp [Nesting.next, hc]
      rw [Nesting.read, List.foldl_cons, stays]
      exact ih fun c hc => h c (List.mem_cons_of_mem _ hc)

/-- Characters other than quotes and backslashes are read inside a string. -/
lemma Nesting.read_string {s : List Char} (h : ∀ c ∈ s, c ≠ '"' ∧ c ≠ '\\') (d : Nat) :
    (string d).read s = string d := by
  induction s with
  | nil => rfl
  | cons c s ih =>
    obtain ⟨quote, backslash⟩ := h c List.mem_cons_self
    have stays : (string d).next c = string d := by
      rw [next, if_neg quote, if_neg backslash]
    rw [read, List.foldl_cons, stays]
    exact ih fun c hc => h c (List.mem_cons_of_mem _ hc)

/-- The two digits of a control character are printed, and neither ends nor escapes anything. -/
lemma mem_hexPair {n : Nat} (control : n < 0x20) :
    ∀ c ∈ hexPair n, 0x20 ≤ c.toNat ∧ c ≠ '"' ∧ c ≠ '\\' := by
  have checked : ∀ n < 0x20,
      (hexPair n).all fun c => decide (0x20 ≤ c.toNat ∧ c ≠ '"' ∧ c ≠ '\\') := by decide
  exact fun c hc => of_decide_eq_true (List.all_eq_true.1 (checked n control) c hc)

/-- What is written for a character of a string is printed, and is read inside the string. -/
lemma read_escapeChar (c : Char) (d : Nat) :
    (∀ x ∈ escapeChar c, 0x20 ≤ x.toNat) ∧ (Nesting.string d).read (escapeChar c) = .string d := by
  unfold escapeChar
  split
  -- the seven characters that have a letter
  iterate 7 exact ⟨by simp, rfl⟩
  -- any other one: by its number if it is a control character, itself if not
  · rename_i quote backslash _ _ _ _ _
    split
    · rename_i control
      have digits := mem_hexPair control
      refine ⟨List.forall_mem_append.2 ⟨by simp, fun x hx => (digits x hx).1⟩, ?_⟩
      rw [Nesting.read_append]
      exact Nesting.read_string (fun x hx => (digits x hx).2) d
    · rename_i visible
      refine ⟨by simpa using visible, Nesting.read_string ?_ d⟩
      simpa using ⟨quote, backslash⟩

/-- A written string is a piece. -/
lemma isPiece_writeString (s : String) : IsPiece (writeString s) where
  printed := by
    rw [writeString, List.forall_mem_append, List.forall_mem_cons]
    refine ⟨⟨by decide, fun x hx => ?_⟩, by simp⟩
    obtain ⟨c, _, hx⟩ := List.mem_flatMap.1 hx
    exact (read_escapeChar c 0).1 x hx
  starts := by
    rintro c ⟨⟩
    decide
  reads d := by
    have inside : (Nesting.string d).read (s.toList.flatMap escapeChar) = .string d := by
      induction s.toList with
      | nil => rfl
      | cons c cs ih => rw [List.flatMap_cons, Nesting.read_append, (read_escapeChar c d).2, ih]
    have opened : (Nesting.outside d).read ['"'] = .string d := rfl
    rw [writeString, ← List.singleton_append, Nesting.read_append, Nesting.read_append, opened,
      inside]
    rfl

/-! ## Numbers -/

/-- Digits are plain. -/
lemma isPlain_of_isDigit {c : Char} (h : c.isDigit = true) : isPlain c = true := by
  have bounds : 48 ≤ c.toNat ∧ c.toNat ≤ 57 := by
    simpa [Char.isDigit, UInt32.le_iff_toNat_le] using h
  have plain : ∀ n < 58, 48 ≤ n → isPlain (Char.ofNat n) = true := by decide
  rw [← Char.ofNat_toNat c]
  exact plain _ (by omega) bounds.1

/-- A number without sign is plain. -/
lemma isPlain_toDigits (n : Nat) : ∀ c ∈ Nat.toDigits 10 n, isPlain c = true := fun _ hc =>
  isPlain_of_isDigit (Nat.isDigit_of_mem_toDigits (by decide) (by decide) hc)

/-- So is one with a sign. -/
lemma isPlain_toString (n : Int) : ∀ c ∈ (toString n).toList, isPlain c = true := by
  have digits : (toString n).toList = if 0 ≤ n then Nat.toDigits 10 n.toNat
      else '-' :: Nat.toDigits 10 (-n).toNat := by
    rw [Int.toString_eq_repr, Int.repr_eq_if]
    split <;> simp
  rw [digits]
  split
  · exact isPlain_toDigits _
  · exact List.forall_mem_cons.2 ⟨by decide, isPlain_toDigits _⟩

/-- A decimal without exponent is plain. -/
lemma isPlain_plain (d : Decimal.Expansion) : ∀ c ∈ d.plain.toList, isPlain c = true := by
  have digits : ∀ c ∈ Decimal.digitChars d.digits, isPlain c = true := isPlain_toDigits _
  have zeros : ∀ n, ∀ c ∈ List.replicate n '0', isPlain c = true := by
    intro n c hc
    rw [List.eq_of_mem_replicate hc]
    rfl
  unfold Decimal.Expansion.plain
  dsimp only
  split
  · rw [String.toList_ofList]
    exact List.forall_mem_append.2 ⟨digits, zeros _⟩
  · split
    · rw [String.toList_ofList, List.forall_mem_append, List.forall_mem_append]
      exact ⟨⟨List.all_eq_true.1 rfl, zeros _⟩, digits⟩
    · rw [String.toList_ofList, List.forall_mem_append, List.forall_mem_cons]
      exact ⟨fun c hc => digits c (List.mem_of_mem_take hc), rfl,
        fun c hc => digits c (List.mem_of_mem_drop hc)⟩

/-- A decimal with an exponent is plain. -/
lemma isPlain_scientific (d : Decimal.Expansion) : ∀ c ∈ d.scientific.toList, isPlain c = true := by
  have digits : ∀ c ∈ Decimal.digitChars d.digits, isPlain c = true := isPlain_toDigits _
  unfold Decimal.Expansion.scientific
  simp only [String.toList_append, String.toList_ofList, List.forall_mem_append]
  refine ⟨⟨?_, List.all_eq_true.1 rfl⟩, isPlain_toString _⟩
  split
  · exact List.forall_mem_nil _
  · rename_i one
    rwa [← one]
  · rename_i more
    rw [more, List.forall_mem_cons] at digits
    exact List.forall_mem_cons.2 ⟨digits.1, List.forall_mem_cons.2 ⟨rfl, digits.2⟩⟩

/-- A decimal is plain in the spelling that is chosen for it. -/
lemma isPlain_compact (d : Decimal.Expansion) : ∀ c ∈ d.compact.toList, isPlain c = true := by
  unfold Decimal.Expansion.compact Decimal.Expansion.pointed
  dsimp only
  split
  · split
    · rw [String.toList_append]
      exact List.forall_mem_append.2 ⟨isPlain_plain d, List.all_eq_true.1 rfl⟩
    · exact isPlain_plain d
  · exact isPlain_scientific d

/-- A written number is plain, whatever it is. -/
lemma isPlain_write (n : Number) : ∀ c ∈ n.write, isPlain c = true := by
  cases n with
  | whole n => exact isPlain_toString n
  | double x =>
    have sign (negative : Bool) : ∀ c ∈ (if negative then "-" else "").toList, isPlain c = true :=
      List.all_eq_true.1 (by cases negative <;> rfl)
    rw [Number.write]
    split
    · unfold Binary64.compact Binary64.write
      split
      · exact List.all_eq_true.1 rfl
      · rw [String.toList_append]
        exact List.forall_mem_append.2 ⟨sign _, List.all_eq_true.1 rfl⟩
      · rw [String.toList_append]
        refine List.forall_mem_append.2 ⟨sign _, ?_⟩
        split
        · exact List.all_eq_true.1 rfl
        · exact isPlain_compact _
    · exact List.all_eq_true.1 rfl

/-! ## Lines of a nested text -/

/-- Lines that are read where as many lists and objects are open as the first number says, and after
which as many are open as the last number says. -/
inductive Nested : Nat → List Line → Nat → Prop
  | nil {d} : Nested d [] d
  /-- Nothing is opened or closed. -/
  | level {d e s ls} : IsPiece s → Nested d ls e → Nested d (⟨d, s⟩ :: ls) e
  /-- The line ends by opening a list or an object. -/
  | opening {d e s b ls} :
    IsPiece s → b = '[' ∨ b = '\x7b' → Nested (d + 1) ls e → Nested d (⟨d, s ++ [b]⟩ :: ls) e
  /-- The line starts by closing one. -/
  | closing {d e b s ls} :
    b = ']' ∨ b = '\x7d' → IsPiece s → Nested d ls e → Nested (d + 1) (⟨d, b :: s⟩ :: ls) e

namespace Nested
variable {d e f : Nat} {ls ls' : List Line}

/-- What a text leaves open may be closed in the text after it. -/
lemma append (h : Nested d ls e) (h' : Nested e ls' f) : Nested d (ls ++ ls') f := by
  induction h with
  | nil => exact h'
  | level piece _ ih => exact .level piece (ih h')
  | opening piece opens _ ih => exact .opening piece opens (ih h')
  | closing closes piece _ ih => exact .closing closes piece (ih h')

/-- What a first line tells: it is printed, it starts with as many spaces as it stands deep, and
that is how deep a reader takes it to stand, who then reads the lines below it. -/
lemma first {l : Line} (h : Nested d (l :: ls) e) :
    (∀ c ∈ l.content, 0x20 ≤ c.toNat) ∧ indentation l.text = l.depth ∧
      (Nesting.outside d).lineDepth l.text = l.depth ∧
      ∃ d', (Nesting.outside d).read l.text = .outside d' ∧ Nested d' ls e := by
  cases h with
  | @level _ _ s _ piece below =>
    have cut := Line.cut_text (l := ⟨d, s⟩) fun c hc => (piece.starts c hc).1
    refine ⟨piece.printed, cut.1, ?_, d, ?_, below⟩
    · rw [Nesting.lineDepth, cut.2, piece.starts.any_isClosing]
      rfl
    · rw [Line.text, Nesting.read_append, Nesting.read_spaces, piece.reads]
  | @opening _ _ s b _ piece opens below =>
    have starts : Leads (s ++ [b]) := piece.starts.append (by
      rintro c ⟨⟩
      rcases opens with rfl | rfl <;> decide)
    have cut := Line.cut_text (l := ⟨d, s ++ [b]⟩) fun c hc => (starts c hc).1
    refine ⟨List.forall_mem_append.2 ⟨piece.printed, ?_⟩, cut.1, ?_, d + 1, ?_, below⟩
    · rcases opens with rfl | rfl <;> simp
    · rw [Nesting.lineDepth, cut.2, starts.any_isClosing]
      rfl
    · rw [Line.text, Nesting.read_append, Nesting.read_spaces, Nesting.read_append, piece.reads]
      rcases opens with rfl | rfl <;> rfl
  | @closing d _ b s _ closes piece below =>
    have cut := Line.cut_text (l := ⟨d, b :: s⟩) (by
      rintro c ⟨⟩
      rcases closes with rfl | rfl <;> decide)
    refine ⟨List.forall_mem_cons.2 ⟨?_, piece.printed⟩, cut.1, ?_, d, ?_, below⟩
    · rcases closes with rfl | rfl <;> decide
    · rw [Nesting.lineDepth, cut.2]
      rcases closes with rfl | rfl <;> rfl
    · rw [Line.text, Nesting.read_append, Nesting.read_spaces]
      rcases closes with rfl | rfl <;> exact piece.reads d

/-- No line holds a control character, and each starts with the spaces of its depth and no more. -/
lemma forall_mem (h : Nested d ls e) :
    ∀ l ∈ ls, (∀ c ∈ l.content, 0x20 ≤ c.toNat) ∧ indentation l.text = l.depth := by
  induction ls generalizing d with
  | nil => exact List.forall_mem_nil _
  | cons l ls ih =>
    obtain ⟨printed, spaces, _, d', _, below⟩ := h.first
    exact List.forall_mem_cons.2 ⟨⟨printed, spaces⟩, ih below⟩

/-- Every line starts with as many spaces as it stands deep for one who has read those above it. -/
lemma indentation_eq {before after : List Line} {l : Line}
    (h : Nested d (before ++ l :: after) e) : indentation l.text =
      ((before.map Line.text).foldl Nesting.read (.outside d)).lineDepth l.text := by
  induction before generalizing d with
  | nil =>
    obtain ⟨_, spaces, depth, _⟩ := h.first
    exact spaces.trans depth.symm
  | cons l' before ih =>
    obtain ⟨_, _, _, d', reads, below⟩ := Nested.first h
    rw [List.map_cons, List.foldl_cons, reads]
    exact ih below

end Nested

/-- A comma between two things, or none after the last, is a piece. -/
lemma isPiece_comma {α : Type} (more : List α) : IsPiece (comma more) := by
  cases more with
  | nil => exact .nil
  | cons m ms => exact .of_plain (s := [',']) (List.all_eq_true.1 rfl)

mutual

/-- After the lines of a value as much is open as before them. -/
lemma nested_lines {d : Nat} {before after : List Char} (hb : IsPiece before) (ha : IsPiece after)
    (v : Value) : Nested d (v.lines d before after) d := by
  cases v with
  | list vs =>
    cases vs with
    | nil =>
      have empty : IsPiece ['[', ']'] := ⟨by simp, by rintro c ⟨⟩; decide, fun d => rfl⟩
      exact .level ((hb.append empty).append ha) .nil
    | cons v vs =>
      exact .opening hb (.inl rfl)
        ((nested_itemLines (v :: vs)).append (.closing (.inl rfl) ha .nil))
  | object ms =>
    cases ms with
    | nil =>
      have empty : IsPiece ['\x7b', '\x7d'] := ⟨by simp, by rintro c ⟨⟩; decide, fun d => rfl⟩
      exact .level ((hb.append empty).append ha) .nil
    | cons m ms =>
      exact .opening hb (.inr rfl)
        ((nested_memberLines (m :: ms)).append (.closing (.inr rfl) ha .nil))
  | null =>
    have word : ∀ c ∈ "null".toList, isPlain c = true := List.all_eq_true.1 rfl
    exact .level ((hb.append (.of_plain word)).append ha) .nil
  | bool b =>
    have word : ∀ c ∈ (toString b).toList, isPlain c = true :=
      List.all_eq_true.1 (by cases b <;> rfl)
    exact .level ((hb.append (.of_plain word)).append ha) .nil
  | number n => exact .level ((hb.append (.of_plain (isPlain_write n))).append ha) .nil
  | text s => exact .level ((hb.append (isPiece_writeString s)).append ha) .nil

/-- So it is with the lines of items. -/
lemma nested_itemLines {d : Nat} (vs : List Value) : Nested d (itemLines d vs) d := by
  cases vs with
  | nil => exact .nil
  | cons v vs => exact (nested_lines .nil (isPiece_comma vs) v).append (nested_itemLines vs)

/-- And with the lines of members. -/
lemma nested_memberLines {d : Nat} (ms : List (String × Value)) :
    Nested d (memberLines d ms) d := by
  cases ms with
  | nil => exact .nil
  | cons m ms =>
    obtain ⟨k, v⟩ := m
    have colon : IsPiece [':', ' '] := ⟨by simp, by rintro c ⟨⟩; decide, fun d => rfl⟩
    exact (nested_lines ((isPiece_writeString k).append colon) (isPiece_comma ms) v).append
      (nested_memberLines ms)

end

/-- The lines of a value can be counted: what they hold splits none of them. -/
lemma splitOn_pretty (v : Value) : (v.pretty 0).splitOn '\n' = (v.lines 0 [] []).map Line.text := by
  have nonempty := v.lines_ne_nil 0 [] []
  have whole := v.below_lines 0 [] []
  rw [below_eq nonempty, List.append_nil, List.append_nil] at whole
  have joined : ['\n'].intercalate ((v.lines 0 [] []).map Line.text) = v.pretty 0 :=
    (List.cons.inj whole).2
  rw [← joined]
  refine List.splitOn_intercalate '\n' (fun s hs => ?_) (by simpa using nonempty)
  obtain ⟨l, hl, rfl⟩ := List.mem_map.1 hs
  rw [Line.text, List.mem_append]
  rintro (space | content)
  · cases List.eq_of_mem_replicate space
  · exact absurd (((nested_lines .nil .nil v).forall_mem l hl).1 _ content) (by decide)

/-- A written value holds no control characters but the line feeds between its lines. -/
lemma eq_newLine_of_mem_pretty {v : Value} {c : Char} (hc : c ∈ v.pretty 0)
    (control : c.toNat < 0x20) : c = '\n' := by
  have inside : c ∈ below (v.lines 0 [] []) := by
    rw [v.below_lines]
    simp [hc]
  rcases mem_below inside with newLine | space | ⟨l, hl, content⟩
  · exact newLine
  · subst space
    exact absurd control (by decide)
  · exact absurd control (Nat.not_lt_of_le (((nested_lines .nil .nil v).forall_mem l hl).1 c content))

/-- Every line of a written value starts with as many spaces as it stands deep. -/
lemma indentation_of_pretty {v : Value} {before after : List (List Char)} {line : List Char}
    (cut : (v.pretty 0).splitOn '\n' = before ++ line :: after) :
    indentation line = (before.foldl Nesting.read (.outside 0)).lineDepth line := by
  rw [splitOn_pretty, List.map_eq_append_iff] at cut
  obtain ⟨above, rest, lines, rfl, eq⟩ := cut
  obtain ⟨l, below, rfl, rfl, rfl⟩ := List.map_eq_cons_iff.1 eq
  exact Nested.indentation_eq (lines ▸ nested_lines .nil .nil v)

end PackageFinder.Json
