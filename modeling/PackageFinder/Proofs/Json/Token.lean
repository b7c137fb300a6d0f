import PackageFinder.Proofs.Except
import PackageFinder.Proofs.Json.Grammar
import PackageFinder.Proofs.Json.Scalar

/-!
# Reading strings and marks

Each reader of something smaller than a value takes exactly what the grammar says, and leaves what
follows.
-/

namespace PackageFinder.Json

variable {s r t : List Char}

/-! ## Blanks -/

/-- What is passed over at the start of a text is blanks. -/
lemma blanks_skipBlanks (s : List Char) : Blanks s (skipBlanks s) := by
  induction s with
  | nil => exact .nil
  | cons c s ih =>
    unfold skipBlanks
    rw [List.dropWhile_cons]
    split
    · rename_i blank
      exact .cons blank ih
    · exact .nil

/-- So blanks stand before whatever is left of it. -/
lemma blanks_of_skipBlanks (h : skipBlanks s = r) : Blanks s r := h ▸ blanks_skipBlanks s

/-- It does not matter how many blanks stand before a text. -/
lemma Blanks.skipBlanks (h : Blanks s r) : skipBlanks s = skipBlanks r := by
  induction h with
  | nil => rfl
  | cons blank _ ih =>
    rw [← ih, Json.skipBlanks, List.dropWhile_cons_of_pos blank]
    rfl

/-- Blanks make a text no shorter. -/
lemma Blanks.length_le (h : Blanks s r) : r.length ≤ s.length := by
  induction h with
  | nil => exact le_rfl
  | cons _ _ ih => exact Nat.le_succ_of_le ih

/-- Blanks before blanks are blanks. -/
lemma Blanks.trans (h : Blanks s r) (h' : Blanks r t) : Blanks s t := by
  induction h with
  | nil => exact h'
  | cons blank _ ih => exact .cons blank (ih h')

/-- Blanks end before a character that is none. -/
lemma Blanks.skipBlanks_cons {c : Char} (h : Blanks s (c :: r)) (black : isBlank c = false) :
    Json.skipBlanks s = c :: r := by
  rw [h.skipBlanks, skipBlanks_of_not_blank black]

/-! ## Strings -/

/-- Four digits are read for the number that they form. -/
lemma readHex_eq_ok_iff {n : ℕ} : readHex s = .ok (n, r) ↔
    ∃ a b c d, s = a :: b :: c :: d :: r ∧ hexFour? a b c d = some n := by
  have never : ∀ t, (notHex t : Except Stop (ℕ × List Char)) ≠ .ok (n, r) := by
    intro t
    unfold notHex
    split
    · exact nofun
    · exact nofun
  constructor
  · intro h
    unfold readHex at h
    split at h
    · split at h
      · rename_i digits
        cases h
        exact ⟨_, _, _, _, rfl, digits⟩
      · exact absurd h (never _)
    · exact absurd h (never _)
  · rintro ⟨a, b, c, d, rfl, digits⟩
    rw [readHex, digits]

/-- A mark between the halves of a pair is read if it stands there. -/
lemma readPairMark_eq_ok_iff {c : Char} : readPairMark c s = .ok ((), r) ↔ s = c :: r := by
  constructor
  · intro h
    unfold readPairMark at h
    split at h
    · cases h
    · split at h
      · rename_i same
        cases h
        rw [same]
      · cases h
  · rintro rfl
    rw [readPairMark, if_pos rfl]

/-- The second half of a pair is read with its backslash and its letter. -/
lemma readTrailing_eq_ok_iff {n : ℕ} {e : Char} : readTrailing n s = .ok (e, r) ↔
    ∃ a b c d m, s = '\\' :: 'u' :: a :: b :: c :: d :: r ∧ hexFour? a b c d = some m ∧
      isTrailing m = true ∧ e = joinPair n m := by
  constructor
  · intro h
    obtain ⟨⟨_, s₁⟩, mark, h₁⟩ := bind_eq_ok h
    obtain ⟨⟨_, s₂⟩, letter, h₂⟩ := bind_eq_ok h₁
    obtain ⟨⟨m, s₃⟩, digits, h₃⟩ := bind_eq_ok h₂
    dsimp only at h₃
    split at h₃
    · rename_i trailing
      obtain ⟨rfl, rfl⟩ := Prod.mk.inj (Except.ok.inj h₃)
      obtain ⟨a, b, c, d, hs, hm⟩ := readHex_eq_ok_iff.1 digits
      refine ⟨a, b, c, d, m, ?_, hm, trailing, rfl⟩
      rw [readPairMark_eq_ok_iff.1 mark, readPairMark_eq_ok_iff.1 letter, hs]
    · cases h₃
  · rintro ⟨a, b, c, d, m, rfl, hm, trailing, joined⟩
    rw [joined, readTrailing, readPairMark_eq_ok_iff.2 rfl]
    dsimp only [bind, Except.bind]
    rw [readPairMark_eq_ok_iff.2 rfl]
    dsimp only [bind, Except.bind]
    rw [readHex_eq_ok_iff.2 ⟨_, _, _, _, rfl, hm⟩]
    dsimp only
    rw [if_pos trailing]

/-- The first half of a pair is no second half. -/
lemma isTrailing_of_isLeading {n : ℕ} (h : isLeading n = true) : isTrailing n = false := by
  simp only [isLeading, Bool.and_eq_true, decide_eq_true_eq] at h
  simp only [isTrailing, Bool.and_eq_false_iff, decide_eq_false_iff_not]
  omega

/-- An escape is read for what it stands for. -/
lemma readEscape_eq_ok_iff {e : Char} : readEscape s = .ok (e, r) ↔ Escape e s r := by
  constructor
  · intro h
    cases s with
    | nil => cases h
    | cons l s =>
      rw [readEscape] at h
      split at h
      · rename_i is_number
        subst is_number
        obtain ⟨⟨n, s₁⟩, digits, h₁⟩ := bind_eq_ok h
        dsimp only at h₁
        obtain ⟨a, b, c, d, hs, hn⟩ := readHex_eq_ok_iff.1 digits
        rw [hs]
        split at h₁
        · cases h₁
        · rename_i no_trailing
          split at h₁
          · rename_i leading
            obtain ⟨a', b', c', d', m, rfl, hm, trailing, joined⟩ := readTrailing_eq_ok_iff.1 h₁
            rw [joined]
            exact .pair hn leading hm trailing
          · rename_i no_leading
            cases h₁
            exact .number hn (Bool.eq_false_of_not_eq_true no_leading)
              (Bool.eq_false_of_not_eq_true no_trailing)
      · split at h
        · rename_i is_letter
          cases h
          exact .letter is_letter
        · cases h
  · intro h
    cases h with
    | letter is_letter =>
      rw [readEscape, if_neg, is_letter]
      rintro rfl
      cases is_letter
    | number hn no_leading no_trailing =>
      rw [readEscape, if_pos rfl, readNumbered, readHex_eq_ok_iff.2 ⟨_, _, _, _, rfl, hn⟩]
      dsimp only [bind, Except.bind]
      rw [no_trailing, no_leading]
      rfl
    | @pair _ _ _ _ _ a b c d m _ hn leading hm trailing =>
      rw [readEscape, if_pos rfl, readNumbered, readHex_eq_ok_iff.2 ⟨_, _, _, _, rfl, hn⟩]
      dsimp only [bind, Except.bind]
      rw [isTrailing_of_isLeading leading, leading, if_neg Bool.false_ne_true, if_pos rfl]
      exact readTrailing_eq_ok_iff.2 ⟨a, b, c, d, m, rfl, hm, trailing, rfl⟩

/-- A character before a text that is read. -/
lemma exists_of_map_cons {x : Except Stop (List Char × List Char)} {c : Char}
    (h : x.map (Prod.map (c :: ·) id) = .ok (t, r)) : ∃ t', t = c :: t' ∧ x = .ok (t', r) := by
  obtain ⟨p, hx, same⟩ := map_eq_ok h
  cases same
  exact ⟨p.1, rfl, hx⟩

/-- A string is read for what stands between its quotes. -/
lemma readString_eq_ok_iff : readString s = .ok (t, r) ↔ Quoted t s r := by
  constructor
  · intro h
    -- on the length, for an escape takes several characters at once
    induction size : s.length using Nat.strong_induction_on generalizing s t with
    | _ size ih =>
      cases s with
      | nil =>
        rw [readString] at h
        cases h
      | cons c s =>
        by_cases quote : c = '"'
        · subst quote
          rw [readString_quote] at h
          cases h
          exact .close
        by_cases backslash : c = '\\'
        · subst backslash
          cases escape : readEscape s with
          | error stop =>
            rw [readString, if_neg quote, if_pos rfl, escape] at h
            cases h
          | ok p =>
            obtain ⟨c, s₁⟩ := p
            rw [readString_escape escape] at h
            obtain ⟨t, rfl, rest⟩ := exists_of_map_cons h
            have shorter := length_of_readEscape escape
            rw [List.length_cons] at size
            exact .escape (readEscape_eq_ok_iff.1 escape) (ih _ (by omega) rest rfl)
        by_cases control : isControl c = true
        · rw [readString, if_neg quote, if_neg backslash, if_pos control] at h
          cases h
        · have no_control := Bool.eq_false_of_not_eq_true control
          rw [readString_plain quote backslash no_control] at h
          obtain ⟨t, rfl, rest⟩ := exists_of_map_cons h
          rw [List.length_cons] at size
          exact .plain quote backslash no_control (ih _ (by omega) rest rfl)
  · intro h
    induction h with
    | close => exact readString_quote _
    | plain no_quote no_backslash no_control _ ih =>
      rw [readString_plain no_quote no_backslash no_control, ih]
      rfl
    | escape escaped _ ih =>
      rw [readString_escape (readEscape_eq_ok_iff.2 escaped), ih]
      rfl

/-- A string without quotes, backslashes and control characters stands for itself. -/
lemma quoted_plain (plain : ∀ c ∈ t, c ≠ '"' ∧ c ≠ '\\' ∧ isControl c = false) (r : List Char) :
    Quoted t (t ++ '"' :: r) r := by
  induction t with
  | nil => exact .close
  | cons c t ih =>
    obtain ⟨no_quote, no_backslash, no_control⟩ := plain c List.mem_cons_self
    exact .plain no_quote no_backslash no_control (ih fun c hc => plain c (.tail _ hc))

/-- An escape takes at least one character. -/
lemma Escape.length_lt {c : Char} (h : Escape c s r) : r.length < s.length :=
  length_of_readEscape (readEscape_eq_ok_iff.2 h)

/-- A string takes at least its closing quote. -/
lemma Quoted.length_lt (h : Quoted t s r) : r.length < s.length := by
  induction h with
  | close => exact Nat.lt_succ_self _
  | plain _ _ _ _ ih => exact Nat.lt_succ_of_lt ih
  | escape escaped _ ih => exact Nat.lt_succ_of_lt (ih.trans escaped.length_lt)

/-! ## Between values -/

/-- A colon is read after blanks. -/
lemma readColon_eq_ok_iff : readColon s = .ok ((), r) ↔ Blanks s (':' :: r) := by
  constructor
  · intro h
    unfold readColon at h
    split at h
    · cases h
    · rename_i cut
      cases h
      exact blanks_of_skipBlanks cut
    · cases h
  · intro h
    rw [readColon, h.skipBlanks_cons rfl]
    rfl

/-- A list ends at its bracket, after blanks. -/
lemma readItemEnd_eq_done_iff : readItemEnd s = .ok (.done, r) ↔ Blanks s (']' :: r) := by
  constructor
  · intro h
    unfold readItemEnd at h
    split at h
    · cases h
    · rename_i cut
      cases h
      exact blanks_of_skipBlanks cut
    · split at h
      · cases h
      · cases h
      · cases h
    · cases h
  · intro h
    rw [readItemEnd, h.skipBlanks_cons rfl]
    rfl

/-- The next item starts after a comma and blanks. -/
lemma readItemEnd_eq_more_iff : readItemEnd s = .ok (.more, r) ↔
    ∃ s₁, Blanks s (',' :: s₁) ∧ skipBlanks s₁ = r ∧ r ≠ [] ∧ r.head? ≠ some ']' := by
  constructor
  · intro h
    unfold readItemEnd at h
    split at h
    · cases h
    · cases h
    · rename_i s₁ cut
      refine ⟨s₁, blanks_of_skipBlanks cut, ?_⟩
      split at h
      · cases h
      · cases h
      · rename_i nonempty no_bracket
        cases h
        refine ⟨rfl, nonempty, fun bracket => ?_⟩
        obtain ⟨r, start⟩ := List.head?_eq_some_iff.1 bracket
        exact no_bracket r start
    · cases h
  · rintro ⟨s₁, blanks, rfl, nonempty, no_bracket⟩
    simp only [readItemEnd, blanks.skipBlanks_cons rfl]
    split
    · rename_i empty
      exact absurd empty nonempty
    · rename_i start
      rw [start] at no_bracket
      exact absurd rfl no_bracket
    · rfl

/-- An object ends at its brace, after blanks. -/
lemma readMemberEnd_eq_done_iff : readMemberEnd s = .ok (.done, r) ↔ Blanks s ('}' :: r) := by
  constructor
  · intro h
    unfold readMemberEnd at h
    split at h
    · cases h
    · rename_i cut
      cases h
      exact blanks_of_skipBlanks cut
    · split at h
      · cases h
      · cases h
      · cases h
      · cases h
    · cases h
  · intro h
    rw [readMemberEnd, h.skipBlanks_cons rfl]
    rfl

/-- The next member starts after a comma and blanks. -/
lemma readMemberEnd_eq_more_iff : readMemberEnd s = .ok (.more, r) ↔
    ∃ s₁, Blanks s (',' :: s₁) ∧ Blanks s₁ ('"' :: r) := by
  constructor
  · intro h
    unfold readMemberEnd at h
    split at h
    · cases h
    · cases h
    · rename_i s₁ cut
      refine ⟨s₁, blanks_of_skipBlanks cut, ?_⟩
      split at h
      · cases h
      · cases h
      · rename_i cut
        cases h
        exact blanks_of_skipBlanks cut
      · cases h
    · cases h
  · rintro ⟨s₁, blanks, blanks'⟩
    simp only [readMemberEnd, blanks.skipBlanks_cons rfl, blanks'.skipBlanks_cons rfl]

/-- A list without items ends at once. -/
lemma readListStart_eq_done_iff : readListStart s = .ok (.done, r) ↔ Blanks s (']' :: r) := by
  constructor
  · intro h
    unfold readListStart at h
    split at h
    · cases h
    · rename_i cut
      cases h
      exact blanks_of_skipBlanks cut
    · cases h
  · intro h
    rw [readListStart, h.skipBlanks_cons rfl]
    rfl

/-- The first item starts after blanks. -/
lemma readListStart_eq_more_iff : readListStart s = .ok (.more, r) ↔
    skipBlanks s = r ∧ r ≠ [] ∧ r.head? ≠ some ']' := by
  constructor
  · intro h
    unfold readListStart at h
    split at h
    · cases h
    · cases h
    · rename_i nonempty no_bracket
      cases h
      refine ⟨rfl, nonempty, fun bracket => ?_⟩
      obtain ⟨r, start⟩ := List.head?_eq_some_iff.1 bracket
      exact no_bracket r start
  · rintro ⟨rfl, nonempty, no_bracket⟩
    unfold readListStart
    split
    · rename_i empty
      exact absurd empty nonempty
    · rename_i start
      rw [start] at no_bracket
      exact absurd rfl no_bracket
    · rfl

/-- An object without members ends at once. -/
lemma readObjectStart_eq_done_iff : readObjectStart s = .ok (.done, r) ↔ Blanks s ('}' :: r) := by
  constructor
  · intro h
    unfold readObjectStart at h
    split at h
    · cases h
    · rename_i cut
      cases h
      exact blanks_of_skipBlanks cut
    · cases h
    · cases h
  · intro h
    rw [readObjectStart, h.skipBlanks_cons rfl]
    rfl

/-- The first member starts with a quote, after blanks. -/
lemma readObjectStart_eq_more_iff : readObjectStart s = .ok (.more, r) ↔ Blanks s ('"' :: r) := by
  constructor
  · intro h
    unfold readObjectStart at h
    split at h
    · cases h
    · cases h
    · rename_i cut
      cases h
      exact blanks_of_skipBlanks cut
    · cases h
  · intro h
    rw [readObjectStart, h.skipBlanks_cons rfl]
    rfl

/-- A word is read if the text starts with it. -/
lemma readWord_eq_ok_iff {w : List Char} : readWord w s = .ok ((), r) ↔ s = w ++ r := by
  induction w generalizing s with
  | nil =>
    constructor
    · intro h
      cases h
      rfl
    · rintro rfl
      rfl
  | cons c w ih =>
    cases s with
    | nil => exact ⟨fun h => (by cases h), fun h => (by cases h)⟩
    | cons d s =>
      rw [readWord, List.cons_append, List.cons.injEq]
      split
      · rename_i same
        rw [ih]
        exact ⟨fun h => ⟨same.symm, h⟩, And.right⟩
      · rename_i other
        exact ⟨fun h => (by cases h), fun h => absurd h.1.symm other⟩

end PackageFinder.Json
