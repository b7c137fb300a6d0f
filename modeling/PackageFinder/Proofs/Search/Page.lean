import Mathlib.Data.List.Forall2
import PackageFinder.Proofs.Json.Magnitude
import PackageFinder.Proofs.Json.Reader
import PackageFinder.Run.Collect

/-!
# Decoding pages of the index

Every JSON text that the reader takes is decoded without loss: each element of its list of downloads is
one item, whatever the element is. A text that is no JSON text has no items. The main statement is
`parsePage_of_text`.
-/

namespace PackageFinder.Json

/-! ## Members -/

/-- Nothing is looked up if no member has the key. -/
lemma lookup?_eq_none_iff {α : Type} {key : String} {ms : List (String × α)} :
    lookup? key ms = none ↔ ∀ m ∈ ms, m.1 ≠ key := by
  induction ms with
  | nil => exact ⟨fun _ => nofun, fun _ => rfl⟩
  | cons m ms ih =>
    obtain ⟨k, v⟩ := m
    rw [lookup?, List.forall_mem_cons, ← ih]
    cases lookup? key ms with
    | some w => exact ⟨nofun, fun h => nomatch h.2⟩
    | none =>
      dsimp only
      split
      · rename_i same
        exact ⟨nofun, fun h => absurd same h.1⟩
      · rename_i other
        exact ⟨fun _ => ⟨other, rfl⟩, fun _ => rfl⟩

/-- What is looked up is the last occurrence of the key. -/
lemma lookup?_eq_some_iff {α : Type} {key : String} {ms : List (String × α)} {w : α} :
    lookup? key ms = some w ↔
      ∃ before after, ms = before ++ (key, w) :: after ∧ ∀ m ∈ after, m.1 ≠ key := by
  constructor
  · intro h
    induction ms with
    | nil => cases h
    | cons m ms ih =>
      obtain ⟨k, v⟩ := m
      rw [lookup?] at h
      cases rest : lookup? key ms with
      | some w' =>
        rw [rest] at h ih
        obtain ⟨before, after, rfl, last⟩ := ih h
        exact ⟨(k, v) :: before, after, rfl, last⟩
      | none =>
        rw [rest] at h
        dsimp only at h
        split at h
        · rename_i same
          cases h
          rw [same]
          exact ⟨[], ms, rfl, lookup?_eq_none_iff.1 rest⟩
        · cases h
  · rintro ⟨before, after, rfl, last⟩
    induction before with
    | nil =>
      rw [List.nil_append, lookup?, lookup?_eq_none_iff.2 last]
      exact if_pos rfl
    | cons m before ih =>
      obtain ⟨k, v⟩ := m
      rw [List.cons_append, lookup?, ih]

/-- The member that counts in a tree. -/
def Tree.member? (key : String) : Tree → Option Tree
  | .object ms => lookup? key ms
  | _ => none

/-- The member that counts is the last one of its key. -/
lemma Tree.last_iff {key : String} {t u : Tree} : t.Last key u ↔ t.member? key = some u := by
  constructor
  · rintro ⟨last⟩
    exact lookup?_eq_some_iff.2 ⟨_, _, rfl, last⟩
  · intro h
    cases t with
    | object ms =>
      obtain ⟨before, after, rfl, last⟩ := lookup?_eq_some_iff.1 h
      exact .mk last
    | _ => cases h

/-! ## Values -/

/-- A number with its point moved out of the way is a whole number and a power of ten. -/
lemma Numeral.magnitude_of_whole {n : Numeral} {m k : ℕ}
    (digits : Decimal.digitsValue (n.whole ++ n.places.getD []) = m)
    (power : n.power - (n.places.getD []).length = k) : n.magnitude = m * 10 ^ k := by
  rw [magnitude, digits, power, zpow_natCast]

mutual

/-- A tree has a value exactly if none of its numbers is too large. -/
lemma Tree.isSome_value? (t : Tree) :
    t.value?.isSome ↔ ∀ n ∈ t.numerals, n.number? ≠ none := by
  cases t with
  | number n => simp [Tree.value?, Tree.numerals, Option.isSome_iff_ne_none]
  | list ts =>
    rw [Tree.value?, Tree.numerals, Option.isSome_map]
    exact isSome_itemsValue? ts
  | object ms =>
    rw [Tree.value?, Tree.numerals, Option.isSome_map]
    exact isSome_membersValue? ms
  | _ => simp [Tree.value?, Tree.numerals]

/-- Items have values exactly if none of their numbers is too large. -/
lemma isSome_itemsValue? (ts : List Tree) :
    (itemsValue? ts).isSome ↔ ∀ n ∈ itemsNumerals ts, n.number? ≠ none := by
  cases ts with
  | nil => simp [itemsValue?, itemsNumerals]
  | cons t ts =>
    rw [itemsValue?, itemsNumerals, List.forall_mem_append, ← Tree.isSome_value? t,
      ← isSome_itemsValue? ts]
    cases t.value? with
    | none => simp
    | some v => simp

/-- Members have values exactly if none of their numbers is too large. -/
lemma isSome_membersValue? (ms : List (String × Tree)) :
    (membersValue? ms).isSome ↔ ∀ n ∈ membersNumerals ms, n.number? ≠ none := by
  cases ms with
  | nil => simp [membersValue?, membersNumerals]
  | cons m ms =>
    obtain ⟨key, t⟩ := m
    rw [membersValue?, membersNumerals, List.forall_mem_append, ← Tree.isSome_value? t,
      ← isSome_membersValue? ms]
    cases t.value? with
    | none => simp
    | some v => simp

end

/-- What is looked up in the values is the value of what is looked up in the trees. -/
lemma lookup?_membersValue? (key : String) {ts : List (String × Tree)}
    {ms : List (String × Value)} (h : membersValue? ts = some ms) :
    (lookup? key ts = none ∧ lookup? key ms = none) ∨
      ∃ t v, lookup? key ts = some t ∧ lookup? key ms = some v ∧ t.value? = some v := by
  induction ts generalizing ms with
  | nil =>
    cases h
    exact .inl ⟨rfl, rfl⟩
  | cons t ts ih =>
    obtain ⟨k, t⟩ := t
    obtain ⟨v, value, rest⟩ := Option.bind_eq_some_iff.1 h
    obtain ⟨ms, values, rfl⟩ := Option.map_eq_some_iff.1 rest
    rw [lookup?, lookup?]
    obtain ⟨no_tree, no_value⟩ | ⟨u, w, tree_found, value_found, same⟩ := ih values
    · rw [no_tree, no_value]
      by_cases here : k = key
      · exact .inr ⟨t, v, if_pos here, if_pos here, value⟩
      · exact .inl ⟨if_neg here, if_neg here⟩
    · rw [tree_found, value_found]
      exact .inr ⟨u, w, rfl, rfl, same⟩

/-- The member that counts in a value is the value of the one that counts in the tree. -/
lemma Tree.member?_value (key : String) {t : Tree} {v : Value} (h : t.value? = some v) :
    (t.member? key = none ∧ v.member? key = none) ∨
      ∃ u w, t.member? key = some u ∧ v.member? key = some w ∧ u.value? = some w := by
  cases t with
  | object ts =>
    obtain ⟨ms, values, rfl⟩ := Option.map_eq_some_iff.1 h
    exact lookup?_membersValue? key values
  | number n =>
    obtain ⟨x, -, rfl⟩ := Option.map_eq_some_iff.1 h
    exact .inl ⟨rfl, rfl⟩
  | list ts =>
    obtain ⟨vs, -, rfl⟩ := Option.map_eq_some_iff.1 h
    exact .inl ⟨rfl, rfl⟩
  | _ =>
    cases h
    exact .inl ⟨rfl, rfl⟩

/-- Texts are those of texts. -/
lemma Tree.text?_value {t : Tree} {v : Value} {s : String} (h : t.value? = some v) :
    v.text? = some s ↔ t = .text s := by
  cases t with
  | text s' =>
    cases h
    rw [Value.text?, Option.some_inj, Tree.text.injEq]
  | number n =>
    obtain ⟨x, -, rfl⟩ := Option.map_eq_some_iff.1 h
    exact ⟨nofun, nofun⟩
  | list ts =>
    obtain ⟨vs, -, rfl⟩ := Option.map_eq_some_iff.1 h
    exact ⟨nofun, nofun⟩
  | object ts =>
    obtain ⟨vs, -, rfl⟩ := Option.map_eq_some_iff.1 h
    exact ⟨nofun, nofun⟩
  | _ =>
    cases h
    exact ⟨nofun, nofun⟩

/-- The items of a list are those of the tree, and only lists have some. -/
lemma Tree.items?_value {t : Tree} {v : Value} (h : t.value? = some v) :
    (∃ ts vs, t = .list ts ∧ v.items? = some vs ∧ itemsValue? ts = some vs) ∨
      ((∀ ts, t ≠ .list ts) ∧ v.items? = none) := by
  cases t with
  | list ts =>
    obtain ⟨vs, values, rfl⟩ := Option.map_eq_some_iff.1 h
    exact .inl ⟨ts, vs, rfl, rfl, values⟩
  | number n =>
    obtain ⟨x, -, rfl⟩ := Option.map_eq_some_iff.1 h
    exact .inr ⟨nofun, rfl⟩
  | object ts =>
    obtain ⟨vs, -, rfl⟩ := Option.map_eq_some_iff.1 h
    exact .inr ⟨nofun, rfl⟩
  | _ =>
    cases h
    exact .inr ⟨nofun, rfl⟩

/-- Each item has its own value. -/
lemma forall₂_itemsValue? {ts : List Tree} {vs : List Value} (h : itemsValue? ts = some vs) :
    List.Forall₂ (fun t v => t.value? = some v) ts vs := by
  induction ts generalizing vs with
  | nil =>
    cases h
    exact .nil
  | cons t ts ih =>
    obtain ⟨v, value, rest⟩ := Option.bind_eq_some_iff.1 h
    obtain ⟨vs, values, rfl⟩ := Option.map_eq_some_iff.1 rest
    exact .cons value (ih values)

end PackageFinder.Json

namespace PackageFinder
open Json (Tree Value IsText)

/-- The item of an element: its title and its address are those of its last members of these names that
are texts. -/
structure IsItemOf (t : Tree) (item : Item) : Prop where
  title_iff : ∀ s, item.title = some s ↔ t.Last "title" (.text s)
  url_iff : ∀ s, item.url = some s ↔ t.Last "url" (.text s)

/-- A member is a text in the value exactly if it is one in the tree. -/
lemma textMember_value_iff {key s : String} {t : Tree} {v : Value} (h : t.value? = some v) :
    (v.member? key).bind (·.text?) = some s ↔ t.Last key (.text s) := by
  rw [Tree.last_iff]
  obtain ⟨no_tree, no_value⟩ | ⟨u, w, tree, value, same⟩ := Tree.member?_value key h
  · rw [no_tree, no_value]
    exact ⟨nofun, nofun⟩
  · rw [tree, value, Option.some_inj, Option.bind_some]
    exact Tree.text?_value same

/-- The item of a value is one of the tree. -/
lemma isItemOf_ofValue {t : Tree} {v : Value} (h : t.value? = some v) :
    IsItemOf t (.ofValue v) :=
  ⟨fun _ => textMember_value_iff h, fun _ => textMember_value_iff h⟩

/-- The items of a page are those of the elements of its last list of downloads. -/
lemma ofPage_of_value {t : Tree} {v : Value} (h : t.value? = some v) :
    (∀ ts, t.Last "downloads" (.list ts) → List.Forall₂ IsItemOf ts (Item.ofPage v)) ∧
      ((∀ ts, ¬ t.Last "downloads" (.list ts)) → Item.ofPage v = []) := by
  simp only [Tree.last_iff]
  unfold Item.ofPage
  obtain ⟨no_tree, no_value⟩ | ⟨u, w, tree, value, same⟩ := Tree.member?_value "downloads" h
  · rw [no_tree, no_value]
    exact ⟨nofun, fun _ => rfl⟩
  · rw [tree, value, Option.bind_some]
    obtain ⟨ts, vs, rfl, items, values⟩ | ⟨no_list, no_items⟩ := Tree.items?_value same
    · rw [items]
      refine ⟨?_, fun none => absurd rfl (none ts)⟩
      rintro _ ⟨⟩
      refine List.forall₂_map_right_iff.2 ((Json.forall₂_itemsValue? values).imp ?_)
      exact fun _ _ h => isItemOf_ofValue h
    · rw [no_items]
      refine ⟨?_, fun _ => rfl⟩
      rintro ts ⟨⟩
      exact absurd rfl (no_list ts)

/-- A JSON text is decoded without loss if it is nested at most 127 levels deep and none of its numbers
is too large; numbers up to a bound are not. Only such texts are decoded, and any other one is the
failure of its page. -/
theorem parsePage_of_text (text : String) :
    (∀ t, IsText t text.toList → t.depth ≤ 127 → (∀ n ∈ t.numerals, n.number? ≠ none) →
      ∃ items, Item.parsePage text = .ok items ∧
        (∀ ts, t.Last "downloads" (.list ts) → List.Forall₂ IsItemOf ts items) ∧
        ((∀ ts, ¬ t.Last "downloads" (.list ts)) → items = [])) ∧
    (∀ n : Json.Numeral, n.magnitude ≤ 179769313486231 * 10 ^ 294 → n.power < 2 ^ 31 →
      n.number? ≠ none) ∧
    (∀ items, Item.parsePage text = .ok items →
      ∃ t, IsText t text.toList ∧ t.depth ≤ 127 ∧ ∀ n ∈ t.numerals, n.number? ≠ none) ∧
    ((∀ t, ¬ IsText t text.toList) → ∃ complaint, Item.parsePage text = .error complaint ∧
      ∀ offset, Page.ofBody offset (.ok text) = .failed offset (.decode complaint)) := by
  have read : ∀ items, Item.parsePage text = .ok items →
      ∃ t, IsText t text.toList ∧ t.depth ≤ 127 ∧ ∀ n ∈ t.numerals, n.number? ≠ none := by
    intro items h
    obtain ⟨v, parsed, -⟩ := map_eq_ok h
    obtain ⟨t, stands, low, value⟩ := Json.parse_eq_ok_iff.1 parsed
    exact ⟨t, stands, low, t.isSome_value?.1 (by rw [value]; rfl)⟩
  -- one direction of the reader gives the items, the other one refuses every other text
  refine ⟨?_, ?_, read, ?_⟩
  · intro t stands low fit
    obtain ⟨v, value⟩ := Option.isSome_iff_exists.1 (t.isSome_value?.2 fit)
    have parsed := Json.parse_eq_ok_iff.2 ⟨t, stands, low, value⟩
    refine ⟨Item.ofPage v, ?_, ofPage_of_value value⟩
    rw [Item.parsePage, parsed]
    rfl
  · intro n small exponent
    exact Json.Numeral.number?_ne_none small (Int.le_of_lt_add_one exponent)
  · intro no_text
    cases parsed : Item.parsePage text with
    | ok items =>
      obtain ⟨t, stands, -⟩ := read items parsed
      exact absurd stands (no_text t)
    | error complaint =>
      refine ⟨complaint, rfl, fun offset => ?_⟩
      rw [Page.ofBody, parsed]

/-- A page with a list of downloads and nothing else. -/
def downloadsPage (ts : List Tree) : Tree := .object [("downloads", .list ts)]

/-- Its text begins so. -/
def downloadsText (items : List Char) : List Char :=
  '\x7b' :: '"' :: ("downloads".toList ++ '"' :: ':' :: ' ' :: '[' :: items)

/-- A text of items, with what such a page puts around it, is a text of the page. -/
lemma isText_page {ts : List Tree} {items : List Char} (h : Json.Starts (.items ts) items ['\x7d']) :
    IsText (downloadsPage ts) (downloadsText items) := by
  have key := Json.quoted_plain (t := "downloads".toList) (by simp [Json.isControl])
    (':' :: ' ' :: '[' :: items)
  have member := Json.Starts.lastMember key .nil (.cons rfl .nil) (.list .nil h) (r := []) .nil
  rw [String.ofList_toList] at member
  exact ⟨_, [], .nil, .object .nil member, .nil⟩

/-- A number of one digit. -/
def seven : Json.Numeral where
  negative := false
  whole := ['7']
  places := none
  tail := []
  power := 0
  digits := by decide
  nonempty := by decide
  no_zero := by decide
  places_digits := nofun
  exponent := .missing

/-- A download whose address is no text, and one that is nothing. -/
def looseElements : List Tree := [.object [("url", .number seven), ("title", .text "A")], .null]

/-- Their text, with an escape and blanks. -/
def looseText : String :=
  "\x7b\"downloads\": [\x7b\"url\":7,\"title\":\"\\u0041\"\x7d , null]\x7d"

/-- It is a text of a page with these elements. -/
lemma isText_looseText : IsText (downloadsPage looseElements) looseText.toList := by
  have text : looseText.toList = downloadsText
      ('\x7b' :: '"' :: ("url".toList ++ '"' :: ':' :: (seven.text ++ ',' :: '"' ::
        ("title".toList ++ '"' :: ':' :: '"' :: '\\' :: 'u' :: '0' :: '0' :: '4' :: '1' ::
          '"' :: '\x7d' :: ' ' :: ',' :: ' ' :: ("null".toList ++ [']', '\x7d']))))) := by
    decide +kernel
  rw [text]
  refine isText_page (.nextItem (.object .nil ?_) (.cons (c := ' ') rfl .nil)
    (.cons (c := ' ') rfl .nil) (.lastItem .null .nil))
  have url := Json.quoted_plain (t := "url".toList) (by simp [Json.isControl])
  have title := Json.quoted_plain (t := "title".toList) (by simp [Json.isControl])
  have letter := fun r => Json.Quoted.escape
    (.number (a := '0') (b := '0') (c := '4') (d := '1') (n := 65) rfl rfl rfl)
    (Json.Quoted.close (r := r))
  exact .nextMember (url _) .nil .nil .number .nil .nil
    (.lastMember (title _) .nil .nil (.text (letter _)) .nil)

/-- The numbers of this text are small, its elements are its items, and no text at all is no page. -/
theorem parsePage_of_looseText :
    (∃ items, Item.parsePage looseText = .ok items ∧ List.Forall₂ IsItemOf looseElements items) ∧
      ∃ complaint, Item.parsePage "" = .error complaint ∧
        Page.ofBody 0 (.ok "") = .failed 0 (.decode complaint) := by
  obtain ⟨decoded, fit, -, -⟩ := parsePage_of_text looseText
  obtain ⟨-, -, -, refused⟩ := parsePage_of_text ""
  have numbers : ∀ n ∈ (downloadsPage looseElements).numerals, n.number? ≠ none := by
    intro n hn
    cases List.mem_singleton.1 hn
    refine fit seven ?_ (by decide)
    rw [Json.Numeral.magnitude_of_whole (m := 7) (k := 0) (by decide) (by decide)]
    calc ((7 : ℕ) : ℚ) * 10 ^ 0 ≤ 179769313486231 := by norm_num
      _ ≤ 179769313486231 * 10 ^ 294 :=
        le_mul_of_one_le_right (by norm_num) (one_le_pow₀ (by norm_num))
  have last : (downloadsPage looseElements).Last "downloads" (.list looseElements) :=
    @Tree.Last.mk _ [] _ _ nofun
  have no_text : ∀ t, ¬ IsText t "".toList := by
    rintro t ⟨s, r, blanks, starts, -⟩
    exact absurd (starts.length_lt.trans_le blanks.length_le) (Nat.not_lt_zero _)
  obtain ⟨items, parsed, elements, -⟩ := decoded _ isText_looseText (by decide) numbers
  obtain ⟨complaint, failure, page⟩ := refused no_text
  exact ⟨⟨items, parsed, elements _ last⟩, complaint, failure, page 0⟩

/-- A number that is no larger than the largest double, and near it. -/
def nearLargest : Json.Numeral where
  negative := false
  whole := "1797693134862315708".toList
  places := none
  tail := "e290".toList
  power := 290
  digits := by decide
  nonempty := by decide
  no_zero := by decide
  places_digits := nofun
  exponent := @Decimal.Exponent.power 'e' _ _ ['2', '9', '0'] (.inl rfl) .missing (by decide)
    (by decide)

/-- A text whose only element is this number. -/
def nearLargestText : String := "\x7b\"downloads\": [1797693134862315708e290]\x7d"

/-- It is a text of a page with that element. -/
lemma isText_nearLargestText : IsText (downloadsPage [.number nearLargest]) nearLargestText.toList := by
  have text : nearLargestText.toList = downloadsText (nearLargest.text ++ [']', '\x7d']) := by
    decide +kernel
  rw [text]
  exact isText_page (.lastItem .number .nil)

/-- A number within the range of doubles is too large for its digits and its power of ten are rounded
before they are multiplied. -/
theorem parsePage_near_largest :
    IsText (downloadsPage [.number nearLargest]) nearLargestText.toList ∧
      (downloadsPage [.number nearLargest]).depth ≤ 127 ∧
      (∀ n ∈ (downloadsPage [.number nearLargest]).numerals,
        n.magnitude ≤ (2 ^ 53 - 1) * 2 ^ 971) ∧
      (⟨0x7fefffffffffffff⟩ : Binary64).view = .finite false (2 ^ 53 - 1) 971 ∧
      Item.parsePage nearLargestText = .error ⟨.numberTooLarge, ⟨1, 38⟩⟩ := by
  refine ⟨isText_nearLargestText, by decide, ?_, by decide, ?_⟩
  · have small : 1797693134862315708 * 10 ^ 290 ≤ (2 ^ 53 - 1) * 2 ^ 971 := by decide +kernel
    have largest : ((2 ^ 53 - 1 : ℕ) : ℚ) = 2 ^ 53 - 1 := by norm_num
    intro n hn
    cases List.mem_singleton.1 hn
    rw [Json.Numeral.magnitude_of_whole (m := 1797693134862315708) (k := 290) (by decide +kernel)
      (by decide +kernel), ← largest]
    exact_mod_cast small
  · decide +kernel

end PackageFinder
