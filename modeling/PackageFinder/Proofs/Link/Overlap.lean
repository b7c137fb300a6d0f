import Mathlib.Data.List.Infix
import PackageFinder.Proofs.Link.Search

/-!
# Links that meet

Two links of a text have at most one quote in common, the last one of the earlier link and the first
one of the later (`Embedding.stop_le`). So no link starts inside another one, not even inside one
that is still to be finished. Hence the first link of a text stays the first one when the text goes
on (`extract_first_append`), and a link that is put into a text is found there
(`extract_embedded`).
-/

namespace PackageFinder.Link
open PackageFinder.Text

variable {s : List Char}

/-- Of two cuts of a text around a character each, one comes before the other unless they are the
same. -/
lemma cut_cases {α : Type} {c d : α} {u v t r : List α} (cut : u ++ c :: t = v ++ d :: r) :
    (v = u ∧ c = d ∧ t = r) ∨ (∃ w, v = u ++ c :: w ∧ t = w ++ d :: r)
      ∨ ∃ w, u = v ++ d :: w ∧ r = w ++ c :: t := by
  rcases List.append_eq_append_iff.1 cut with ⟨w, rfl, e⟩ | ⟨w, rfl, e⟩
  · cases w with
    | nil =>
      cases e
      exact .inl ⟨List.append_nil u, rfl, rfl⟩
    | cons c w =>
      cases e
      exact .inr (.inl ⟨w, rfl, rfl⟩)
  · cases w with
    | nil =>
      cases e
      exact .inl ⟨(List.append_nil v).symm, rfl, rfl⟩
    | cons c w =>
      cases e
      exact .inr (.inr ⟨w, rfl, rfl⟩)

/-- After a piece without `d`, the first `d` stands where the piece ends. -/
lemma eq_or_exists_of_cut {α : Type} {d : α} {u v t r : List α} (hu : d ∉ u)
    (cut : u ++ d :: t = v ++ d :: r) :
    (v = u ∧ t = r) ∨ ∃ w, v = u ++ d :: w ∧ t = w ++ d :: r := by
  rcases cut_cases cut with ⟨same, -, rest⟩ | later | ⟨w, rfl, -⟩
  · exact .inl ⟨same, rest⟩
  · exact .inr later
  · exact (hu (List.mem_append_right v List.mem_cons_self)).elim

/-- A piece without `d` stands before the first `d`. -/
lemma exists_of_cut {α : Type} {d : α} {u v t r : List α} (hu : d ∉ u)
    (cut : v ++ d :: t = u ++ r) : ∃ w, v = u ++ w ∧ w ++ d :: t = r := by
  rcases List.append_eq_append_iff.1 cut with ⟨w, rfl, e⟩ | ⟨w, rfl, e⟩
  · cases w with
    | nil => exact ⟨[], by rw [List.append_nil, List.append_nil], e⟩
    | cons c w =>
      cases e
      exact (hu (List.mem_append_right v List.mem_cons_self)).elim
  · exact ⟨w, rfl, e.symm⟩

/-- The name in the key of a link, and the quote after it. -/
def keyEnd : List Char := "metaUrl\"".toList

/-- A quote is not blank. -/
lemma ne_quote_of_isBlank {c : Char} (h : isBlank c = true) : c ≠ '"' := by
  rintro rfl
  cases h

/-- An address starts with its scheme, and a scheme with an `h`. -/
lemma IsAddress.exists_eq_cons {u : List Char} (h : IsAddress u) : ∃ r, u = 'h' :: r := by
  cases h with
  | of hs _ _ => rcases Pattern.mem_schemes_iff.1 hs with rfl | rfl <;> exact ⟨_, rfl⟩

namespace Embedding

/-! ## Where a link ends -/

/-- The characters of a link. -/
def text (e : Embedding s) : List Char :=
  key ++ e.left ++ ':' :: e.right ++ '"' :: e.address ++ ['"']

/-- Where a link ends. -/
def stop (e : Embedding s) : Nat := e.start + e.text.length

/-- A text is what stands before a link, the link, and what stands after it. -/
lemma eq_append (e : Embedding s) : s = e.before ++ e.text ++ e.after := by
  rw [text]
  simpa only [List.append_assoc, List.cons_append, List.nil_append] using e.text_eq

/-- A link is longer than its key. -/
lemma start_add_lt_stop (e : Embedding s) : e.start + key.length < e.stop := by
  simp only [stop, text, List.length_append, List.length_cons, List.length_nil]
  omega

/-- A link ends within its text. -/
lemma stop_le_length (e : Embedding s) : e.stop ≤ s.length := by
  have whole := congrArg List.length e.eq_append
  rw [List.length_append, List.length_append] at whole
  rw [stop, start]
  omega

/-- So it starts within it. -/
lemma start_le_length (e : Embedding s) : e.start ≤ s.length :=
  (Nat.le_of_lt (Nat.lt_of_le_of_lt (Nat.le_add_right _ _) e.start_add_lt_stop)).trans e.stop_le_length

/-- After the key come blanks or the colon, and neither goes on as a key does. -/
lemma left_append_ne (e : Embedding s) {t r : List Char} : e.left ++ ':' :: t ≠ 'm' :: r := by
  intro eq
  cases h : e.left with
  | nil =>
    rw [h] at eq
    cases eq
  | cons c left =>
    rw [h] at eq
    cases eq
    cases e.left_blank 'm' (h ▸ List.mem_cons_self)

/-- Nor does an address. -/
lemma address_append_ne (e : Embedding s) {t r : List Char} : e.address ++ t ≠ 'm' :: r := by
  obtain ⟨u, scheme⟩ := e.isAddress.exists_eq_cons
  rw [scheme]
  intro eq
  cases eq

/-- What stands between the start of a link and the start of a later one. -/
lemma exists_between {e e' : Embedding s} (h : e.start < e'.start) :
    ∃ x, e'.before = e.before ++ '"' :: x ∧ ∃ r,
      keyEnd ++ (e.left ++ ':' :: (e.right ++ '"' :: (e.address ++ '"' :: e.after)))
        = x ++ '"' :: 'm' :: r := by
  have cut := e.text_eq.symm.trans e'.text_eq
  simp only [List.append_assoc, List.cons_append] at cut
  rcases List.append_eq_append_iff.1 cut with ⟨x, before, cut⟩ | ⟨x, later, _⟩
  · cases x with
    | nil =>
      rw [start, start, before, List.append_nil] at h
      exact (Nat.lt_irrefl _ h).elim
    | cons c x =>
      cases (List.cons.inj cut).1
      exact ⟨x, before, _, (List.cons.inj cut).2⟩
  · rw [start, start, later, List.length_append] at h
    omega

/-- Two links have at most one quote in common. No quote of a link but its first and its last is
followed by the rest of a key. -/
lemma stop_le {e e' : Embedding s} (h : e.start < e'.start) : e.stop ≤ e'.start + 1 := by
  obtain ⟨x, before, r, cut⟩ := exists_between h
  have free : '"' ∉ e.left ++ ':' :: e.right := by
    rw [List.mem_append, List.mem_cons]
    rintro (left | colon | right)
    · exact ne_quote_of_isBlank (e.left_blank _ left) rfl
    · cases colon
    · exact ne_quote_of_isBlank (e.right_blank _ right) rfl
  have free' : '"' ∉ e.address := fun quote => by simpa using e.isAddress.ne_quote _ quote
  -- the quote after the key
  have keyed : "metaUrl".toList ++ '"' ::
      (e.left ++ ':' :: (e.right ++ '"' :: (e.address ++ '"' :: e.after))) = x ++ '"' :: 'm' :: r :=
    cut
  rcases eq_or_exists_of_cut (by decide) keyed with ⟨_, eq⟩ | ⟨y, rfl, quoted⟩
  · exact (e.left_append_ne eq).elim
  -- the quote before the address
  rw [← List.cons_append, ← List.append_assoc] at quoted
  rcases eq_or_exists_of_cut free quoted with ⟨_, eq⟩ | ⟨z, rfl, closed⟩
  · exact (e.address_append_ne eq).elim
  -- the quote after the address
  have length : e.address.length ≤ z.length := by
    rcases eq_or_exists_of_cut free' closed with ⟨rfl, _⟩ | ⟨w, rfl, _⟩
    · exact Nat.le_refl _
    · rw [List.length_append]
      exact Nat.le_add_right _ _
  have keyLength : key.length = 9 := rfl
  have nameLength : "metaUrl".toList.length = 7 := rfl
  rw [stop, text, start, start, before]
  simp only [List.length_append, List.length_cons, List.length_nil, keyLength, nameLength]
  omega

/-! ## Longer and shorter texts -/

/-- A link stays where it is when its text goes on. -/
def extend (e : Embedding s) (t : List Char) : Embedding (s ++ t) where
  before := e.before
  left := e.left
  right := e.right
  address := e.address
  after := e.after ++ t
  text_eq := by
    have whole := congrArg (· ++ t) e.text_eq
    simpa only [List.append_assoc, List.cons_append] using whole
  left_blank := e.left_blank
  right_blank := e.right_blank
  isAddress := e.isAddress

/-- A link that ends before the text goes on was there before. -/
lemma exists_restrict {t : List Char} (e : Embedding (s ++ t)) (h : e.stop ≤ s.length) :
    ∃ f : Embedding s, f.start = e.start := by
  have first : e.before ++ e.text <+: s ++ t := ⟨e.after, e.eq_append.symm⟩
  obtain ⟨after, whole⟩ : e.before ++ e.text <+: s :=
    List.prefix_of_prefix_length_le first (List.prefix_append s t) (by
      rwa [List.length_append])
  refine ⟨⟨e.before, e.left, e.right, e.address, after, whole.symm.trans ?_, e.left_blank,
    e.right_blank, e.isAddress⟩, rfl⟩
  rw [text]
  simp only [List.append_assoc, List.cons_append, List.nil_append]

/-- A piece that a text starts with holds the key of a link if it reaches that far. -/
lemma key_isInfix {t r : List Char} (e : Embedding s) (cut : s = t ++ r)
    (h : e.start + key.length ≤ t.length) : key <:+: t := by
  have first : e.before ++ key <+: t ++ r := by
    rw [← cut]
    refine ⟨e.left ++ ':' :: e.right ++ '"' :: e.address ++ '"' :: e.after, ?_⟩
    simpa only [List.append_assoc, List.cons_append] using e.text_eq.symm
  have inside : e.before ++ key <+: t :=
    List.prefix_of_prefix_length_le first (List.prefix_append t r) (by rwa [List.length_append])
  exact (List.suffix_append e.before key).isInfix.trans inside.isInfix

/-- A piece that a text ends with holds the rest of the key of a link if it reaches that far. -/
lemma keyEnd_isInfix {t r : List Char} (e : Embedding s) (cut : s = t ++ r)
    (h : t.length ≤ e.start + 1) : keyEnd <:+: r := by
  obtain ⟨rest, keyed⟩ : ∃ rest, s = e.before ++ ['"'] ++ (keyEnd ++ rest) := by
    refine ⟨e.left ++ ':' :: e.right ++ '"' :: e.address ++ '"' :: e.after, e.text_eq.trans ?_⟩
    simp only [List.append_assoc, List.cons_append, List.nil_append]
    rfl
  have length := congrArg List.length (cut.symm.trans keyed)
  have last : keyEnd ++ rest <:+ t ++ r := ⟨_, (cut.symm.trans keyed).symm⟩
  have inside : keyEnd ++ rest <:+ r := by
    refine List.suffix_of_suffix_length_le last (List.suffix_append t r) ?_
    rw [List.length_append, List.length_append, List.length_append, List.length_singleton] at length
    rw [start] at h
    omega
  exact (List.prefix_append keyEnd rest).isInfix.trans inside.isInfix

end Embedding

/-! ## The first link -/

/-- The first link of a text stays the first one when the text goes on. A link that started earlier
would end in the text, and there is none. -/
lemma Embedding.start_extend_le {e : Embedding s} (least : ∀ e' : Embedding s, e.start ≤ e'.start)
    {t : List Char} (e' : Embedding (s ++ t)) : (e.extend t).start ≤ e'.start := by
  by_contra earlier
  have meet := Embedding.stop_le (Nat.lt_of_not_le earlier)
  have keyed := e.start_add_lt_stop
  have inside := e.stop_le_length
  have same : (e.extend t).start = e.start := rfl
  obtain ⟨f, start⟩ := e'.exists_restrict (by omega)
  exact earlier (start ▸ least f)

/-- A link is the first one if no key stands before it. One that started earlier would have its key
there. -/
lemma first?_of_embedding (e : Embedding s) (free : ¬ key <:+: e.before) :
    first? s = some e.address := by
  refine first?_eq_some_iff.2 ⟨e, rfl, fun e' => Nat.le_of_not_lt fun earlier => free ?_⟩
  have meet := Embedding.stop_le earlier
  have keyed := e'.start_add_lt_stop
  have cut := e.eq_append
  rw [List.append_assoc] at cut
  exact e'.key_isInfix cut (by rw [Embedding.start] at meet; omega)

/-- The first link that is found in a page is found in the page whatever follows, and no link of the
longer page starts before it. -/
theorem extract_first_append {body u : String} (found : extract .first body = some u)
    (more : String) :
    extract .first (body ++ more) = some u ∧
      ∃ e : Embedding body.toList, String.ofList e.address = u ∧
        ∀ e' : Embedding (body ++ more).toList, e.start ≤ e'.start := by
  rw [extract, Option.map_eq_some_iff] at found
  obtain ⟨v, found, rfl⟩ := found
  obtain ⟨e, rfl, least⟩ := first?_eq_some_iff.1 found
  have longer : (body ++ more).toList = body.toList ++ more.toList := String.toList_append
  rw [longer]
  have earliest := e.start_extend_le least (t := more.toList)
  refine ⟨?_, e, rfl, earliest⟩
  rw [extract, longer, MatchMode.find?, first?_eq_some_iff.2 ⟨_, rfl, earliest⟩]
  rfl

/-- Of two links that are not finished, the one before the link that is found stays so, and the one
after it starts with its last quote. -/
theorem extract_first_append_unfinished :
    extract .first "\"metaUrl\":\"metaUrl\":\"http://a\"metaUrl\":\"http" = some "http://a" ∧
      extract .first ("\"metaUrl\":\"metaUrl\":\"http://a\"metaUrl\":\"http" ++ "://b\"")
        = some "http://a" := by
  have found : extract .first "\"metaUrl\":\"metaUrl\":\"http://a\"metaUrl\":\"http"
      = some "http://a" := by
    decide +kernel
  exact ⟨found, (extract_first_append found _).1⟩

/-! ## The last link of a line -/

/-- No link starts on lines that hold no key. -/
lemma Embedding.length_le_start (e : Embedding s) {above t : List Char} (cut : s = above ++ t)
    (ends : above = [] ∨ ∃ a, above = a ++ ['\n']) (free : ¬ key <:+: above) :
    above.length ≤ e.start := by
  have both := cut.symm.trans e.text_eq
  simp only [List.append_assoc] at both
  rcases List.append_eq_append_iff.1 both with ⟨x, before, _⟩ | ⟨x, rfl, keyed⟩
  · rw [start, before, List.length_append]
    exact Nat.le_add_right _ _
  -- `x` is what the lines have in common with the text from the link on
  rcases List.append_eq_append_iff.1 keyed with ⟨y, rfl, _⟩ | ⟨y, inside, _⟩
  · exact (free ⟨e.before, y, List.append_assoc _ _ _⟩).elim
  · rcases List.eq_nil_or_concat x with rfl | ⟨x', c, rfl⟩
    · rw [List.append_nil, start]
    · rcases ends with empty | ⟨a, eq⟩
      · simp at empty
      · rw [List.concat_eq_append, ← List.append_assoc] at eq
        obtain ⟨_, newLine⟩ := List.append_inj' eq rfl
        cases newLine
        have : '\n' ∈ key := by simp [inside]
        exact absurd this (by decide)

/-- A link is the last one of its line if no key stands on the lines before and no rest of a key
stands after it. One that started later would have the rest of its key there. -/
lemma greedy?_of_embedding (e : Embedding s) {above line : List Char} (cut : e.before = above ++ line)
    (ends : above = [] ∨ ∃ a, above = a ++ ['\n']) (free : ¬ key <:+: above)
    (oneLine : '\n' ∉ line) (free' : ¬ keyEnd <:+: e.after) : greedy? s = some e.address := by
  obtain ⟨f, least⟩ := exists_first e
  obtain ⟨g, found, -, last⟩ := exists_greedy?_eq f least
  have whole := e.eq_append
  have onLine : OnLine s f.start e.start := by
    rw [cut, List.append_assoc, List.append_assoc] at whole
    have below := f.length_le_start whole ends free
    have passed : s.take e.start = above ++ line := by
      rw [Embedding.start, cut, whole, ← List.append_assoc, List.take_left]
    refine ⟨least e, fun newLine => oneLine ?_⟩
    rw [← List.drop_take, passed, List.drop_append, List.drop_eq_nil_of_le below,
      List.nil_append] at newLine
    exact List.mem_of_mem_drop newLine
  have latest := last e onLine
  rw [found, Embedding.eq_of_start_eq (Nat.le_antisymm (Nat.le_of_not_lt fun later => ?_) latest)]
  have meet := Embedding.stop_le later
  exact free' (g.keyEnd_isInfix whole (by rwa [List.length_append]))

/-! ## Links that are put into a page -/

/-- The text of a link with blanks on both sides of its colon. -/
def member (left right address : String) : String :=
  "\"metaUrl\"" ++ left ++ ":" ++ right ++ "\"" ++ address ++ "\""

variable {left right address : String}

/-- The link that is put between two texts. -/
lemma exists_embedding (hl : ∀ c ∈ left.toList, isBlank c = true)
    (hr : ∀ c ∈ right.toList, isBlank c = true) (ha : IsAddress address.toList)
    (before after : String) :
    ∃ e : Embedding (before ++ member left right address ++ after).toList,
      e.before = before.toList ∧ e.address = address.toList ∧ e.after = after.toList := by
  refine ⟨⟨before.toList, left.toList, right.toList, address.toList, after.toList, ?_, hl, hr, ha⟩,
    rfl, rfl, rfl⟩
  simp only [member, String.toList_append, List.append_assoc]
  rfl

/-- A link that is put into a page is the one that is found in it: as the first link unless a key
stands before it, and as the last link of its line unless a key stands on the lines before or the
rest of one after it, whatever else stands on the line before it. -/
theorem extract_embedded (hl : ∀ c ∈ left.toList, isBlank c = true)
    (hr : ∀ c ∈ right.toList, isBlank c = true) (ha : IsAddress address.toList) :
    (∀ before after : String, ¬ key <:+: before.toList →
      extract .first (before ++ member left right address ++ after) = some address) ∧
    (∀ above line after : String, above = "" ∨ (∃ a, above = a ++ "\n") →
      ¬ key <:+: above.toList → '\n' ∉ line.toList → ¬ keyEnd <:+: after.toList →
      extract .greedy (above ++ line ++ member left right address ++ after) = some address) := by
  constructor
  · intro before after free
    obtain ⟨e, before_eq, address_eq, -⟩ := exists_embedding hl hr ha before after
    rw [extract, MatchMode.find?, first?_of_embedding e (before_eq ▸ free), address_eq,
      Option.map_some, String.ofList_toList]
  · intro above line after ends free oneLine free'
    obtain ⟨e, before_eq, address_eq, after_eq⟩ :=
      exists_embedding hl hr ha (above ++ line) after
    have ends' : above.toList = [] ∨ ∃ a, above.toList = a ++ ['\n'] := by
      rcases ends with rfl | ⟨a, rfl⟩
      · exact .inl rfl
      · exact .inr ⟨a.toList, String.toList_append⟩
    rw [extract, MatchMode.find?,
      greedy?_of_embedding e (before_eq.trans String.toList_append) ends' free oneLine
        (after_eq ▸ free'), address_eq, Option.map_some, String.ofList_toList]

/-- Before the link stands all of a key but its last quote, or an address whose closing quote is the
first one of the link; after it goes on a key that starts with its last quote, or half of one. -/
theorem extract_embedded_between :
    extract .first ("\"metaUrl" ++ member "\n" "\u2003" "https://a" ++ "metaUrl\":\"http://b\"")
        = some "https://a" ∧
      extract .greedy ("\"metaUrl\n" ++ "\"metaUrl\":\"http://c\" \"metaUrl\":\"http://d"
          ++ member "\n" "\u2003" "https://a" ++ "metaUrl") = some "https://a" := by
  have address : IsAddress "https://a".toList :=
    @IsAddress.of "https://".toList ['a'] (by decide) (by decide) (by simp; decide)
  obtain ⟨first, greedy⟩ := @extract_embedded "\n" "\u2003" "https://a" (List.all_eq_true.1 rfl)
    (List.all_eq_true.1 rfl) address
  exact ⟨first _ _ (by decide), greedy _ _ _ (.inr ⟨"\"metaUrl", rfl⟩) (by decide) (by decide)
    (by decide)⟩

end PackageFinder.Link
