import Mathlib.Data.List.TakeWhile
import PackageFinder.Link.Occurrence

/-!
# Links in their texts

A link is embedded in a text as a quoted key, a colon with blanks on both sides of it, and a quoted
address. `Embedding` cuts a text around a link. Reading a link at a place finds exactly those that are
embedded there (`Embedding.exists_iff`), and that is at most one (`Embedding.eq_of_start_eq`).
-/

namespace PackageFinder.Link
open PackageFinder.Text

/-! ## Runs of a class -/

section runs
variable {α : Type} {p : α → Bool} {d : α} {s t u v : List α}

/-- What follows the longest run of a class is what follows a run that something else ends. -/
lemma dropWhile_eq_cons_iff (hd : p d = false) :
    s.dropWhile p = d :: t ↔ ∃ u, (∀ c ∈ u, p c) ∧ s = u ++ d :: t := by
  constructor
  · intro h
    refine ⟨s.takeWhile p, fun c => List.mem_takeWhile_imp, ?_⟩
    rw [← h, List.takeWhile_append_dropWhile]
  · rintro ⟨u, hu, rfl⟩
    rw [List.dropWhile_append_of_pos hu, List.dropWhile_cons_of_neg (by simp [hd])]

/-- A run that something else ends is the longest one. -/
lemma takeWhile_run (hd : p d = false) (hu : ∀ c ∈ u, p c) : (u ++ d :: t).takeWhile p = u := by
  rw [List.takeWhile_append_of_pos hu, List.takeWhile_cons_of_neg (by simp [hd]), List.append_nil]

/-- There is one way to cut a text after a run that something else ends. -/
lemma run_unique (hd : p d = false) (hu : ∀ c ∈ u, p c) (hv : ∀ c ∈ v, p c)
    (e : u ++ d :: s = v ++ d :: t) : u = v ∧ s = t := by
  have same : u = v := by
    rw [← takeWhile_run hd hu, e, takeWhile_run hd hv]
  subst same
  exact ⟨rfl, (List.cons.inj (List.append_cancel_left e)).2⟩

end runs

/-! ## Addresses -/

/-- The address of a link: a scheme and at least one more character, none of them a quote or a
blank. -/
inductive IsAddress : List Char → Prop
  | of {scheme rest} :
    scheme ∈ schemes → rest ≠ [] → (∀ c ∈ rest, c ≠ '"' ∧ isBlank c = false) →
    IsAddress (scheme ++ rest)

/-- What may stand in an address is neither a quote nor a blank. -/
lemma isAddressChar_iff {c : Char} : isAddressChar c = true ↔ c ≠ '"' ∧ isBlank c = false := by
  simp [isAddressChar]

/-- A quote ends an address. -/
lemma isAddressChar_quote : isAddressChar '"' = false := rfl

/-- No scheme holds a quote. -/
lemma ne_quote_of_mem_schemes : ∀ scheme ∈ schemes, ∀ c ∈ scheme, (c != '"') = true := by
  simp [schemes]

/-- No address holds a quote. -/
lemma IsAddress.ne_quote {u : List Char} (h : IsAddress u) : ∀ c ∈ u, (c != '"') = true := by
  cases h with
  | of hs _ hr =>
    intro c hc
    rcases List.mem_append.1 hc with hc | hc
    · exact ne_quote_of_mem_schemes _ hs c hc
    · exact bne_iff_ne.2 (hr c hc).1

/-- An address of a scheme is read up to its closing quote. -/
lemma addressAfter?_eq_some_iff {scheme s u : List Char} :
    addressAfter? scheme s = some u ↔ ∃ rest after, rest ≠ [] ∧ (∀ c ∈ rest, isAddressChar c) ∧
      u = scheme ++ rest ∧ s = u ++ '"' :: after := by
  constructor
  · intro h
    unfold addressAfter? at h
    split at h
    case h_1 => cases h
    case h_2 r hr =>
      have cut := after?_eq_some_iff.1 hr
      split at h
      case h_2 => cases h
      case h_1 c body after taken left =>
        cases h
        have rest := List.takeWhile_append_dropWhile (p := isAddressChar) (l := r)
        rw [taken, left] at rest
        refine ⟨c :: body, after, List.cons_ne_nil c body, ?_, rfl, ?_⟩
        · rw [← taken]
          exact fun c => List.mem_takeWhile_imp
        · rw [cut, ← rest, List.append_assoc]
  · rintro ⟨rest, after, nonempty, ok, rfl, rfl⟩
    obtain ⟨c, body, rfl⟩ := List.exists_cons_of_ne_nil nonempty
    have left : (c :: body ++ '"' :: after).dropWhile isAddressChar = '"' :: after :=
      (dropWhile_eq_cons_iff isAddressChar_quote).2 ⟨_, ok, rfl⟩
    unfold addressAfter?
    rw [List.append_assoc, after?_append]
    simp only [takeWhile_run isAddressChar_quote ok, left]

/-- The schemes are tried in turn, but whichever fits, the address ends at the first quote. -/
lemma findSome?_schemes_iff {s u : List Char} :
    schemes.findSome? (addressAfter? · s) = some u ↔
      IsAddress u ∧ ∃ after, s = u ++ '"' :: after := by
  have sound : ∀ v, schemes.findSome? (addressAfter? · s) = some v →
      IsAddress v ∧ ∃ after, s = v ++ '"' :: after := by
    intro v h
    obtain ⟨scheme, hs, found⟩ := List.exists_of_findSome?_eq_some h
    obtain ⟨rest, after, nonempty, ok, rfl, cut⟩ := addressAfter?_eq_some_iff.1 found
    exact ⟨.of hs nonempty fun c hc => isAddressChar_iff.1 (ok c hc), after, cut⟩
  refine ⟨sound u, ?_⟩
  rintro ⟨address, after, cut⟩
  cases address with
  | @of scheme rest hs nonempty ok =>
    have found : addressAfter? scheme s = some (scheme ++ rest) :=
      addressAfter?_eq_some_iff.2
        ⟨rest, after, nonempty, fun c hc => isAddressChar_iff.2 (ok c hc), rfl, cut⟩
    have some : (schemes.findSome? (addressAfter? · s)).isSome :=
      List.findSome?_isSome_iff.2 ⟨scheme, hs, by rw [found]; rfl⟩
    obtain ⟨v, hv⟩ := Option.isSome_iff_exists.1 some
    obtain ⟨address, after', cut'⟩ := sound v hv
    have same := run_unique rfl (IsAddress.of hs nonempty ok).ne_quote address.ne_quote
      (cut.symm.trans cut')
    rw [same.1, hv]

/-! ## Links -/

/-- A link is read where it starts. -/
lemma linkAt?_eq_some_iff {s u : List Char} :
    linkAt? s = some u ↔ IsAddress u ∧ ∃ left right after, (∀ c ∈ left, isBlank c = true) ∧
      (∀ c ∈ right, isBlank c = true) ∧
      s = key ++ left ++ ':' :: right ++ '"' :: u ++ '"' :: after := by
  constructor
  · intro h
    unfold linkAt? at h
    split at h
    case h_1 => cases h
    case h_2 r keyed =>
      split at h
      case h_2 => cases h
      case h_1 r' colon =>
        split at h
        case h_2 => cases h
        case h_1 r'' quoted =>
          obtain ⟨left, hl, rfl⟩ := (dropWhile_eq_cons_iff isBlank_colon).1 colon
          obtain ⟨right, hr, rfl⟩ := (dropWhile_eq_cons_iff isBlank_quote).1 quoted
          obtain ⟨address, after, rfl⟩ := findSome?_schemes_iff.1 h
          refine ⟨address, left, right, after, hl, hr, ?_⟩
          rw [after?_eq_some_iff.1 keyed]
          simp only [List.append_assoc, List.cons_append]
  · rintro ⟨address, left, right, after, hl, hr, rfl⟩
    have first : (left ++ ':' :: (right ++ '"' :: (u ++ '"' :: after))).dropWhile isBlank = _ :=
      (dropWhile_eq_cons_iff isBlank_colon).2 ⟨left, hl, rfl⟩
    have second : (right ++ '"' :: (u ++ '"' :: after)).dropWhile isBlank = _ :=
      (dropWhile_eq_cons_iff isBlank_quote).2 ⟨right, hr, rfl⟩
    have found := findSome?_schemes_iff.2 ⟨address, after, rfl⟩
    unfold linkAt?
    simp only [List.append_assoc, List.cons_append, after?_append, first, second, found]

/-- A link starts with a quote. -/
lemma eq_quote_of_linkAt? {c : Char} {s u : List Char} (h : linkAt? (c :: s) = some u) :
    c = '"' := by
  obtain ⟨_, left, right, after, _, _, cut⟩ := linkAt?_eq_some_iff.1 h
  simp only [List.append_assoc] at cut
  exact (List.cons.inj cut).1

/-- No link starts at the end of a text. -/
@[simp] lemma linkAt?_nil : linkAt? [] = none := by
  rw [Option.eq_none_iff_forall_ne_some]
  intro u h
  obtain ⟨_, left, right, after, _, _, cut⟩ := linkAt?_eq_some_iff.1 h
  simp at cut

/-- A link in a text: what stands before it, the blanks on both sides of the colon, its address, and
what stands after it. -/
@[ext] structure Embedding (s : List Char) where
  /-- What stands before the key. -/
  before : List Char
  /-- The blanks between the key and the colon. -/
  left : List Char
  /-- The blanks between the colon and the address. -/
  right : List Char
  /-- The address. -/
  address : List Char
  /-- What stands after the closing quote of the address. -/
  after : List Char
  /-- Together these are the text. -/
  text_eq : s = before ++ key ++ left ++ ':' :: right ++ '"' :: address ++ '"' :: after
  /-- Blanks are blank. -/
  left_blank : ∀ c ∈ left, isBlank c = true
  /-- Blanks are blank. -/
  right_blank : ∀ c ∈ right, isBlank c = true
  /-- The address is one. -/
  isAddress : IsAddress address

namespace Embedding
variable {s : List Char}

/-- Where the link starts. -/
def start (e : Embedding s) : Nat := e.before.length

/-- Reading a link at a place finds the one that is embedded there. -/
lemma exists_iff {q : Nat} {u : List Char} :
    (∃ e : Embedding s, e.start = q ∧ e.address = u) ↔ linkAt? (s.drop q) = some u := by
  constructor
  · rintro ⟨e, rfl, rfl⟩
    have cut := congrArg (List.drop e.start) e.text_eq
    simp only [start, List.append_assoc, List.drop_left] at cut
    refine linkAt?_eq_some_iff.2
      ⟨e.isAddress, e.left, e.right, e.after, e.left_blank, e.right_blank, ?_⟩
    simpa only [start, List.append_assoc] using cut
  · intro h
    obtain ⟨address, left, right, after, hl, hr, cut⟩ := linkAt?_eq_some_iff.1 h
    have inside : q ≤ s.length := by
      by_contra beyond
      rw [List.drop_eq_nil_of_le (Nat.le_of_not_le beyond)] at h
      cases h
    refine ⟨⟨s.take q, left, right, u, after, ?_, hl, hr, address⟩, ?_, rfl⟩
    · have whole := List.take_append_drop q s
      rw [cut] at whole
      simpa only [List.append_assoc] using whole.symm
    · exact List.length_take_of_le inside

/-- There is one way to cut a text around a link that starts at a place. -/
lemma eq_of_start_eq {e e' : Embedding s} (h : e.start = e'.start) : e = e' := by
  have cut := e.text_eq.symm.trans e'.text_eq
  simp only [List.append_assoc, List.cons_append] at cut
  obtain ⟨before, keyed⟩ := List.append_inj cut h
  have colon := List.append_cancel_left keyed
  obtain ⟨left, quoted⟩ := run_unique isBlank_colon e.left_blank e'.left_blank colon
  obtain ⟨right, addressed⟩ := run_unique isBlank_quote e.right_blank e'.right_blank quoted
  obtain ⟨address, after⟩ := run_unique rfl e.isAddress.ne_quote e'.isAddress.ne_quote addressed
  exact Embedding.ext before left right address after

end Embedding

end PackageFinder.Link
