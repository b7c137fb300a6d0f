import Mathlib.Tactic.Lemma
import PackageFinder.Link.Pattern
import PackageFinder.Proofs.Link.Embedding

/-!
# Searching for the pattern of a link

Reading a link where a text starts finds what the pattern of links keeps there (`keeps?_link`): that
pattern may match in one way only, so it does not matter which one is preferred. For the last link
of a line it does. As many characters as possible are passed over before the link, which makes it
the last one that starts before the line feed (`keeps?_greedy`). The main statement is
`MatchMode.find?_eq_search`: both modes find what the search for their patterns keeps.
-/

namespace PackageFinder.Link
open PackageFinder.Text

/-! ## Lines -/

/-- The last link that starts on a line starts later, or else at the first character. -/
lemma lastOnLine?_cons {c : Char} {s : List Char} (hc : c ≠ '\n') :
    lastOnLine? (c :: s) = (lastOnLine? s).or (linkAt? (c :: s)) := by
  rw [lastOnLine?, if_neg hc]
  cases lastOnLine? s <;> rfl

/-- Lines are tried in turn. -/
lemma greedy?_eq (s : List Char) : greedy? s = (lastOnLine? s).or ((nextLine? s).bind greedy?) := by
  rw [greedy?]
  cases lastOnLine? s with
  | some u => rfl
  | none => cases nextLine? s <;> rfl

/-- The start of a line is passed over when no link starts on the line. -/
lemma greedy?_cons_of_lastOnLine? {c : Char} {s : List Char} (h : lastOnLine? (c :: s) = none) :
    greedy? (c :: s) = greedy? s := by
  rw [greedy?_eq, h, Option.none_or, nextLine?]
  by_cases hc : c = '\n'
  · rw [if_pos hc]
    rfl
  · rw [lastOnLine?_cons hc, Option.or_eq_none_iff] at h
    rw [if_neg hc, greedy?_eq s, h.1, Option.none_or]

namespace Pattern
variable {a b : Pattern} {p : Char → Bool} {c : Char} {s t x k r : List Char} {w : Way}

/-! ## Ways -/

/-- A text is matched in one way. -/
lemma mem_ways_text : ⟨x, k, r⟩ ∈ (text t).ways s ↔ x = t ∧ k = [] ∧ s = t ++ r := by
  rw [ways, ← after?_eq_some_iff]
  cases after? t s <;> simp [eq_comm]

/-- A character of a class is matched in one way. -/
lemma mem_ways_one :
    ⟨x, k, r⟩ ∈ (one p).ways s ↔ ∃ c, p c = true ∧ x = [c] ∧ k = [] ∧ s = c :: r := by
  cases s with
  | nil => simp [ways]
  | cons d s =>
    rw [ways]
    constructor
    · intro h
      split at h
      case isTrue hd =>
        cases List.mem_singleton.1 h
        exact ⟨d, hd, rfl, rfl, rfl⟩
      case isFalse => cases h
    · rintro ⟨c, hc, rfl, rfl, e⟩
      cases e
      simp [hc]

/-- A run is empty, or goes on after a character of the class. -/
lemma mem_runs_cons {d : Char} :
    w ∈ runs p (d :: s)
      ↔ w = .nothing (d :: s) ∨ (p d = true ∧ ∃ v ∈ runs p s, v.cons d = w) := by
  rw [runs]
  cases p d <;> simp [or_comm]

/-- Characters of a class are matched in as many ways as there are runs of them. -/
lemma mem_ways_many :
    ⟨x, k, r⟩ ∈ (many p).ways s ↔ (∀ c ∈ x, p c = true) ∧ k = [] ∧ s = x ++ r := by
  rw [ways]
  induction s generalizing x with
  | nil =>
    rw [runs, List.mem_singleton, Way.nothing, Way.mk.injEq]
    constructor
    · rintro ⟨rfl, rfl, rfl⟩
      exact ⟨nofun, rfl, rfl⟩
    · rintro ⟨_, rfl, e⟩
      obtain ⟨rfl, rfl⟩ := List.append_eq_nil_iff.1 e.symm
      exact ⟨rfl, rfl, rfl⟩
  | cons d s ih =>
    rw [mem_runs_cons]
    constructor
    · rintro (e | ⟨hd, ⟨y, k', r'⟩, hv, e⟩)
      · cases e
        exact ⟨nofun, rfl, rfl⟩
      · cases e
        obtain ⟨hy, rfl, rfl⟩ := ih.1 hv
        exact ⟨List.forall_mem_cons.2 ⟨hd, hy⟩, rfl, rfl⟩
    · rintro ⟨hx, rfl, e⟩
      cases x with
      | nil =>
        cases e
        exact .inl rfl
      | cons c x =>
        cases e
        obtain ⟨hc, hx⟩ := List.forall_mem_cons.1 hx
        exact .inr ⟨hc, ⟨x, [], r⟩, ih.2 ⟨hx, rfl, rfl⟩, rfl⟩

/-- What one pattern leaves is matched by the other. -/
lemma mem_ways_seq :
    ⟨x, k, r⟩ ∈ (seq a b).ways s ↔ ∃ x₁ k₁ r₁ x₂ k₂, ⟨x₁, k₁, r₁⟩ ∈ a.ways s ∧
      ⟨x₂, k₂, r⟩ ∈ b.ways r₁ ∧ x = x₁ ++ x₂ ∧ k = k₁ ++ k₂ := by
  rw [ways, List.mem_flatMap]
  constructor
  · rintro ⟨⟨x₁, k₁, r₁⟩, h₁, h⟩
    obtain ⟨⟨x₂, k₂, r₂⟩, h₂, e⟩ := List.mem_map.1 h
    cases e
    exact ⟨x₁, k₁, r₁, x₂, k₂, h₁, h₂, rfl, rfl⟩
  · rintro ⟨x₁, k₁, r₁, x₂, k₂, h₁, h₂, rfl, rfl⟩
    exact ⟨_, h₁, List.mem_map.2 ⟨_, h₂, rfl⟩⟩

/-- What is matched is kept. -/
lemma mem_ways_kept :
    ⟨x, k, r⟩ ∈ (kept a).ways s ↔ k = x ∧ ∃ k', ⟨x, k', r⟩ ∈ a.ways s := by
  rw [ways, List.mem_map]
  constructor
  · rintro ⟨⟨x', k', r'⟩, h, e⟩
    cases e
    exact ⟨rfl, k', h⟩
  · rintro ⟨rfl, k', h⟩
    exact ⟨_, h, rfl⟩

/-- What follows a text. -/
lemma mem_ways_text_seq :
    ⟨x, k, r⟩ ∈ (seq (text t) b).ways s
      ↔ ∃ y s', s = t ++ s' ∧ x = t ++ y ∧ ⟨y, k, r⟩ ∈ b.ways s' := by
  simp only [mem_ways_seq, mem_ways_text]
  constructor
  · rintro ⟨_, _, s', y, k', ⟨rfl, rfl, rfl⟩, h, rfl, rfl⟩
    exact ⟨y, s', rfl, rfl, h⟩
  · rintro ⟨y, s', rfl, rfl, h⟩
    exact ⟨t, [], s', y, k, ⟨rfl, rfl, rfl⟩, h, rfl, rfl⟩

/-- What follows a run of a class. -/
lemma mem_ways_many_seq :
    ⟨x, k, r⟩ ∈ (seq (many p) b).ways s
      ↔ ∃ u y s', (∀ c ∈ u, p c = true) ∧ s = u ++ s' ∧ x = u ++ y ∧ ⟨y, k, r⟩ ∈ b.ways s' := by
  simp only [mem_ways_seq, mem_ways_many]
  constructor
  · rintro ⟨u, _, s', y, k', ⟨hu, rfl, rfl⟩, h, rfl, rfl⟩
    exact ⟨u, y, s', hu, rfl, rfl, h⟩
  · rintro ⟨u, y, s', hu, rfl, rfl, h⟩
    exact ⟨u, [], s', y, k, ⟨hu, rfl, rfl⟩, h, rfl, rfl⟩

/-- Nothing makes no difference before a pattern. -/
lemma flatMap_nothing (b : Pattern) (s : List Char) :
    [Way.nothing s].flatMap (fun w => (b.ways w.rest).map w.append) = b.ways s := by
  rw [List.flatMap_singleton]
  exact List.map_id _

/-- What follows something that may be missing. -/
lemma mem_ways_optional_seq :
    w ∈ (seq (optional a) b).ways s ↔ w ∈ (seq a b).ways s ∨ w ∈ b.ways s := by
  rw [ways, ways, ways, List.flatMap_append, List.mem_append, flatMap_nothing]

/-- One or more characters of a class. -/
lemma mem_ways_several :
    ⟨x, k, r⟩ ∈ (several p).ways s
      ↔ x ≠ [] ∧ (∀ c ∈ x, p c = true) ∧ k = [] ∧ s = x ++ r := by
  simp only [several, mem_ways_seq, mem_ways_one, mem_ways_many]
  constructor
  · rintro ⟨_, _, _, y, _, ⟨c, hc, rfl, rfl, rfl⟩, ⟨hy, rfl, rfl⟩, rfl, rfl⟩
    exact ⟨List.cons_ne_nil c y, List.forall_mem_cons.2 ⟨hc, hy⟩, rfl, rfl⟩
  · rintro ⟨nonempty, hx, rfl, rfl⟩
    obtain ⟨c, y, rfl⟩ := List.exists_cons_of_ne_nil nonempty
    obtain ⟨hc, hy⟩ := List.forall_mem_cons.1 hx
    exact ⟨[c], [], _, y, [], ⟨c, hc, rfl, rfl, rfl⟩, ⟨hy, rfl, rfl⟩, rfl, rfl⟩

/-! ## The pattern of a link -/

/-- The schemes in the parts that the pattern has. -/
lemma mem_schemes_iff {scheme : List Char} :
    scheme ∈ schemes ↔ scheme = "http".toList ++ ("s".toList ++ "://".toList)
      ∨ scheme = "http".toList ++ "://".toList := by
  rw [or_comm, schemes, List.mem_cons, List.mem_singleton]
  exact Iff.rfl

/-- An address is matched in one way, as a whole. -/
lemma mem_ways_address :
    ⟨x, k, r⟩ ∈ address.ways s ↔ IsAddress x ∧ k = [] ∧ s = x ++ r := by
  simp only [address, mem_ways_text_seq, mem_ways_optional_seq, mem_ways_several]
  constructor
  · rintro ⟨_, _, rfl, rfl, ⟨_, _, rfl, rfl, y, _, rfl, rfl, nonempty, ok, rfl, rfl⟩ |
      ⟨y, _, rfl, rfl, nonempty, ok, rfl, rfl⟩⟩
    · have address := IsAddress.of (mem_schemes_iff.2 (.inl rfl)) nonempty
        fun c hc => isAddressChar_iff.1 (ok c hc)
      rw [List.append_assoc, List.append_assoc] at address
      exact ⟨address, rfl, by simp only [List.append_assoc]⟩
    · have address := IsAddress.of (mem_schemes_iff.2 (.inr rfl)) nonempty
        fun c hc => isAddressChar_iff.1 (ok c hc)
      rw [List.append_assoc] at address
      exact ⟨address, rfl, by simp only [List.append_assoc]⟩
  · rintro ⟨address, rfl, rfl⟩
    cases address with
    | @of scheme y hs nonempty ok =>
      have fits : ∀ c ∈ y, isAddressChar c = true := fun c hc => isAddressChar_iff.2 (ok c hc)
      rcases mem_schemes_iff.1 hs with rfl | rfl
      · exact ⟨_, _, by simp only [List.append_assoc], by simp only [List.append_assoc],
          .inl ⟨_, _, rfl, rfl, y, _, rfl, rfl, nonempty, fits, rfl, rfl⟩⟩
      · exact ⟨_, _, by simp only [List.append_assoc], by simp only [List.append_assoc],
          .inr ⟨y, _, rfl, rfl, nonempty, fits, rfl, rfl⟩⟩

/-- The address of a link is kept, and its closing quote is not. -/
lemma mem_ways_quoted :
    ⟨x, k, r⟩ ∈ (seq (kept address) (text "\"".toList)).ways s
      ↔ IsAddress k ∧ x = k ++ ['"'] ∧ s = k ++ '"' :: r := by
  simp only [mem_ways_seq, mem_ways_kept, mem_ways_address, mem_ways_text]
  constructor
  · rintro ⟨_, _, _, _, _, ⟨rfl, _, address, _, rfl⟩, ⟨rfl, rfl, rfl⟩, rfl, rfl⟩
    rw [List.append_nil]
    exact ⟨address, rfl, rfl⟩
  · rintro ⟨address, rfl, rfl⟩
    exact ⟨k, k, '"' :: r, ['"'], [], ⟨rfl, [], address, rfl, rfl⟩, ⟨rfl, rfl, rfl⟩, rfl,
      (List.append_nil k).symm⟩

/-- What is kept of a link is its address. -/
lemma mem_ways_link :
    (∃ w ∈ link.ways s, w.kept = k) ↔ linkAt? s = some k := by
  rw [linkAt?_eq_some_iff]
  constructor
  · rintro ⟨⟨x, _, r⟩, h, rfl⟩
    simp only [link, mem_ways_text_seq, mem_ways_many_seq, mem_ways_quoted] at h
    obtain ⟨_, _, rfl, rfl, left, _, _, hl, rfl, rfl, _, _, rfl, rfl, right, _, _, hr, rfl, rfl,
      _, _, rfl, rfl, address, rfl, rfl⟩ := h
    refine ⟨address, left, right, r, hl, hr, ?_⟩
    simp only [List.append_assoc]
    rfl
  · rintro ⟨address, left, right, r, hl, hr, rfl⟩
    have matched : ∃ x, ⟨x, k, r⟩ ∈ link.ways (key ++ left ++ ':' :: right ++ '"' :: k ++ '"' :: r) := by
      simp only [link, mem_ways_text_seq, mem_ways_many_seq, mem_ways_quoted]
      refine ⟨_, _, _, ?_, rfl, left, _, _, hl, rfl, rfl, _, _, rfl, rfl, right, _, _, hr, rfl, rfl,
        _, _, rfl, rfl, address, rfl, rfl⟩
      simp only [List.append_assoc]
      rfl
    obtain ⟨x, h⟩ := matched
    exact ⟨_, h, rfl⟩

/-- Whatever way of matching a link is preferred keeps the address that is read there. -/
lemma keeps?_link : link.keeps? s = linkAt? s := by
  unfold keeps?
  cases h : link.ways s with
  | nil =>
    symm
    rw [List.head?_nil, Option.map_none, Option.eq_none_iff_forall_ne_some]
    intro k found
    obtain ⟨w, hw, _⟩ := mem_ways_link.2 found
    rw [h] at hw
    cases hw
  | cons w ws =>
    have hw : w ∈ link.ways s := by simp [h]
    exact (mem_ways_link.1 ⟨w, hw, rfl⟩).symm

/-! ## The last link of a line -/

/-- A run rather takes one more character of its class. -/
lemma ways_many_cons (hc : p c = true) :
    (seq (many p) b).ways (c :: s)
      = ((seq (many p) b).ways s).map (.cons c) ++ b.ways (c :: s) := by
  rw [ways, ways, runs, if_pos hc, List.flatMap_append, flatMap_nothing, List.flatMap_map, ways,
    ways, List.map_flatMap]
  simp only [List.map_map]
  rfl

/-- A run ends before a character of another class. -/
lemma ways_many_of_not (hc : p c = false) :
    (seq (many p) b).ways (c :: s) = b.ways (c :: s) := by
  rw [ways, ways, runs, hc, if_neg Bool.false_ne_true, flatMap_nothing]

/-- What is kept after a run is kept after a longer one, or else after none. -/
lemma keeps?_many_cons (hc : p c = true) :
    (seq (many p) b).keeps? (c :: s)
      = ((seq (many p) b).keeps? s).or (b.keeps? (c :: s)) := by
  unfold keeps?
  rw [ways_many_cons hc, List.head?_append, List.head?_map, Option.map_or, Option.map_map]
  rfl

/-- Before a link may stand any characters but line feeds, and the more of them the better: that is
the last link that starts on the line. -/
lemma keeps?_greedy : MatchMode.greedy.pattern.keeps? s = lastOnLine? s := by
  unfold MatchMode.pattern
  induction s with
  | nil =>
    have alone : (seq (many (· ≠ '\n')) link).ways [] = link.ways [] := flatMap_nothing link []
    rw [keeps?, alone, ← keeps?, keeps?_link, linkAt?_nil, lastOnLine?]
  | cons c s ih =>
    by_cases hc : c = '\n'
    · -- no run goes on, and no link starts here
      subst hc
      rw [keeps?, ways_many_of_not rfl, ← keeps?, keeps?_link, lastOnLine?, if_pos rfl,
        Option.eq_none_iff_forall_ne_some]
      intro u h
      cases eq_quote_of_linkAt? h
    · rw [keeps?_many_cons (decide_eq_true hc), ih, keeps?_link, lastOnLine?_cons hc]

end Pattern

/-! ## Searching -/

/-- A pattern is found at the first place where it matches. -/
lemma Pattern.search_eq_some_iff {a : Pattern} {s u : List Char} {q : Nat} :
    a.search s = some (q, u)
      ↔ a.keeps? (s.drop q) = some u ∧ ∀ p < q, a.keeps? (s.drop p) = none := by
  induction s generalizing q with
  | nil =>
    rw [search, Option.map_eq_some_iff, List.drop_nil]
    constructor
    · rintro ⟨v, found, e⟩
      cases e
      exact ⟨found, fun p hp => (Nat.not_lt_zero p hp).elim⟩
    · rintro ⟨found, least⟩
      cases q with
      | zero => exact ⟨u, found, rfl⟩
      | succ q => cases found.symm.trans (least 0 (Nat.succ_pos q))
  | cons c s ih =>
    rw [search]
    cases h : a.keeps? (c :: s) with
    | some v =>
      constructor
      · intro e
        cases e
        exact ⟨h, fun p hp => (Nat.not_lt_zero p hp).elim⟩
      · rintro ⟨found, least⟩
        cases q with
        | zero =>
          cases h.symm.trans found
          rfl
        | succ q => cases h.symm.trans (least 0 (Nat.succ_pos q))
    | none =>
      constructor
      · intro e
        obtain ⟨⟨q', v⟩, later, e⟩ := Option.map_eq_some_iff.1 e
        cases e
        obtain ⟨found, least⟩ := ih.1 later
        refine ⟨found, fun p hp => ?_⟩
        cases p with
        | zero => exact h
        | succ p => exact least p (Nat.lt_of_succ_lt_succ hp)
      · rintro ⟨found, least⟩
        cases q with
        | zero => cases h.symm.trans found
        | succ q =>
          have later := ih.2 ⟨found, fun p hp => least (p + 1) (Nat.succ_lt_succ hp)⟩
          exact Option.map_eq_some_iff.2 ⟨_, later, rfl⟩

/-- Both modes find what the search for their patterns keeps. -/
lemma MatchMode.find?_eq_search (mode : MatchMode) (s : List Char) :
    mode.find? s = (mode.pattern.search s).map (·.2) := by
  cases mode with
  | first =>
    rw [find?, pattern]
    induction s with
    | nil =>
      rw [first?, Pattern.search, Pattern.keeps?_link, linkAt?_nil]
      rfl
    | cons c s ih =>
      rw [first?, Pattern.search, Pattern.keeps?_link]
      cases linkAt? (c :: s) with
      | some u => rfl
      | none =>
        rw [ih, Option.map_map]
        rfl
  | greedy =>
    rw [find?]
    induction s with
    | nil =>
      rw [Pattern.search, Pattern.keeps?_greedy, greedy?_eq]
      rfl
    | cons c s ih =>
      rw [Pattern.search, Pattern.keeps?_greedy]
      cases h : lastOnLine? (c :: s) with
      | some u =>
        rw [greedy?_eq, h]
        rfl
      | none =>
        rw [greedy?_cons_of_lastOnLine? h, ih, Option.map_map]
        rfl

end PackageFinder.Link
