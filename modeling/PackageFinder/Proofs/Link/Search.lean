import Mathlib.Order.WellFounded
import PackageFinder.Proofs.Link.Pattern
import PackageFinder.Run.Resolve

/-!
# Which link is found

The links that are embedded in a text decide what is found in it. The first link is the one with the
least before it (`extract_first_iff_embedding`). The greedy mode passes over everything before that
link, and then takes the last one that starts before the next line feed: this is
`extract_greedy_of_first`.
-/

namespace PackageFinder.Link
open PackageFinder.Text

variable {s u : List Char} {c : Char}

/-! ## The first link -/

/-- Nothing is read before the first place where a link is embedded. -/
lemma Embedding.linkAt?_eq_none {q : Nat} (least : ∀ e : Embedding s, q ≤ e.start) {p : Nat}
    (hp : p < q) : linkAt? (s.drop p) = none := by
  rw [Option.eq_none_iff_forall_ne_some]
  intro v found
  obtain ⟨e, rfl, _⟩ := Embedding.exists_iff.2 found
  exact Nat.not_le_of_lt hp (least e)

/-- The search for the first link finds the one that is embedded with the least before it. -/
lemma search_first_iff {q : Nat} :
    MatchMode.first.pattern.search s = some (q, u)
      ↔ ∃ e : Embedding s, e.start = q ∧ e.address = u ∧ ∀ e' : Embedding s, q ≤ e'.start := by
  rw [MatchMode.pattern, Pattern.search_eq_some_iff, Pattern.keeps?_link]
  simp only [Pattern.keeps?_link]
  constructor
  · rintro ⟨found, least⟩
    obtain ⟨e, rfl, rfl⟩ := Embedding.exists_iff.2 found
    refine ⟨e, rfl, rfl, fun e' => Nat.le_of_not_lt fun earlier => ?_⟩
    cases (least e'.start earlier).symm.trans (Embedding.exists_iff.1 ⟨e', rfl, rfl⟩)
  · rintro ⟨e, rfl, rfl, least⟩
    exact ⟨Embedding.exists_iff.1 ⟨e, rfl, rfl⟩, fun p => Embedding.linkAt?_eq_none least⟩

/-- The first link is the one that is embedded with the least before it. -/
lemma first?_eq_some_iff :
    first? s = some u
      ↔ ∃ e : Embedding s, e.address = u ∧ ∀ e' : Embedding s, e.start ≤ e'.start := by
  have search : first? s = (MatchMode.first.pattern.search s).map (·.2) :=
    MatchMode.find?_eq_search .first s
  rw [search, Option.map_eq_some_iff]
  constructor
  · rintro ⟨⟨q, v⟩, found, rfl⟩
    obtain ⟨e, rfl, address, least⟩ := search_first_iff.1 found
    exact ⟨e, address, least⟩
  · rintro ⟨e, rfl, least⟩
    exact ⟨(e.start, e.address), search_first_iff.2 ⟨e, rfl, rfl, least⟩, rfl⟩

/-- Among the links that are embedded in a text one has the least before it. -/
lemma exists_first (e : Embedding s) : ∃ f : Embedding s, ∀ e' : Embedding s, f.start ≤ e'.start :=
  have : Nonempty (Embedding s) := ⟨e⟩
  ⟨Function.argmin Embedding.start, fun e' => Function.argmin_le Embedding.start e'⟩

/-! ## The last link of a line -/

/-- What stands before the first link does not count. -/
lemma greedy?_cons_of_linkAt? (h : linkAt? (c :: s) = none) : greedy? (c :: s) = greedy? s := by
  cases hl : lastOnLine? (c :: s) with
  | none => exact greedy?_cons_of_lastOnLine? hl
  | some u =>
    have hc : c ≠ '\n' := by
      rintro rfl
      cases hl
    have later := lastOnLine?_cons (s := s) hc
    rw [h, Option.or_none] at later
    rw [greedy?_eq, greedy?_eq s, ← later, hl]
    rfl

/-- A text counts from its first link on. -/
lemma greedy?_drop {q : Nat} (h : ∀ p < q, linkAt? (s.drop p) = none) :
    greedy? s = greedy? (s.drop q) := by
  induction q generalizing s with
  | zero => rfl
  | succ q ih =>
    cases s with
    | nil => rfl
    | cons c s =>
      rw [greedy?_cons_of_linkAt? (h 0 (Nat.succ_pos q))]
      exact ih fun p hp => h (p + 1) (Nat.succ_lt_succ hp)

/-- A link that starts where a line ends starts with a quote, so no line ends there. -/
lemma ne_newLine_of_linkAt? (h : linkAt? (c :: s) = some u) : c ≠ '\n' := by
  rintro rfl
  cases eq_quote_of_linkAt? h

/-- When there is no last link, none starts before the line feed. -/
lemma linkAt?_of_lastOnLine? {p : Nat} (h : lastOnLine? s = none) (hp : '\n' ∉ s.take p) :
    linkAt? (s.drop p) = none := by
  induction p generalizing s with
  | zero =>
    cases s with
    | nil => exact linkAt?_nil
    | cons c s =>
      rw [List.drop_zero, Option.eq_none_iff_forall_ne_some]
      intro v found
      rw [lastOnLine?_cons (ne_newLine_of_linkAt? found), found, Option.or_eq_none_iff] at h
      cases h.2
  | succ p ih =>
    cases s with
    | nil => exact linkAt?_nil
    | cons c s =>
      rw [List.take_succ_cons, List.mem_cons, not_or] at hp
      rw [lastOnLine?_cons (Ne.symm hp.1), Option.or_eq_none_iff] at h
      exact ih h.1 hp.2

/-- The last link starts before the line feed, and no link that does starts later. -/
lemma exists_of_lastOnLine? (h : lastOnLine? s = some u) :
    ∃ q, linkAt? (s.drop q) = some u ∧ '\n' ∉ s.take q ∧
      ∀ p v, '\n' ∉ s.take p → linkAt? (s.drop p) = some v → p ≤ q := by
  induction s with
  | nil => cases h
  | cons c s ih =>
    have hc : c ≠ '\n' := by
      rintro rfl
      cases h
    rw [lastOnLine?_cons hc] at h
    -- a link at the first character counts only if none starts later on the line
    cases hl : lastOnLine? s with
    | some v =>
      rw [hl] at h
      obtain ⟨q, found, clear, last⟩ := ih (hl.trans h)
      refine ⟨q + 1, found, ?_, ?_⟩
      · rw [List.take_succ_cons, List.mem_cons, not_or]
        exact ⟨Ne.symm hc, clear⟩
      · intro p v hp hv
        cases p with
        | zero => exact Nat.zero_le _
        | succ p =>
          rw [List.take_succ_cons, List.mem_cons, not_or] at hp
          exact Nat.succ_le_succ (last p v hp.2 hv)
    | none =>
      rw [hl, Option.none_or] at h
      refine ⟨0, h, List.not_mem_nil, ?_⟩
      intro p v hp hv
      cases p with
      | zero => exact Nat.le_refl 0
      | succ p =>
        rw [List.take_succ_cons, List.mem_cons, not_or] at hp
        cases (linkAt?_of_lastOnLine? hl hp.2).symm.trans hv

/-- The place `q` is not before the place `p`, and no line feed stands between them. -/
def OnLine (s : List Char) (p q : Nat) : Prop := p ≤ q ∧ '\n' ∉ (s.drop p).take (q - p)

/-- From the first link on, the greedy mode takes the last one on the line. -/
lemma exists_greedy?_eq (f : Embedding s) (least : ∀ e : Embedding s, f.start ≤ e.start) :
    ∃ e : Embedding s, greedy? s = some e.address ∧ OnLine s f.start e.start ∧
      ∀ e' : Embedding s, OnLine s f.start e'.start → e'.start ≤ e.start := by
  have found := Embedding.exists_iff.1 ⟨f, rfl, rfl⟩
  rw [greedy?_drop fun p => Embedding.linkAt?_eq_none least]
  cases hl : lastOnLine? (s.drop f.start) with
  | none => cases (linkAt?_of_lastOnLine? hl (p := 0) List.not_mem_nil).symm.trans found
  | some u =>
    obtain ⟨d, last, clear, latest⟩ := exists_of_lastOnLine? hl
    rw [List.drop_drop] at last
    obtain ⟨e, start, rfl⟩ := Embedding.exists_iff.2 last
    refine ⟨e, ?_, ⟨by omega, ?_⟩, ?_⟩
    · rw [greedy?_eq, hl, Option.some_or]
    · rwa [start, Nat.add_sub_cancel_left]
    · rintro e' ⟨later, clear'⟩
      have there := Embedding.exists_iff.1 ⟨e', (Nat.add_sub_cancel' later).symm, rfl⟩
      rw [← List.drop_drop] at there
      have := latest _ _ clear' there
      omega

/-! ## Both modes -/

/-- A mode finds a link in a text unless there is none. -/
lemma find?_eq_none_iff (mode : MatchMode) : mode.find? s = none ↔ IsEmpty (Embedding s) := by
  constructor
  · intro missing
    refine ⟨fun e => ?_⟩
    obtain ⟨f, least⟩ := exists_first e
    cases mode with
    | first => cases missing.symm.trans (first?_eq_some_iff.2 ⟨f, rfl, least⟩)
    | greedy =>
      obtain ⟨e, found, _⟩ := exists_greedy?_eq f least
      cases missing.symm.trans found
  · intro empty
    cases mode with
    | first =>
      rw [Option.eq_none_iff_forall_ne_some]
      intro u found
      obtain ⟨e, _⟩ := first?_eq_some_iff.1 found
      exact empty.elim e
    | greedy =>
      -- without a link the whole text stands before the first one
      have nowhere : ∀ p < s.length, linkAt? (s.drop p) = none :=
        fun p => Embedding.linkAt?_eq_none empty.elim
      rw [MatchMode.find?, greedy?_drop nowhere, List.drop_length, greedy?_eq]
      rfl

/-- A page without link is reported when no link is found in it. -/
lemma ofBody_eq_linkNotFound_iff (mode : MatchMode) (body : String) :
    Finding.ofBody mode (.ok body) = .error (.extraction, .linkNotFound)
      ↔ IsEmpty (Embedding body.toList) := by
  have found : extract mode body = (mode.find? body.toList).map String.ofList := rfl
  rw [← find?_eq_none_iff mode, Finding.ofBody]
  cases h : mode.find? body.toList with
  | none => simp [found, h]
  | some u => simp [found, h]

/-- The first link is the one embedded with the least before it, there is only one way to cut the
page around a link that starts at a place, and that there is no link is reported when none is
embedded anywhere. -/
theorem extract_first_iff_embedding (body : String) :
    (∀ u, extract .first body = some u ↔ ∃ e : Embedding body.toList,
      String.ofList e.address = u ∧
        ∀ e' : Embedding body.toList, e.before.length ≤ e'.before.length) ∧
    (∀ e e' : Embedding body.toList, e.before.length = e'.before.length → e = e') ∧
    (Finding.ofBody .first (.ok body) = .error (.extraction, .linkNotFound)
      ↔ IsEmpty (Embedding body.toList)) := by
  refine ⟨fun u => ?_, fun e e' => Embedding.eq_of_start_eq, ofBody_eq_linkNotFound_iff .first body⟩
  rw [extract, MatchMode.find?, Option.map_eq_some_iff]
  constructor
  · rintro ⟨v, found, rfl⟩
    obtain ⟨e, rfl, least⟩ := first?_eq_some_iff.1 found
    exact ⟨e, rfl, least⟩
  · rintro ⟨e, rfl, least⟩
    exact ⟨e.address, first?_eq_some_iff.2 ⟨e, rfl, least⟩, rfl⟩

example : extract .first "\"metaUrl\":\"ftp://a\",\"metaUrl\" :\n\"https://b\"" = some "https://b" := by
  decide

/-- A page holds a link in one mode if it does in the other. Searched for, the pattern of the greedy
mode keeps the last link that starts on the line on which the first one does. -/
theorem extract_greedy_of_first (body : String) :
    (∀ mode, extract mode body
      = (mode.pattern.search body.toList).map fun m => String.ofList m.2) ∧
    (Finding.ofBody .greedy (.ok body) = .error (.extraction, .linkNotFound)
      ↔ Finding.ofBody .first (.ok body) = .error (.extraction, .linkNotFound)) ∧
    ∀ p u, MatchMode.first.pattern.search body.toList = some (p, u) →
      (∃ f : Embedding body.toList, f.start = p ∧ f.address = u) ∧
      ∃ e : Embedding body.toList, extract .greedy body = some (String.ofList e.address) ∧
        OnLine body.toList p e.start ∧
        ∀ e' : Embedding body.toList, OnLine body.toList p e'.start → e'.start ≤ e.start := by
  refine ⟨fun mode => ?_, ?_, fun p u searched => ?_⟩
  · rw [extract, MatchMode.find?_eq_search, Option.map_map]
    rfl
  · rw [ofBody_eq_linkNotFound_iff, ofBody_eq_linkNotFound_iff]
  · obtain ⟨f, rfl, rfl, least⟩ := search_first_iff.1 searched
    obtain ⟨e, found, line, last⟩ := exists_greedy?_eq f least
    refine ⟨⟨f, rfl, rfl⟩, e, ?_, line, last⟩
    rw [extract, MatchMode.find?, found, Option.map_some]

/-- A link starts with the last quote of another, and ends on the next line, on which a third one
starts. -/
def overlapping : String :=
  "\"metaUrl\":\"http://a\"metaUrl\":\n\"http://b\" \"metaUrl\":\"http://c\""

/-- The greedy mode takes the second of these links, which starts on the first line. -/
theorem extract_greedy_of_first_overlapping :
    MatchMode.first.pattern.search overlapping.toList = some (0, "http://a".toList) ∧
      (∃ e : Embedding overlapping.toList,
        extract .greedy overlapping = some (String.ofList e.address) ∧
          OnLine overlapping.toList 0 e.start ∧
          ∀ e' : Embedding overlapping.toList,
            OnLine overlapping.toList 0 e'.start → e'.start ≤ e.start) ∧
      extract .greedy overlapping = some "http://b" := by
  obtain ⟨searches, _, last⟩ := extract_greedy_of_first overlapping
  have first : MatchMode.first.pattern.search overlapping.toList = some (0, "http://a".toList) := by
    decide +kernel
  refine ⟨first, (last 0 _ first).2, ?_⟩
  rw [searches .greedy]
  decide +kernel

end PackageFinder.Link
