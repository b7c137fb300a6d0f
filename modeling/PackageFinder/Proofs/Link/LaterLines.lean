import PackageFinder.Proofs.Link.Overlap

/-!
# Later lines

The greedy mode chooses among the links that start on one line, but a link may end on a later line
than it starts: a line feed is a blank, and blanks may stand around the colon. So what follows a
page on later lines counts for one thing only, to finish a link that the page leaves unfinished at
the end of the line from which the link is taken (`extract_greedy_append_line`).
-/

namespace PackageFinder.Link
open PackageFinder.Text

variable {s t : List Char}

/-! ## Broken links -/

/-- A link that is not finished: a key, or a key and a colon, and blanks after each of them. -/
inductive IsUnfinished : List Char → Prop
  | beforeColon {left} : (∀ c ∈ left, isBlank c = true) → IsUnfinished (key ++ left)
  | afterColon {left right} : (∀ c ∈ left, isBlank c = true) → (∀ c ∈ right, isBlank c = true) →
    IsUnfinished (key ++ left ++ ':' :: right)

/-- What stands of a link before a line feed that breaks it, a text that goes on after the line feed
with the rest of the link, and its address. -/
inductive IsBroken : List Char → List Char → List Char → Prop
  | beforeColon {left left' right u after} :
    (∀ c ∈ left, isBlank c = true) → (∀ c ∈ left', isBlank c = true) →
    (∀ c ∈ right, isBlank c = true) → IsAddress u →
    IsBroken (key ++ left) (left' ++ ':' :: right ++ '"' :: u ++ '"' :: after) u
  | afterColon {left right right' u after} :
    (∀ c ∈ left, isBlank c = true) → (∀ c ∈ right, isBlank c = true) →
    (∀ c ∈ right', isBlank c = true) → IsAddress u →
    IsBroken (key ++ left ++ ':' :: right) (right' ++ '"' :: u ++ '"' :: after) u

/-- A half whose other half starts the next line is unfinished on its own. -/
lemma IsBroken.isUnfinished {half more u : List Char} (broken : IsBroken half more u) :
    IsUnfinished half := by
  cases broken with
  | beforeColon left _ _ _ => exact .beforeColon left
  | afterColon left right _ _ => exact .afterColon left right

/-- A link that is not finished can get any address. -/
lemma IsUnfinished.exists_isBroken {half u : List Char} (unfinished : IsUnfinished half)
    (address : IsAddress u) : ∃ more, IsBroken half more u := by
  cases unfinished with
  | beforeColon left =>
    exact ⟨[] ++ ':' :: [] ++ '"' :: u ++ '"' :: [], .beforeColon left nofun nofun address⟩
  | afterColon left right =>
    exact ⟨[] ++ '"' :: u ++ '"' :: [], .afterColon left right nofun address⟩

/-- A line feed between the two parts makes them a link. -/
lemma IsBroken.exists_embedding {half u : List Char} (broken : IsBroken half t u)
    (before : List Char) : ∃ e : Embedding (before ++ half ++ '\n' :: t),
      e.before = before ∧ e.address = u ∧ (before ++ half).length < e.stop := by
  cases broken with
  | @beforeColon left left' right _ after hl hl' hr address =>
    refine ⟨⟨before, left ++ '\n' :: left', right, u, after, ?_, ?_, hr, address⟩, rfl, rfl, ?_⟩
    · simp only [List.append_assoc, List.cons_append]
    · exact List.forall_mem_append.2 ⟨hl, List.forall_mem_cons.2 ⟨isBlank_newline, hl'⟩⟩
    · simp only [Embedding.stop, Embedding.start, Embedding.text, List.length_append,
        List.length_cons]
      omega
  | @afterColon left right right' _ after hl hr hr' address =>
    refine ⟨⟨before, left, right ++ '\n' :: right', u, after, ?_, hl, ?_, address⟩, rfl, rfl, ?_⟩
    · simp only [List.append_assoc, List.cons_append]
    · exact List.forall_mem_append.2 ⟨hr, List.forall_mem_cons.2 ⟨isBlank_newline, hr'⟩⟩
    · simp only [Embedding.stop, Embedding.start, Embedding.text, List.length_append,
        List.length_cons]
      omega

/-- An address stands on one line. -/
lemma IsAddress.newLine_not_mem {u : List Char} (h : IsAddress u) : '\n' ∉ u := by
  cases h with
  | of hs _ hr =>
    rw [List.mem_append]
    rintro (scheme | rest)
    · rcases Pattern.mem_schemes_iff.1 hs with rfl | rfl <;> revert scheme <;> decide
    · cases (hr _ rest).2

namespace Embedding

/-- No line feed breaks a key. -/
lemma exists_key_append (e : Embedding (s ++ '\n' :: t)) (starts : e.start ≤ s.length) :
    ∃ rest, s = e.before ++ (key ++ rest) ∧
      rest ++ '\n' :: t = e.left ++ ':' :: (e.right ++ '"' :: (e.address ++ '"' :: e.after)) := by
  have whole := e.text_eq
  simp only [List.append_assoc, List.cons_append] at whole
  have first : e.before <+: s ++ '\n' :: t := ⟨_, whole.symm⟩
  obtain ⟨half, cut⟩ := List.prefix_of_prefix_length_le first (List.prefix_append _ _) starts
  have keyed : half ++ '\n' :: t
      = key ++ (e.left ++ ':' :: (e.right ++ '"' :: (e.address ++ '"' :: e.after))) := by
    refine List.append_cancel_left (Eq.trans ?_ whole)
    rw [← List.append_assoc, cut]
  obtain ⟨rest, rfl, goesOn⟩ := exists_of_cut (by decide) keyed
  exact ⟨rest, cut.symm, goesOn⟩

/-- A link that starts on the lines before a line feed does so with its key. -/
lemma start_lt_length (e : Embedding (s ++ '\n' :: t)) (starts : e.start ≤ s.length) :
    e.start < s.length := by
  obtain ⟨rest, cut, -⟩ := e.exists_key_append starts
  have length := congrArg List.length cut
  have keyLength : key.length = 9 := rfl
  rw [List.length_append, List.length_append, keyLength] at length
  rw [start]
  omega

/-- A line feed that stands inside a link breaks it. -/
lemma exists_isBroken (e : Embedding (s ++ '\n' :: t)) (starts : e.start ≤ s.length)
    (stops : s.length < e.stop) : ∃ half, s = e.before ++ half ∧ IsBroken half t e.address := by
  obtain ⟨rest, whole, cut⟩ := e.exists_key_append starts
  have hl := e.left_blank
  have hr := e.right_blank
  refine ⟨_, whole, ?_⟩
  rcases cut_cases cut with ⟨-, newLine, -⟩ | ⟨left', broke, goesOn⟩ | ⟨right, rfl, quoted⟩
  · cases newLine
  · -- before the colon
    rw [broke, List.forall_mem_append, List.forall_mem_cons] at hl
    have broken : IsBroken (key ++ rest)
        (left' ++ ':' :: e.right ++ '"' :: e.address ++ '"' :: e.after) e.address :=
      .beforeColon hl.1 hl.2.2 hr e.isAddress
    simp only [List.append_assoc, List.cons_append] at broken
    rwa [← goesOn] at broken
  rcases cut_cases quoted.symm with ⟨-, newLine, -⟩ | ⟨right', broke, goesOn⟩ |
    ⟨address, rfl, closed⟩
  · cases newLine
  · -- before the address
    rw [broke, List.forall_mem_append, List.forall_mem_cons] at hr
    have broken : IsBroken (key ++ e.left ++ ':' :: right)
        (right' ++ '"' :: e.address ++ '"' :: e.after) e.address :=
      .afterColon hl hr.1 hr.2.2 e.isAddress
    simp only [List.append_assoc, List.cons_append] at broken
    rwa [← goesOn] at broken
  -- no line feed stands in an address, nor is it a quote
  obtain ⟨closing, rfl, quote⟩ := exists_of_cut e.isAddress.newLine_not_mem closed.symm
  cases closing with
  | nil => cases quote
  | cons _ after =>
    have length := congrArg List.length whole
    simp only [List.length_append, List.length_cons] at length
    simp only [stop, start, text, List.length_append, List.length_cons, List.length_nil] at stops
    omega

end Embedding

/-! ## The line from which the link is taken -/

/-- A line goes on no further than the next line feed. -/
lemma onLine_append_iff {p q : Nat} (inside : p ≤ s.length) :
    OnLine (s ++ '\n' :: t) p q ↔ OnLine s p q ∧ q ≤ s.length := by
  have beyond (n : Nat) : '\n' ∉ List.take n ('\n' :: t) ↔ n = 0 := by
    cases n <;> simp
  rw [OnLine, OnLine, List.drop_append_of_le_length inside, List.take_append, List.mem_append,
    not_or, and_assoc, beyond, List.length_drop]
  exact and_congr_right fun after => and_congr_right fun _ => by omega

/-- A text ends with `half`, which starts on the line on which the first link does. -/
def EndsLine (s half : List Char) : Prop :=
  ∃ before, s = before ++ half ∧ ∃ f : Embedding s, (∀ e : Embedding s, f.start ≤ e.start) ∧
    OnLine s f.start before.length

/-- A link that is not finished has no quote after its key. -/
lemma IsUnfinished.exists_rest {half : List Char} (unfinished : IsUnfinished half) :
    ∃ rest, half = key ++ rest ∧ '"' ∉ rest := by
  cases unfinished with
  | @beforeColon left hl => exact ⟨left, rfl, fun quote => ne_quote_of_isBlank (hl _ quote) rfl⟩
  | @afterColon left right hl hr =>
    refine ⟨left ++ ':' :: right, List.append_assoc _ _ _, ?_⟩
    rw [List.mem_append, List.mem_cons]
    rintro (quote | colon | quote)
    · exact ne_quote_of_isBlank (hl _ quote) rfl
    · cases colon
    · exact ne_quote_of_isBlank (hr _ quote) rfl

/-- Nothing that is unfinished ends the line if a later line holds a quote. -/
lemma EndsLine.not_isUnfinished {half : List Char} (ends : EndsLine (s ++ '\n' :: t) half)
    {e : Embedding (s ++ '\n' :: t)} (starts : e.start ≤ s.length) (quote : '"' ∈ t) :
    ¬IsUnfinished half := by
  intro unfinished
  obtain ⟨rest, rfl, free⟩ := unfinished.exists_rest
  obtain ⟨before, cut, f, least, line⟩ := ends
  obtain ⟨-, inside⟩ := (onLine_append_iff ((least e).trans starts)).1 line
  have first : before <+: s ++ '\n' :: t := ⟨_, cut.symm⟩
  obtain ⟨x, rfl⟩ := List.prefix_of_prefix_length_le first (List.prefix_append _ _) inside
  rw [List.append_assoc, List.append_cancel_left_eq] at cut
  obtain ⟨y, -, rfl⟩ := exists_of_cut (by decide) cut
  exact free (List.mem_append_right y (List.mem_cons_of_mem _ quote))

/-- What is found in a text that goes on after a line feed: the last link that starts before the
line feed, on the line of the first link. -/
lemma exists_greedy?_append_line {f : Embedding s} (least : ∀ e : Embedding s, f.start ≤ e.start)
    (t : List Char) : ∃ g : Embedding (s ++ '\n' :: t),
      greedy? (s ++ '\n' :: t) = some g.address ∧ OnLine s f.start g.start ∧ g.start < s.length ∧
      ∀ e : Embedding (s ++ '\n' :: t), OnLine s f.start e.start → e.start ≤ s.length →
        e.start ≤ g.start := by
  have inside := f.start_le_length
  have earliest := Embedding.start_extend_le least (t := '\n' :: t)
  obtain ⟨g, found, line, last⟩ := exists_greedy?_eq _ earliest
  obtain ⟨line, starts⟩ := (onLine_append_iff inside).1 line
  exact ⟨g, found, line, g.start_lt_length starts, fun e onLine starts =>
    last e ((onLine_append_iff inside).2 ⟨onLine, starts⟩)⟩

/-- A link that is broken at the end of the line is found: a later one would start inside it. -/
lemma greedy?_of_isBroken {half u : List Char} (ends : EndsLine s half)
    (broken : IsBroken half t u) : greedy? (s ++ '\n' :: t) = some u := by
  obtain ⟨before, rfl, f, least, line⟩ := ends
  obtain ⟨g, found, -, starts, last⟩ := exists_greedy?_append_line least t
  obtain ⟨e, start, rfl, stops⟩ := broken.exists_embedding before
  have start : e.start = before.length := congrArg List.length start
  have latest := last e (start ▸ line) (by rw [start, List.length_append]; omega)
  rw [found, Embedding.eq_of_start_eq (Nat.le_antisymm (Nat.le_of_not_lt fun later => ?_) latest)]
  have meet := Embedding.stop_le later
  omega

/-- If no link is broken at the end of the line, what is found in the text stays found. -/
lemma greedy?_of_not_isBroken {u : List Char} (found : greedy? s = some u)
    (whole : ∀ half v, EndsLine s half → ¬IsBroken half t v) :
    greedy? (s ++ '\n' :: t) = some u := by
  obtain ⟨d⟩ : Nonempty (Embedding s) := by
    rw [← not_isEmpty_iff, ← find?_eq_none_iff .greedy, MatchMode.find?, found]
    exact Option.some_ne_none u
  obtain ⟨f, least⟩ := exists_first d
  obtain ⟨e, found', line, last⟩ := exists_greedy?_eq f least
  obtain ⟨g, found'', line', starts, last'⟩ := exists_greedy?_append_line least t
  cases found'.symm.trans found
  rcases Nat.lt_or_ge s.length g.stop with stops | stops
  · obtain ⟨half, cut, broken⟩ := g.exists_isBroken starts.le stops
    exact (whole half _ ⟨_, cut, f, least, line'⟩ broken).elim
  · -- both are the last link of the line
    obtain ⟨h, start⟩ := g.exists_restrict stops
    have before := last h (start ▸ line')
    have after := last' (e.extend _) line e.start_le_length
    rw [found'', Embedding.eq_of_start_eq (Nat.le_antisymm (start ▸ before) after)]
    rfl

/-! ## Pages that go on -/

variable {body u : String}

/-- The characters of a body and of a line after it. -/
lemma toList_append_line (body more : String) :
    (body ++ "\n" ++ more).toList = body.toList ++ '\n' :: more.toList := by
  rw [String.toList_append, String.toList_append, List.append_assoc]
  rfl

/-- A link that is broken between the lines is the one that is found. -/
lemma extract_of_isBroken {more : String} {half v : List Char} (ends : EndsLine body.toList half)
    (broken : IsBroken half more.toList v) :
    extract .greedy (body ++ "\n" ++ more) = some (String.ofList v) := by
  rw [extract, toList_append_line, MatchMode.find?, greedy?_of_isBroken ends broken,
    Option.map_some]

/-- If none is, what was found is found again. -/
lemma extract_of_not_isBroken (found : extract .greedy body = some u) {more : String}
    (whole : ∀ half v, EndsLine body.toList half → ¬IsBroken half more.toList v) :
    extract .greedy (body ++ "\n" ++ more) = some u := by
  rw [extract, Option.map_eq_some_iff] at found
  obtain ⟨v, found, rfl⟩ := found
  rw [extract, toList_append_line, MatchMode.find?, greedy?_of_not_isBroken found whole,
    Option.map_some]

/-- A link that is not finished can be finished to another one than was found. -/
lemma exists_extract_ne {half : List Char} (ends : EndsLine body.toList half)
    (unfinished : IsUnfinished half) (u : String) :
    ∃ more : String, extract .greedy (body ++ "\n" ++ more) ≠ some u := by
  by_contra always
  push Not at always
  have only (c : Char) (ok : c ≠ '"' ∧ isBlank c = false) :
      String.ofList ("http://".toList ++ [c]) = u := by
    have address : IsAddress ("http://".toList ++ [c]) :=
      .of List.mem_cons_self (List.cons_ne_nil c []) (List.forall_mem_singleton.2 ok)
    obtain ⟨more, broken⟩ := unfinished.exists_isBroken address
    rw [← String.toList_ofList (l := more)] at broken
    exact Option.some.inj ((extract_of_isBroken ends broken).symm.trans (always _))
  have same := (only 'a' (by decide)).trans (only 'b' (by decide)).symm
  exact absurd same (by decide)

/-- The link that is found in a page is still found when the page goes on with later lines, unless
these finish a link that is broken at the end of the line from which the link was taken; then that
one is found. So no later lines matter exactly if that line does not end with an unfinished link. -/
theorem extract_greedy_append_line (found : extract .greedy body = some u) :
    (∀ (more : String) half v, EndsLine body.toList half → IsBroken half more.toList v →
      extract .greedy (body ++ "\n" ++ more) = some (String.ofList v)) ∧
    (∀ more : String, (∀ half v, EndsLine body.toList half → ¬IsBroken half more.toList v) →
      extract .greedy (body ++ "\n" ++ more) = some u) ∧
    ((∀ more : String, extract .greedy (body ++ "\n" ++ more) = some u) ↔
      ∀ half, EndsLine body.toList half → ¬IsUnfinished half) := by
  refine ⟨fun _ _ _ => extract_of_isBroken, fun _ => extract_of_not_isBroken found, ?_, ?_⟩
  · intro always half ends unfinished
    obtain ⟨more, other⟩ := exists_extract_ne ends unfinished u
    exact other (always more)
  · intro finished more
    exact extract_of_not_isBroken found fun half v ends broken =>
      finished half ends broken.isUnfinished

/-- A key and a colon at the end of the first line become a link with what stands on the second one,
and so displace the link that stands on the first line. -/
theorem extract_greedy_append_line_displaced :
    extract .greedy "\"metaUrl\":\"http://a\" \"metaUrl\":" = some "http://a" ∧
      extract .greedy ("\"metaUrl\":\"http://a\" \"metaUrl\":" ++ "\n" ++ "\"http://b\"")
        = some "http://b" := by
  decide +kernel

/-- A link on the first of two lines, and one that is not finished on the second. -/
def twoLines : String := "\"metaUrl\":\"http://a\"\n\"metaUrl\":"

/-- Whatever finishes the second line, the link on the first one is found. -/
theorem extract_greedy_append_line_twoLines :
    extract .greedy twoLines = some "http://a" ∧
      ∀ more : String, extract .greedy (twoLines ++ "\n" ++ more) = some "http://a" := by
  have found : extract .greedy twoLines = some "http://a" := by decide +kernel
  obtain ⟨e, start, -⟩ := (Embedding.exists_iff (q := 0)).2
    (by decide : linkAt? (twoLines.toList.drop 0) = some "http://a".toList)
  refine ⟨found, (extract_greedy_append_line found).2.2.2 fun half ends => ?_⟩
  exact ends.not_isUnfinished (s := "\"metaUrl\":\"http://a\"".toList) (t := "\"metaUrl\":".toList)
    (e := e) (start ▸ Nat.zero_le _) (by decide)

end PackageFinder.Link
