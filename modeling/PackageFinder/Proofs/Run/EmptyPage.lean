import Mathlib.Data.Finset.Sort
import Mathlib.Tactic.FinCases
import PackageFinder.Proofs.Run.Failure

/-!
# Failed pages and empty pages

A page of the index that cannot be read is to a run what a page without elements is, but for one
failure more. `failed_pages_as_empty_pages` compares two runs that differ in this way at any number
of pages: they find the same elements, so they have the same packages, and the search failures of
the one are those of the other with the failures of the pages in question put in at their places.

For the comparison each search failure is kept beside the number of its page
(`numberedFailures`).
-/

namespace PackageFinder
open PackageFinder.Http

/-- An answer that brings a page without elements. -/
inductive IsEmptyPage : Answer → Prop
  /-- It has no list of downloads. -/
  | absent {a text v} :
    Succeeds a text → Json.parse text = .ok v →
    (∀ vs, v.member? "downloads" ≠ some (.list vs)) → IsEmptyPage a
  /-- Its list of downloads is empty. -/
  | empty {a text v} :
    Succeeds a text → Json.parse text = .ok v → v.member? "downloads" = some (.list []) →
    IsEmptyPage a

/-- A value without list of downloads has no elements. -/
lemma downloads_eq_nil {v : Json.Value} (h : ∀ vs, v.member? "downloads" ≠ some (.list vs)) :
    downloads v = [] := by
  unfold downloads
  split
  case h_1 vs hv => exact absurd hv (h vs)
  case h_2 => rfl

/-- The elements that an answer of success brings are those of its JSON text. -/
lemma Succeeds.elements?_eq {a text v} (hs : Succeeds a text) (hp : Json.parse text = .ok v) :
    elements? a = some (downloads v) := by
  cases hs with
  | of lo hi => simp only [elements?, lo, hi, and_self, if_true, hp]

/-- An empty page has been read, and brings no element. -/
lemma IsEmptyPage.elements?_eq {a} (h : IsEmptyPage a) : elements? a = some [] := by
  cases h with
  | absent hs hp none => rw [hs.elements?_eq hp, downloads_eq_nil none]
  | empty hs hp nil =>
    rw [hs.elements?_eq hp]
    unfold downloads
    rw [nil]

/-! ## Numbered failures -/

section
variable {net net' : Network} {s : Settings} {query : String}

/-- The failures of the pages of a query, each beside the number of its page. -/
def numberedFailures (net : Network) (s : Settings) (query : String) : List (Nat × Failure) :=
  (List.range s.search.pages).filterMap fun k => (pageFailure? net s query k).map (k, ·)

/-- Without their numbers they are the failures of the search. -/
lemma map_snd_numberedFailures :
    (numberedFailures net s query).map (·.2)
      = ((collect s.search.endpoint (.ofSettings query s.search)).result net).failures := by
  rw [failures_collect, numberedFailures, List.map_filterMap]
  simp only [Option.map_map, Function.comp_def, Option.map_id']

/-- A page that has been read has no failure. -/
lemma pageFailure?_eq_none {k vs} (h : elements? (net (pageCall s query k)) = some vs) :
    pageFailure? net s query k = none := by
  rcases pageFailure?_cases net s query k with ⟨_, hf⟩ | ⟨hv, _⟩
  · exact hf
  · rw [h] at hv
    cases hv

/-- A page that could not be read has one. -/
lemma exists_pageFailure? {k e} (h : PageFails (net (pageCall s query k)) e) :
    ∃ f, pageFailure? net s query k = some f := by
  rcases pageFailure?_cases net s query k with ⟨hv, _⟩ | ⟨_, f, hf, _⟩
  · rw [elements?_eq_none_iff.2 ⟨e, h⟩] at hv
    cases hv
  · exact ⟨f, hf⟩

/-- A numbered failure is that of its page. -/
lemma isPageFailure_of_mem {p} (h : p ∈ numberedFailures net s query) :
    IsPageFailure net s query p.1 p.2 := by
  obtain ⟨k, _, hk⟩ := List.mem_filterMap.1 h
  obtain ⟨f, hf, rfl⟩ := Option.map_eq_some_iff.1 hk
  rcases pageFailure?_cases net s query k with ⟨_, none⟩ | ⟨_, g, hg, of⟩
  · cases none.symm.trans hf
  · cases hg.symm.trans hf
    exact of

/-- The numbers increase. -/
lemma pairwise_numberedFailures : (numberedFailures net s query).Pairwise (·.1 < ·.1) := by
  apply List.pairwise_lt_range.filterMap
  intro k k' lt p hp p' hp'
  obtain ⟨f, _, rfl⟩ := Option.map_eq_some_iff.1 hp
  obtain ⟨f', _, rfl⟩ := Option.map_eq_some_iff.1 hp'
  exact lt

/-- The numbers below a bound that belong to a set, in order. -/
lemma filter_range_eq_sort {K : Finset Nat} {n : Nat} (below : ∀ k ∈ K, k < n) :
    (List.range n).filter (· ∈ K) = K.sort (· ≤ ·) := by
  apply (List.pairwise_lt_range.filter _).eq_of_mem_iff K.sortedLT_sort.pairwise
  intro k
  rw [List.mem_filter, List.mem_range, Finset.mem_sort, decide_eq_true_eq]
  exact ⟨fun h => h.2, fun h => ⟨below k h, h⟩⟩

/-! ## Two runs -/

variable {K : Finset Nat}

/-- Where all pages of a set failed, their numbers are among those of the failures. -/
lemma numbers_of_failed (below : ∀ k ∈ K, k < s.search.pages)
    (failed : ∀ k ∈ K, ∃ e, PageFails (net (pageCall s query k)) e) :
    ((numberedFailures net s query).filter (·.1 ∈ K)).map (·.1) = K.sort (· ≤ ·) := by
  rw [numberedFailures, List.filter_filterMap, List.map_filterMap, ← filter_range_eq_sort below,
    ← List.filterMap_eq_filter]
  apply List.filterMap_congr
  intro k _
  by_cases hk : k ∈ K
  · obtain ⟨e, he⟩ := failed k hk
    obtain ⟨f, hf⟩ := exists_pageFailure? he
    simp [hf, hk, Option.guard]
  · cases pageFailure? net s query k <;> simp [hk, Option.guard]

/-- Where the pages of a set have been read, and the others are answered alike, the failures are
those of the other pages. -/
lemma numberedFailures_of_read
    (others : ∀ k < s.search.pages, k ∉ K →
      net (pageCall s query k) = net' (pageCall s query k))
    (read : ∀ k ∈ K, ∃ vs, elements? (net' (pageCall s query k)) = some vs) :
    numberedFailures net' s query = (numberedFailures net s query).filter (·.1 ∉ K) := by
  rw [numberedFailures, numberedFailures, List.filter_filterMap]
  apply List.filterMap_congr
  intro k hk
  by_cases mem : k ∈ K
  · obtain ⟨vs, hv⟩ := read k mem
    rw [pageFailure?_eq_none hv]
    cases pageFailure? net s query k <;> simp [Option.filter, mem]
  · have same : pageFailure? net' s query k = pageFailure? net s query k := by
      rw [pageFailure?, pageFailure?, others k (List.mem_range.1 hk) mem]
    rw [same]
    cases pageFailure? net s query k <;> simp [Option.filter, mem]

/-- The elements of a query, page by page; a page that could not be read adds none. -/
lemma elements_eq_flatMap :
    elements net s query
      = (List.range s.search.pages).flatMap
          fun k => (elements? (net (pageCall s query k))).getD [] := by
  rw [elements]
  induction List.range s.search.pages with
  | nil => rfl
  | cons k ks ih =>
    rw [List.flatMap_cons, ← ih, List.filterMap_cons]
    cases elements? (net (pageCall s query k)) <;> rfl

/-- Failed pages and empty pages add nothing to the elements. -/
lemma elements_eq_of_empty
    (others : ∀ k < s.search.pages, k ∉ K →
      net (pageCall s query k) = net' (pageCall s query k))
    (failed : ∀ k ∈ K, ∃ e, PageFails (net (pageCall s query k)) e)
    (empty : ∀ k ∈ K, IsEmptyPage (net' (pageCall s query k))) :
    elements net s query = elements net' s query := by
  rw [elements_eq_flatMap, elements_eq_flatMap]
  apply List.flatMap_congr
  intro k hk
  by_cases mem : k ∈ K
  · rw [elements?_eq_none_iff.2 (failed k mem), (empty k mem).elements?_eq]
    rfl
  · rw [others k (List.mem_range.1 hk) mem]

end

/-- A failed page is an empty page and one failure. Of two runs that are answered alike, but for
some pages of the index that fail in the first, in whatever way, and have no elements in the second,
both have the same count and the same packages. The failures of the first are `F`, each with the
number of its page, and then `D`; those of the second are what is left of `F` without the pages in
question, and then `D`. Of these pages there is one failure each in `F`, and the numbers in `F`
increase. -/
theorem failed_pages_as_empty_pages (net net' : Network) (s : Settings) (query : String)
    (K : Finset Nat) (below : ∀ k ∈ K, k < s.search.pages)
    (details : ∀ url, net (.detail url) = net' (.detail url))
    (others : ∀ k < s.search.pages, k ∉ K →
      net (pageCall s query k) = net' (pageCall s query k))
    (failed : ∀ k ∈ K, ∃ e, PageFails (net (pageCall s query k)) e)
    (empty : ∀ k ∈ K, IsEmptyPage (net' (pageCall s query k))) :
    ∃ (report report' : Report) (F : List (Nat × Failure)) (D : List Failure),
      (∀ r, (∃ trace, Run net s query r trace) ↔ r = report) ∧
      (∀ r, (∃ trace, Run net' s query r trace) ↔ r = report') ∧
      report.count = report'.count ∧ report.packages = report'.packages ∧
      report.failures = F.map (·.2) ++ D ∧
      report'.failures = (F.filter (·.1 ∉ K)).map (·.2) ++ D ∧
      (F.filter (·.1 ∈ K)).map (·.1) = K.sort (· ≤ ·) ∧
      F.Pairwise (·.1 < ·.1) ∧
      (∀ p ∈ F, IsPageFailure net s query p.1 p.2) ∧
      ∀ f ∈ D, f.stage ≠ .search := by
  have found := elements_eq_of_empty others failed empty
  have read : ∀ k ∈ K, ∃ vs, elements? (net' (pageCall s query k)) = some vs :=
    fun k hk => ⟨[], (empty k hk).elements?_eq⟩
  -- details are answered alike, so the elements are resolved alike
  have resolved : resolution net s.extraction.matchMode
      = resolution net' s.extraction.matchMode :=
    funext fun v => resolve_congr (fun url _ => details url) _
  obtain ⟨count, packages⟩ := packages_run s query net
  obtain ⟨count', packages'⟩ := packages_run s query net'
  have failures := failures_run s query net
  have failures' := failures_run s query net'
  rw [← map_snd_numberedFailures] at failures failures'
  rw [numberedFailures_of_read others read, ← found, ← resolved] at failures'
  refine ⟨_, _, numberedFailures net s query, _, fun _ => exists_run_iff, fun _ => exists_run_iff,
    ?_, ?_, failures, failures', numbers_of_failed below failed, pairwise_numberedFailures,
    fun _ => isPageFailure_of_mem, ?_⟩
  · rw [count, count', found]
  · rw [packages, packages', found, resolved]
  · exact forall_mem_of_forall₂ (fun _ _ h => h.stage_ne)
      (failures_resolution net s.extraction.matchMode (elements net s query))

/-- The answers for four pages: one with an element, and three that fail, each in its own way. -/
def brokenPages : List (String × Answer) :=
  [("0", .error .truncatedBody), ("1", .ok ⟨200, "http://h/", "\x7b\"downloads\": [7]\x7d"⟩),
    ("2", .ok ⟨500, "http://h/", ""⟩), ("3", .ok ⟨200, "http://h/", "<html>"⟩)]

/-- The first, the third and the fourth of four pages fail in one run and are empty in the other. -/
theorem failed_pages_as_empty_pages_three :
    ∃ report report' : Report,
      (∃ trace, Run (listed brokenPages []) { search := { pages := 4 } } "x" report trace) ∧
      (∃ trace, Run (listed (brokenPages.filter (·.1 = "1")) []) { search := { pages := 4 } } "x"
        report' trace) ∧
      report.packages = report'.packages ∧
      ∃ (F : List (Nat × Failure)) (D : List Failure), report.failures = F.map (·.2) ++ D ∧
        report'.failures = (F.filter (·.1 ∉ ({0, 2, 3} : Finset Nat))).map (·.2) ++ D ∧
        (F.filter (·.1 ∈ ({0, 2, 3} : Finset Nat))).map (·.1) = [0, 2, 3] := by
  have failed : ∀ k ∈ ({0, 2, 3} : Finset Nat),
      ∃ e, PageFails (listed brokenPages [] (pageCall { search := { pages := 4 } } "x" k)) e := by
    intro k hk
    fin_cases hk
    · exact ⟨_, .fetch .transport⟩
    · exact ⟨_, .fetch (.status (.inr (by decide)))⟩
    · exact ⟨_, .decode (.of (by decide) (by decide)) rfl⟩
  have empty : ∀ k ∈ ({0, 2, 3} : Finset Nat),
      IsEmptyPage (listed (brokenPages.filter (·.1 = "1")) []
        (pageCall { search := { pages := 4 } } "x" k)) := by
    have blank : Json.parse "\x7b\x7d" = .ok (.object []) := rfl
    intro k hk
    fin_cases hk <;> exact .absent (.of (by decide) (by decide)) blank nofun
  obtain ⟨report, report', F, D, run, run', _, packages, failures, failures', numbers, _⟩ :=
    failed_pages_as_empty_pages (listed brokenPages []) (listed (brokenPages.filter (·.1 = "1")) [])
      { search := { pages := 4 } } "x" {0, 2, 3} (by decide) (fun _ => rfl) (by decide +kernel)
      failed empty
  have sorted : ({0, 2, 3} : Finset Nat).sort (· ≤ ·) = [0, 2, 3] :=
    (filter_range_eq_sort (n := 4) (by decide)).symm
  exact ⟨report, report', (run report).2 rfl, (run' report').2 rfl, packages, F, D, failures,
    failures', numbers.trans sorted⟩

end PackageFinder
