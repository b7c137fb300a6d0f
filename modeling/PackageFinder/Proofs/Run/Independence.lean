import PackageFinder.Proofs.Run.Failure

/-!
# Detail pages do not influence each other

What one detail page is answered with matters to the items that have its address, and to no others.
`detail_pages_independent` compares two runs that differ in the answer for one address: the packages
of the other items are the same, at the same positions, and so are their failures, although the
failures of the items with this address may stand between them in one run and be missing in the
other.
-/

namespace PackageFinder
open PackageFinder.Http

variable {net net' : Network} {s : Settings} {query u : String} {mode : Link.MatchMode}

/-- The failures of a report: those of its search, and then one for each package without link,
beside the element that the package belongs to. -/
structure IsAttribution (net : Network) (s : Settings) (query : String) (report : Report)
    (S : List Failure) (D : List (Json.Value × Failure)) : Prop where
  /-- These are all failures. -/
  failures_eq : report.failures = S ++ D.map (·.2)
  /-- The first ones are those of the search. -/
  search : ∀ f ∈ S, f.stage = .search
  /-- The other ones are those of the packages without link. -/
  details : List.Forall₂ (fun vp d => d.1 = vp.1 ∧ IsFailureOf net s.extraction.matchMode vp d.2)
    (((elements net s query).zip report.packages).filter (·.2.url.isNone)) D

/-- The failures of a run are those of its pages and those of its elements. -/
lemma isAttribution_run (net : Network) (s : Settings) (query : String) :
    IsAttribution net s query ((run s query).result net)
      ((List.range s.search.pages).filterMap (pageFailure? net s query))
      (attributedFailures net s.extraction.matchMode (elements net s query)) where
  failures_eq := by rw [failures_run, failures_collect, map_snd_attributedFailures]
  search := by
    have pages := failures_search s query net
    rw [failures_collect] at pages
    exact forall_mem_of_forall₂ (fun _ _ h => h.stage_eq) pages
  details := by
    rw [(packages_run s query net).2]
    exact forall₂_attributedFailures net _ _

/-! ## Pages that are answered alike -/

/-- The elements depend on the answers to the pages alone. -/
lemma elements_congr
    (h : ∀ k < s.search.pages, net (pageCall s query k) = net' (pageCall s query k)) :
    elements net s query = elements net' s query := by
  unfold elements
  congr 1
  apply List.filterMap_congr
  intro k hk
  rw [h k (List.mem_range.1 hk)]

/-- So do the failures of pages. -/
lemma pageFailures_congr
    (h : ∀ k < s.search.pages, net (pageCall s query k) = net' (pageCall s query k)) :
    (List.range s.search.pages).filterMap (pageFailure? net s query)
      = (List.range s.search.pages).filterMap (pageFailure? net' s query) := by
  apply List.filterMap_congr
  intro k hk
  rw [pageFailure?, pageFailure?, h k (List.mem_range.1 hk)]

/-! ## Elements and their addresses -/

/-- The resolution of an element without the address in question is the same. -/
lemma resolution_congr (h : ∀ url, url ≠ u → net (.detail url) = net' (.detail url))
    {v : Json.Value} (hv : address? v ≠ some u) :
    resolution net mode v = resolution net' mode v := by
  apply resolve_congr
  intro url hu
  apply h
  rintro rfl
  rw [url_ofValue] at hu
  exact hv hu

/-- The title of a package is that of its element, whatever the answers. -/
lemma title_resolution (net : Network) (mode : Link.MatchMode) (v : Json.Value) :
    (resolution net mode v).package.title = (Item.ofValue v).displayTitle :=
  (resolves_resolve net mode _).title_eq

/-- Elements with the same address have the same link, or none. -/
lemma url_resolution_congr {v w : Json.Value} (h : address? v = address? w) :
    (resolution net mode v).package.url = (resolution net mode w).package.url := by
  apply Option.ext
  intro link
  rw [resolution, resolution, (resolves_resolve net mode _).url_eq_some_iff,
    (resolves_resolve net mode _).url_eq_some_iff, url_ofValue, url_ofValue, h]

/-- The failures that are not of elements with the address in question are the same, in the same
order. -/
lemma attributedFailures_congr (h : ∀ url, url ≠ u → net (.detail url) = net' (.detail url))
    (vs : List Json.Value) :
    (attributedFailures net mode vs).filter (address? ·.1 ≠ some u)
      = (attributedFailures net' mode vs).filter (address? ·.1 ≠ some u) := by
  rw [attributedFailures, attributedFailures, List.filter_filterMap, List.filter_filterMap]
  apply List.filterMap_congr
  intro v _
  by_cases hv : address? v = some u
  · -- on both sides nothing is left
    cases (resolution net mode v).failure <;> cases (resolution net' mode v).failure <;>
      simp [Option.filter, hv]
  · rw [resolution_congr h hv]

/-! ## Two runs -/

/-- The package at a position is that of the element there. -/
lemma getElem?_packages (net : Network) (s : Settings) (query : String) (i : Nat) :
    ((run s query).result net).packages[i]?
      = (elements net s query)[i]?.map fun v =>
          (resolution net s.extraction.matchMode v).package := by
  rw [(packages_run s query net).2, List.getElem?_map]

/-- Elements with one address have packages with one link, or without. -/
lemma exists_url_of_address (net : Network) (s : Settings) (query u : String) :
    ∃ link, ∀ vp ∈ (elements net s query).zip ((run s query).result net).packages,
      address? vp.1 = some u → vp.2.url = link := by
  refine ⟨(resolution net s.extraction.matchMode (.object [("url", .text u)])).package.url, ?_⟩
  rintro ⟨v, p⟩ hm hv
  rw [(packages_run s query net).2, ← List.map_prod_left_eq_zip] at hm
  obtain ⟨w, _, e⟩ := List.mem_map.1 hm
  cases e
  apply url_resolution_congr
  rw [hv]
  rfl

/-- Detail pages do not influence each other. Of two runs that are answered alike, but for the
detail page at one address `u`, both have the same count, the same titles, the same packages at all
positions of elements with another address, and the same failures of the search. The elements with
the address `u` have all the same link within each run, or none. Without the failures of the
elements with this address the failures are the same, in the same order. -/
theorem detail_pages_independent (net net' : Network) (s : Settings) (query u : String)
    (pages : ∀ k < s.search.pages, net (pageCall s query k) = net' (pageCall s query k))
    (others : ∀ url, url ≠ u → net (.detail url) = net' (.detail url)) :
    ∃ (report report' : Report) (S : List Failure) (D D' : List (Json.Value × Failure)),
      (∀ r, (∃ trace, Run net s query r trace) ↔ r = report) ∧
      (∀ r, (∃ trace, Run net' s query r trace) ↔ r = report') ∧
      report.count = report'.count ∧
      report.packages.map (·.title) = report'.packages.map (·.title) ∧
      (∀ (i : Nat) v, (elements net s query)[i]? = some v → address? v ≠ some u →
        report.packages[i]? = report'.packages[i]?) ∧
      (∃ link, ∀ vp ∈ (elements net s query).zip report.packages,
        address? vp.1 = some u → vp.2.url = link) ∧
      (∃ link, ∀ vp ∈ (elements net s query).zip report'.packages,
        address? vp.1 = some u → vp.2.url = link) ∧
      IsAttribution net s query report S D ∧ IsAttribution net' s query report' S D' ∧
      D.filter (address? ·.1 ≠ some u) = D'.filter (address? ·.1 ≠ some u) := by
  have same := elements_congr pages
  obtain ⟨count, packages⟩ := packages_run s query net
  obtain ⟨count', packages'⟩ := packages_run s query net'
  have all := isAttribution_run net s query
  have all' := isAttribution_run net' s query
  -- the pages fail alike, so one list of failures of the search serves both runs
  rw [← pageFailures_congr pages] at all'
  refine ⟨_, _, _, _, _, fun _ => exists_run_iff, fun _ => exists_run_iff, ?_, ?_, ?_,
    exists_url_of_address net s query u, ?_, all, all', ?_⟩
  · rw [count, count', same]
  · rw [packages, packages', same, List.map_map, List.map_map]
    apply List.map_congr_left
    intro v _
    rw [Function.comp_apply, Function.comp_apply, title_resolution, title_resolution]
  · intro i v hi hv
    rw [getElem?_packages, getElem?_packages, ← same, hi, Option.map_some, Option.map_some,
      resolution_congr others hv]
  · rw [same]
    exact exists_url_of_address net' s query u
  · rw [← same]
    exact attributedFailures_congr others _

/-- An address that two of three elements have is answered in one run and not in the other. -/
theorem detail_pages_independent_twins :
    ∃ (report report' : Report) (S : List Failure) (D D' : List (Json.Value × Failure)),
      (∃ trace, Run (listed twinPages [("u", .ok ⟨200, "u", "\"metaUrl\": \"http://l\""⟩)])
        ⟨{ pages := 2 }, {}, {}⟩ "x" report trace) ∧
      (∃ trace, Run (listed twinPages []) ⟨{ pages := 2 }, {}, {}⟩ "x" report' trace) ∧
      report.packages.map (·.title) = report'.packages.map (·.title) ∧
      report.failures = S ++ D.map (·.2) ∧ report'.failures = S ++ D'.map (·.2) ∧
      D.filter (address? ·.1 ≠ some "u") = D'.filter (address? ·.1 ≠ some "u") := by
  have others : ∀ url, url ≠ "u" →
      listed twinPages [("u", .ok ⟨200, "u", "\"metaUrl\": \"http://l\""⟩)] (.detail url)
        = listed twinPages [] (.detail url) := by
    intro url h
    rw [listed, listed, List.lookup_cons, beq_false_of_ne h]
  obtain ⟨report, report', S, D, D', run, run', _, titles, _, _, _, all, all', rest⟩ :=
    detail_pages_independent
      (listed twinPages [("u", .ok ⟨200, "u", "\"metaUrl\": \"http://l\""⟩)]) (listed twinPages [])
      ⟨{ pages := 2 }, {}, {}⟩ "x" "u" (fun _ _ => rfl) others
  exact ⟨report, report', S, D, D', (run report).2 rfl, (run' report').2 rfl, titles,
    all.failures_eq, all'.failures_eq, rest⟩

end PackageFinder
