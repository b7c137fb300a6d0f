import Mathlib.Data.List.Forall2
import PackageFinder.Proofs.Run.Answer
import PackageFinder.Proofs.Run.Window

/-!
# The report of a run

Every schedule of the detail pages leads to the same report, so one may speak of the report of a
run (`exists_run_iff`). Its packages belong to the elements of the pages of the index that could be
read, one to each, in their order: `packages_of_run` says what they are, and that nothing else about
the pages matters.
-/

namespace PackageFinder
open PackageFinder.Http

/-! ## All schedules -/

/-- A run leads to the report that resolving the items one after the other leads to. -/
lemma Run.report_eq {net s query report trace} (r : Run net s query report trace) :
    report = (run s query).result net := by
  cases r with
  | of search rc ended report =>
    rw [report, rc.done_eq ended, result_resolveAll, result_run, search]

/-- What the session of a run does, resolving one item after the other, a run may do. -/
lemma run_session (net : Network) (s : Settings) (query : String) :
    Run net s query ((run s query).result net) ((run s query).trace net) := by
  have rc := Window.Reachable.one_by_one (Window.windowWidth_pos s)
    (@Window.Reachable.initial net s.extraction.matchMode (windowWidth s)
      ((collect s.search.endpoint (.ofSettings query s.search)).result net).items)
  have r := Run.of rfl rc ⟨rfl, rfl⟩ rfl
  simpa [run] using r

/-- A run leads to a report, whatever the settings say. -/
lemma exists_run (net : Network) (s : Settings) (query : String) :
    ∃ trace, Run net s query ((run s query).result net) trace := by
  let items := ((collect s.search.endpoint (.ofSettings query s.search)).result net).items
  have start : Window.Reachable net s.extraction.matchMode (windowWidth s) items (.initial items) :=
    .initial
  obtain ⟨w, rc, ended⟩ := start.exists_isOver (Window.windowWidth_pos s)
  have r := Run.of rfl rc ended rfl
  exact ⟨_, r.report_eq ▸ r⟩

/-- The reports that a run may lead to: there is exactly one. -/
lemma exists_run_iff {net s query report} :
    (∃ trace, Run net s query report trace) ↔ report = (run s query).result net := by
  constructor
  · rintro ⟨trace, r⟩
    exact r.report_eq
  · rintro rfl
    exact exists_run net s query

/-! ## Pages -/

/-- The items of a page; none if it could not be read. -/
def Page.found : Page → List Item
  | .items found => found
  | .failed _ _ => []

/-- The failure of a page that could not be read. -/
def Page.failure? : Page → Option Failure
  | .items _ => none
  | .failed k e => some (Outcome.pageFailure k e)

/-- Taking in pages adds their items and their failures, each in order. -/
lemma foldl_absorb (o : Outcome) (pages : List Page) :
    pages.foldl Outcome.absorb o
      = ⟨o.items ++ pages.flatMap (·.found), o.failures ++ pages.filterMap (·.failure?)⟩ := by
  induction pages generalizing o with
  | nil => simp
  | cons page pages ih =>
    rw [List.foldl_cons, ih]
    cases page <;> simp [Outcome.absorb, Page.found, Page.failure?]

/-- What some pages have brought are their items and their failures. -/
lemma ofPages_eq (pages : List Page) :
    Outcome.ofPages pages = ⟨pages.flatMap (·.found), pages.filterMap (·.failure?)⟩ := by
  simp [Outcome.ofPages, foldl_absorb]

/-- What a search brings. -/
lemma result_search (s : Settings) (query : String) (net : Network) :
    (collect s.search.endpoint (.ofSettings query s.search)).result net
      = .ofPages ((List.range s.search.pages).map fun k =>
          .ofBody k (bodyOf (net (pageCall s query k)))) := by
  rw [result_collect]
  simp only [result_fetchPage]
  rfl

/-- The elements of the pages of a query that can be read, in the order of the pages. -/
def elements (net : Network) (s : Settings) (query : String) : List Json.Value :=
  ((List.range s.search.pages).filterMap fun k => elements? (net (pageCall s query k))).flatten

/-- A search finds the elements of its pages. -/
lemma items_search (s : Settings) (query : String) (net : Network) :
    ((collect s.search.endpoint (.ofSettings query s.search)).result net).items
      = (elements net s query).map .ofValue := by
  rw [result_search, ofPages_eq, elements]
  -- page by page: one that cannot be read adds nothing on either side
  induction List.range s.search.pages with
  | nil => rfl
  | cons k ks ih =>
    simp only [List.map_cons, List.flatMap_cons, List.filterMap_cons] at ih ⊢
    rcases page_cases k (net (pageCall s query k)) with ⟨vs, hv, hp⟩ | ⟨e, hv, _, hp⟩
    · rw [ih, hv, hp, List.flatten_cons, List.map_append]
      rfl
    · rw [ih, hv, hp]
      rfl

/-- The resolution of an element. -/
def resolution (net : Network) (mode : Link.MatchMode) (v : Json.Value) : Resolution :=
  (resolve mode (.ofValue v)).result net

/-- The count and the packages of a report are those of the elements. -/
lemma packages_run (s : Settings) (query : String) (net : Network) :
    ((run s query).result net).count = (elements net s query).length ∧
      ((run s query).result net).packages = (elements net s query).map fun v =>
        (resolution net s.extraction.matchMode v).package := by
  rw [result_run]
  simp only [Report.ofResolutions, items_search, List.length_map, List.map_map, true_and]
  rfl

/-! ## Packages -/

/-- The package of an element of a page. -/
structure IsPackageOf (net : Network) (mode : Link.MatchMode) (v : Json.Value) (p : Package) :
    Prop where
  /-- It has the title of the element, if that is a text. -/
  title_of_text : ∀ title, v.member? "title" = some (.text title) → p.title = title
  /-- Otherwise a placeholder stands for the title. -/
  title_of_none : (∀ title, v.member? "title" ≠ some (.text title)) → p.title = "<none>"
  /-- Its link is the one on the page of the element's address, if it has one and the page is
  answered with success. -/
  url_iff : ∀ link, p.url = some link ↔ ∃ address text,
    v.member? "url" = some (.text address) ∧ Succeeds (net (.detail address)) text ∧
      Link.extract mode text = some link

/-- A member counts exactly when it is a text. -/
lemma textMember_iff {v : Json.Value} {key t : String} :
    (v.member? key).bind (·.text?) = some t ↔ v.member? key = some (.text t) := by
  cases v.member? key with
  | none => simp
  | some w => cases w <;> simp [Json.Value.text?]

/-- The package of an item has what is shown as its title. -/
lemma Resolves.title_eq {net mode item r} (rs : Resolves net mode item r) :
    r.package.title = item.displayTitle := by
  cases rs <;> rfl

/-- The package of an item has a link exactly when the item has an address, and its page one. -/
lemma Resolves.url_eq_some_iff {net mode item r} (rs : Resolves net mode item r) {link : String} :
    r.package.url = some link ↔ ∃ address text, item.url = some address ∧
      Succeeds (net (.detail address)) text ∧ Link.extract mode text = some link := by
  constructor
  · intro h
    cases rs with
    | missing | detail | extraction => cases h
    | linked hu hs hx =>
      cases h
      exact ⟨_, _, hu, hs, hx⟩
  · rintro ⟨address, text, hu, hs, hx⟩
    -- the answer and the link are unique, so the other cases contradict what is given
    cases rs with
    | missing h => cases h.symm.trans hu
    | detail h hf =>
      cases h.symm.trans hu
      exact (hs.not_fails hf).elim
    | extraction h hs' hx' =>
      cases h.symm.trans hu
      cases hs'.unique hs
      cases hx'.symm.trans hx
    | linked h hs' hx' =>
      cases h.symm.trans hu
      cases hs'.unique hs
      exact hx'.symm.trans hx

/-- The resolution of an element has its package. -/
lemma Resolves.isPackageOf {net mode v r} (rs : Resolves net mode (.ofValue v) r) :
    IsPackageOf net mode v r.package := by
  refine ⟨?_, ?_, ?_⟩
  · intro t h
    rw [rs.title_eq, Item.displayTitle, Item.ofValue, textMember_iff.2 h]
    rfl
  · intro h
    have none : (v.member? "title").bind (·.text?) = none :=
      Option.eq_none_iff_forall_ne_some.2 fun t ht => h t (textMember_iff.1 ht)
    rw [rs.title_eq, Item.displayTitle, Item.ofValue, none]
    rfl
  · intro link
    simp only [rs.url_eq_some_iff, Item.ofValue, textMember_iff]

/-- A run leads to exactly one report, whatever the answers and in whatever order the detail pages
are answered. It counts the elements of the pages that could be read, and has the package of each
of them, in their order. Two runs that find the same elements, and get the same answers for detail
pages, have the same count and the same packages, however the elements are spread over pages. -/
theorem packages_of_run (net : Network) (s : Settings) (query : String) :
    ∃ report, (∀ r, (∃ trace, Run net s query r trace) ↔ r = report) ∧
      report.count = (elements net s query).length ∧
      report.packages.length = report.count ∧
      List.Forall₂ (IsPackageOf net s.extraction.matchMode) (elements net s query)
        report.packages ∧
      ∀ net' s' query' report' trace', Run net' s' query' report' trace' →
        elements net' s' query' = elements net s query →
        (∀ url, net' (.detail url) = net (.detail url)) →
        s'.extraction.matchMode = s.extraction.matchMode →
        report'.count = report.count ∧ report'.packages = report.packages := by
  obtain ⟨count, packages⟩ := packages_run s query net
  refine ⟨(run s query).result net, fun r => exists_run_iff, count, ?_, ?_, ?_⟩
  · rw [count, packages, List.length_map]
  · rw [packages]
    apply List.forall₂_map_right_iff.2
    exact List.forall₂_same.2 fun v _ => (resolves_resolve net _ (.ofValue v)).isPackageOf
  · intro net' s' query' report' trace' r found details mode
    obtain ⟨count', packages'⟩ := packages_run s' query' net'
    rw [r.report_eq, count, count', packages, packages', found, mode]
    refine ⟨rfl, List.map_congr_left fun v _ => ?_⟩
    rw [resolution, resolution, resolve_congr fun url _ => details url]

end PackageFinder
