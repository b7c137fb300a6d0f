import PackageFinder.Proofs.Run.Report

/-!
# The failures of a run

A report has a failure for each page that could not be read and for each package without link, and
no other. `failures_of_run` says which they are and in what order they stand; that no step is
missing or told twice follows by counting.
-/

namespace PackageFinder
open PackageFinder.Http

section lists
variable {α β : Type} {R : α → β → Prop}

/-- What a partial function makes of a list belongs to the elements that it is defined on. -/
lemma forall₂_filter_filterMap {p : α → Bool} {f : α → Option β}
    (h : ∀ a, (p a = false ∧ f a = none) ∨ (p a = true ∧ ∃ b, f a = some b ∧ R a b))
    (l : List α) : List.Forall₂ R (l.filter p) (l.filterMap f) := by
  induction l with
  | nil => exact .nil
  | cons a l ih =>
    rcases h a with ⟨hp, hf⟩ | ⟨hp, b, hf, hr⟩
    · rw [List.filter_cons_of_neg (by simp [hp]), List.filterMap_cons_none hf]
      exact ih
    · rw [List.filter_cons_of_pos hp, List.filterMap_cons_some hf]
      exact .cons hr ih

/-- What holds of everything that belongs to something holds of a whole list. -/
lemma forall_mem_of_forall₂ {P : β → Prop} (h : ∀ a b, R a b → P b) {l : List α} {l' : List β}
    (hl : List.Forall₂ R l l') : ∀ b ∈ l', P b := by
  induction hl with
  | nil => exact nofun
  | cons hr _ ih => exact List.forall_mem_cons.2 ⟨h _ _ hr, ih⟩

end lists

/-! ## Pages -/

/-- The pages of a query that could not be read, in order. -/
def failedPages (net : Network) (s : Settings) (query : String) : List Nat :=
  (List.range s.search.pages).filter fun k => (elements? (net (pageCall s query k))).isNone

/-- The failure of a page that could not be read. -/
inductive IsPageFailure (net : Network) (s : Settings) (query : String) (k : Nat) : Failure → Prop
  | of {e} :
    PageFails (net (pageCall s query k)) e →
    IsPageFailure net s query k ⟨.search, "offset " ++ toString k, e.message⟩

/-- An answer brings no page exactly when there is a reason for it. -/
lemma elements?_eq_none_iff {a : Answer} : elements? a = none ↔ ∃ e, PageFails a e := by
  constructor
  · intro h
    rcases page_cases 0 a with ⟨vs, hv, _⟩ | ⟨e, _, hf, _⟩
    · cases hv.symm.trans h
    · exact ⟨e, hf⟩
  · rintro ⟨e, hf⟩
    cases hf with
    | fetch hf =>
      cases hf with
      | transport => rfl
      | status out => exact if_neg (by omega)
    | decode hs hp =>
      cases hs with
      | of lo hi => simp only [elements?, lo, hi, and_self, if_true, hp]

/-- The pages that failed are told from those that were read by the reasons for it. -/
lemma mem_failedPages {net s query k} :
    k ∈ failedPages net s query
      ↔ k < s.search.pages ∧ ∃ e, PageFails (net (pageCall s query k)) e := by
  rw [failedPages, List.mem_filter, List.mem_range, Option.isNone_iff_eq_none,
    elements?_eq_none_iff]

/-- The failure of a page, if it could not be read. -/
def pageFailure? (net : Network) (s : Settings) (query : String) (k : Nat) : Option Failure :=
  (Page.ofBody k (bodyOf (net (pageCall s query k)))).failure?

/-- A page has been read, or there is a failure of it. -/
lemma pageFailure?_cases (net : Network) (s : Settings) (query : String) (k : Nat) :
    ((elements? (net (pageCall s query k))).isNone = false ∧ pageFailure? net s query k = none) ∨
      ((elements? (net (pageCall s query k))).isNone = true ∧
        ∃ f, pageFailure? net s query k = some f ∧ IsPageFailure net s query k f) := by
  unfold pageFailure?
  rcases page_cases k (net (pageCall s query k)) with ⟨vs, hv, hp⟩ | ⟨e, hv, hf, hp⟩
  · exact .inl ⟨by rw [hv]; rfl, by rw [hp]; rfl⟩
  · exact .inr ⟨by rw [hv]; rfl, _, by rw [hp]; rfl, .of hf⟩

/-- A search notes the failures of its pages one after the other. -/
lemma failures_collect (s : Settings) (query : String) (net : Network) :
    ((collect s.search.endpoint (.ofSettings query s.search)).result net).failures
      = (List.range s.search.pages).filterMap (pageFailure? net s query) := by
  rw [result_search, ofPages_eq, List.filterMap_map]
  rfl

/-- The failures of a search are those of its failed pages. -/
lemma failures_search (s : Settings) (query : String) (net : Network) :
    List.Forall₂ (IsPageFailure net s query) (failedPages net s query)
      ((collect s.search.endpoint (.ofSettings query s.search)).result net).failures := by
  rw [failures_collect]
  exact forall₂_filter_filterMap (pageFailure?_cases net s query) _

/-! ## Packages without link -/

/-- The failure that left a package without link, by the element that the package belongs to. -/
inductive IsFailureOf (net : Network) (mode : Link.MatchMode) :
    Json.Value × Package → Failure → Prop
  /-- The element has no address. -/
  | missing {v p} :
    (∀ address, v.member? "url" ≠ some (.text address)) →
    IsFailureOf net mode (v, p) ⟨.detail, p.title, FetchError.missingUrl.message⟩
  /-- The page at its address could not be read. -/
  | detail {v p address e} :
    v.member? "url" = some (.text address) → Fails (net (.detail address)) e →
    IsFailureOf net mode (v, p) ⟨.detail, address, e.message⟩
  /-- The page at its address has no link. -/
  | extraction {v p address text} :
    v.member? "url" = some (.text address) → Succeeds (net (.detail address)) text →
    Link.extract mode text = none →
    IsFailureOf net mode (v, p) ⟨.extraction, address, FetchError.linkNotFound.message⟩

/-- Something is amiss exactly with the packages without link. -/
lemma Resolves.failure_cases {net mode v r} (rs : Resolves net mode (.ofValue v) r) :
    (r.package.url.isNone = false ∧ r.failure = none) ∨
      (r.package.url.isNone = true ∧
        ∃ f, r.failure = some f ∧ IsFailureOf net mode (v, r.package) f) := by
  cases rs with
  | missing hu =>
    refine .inr ⟨rfl, _, rfl, IsFailureOf.missing fun address h => ?_⟩
    cases hu.symm.trans (textMember_iff.2 h)
  | detail hu hf => exact .inr ⟨rfl, _, rfl, .detail (textMember_iff.1 hu) hf⟩
  | extraction hu hs hx => exact .inr ⟨rfl, _, rfl, .extraction (textMember_iff.1 hu) hs hx⟩
  | linked hu hs hx => exact .inl ⟨rfl, rfl⟩

/-- The failures of resolutions, each beside the element that it is of. -/
def attributedFailures (net : Network) (mode : Link.MatchMode) (vs : List Json.Value) :
    List (Json.Value × Failure) :=
  vs.filterMap fun v => (resolution net mode v).failure.map (v, ·)

/-- They belong to the packages without link. -/
lemma forall₂_attributedFailures (net : Network) (mode : Link.MatchMode) (vs : List Json.Value) :
    List.Forall₂ (fun vp d => d.1 = vp.1 ∧ IsFailureOf net mode vp d.2)
      ((vs.zip (vs.map fun v => (resolution net mode v).package)).filter (·.2.url.isNone))
      (attributedFailures net mode vs) := by
  -- each element next to its own package
  have pairs : vs.zip (vs.map fun v => (resolution net mode v).package)
      = vs.map fun v => (v, (resolution net mode v).package) := List.map_prod_left_eq_zip.symm
  rw [pairs, List.filter_map, List.forall₂_map_left_iff]
  apply forall₂_filter_filterMap
  intro v
  rcases (resolves_resolve net mode (.ofValue v)).failure_cases with ⟨hp, hf⟩ | ⟨hp, f, hf, of⟩
  · exact .inl ⟨hp, by rw [resolution, hf]; rfl⟩
  · exact .inr ⟨hp, (v, f), by rw [resolution, hf]; rfl, rfl, of⟩

/-- Without the elements they are the failures of the resolutions. -/
lemma map_snd_attributedFailures (net : Network) (mode : Link.MatchMode) (vs : List Json.Value) :
    (attributedFailures net mode vs).map (·.2)
      = vs.filterMap fun v => (resolution net mode v).failure := by
  rw [attributedFailures, List.map_filterMap]
  simp only [Option.map_map, Function.comp_def, Option.map_id']

/-- The failures of resolutions are those of the packages without link. -/
lemma failures_resolution (net : Network) (mode : Link.MatchMode) (vs : List Json.Value) :
    List.Forall₂ (IsFailureOf net mode)
      ((vs.zip (vs.map fun v => (resolution net mode v).package)).filter (·.2.url.isNone))
      (vs.filterMap fun v => (resolution net mode v).failure) := by
  rw [← map_snd_attributedFailures, List.forall₂_map_right_iff]
  exact (forall₂_attributedFailures net mode vs).imp fun _ _ h => h.2

/-- The failures of a report are those of its search, and then those of its resolutions. -/
lemma failures_run (s : Settings) (query : String) (net : Network) :
    ((run s query).result net).failures
      = ((collect s.search.endpoint (.ofSettings query s.search)).result net).failures
        ++ (elements net s query).filterMap
          fun v => (resolution net s.extraction.matchMode v).failure := by
  rw [result_run]
  simp only [Report.ofResolutions, items_search, List.map_map, List.filterMap_map]
  rfl

/-! ## Accounting -/

/-- A search fails in the search. -/
lemma IsPageFailure.stage_eq {net s query k f} (h : IsPageFailure net s query k f) :
    f.stage = .search := by
  cases h
  rfl

/-- A package is left without link after the search. -/
lemma IsFailureOf.stage_ne {net mode vp f} (h : IsFailureOf net mode vp f) :
    f.stage ≠ .search := by
  cases h <;> exact nofun

/-- As many pairs lack a link as packages. -/
lemma length_filter_zip {vs : List Json.Value} {ps : List Package} (h : ps.length = vs.length) :
    ((vs.zip ps).filter (·.2.url.isNone)).length = ps.countP (·.url.isNone) := by
  have e : (vs.zip ps).map (·.2) = ps := List.map_snd_zip (Nat.le_of_eq h)
  calc
    ((vs.zip ps).filter (·.2.url.isNone)).length
      = (vs.zip ps).countP (·.2.url.isNone) := List.countP_eq_length_filter.symm
    _ = ((vs.zip ps).map (·.2)).countP (·.url.isNone) := by rw [List.countP_map]; rfl
    _ = ps.countP (·.url.isNone) := by rw [e]

/-- As many failures are of the search as there are failures of pages. -/
lemma countP_search {net s query mode ks ps S D}
    (hS : List.Forall₂ (IsPageFailure net s query) ks S)
    (hD : List.Forall₂ (IsFailureOf net mode) ps D) :
    (S ++ D).countP (·.stage = .search) = S.length := by
  have stageS := forall_mem_of_forall₂ (fun _ _ h => IsPageFailure.stage_eq h) hS
  have stageD := forall_mem_of_forall₂ (fun _ _ h => IsFailureOf.stage_ne h) hD
  rw [List.countP_append, List.countP_eq_length.2, List.countP_eq_zero.2, Nat.add_zero]
  · intro f hf
    simp [stageD f hf]
  · intro f hf
    exact decide_eq_true (stageS f hf)

/-- As many come after the search as there are packages without link. -/
lemma countP_stage {net s query mode ks ps S D}
    (hS : List.Forall₂ (IsPageFailure net s query) ks S)
    (hD : List.Forall₂ (IsFailureOf net mode) ps D) :
    (S ++ D).countP (·.stage ≠ .search) = ps.length := by
  have all := List.length_eq_countP_add_countP (fun f : Failure => f.stage = .search) (l := S ++ D)
  simp only [decide_eq_true_eq] at all
  rw [countP_search hS hD, List.length_append, ← hD.length_eq] at all
  exact (Nat.add_left_cancel all).symm

/-- Every package has a link or lacks one. -/
lemma Report.resolved_add (r : Report) :
    r.resolved + r.packages.countP (·.url.isNone) = r.packages.length := by
  have e : (fun p : Package => p.url.isNone) = fun p => decide ¬ p.url.isSome := by
    funext p
    cases p.url <;> rfl
  rw [List.length_eq_countP_add_countP (·.url.isSome), Report.resolved, e]

/-- A relation that pairs nothing with a list pairs it with nothing. -/
lemma eq_nil_iff_of_forall₂ {α β : Type} {R : α → β → Prop} {l : List α} {l' : List β}
    (h : List.Forall₂ R l l') : l' = [] ↔ l = [] := by
  cases h <;> simp

/-- All pages were read exactly when none failed. -/
lemma failedPages_eq_nil_iff {net s query} :
    failedPages net s query = []
      ↔ ∀ k < s.search.pages, (elements? (net (pageCall s query k))).isSome := by
  simp [failedPages, Option.isSome_iff_ne_none]

/-- All packages have a link exactly when none is left without. -/
lemma filter_zip_eq_nil_iff {vs : List Json.Value} {ps : List Package}
    (h : ps.length = vs.length) :
    (vs.zip ps).filter (·.2.url.isNone) = [] ↔ ∀ p ∈ ps, p.url.isSome := by
  rw [← List.length_eq_zero_iff, length_filter_zip h, List.countP_eq_zero]
  simp [Option.isSome_iff_ne_none]

/-- A run leads to exactly one report, and its failures are those of the search followed by those of
the packages. There is one for each page that could not be read, in the order of the pages, and one
for each package without link, in the order of the packages. So every package has a link or a
failure, and the report is complete exactly when every page was read and every package has a
link. -/
theorem failures_of_run (net : Network) (s : Settings) (query : String) :
    ∃ report failed S D, (∀ r, (∃ trace, Run net s query r trace) ↔ r = report) ∧
      report.failures = S ++ D ∧
      (failed.Pairwise (· < ·) ∧
        (∀ k, k ∈ failed ↔ k < s.search.pages ∧ ∃ e, PageFails (net (pageCall s query k)) e) ∧
        List.Forall₂ (IsPageFailure net s query) failed S) ∧
      List.Forall₂ (IsFailureOf net s.extraction.matchMode)
        (((elements net s query).zip report.packages).filter (·.2.url.isNone)) D ∧
      report.resolved + report.failures.countP (·.stage ≠ .search) = report.count ∧
      (report.isPartial = false ↔
        (∀ k < s.search.pages, (elements? (net (pageCall s query k))).isSome) ∧
          ∀ p ∈ report.packages, p.url.isSome) := by
  obtain ⟨count, packages⟩ := packages_run s query net
  have hS := failures_search s query net
  have hD := failures_resolution net s.extraction.matchMode (elements net s query)
  have failures := failures_run s query net
  have length : ((run s query).result net).packages.length = (elements net s query).length := by
    rw [packages, List.length_map]
  rw [← packages] at hD
  refine ⟨_, failedPages net s query, _, _, fun r => exists_run_iff, failures,
    ⟨List.pairwise_lt_range.filter _, fun k => mem_failedPages, hS⟩, hD, ?_, ?_⟩
  · rw [failures, countP_stage hS hD, length_filter_zip length, Report.resolved_add, length, count]
  · rw [Report.isPartial, Bool.not_eq_false', List.isEmpty_iff, failures, List.append_eq_nil_iff,
      eq_nil_iff_of_forall₂ hS, eq_nil_iff_of_forall₂ hD, failedPages_eq_nil_iff,
      filter_zip_eq_nil_iff length]

end PackageFinder
