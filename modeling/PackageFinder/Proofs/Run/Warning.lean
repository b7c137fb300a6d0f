import PackageFinder.Proofs.Run.Failure

/-!
# The warnings of a run

A run warns of every failure that it reports, once, and of nothing else: `Warns` says which warning
belongs to which failure. The detail pages may be answered in any order, so the warnings stand in
the log in any order. `Window.Step.entries_perm` shows that each moment of the window moves the notes
of one item at most from those that are due into the trace, and `Window.Reachable.entries_perm` that
in this way none is lost. `Run.warnings_of_failures` is the main statement; it also says what the run
tells everyone.
-/

namespace PackageFinder
open PackageFinder.Http

variable {net : Network} {s : Settings} {query : String} {mode : Link.MatchMode}

/-! ## Entries of a trace -/

/-- The entries of a level in a trace, in order. -/
def entriesAt (level : Log.Level) (trace : List Event) : List Log.Entry :=
  (trace.filterMap (·.logged?)).filter (·.level = level)

/-- The entries of a longer trace. -/
@[simp] lemma entriesAt_append (level : Log.Level) (trace more : List Event) :
    entriesAt level (trace ++ more) = entriesAt level trace ++ entriesAt level more := by
  simp only [entriesAt, List.filterMap_append, List.filter_append]

/-- A call is no entry. -/
@[simp] lemma entriesAt_call (level : Log.Level) (c : Call) (trace : List Event) :
    entriesAt level (.call c :: trace) = entriesAt level trace := rfl

/-- Entries are traced as they are. -/
@[simp] lemma entriesAt_map_log (level : Log.Level) (es : List Log.Entry) :
    entriesAt level (es.map .log) = es.filter (·.level = level) := by
  rw [entriesAt, Event.filterMap_logged?_map_log]

/-- One entry counts if it has the level. -/
@[simp] lemma entriesAt_log (level : Log.Level) (e : Log.Entry) (trace : List Event) :
    entriesAt level (.log e :: trace)
      = (if e.level = level then [e] else []) ++ entriesAt level trace := by
  rw [entriesAt, List.filterMap_cons_some (Event.logged?_log e), List.filter_cons]
  split <;> simp_all [entriesAt]

/-- Nothing done is nothing told. -/
@[simp] lemma entriesAt_nil (level : Log.Level) : entriesAt level [] = [] := rfl

/-- What is told on the way of several traces is told by one of them. -/
lemma entriesAt_flatten (level : Log.Level) (traces : List (List Event)) :
    entriesAt level traces.flatten = traces.flatMap (entriesAt level) := by
  induction traces with
  | nil => rfl
  | cons trace traces ih => rw [List.flatten_cons, entriesAt_append, ih, List.flatMap_cons]

/-- Answers are noted for those who look for a fault. -/
lemma level_of_answerNotes {a : Answer} {e : Log.Entry} (h : e ∈ answerNotes a) :
    e.level = .debug := by
  cases a with
  | error _ => cases h
  | ok r =>
    cases List.mem_singleton.1 h
    rfl

/-- For everyone else an answer is not noted. -/
lemma filter_answerNotes {level : Log.Level} (h : level ≠ .debug) (a : Answer) :
    (answerNotes a).filter (·.level = level) = [] := by
  rw [List.filter_eq_nil_iff]
  intro e he
  rw [level_of_answerNotes he, decide_eq_true_eq]
  exact h.symm

/-! ## Warnings -/

/-- The warning of a failure. -/
inductive Warns (net : Network) (s : Settings) (query : String) : Failure → Log.Entry → Prop
  /-- A page of the index could not be read. -/
  | page {k e} :
    PageFails (net (pageCall s query k)) e →
    Warns net s query ⟨.search, "offset " ++ toString k, e.message⟩ (.pageFailed k e)
  /-- An item has no address. -/
  | missing {title} :
    Warns net s query ⟨.detail, title, FetchError.missingUrl.message⟩ (.urlMissing title)
  /-- The page of an item could not be read. -/
  | detail {address e} :
    Fails (net (.detail address)) e →
    Warns net s query ⟨.detail, address, e.message⟩ (.detailFailed address e)
  /-- The page of an item has no link. -/
  | extraction {address text} :
    Succeeds (net (.detail address)) text → Link.extract s.extraction.matchMode text = none →
    Warns net s query ⟨.extraction, address, FetchError.linkNotFound.message⟩
      (.linkMissing address .linkNotFound)

/-- What a round of a page tells of a level above that of the answers. -/
lemma entriesAt_fetchPage {level : Log.Level} (h : level ≠ .debug) (net : Network) (s : Settings)
    (query : String) (k : Nat) :
    entriesAt level ((fetchPage s.search.endpoint (.ofSettings query s.search) k).trace net)
      = [(Page.ofBody k (bodyOf (net (pageCall s query k)))).entry k].filter
          (·.level = level) := by
  rw [trace_fetchPage, result_fetchPage, List.cons_append, entriesAt_call, entriesAt_append,
    entriesAt_map_log, filter_answerNotes h, List.nil_append]
  exact entriesAt_map_log level [_]

/-- A page that could not be read is warned of, and no other. -/
lemma warns_fetchPage (net : Network) (s : Settings) (query : String) (k : Nat) :
    List.Forall₂ (Warns net s query) (pageFailure? net s query k).toList
      (entriesAt .warn
        ((fetchPage s.search.endpoint (.ofSettings query s.search) k).trace net)) := by
  rw [entriesAt_fetchPage (by decide), pageFailure?]
  rcases page_cases k (net (pageCall s query k)) with ⟨vs, _, hp⟩ | ⟨e, _, hf, hp⟩
  · rw [hp]
    exact .nil
  · rw [hp]
    exact .cons (.page hf) .nil

/-- What a search tells of a level above that of the answers: what its rounds tell, between its
beginning and its end. -/
lemma entriesAt_search (level : Log.Level) (net : Network) (s : Settings) (query : String) :
    entriesAt level ((collect s.search.endpoint (.ofSettings query s.search)).trace net)
      = entriesAt level [.log (.searching query s.search.pages s.search.endpoint)]
        ++ (List.range s.search.pages).flatMap (fun k => entriesAt level
          ((fetchPage s.search.endpoint (.ofSettings query s.search) k).trace net))
        ++ entriesAt level [.log (.found (elements net s query).length
          ((collect s.search.endpoint (.ofSettings query s.search)).result net).failures.length)] := by
  rw [trace_collect, items_search, List.length_map, ← List.singleton_append, List.append_assoc,
    entriesAt_append, entriesAt_append, entriesAt_flatten, List.flatMap_map, List.append_assoc]
  rfl

/-- The warnings of a search are those of its failures, in their order. -/
lemma warns_search (net : Network) (s : Settings) (query : String) :
    List.Forall₂ (Warns net s query)
      ((collect s.search.endpoint (.ofSettings query s.search)).result net).failures
      (entriesAt .warn ((collect s.search.endpoint (.ofSettings query s.search)).trace net)) := by
  rw [failures_collect, List.filterMap_eq_flatMap_toList, entriesAt_search]
  simp only [entriesAt_log, Log.Entry.level, reduceCtorEq, if_false, entriesAt_nil,
    List.append_nil, List.nil_append]
  apply List.rel_flatMap (List.forall₂_same.2 fun _ _ => rfl)
  rintro k _ rfl
  exact warns_fetchPage net s query k

/-- A page is no news for everyone. -/
lemma info_fetchPage (net : Network) (s : Settings) (query : String) (k : Nat) :
    entriesAt .info ((fetchPage s.search.endpoint (.ofSettings query s.search) k).trace net)
      = [] := by
  rw [entriesAt_fetchPage (by decide)]
  cases Page.ofBody k (bodyOf (net (pageCall s query k))) <;> rfl

/-- A search tells everyone of its beginning, and at its end what it has found. -/
lemma info_search (net : Network) (s : Settings) (query : String) :
    entriesAt .info ((collect s.search.endpoint (.ofSettings query s.search)).trace net)
      = [.searching query s.search.pages s.search.endpoint,
          .found (elements net s query).length
            ((collect s.search.endpoint (.ofSettings query s.search)).result net).failures.length]
    := by
  have rounds := List.flatMap_eq_nil_iff.2 fun k (_ : k ∈ List.range s.search.pages) =>
    info_fetchPage net s query k
  rw [entriesAt_search, rounds]
  rfl

/-! ## Items -/

/-- What is noted about an item. -/
def itemNotes (net : Network) (mode : Link.MatchMode) (item : Item) : List Log.Entry :=
  (resolve mode item).entries net

/-- An item without address is noted as such. -/
lemma itemNotes_of_none {item : Item} (h : item.url = none) :
    itemNotes net mode item = [.urlMissing item.displayTitle] := by
  unfold itemNotes resolve
  rw [h]
  rfl

/-- Of an item with an address its answer is noted, and then what was found. -/
lemma itemNotes_of_some {item : Item} {url : String} (h : item.url = some url) :
    itemNotes net mode item
      = answerNotes (net (.detail url))
        ++ [(Finding.ofBody mode (bodyOf (net (.detail url)))).entry url] := by
  unfold itemNotes resolve
  rw [h, Session.entries]
  have notes := Event.filterMap_logged?_map_log (answerNotes (net (.detail url)))
  simp [List.filterMap_cons, notes]

/-- What is found at an address is noted with the failure that it makes, if any. -/
lemma warns_finding (net : Network) (s : Settings) (query title url : String) :
    List.Forall₂ (Warns net s query)
      (Resolution.ofFinding title url
        (.ofBody s.extraction.matchMode (bodyOf (net (.detail url))))).failure.toList
      ([(Finding.ofBody s.extraction.matchMode (bodyOf (net (.detail url)))).entry url].filter
        (·.level = .warn)) := by
  rcases bodyOf_cases (net (.detail url)) with ⟨text, hs, hb⟩ | ⟨e, hf, hb⟩
  · rw [hb, Finding.ofBody]
    cases hx : Link.extract s.extraction.matchMode text with
    | none => exact .cons (.extraction hs hx) .nil
    | some link => exact .nil
  · rw [hb]
    exact .cons (.detail hf) .nil

/-- An item without link is warned of, and no other. -/
lemma warns_resolve (net : Network) (s : Settings) (query : String) (item : Item) :
    List.Forall₂ (Warns net s query)
      ((resolve s.extraction.matchMode item).result net).failure.toList
      ((itemNotes net s.extraction.matchMode item).filter (·.level = .warn)) := by
  cases h : item.url with
  | none =>
    rw [itemNotes_of_none h, resolve, h]
    exact .cons .missing .nil
  | some url =>
    rw [itemNotes_of_some h, List.filter_append, filter_answerNotes (by decide), List.nil_append,
      resolve, h]
    simp only [Session.result_bind, result_fetchBody, Session.result_pure]
    exact warns_finding net s query item.displayTitle url

/-- An item is no news for everyone. -/
lemma info_itemNotes (net : Network) (mode : Link.MatchMode) (item : Item) :
    (itemNotes net mode item).filter (·.level = .info) = [] := by
  cases h : item.url with
  | none =>
    rw [itemNotes_of_none h]
    rfl
  | some url =>
    rw [itemNotes_of_some h, List.filter_append, filter_answerNotes (by decide), List.nil_append]
    rcases Finding.ofBody mode (bodyOf (net (.detail url))) with ⟨stage, e⟩ | link
    · cases stage <;> rfl
    · rfl

/-! ## The window -/

namespace Window
variable {width : Nat} {items : List Item} {w v : Window}

/-- The items that are not finished, in order. -/
def unfinished (w : Window) : List Item :=
  (w.inside.filter (·.2.isNone)).map (·.1) ++ w.waiting

/-- The entries that have been written for the items, in order. -/
def entries (w : Window) : List Log.Entry := w.trace.filterMap (·.logged?)

/-- A moment writes the notes of the item that it finishes, and nothing else. -/
lemma Step.entries_perm (st : Step net mode width w v) :
    (v.entries ++ v.unfinished.flatMap (itemNotes net mode)).Perm
      (w.entries ++ w.unfinished.flatMap (itemNotes net mode)) := by
  cases st with
  | @enter item waiting inside done trace room =>
    have written := Event.filterMap_logged?_map_call ((resolve mode item).calls net)
    simp [entries, unfinished, List.filterMap_append, -List.filterMap_map, written]
  | @finish item waiting before after done trace =>
    have written : ((itemNotes net mode item).map Event.log).filterMap (·.logged?) = _ :=
      Event.filterMap_logged?_map_log _
    let first := (before.filter (·.2.isNone)).map (·.1)
    let rest := (after.filter (·.2.isNone)).map (·.1) ++ waiting
    have due : (Window.mk waiting (before ++ (item, none) :: after) done trace).unfinished
        = first ++ item :: rest := by
      simp [unfinished, first, rest]
    have left (r : Resolution) (trace : List Event) :
        (Window.mk waiting (before ++ (item, some r) :: after) done trace).unfinished
          = first ++ rest := by
      simp [unfinished, first, rest]
    -- its notes are written now, although those of the items before it may still be due
    have moved : (item :: (first ++ rest)).Perm (first ++ item :: rest) := List.perm_middle.symm
    rw [due, left, entries, List.filterMap_append, ← itemNotes, written, List.append_assoc]
    exact (moved.flatMap_right (itemNotes net mode)).append_left _
  | @leave item r waiting inside done trace =>
    exact .refl _

/-- What has been written and what is still due are the notes of all items. -/
lemma Reachable.entries_perm (rc : Reachable net mode width items w) :
    (w.entries ++ w.unfinished.flatMap (itemNotes net mode)).Perm
      (items.flatMap (itemNotes net mode)) := by
  induction rc with
  | initial => exact .refl _
  | step _ st ih => exact st.entries_perm.trans ih

/-- When all items have left, the notes of each have been written, at every level. -/
lemma Reachable.entriesAt_perm (rc : Reachable net mode width items w) (ended : w.IsOver)
    (level : Log.Level) :
    (entriesAt level w.trace).Perm
      ((items.flatMap (itemNotes net mode)).filter (·.level = level)) := by
  have written := rc.entries_perm
  rw [unfinished, ended.1, ended.2] at written
  simp only [List.filter_nil, List.map_nil, List.flatMap_nil, List.append_nil] at written
  exact written.filter _

end Window

/-! ## Runs -/

/-- The warnings of the items are those of the failures of their resolutions, in their order. -/
lemma warns_items (net : Network) (s : Settings) (query : String) (items : List Item) :
    List.Forall₂ (Warns net s query)
      (items.filterMap fun item => ((resolve s.extraction.matchMode item).result net).failure)
      ((items.flatMap (itemNotes net s.extraction.matchMode)).filter (·.level = .warn)) := by
  rw [List.filterMap_eq_flatMap_toList, List.filter_flatMap]
  apply List.rel_flatMap (List.forall₂_same.2 fun _ _ => rfl)
  rintro item _ rfl
  exact warns_resolve net s query item

/-- Items are no news for everyone. -/
lemma info_items (net : Network) (mode : Link.MatchMode) (items : List Item) :
    (items.flatMap (itemNotes net mode)).filter (·.level = .info) = [] := by
  rw [List.filter_flatMap]
  exact List.flatMap_eq_nil_iff.2 fun item _ => info_itemNotes net mode item

/-- What is noted about a report: for everyone how many packages have a link, and a warning if some
step failed. -/
lemma entriesAt_noteReport (query : String) (r : Report) (net : Network) :
    entriesAt .warn ((noteReport query r).trace net)
        = (if r.failures = [] then [] else [.incomplete r.failures.length]) ∧
      entriesAt .info ((noteReport query r).trace net) = [.finished r.resolved r.count query] := by
  unfold noteReport Report.isPartial
  cases h : r.failures <;> exact ⟨rfl, rfl⟩

end PackageFinder
