import PackageFinder.Http.Client
import PackageFinder.Proofs.Run.Report

/-!
# The calls of a run

What a run asks the network for is fixed by the data. A round asks for one page and ends with a note
of what came of it (`IsRound`); a run makes one round for each page, in order, then notes the end of
its search, and only then asks for the detail pages, one for each element with an address. This is
`Run.calls_in_order`, for every order in which the detail pages are answered; it also says what the
requests for these calls carry.
-/

namespace PackageFinder
open PackageFinder.Http

variable {net : Network} {s : Settings} {query : String}

/-! ## Rounds -/

/-- What a run does for a page: it asks for it, and once there is an answer it notes what came of
it. -/
inductive IsRound (net : Network) (s : Settings) (query : String) (k : Nat) : List Event → Prop
  /-- The page has been read. -/
  | read {vs} (notes : List Log.Entry) :
    elements? (net (pageCall s query k)) = some vs →
    IsRound net s query k
      (.call (pageCall s query k) :: notes.map .log ++ [.log (.pageRead k vs.length)])
  /-- The page could not be read. -/
  | failed {e} (notes : List Log.Entry) :
    PageFails (net (pageCall s query k)) e →
    IsRound net s query k
      (.call (pageCall s query k) :: notes.map .log ++ [.log (.pageFailed k e)])

/-- A round makes one call. -/
lemma IsRound.calls {k events} (h : IsRound net s query k events) :
    events.filterMap (·.call?) = [pageCall s query k] := by
  cases h with
  | read notes _ | failed notes _ =>
    simp

/-- Rounds make one call each. -/
lemma calls_rounds {ks rounds} (h : List.Forall₂ (IsRound net s query) ks rounds) :
    rounds.flatten.filterMap (·.call?) = ks.map (pageCall s query) := by
  induction h with
  | nil => rfl
  | cons round _ ih =>
    rw [List.flatten_cons, List.filterMap_append, round.calls, ih]
    rfl

/-- A page is asked for in a round. -/
lemma isRound_fetchPage (net : Network) (s : Settings) (query : String) (k : Nat) :
    IsRound net s query k
      ((fetchPage s.search.endpoint (.ofSettings query s.search) k).trace net) := by
  rw [trace_fetchPage, result_fetchPage]
  change IsRound net s query k
    (.call (pageCall s query k) :: (answerNotes (net (pageCall s query k))).map .log
      ++ [.log ((Page.ofBody k (bodyOf (net (pageCall s query k)))).entry k)])
  rcases page_cases k (net (pageCall s query k)) with ⟨vs, hv, hp⟩ | ⟨e, _, hf, hp⟩
  · rw [hp, Page.entry, List.length_map]
    exact .read _ hv
  · rw [hp]
    exact .failed _ hf

/-- A search makes its rounds between the note of its beginning and that of its end. -/
lemma exists_rounds (net : Network) (s : Settings) (query : String) :
    ∃ rounds found failed,
      (collect s.search.endpoint (.ofSettings query s.search)).trace net
        = .log (.searching query s.search.pages s.search.endpoint) :: rounds.flatten
          ++ [.log (.found found failed)] ∧
      List.Forall₂ (IsRound net s query) (List.range s.search.pages) rounds := by
  refine ⟨_, _, _, trace_collect _ _ net, ?_⟩
  apply List.forall₂_map_right_iff.2
  exact List.forall₂_same.2 fun k _ => isRound_fetchPage net s query k

/-- The calls of a search are those for its pages. -/
lemma calls_search (net : Network) (s : Settings) (query : String) :
    (collect s.search.endpoint (.ofSettings query s.search)).calls net
      = (List.range s.search.pages).map (pageCall s query) := by
  obtain ⟨rounds, found, failed, search, made⟩ := exists_rounds net s query
  rw [Session.calls, search, List.filterMap_append, List.filterMap_cons_none rfl,
    List.filterMap_cons_none rfl, List.filterMap_nil, List.append_nil, calls_rounds made]

/-! ## Detail pages -/

/-- When all items have left the window, one call has been made for each that has an address. -/
lemma Window.Reachable.calls_eq {mode width items} {w : Window}
    (rc : Window.Reachable net mode width items w) (ended : w.IsOver) :
    w.calls = items.filterMap (·.call?) := by
  obtain ⟨gone, sp⟩ := rc.splits
  have e := sp.items_eq
  rw [ended.1, List.append_nil] at e
  rw [sp.calls_eq, e]

/-- So one call has been made for each element that has an address. -/
lemma Window.Reachable.calls_elements {mode width} {w : Window}
    (rc : Window.Reachable net mode width
      ((collect s.search.endpoint (.ofSettings query s.search)).result net).items w)
    (ended : w.IsOver) :
    w.calls = ((elements net s query).filterMap address?).map .detail := by
  rw [rc.calls_eq ended, items_search, List.filterMap_map, List.map_filterMap]
  apply List.filterMap_congr
  intro v _
  rw [Function.comp_apply, Item.call?, url_ofValue]

/-- A run asks for its pages, and then for the detail pages of their elements. -/
lemma Run.calls_eq {report trace} (r : Run net s query report trace) :
    trace.filterMap (·.call?)
      = (List.range s.search.pages).map (pageCall s query)
        ++ ((elements net s query).filterMap address?).map .detail := by
  cases r with
  | @of search w report hs rc ended _ =>
    subst hs
    have pages : ((collect s.search.endpoint (.ofSettings query s.search)).trace net).filterMap
        (·.call?) = _ := calls_search net s query
    have details : w.trace.filterMap (·.call?) = _ := rc.calls_elements ended
    have silent : ((noteReport query report).trace net).filterMap (·.call?) = [] :=
      calls_noteReport query report net
    rw [List.filterMap_append, List.filterMap_append, pages, details, silent, List.append_nil]

/-! ## Requests -/

/-- A request carries what its call asks for, and the name of its client. -/
lemma request_carries {client : Client} {c : Call} {request : Request}
    (h : client.request c = .ok request) :
    request.accept = c.accept ∧ request.userAgent = client.userAgent := by
  unfold Client.request at h
  split at h
  case h_1 => cases h
  case h_2 u _ =>
    dsimp only at h
    -- where the request goes does not matter
    generalize (if c.params.isEmpty then u.withoutUser else u.withoutUser.addPairs c.params)
      = target at h
    split_ifs at h
    cases h
    exact ⟨rfl, rfl⟩

/-- A client has the name that is set, or the default one. -/
lemma userAgent_of_settings {settings : OutgoingSettings} {client : Client}
    (h : Client.ofSettings settings = .ok client) :
    client.userAgent = settings.userAgent.getD Client.defaultUserAgent := by
  unfold Client.ofSettings at h
  split at h
  · cases h
  · split at h <;> cases h
    rfl

/-! ## Runs -/

/-- Whatever the answers are, and in whatever order the detail pages are answered: a run asks for
the pages of its query one after the other, each in a round of its own, that is, not before it is
known what came of the one before; after the end of the search it asks for the page of each element
that has an address, in their order; and it asks for nothing else. Requests for pages of the index
prefer JSON, those for detail pages HTML, and all of them carry the name that is set or the default
one. -/
theorem Run.calls_in_order {report trace} (r : Run net s query report trace) :
    ∃ rounds found failed details,
      trace = .log (.searching query s.search.pages s.search.endpoint) :: rounds.flatten
        ++ .log (.found found failed) :: details ∧
      List.Forall₂ (IsRound net s query) (List.range s.search.pages) rounds ∧
      details.filterMap (·.call?) = ((elements net s query).filterMap address?).map .detail ∧
      trace.filterMap (·.call?)
        = (List.range s.search.pages).map (pageCall s query)
          ++ ((elements net s query).filterMap address?).map .detail ∧
      ∀ client, Client.ofSettings s.outgoing = .ok client →
        (∀ k request, client.request (pageCall s query k) = .ok request →
          request.accept = "application/json,text/javascript,*/*;q=0.01" ∧
          request.userAgent = s.outgoing.userAgent.getD Client.defaultUserAgent) ∧
        ∀ url request, client.request (.detail url) = .ok request →
          request.accept = "text/html,application/xhtml+xml,application/xml;q=0.9,*/*;q=0.8" ∧
          request.userAgent = s.outgoing.userAgent.getD Client.defaultUserAgent := by
  have calls := r.calls_eq
  cases r with
  | @of search w report hs rc ended hr =>
    subst hs
    obtain ⟨rounds, found, failed, search, made⟩ := exists_rounds net s query
    have silent : ((noteReport query report).trace net).filterMap (·.call?) = [] :=
      calls_noteReport query report net
    have asked : w.trace.filterMap (·.call?)
        = ((elements net s query).filterMap address?).map .detail := rc.calls_elements ended
    have details : (w.trace ++ (noteReport query report).trace net).filterMap (·.call?)
        = ((elements net s query).filterMap address?).map .detail := by
      rw [List.filterMap_append, asked, silent, List.append_nil]
    refine ⟨rounds, found, failed, _, ?_, made, details, calls, ?_⟩
    · rw [search]
      simp only [List.append_assoc, List.cons_append, List.nil_append]
    · intro client hc
      have name := userAgent_of_settings hc
      refine ⟨fun k request h => ?_, fun url request h => ?_⟩
      · obtain ⟨accept, same⟩ := request_carries h
        exact ⟨accept, same.trans name⟩
      · obtain ⟨accept, same⟩ := request_carries h
        exact ⟨accept, same.trans name⟩

/-- The second of three items is finished before the first, and the third has to wait for its place
in the window: there are as many calls as addresses, and all come after those for the pages. -/
theorem Run.calls_in_order_twins :
    ∃ report trace,
      Run (listed twinPages []) ⟨{ pages := 2 }, { detailConcurrency := 2 }, {}⟩ "x" report trace ∧
      trace.filterMap (·.call?)
        = [pageCall ⟨{ pages := 2 }, {}, {}⟩ "x" 0, pageCall ⟨{ pages := 2 }, {}, {}⟩ "x" 1,
          .detail "u", .detail "u"] := by
  have items : ((collect ({} : SearchSettings).endpoint
      (.ofSettings "x" { pages := 2 })).result (listed twinPages [])).items
      = [⟨none, some "u"⟩, ⟨none, none⟩, ⟨none, some "u"⟩] := by
    decide +kernel
  have asked : (elements (listed twinPages []) ⟨{ pages := 2 }, { detailConcurrency := 2 }, {}⟩
      "x").filterMap address? = ["u", "u"] := by
    decide +kernel
  have entered : Window.Reachable (listed twinPages []) .greedy 2
      [⟨none, some "u"⟩, ⟨none, none⟩, ⟨none, some "u"⟩]
      ⟨[⟨none, some "u"⟩], [(⟨none, some "u"⟩, none), (⟨none, none⟩, none)], [], _⟩ :=
    .step (.step .initial (.enter (by decide))) (.enter (by decide))
  have second := entered.step
    (@Window.Step.finish _ _ _ ⟨none, none⟩ _ [(⟨none, some "u"⟩, none)] [] [] _)
  have first := (second.step (@Window.Step.finish _ _ _ ⟨none, some "u"⟩ _ [] _ _ _)).step .leave
  have third := (first.step .leave).step (.enter (by decide))
  have ended := (third.step (@Window.Step.finish _ _ _ ⟨none, some "u"⟩ _ [] _ _ _)).step .leave
  rw [← items] at ended
  have r : Run (listed twinPages []) ⟨{ pages := 2 }, { detailConcurrency := 2 }, {}⟩ "x" _ _ :=
    .of rfl ended ⟨rfl, rfl⟩ rfl
  obtain ⟨_, _, _, _, _, _, _, calls, _⟩ := r.calls_in_order
  rw [asked] at calls
  exact ⟨_, _, r, calls⟩

end PackageFinder
