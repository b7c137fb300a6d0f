import Mathlib.Tactic.Lemma
import PackageFinder.Run.Window

/-!
# What sessions give and ask for

One lemma for each session of a run and each thing that is told of it: its result, as a function of
the network, the calls that it makes, and its trace. Later modules reason about runs through these
lemmas and do not open a session again.
-/

namespace PackageFinder
open PackageFinder.Http

namespace Event

@[simp] lemma call?_call (c : Call) : (Event.call c).call? = some c := rfl

@[simp] lemma call?_log (e : Log.Entry) : (Event.log e).call? = none := rfl

@[simp] lemma logged?_call (c : Call) : (Event.call c).logged? = none := rfl

@[simp] lemma logged?_log (e : Log.Entry) : (Event.log e).logged? = some e := rfl

/-- Calls that are traced are calls. -/
lemma filterMap_call?_map_call (cs : List Call) :
    (cs.map Event.call).filterMap (·.call?) = cs := by
  rw [List.filterMap_map]
  exact List.filterMap_some

/-- Entries that are traced are no calls. -/
lemma filterMap_call?_map_log (es : List Log.Entry) :
    (es.map Event.log).filterMap (·.call?) = [] := by
  rw [List.filterMap_map, List.filterMap_eq_nil_iff]
  exact fun _ _ => rfl

/-- Calls that are traced are no entries. -/
lemma filterMap_logged?_map_call (cs : List Call) :
    (cs.map Event.call).filterMap (·.logged?) = [] := by
  rw [List.filterMap_map, List.filterMap_eq_nil_iff]
  exact fun _ _ => rfl

/-- Entries that are traced are entries. -/
lemma filterMap_logged?_map_log (es : List Log.Entry) :
    (es.map Event.log).filterMap (·.logged?) = es := by
  rw [List.filterMap_map]
  exact List.filterMap_some

end Event

namespace Session
variable {α β : Type}

/-- Doing nothing makes no call. -/
@[simp] lemma calls_pure (a : α) (net : Network) : (pure a : Session α).calls net = [] := rfl

/-- The calls of the second session follow those of the first. -/
@[simp] lemma calls_bind (m : Session α) (f : α → Session β) (net : Network) :
    (m >>= f).calls net = m.calls net ++ (f (m.result net)).calls net := by
  simp [calls]

/-- A call is a call. -/
@[simp] lemma calls_ask (c : Call) (net : Network) : (ask c).calls net = [c] := rfl

/-- Writing an entry makes no call. -/
@[simp] lemma calls_log (e : Log.Entry) (net : Network) : (log e).calls net = [] := rfl

end Session

/-- Making a call gives the answer of the network, whatever is noted about it. -/
@[simp] lemma result_fetch (c : Call) (net : Network) : (fetch c).result net = net c := by
  unfold fetch
  simp only [Session.result_bind, Session.result_ask]
  cases net c <;> rfl

/-- Making a call makes no other. -/
@[simp] lemma calls_fetch (c : Call) (net : Network) : (fetch c).calls net = [c] := by
  unfold fetch
  simp only [Session.calls_bind, Session.calls_ask, Session.result_ask]
  cases net c <;> rfl

/-- What is noted about an answer. -/
def answerNotes : Answer → List Log.Entry
  | .ok r => [.got r.url r.status r.text.utf8ByteSize]
  | .error _ => []

/-- An answer is noted after the call. -/
@[simp] lemma trace_fetch (c : Call) (net : Network) :
    (fetch c).trace net = .call c :: (answerNotes (net c)).map .log := by
  unfold fetch
  simp only [Session.trace_bind, Session.trace_ask, Session.result_ask]
  cases net c <;> rfl

/-- The text of an answer is that of the network's answer. -/
@[simp] lemma result_fetchBody (c : Call) (net : Network) :
    (fetchBody c).result net = bodyOf (net c) := by
  simp [fetchBody]

/-- Taking the text of an answer makes one call. -/
@[simp] lemma calls_fetchBody (c : Call) (net : Network) : (fetchBody c).calls net = [c] := by
  simp [fetchBody]

/-- Taking the text of an answer leaves no trace of its own. -/
@[simp] lemma trace_fetchBody (c : Call) (net : Network) :
    (fetchBody c).trace net = .call c :: (answerNotes (net c)).map .log := by
  simp [fetchBody]

/-! ## Pages of the index -/

/-- A page is what the text of its answer makes of it. -/
@[simp] lemma result_fetchPage (endpoint : String) (q : Query) (k : Nat) (net : Network) :
    (fetchPage endpoint q k).result net
      = Page.ofBody k (bodyOf (net (.index endpoint (q.params k)))) := by
  simp [fetchPage]

/-- What came of a page is noted after its answer. -/
lemma trace_fetchPage (endpoint : String) (q : Query) (k : Nat) (net : Network) :
    (fetchPage endpoint q k).trace net
      = .call (.index endpoint (q.params k))
        :: (answerNotes (net (.index endpoint (q.params k)))).map .log
        ++ [.log ((fetchPage endpoint q k).result net |>.entry k)] := by
  simp [fetchPage]

/-- Pages are taken in one after the other. -/
lemma result_collectPages (endpoint : String) (q : Query) (net : Network) (o : Outcome)
    (ks : List Nat) :
    (collectPages endpoint q o ks).result net
      = (ks.map fun k => (fetchPage endpoint q k).result net).foldl Outcome.absorb o := by
  induction ks generalizing o with
  | nil => rfl
  | cons k ks ih =>
    simp only [collectPages, Session.result_bind, ih, List.map_cons, List.foldl_cons]

/-- A search takes in all its pages. -/
lemma result_collect (endpoint : String) (q : Query) (net : Network) :
    (collect endpoint q).result net
      = .ofPages (q.offsets.map fun k => (fetchPage endpoint q k).result net) := by
  simp only [collect, Session.result_bind, Session.result_pure, result_collectPages,
    Outcome.ofPages]

/-- Pages are asked for one after the other. -/
lemma trace_collectPages (endpoint : String) (q : Query) (net : Network) (o : Outcome)
    (ks : List Nat) :
    (collectPages endpoint q o ks).trace net
      = (ks.map fun k => (fetchPage endpoint q k).trace net).flatten := by
  induction ks generalizing o with
  | nil => rfl
  | cons k ks ih =>
    simp only [collectPages, Session.trace_bind, ih, List.map_cons, List.flatten_cons]

/-- A search notes its beginning and its end, and asks for its pages in between. -/
lemma trace_collect (endpoint : String) (q : Query) (net : Network) :
    (collect endpoint q).trace net
      = .log (.searching q.text q.pages endpoint)
        :: (q.offsets.map fun k => (fetchPage endpoint q k).trace net).flatten
        ++ [.log (.found ((collect endpoint q).result net).items.length
          ((collect endpoint q).result net).failures.length)] := by
  simp [collect, trace_collectPages]

/-! ## Items -/

/-- The call that an item asks for. -/
def Item.call? (item : Item) : Option Call := item.url.map .detail

/-- An item asks for its detail page, if it has one, and for nothing else. -/
lemma calls_resolve (mode : Link.MatchMode) (item : Item) (net : Network) :
    (resolve mode item).calls net = item.call?.toList := by
  unfold resolve Item.call?
  cases item.url with
  | none => rfl
  | some url => simp

/-- What is noted about an item is noted after its call. -/
lemma trace_resolve (mode : Link.MatchMode) (item : Item) (net : Network) :
    (resolve mode item).trace net
      = ((resolve mode item).calls net).map .call
        ++ ((resolve mode item).entries net).map .log := by
  unfold Session.entries
  rw [calls_resolve]
  unfold resolve Item.call?
  cases item.url with
  | none => rfl
  | some url =>
    have notes := Event.filterMap_logged?_map_log (answerNotes (net (.detail url)))
    simp [List.filterMap_cons, notes]

/-- Items are resolved each for itself. -/
lemma result_resolveAll (mode : Link.MatchMode) (items : List Item) (net : Network) :
    (resolveAll mode items).result net
      = items.map fun item => (resolve mode item).result net := by
  induction items with
  | nil => rfl
  | cons item items ih => simp only [resolveAll, Session.result_bind, Session.result_pure, ih,
      List.map_cons]

/-! ## Runs -/

/-- The report of a run is that of its search and of the resolutions of its items. -/
lemma result_run (s : Settings) (query : String) (net : Network) :
    (run s query).result net
      = let o := (collect s.search.endpoint (.ofSettings query s.search)).result net
        .ofResolutions o (o.items.map fun item =>
          (resolve s.extraction.matchMode item).result net) := by
  simp only [run, Session.result_bind, Session.result_pure, result_resolveAll]

/-- Noting what a report says makes no call. -/
lemma calls_noteReport (query : String) (r : Report) (net : Network) :
    (noteReport query r).calls net = [] := by
  unfold noteReport
  split <;> simp

end PackageFinder
