import PackageFinder.Run.Pipeline

/-!
# The window of detail pages

Detail pages are asked for several at a time.  A window of limited width stands over the items: the
next item may enter it while there is room, the item's page may be answered at any moment, and only
the oldest item leaves it, once it is finished.  `Run` says what a run may lead to when its items
are resolved in this way.
-/

namespace PackageFinder

/-- How many items the window holds. -/
def windowWidth (s : Settings) : Nat := max 1 s.outgoing.detailConcurrency

/-- Where some items stand. -/
structure Window where
  /-- The items that have not entered the window, in order. -/
  waiting : List Item
  /-- The items in the window, the oldest first, each with its resolution once it is finished. -/
  inside : List (Item × Option Resolution)
  /-- The resolutions of the items that have left the window, in order. -/
  done : List Resolution
  /-- What has been done for the items, in order. -/
  trace : List Event

namespace Window

/-- No item has entered. -/
def initial (items : List Item) : Window := ⟨items, [], [], []⟩

/-- All items have left. -/
def IsOver (w : Window) : Prop := w.waiting = [] ∧ w.inside = []

/-- The next moment of a window of the given width.  An item's page is asked for when the item
enters, and what there is to note about it is noted when it is finished. -/
inductive Step (net : Http.Network) (mode : Link.MatchMode) (width : Nat) : Window → Window → Prop
  /-- The next item enters. -/
  | enter {item waiting inside done trace} :
    inside.length < width →
    Step net mode width ⟨item :: waiting, inside, done, trace⟩
      ⟨waiting, inside ++ [(item, none)], done,
        trace ++ ((resolve mode item).calls net).map .call⟩
  /-- An item is finished. -/
  | finish {item waiting before after done trace} :
    Step net mode width ⟨waiting, before ++ (item, none) :: after, done, trace⟩
      ⟨waiting, before ++ (item, some ((resolve mode item).result net)) :: after, done,
        trace ++ ((resolve mode item).entries net).map .log⟩
  /-- The oldest item leaves. -/
  | leave {item resolution waiting inside done trace} :
    Step net mode width ⟨waiting, (item, some resolution) :: inside, done, trace⟩
      ⟨waiting, inside, done ++ [resolution], trace⟩

/-- What a window over some items may come to. -/
inductive Reachable (net : Http.Network) (mode : Link.MatchMode) (width : Nat) (items : List Item) :
    Window → Prop
  /-- It starts with no item inside. -/
  | initial : Reachable net mode width items (initial items)
  /-- It goes on from moment to moment. -/
  | step {w v} :
    Reachable net mode width items w → Step net mode width w v → Reachable net mode width items v

end Window

/-- What a run of a query may lead to: its report and its trace. -/
inductive Run (net : Http.Network) (s : Settings) (query : String) : Report → List Event → Prop
  /-- The pages are collected, the items pass through the window, and the report is noted. -/
  | of {search : Session Outcome} {w : Window} {report : Report} :
    search = collect s.search.endpoint (.ofSettings query s.search) →
    Window.Reachable net s.extraction.matchMode (windowWidth s) (search.result net).items w →
    w.IsOver →
    report = .ofResolutions (search.result net) w.done →
    Run net s query report
      (search.trace net ++ w.trace ++ (noteReport query report).trace net)

end PackageFinder
