import Mathlib.Algebra.GroupWithZero.Nat
import Mathlib.Tactic.Lemma
import PackageFinder.Proofs.Run.Session

/-!
# Passing through the window

Whatever the order in which detail pages are asked for and answered, the items pass through the
window in their own order. `Splits` is the invariant: the items that have left, the ones inside and
the ones that wait are the items of the search, in this order, and every resolution so far is the
one that the item has by itself. `Step.splits` shows that each moment preserves it, and
`Reachable.splits` that every course of events does.

`Reachable.resolves_in_order` is the main statement: the window is never too full and asks for no
page twice, it is never stuck before the last item has left, it cannot go on for ever, and in the
end its packages and failures are those of resolving the items one after the other.
-/

namespace PackageFinder.Window
open PackageFinder.Http

variable {net : Network} {mode : Link.MatchMode} {width : Nat} {items gone : List Item}
  {w v : Window}

/-- The calls that have been made for the items, in order. -/
def calls (w : Window) : List Call := w.trace.filterMap (·.call?)

/-- The detail pages that have been asked for and not been answered. -/
def unanswered (w : Window) : List Call :=
  (w.inside.filter (·.2.isNone)).filterMap (·.1.call?)

/-- How many moments an item inside the window still has before it. -/
def stepsLeft : Item × Option Resolution → Nat
  | (_, none) => 2
  | (_, some _) => 1

/-- How many moments there still are before all items have left. -/
def left (w : Window) : Nat := 3 * w.waiting.length + (w.inside.map stepsLeft).sum

/-- Some items of a search have gone, and the others are where they should be. -/
structure Splits (net : Network) (mode : Link.MatchMode) (width : Nat) (items gone : List Item)
    (w : Window) : Prop where
  /-- Each item has left, is inside, or waits, in the order of the search. -/
  items_eq : items = gone ++ w.inside.map (·.1) ++ w.waiting
  /-- The items that have left have the resolutions that they have by themselves. -/
  done_eq : w.done = gone.map fun item => (resolve mode item).result net
  /-- So have the finished items inside. -/
  inside_eq : ∀ item r, (item, some r) ∈ w.inside → r = (resolve mode item).result net
  /-- There is room for all items inside. -/
  length_le : w.inside.length ≤ width
  /-- One call has been made for each item that has entered, in the order of the search. -/
  calls_eq : w.calls = (gone ++ w.inside.map (·.1)).filterMap (·.call?)

/-- At the start no item has gone. -/
lemma splits_initial : Splits net mode width items [] (initial items) where
  items_eq := rfl
  done_eq := rfl
  inside_eq := nofun
  length_le := Nat.zero_le width
  calls_eq := rfl

/-- The calls of a longer trace. -/
lemma calls_append (waiting inside done) (trace more : List Event) :
    (Window.mk waiting inside done (trace ++ more)).calls
      = trace.filterMap (·.call?) ++ more.filterMap (·.call?) :=
  List.filterMap_append

/-- A moment leaves the items in their order. -/
lemma Step.splits (st : Step net mode width w v) (sp : Splits net mode width items gone w) :
    ∃ gone', Splits net mode width items gone' v := by
  cases st with
  | @enter item waiting inside done trace room =>
    refine ⟨gone, ?_, sp.done_eq, ?_, ?_, ?_⟩
    · rw [sp.items_eq]
      simp
    · intro i r h
      rcases List.mem_append.1 h with h | h
      · exact sp.inside_eq i r h
      · cases List.mem_singleton.1 h
    · rw [List.length_append]
      exact room
    · have e : trace.filterMap (·.call?) = _ := sp.calls_eq
      rw [calls_append, Event.filterMap_call?_map_call, calls_resolve, e]
      cases h : item.call? <;> simp [h]
  | @finish item waiting before after done trace =>
    refine ⟨gone, ?_, sp.done_eq, ?_, ?_, ?_⟩
    · rw [sp.items_eq]
      simp
    · intro i r h
      rcases List.mem_append.1 h with h | h
      · exact sp.inside_eq i r (List.mem_append_left _ h)
      · rcases List.mem_cons.1 h with h | h
        · cases h
          rfl
        · exact sp.inside_eq i r (List.mem_append_right _ (List.mem_cons_of_mem _ h))
    · have room := sp.length_le
      simpa using room
    · have e : trace.filterMap (·.call?) = _ := sp.calls_eq
      rw [calls_append, Event.filterMap_call?_map_log, List.append_nil, e]
      simp
  | @leave item r waiting inside done trace =>
    -- the only moment at which an item changes sides
    refine ⟨gone ++ [item], ?_, ?_, ?_, ?_, ?_⟩
    · rw [sp.items_eq]
      simp
    · have e := sp.inside_eq item r List.mem_cons_self
      simpa [← e] using sp.done_eq
    · intro i r h
      exact sp.inside_eq i r (List.mem_cons_of_mem _ h)
    · exact Nat.le_of_succ_le sp.length_le
    · have e : trace.filterMap (·.call?) = _ := sp.calls_eq
      simpa [calls] using e

/-- The items keep their order, whatever happens. -/
lemma Reachable.splits (rc : Reachable net mode width items w) :
    ∃ gone, Splits net mode width items gone w := by
  induction rc with
  | initial => exact ⟨[], splits_initial⟩
  | step _ st ih =>
    obtain ⟨gone, sp⟩ := ih
    exact st.splits sp

/-- Unanswered pages belong to items inside. -/
lemma length_unanswered_le (w : Window) : w.unanswered.length ≤ w.inside.length :=
  Nat.le_trans (List.length_filterMap_le _ _) (List.length_filter_le _ _)

/-- Where the items are follows from how many have left and how many are inside. -/
lemma Splits.positions (sp : Splits net mode width items gone w) :
    items.take (w.done.length + w.inside.length) = gone ++ w.inside.map (·.1) ∧
      items.drop (w.done.length + w.inside.length) = w.waiting := by
  have e : w.done.length + w.inside.length = (gone ++ w.inside.map (·.1)).length := by
    rw [sp.done_eq, List.length_append, List.length_map, List.length_map]
  rw [e, sp.items_eq]
  exact ⟨List.take_left, List.drop_left⟩

/-- The end has come exactly when as many items have left as there are. -/
lemma Splits.isOver_iff (sp : Splits net mode width items gone w) :
    w.IsOver ↔ w.done.length = items.length := by
  have e := congrArg List.length sp.items_eq
  have d := congrArg List.length sp.done_eq
  simp only [List.length_append, List.length_map] at e d
  rw [IsOver, ← List.length_eq_zero_iff, ← List.length_eq_zero_iff]
  omega

/-- In a window with room for an item there is always something to happen before the end. -/
lemma exists_step (room : 0 < width) (ho : ¬ w.IsOver) : ∃ v, Step net mode width w v := by
  obtain ⟨waiting, inside, done, trace⟩ := w
  match inside, waiting with
  | (_, some _) :: _, _ => exact ⟨_, .leave⟩
  | (item, none) :: after, _ => exact ⟨_, @Step.finish net mode width item _ [] after done trace⟩
  | [], _ :: _ => exact ⟨_, .enter room⟩
  | [], [] => exact (ho ⟨rfl, rfl⟩).elim

/-- Every moment brings the end nearer. -/
lemma Step.left_lt (st : Step net mode width w v) : v.left < w.left := by
  cases st
  case enter =>
    simp only [left, stepsLeft, List.length_cons, List.map_append, List.sum_append, List.map_cons,
      List.map_nil, List.sum_cons, List.sum_nil]
    omega
  all_goals simp [left, stepsLeft]

/-- When all items have left, each has the resolution that it has by itself. -/
lemma Reachable.done_eq (rc : Reachable net mode width items w) (ho : w.IsOver) :
    w.done = (resolveAll mode items).result net := by
  obtain ⟨gone, sp⟩ := rc.splits
  have e := sp.items_eq
  rw [ho.1, ho.2, List.map_nil, List.append_nil, List.append_nil] at e
  rw [sp.done_eq, result_resolveAll, e]

/-- Every course of events can be brought to the end. -/
lemma Reachable.exists_isOver (rc : Reachable net mode width items w) (room : 0 < width) :
    ∃ v, Reachable net mode width items v ∧ v.IsOver := by
  -- the induction is on the moments that are left
  induction h : w.left using Nat.strongRecOn generalizing w with
  | ind n ih =>
    by_cases ho : w.IsOver
    · exact ⟨w, rc, ho⟩
    · obtain ⟨v, st⟩ : ∃ v, Step net mode width w v := exists_step room ho
      subst h
      exact ih v.left st.left_lt (rc.step st) rfl

/-- One course of events is that items enter, are finished and leave one after the other. -/
lemma Reachable.one_by_one {waiting done trace} (room : 0 < width)
    (rc : Reachable net mode width items ⟨waiting, [], done, trace⟩) :
    Reachable net mode width items ⟨[], [], done ++ (resolveAll mode waiting).result net,
      trace ++ (resolveAll mode waiting).trace net⟩ := by
  induction waiting generalizing done trace with
  | nil => simpa [resolveAll] using rc
  | cons item waiting ih =>
    have entered := rc.step (.enter room)
    have finished := entered.step (@Step.finish _ _ _ item waiting [] [] _ _)
    have rest := ih (finished.step .leave)
    simp only [List.append_assoc] at rest
    rw [← List.append_assoc (List.map _ _), ← trace_resolve] at rest
    simpa [resolveAll] using rest

/-- The window holds an item, whatever the settings say. -/
lemma windowWidth_pos (s : Settings) : 0 < windowWidth s := Nat.le_max_left 1 _

/-- The course of events in the window does not matter. At every moment no more pages are asked for
and unanswered than the window is wide, the items that have entered are the first ones, and one
call has been made for each of them; as long as an item has not left, something can happen, and
everything that can happen brings the end nearer; and in the end the packages and the failures are
those of resolving the items one after the other. -/
theorem Reachable.resolves_in_order (s : Settings)
    (rc : Reachable net mode (windowWidth s) items w) :
    (w.unanswered.length ≤ windowWidth s ∧
      w.waiting = items.drop (w.done.length + w.inside.length) ∧
      w.calls = (items.take (w.done.length + w.inside.length)).filterMap (·.call?)) ∧
    (w.done.length < items.length → ∃ v, Step net mode (windowWidth s) w v) ∧
    (∀ v, Step net mode (windowWidth s) w v → v.left < w.left) ∧
    (w.done.length = items.length →
      w.done.map (·.package) = ((resolveAll mode items).result net).map (·.package) ∧
      w.done.filterMap (·.failure)
        = ((resolveAll mode items).result net).filterMap (·.failure)) := by
  obtain ⟨gone, sp⟩ := rc.splits
  obtain ⟨entered, waiting⟩ := sp.positions
  refine ⟨⟨?_, waiting.symm, ?_⟩, ?_, ?_, ?_⟩
  · exact Nat.le_trans (length_unanswered_le w) sp.length_le
  · rw [entered]
    exact sp.calls_eq
  · intro h
    apply exists_step (windowWidth_pos s)
    rw [sp.isOver_iff]
    exact Nat.ne_of_lt h
  · exact fun _ st => st.left_lt
  · intro h
    rw [rc.done_eq (sp.isOver_iff.2 h)]
    exact ⟨rfl, rfl⟩

/-- The second of two items may be finished before the first: its page has been answered, the other
one has not, and the window is not stuck. -/
theorem resolves_in_order_overtaking :
    ∃ w, Reachable (fun _ => .ok ⟨404, "http://h/", ""⟩) .first (windowWidth {})
        [⟨some "A", some "http://h/a"⟩, ⟨some "B", some "http://h/b"⟩] w ∧
      w.unanswered = [.detail "http://h/a"] ∧ w.unanswered.length ≤ windowWidth {} ∧
      ∃ v, Step (fun _ => .ok ⟨404, "http://h/", ""⟩) .first (windowWidth {}) w v := by
  have rc := Reachable.step
    (.step (.step .initial (.enter (by decide))) (.enter (by decide)))
    (@Step.finish (fun _ => .ok ⟨404, "http://h/", ""⟩) .first (windowWidth {})
      ⟨some "B", some "http://h/b"⟩ [] [(⟨some "A", some "http://h/a"⟩, none)] [] [] _)
  have h := rc.resolves_in_order {}
  exact ⟨_, rc, rfl, h.1.1, h.2.1 (by decide)⟩

end PackageFinder.Window
