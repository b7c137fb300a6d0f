import Mathlib.Tactic.SplitIfs
import PackageFinder.Command.Arguments
import PackageFinder.Proofs.Except

/-!
# Arguments with and without logging

Asking for everything to be logged does not disturb the reading of the other arguments. `louder`
takes what has been read to what would have been read if everything had been asked for before; each
step of the reader that does not ask for it itself commutes with `louder` (`Quiet`), from the single
option up to a whole argument. By induction over the arguments, a search that is asked for without
logging is asked for in the same words with it (`ofArguments_verbose`).
-/

namespace PackageFinder.Command

namespace Progress

variable {p : Progress} {used : List Flag}

/-- The same progress if everything is logged, with some options used. -/
def louder (p : Progress) (used : List Flag) : Progress := { p with verbose := true, used }

@[simp] lemma louder_config : (p.louder used).config = p.config := rfl

@[simp] lemma louder_pending : (p.louder used).pending = p.pending := rfl

@[simp] lemma louder_trailing : (p.louder used).trailing = p.trailing := rfl

/-- Takes something in without regard to the logging. -/
def Steady (take : Progress → Except UsageError Progress) : Prop :=
  ∀ p r, take p = .ok r →
    r.verbose = p.verbose ∧ ∀ used, ∃ used', take (p.louder used) = .ok (r.louder used')

/-- A path is taken without regard to the logging. -/
lemma steady_takePath (path : String) : Steady (·.takePath path) := by
  intro p r h
  dsimp only [takePath] at h
  split_ifs at h with given empty
  cases h
  refine ⟨rfl, fun used => ⟨(p.louder used).usedWith .config, ?_⟩⟩
  dsimp only [takePath]
  rw [louder_config, if_neg given, if_neg empty]
  rfl

/-- So is what is still to be taken. -/
lemma steady_settle : Steady (·.settle) := by
  intro p r h
  obtain ⟨query, config, verbose, options, pending, trailing⟩ := p
  cases pending with
  | nothing | query =>
    cases h
    exact ⟨rfl, fun used => ⟨used, rfl⟩⟩
  | config path =>
    cases path with
    | none => cases h
    | some path => exact steady_takePath path _ _ h

/-- A step of the reader that does not depend on the logging, unless it asks for it, and that does
not decide for a search. -/
structure Quiet (step : Progress → Step) : Prop where
  /-- If everything is not logged after the step, it was not before, and if it had been, the step
  would have been the same. -/
  goes_on : ∀ {p r}, step p = .ok (.inl r) → r.verbose = false →
    p.verbose = false ∧ ∀ used, ∃ used', step (p.louder used) = .ok (.inl (r.louder used'))
  /-- Only the help and the version are asked for in the midst of the arguments. -/
  decides : ∀ {p request}, step p = .ok (.inr request) → ∀ s, request ≠ .search s

/-! ## Steps -/

/-- A step that only changes what has been read. -/
lemma quiet_ok {change : Progress → Progress} (same : ∀ p, (change p).verbose = p.verbose)
    (moved : ∀ p used, change (p.louder used) = (change p).louder used) :
    Quiet fun p => .ok (.inl (change p)) where
  goes_on := by
    intro p r h quiet
    cases h
    exact ⟨(same p).symm.trans quiet, fun used => ⟨used, by rw [moved]⟩⟩
  decides := nofun

/-- A step after something has been taken in. -/
lemma Steady.bind {take : Progress → Except UsageError Progress} {next : Progress → Step}
    (first : Steady take) (second : Quiet next) : Quiet fun p => take p >>= next where
  goes_on := by
    intro p r h quiet
    obtain ⟨m, taken, h⟩ := bind_eq_ok h
    obtain ⟨before, later⟩ := second.goes_on h quiet
    obtain ⟨same, now⟩ := first p m taken
    refine ⟨same.symm.trans before, fun used => ?_⟩
    obtain ⟨between, hb⟩ := now used
    obtain ⟨used', hu⟩ := later between
    refine ⟨used', ?_⟩
    rw [hb]
    exact hu
  decides := by
    intro p request h
    obtain ⟨m, _, h⟩ := bind_eq_ok h
    exact second.decides h

/-- One step after another. -/
lemma Quiet.bind {step next : Progress → Step} (first : Quiet step) (second : Quiet next) :
    Quiet fun p => do
      match ← step p with
      | .inl p => next p
      | .inr r => return .inr r where
  goes_on := by
    intro p r h quiet
    obtain ⟨m, hm, h⟩ := bind_eq_ok h
    cases m with
    | inr => cases h
    | inl m =>
      obtain ⟨before, later⟩ := second.goes_on h quiet
      obtain ⟨start, now⟩ := first.goes_on hm before
      refine ⟨start, fun used => ?_⟩
      obtain ⟨between, hb⟩ := now used
      obtain ⟨used', hu⟩ := later between
      refine ⟨used', ?_⟩
      simp only [hb]
      exact hu
  decides := by
    intro p request h
    obtain ⟨m, hm, h⟩ := bind_eq_ok h
    cases m with
    | inl m => exact second.decides h
    | inr =>
      cases h
      exact first.decides hm

/-- A step that is another one from case to case, where the cases do not depend on the logging. -/
lemma Quiet.of_cases {step : Progress → Step}
    (h : ∀ p, ∃ f, Quiet f ∧ step p = f p ∧ ∀ used, step (p.louder used) = f (p.louder used)) :
    Quiet step where
  goes_on := by
    intro p r hs quiet
    obtain ⟨f, hf, here, there⟩ := h p
    rw [here] at hs
    simp only [there]
    exact hf.goes_on hs quiet
  decides := by
    intro p request hs
    obtain ⟨f, hf, here, _⟩ := h p
    rw [here] at hs
    exact hf.decides hs

/-! ## Arguments -/

/-- Options do not depend on the logging. -/
lemma quiet_readFlag (o : Flag) (attached : Option String) : Quiet (·.readFlag o attached) := by
  cases o <;> cases attached
  case config.some path =>
    exact steady_settle.bind
      ((steady_takePath path).bind (quiet_ok (fun _ => rfl) (fun _ _ => rfl)))
  case config.none =>
    exact steady_settle.bind
      (@quiet_ok ({ · with pending := .config none }) (fun _ => rfl) (fun _ _ => rfl))
  case verbose.none =>
    -- the option itself: everything is logged after it
    refine steady_settle.bind ⟨?_, ?_⟩
    · intro p r h quiet
      split at h <;> cases h
      cases quiet
    · intro p request h
      split at h <;> cases h
  case help.none | version.none =>
    refine steady_settle.bind ⟨nofun, ?_⟩
    intro p request h
    cases h
    nofun
  all_goals exact ⟨nofun, nofun⟩

/-- A long option does not depend on the logging. -/
lemma quiet_readLong (s : List Char) : Quiet (·.readLong s) := by
  unfold readLong
  dsimp only
  split
  · exact quiet_readFlag _ _
  · exact ⟨nofun, nofun⟩

/-- Neither do letters, one option after the other. -/
lemma quiet_readLetters (s : List Char) : Quiet (·.readLetters s) := by
  induction s with
  | nil => exact quiet_ok (fun _ => rfl) (fun _ _ => rfl)
  | cons c s ih =>
    unfold readLetters
    split
    · exact ⟨nofun, nofun⟩
    · exact quiet_readFlag _ _
    · exact (quiet_readFlag _ _).bind ih

/-- Neither does an argument that is no option. -/
lemma quiet_readValue (argument : String) : Quiet (·.readValue argument) := by
  apply Quiet.of_cases
  intro p
  by_cases taken : p.hasQuery
  · exact ⟨fun _ => throw _, ⟨nofun, nofun⟩, if_pos taken, fun _ => if_pos taken⟩
  · exact ⟨_, steady_settle.bind
        (@quiet_ok ({ · with pending := .query argument }) (fun _ => rfl) (fun _ _ => rfl)),
      if_neg taken, fun _ => if_neg taken⟩

/-- No argument depends on the logging. -/
lemma quiet_read (argument : String) : Quiet (·.read argument) := by
  apply Quiet.of_cases
  intro p
  by_cases trailing : p.trailing
  · exact ⟨_, quiet_readValue argument, if_pos trailing, fun _ => if_pos trailing⟩
  · -- which kind of argument it is does not depend on the logging either
    simp only [read, louder_trailing, louder_pending, trailing, Bool.false_eq_true, if_false]
    split
    · exact ⟨_, @quiet_ok ({ · with trailing := true }) (fun _ => rfl) (fun _ _ => rfl), rfl,
        fun _ => rfl⟩
    · exact ⟨_, quiet_readLong _, rfl, fun _ => rfl⟩
    · exact ⟨_, quiet_readLetters _, rfl, fun _ => rfl⟩
    · split
      · exact ⟨_, @quiet_ok ({ · with pending := .config (some argument), trailing := false })
          (fun _ => rfl) (fun _ _ => rfl), rfl, fun _ => rfl⟩
      · exact ⟨_, quiet_readValue argument, rfl, fun _ => rfl⟩

/-- A search that is asked for without logging is asked for in the same words with it. -/
lemma readAll_louder {arguments s} (h : p.readAll arguments = .ok (.search s))
    (quiet : s.verbose = false) :
    p.verbose = false ∧
      ∀ used, (p.louder used).readAll arguments = .ok (.search { s with verbose := true }) := by
  induction arguments generalizing p with
  | nil =>
    obtain ⟨m, settled, h⟩ := bind_eq_ok h
    obtain ⟨sv, sl⟩ := steady_settle p m settled
    split at h
    case h_1 text found =>
      cases h
      refine ⟨sv.symm.trans quiet, fun used => ?_⟩
      obtain ⟨used', hs⟩ := sl used
      have text : (m.louder used').query = some text := found
      simp only [readAll, finish, hs, bind, Except.bind, text]
      rfl
    · cases h
  | cons argument arguments ih =>
    obtain ⟨m, taken, h⟩ := bind_eq_ok h
    cases m with
    | inl m =>
      -- from the end backwards: the rest asks for no logging, so this argument did not either
      obtain ⟨before, later⟩ := ih h
      obtain ⟨start, now⟩ := (quiet_read argument).goes_on taken before
      refine ⟨start, fun used => ?_⟩
      obtain ⟨used', hu⟩ := now used
      simp only [readAll, hu]
      exact later used'
    | inr request =>
      cases h
      exact ((quiet_read argument).decides taken s rfl).elim

end Progress

/-- Where a search is asked for without logging, the same search is asked for with it if the option
is put in front. -/
lemma ofArguments_verbose {arguments s} (h : Request.ofArguments arguments = .ok (.search s))
    (quiet : s.verbose = false) :
    Request.ofArguments ("--verbose" :: arguments) = .ok (.search { s with verbose := true }) :=
  (Progress.readAll_louder h quiet).2 [.verbose]

end PackageFinder.Command
