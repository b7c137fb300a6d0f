import PackageFinder.Command.Execute
import PackageFinder.Proofs.Http.Timeout
import PackageFinder.Proofs.Settings.Source

/-!
# Timeouts of usable settings

Settings are refused for a timeout that is not positive or that cannot be waited, a client only for
one that cannot be waited. Since these are two comparisons and a conversion by bits, whether they
agree is a question about every double; `timeouts_agree` answers it, and a command that has loaded
its settings therefore never stops for their timeout (`start_ne_invalidTimeout`). A timeout that is
positive may still be too short to be waited: `wait_of_validated` says from where on it is not.
-/

namespace PackageFinder
variable {s : Settings} {t : Binary64}

/-! ## What each of them refuses -/

/-- A comparison with zero tells the doubles that are zero or negative. -/
lemma isNotPositive_iff : isNotPositive t = true ↔ ∃ v, t.value? = some v ∧ v ≤ 0 := by
  unfold isNotPositive
  cases h : t.view with
  | nan => simp [Binary64.value?_of_nan h]
  | infinite negative => cases negative <;> simp [Binary64.value?_of_infinite h]
  | finite negative m e =>
    simp only [Binary64.value?_of_finite h, Option.some.injEq, exists_eq_left', EReal.coe_nonpos,
      Binary64.finiteValue_nonpos_iff, Bool.or_eq_true, beq_iff_eq]

/-- A client is refused its timeout if it cannot be waited. -/
lemma Http.Client.ofSettings_eq_invalidTimeout_iff {o : OutgoingSettings} :
    ofSettings o = .error (.invalidTimeout t)
      ↔ t = o.requestTimeout ∧ nanoseconds? o.requestTimeout = none := by
  unfold ofSettings
  cases nanoseconds? o.requestTimeout with
  | none => simp [eq_comm]
  | some n => cases Proxy.ofSettings o.proxies <;> simp

namespace Settings

/-- Settings that only their timeout can keep from being used. -/
structure IsUsableBesideTimeout (s : Settings) : Prop where
  /-- The endpoint is an address. -/
  endpoint : ∃ u, Url.parse s.search.endpoint = .ok u
  /-- Pages are asked for. -/
  pages : s.search.pages ≠ 0
  /-- Detail pages are asked for. -/
  concurrency : s.outgoing.detailConcurrency ≠ 0

/-- Settings have no flaw if they have none besides the timeout, and the timeout is positive and can
be waited. -/
lemma flaw?_eq_none_iff : s.flaw? = none ↔ s.IsUsableBesideTimeout ∧
    ¬(isNotPositive s.outgoing.requestTimeout = true
      ∨ Http.nanoseconds? s.outgoing.requestTimeout = none) := by
  unfold flaw?
  constructor
  · intro h
    split at h
    case h_1 => cases h
    case h_2 u parsed =>
      split_ifs at h with pages concurrency refused
      exact ⟨⟨⟨u, parsed⟩, pages, concurrency⟩, refused⟩
  · rintro ⟨⟨⟨u, parsed⟩, pages, concurrency⟩, waited⟩
    rw [parsed]
    dsimp only
    rw [if_neg pages, if_neg concurrency, if_neg waited]

/-- Settings that only their timeout can keep from being used can be used if it is a number between
zero and `2 ^ 64`. -/
lemma IsUsableBesideTimeout.flaw?_eq_none_iff (usable : s.IsUsableBesideTimeout) :
    s.flaw? = none ↔ ∃ v, s.outgoing.requestTimeout.value? = some v ∧ 0 < v
      ∧ v < ((2 ^ 64 : ℝ) : EReal) := by
  rw [Settings.flaw?_eq_none_iff, isNotPositive_iff, Http.nanoseconds?_eq_none_iff]
  cases s.outgoing.requestTimeout.value? with
  | none => simp
  | some v =>
    simp only [usable, reduceCtorEq, Option.some.injEq, exists_eq_left', false_or, not_or, not_le,
      not_lt, true_and]
    exact ⟨fun h => ⟨h.1, h.2.2⟩, fun h => ⟨h.1, h.1.le, h.2⟩⟩

/-- Settings are refused if they have a flaw. -/
lemma validated_eq_error_iff : (∃ cause, s.validated = .error cause) ↔ s.flaw? ≠ none := by
  unfold validated
  cases s.flaw? <;> simp

/-- Settings that can be used have a timeout that can be waited. -/
lemma ofSettings_ne_invalidTimeout (usable : s.flaw? = none) :
    Http.Client.ofSettings s.outgoing ≠ .error (.invalidTimeout t) := by
  intro refused
  obtain ⟨-, waited⟩ := flaw?_eq_none_iff.1 usable
  exact waited (.inr (Http.Client.ofSettings_eq_invalidTimeout_iff.1 refused).2)

end Settings

/-- A command that has loaded its settings does not stop for their timeout. -/
theorem Command.start_ne_invalidTimeout (around : Surroundings) (search : Search) (t : Binary64) :
    start around search ≠ .error (.client (.invalidTimeout t)) := by
  unfold start
  cases loaded : Settings.load around.files around.env around.configDirectory search.config with
  | error cause => simp [Except.mapError, bind, Except.bind]
  | ok s =>
    obtain ⟨-, -, -, usable⟩ := Settings.load_eq_ok_iff.1 loaded
    have waited := Settings.ofSettings_ne_invalidTimeout (t := t) usable
    cases made : Http.Client.ofSettings s.outgoing with
    | ok client => simp [Except.mapError, bind, Except.bind, made, pure, Except.pure]
    | error cause =>
      rw [made] at waited
      simpa [Except.mapError, bind, Except.bind, made] using waited

/-- Settings that can be used but for their timeout can be used if it is a number between zero and
`2 ^ 64`, and a client is refused its timeout if it is not a number, negative or from `2 ^ 64` on.
So a client is never refused the timeout of settings that can be used, and the two zeros are the only
timeouts that a client takes and settings may not have. What can be waited is what the bits of the
double tell. -/
theorem Settings.timeouts_agree :
    (∀ t, Http.nanoseconds? t = (Http.Duration.ofSeconds? t).map Http.Duration.total) ∧
    (∀ s : Settings, s.IsUsableBesideTimeout →
      (s.validated = .ok s ↔ ∃ v, s.outgoing.requestTimeout.value? = some v ∧ 0 < v
        ∧ v < ((2 ^ 64 : ℝ) : EReal))) ∧
    (∀ (o : OutgoingSettings) t, Http.Client.ofSettings o = .error (.invalidTimeout t) ↔
      t = o.requestTimeout ∧ (t.value? = none ∨
        ∃ v, t.value? = some v ∧ (v < 0 ∨ ((2 ^ 64 : ℝ) : EReal) ≤ v))) ∧
    (∀ s : Settings, s.validated = .ok s →
      ∀ t, Http.Client.ofSettings s.outgoing ≠ .error (.invalidTimeout t)) ∧
    ∀ s : Settings, s.IsUsableBesideTimeout →
      (((∃ cause, s.validated = .error cause) ∧
          ∀ t, Http.Client.ofSettings s.outgoing ≠ .error (.invalidTimeout t)) ↔
        s.outgoing.requestTimeout.bits = 0
          ∨ s.outgoing.requestTimeout.bits = 0x8000000000000000) := by
  refine ⟨Http.nanoseconds?_eq, ?_, ?_, ?_, ?_⟩
  · intro s usable
    simp only [validated_eq_ok_iff, true_and]
    exact usable.flaw?_eq_none_iff
  · intro o t
    rw [Http.Client.ofSettings_eq_invalidTimeout_iff, ← Http.nanoseconds?_eq_none_iff]
    exact and_congr_right fun same => by rw [same]
  · intro s passed t
    exact ofSettings_ne_invalidTimeout (validated_eq_ok_iff.1 passed).2
  · intro s usable
    have taken : (∀ t, Http.Client.ofSettings s.outgoing ≠ .error (.invalidTimeout t))
        ↔ Http.nanoseconds? s.outgoing.requestTimeout ≠ none := by
      simp only [ne_eq, Http.Client.ofSettings_eq_invalidTimeout_iff, not_and, forall_eq]
    rw [← Binary64.value?_eq_zero_iff, validated_eq_error_iff, taken, ne_eq, ne_eq,
      usable.flaw?_eq_none_iff, Http.nanoseconds?_eq_none_iff]
    cases s.outgoing.requestTimeout.value? with
    | none => simp
    | some v =>
      simp only [Option.some.injEq, exists_eq_left', reduceCtorEq, false_or, not_and, not_or, not_lt,
        not_le]
      -- between "not positive or too long" and "not negative and not too long" only zero is left
      constructor
      · rintro ⟨refused, positive, short⟩
        by_contra nonzero
        exact absurd short (not_lt.2 (refused (lt_of_le_of_ne positive (Ne.symm nonzero))))
      · rintro rfl
        refine ⟨fun h => absurd h (lt_irrefl 0), le_refl 0, ?_⟩
        exact_mod_cast (by positivity : (0 : ℝ) < 2 ^ 64)

/-- The largest double below `2 ^ 64` is a timeout like any other, and zero with a minus sign is
taken by a client alone. -/
theorem Settings.timeouts_agree_extremes :
    (∃ v, (⟨0x43efffffffffffff⟩ : Binary64).value? = some v ∧ 0 < v ∧ v < ((2 ^ 64 : ℝ) : EReal)) ∧
    ∃ s : Settings, s.outgoing.requestTimeout = ⟨0x8000000000000000⟩ ∧ s.IsUsableBesideTimeout ∧
      (∃ cause, s.validated = .error cause) ∧
        ∀ t, Http.Client.ofSettings s.outgoing ≠ .error (.invalidTimeout t) := by
  have parsed : Url.parse "http://[::1]/" = .ok
      { scheme := "http".toList, host := some (.eight [0, 0, 0, 0, 0, 0, 0, 1]), path := ['/'] } :=
    eq_ok_of_toOption (by decide +kernel)
  have usable (t : Binary64) : IsUsableBesideTimeout
      { search := { endpoint := "http://[::1]/" }, outgoing := { requestTimeout := t } } :=
    ⟨⟨_, parsed⟩, Nat.succ_ne_zero _, Nat.succ_ne_zero _⟩
  obtain ⟨-, accepted, -, -, taken⟩ := timeouts_agree
  exact ⟨(accepted _ (usable ⟨0x43efffffffffffff⟩)).1 (eq_ok_of_toOption (by decide +kernel)),
    _, rfl, usable _, (taken _ (usable ⟨0x8000000000000000⟩)).2 (.inr rfl)⟩

/-! ## How long is waited -/

/-- A client waits for the time that was set. -/
lemma Http.Client.timeout_of_ofSettings {o : OutgoingSettings} {c : Client}
    (made : ofSettings o = .ok c) : nanoseconds? o.requestTimeout = some c.timeout := by
  unfold ofSettings at made
  cases waited : nanoseconds? o.requestTimeout with
  | none => simp [waited] at made
  | some n =>
    rw [waited] at made
    dsimp only at made
    split at made
    case h_1 => cases made
    case h_2 =>
      cases made
      rfl

/-- A client of settings that can be used waits for the nearest number of nanoseconds. It waits at
all exactly if more than half a nanosecond was set. -/
theorem Settings.wait_of_validated (passed : s.validated = .ok s) :
    ∃ d v, Http.Duration.ofSeconds? s.outgoing.requestTimeout = some d ∧
      s.outgoing.requestTimeout.value? = some ((v : ℝ) : EReal) ∧
      (∀ c, Http.Client.ofSettings s.outgoing = .ok c → c.timeout = d.total) ∧
      |(d.total : ℝ) - v * 10 ^ 9| ≤ 1 / 2 ∧
      (0 < d.total ↔ 1 / (2 * 10 ^ 9) < v) := by
  obtain ⟨-, usable⟩ := validated_eq_ok_iff.1 passed
  obtain ⟨-, waited⟩ := flaw?_eq_none_iff.1 usable
  obtain ⟨n, waited⟩ := Option.ne_none_iff_exists'.1 fun never => waited (.inr never)
  obtain ⟨v, value, nearest, positive⟩ := Http.exists_value_of_nanoseconds? waited
  have same := waited
  rw [Http.nanoseconds?_eq, Option.map_eq_some_iff] at same
  obtain ⟨d, found, rfl⟩ := same
  refine ⟨d, v, found, value, fun c made => ?_, nearest, positive⟩
  exact Option.some.inj ((Http.Client.timeout_of_ofSettings made).symm.trans waited)

/-- Settings with a timeout. -/
def Settings.waiting (seconds : Binary64) : Settings :=
  { search := { endpoint := "http://[::1]/" }, outgoing := { requestTimeout := seconds } }

/-- A tenth of a nanosecond may be set, and a client does not wait for it. -/
theorem Settings.wait_of_validated_tenth :
    (waiting ⟨0x3ddb7cdfd9d7bdbb⟩).validated = .ok (waiting ⟨0x3ddb7cdfd9d7bdbb⟩) ∧
      Http.Duration.ofSeconds? ⟨0x3ddb7cdfd9d7bdbb⟩ = some ⟨0, 0⟩ ∧
      (Http.Client.ofSettings (waiting ⟨0x3ddb7cdfd9d7bdbb⟩).outgoing).toOption.map (·.timeout)
        = some 0 := by
  decide +kernel

/-- Of the two doubles around half a nanosecond the upper one is waited, for a nanosecond. -/
theorem Settings.wait_of_validated_half :
    (∃ v : ℝ, (⟨0x3e012e0be826d694⟩ : Binary64).value? = some (v : EReal) ∧ v ≤ 1 / (2 * 10 ^ 9)) ∧
      ∃ v : ℝ, (⟨0x3e012e0be826d695⟩ : Binary64).value? = some (v : EReal) ∧ 1 / (2 * 10 ^ 9) < v ∧
        |1 - v * 10 ^ 9| ≤ 1 / 2 := by
  have below : (waiting ⟨0x3e012e0be826d694⟩).validated = .ok (waiting ⟨0x3e012e0be826d694⟩) := by
    decide +kernel
  have above : (waiting ⟨0x3e012e0be826d695⟩).validated = .ok (waiting ⟨0x3e012e0be826d695⟩) := by
    decide +kernel
  obtain ⟨d, v, found, value, -, -, positive⟩ := wait_of_validated below
  obtain ⟨d', v', found', value', -, nearest, positive'⟩ := wait_of_validated above
  have nothing : Http.Duration.ofSeconds? ⟨0x3e012e0be826d694⟩ = some ⟨0, 0⟩ := by decide +kernel
  have one : Http.Duration.ofSeconds? ⟨0x3e012e0be826d695⟩ = some ⟨0, 1⟩ := by decide +kernel
  cases found.symm.trans nothing
  cases found'.symm.trans one
  have total : Http.Duration.total ⟨0, 1⟩ = 1 := rfl
  rw [total, Nat.cast_one] at nearest
  exact ⟨⟨v, value, not_lt.1 (mt positive.2 (Nat.lt_irrefl 0))⟩, v', value',
    positive'.1 Nat.one_pos, nearest⟩

end PackageFinder
