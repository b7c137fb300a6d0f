import PackageFinder.Proofs.Decimal.Reading
import PackageFinder.Settings.Environment

/-!
# What the environment says

Each of six settings has a variable of its own. The setting takes the value of its variable where that
can be used and stays otherwise, so that two environments act one after the other as one that prefers
the second wherever it can be used. The main statement is `withEnvironment_overrides`.
-/

namespace PackageFinder
open Link (MatchMode)
open Decimal (IsWhole IsDecimal IsDouble)

/-! ## Variables -/

/-- A text that names a match mode, in any case. -/
inductive NamesMode (text : String) : MatchMode → Prop
  | greedy : String.ofList (Text.lowercase text.toList) = "greedy" → NamesMode text .greedy
  | last : String.ofList (Text.lowercase text.toList) = "last" → NamesMode text .greedy
  | first : String.ofList (Text.lowercase text.toList) = "first" → NamesMode text .first

/-- A setting that has a variable. `Means` says what the texts stand for that can be used. -/
structure Override where
  name : String
  {Value : Type}
  get : Settings → Value
  Means : String → Value → Prop
  read : String → Option Value
  read_eq_some_iff {text : String} {v : Value} : read text = some v ↔ Means text v

namespace Environment
variable {text : String}

/-- A number of pages is read from a whole number within its bound. -/
lemma readPages_eq_some_iff {n : ℕ} :
    readPages text = some n ↔ IsWhole text.toList n ∧ n ≤ pagesBound :=
  Decimal.readNat?_eq_some_iff

/-- So is a number of downloads at a time. -/
lemma readConcurrency_eq_some_iff {n : ℕ} :
    readConcurrency text = some n ↔ IsWhole text.toList n ∧ n ≤ concurrencyBound :=
  Decimal.readNat?_eq_some_iff

/-- A timeout is read from a double, an infinite one as well. -/
lemma readTimeout_eq_some_iff {x : Binary64} :
    readTimeout text = some x ↔ IsDouble text.toList x :=
  Decimal.readDouble?_eq_some_iff

/-- A match mode is read from its name, in any case. -/
lemma readMatchMode_eq_some_iff {mode : MatchMode} :
    readMatchMode text = some mode ↔ NamesMode text mode := by
  unfold readMatchMode MatchMode.parse
  dsimp only
  constructor
  · intro h
    split at h
    · cases h
      rename_i spelt
      exact spelt.elim .greedy .last
    · split at h
      · cases h
        rename_i spelt
        exact .first spelt
      · cases h
  · intro h
    cases h with
    | greedy spelt =>
      rw [if_pos (.inl spelt)]
      rfl
    | last spelt =>
      rw [if_pos (.inr spelt)]
      rfl
    | first spelt =>
      rw [spelt, if_neg (by decide), if_pos rfl]
      rfl

end Environment

open Environment in
/-- The settings that have variables. -/
def overrides : List Override :=
  [{ name := endpointName
     get := fun s => s.search.endpoint
     Means := fun text v => text = v
     read := some
     read_eq_some_iff := Option.some_inj },
   { name := localeName
     get := fun s => s.search.locale
     Means := fun text v => text = v
     read := some
     read_eq_some_iff := Option.some_inj },
   { name := pagesName
     get := fun s => s.search.pages
     Means := fun text n => IsWhole text.toList n ∧ n ≤ pagesBound
     read := readPages
     read_eq_some_iff := readPages_eq_some_iff },
   { name := timeoutName
     get := fun s => s.outgoing.requestTimeout
     Means := fun text x => IsDouble text.toList x
     read := readTimeout
     read_eq_some_iff := readTimeout_eq_some_iff },
   { name := concurrencyName
     get := fun s => s.outgoing.detailConcurrency
     Means := fun text n => IsWhole text.toList n ∧ n ≤ concurrencyBound
     read := readConcurrency
     read_eq_some_iff := readConcurrency_eq_some_iff },
   { name := matchModeName
     get := fun s => s.extraction.matchMode
     Means := NamesMode
     read := readMatchMode
     read_eq_some_iff := readMatchMode_eq_some_iff }]

/-! ## One environment -/

namespace Override
variable (o : Override) (raw : Variables)

/-- The variable is set to a text that stands for a value. -/
def Gives (v : o.Value) : Prop := ∃ text, raw.texts o.name = some text ∧ o.Means text v

/-- The variable is set to a text that stands for nothing. -/
def Ignored (text : String) : Prop := raw.texts o.name = some text ∧ ∀ v, ¬ o.Means text v

/-- What the variable gives. -/
def value? : Option o.Value := (raw.texts o.name).bind o.read

variable {o raw}

/-- What a variable gives is what its text means. -/
lemma value?_eq_some_iff {v : o.Value} : o.value? raw = some v ↔ o.Gives raw v := by
  rw [value?, Option.bind_eq_some_iff]
  exact exists_congr fun text => and_congr_right' o.read_eq_some_iff

/-- A variable gives nothing if its text means nothing, or if it has none. -/
lemma value?_eq_none_iff : o.value? raw = none ↔ ∀ v, ¬ o.Gives raw v := by
  rw [Option.eq_none_iff_forall_ne_some]
  exact forall_congr' fun v => not_congr value?_eq_some_iff

/-- A text is ignored if it is set and cannot be read. -/
lemma ignored_iff {text : String} :
    o.Ignored raw text ↔ raw.texts o.name = some text ∧ o.read text = none := by
  rw [Ignored, Option.eq_none_iff_forall_ne_some]
  exact and_congr_right' (forall_congr' fun v => not_congr o.read_eq_some_iff.symm)

end Override

/-- Two settings that differ at most where there are variables. -/
structure SameBesides (s t : Settings) : Prop where
  sort : s.search.sort = t.search.sort
  facet : s.search.facet = t.search.facet
  category : s.search.category = t.search.category
  userAgent : s.outgoing.userAgent = t.outgoing.userAgent
  verifySsl : s.outgoing.verifySsl = t.outgoing.verifySsl
  proxies : s.outgoing.proxies = t.outgoing.proxies

/-- Settings are what variables can say of them, and the rest. -/
lemma SameBesides.eq {s t : Settings} (h : SameBesides s t)
    (same : ∀ o ∈ overrides, o.get s = o.get t) : s = t := by
  simp only [overrides, List.forall_mem_cons] at same
  obtain ⟨endpoint, locale, pages, timeout, concurrency, mode, -⟩ := same
  obtain ⟨⟨_, _, _, _, _, _⟩, ⟨_, _, _, _, _⟩, ⟨_⟩⟩ := s
  obtain ⟨⟨_, _, _, _, _, _⟩, ⟨_, _, _, _, _⟩, ⟨_⟩⟩ := t
  obtain ⟨sort, facet, category, userAgent, verifySsl, proxies⟩ := h
  dsimp only at *
  subst endpoint locale pages timeout concurrency mode sort facet category userAgent verifySsl
    proxies
  rfl

namespace Settings
variable (s : Settings) (raw : Variables)

/-- The environment says nothing of the settings without a variable. -/
lemma sameBesides_withEnvironment : SameBesides (s.withEnvironment raw.texts) s :=
  ⟨rfl, rfl, rfl, rfl, rfl, rfl⟩

/-- A setting takes what its variable gives. -/
lemma get_withEnvironment {o : Override} (ho : o ∈ overrides) :
    o.get (s.withEnvironment raw.texts) = (o.value? raw).getD (o.get s) := by
  revert o
  simp only [overrides, List.forall_mem_cons, Override.value?, Option.bind_fun_some]
  exact ⟨rfl, rfl, rfl, rfl, rfl, rfl, nofun⟩

end Settings

/-- What is noted about variables, one after the other. -/
inductive Notes (raw : Variables) : List Override → List Log.Entry → Prop
  | nil : Notes raw [] []
  | ignored {o os e es text} : o.Ignored raw text → e.level = .warn →
    e.message = "Ignoring unparseable " ++ o.name ++ "=" ++ text → Notes raw os es →
    Notes raw (o :: os) (e :: es)
  | silent {o os es} : (∀ text, ¬ o.Ignored raw text) → Notes raw os es → Notes raw (o :: os) es

variable {raw : Variables}

/-- What is noted about one variable, before the others. -/
lemma Notes.cons {o : Override} {os : List Override} {es : List Log.Entry} (h : Notes raw os es) :
    Notes raw (o :: os) (raw.texts.notes o.name o.read ++ es) := by
  unfold Environment.notes
  split
  · rename_i unset
    refine .silent (fun text ignored => ?_) h
    cases unset.symm.trans ignored.1
  · rename_i text set
    split
    · rename_i unread
      exact .ignored (Override.ignored_iff.2 ⟨set, Option.isNone_iff_eq_none.1 unread⟩) rfl rfl h
    · rename_i read
      refine .silent (fun text' ignored => read ?_) h
      obtain ⟨set', unread⟩ := Override.ignored_iff.1 ignored
      obtain rfl := Option.some_inj.1 (set.symm.trans set')
      exact Option.isNone_iff_eq_none.2 unread

/-- A variable whose every text can be used is never noted. -/
lemma Notes.skip {o : Override} {os : List Override} {es : List Log.Entry}
    (readable : ∀ text, o.read text ≠ none) (h : Notes raw os es) : Notes raw (o :: os) es :=
  .silent (fun text ignored => readable text (Override.ignored_iff.1 ignored).2) h

/-- The notes of an environment are those about its six variables, in their order. -/
lemma notes_allNotes : Notes raw overrides raw.texts.allNotes := by
  have all : raw.texts.allNotes
      = raw.texts.notes Environment.pagesName Environment.readPages ++
        (raw.texts.notes Environment.timeoutName Environment.readTimeout ++
          (raw.texts.notes Environment.concurrencyName Environment.readConcurrency ++
            (raw.texts.notes Environment.matchModeName Environment.readMatchMode ++ []))) := by
    rw [Environment.allNotes, List.append_nil, List.append_assoc, List.append_assoc]
  rw [all]
  refine .skip nofun (.skip nofun (.cons (.cons (.cons (.cons .nil)))))

/-! ## Two environments -/

/-- The variables that say what `raw'` says where that can be used, and what `raw` says elsewhere. -/
structure Prefers (merged raw' raw : Variables) : Prop where
  taken : ∀ o ∈ overrides, (∃ v, o.Gives raw' v) → merged o.name = raw' o.name
  kept : ∀ o ∈ overrides, (∀ v, ¬ o.Gives raw' v) → merged o.name = raw o.name

/-- Such variables. -/
def Variables.over (raw' raw : Variables) : Variables := fun name =>
  if overrides.any fun o => o.name = name && (o.value? raw').isSome then raw' name else raw name

/-- No two settings share a variable. -/
lemma eq_of_name_eq {o o' : Override} (ho : o ∈ overrides) (ho' : o' ∈ overrides)
    (same : o.name = o'.name) : o = o' :=
  List.inj_on_of_nodup_map (f := Override.name) (by decide) ho ho' same

/-- Two environments put over each other prefer the upper one. -/
lemma prefers_over (raw' raw : Variables) : Prefers (raw'.over raw) raw' raw := by
  constructor
  · rintro o ho ⟨v, given⟩
    refine if_pos (List.any_eq_true.2 ⟨o, ho, ?_⟩)
    rw [Override.value?_eq_some_iff.2 given, decide_eq_true rfl]
    rfl
  · intro o ho refused
    refine if_neg fun found => ?_
    obtain ⟨o', ho', h⟩ := List.any_eq_true.1 found
    rw [Bool.and_eq_true, decide_eq_true_iff] at h
    obtain rfl := eq_of_name_eq ho' ho h.1
    rw [Override.value?_eq_none_iff.2 refused] at h
    cases h.2

/-- A variable gives the same where it is the same. -/
lemma Override.value?_congr {o : Override} {raw' : Variables} (same : raw' o.name = raw o.name) :
    o.value? raw' = o.value? raw := by
  rw [value?, value?, Variables.texts, Variables.texts, same]

namespace Settings

/-- Two environments one after the other are one that prefers the second. -/
lemma withEnvironment_withEnvironment (s : Settings) {raw raw' merged : Variables}
    (h : Prefers merged raw' raw) :
    (s.withEnvironment raw.texts).withEnvironment raw'.texts = s.withEnvironment merged.texts := by
  refine SameBesides.eq ⟨rfl, rfl, rfl, rfl, rfl, rfl⟩ fun o ho => ?_
  rw [get_withEnvironment _ _ ho, get_withEnvironment _ _ ho, get_withEnvironment _ _ ho]
  -- the second environment decides where it gives a value, and has no say where it gives none
  cases given : o.value? raw' with
  | some v =>
    have same := h.taken o ho ⟨v, Override.value?_eq_some_iff.1 given⟩
    rw [Override.value?_congr same, given]
    rfl
  | none =>
    have same := h.kept o ho (Override.value?_eq_none_iff.1 given)
    rw [Override.value?_congr same]
    rfl

/-! ## All of it -/

/-- Each of six settings takes the value of its variable where that can be used and stays otherwise, and
nothing else changes; what cannot be used is noted. A number that is beyond the bound of its setting
cannot be used, but the timeout has infinities for numbers beyond all doubles. Two environments act one
after the other as one that prefers the second wherever it can be used. -/
theorem withEnvironment_overrides (s : Settings) (raw : Variables) :
    SameBesides (s.withEnvironment raw.texts) s ∧
    (∀ o ∈ overrides, (∀ v, o.Gives raw v → o.get (s.withEnvironment raw.texts) = v) ∧
      ((∀ v, ¬ o.Gives raw v) → o.get (s.withEnvironment raw.texts) = o.get s)) ∧
    Notes raw overrides raw.texts.allNotes ∧
    (∀ text q, raw.texts Environment.pagesName = some text → IsDecimal text.toList q →
      q < 0 ∨ pagesBound < q → (s.withEnvironment raw.texts).search.pages = s.search.pages) ∧
    (∀ text q, raw.texts Environment.concurrencyName = some text → IsDecimal text.toList q →
      q < 0 ∨ concurrencyBound < q →
      (s.withEnvironment raw.texts).outgoing.detailConcurrency = s.outgoing.detailConcurrency) ∧
    (∀ text q, raw.texts Environment.timeoutName = some text → IsDecimal text.toList q →
      2 ^ 1024 ≤ |q| →
      (s.withEnvironment raw.texts).outgoing.requestTimeout = .infinity (decide (q < 0))) ∧
    (∀ raw', Prefers (raw'.over raw) raw' raw ∧ ∀ merged, Prefers merged raw' raw →
      (s.withEnvironment raw.texts).withEnvironment raw'.texts
        = s.withEnvironment merged.texts) ∧
    (s.withEnvironment raw.texts).withEnvironment raw.texts = s.withEnvironment raw.texts := by
  have taken : ∀ o ∈ overrides, ∀ v, o.Gives raw v → o.get (s.withEnvironment raw.texts) = v := by
    intro o ho v given
    rw [get_withEnvironment _ _ ho, Override.value?_eq_some_iff.2 given]
    rfl
  have kept : ∀ o ∈ overrides, (∀ v, ¬ o.Gives raw v) →
      o.get (s.withEnvironment raw.texts) = o.get s := by
    intro o ho refused
    rw [get_withEnvironment _ _ ho, Override.value?_eq_none_iff.2 refused]
    rfl
  refine ⟨sameBesides_withEnvironment s raw, fun o ho => ⟨taken o ho, kept o ho⟩, notes_allNotes,
    ?_, ?_, ?_, ?_, ?_⟩
  · intro text q set decimal far
    refine kept _ (.tail _ (.tail _ (.head _))) ?_
    rintro n ⟨text', set', means⟩
    obtain rfl := Option.some_inj.1 (set.symm.trans set')
    exact decimal.not_isWhole far means
  · intro text q set decimal far
    refine kept _ (.tail _ (.tail _ (.tail _ (.tail _ (.head _))))) ?_
    rintro n ⟨text', set', means⟩
    obtain rfl := Option.some_inj.1 (set.symm.trans set')
    exact decimal.not_isWhole far means
  · intro text q set decimal far
    exact taken _ (.tail _ (.tail _ (.tail _ (.head _)))) _ ⟨text, set, decimal.infinite far⟩
  · intro raw'
    exact ⟨prefers_over raw' raw, fun merged => withEnvironment_withEnvironment s⟩
  · exact withEnvironment_withEnvironment s ⟨fun _ _ _ => rfl, fun _ _ _ => rfl⟩

/-- Three variables: a number of pages, a timeout beyond all doubles and a concurrency beyond its
bound. -/
def boldVariables : Variables := fun name =>
  if name = Environment.pagesName then some "7".toUTF8.data.toList
  else if name = Environment.timeoutName then some "1e400".toUTF8.data.toList
  else if name = Environment.concurrencyName then some "18446744073709551616".toUTF8.data.toList
  else none

/-- They are all set to texts. -/
lemma texts_boldVariables :
    boldVariables.texts Environment.pagesName = some "7" ∧
      boldVariables.texts Environment.timeoutName = some "1e400" ∧
      boldVariables.texts Environment.concurrencyName = some "18446744073709551616" := by
  decide +kernel

/-- The timeout is a decimal number. -/
lemma isDecimal_far : IsDecimal "1e400".toList (10 ^ 400) := by
  have power := @Decimal.Exponent.power 'e' _ _ ['4', '0', '0'] (.inl rfl) .missing (by decide)
    (by decide)
  have number := @Decimal.IsUnsigned.whole ['1'] _ _ (by decide) (by decide) power
  have decimal := IsDecimal.mk .missing number
  rw [if_neg Bool.false_ne_true, if_neg Bool.false_ne_true, zpow_natCast] at decimal
  have one : ((Decimal.digitsValue ['1'] : ℕ) : ℚ) = 1 := Nat.cast_one
  rw [one, one_mul] at decimal
  exact decimal

/-- The timeout is set to what no double reaches. -/
theorem withEnvironment_timeout_beyond :
    boldVariables.texts Environment.timeoutName = some "1e400" ∧
      IsDecimal "1e400".toList (10 ^ 400) ∧
      (⟨0x7fefffffffffffff⟩ : Binary64).view = .finite false (2 ^ 53 - 1) 971 ∧
      (2 ^ 53 - 1 : ℚ) * 2 ^ 971 < 10 ^ 400 ∧
      (({} : Settings).withEnvironment boldVariables.texts).outgoing.requestTimeout
        ≠ ({} : Settings).outgoing.requestTimeout := by
  have largest : (2 ^ 53 - 1) * 2 ^ 971 < 10 ^ 400 := by decide +kernel
  refine ⟨texts_boldVariables.2.1, isDecimal_far, by decide, ?_, by decide +kernel⟩
  have : ((2 ^ 53 - 1 : ℕ) : ℚ) = 2 ^ 53 - 1 := by norm_num
  rw [← this]
  exact_mod_cast largest

/-- Two variables: a language, and a number of pages that is none. -/
def laterVariables : Variables := fun name =>
  if name = Environment.localeName then some "de".toUTF8.data.toList
  else if name = Environment.pagesName then some "many".toUTF8.data.toList
  else none

/-- What two environments make of the default settings. -/
theorem withEnvironment_overrides_bold :
    (({} : Settings).withEnvironment boldVariables.texts).search.pages = 7 ∧
      (({} : Settings).withEnvironment boldVariables.texts).search.locale = "en_US" ∧
      (({} : Settings).withEnvironment boldVariables.texts).outgoing.detailConcurrency = 4 ∧
      (({} : Settings).withEnvironment boldVariables.texts).outgoing.requestTimeout
        = .infinity false ∧
      (({} : Settings).withEnvironment boldVariables.texts).withEnvironment laterVariables.texts
        = ({} : Settings).withEnvironment (laterVariables.over boldVariables).texts := by
  obtain ⟨_, fields, _, _, beyond, infinite, merge, _⟩ :=
    withEnvironment_overrides {} boldVariables
  obtain ⟨pages, timeout, concurrency⟩ := texts_boldVariables
  refine ⟨?_, ?_, ?_, ?_, ?_⟩
  · refine (fields _ (.tail _ (.tail _ (.head _)))).1 7 ⟨"7", pages, ?_, by decide⟩
    exact .bare (by decide) (by decide)
  · refine (fields _ (.tail _ (.head _))).2 ?_
    rintro v ⟨text, set, -⟩
    cases set
  · have whole : IsWhole "18446744073709551616".toList (2 ^ 64) :=
      .bare (by decide) (by decide)
    refine beyond _ _ concurrency whole.isDecimal (.inr ?_)
    exact Nat.cast_lt.2 (by decide)
  · have large : 2 ^ 1024 ≤ 10 ^ 400 := by decide +kernel
    have positive : (0 : ℚ) ≤ 10 ^ 400 := by positivity
    have timeout_set := infinite _ _ timeout isDecimal_far (by
      rw [abs_of_nonneg positive]
      exact_mod_cast large)
    rw [decide_eq_false positive.not_gt] at timeout_set
    exact timeout_set
  · exact (merge laterVariables).2 _ (merge laterVariables).1

end Settings

end PackageFinder
