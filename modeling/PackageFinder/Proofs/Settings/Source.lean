import Mathlib.Tactic.Lemma
import PackageFinder.Proofs.Except
import PackageFinder.Settings.Load

/-!
# Where settings come from

A file that is named is read, and no other. Otherwise the first place counts where something stands,
as if it had been named: what cannot be read there is not passed over, and what stands at the places
after it has no say. Only where nothing stands at any place are the default settings taken. The main
statement is `load_from_first_place`.
-/

namespace PackageFinder

/-! ## Files -/

/-- Whether something stands at a path depends on nothing else. -/
lemma Files.exists?_eq {files files' : Files} {path : String} (same : files' path = files path) :
    files'.exists? path = files.exists? path := by
  rw [exists?, exists?, same]

/-- A file whose bytes are those of a text is read as that text. -/
lemma Files.readText_of_text {files : Files} {path text : String} {bytes : List UInt8}
    (stands : files path = .ok (.file bytes))
    (valid : String.fromUTF8? ⟨bytes.toArray⟩ = some text) :
    files.readText path = .ok text := by
  rw [readText, stands]
  dsimp only
  rw [valid]

namespace Settings
variable {files : Files} {env : Environment} {configDirectory : Option String} {path : String}
  {before after : List String}

/-- What becomes of the file at a path: its settings, or why there are none. -/
inductive Reads (files : Files) (path : String) : Except LoadError Settings → Prop
  | missing {cause} : files path = .error cause → Reads files path (.error (.file cause))
  | directory : files path = .ok .directory → Reads files path (.error (.file .isDirectory))
  | unreadable {cause} :
    files path = .ok (.unreadable cause) → Reads files path (.error (.file cause))
  | noText {bytes} :
    files path = .ok (.file bytes) → String.fromUTF8? ⟨bytes.toArray⟩ = none →
    Reads files path (.error (.file .notText))
  | malformed {bytes text cause} :
    files path = .ok (.file bytes) → String.fromUTF8? ⟨bytes.toArray⟩ = some text →
    parse text = .error cause → Reads files path (.error (.text cause))
  | settings {bytes text s} :
    files path = .ok (.file bytes) → String.fromUTF8? ⟨bytes.toArray⟩ = some text →
    parse text = .ok s → Reads files path (.ok s)

/-- One thing becomes of a file. -/
lemma reads_iff {result : Except LoadError Settings} :
    Reads files path result ↔ ofFile files path = result := by
  constructor
  · intro h
    cases h with
    | missing stands => rw [ofFile, Files.readText, stands]
    | directory stands => rw [ofFile, Files.readText, stands]
    | unreadable stands => rw [ofFile, Files.readText, stands]
    | noText stands invalid =>
      rw [ofFile, Files.readText, stands]
      dsimp only
      rw [invalid]
    | malformed stands valid parsed =>
      rw [ofFile, Files.readText_of_text stands valid]
      dsimp only
      rw [parsed]
      rfl
    | settings stands valid parsed =>
      rw [ofFile, Files.readText_of_text stands valid]
      dsimp only
      rw [parsed]
      rfl
  · rintro rfl
    unfold ofFile Files.readText
    cases stands : files path with
    | error cause => exact .missing stands
    | ok node =>
      cases node with
      | directory => exact .directory stands
      | unreadable cause => exact .unreadable stands
      | file bytes =>
        dsimp only
        cases text : String.fromUTF8? ⟨bytes.toArray⟩ with
        | none => exact .noText stands text
        | some text' =>
          dsimp only
          cases parsed : parse text' with
          | error cause => exact .malformed stands text parsed
          | ok s => exact .settings stands text parsed

/-- The file at a path depends on nothing else. -/
lemma ofFile_congr {files' : Files} (same : files' path = files path) :
    ofFile files' path = ofFile files path := by
  rw [ofFile, ofFile, Files.readText, Files.readText, same]

/-! ## Places -/

/-- The first place where something stands is taken. -/
lemma source?_of_first (found : candidates env configDirectory = before ++ path :: after)
    (passed : ∀ p ∈ before, files.exists? p = false) (stands : files.exists? path = true) :
    source? files env configDirectory none = some path := by
  rw [source?, List.find?_eq_some_iff_append]
  exact ⟨stands, before, after, found, fun p hp => by rw [passed p hp]; rfl⟩

/-- No place is taken if nothing stands at any. -/
lemma source?_of_nowhere (absent : ∀ p ∈ candidates env configDirectory, files.exists? p = false) :
    source? files env configDirectory none = none := by
  rw [source?, List.find?_eq_none]
  intro p hp
  rw [absent p hp]
  exact Bool.false_ne_true

/-! ## Loading -/

/-- Settings that can be used pass as they are. -/
lemma validated_eq_ok_iff {s t : Settings} : s.validated = .ok t ↔ s = t ∧ t.flaw? = none := by
  unfold validated
  cases flaw : s.flaw? with
  | some f =>
    constructor
    · intro h
      cases h
    · rintro ⟨rfl, usable⟩
      rw [flaw] at usable
      cases usable
  | none =>
    constructor
    · intro h
      cases h
      exact ⟨rfl, flaw⟩
    · rintro ⟨rfl, -⟩
      rfl

/-- Settings are loaded if the base can be read and is usable under the environment. -/
lemma load_eq_ok_iff {explicit : Option String} {s : Settings} :
    load files env configDirectory explicit = .ok s ↔
      ∃ base, ofSource files (source? files env configDirectory explicit) = .ok base ∧
        s = base.withEnvironment env ∧ s.flaw? = none := by
  constructor
  · intro h
    obtain ⟨base, read, passed⟩ := bind_eq_ok h
    obtain ⟨rfl, usable⟩ := validated_eq_ok_iff.1 passed
    exact ⟨base, read, rfl, usable⟩
  · rintro ⟨base, read, rfl, usable⟩
    rw [load, read]
    exact validated_eq_ok_iff.2 ⟨rfl, usable⟩

/-- A base that cannot be read is the end of it. -/
lemma load_eq_error {explicit : Option String} {cause : LoadError}
    (h : ofSource files (source? files env configDirectory explicit) = .error cause) :
    load files env configDirectory explicit = .error cause := by
  rw [load, h]
  rfl

/-- What is loaded depends on the base alone. -/
lemma load_congr_source {files' : Files} {configDirectory' explicit explicit' : Option String}
    (same : ofSource files' (source? files' env configDirectory' explicit')
      = ofSource files (source? files env configDirectory explicit)) :
    load files' env configDirectory' explicit' = load files env configDirectory explicit := by
  rw [load, load, same]

/-- A file that is named is read, and no other; if that fails, loading fails. Otherwise the first place
where something stands counts as if it had been named, whatever there is after it; and where nothing
stands at any place, the default settings are the base. What is loaded is the base with the
environment's say, provided that it can be used. -/
theorem load_from_first_place (raw : Variables) (configDirectory : Option String) :
    (∀ bytes text, raw Environment.settingsPathName = some bytes →
      String.fromUTF8? ⟨bytes.toArray⟩ = some text →
      candidates raw.texts configDirectory = text :: "dmgmonkey.yml" :: "config/dmgmonkey.yml" ::
        (configDirectory.map (Environment.below · "dmgmonkey/settings.yml")).toList) ∧
    ((∀ bytes, raw Environment.settingsPathName = some bytes →
        String.fromUTF8? ⟨bytes.toArray⟩ = none) →
      candidates raw.texts configDirectory = "dmgmonkey.yml" :: "config/dmgmonkey.yml" ::
        (configDirectory.map (Environment.below · "dmgmonkey/settings.yml")).toList) ∧
    (∀ files path,
      (∀ s, load files raw.texts configDirectory (some path) = .ok s ↔
        ∃ base, Reads files path (.ok base) ∧ s = base.withEnvironment raw.texts ∧
          s.flaw? = none) ∧
      (∀ cause, Reads files path (.error cause) →
        load files raw.texts configDirectory (some path) = .error cause) ∧
      ∀ files' configDirectory', files' path = files path →
        load files' raw.texts configDirectory' (some path)
          = load files raw.texts configDirectory (some path)) ∧
    (∀ files before path after,
      candidates raw.texts configDirectory = before ++ path :: after →
      (∀ p ∈ before, files.exists? p = false) → files.exists? path = true →
      load files raw.texts configDirectory none
        = load files raw.texts configDirectory (some path) ∧
      ∀ files' configDirectory' after',
        candidates raw.texts configDirectory' = before ++ path :: after' →
        (∀ p ∈ before, files'.exists? p = false) → files' path = files path →
        load files' raw.texts configDirectory' none
          = load files raw.texts configDirectory none) ∧
    ∀ files, (∀ p ∈ candidates raw.texts configDirectory, files.exists? p = false) →
      ∀ s, load files raw.texts configDirectory none = .ok s ↔
        s = ({} : Settings).withEnvironment raw.texts ∧ s.flaw? = none := by
  refine ⟨?_, ?_, ?_, ?_, ?_⟩
  · intro bytes text set valid
    simp [candidates, Variables.texts, set, valid]
  · intro unset
    have no_text : raw.texts Environment.settingsPathName = none := by
      rw [Variables.texts, Option.bind_eq_none_iff]
      exact unset
    simp [candidates, no_text]
  · intro files path
    refine ⟨fun s => ?_, fun cause failed => ?_, fun files' _ same => ?_⟩
    · simp only [reads_iff]
      exact load_eq_ok_iff
    · exact load_eq_error (reads_iff.1 failed)
    · exact load_congr_source (ofFile_congr same)
  · intro files before path after found passed stands
    have first := source?_of_first found passed stands
    refine ⟨load_congr_source (by rw [first]; rfl), ?_⟩
    intro files' configDirectory' after' found' passed' same
    have stands' : files'.exists? path = true := by rw [Files.exists?_eq same, stands]
    -- what stands after the place differs, but it is the same place
    have first' := source?_of_first found' passed' stands'
    refine load_congr_source ?_
    rw [first, first']
    exact ofFile_congr same
  · intro files absent s
    rw [load_eq_ok_iff, source?_of_nowhere absent]
    constructor
    · rintro ⟨base, read, h⟩
      cases read
      exact h
    · intro h
      exact ⟨{}, rfl, h⟩

/-- A directory stands at the second place and a file at the last. -/
def blockedFiles : Files := fun path =>
  if path = "dmgmonkey.yml" then .ok .directory
  else if path = "/c/dmgmonkey/settings.yml" then .ok (.file [])
  else .error .notFound

/-- The variable leads to `x`. -/
def staleVariables : Variables := fun name =>
  if name = Environment.settingsPathName then some [120] else none

/-- The variable leads to nothing, so that the directory at the next place is to be read. The file at
the last place is none to fall back on. -/
theorem load_from_first_place_directory :
    load blockedFiles staleVariables.texts (some "/c") none = .error (.file .isDirectory) := by
  obtain ⟨places, _, named, first, _⟩ := load_from_first_place staleVariables (some "/c")
  have places := places [120] "x" rfl (by decide +kernel)
  have absent : ∀ p ∈ ["x"], blockedFiles.exists? p = false := by decide
  rw [(first blockedFiles ["x"] "dmgmonkey.yml" _ places absent rfl).1]
  exact (named blockedFiles "dmgmonkey.yml").2.1 _ (.directory rfl)

end Settings

end PackageFinder
