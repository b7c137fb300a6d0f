import Mathlib.Data.List.Forall2
import Mathlib.Data.List.Pairwise
import Mathlib.Tactic.Lemma
import PackageFinder.Proofs.Except
import PackageFinder.Yaml.Decode

/-!
# Reading records

How a record is read from a mapping: entry by entry, by known keys that occur at most once, with the
others passed over. Each known key feeds a part of the record, and a part that no entry feeds stays as it
is at the start. The inductions are over the entries.
-/

namespace PackageFinder.Yaml

/-! ## Places in a document -/

namespace Document

/-- A value that is, or stands for, a text. -/
def IsText (d : Document) (node : Node) (s : String) : Prop :=
  ∃ header style, d.follow node = .scalar header style s

/-- A value that is, or stands for, some keys with their values. -/
def IsMapping (d : Document) (node : Node) (entries : List (Node × Node)) : Prop :=
  ∃ header, d.follow node = .mapping header entries

/-- A value that is, or stands for, nothing at all. -/
def IsEmpty (d : Document) (node : Node) : Prop :=
  d.follow node = .void ∨ ∃ header, d.follow node = .scalar header .plain ""

/-- What some keys lead to. -/
inductive Holds (d : Document) : Node → List String → Node → Prop
  | here {node} : Holds d node [] node
  | inside {node entries key value name names found} : d.IsMapping node entries →
    (key, value) ∈ entries → d.IsText key name → Holds d value names found →
    Holds d node (name :: names) found

/-- A mapping whose keys are distinct texts. -/
def IsRecord (d : Document) (node : Node) : Prop :=
  ∃ entries names, d.IsMapping node entries ∧
    List.Forall₂ (fun entry name => d.IsText entry.1 name) entries names ∧ names.Nodup

/-- Nothing at all, or a mapping that has each of some keys at most once. -/
def FitsRecord (d : Document) (known : List String) (node : Node) : Prop :=
  d.IsEmpty node ∨ ∃ entries, d.IsMapping node entries ∧ ∀ name ∈ known,
    entries.Pairwise fun entry entry' => d.IsText entry.1 name → ¬ d.IsText entry'.1 name

variable {d : Document} {node : Node} {names : List String}

/-- A value stands for one text at most. -/
lemma IsText.unique {s t : String} (hs : d.IsText node s) (ht : d.IsText node t) : s = t := by
  obtain ⟨_, _, hs⟩ := hs
  obtain ⟨_, _, ht⟩ := ht
  rw [hs] at ht
  cases ht
  rfl

/-- It stands for one mapping at most. -/
lemma IsMapping.unique {es es' : List (Node × Node)} (h : d.IsMapping node es)
    (h' : d.IsMapping node es') : es = es' := by
  obtain ⟨_, h⟩ := h
  obtain ⟨_, h'⟩ := h'
  rw [h] at h'
  cases h'
  rfl

/-- Nothing at all is no mapping. -/
lemma IsEmpty.not_isMapping {es : List (Node × Node)} (h : d.IsEmpty node) : ¬ d.IsMapping node es := by
  rintro ⟨_, mapping⟩
  rcases h with same | ⟨_, same⟩
  · cases same.symm.trans mapping
  · cases same.symm.trans mapping

/-- What some keys lead to stands under the first of them, in an entry of the mapping. -/
lemma Holds.cons {name : String} {found : Node} (h : d.Holds node (name :: names) found) :
    ∃ entries key value, d.IsMapping node entries ∧ (key, value) ∈ entries ∧ d.IsText key name ∧
      d.Holds value names found := by
  cases h with
  | inside mapping entry text within => exact ⟨_, _, _, mapping, entry, text, within⟩

/-- What keys lead to from where other keys lead is where they lead together. -/
lemma Holds.append {names' : List String} {v w : Node} (h : d.Holds node names v)
    (h' : d.Holds v names' w) : d.Holds node (names ++ names') w := by
  induction h with
  | here => exact h'
  | inside mapping entry key _ ih => exact .inside mapping entry key (ih h')

end Document

namespace Document
variable {d : Document} {node found : Node} {names : List String}

/-- All that some keys lead to. -/
def reach (d : Document) : List String → Node → List Node
  | [], node => [node]
  | name :: names, node => match d.follow node with
    | .mapping _ entries => entries.flatMap fun (key, value) => match d.follow key with
      | .scalar _ _ text => if text = name then d.reach names value else []
      | _ => []
    | _ => []

/-- All that some keys lead to is among what is found by following them. -/
lemma Holds.mem_reach (h : d.Holds node names found) : found ∈ d.reach names node := by
  induction h with
  | here => exact List.mem_singleton_self _
  | inside mapping entry text _ ih =>
    obtain ⟨_, mapping⟩ := mapping
    obtain ⟨_, _, text⟩ := text
    rw [reach, mapping]
    refine List.mem_flatMap.2 ⟨_, entry, ?_⟩
    dsimp only
    rw [text]
    dsimp only
    rwa [if_pos rfl]

end Document

/-! ## Whole trees -/

namespace Node
variable {anchor : ℕ} {found : Node}

mutual

/-- What an anchor stands for is no alias, and it is whole if the tree is. -/
lemma find?_some (node : Node) (h : node.find? anchor = some found) :
    (∀ mark a, found ≠ .reference mark a) ∧ (node.isWhole = true → found.isWhole = true) := by
  cases node with
  | scalar header style text =>
    rw [find?] at h
    split at h
    · cases h
      exact ⟨nofun, id⟩
    · cases h
  | list header items =>
    rw [find?] at h
    split at h
    · rename_i within
      cases h
      exact findAmong?_some items within
    · split at h
      · cases h
        exact ⟨nofun, id⟩
      · cases h
  | mapping header entries =>
    rw [find?] at h
    split at h
    · rename_i within
      cases h
      exact findInside?_some entries within
    · split at h
      · cases h
        exact ⟨nofun, id⟩
      · cases h
  | _ => cases h

/-- So it is for an anchor among some values. -/
lemma findAmong?_some (nodes : List Node) (h : findAmong? anchor nodes = some found) :
    (∀ mark a, found ≠ .reference mark a) ∧ (areWhole nodes = true → found.isWhole = true) := by
  cases nodes with
  | nil => cases h
  | cons node nodes =>
    rw [findAmong?] at h
    rw [areWhole, Bool.and_eq_true]
    split at h
    · rename_i later
      cases h
      exact (findAmong?_some nodes later).imp_right fun whole h => whole h.2
    · exact (find?_some node h).imp_right fun whole h => whole h.1

/-- And for one among some entries, in their keys or in their values. -/
lemma findInside?_some (entries : List (Node × Node)) (h : findInside? anchor entries = some found) :
    (∀ mark a, found ≠ .reference mark a) ∧
      (entriesAreWhole entries = true → found.isWhole = true) := by
  cases entries with
  | nil => cases h
  | cons entry entries =>
    obtain ⟨key, value⟩ := entry
    rw [findInside?] at h
    rw [entriesAreWhole, Bool.and_eq_true, Bool.and_eq_true]
    split at h
    · rename_i later
      cases h
      exact (findInside?_some entries later).imp_right fun whole h => whole h.2
    · split at h
      · rename_i there
        cases h
        exact (find?_some value there).imp_right fun whole h => whole h.1.2
      · exact (find?_some key h).imp_right fun whole h => whole h.1.1

end

/-- The values of whole entries are whole. -/
lemma isWhole_of_mem {entries : List (Node × Node)} (h : entriesAreWhole entries = true) :
    ∀ entry ∈ entries, entry.2.isWhole = true := by
  induction entries with
  | nil => exact nofun
  | cons entry entries ih =>
    obtain ⟨key, value⟩ := entry
    rw [entriesAreWhole, Bool.and_eq_true, Bool.and_eq_true] at h
    exact List.forall_mem_cons.2 ⟨h.1.2, ih h.2⟩

end Node

namespace Document
variable {d : Document} {node : Node} {names : List String}

/-- What a value stands for stands for itself. -/
lemma follow_follow (d : Document) (node : Node) : d.follow (d.follow node) = d.follow node := by
  cases node with
  | reference mark anchor =>
    rw [follow]
    cases found : d.root.find? anchor with
    | none => rfl
    | some node =>
      obtain ⟨no_alias, -⟩ := Node.find?_some _ found
      cases node with
      | reference mark a => exact absurd rfl (no_alias mark a)
      | _ => rfl
  | _ => rfl

/-- In a whole document the values of a mapping are whole, behind an alias as well. -/
lemma IsMapping.isWhole {entries : List (Node × Node)} (h : d.IsMapping node entries)
    (root : d.root.isWhole = true) (whole : node.isWhole = true) :
    ∀ entry ∈ entries, entry.2.isWhole = true := by
  obtain ⟨header, h⟩ := h
  refine Node.isWhole_of_mem ?_
  cases node with
  | reference mark anchor =>
    rw [follow] at h
    cases found : d.root.find? anchor with
    | none =>
      rw [found] at h
      cases h
    | some node =>
      rw [found] at h
      cases h
      exact (Node.find?_some _ found).2 root
  | mapping =>
    cases h
    exact whole
  | _ => cases h

/-- So is everything that keys lead to. -/
lemma Holds.isWhole {found : Node} (h : d.Holds node names found) (root : d.root.isWhole = true)
    (whole : node.isWhole = true) : found.isWhole = true := by
  induction h with
  | here => exact whole
  | inside mapping entry _ _ ih => exact ih (mapping.isWhole root whole _ entry)

end Document

/-! ## Entries -/

namespace Decoder

/-- A refusal reads nothing. -/
lemma refuse_ne_ok {α : Type} {wanted : String} {path : Path} {node : Node} {v : α} :
    refuse wanted path node ≠ .ok v := by
  unfold refuse
  split
  · exact nofun
  · exact nofun
  · exact nofun
  · exact nofun

/-- A text is read from what is, or stands for, a text. -/
lemma textAs_eq_ok_iff {wanted : String} {d : Document} {path : Path} {node : Node} {s : String} :
    textAs wanted d path node = .ok s ↔ d.IsText node s := by
  unfold textAs Document.IsText
  split
  · rename_i header style text same
    rw [same]
    constructor
    · rintro ⟨⟩
      exact ⟨header, style, rfl⟩
    · rintro ⟨_, _, ⟨⟩⟩
      rfl
  · rename_i other
    refine ⟨fun h => absurd h refuse_ne_ok, ?_⟩
    rintro ⟨header, style, same⟩
    exact absurd same (other header style s)

section Record
variable {σ α β : Type} {fields : List (KnownKey σ)} {d : Document} {path : Path}

/-- What reading some entries makes of a record, after some keys. -/
inductive Enters (fields : List (KnownKey σ)) (d : Document) (path : Path) :
    List String → σ → List (Node × Node) → σ → Prop
  | nil {seen record} : Enters fields d path seen record [] record
  | unknown {seen record key value name entries record'} : d.IsText key name →
    fields.find? (·.name = name) = none → value.isWhole = true →
    Enters fields d path seen record entries record' →
    Enters fields d path seen record ((key, value) :: entries) record'
  | known {seen record key value name field record₁ entries record'} : d.IsText key name →
    fields.find? (·.name = name) = some field → name ∉ seen →
    field.read record d (path ++ [stepOf key]) value = .ok record₁ →
    Enters fields d path (name :: seen) record₁ entries record' →
    Enters fields d path seen record ((key, value) :: entries) record'

variable {seen : List String} {record record' : σ} {entries : List (Node × Node)}

/-- Reading entries makes of a record what `Enters` says. -/
lemma readEntries_eq_ok_iff :
    readEntries fields d path seen record entries = .ok record' ↔
      Enters fields d path seen record entries record' := by
  induction entries generalizing seen record with
  | nil =>
    rw [readEntries]
    constructor
    · rintro ⟨⟩
      exact .nil
    · intro h
      cases h
      rfl
  | cons entry entries ih =>
    obtain ⟨key, value⟩ := entry
    rw [readEntries]
    constructor
    · intro h
      obtain ⟨name, text, h⟩ := bind_eq_ok h
      have text := textAs_eq_ok_iff.1 text
      split at h
      · rename_i unknown
        split at h
        · exact .unknown text unknown (by assumption) (ih.1 h)
        · cases h
      · rename_i field known
        split at h
        · cases h
        · obtain ⟨record₁, read, h⟩ := bind_eq_ok h
          exact .known text known (by assumption) read (ih.1 h)
    · intro h
      cases h with
      | unknown text unknown whole rest =>
        rw [textAs_eq_ok_iff.2 text]
        simp only [bind, Except.bind, unknown, whole, if_true]
        exact ih.2 rest
      | known text known fresh read rest =>
        rw [textAs_eq_ok_iff.2 text]
        simp only [bind, Except.bind, known, fresh, if_false, read]
        exact ih.2 rest

namespace Enters

/-- A known key occurs no more once it has been seen. -/
lemma not_mem_seen (h : Enters fields d path seen record entries record') {name : String}
    (known : fields.find? (·.name = name) ≠ none) :
    ∀ entry ∈ entries, d.IsText entry.1 name → name ∉ seen := by
  induction h with
  | nil => exact nofun
  | unknown text unknown _ _ ih =>
    refine List.forall_mem_cons.2 ⟨fun text' => ?_, ih⟩
    cases text.unique text'
    exact absurd unknown known
  | known text _ fresh _ _ ih =>
    refine List.forall_mem_cons.2 ⟨fun text' => ?_, fun entry h text' => ?_⟩
    · cases text.unique text'
      exact fresh
    · exact fun old => ih entry h text' (List.mem_cons_of_mem _ old)

/-- So no two entries have the same known key. -/
lemma pairwise (h : Enters fields d path seen record entries record') {name : String}
    (known : fields.find? (·.name = name) ≠ none) :
    entries.Pairwise fun entry entry' => d.IsText entry.1 name → ¬ d.IsText entry'.1 name := by
  induction h with
  | nil => exact .nil
  | unknown text unknown _ _ ih =>
    refine .cons (fun entry' _ text' => ?_) ih
    cases text.unique text'
    exact absurd unknown known
  | known text _ _ _ rest ih =>
    refine .cons (fun entry' h text' again => ?_) ih
    cases text.unique text'
    exact rest.not_mem_seen known entry' h again List.mem_cons_self

end Enters

/-! ## Parts of a record -/

/-- A key that leaves a part of a record alone. -/
def KnownKey.Keeps (field : KnownKey σ) (get : σ → α) : Prop :=
  ∀ record d path node record', field.read record d path node = .ok record' →
    get record' = get record

/-- A key that feeds a part of a record, which no other key does. -/
structure Feeds (fields : List (KnownKey σ)) (name : String) (decoder : Decoder α)
    (get : σ → α) : Prop where
  found : ∃ set, fields.find? (·.name = name) = some (.of name decoder set) ∧
    ∀ record v, get (set record v) = v
  kept : ∀ field ∈ fields, field.name = name ∨ field.Keeps get

/-- A known key reads its value by its decoder and puts it into the record. -/
lemma KnownKey.read_of_eq_ok {name : String} {decoder : Decoder α} {set : σ → α → σ} {node : Node}
    (h : (KnownKey.of name decoder set).read record d path node = .ok record') :
    ∃ v, decoder d path node = .ok v ∧ record' = set record v := by
  obtain ⟨v, read, same⟩ := map_eq_ok (f := set record) h
  exact ⟨v, read, same.symm⟩

@[simp] lemma KnownKey.of_name {name : String} {decoder : Decoder α} {set : σ → α → σ} :
    (KnownKey.of name decoder set).name = name := rfl

/-- A known key leaves alone what its setter leaves alone. -/
@[simp] lemma KnownKey.keeps_of {name : String} {decoder : Decoder β} {set : σ → β → σ} {get : σ → α}
    (h : ∀ record v, get (set record v) = get record) : (KnownKey.of name decoder set).Keeps get := by
  intro record d path node record' read
  obtain ⟨v, -, rfl⟩ := KnownKey.read_of_eq_ok read
  exact h record v

variable {name : String} {decoder : Decoder α} {get : σ → α}

namespace Feeds

/-- A key that feeds a part is a known one. -/
lemma known (feeds : Feeds fields name decoder get) : fields.find? (·.name = name) ≠ none := by
  obtain ⟨set, found, -⟩ := feeds.found
  rw [found]
  exact nofun

/-- What is not fed stays. -/
lemma get_eq_start (feeds : Feeds fields name decoder get)
    (h : Enters fields d path seen record entries record')
    (unfed : ∀ entry ∈ entries, d.IsText entry.1 name → name ∈ seen) : get record' = get record := by
  induction h with
  | nil => rfl
  | unknown _ _ _ _ ih => exact ih (List.forall_mem_cons.1 unfed).2
  | @known _ _ _ _ name' field _ _ _ text known fresh read _ ih =>
    obtain ⟨old, unfed⟩ := List.forall_mem_cons.1 unfed
    rw [ih fun entry h text => List.mem_cons_of_mem _ (unfed entry h text)]
    have same := List.find?_some known
    rw [decide_eq_true_iff] at same
    rcases feeds.kept field (List.mem_of_find?_eq_some known) with here | keeps
    · rw [← same, here] at fresh text
      exact absurd (old text) fresh
    · exact keeps _ _ _ _ _ read

/-- What is fed is what the entry of the key holds. -/
lemma decoder_eq_ok (feeds : Feeds fields name decoder get)
    (h : Enters fields d path seen record entries record') :
    ∀ entry ∈ entries, d.IsText entry.1 name →
      ∃ path, decoder d path entry.2 = .ok (get record') := by
  induction h with
  | nil => exact nofun
  | unknown text unknown _ _ ih =>
    refine List.forall_mem_cons.2 ⟨fun text' => ?_, ih⟩
    cases text.unique text'
    exact absurd unknown feeds.known
  | known text known fresh read rest ih =>
    refine List.forall_mem_cons.2 ⟨fun text' => ?_, ih⟩
    cases text.unique text'
    obtain ⟨set, found, same⟩ := feeds.found
    rw [found] at known
    cases known
    obtain ⟨v, decoded, rfl⟩ := KnownKey.read_of_eq_ok read
    -- the key has been seen, so nothing feeds the part again
    rw [feeds.get_eq_start rest fun _ _ _ => List.mem_cons_self, same]
    exact ⟨_, decoded⟩

end Feeds

/-! ## Whole records -/

variable {kind : String} {start : σ} {node : Node}

/-- A record is read from nothing at all, and is then the one to start with, or from entries. -/
lemma record_eq_ok (h : Decoder.record kind fields start d path node = .ok record) :
    (d.IsEmpty node ∧ record = start) ∨
      ∃ entries, d.IsMapping node entries ∧ Enters fields d path [] start entries record := by
  unfold Decoder.record at h
  split at h
  · rename_i same
    cases h
    exact .inl ⟨.inl same, rfl⟩
  · rename_i header entries same
    exact .inr ⟨entries, ⟨header, same⟩, readEntries_eq_ok_iff.1 (mapError_eq_ok h)⟩
  · rename_i header style text same
    split at h
    · rename_i empty
      cases h
      obtain ⟨rfl, rfl⟩ := empty
      exact .inl ⟨.inr ⟨header, same⟩, rfl⟩
    · exact absurd h refuse_ne_ok
  · exact absurd h refuse_ne_ok

/-- Only what fits a record is read as one. -/
lemma record_fits (h : Decoder.record kind fields start d path node = .ok record) :
    d.FitsRecord (fields.map (·.name)) node := by
  rcases record_eq_ok h with ⟨empty, -⟩ | ⟨entries, mapping, enters⟩
  · exact .inl empty
  · refine .inr ⟨entries, mapping, fun name known => enters.pairwise fun none => ?_⟩
    obtain ⟨field, hf, same⟩ := List.mem_map.1 known
    exact List.find?_eq_none.1 none field hf (decide_eq_true same)

/-- Whether a value can be read. -/
def Accepts (decoder : Decoder α) (d : Document) (node : Node) : Prop :=
  ∀ path, ∃ v, decoder d path node = .ok v

/-- Whether the value of a key can be read into every record. -/
def KnownKey.Accepts (field : KnownKey σ) (d : Document) (node : Node) : Prop :=
  ∀ record path, ∃ record', field.read record d path node = .ok record'

/-- A value that the decoder of a key accepts can be read into every record. -/
lemma KnownKey.Accepts.of {set : σ → α → σ} (h : decoder.Accepts d node) :
    (KnownKey.of name decoder set).Accepts d node := by
  intro record path
  obtain ⟨v, read⟩ := h path
  refine ⟨set record v, ?_⟩
  unfold KnownKey.of
  dsimp only
  rw [read]
  rfl

/-- Distinct texts with readable values at the known ones are entered. -/
lemma exists_enters {names : List String}
    (texts : List.Forall₂ (fun entry name => d.IsText entry.1 name) entries names)
    (distinct : names.Nodup) (fresh : ∀ name ∈ names, name ∉ seen)
    (reads : ∀ field ∈ fields, ∀ entry ∈ entries, d.IsText entry.1 field.name →
      field.Accepts d entry.2)
    (whole : ∀ entry ∈ entries, entry.2.isWhole = true) :
    ∃ record', Enters fields d path seen record entries record' := by
  induction texts generalizing seen record with
  | nil => exact ⟨record, .nil⟩
  | @cons entry name entries names text texts ih =>
    obtain ⟨key, value⟩ := entry
    obtain ⟨other, distinct⟩ := List.nodup_cons.1 distinct
    obtain ⟨new, fresh⟩ := List.forall_mem_cons.1 fresh
    obtain ⟨whole_value, whole⟩ := List.forall_mem_cons.1 whole
    have reads_rest := fun field hf entry he => reads field hf entry (List.mem_cons_of_mem _ he)
    cases known : fields.find? (·.name = name) with
    | none =>
      obtain ⟨record', rest⟩ := ih distinct fresh reads_rest whole
      exact ⟨record', .unknown text known whole_value rest⟩
    | some field =>
      have same := List.find?_some known
      rw [decide_eq_true_iff] at same
      rw [← same] at text
      obtain ⟨record₁, read⟩ := reads field (List.mem_of_find?_eq_some known) _ List.mem_cons_self
        text record (path ++ [stepOf key])
      have still : ∀ name' ∈ names, name' ∉ name :: seen := by
        intro name' h
        rw [List.mem_cons, not_or]
        exact ⟨fun eq => other (eq ▸ h), fresh name' h⟩
      obtain ⟨record', rest⟩ := ih distinct still reads_rest whole
      rw [same] at text
      exact ⟨record', .known text known new read rest⟩

/-- A mapping with distinct keys is accepted if the values of the known ones are. -/
lemma record_accepts (root : d.root.isWhole = true) (whole : node.isWhole = true)
    (mapping : d.IsRecord node)
    (reads : ∀ field ∈ fields, ∀ v, d.Holds node [field.name] v → field.Accepts d v) :
    (Decoder.record kind fields start).Accepts d node := by
  intro path
  obtain ⟨entries, names, ⟨header, same⟩, texts, distinct⟩ := mapping
  have reads_entry : ∀ field ∈ fields, ∀ entry ∈ entries, d.IsText entry.1 field.name →
      field.Accepts d entry.2 := by
    intro field hf entry he text
    exact reads field hf entry.2 (.inside ⟨header, same⟩ he text .here)
  have values := Document.IsMapping.isWhole ⟨header, same⟩ root whole
  obtain ⟨record, enters⟩ : ∃ record, Enters fields d path [] start entries record :=
    exists_enters texts distinct (fun _ _ => List.not_mem_nil) reads_entry values
  refine ⟨record, ?_⟩
  unfold Decoder.record
  rw [same]
  dsimp only
  rw [readEntries_eq_ok_iff.2 enters]
  rfl

/-- Whatever is read, what stands at some keys is found in a part of it, and that part is as at the
start if nothing stands there. -/
def Fills (decoder : Decoder σ) (start : σ) (names : List String) (get : σ → α)
    (Reads : Document → Node → α → Prop) : Prop :=
  ∀ d path node record, decoder d path node = .ok record →
    (∀ v, d.Holds node names v → Reads d v (get record)) ∧
      ((∀ v, ¬ d.Holds node names v) → get record = get start)

variable {Reads : Document → Node → α → Prop}

/-- A decoder whose values are what they should be fills its own value. -/
lemma Fills.here (decoder : Decoder α) (start : α)
    (h : ∀ d path node v, decoder d path node = .ok v → Reads d node v) :
    decoder.Fills start [] id Reads := by
  intro d path node v read
  refine ⟨?_, fun nothing => absurd .here (nothing node)⟩
  rintro _ ⟨⟩
  exact h d path node v read

/-- What fills a part fills a part of the whole. -/
lemma Fills.inside {part : σ → β} {decoder : Decoder β} {names : List String} {get : β → α}
    (feeds : Feeds fields name decoder part) (fills : decoder.Fills (part start) names get Reads) :
    (Decoder.record kind fields start).Fills start (name :: names) (fun s => get (part s)) Reads := by
  intro d path node record read
  rcases record_eq_ok read with ⟨empty, rfl⟩ | ⟨entries, mapping, enters⟩
  · refine ⟨?_, fun _ => rfl⟩
    intro v within
    obtain ⟨entries, _, _, mapping, -⟩ := within.cons
    exact absurd mapping empty.not_isMapping
  · refine ⟨?_, fun nothing => ?_⟩
    · intro v within
      obtain ⟨entries, key, value, mapping', entry, text, within⟩ := within.cons
      cases mapping.unique mapping'
      obtain ⟨path, read⟩ := feeds.decoder_eq_ok enters _ entry text
      exact (fills d path value _ read).1 v within
    · by_cases fed : ∃ entry ∈ entries, d.IsText entry.1 name
      · obtain ⟨entry, he, text⟩ := fed
        obtain ⟨path, read⟩ := feeds.decoder_eq_ok enters entry he text
        exact (fills d path entry.2 _ read).2 fun v within =>
          nothing v (.inside mapping he text within)
      · exact congrArg get (feeds.get_eq_start enters fun entry he text => absurd ⟨entry, he, text⟩ fed)

end Record

end Decoder

/-! ## Whole documents -/

namespace Document
variable {α : Type} {d : Document} {decoder : Decoder α} {v : α}

/-- The only document of a text without faults. -/
structure IsSound (d : Document) : Prop where
  fault : d.fault = none
  single : d.followed = false
  whole : d.root.isWhole = true

/-- What the decoder reads is what the text of a sound document is read as. -/
lemma IsSound.decode_eq_ok (sound : d.IsSound) (h : decoder d [] d.root = .ok v) :
    d.decode decoder = .ok v := by
  rw [decode, h]
  dsimp only
  rw [sound.fault, sound.single]
  rfl

/-- What a text is read as is what the decoder reads from its root. -/
lemma eq_ok_of_decode (h : d.decode decoder = .ok v) : decoder d [] d.root = .ok v := by
  unfold decode at h
  split at h
  · cases h
  · rename_i w read
    split at h
    · cases h
    · split at h
      · cases h
      · cases h
        exact read

end Document

end PackageFinder.Yaml
