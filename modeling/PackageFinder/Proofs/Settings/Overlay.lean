import PackageFinder.Proofs.Yaml.Value
import PackageFinder.Settings.Load

/-!
# What a settings file says

A settings file is laid over the default settings. Each setting has a place in the document and takes
what stands there, or stays at its default if nothing does; a place that holds what cannot be read
spoils the whole file. The main statement is `ofFile_overlay`.
-/

namespace PackageFinder
open Link (MatchMode)
open Yaml (Document Node Decoder IsBool IsFloat IsNatural)
open Yaml.Decoder (Feeds Fills KnownKey)

/-! ## Places of settings -/

/-- The name of a match mode. -/
inductive IsModeName : String → MatchMode → Prop
  | greedy : IsModeName "greedy" .greedy
  | first : IsModeName "first" .first

/-- A setting with its place in a document. `Reads` says what a value means there, if it can be read. -/
structure Leaf where
  names : List String
  {Value : Type}
  get : Settings → Value
  decoder : Decoder Value
  Reads : Document → Node → Value → Prop
  decoder_eq_ok_iff {d path node v} : decoder d path node = .ok v ↔ Reads d node v

/-- The known modes are the ones that have a name. -/
lemma lookup_modes {name : String} {mode : MatchMode} :
    ExtractionSettings.modes.lookup name = some mode ↔ IsModeName name mode := by
  rw [ExtractionSettings.modes, List.lookup_cons, List.lookup_cons, List.lookup_nil]
  constructor
  · intro h
    split at h
    · rename_i same
      cases h
      rw [eq_of_beq same]
      exact .greedy
    · split at h
      · rename_i same
        cases h
        rw [eq_of_beq same]
        exact .first
      · cases h
  · intro h
    cases h with
    | greedy => rfl
    | first => rfl

/-- A setting that is a text. -/
def Leaf.text (names : List String) (get : Settings → String) : Leaf where
  names := names
  get := get
  decoder := .text
  Reads := Document.IsText
  decoder_eq_ok_iff := Decoder.textAs_eq_ok_iff

/-- A setting that is a text or nothing. -/
def Leaf.optional (names : List String) (get : Settings → Option String) : Leaf where
  names := names
  get := get
  decoder := .textOrNone
  Reads := Document.IsOptional
  decoder_eq_ok_iff := Decoder.textOrNone_eq_ok_iff

/-- A setting that is a whole number up to a bound. -/
def Leaf.natural (names : List String) (get : Settings → ℕ) (wanted : String) (bound : ℕ)
    (fits : bound < UInt64.size) : Leaf where
  names := names
  get := get
  decoder := .natural bound wanted
  Reads d node n := ∃ s, d.Spells "int" node s ∧ IsNatural s.toList n ∧ n ≤ bound
  decoder_eq_ok_iff := Decoder.natural_eq_ok_iff fits

/-- The settings. -/
def leaves : List Leaf :=
  [.text ["search", "endpoint"] fun s => s.search.endpoint,
   .text ["search", "locale"] fun s => s.search.locale,
   .text ["search", "sort"] fun s => s.search.sort,
   .text ["search", "facet"] fun s => s.search.facet,
   .text ["search", "category"] fun s => s.search.category,
   .natural ["search", "pages"] (fun s => s.search.pages) "u32" pagesBound (by decide),
   { names := ["outgoing", "request_timeout"]
     get := fun s => s.outgoing.requestTimeout
     decoder := .double
     Reads := fun d node x => ∃ s, d.Spells "float" node s ∧ IsFloat s.toList x
     decoder_eq_ok_iff := Decoder.double_eq_ok_iff },
   .optional ["outgoing", "user_agent"] fun s => s.outgoing.userAgent,
   { names := ["outgoing", "verify_ssl"]
     get := fun s => s.outgoing.verifySsl
     decoder := .bool
     Reads := fun d node b => ∃ s, d.Spells "bool" node s ∧ IsBool s b
     decoder_eq_ok_iff := Decoder.bool_eq_ok_iff },
   .natural ["outgoing", "detail_concurrency"] (fun s => s.outgoing.detailConcurrency) "usize"
     concurrencyBound (by decide),
   .optional ["outgoing", "proxies", "http"] fun s => s.outgoing.proxies.http,
   .optional ["outgoing", "proxies", "https"] fun s => s.outgoing.proxies.https,
   .optional ["outgoing", "proxies", "all"] fun s => s.outgoing.proxies.all,
   { names := ["extraction", "match_mode"]
     get := fun s => s.extraction.matchMode
     decoder := .name ExtractionSettings.modes
     Reads := fun d node mode => ∃ s, d.IsName node s ∧ IsModeName s mode
     decoder_eq_ok_iff := by
      intro d path node mode
      simp only [Decoder.name_eq_ok_iff, lookup_modes] }]

/-- The sections, each with its known keys. -/
def sections : List (List String × List String) :=
  [([], ["search", "outgoing", "extraction"]),
   (["search"], ["endpoint", "locale", "sort", "facet", "category", "pages"]),
   (["outgoing"], ["request_timeout", "user_agent", "verify_ssl", "proxies", "detail_concurrency"]),
   (["outgoing", "proxies"], ["http", "https", "all"]),
   (["extraction"], ["match_mode"])]

/-- A document of records with readable settings. -/
structure IsOverlay (d : Document) : Prop where
  records : ∀ p ∈ sections, ∀ node, d.Holds d.root p.1 node → d.IsRecord node
  leaves : ∀ leaf ∈ leaves, ∀ node, d.Holds d.root leaf.names node → ∃ v, leaf.Reads d node v

/-- What spoils a document: a setting that cannot be read, a section that is none, and a known key
twice in a section. -/
inductive IsSpoilt (d : Document) : Prop
  | leaf {leaf node} : leaf ∈ leaves → d.Holds d.root leaf.names node →
    (∀ v, ¬ leaf.Reads d node v) → IsSpoilt d
  | noSection {p node} : p ∈ sections → d.Holds d.root p.1 node → ¬ d.IsEmpty node →
    (∀ entries, ¬ d.IsMapping node entries) → IsSpoilt d
  | repeated {p node entries entry entry' name} : p ∈ sections → d.Holds d.root p.1 node →
    d.IsMapping node entries → [entry, entry'].Sublist entries → name ∈ p.2 →
    d.IsText entry.1 name → d.IsText entry'.1 name → IsSpoilt d

/-! ## Parts of records -/

/-- Each setting of the search is fed by its key. -/
lemma SearchSettings.feeds :
    Feeds fields "endpoint" .text (·.endpoint) ∧ Feeds fields "locale" .text (·.locale) ∧
      Feeds fields "sort" .text (·.sort) ∧ Feeds fields "facet" .text (·.facet) ∧
      Feeds fields "category" .text (·.category) ∧
      Feeds fields "pages" (.natural pagesBound "u32") (·.pages) := by
  refine ⟨?_, ?_, ?_, ?_, ?_, ?_⟩
  all_goals exact ⟨⟨_, rfl, fun _ _ => rfl⟩, by simp [fields]⟩

/-- Each proxy is fed by its key. -/
lemma ProxySettings.feeds :
    Feeds fields "http" .textOrNone (·.http) ∧ Feeds fields "https" .textOrNone (·.https) ∧
      Feeds fields "all" .textOrNone (·.all) := by
  refine ⟨?_, ?_, ?_⟩
  all_goals exact ⟨⟨_, rfl, fun _ _ => rfl⟩, by simp [fields]⟩

/-- Each setting of the requests is fed by its key, and the proxies by theirs. -/
lemma OutgoingSettings.feeds :
    Feeds fields "request_timeout" .double (·.requestTimeout) ∧
      Feeds fields "user_agent" .textOrNone (·.userAgent) ∧
      Feeds fields "verify_ssl" .bool (·.verifySsl) ∧
      Feeds fields "proxies" ProxySettings.decoder (·.proxies) ∧
      Feeds fields "detail_concurrency" (.natural concurrencyBound "usize") (·.detailConcurrency) := by
  refine ⟨?_, ?_, ?_, ?_, ?_⟩
  all_goals exact ⟨⟨_, rfl, fun _ _ => rfl⟩, by simp [fields]⟩

/-- The match mode is fed by its key. -/
lemma ExtractionSettings.feeds : Feeds fields "match_mode" (.name modes) (·.matchMode) :=
  ⟨⟨_, rfl, fun _ _ => rfl⟩, by simp [fields]⟩

/-- Each section is fed by its key. -/
lemma Settings.feeds :
    Feeds fields "search" SearchSettings.decoder (·.search) ∧
      Feeds fields "outgoing" OutgoingSettings.decoder (·.outgoing) ∧
      Feeds fields "extraction" ExtractionSettings.decoder (·.extraction) := by
  refine ⟨?_, ?_, ?_⟩
  all_goals exact ⟨⟨_, rfl, fun _ _ => rfl⟩, by simp [fields]⟩

/-! ## What is read -/

namespace Settings

section Sections
variable {α : Type} {names : List String} {Reads : Document → Node → α → Prop}

/-- What fills a part of the search settings fills a part of the settings. -/
lemma fills_search {get : SearchSettings → α} (h : SearchSettings.decoder.Fills {} names get Reads) :
    decoder.Fills {} ("search" :: names) (fun s => get s.search) Reads :=
  .inside feeds.1 h

/-- So does what fills a part of the settings of the requests. -/
lemma fills_outgoing {get : OutgoingSettings → α}
    (h : OutgoingSettings.decoder.Fills {} names get Reads) :
    decoder.Fills {} ("outgoing" :: names) (fun s => get s.outgoing) Reads :=
  .inside feeds.2.1 h

/-- So does what fills a part of the proxies, which stand one level below. -/
lemma fills_proxies {get : ProxySettings → α} (h : ProxySettings.decoder.Fills {} names get Reads) :
    decoder.Fills {} ("outgoing" :: "proxies" :: names) (fun s => get s.outgoing.proxies) Reads := by
  obtain ⟨_, _, _, proxies, _⟩ := OutgoingSettings.feeds
  exact fills_outgoing (.inside proxies h)

/-- And so does what fills a part of the extraction settings. -/
lemma fills_extraction {get : ExtractionSettings → α}
    (h : ExtractionSettings.decoder.Fills {} names get Reads) :
    decoder.Fills {} ("extraction" :: names) (fun s => get s.extraction) Reads :=
  .inside feeds.2.2 h

end Sections

/-- What stands at the place of a setting is what is read for it. -/
lemma fills_leaf : ∀ leaf ∈ leaves, decoder.Fills {} leaf.names leaf.get leaf.Reads := by
  obtain ⟨endpoint, locale, sort, facet, category, pages⟩ := SearchSettings.feeds
  obtain ⟨timeout, agent, verify, -, concurrency⟩ := OutgoingSettings.feeds
  obtain ⟨http, https, all⟩ := ProxySettings.feeds
  intro leaf hl
  have here := fun start => Fills.here leaf.decoder start fun _ _ _ _ => leaf.decoder_eq_ok_iff.1
  simp only [leaves, List.mem_cons, List.not_mem_nil, or_false] at hl
  rcases hl with rfl | rfl | rfl | rfl | rfl | rfl | rfl | rfl | rfl | rfl | rfl | rfl | rfl | rfl
  · exact fills_search (.inside endpoint (here _))
  · exact fills_search (.inside locale (here _))
  · exact fills_search (.inside sort (here _))
  · exact fills_search (.inside facet (here _))
  · exact fills_search (.inside category (here _))
  · exact fills_search (.inside pages (here _))
  · exact fills_outgoing (.inside timeout (here _))
  · exact fills_outgoing (.inside agent (here _))
  · exact fills_outgoing (.inside verify (here _))
  · exact fills_outgoing (.inside concurrency (here _))
  · exact fills_proxies (.inside http (here _))
  · exact fills_proxies (.inside https (here _))
  · exact fills_proxies (.inside all (here _))
  · exact fills_extraction (.inside ExtractionSettings.feeds (here _))

/-- What stands at the place of a section is one, with its known keys at most once. -/
lemma fits_section : ∀ p ∈ sections, ∀ d path node s, decoder d path node = .ok s →
    ∀ v, d.Holds node p.1 v → d.FitsRecord p.2 v := by
  intro p hp d path node s read
  simp only [sections, List.mem_cons, List.not_mem_nil, or_false] at hp
  rcases hp with rfl | rfl | rfl | rfl | rfl
  · rintro _ ⟨⟩
    exact Decoder.record_fits read
  · exact (fills_search (.here _ _ fun _ _ _ _ => Decoder.record_fits) d path node s read).1
  · exact (fills_outgoing (.here _ _ fun _ _ _ _ => Decoder.record_fits) d path node s read).1
  · exact (fills_proxies (.here _ _ fun _ _ _ _ => Decoder.record_fits) d path node s read).1
  · exact (fills_extraction (.here _ _ fun _ _ _ _ => Decoder.record_fits) d path node s read).1

section Accepts
variable {d : Document} {node : Node}

/-- A section is read if its settings and the sections inside are. -/
lemma accepts_section {σ : Type} {fields : List (KnownKey σ)} {kind : String} {start : σ}
    {names known : List String} (sound : d.IsSound) (overlay : IsOverlay d)
    (is_section : (names, known) ∈ sections) (held : d.Holds d.root names node)
    (accepts : ∀ field ∈ fields, ∀ v, d.Holds d.root (names ++ [field.name]) v → field.Accepts d v) :
    (Decoder.record kind fields start).Accepts d node := by
  refine Decoder.record_accepts sound.whole (held.isWhole sound.whole sound.whole)
    (overlay.records _ is_section node held) fun field hf v within => ?_
  exact accepts field hf v (held.append within)

/-- All of an overlay is read. -/
lemma accepts_root (sound : d.IsSound) (overlay : IsOverlay d) : decoder.Accepts d d.root := by
  have settings : ∀ leaf ∈ leaves, ∀ v, d.Holds d.root leaf.names v → leaf.decoder.Accepts d v := by
    intro leaf hl v held path
    obtain ⟨x, reads⟩ := overlay.leaves leaf hl v held
    exact ⟨x, leaf.decoder_eq_ok_iff.2 reads⟩
  simp only [leaves, List.forall_mem_cons] at settings
  obtain ⟨endpoint, locale, sort, facet, category, pages, timeout, agent, verify, concurrency, http,
    https, all, mode, -⟩ := settings
  -- from the inside out, a section after the ones that stand in it
  have proxies : ∀ v, d.Holds d.root ["outgoing", "proxies"] v → ProxySettings.decoder.Accepts d v := by
    intro v held
    refine accepts_section sound overlay (.tail _ (.tail _ (.tail _ (.head _)))) held ?_
    simp only [ProxySettings.fields, List.forall_mem_cons]
    exact ⟨fun v h => .of (http v h), fun v h => .of (https v h), fun v h => .of (all v h), nofun⟩
  have search : ∀ v, d.Holds d.root ["search"] v → SearchSettings.decoder.Accepts d v := by
    intro v held
    refine accepts_section sound overlay (.tail _ (.head _)) held ?_
    simp only [SearchSettings.fields, List.forall_mem_cons]
    exact ⟨fun v h => .of (endpoint v h), fun v h => .of (locale v h), fun v h => .of (sort v h),
      fun v h => .of (facet v h), fun v h => .of (category v h), fun v h => .of (pages v h), nofun⟩
  have outgoing : ∀ v, d.Holds d.root ["outgoing"] v → OutgoingSettings.decoder.Accepts d v := by
    intro v held
    refine accepts_section sound overlay (.tail _ (.tail _ (.head _))) held ?_
    simp only [OutgoingSettings.fields, List.forall_mem_cons]
    exact ⟨fun v h => .of (timeout v h), fun v h => .of (agent v h), fun v h => .of (verify v h),
      fun v h => .of (proxies v h), fun v h => .of (concurrency v h), nofun⟩
  have extraction : ∀ v, d.Holds d.root ["extraction"] v →
      ExtractionSettings.decoder.Accepts d v := by
    intro v held
    refine accepts_section sound overlay (.tail _ (.tail _ (.tail _ (.tail _ (.head _))))) held ?_
    simp only [ExtractionSettings.fields, List.forall_mem_cons]
    exact ⟨fun v h => .of (mode v h), nofun⟩
  refine accepts_section sound overlay (.head _) .here ?_
  simp only [Settings.fields, List.forall_mem_cons]
  exact ⟨fun v h => .of (search v h), fun v h => .of (outgoing v h), fun v h => .of (extraction v h),
    nofun⟩

end Accepts

/-! ## All of it -/

/-- The settings of a file are decoded from its text. -/
lemma ofFile_of_text {files : Files} {path text : String} (h : files.readText path = .ok text) :
    ofFile files path = ((Document.parse text).decode decoder).mapError .text := by
  rw [ofFile, h]
  rfl

/-- A settings file is laid over the default settings: each of fourteen settings is what stands at its
place, or the default one if nothing does. An overlay is always read, whatever else stands in it and in
whatever order, and a spoilt document never is. -/
theorem ofFile_overlay {files : Files} {path text : String} (h : files.readText path = .ok text) :
    ((Document.parse text).IsSound → IsOverlay (Document.parse text) →
      ∃ s, ofFile files path = .ok s) ∧
    (∀ s, ofFile files path = .ok s → ∀ leaf ∈ leaves,
      (∀ node, (Document.parse text).Holds (Document.parse text).root leaf.names node →
        ∀ v, leaf.Reads (Document.parse text) node v ↔ leaf.get s = v) ∧
      ((∀ node, ¬ (Document.parse text).Holds (Document.parse text).root leaf.names node) →
        leaf.get s = leaf.get {})) ∧
    (IsSpoilt (Document.parse text) → ∃ complaint, ofFile files path = .error (.text complaint)) := by
  rw [ofFile_of_text h]
  generalize Document.parse text = d
  have read : ∀ s, (d.decode decoder).mapError LoadError.text = .ok s → decoder d [] d.root = .ok s := by
    intro s h
    exact Document.eq_ok_of_decode (mapError_eq_ok h)
  refine ⟨fun sound overlay => ?_, fun s h leaf hl => ?_, fun spoilt => ?_⟩
  · obtain ⟨s, accepted⟩ := accepts_root sound overlay []
    exact ⟨s, by rw [sound.decode_eq_ok accepted]; rfl⟩
  · obtain ⟨fed, unfed⟩ := fills_leaf leaf hl d [] d.root s (read s h)
    refine ⟨fun node held v => ⟨fun reads => ?_, ?_⟩, unfed⟩
    · have one : leaf.decoder d [] node = .ok v := leaf.decoder_eq_ok_iff.2 reads
      rw [leaf.decoder_eq_ok_iff.2 (fed node held)] at one
      exact Except.ok.inj one
    · rintro rfl
      exact fed node held
  · cases decoded : d.decode decoder with
    | error complaint => exact ⟨complaint, rfl⟩
    | ok s =>
      have read := Document.eq_ok_of_decode decoded
      cases spoilt with
      | leaf hl held unread => exact absurd ((fills_leaf _ hl d [] d.root s read).1 _ held) (unread _)
      | noSection hp held full no_mapping =>
        rcases fits_section _ hp d [] d.root s read _ held with empty | ⟨entries, mapping, -⟩
        · exact absurd empty full
        · exact absurd mapping (no_mapping entries)
      | repeated hp held mapping twice known text text' =>
        rcases fits_section _ hp d [] d.root s read _ held with empty | ⟨entries, mapping', once⟩
        · exact absurd mapping empty.not_isMapping
        · cases mapping.unique mapping'
          exact absurd text' (List.pairwise_iff_forall_sublist.1 (once _ known) twice text)

/-- The name of a match mode in a file. -/
def modeNode : Node := .scalar { mark := ⟨38, 2, 14⟩ } .plain "first"

/-- Its section, where something else stands too. -/
def modeSection : Node := .mapping { mark := ⟨14, 1, 2⟩ }
  [(.scalar { mark := ⟨14, 1, 2⟩ } .plain "mood",
      .list { mark := ⟨20, 1, 8⟩ } [.scalar { mark := ⟨21, 1, 9⟩ } .plain "x"]),
   (.scalar { mark := ⟨26, 2, 2⟩ } .plain "match_mode", modeNode)]

/-- Its document. -/
def modeDocument : Document where
  root := .mapping { mark := ⟨0, 0, 0⟩ }
    [(.scalar { mark := ⟨0, 0, 0⟩ } .plain "extraction", modeSection)]

/-- Its text. -/
def modeText : String := "extraction:\n  mood: [x]\n  match_mode: first\n"

/-- That document is read from that text. -/
lemma parse_modeText : Document.parse modeText = modeDocument := by
  decide +kernel

/-- It is an overlay; what else stands in it does not matter. -/
lemma isOverlay_modeDocument : IsOverlay modeDocument := by
  constructor
  · simp only [sections, List.forall_mem_cons]
    refine ⟨?_, ?_, ?_, ?_, ?_, nofun⟩
    · intro node held
      cases List.mem_singleton.1 held.mem_reach
      exact ⟨_, ["extraction"], ⟨_, rfl⟩, .cons ⟨_, _, rfl⟩ .nil, by decide⟩
    · exact fun node held => absurd held.mem_reach List.not_mem_nil
    · exact fun node held => absurd held.mem_reach List.not_mem_nil
    · exact fun node held => absurd held.mem_reach List.not_mem_nil
    · intro node held
      cases List.mem_singleton.1 held.mem_reach
      exact ⟨_, ["mood", "match_mode"], ⟨_, rfl⟩, .cons ⟨_, _, rfl⟩ (.cons ⟨_, _, rfl⟩ .nil), by decide⟩
  · intro leaf hl node held
    simp only [leaves, List.mem_cons, List.not_mem_nil, or_false] at hl
    rcases hl with rfl | rfl | rfl | rfl | rfl | rfl | rfl | rfl | rfl | rfl | rfl | rfl | rfl | rfl
    -- nothing stands at any place but the last
    all_goals try exact absurd held.mem_reach List.not_mem_nil
    cases List.mem_singleton.1 held.mem_reach
    exact ⟨.first, "first", .text rfl nofun, .first⟩

/-- The number of pages in another file. -/
def manyPages : Node := .scalar { mark := ⟨17, 0, 17⟩ } .plain "4294967296"

/-- Its document. -/
def manyDocument : Document where
  root := .mapping { mark := ⟨0, 0, 0⟩ }
    [(.scalar { mark := ⟨1, 0, 1⟩ } .plain "search", .mapping { mark := ⟨9, 0, 9⟩ }
      [(.scalar { mark := ⟨10, 0, 10⟩ } .plain "pages", manyPages)])]

/-- Its text. -/
def manyText : String := "\x7bsearch: \x7bpages: 4294967296\x7d\x7d"

/-- That document is read from that text. -/
lemma parse_manyText : Document.parse manyText = manyDocument := by
  decide +kernel

/-- So many pages cannot be set. -/
lemma isSpoilt_manyDocument : IsSpoilt manyDocument := by
  have held : manyDocument.Holds manyDocument.root ["search", "pages"] manyPages :=
    .inside ⟨_, rfl⟩ (.head _) ⟨_, _, rfl⟩ (.inside ⟨_, rfl⟩ (.head _) ⟨_, _, rfl⟩ .here)
  refine .leaf (.tail _ (.tail _ (.tail _ (.tail _ (.tail _ (.head _)))))) held ?_
  intro n reads
  have read : Decoder.natural pagesBound "u32" manyDocument [] manyPages = .ok n :=
    (Decoder.natural_eq_ok_iff (by decide)).2 reads
  have refused : (Decoder.natural pagesBound "u32" manyDocument [] manyPages).toOption = none := by
    decide +kernel
  rw [read] at refused
  cases refused

/-- The two files. -/
def twoFiles : Files := fun path =>
  if path = "mode.yml" then .ok (.file modeText.toUTF8.data.toList)
  else .ok (.file manyText.toUTF8.data.toList)

/-- They hold the two texts. -/
lemma readText_twoFiles : twoFiles.readText "mode.yml" = .ok modeText ∧
    twoFiles.readText "many.yml" = .ok manyText := by
  decide +kernel

/-- The first file sets a match mode and nothing else, and the second one is refused. -/
theorem ofFile_overlay_twoFiles :
    (∃ s, ofFile twoFiles "mode.yml" = .ok s ∧ s.extraction.matchMode = .first ∧
      s.search.pages = 17) ∧
    ∃ complaint, ofFile twoFiles "many.yml" = .error (.text complaint) := by
  obtain ⟨read, set, -⟩ := ofFile_overlay readText_twoFiles.1
  obtain ⟨-, -, refused⟩ := ofFile_overlay readText_twoFiles.2
  rw [parse_modeText] at read set
  rw [parse_manyText] at refused
  have sound : modeDocument.IsSound := ⟨rfl, rfl, rfl⟩
  obtain ⟨s, loaded⟩ := read sound isOverlay_modeDocument
  simp only [leaves, List.forall_mem_cons] at set
  obtain ⟨-, -, -, -, -, pages, -, -, -, -, -, -, -, mode, -⟩ := set s loaded
  refine ⟨⟨s, loaded, ?_, ?_⟩, refused isSpoilt_manyDocument⟩
  · have held : modeDocument.Holds modeDocument.root ["extraction", "match_mode"] modeNode :=
      .inside ⟨_, rfl⟩ (.head _) ⟨_, _, rfl⟩ (.inside ⟨_, rfl⟩ (.tail _ (.head _)) ⟨_, _, rfl⟩ .here)
    exact (mode.1 modeNode held .first).1 ⟨"first", .text rfl nofun, .first⟩
  · exact pages.2 fun node held => absurd held.mem_reach List.not_mem_nil

end Settings

end PackageFinder
