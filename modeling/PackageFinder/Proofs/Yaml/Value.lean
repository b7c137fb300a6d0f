import PackageFinder.Proofs.Text.Utf8
import PackageFinder.Proofs.Yaml.Record
import PackageFinder.Proofs.Yaml.Spelling

/-!
# Reading values

What the decoders of single values take, each as a relation between a value of a document and what is
read from it.
-/

namespace PackageFinder.Yaml

/-! ## What values stand for -/

namespace Document

/-- A text that spells a value of a kind: it is plain, or a literal block with the tag of the kind. -/
inductive Spells (d : Document) (kind : String) (node : Node) : String → Prop
  | plain {header s} : d.follow node = .scalar header .plain s → Spells d kind node s
  | literal {header s} : d.follow node = .scalar header .literal s →
    header.tag = some (standardTag kind) → Spells d kind node s

/-- A text, or nothing. -/
inductive IsOptional (d : Document) (node : Node) : Option String → Prop
  | void : d.follow node = .void → IsOptional d node none
  | empty {header} : d.follow node = .scalar header .plain "" → header.tag = none →
    IsOptional d node none
  | word {header s} : d.follow node = .scalar header .plain s → s ∈ ["null", "Null", "NULL", "~"] →
    header.tag = none ∨ header.tag = some (standardTag "null") → IsOptional d node none
  | plain {header s} : d.follow node = .scalar header .plain s → header.tag = none → s ≠ "" →
    s ∉ ["null", "Null", "NULL", "~"] → IsOptional d node (some s)
  | tagged {header tag s} : d.follow node = .scalar header .plain s → header.tag = some tag →
    tag ≠ standardTag "null" → IsOptional d node (some s)
  | styled {header style s} : d.follow node = .scalar header style s → style ≠ .plain →
    IsOptional d node (some s)

/-- The tag that is a name. -/
def nameTag (name : String) : Tag := Text.utf8 ('!' :: name.toList)

/-- A name: a text, or the tag of nothing. -/
inductive IsName (d : Document) (node : Node) : String → Prop
  | text {header style s} : d.follow node = .scalar header style s →
    (∀ name, header.tag ≠ some (nameTag name)) → IsName d node s
  | tag {header s name} : d.follow node = .scalar header .plain s → header.tag = some (nameTag name) →
    s = "" ∨ s ∈ ["null", "Null", "NULL", "~"] → IsName d node name

/-- What spells a value of a kind is a text. -/
lemma Spells.isText {d : Document} {kind : String} {node : Node} {s : String}
    (h : d.Spells kind node s) : d.IsText node s := by
  cases h with
  | plain same => exact ⟨_, _, same⟩
  | literal same => exact ⟨_, _, same⟩

end Document

/-! ## What is read -/

namespace Decoder
variable {α : Type} {d : Document} {path : Path} {node : Node} {kind wanted : String}

/-- The texts that may be read as a value of a kind are the ones that spell one. -/
lemma canSpell_iff {header : Header} {style : Style} {s : String}
    (same : d.follow node = .scalar header style s) :
    canSpell kind header style = true ↔ d.Spells kind node s := by
  rw [canSpell, Bool.or_eq_true, Bool.and_eq_true, decide_eq_true_iff, decide_eq_true_iff,
    decide_eq_true_iff]
  constructor
  · rintro (rfl | ⟨rfl, tag⟩)
    · exact .plain same
    · exact .literal same tag
  · rintro (same' | ⟨same', tag⟩)
    · cases same.symm.trans same'
      exact .inl rfl
    · cases same.symm.trans same'
      exact .inr ⟨rfl, tag⟩

/-- A value of a kind is read from what spells it. -/
lemma spelt_eq_ok_iff {read : List Char → Option α} {v : α} :
    spelt kind wanted read d path node = .ok v ↔
      ∃ s, d.Spells kind node s ∧ read s.toList = some v := by
  unfold spelt
  split
  · rename_i header style s same
    constructor
    · intro h
      split at h
      · rename_i v' value
        cases h
        split at value
        · exact ⟨s, (canSpell_iff same).1 (by assumption), value⟩
        · cases value
      · exact absurd h refuse_ne_ok
    · rintro ⟨s', spells, value⟩
      cases spells.isText.unique ⟨header, style, same⟩
      rw [if_pos ((canSpell_iff same).2 spells), value]
  · rename_i other
    refine ⟨fun h => absurd h refuse_ne_ok, ?_⟩
    rintro ⟨s, spells, -⟩
    obtain ⟨header, style, same⟩ := spells.isText
    exact absurd same (other header style s)

/-- A truth value is read from one of its words, and from nothing else. -/
lemma bool_eq_ok_iff {b : Bool} :
    bool d path node = .ok b ↔ ∃ s, d.Spells "bool" node s ∧ IsBool s b := by
  simp only [bool, spelt_eq_ok_iff, String.ofList_toList, readBool?_eq_some_iff]

/-- A double is read from its spellings, and from nothing else. -/
lemma double_eq_ok_iff {x : Binary64} :
    double d path node = .ok x ↔ ∃ s, d.Spells "float" node s ∧ IsFloat s.toList x := by
  simp only [double, spelt_eq_ok_iff, readFloat?_eq_some_iff]

/-- A whole number is read from its spellings if it has no more than 64 bits. -/
lemma word_eq_ok_iff {n : ℕ} : word wanted d path node = .ok n ↔
    ∃ s, d.Spells "int" node s ∧ IsNatural s.toList n ∧ n < UInt64.size := by
  simp only [word, spelt_eq_ok_iff, Option.filter_eq_some_iff, readUnsigned?_eq_some_iff,
    decide_eq_true_iff]

/-- A bounded number is read from the same spellings if it is within its bound. -/
lemma natural_eq_ok_iff {bound n : ℕ} (fits : bound < UInt64.size) :
    natural bound wanted d path node = .ok n ↔
      ∃ s, d.Spells "int" node s ∧ IsNatural s.toList n ∧ n ≤ bound := by
  constructor
  · intro h
    obtain ⟨m, read, h⟩ := bind_eq_ok h
    obtain ⟨s, spells, number, -⟩ := word_eq_ok_iff.1 read
    split at h
    · cases h
      exact ⟨s, spells, number, by assumption⟩
    · split at h
      · cases h
      · cases h
  · rintro ⟨s, spells, number, small⟩
    have read : word wanted d path node = .ok n :=
      word_eq_ok_iff.2 ⟨s, spells, number, small.trans_lt fits⟩
    rw [natural, read]
    exact if_pos small

/-- A plain text is read for itself, unless it means nothing. -/
lemma textOrNone_plain {header : Header} {s : String} {v : Option String}
    (same : d.follow node = .scalar header .plain s) :
    textOrNone d path node = .ok v ↔ d.IsOptional node v := by
  unfold textOrNone
  rw [same]
  simp only [isNullWord, List.contains_iff_mem]
  constructor
  · intro h
    -- the words count only without a tag, or with the one for nothing
    split at h
    · rename_i tag tagged
      split at h
      · cases h
        exact .tagged same tagged (by assumption)
      · rename_i null
        rw [not_not.1 null] at tagged
        split at h
        · cases h
          exact .word same (by assumption) (.inr tagged)
        · cases h
    · rename_i untagged
      cases h
      split
      · rename_i nothing
        rcases nothing with rfl | word
        · exact .empty same untagged
        · exact .word same word (.inl untagged)
      · rename_i something
        obtain ⟨nonempty, no_word⟩ := not_or.1 something
        exact .plain same untagged nonempty no_word
  · intro h
    cases h with
    | void same' => cases same.symm.trans same'
    | styled same' styled =>
      cases same.symm.trans same'
      exact absurd rfl styled
    | empty same' untagged =>
      cases same.symm.trans same'
      rw [untagged]
      rfl
    | word same' word tags =>
      cases same.symm.trans same'
      rcases tags with untagged | tagged
      · rw [untagged]
        exact congrArg Except.ok (if_pos (.inr word))
      · rw [tagged]
        dsimp only
        rw [if_neg (not_not.2 rfl), if_pos word]
    | plain same' untagged nonempty no_word =>
      cases same.symm.trans same'
      rw [untagged]
      exact congrArg Except.ok (if_neg (not_or.2 ⟨nonempty, no_word⟩))
    | tagged same' tagged other =>
      cases same.symm.trans same'
      rw [tagged]
      exact if_pos other

/-- Where there is no value at all, nothing is read. -/
lemma textOrNone_void {v : Option String} (same : d.follow node = .void) :
    textOrNone d path node = .ok v ↔ d.IsOptional node v := by
  unfold textOrNone
  rw [same]
  constructor
  · rintro ⟨⟩
    exact .void same
  · intro h
    cases h with
    | void => rfl
    | _ same' => cases same.symm.trans same'

/-- Any other value is read as a text. -/
lemma textOrNone_other {v : Option String}
    (no_plain : ∀ header s, d.follow node ≠ .scalar header .plain s) (no_void : d.follow node ≠ .void) :
    textOrNone d path node = .ok v ↔ d.IsOptional node v := by
  have other : textOrNone d path node = (text d path (d.follow node)).map some := by
    unfold textOrNone
    split
    · exact absurd (by assumption) (no_plain _ _)
    · exact absurd (by assumption) no_void
    · rfl
  have text : ∀ s, text d path (d.follow node) = .ok s ↔ d.IsText node s := by
    intro s
    rw [Decoder.text, textAs_eq_ok_iff, Document.IsText, Document.follow_follow]
    rfl
  rw [other]
  constructor
  · intro h
    obtain ⟨s, read, rfl⟩ := map_eq_ok h
    obtain ⟨header, style, same⟩ := (text s).1 read
    refine .styled same ?_
    rintro rfl
    exact no_plain header s same
  · intro h
    cases h with
    | styled same _ =>
      rw [(text _).2 ⟨_, _, same⟩]
      rfl
    | void same => exact absurd same no_void
    | _ same => exact absurd same (no_plain _ _)

/-- A text or nothing is read from what stands for it, whatever kind of value that is. -/
lemma textOrNone_eq_ok_iff {v : Option String} :
    textOrNone d path node = .ok v ↔ d.IsOptional node v := by
  by_cases plain : ∃ header s, d.follow node = .scalar header .plain s
  · obtain ⟨header, s, same⟩ := plain
    exact textOrNone_plain same
  · by_cases void : d.follow node = .void
    · exact textOrNone_void void
    · exact textOrNone_other (fun header s same => plain ⟨header, s, same⟩) void

/-! ### Names -/

/-- The tag of a name begins with its exclamation mark. -/
lemma nameTag_eq (s : String) : Document.nameTag s = Text.utf8 ['!'] ++ Text.utf8 s.toList := rfl

/-- The name in a tag is the one that the tag was made of. -/
lemma nameOfTag?_eq_some_iff {tag : Option Tag} {s : String} :
    nameOfTag? tag = some s ↔ tag = some (Document.nameTag s) := by
  unfold nameOfTag?
  rw [nameTag_eq]
  constructor
  · intro h
    split at h
    · rename_i first rest
      split at h
      · rename_i mark
        obtain ⟨t, bytes, rfl⟩ := Option.map_eq_some_iff.1 h
        rw [String.toList_ofList, Text.utf8_of_ofUtf8? bytes, ← mark]
        rfl
      · cases h
    · cases h
  · rintro rfl
    have mark : [UInt8.ofNat '!'.val.toNat] = Text.utf8 ['!'] := rfl
    change (if [UInt8.ofNat '!'.val.toNat] = Text.utf8 ['!'] then
      (Text.ofUtf8? (Text.utf8 s.toList)).map String.ofList else none) = some s
    rw [if_pos mark, Text.ofUtf8?_utf8, Option.map_some, String.ofList_toList]

/-- A name is taken for its value if it is a known one. -/
lemma named_eq_ok_iff {all : List (String × α)} {s : String} {v : α} :
    named all s = .ok v ↔ all.lookup s = some v := by
  unfold named
  split
  · rename_i w found
    rw [found, Except.ok.injEq, Option.some_inj]
  · rename_i missing
    rw [missing]
    exact ⟨nofun, nofun⟩

/-- Nothing is read from an empty plain text and from the words for it. -/
lemma nothing_eq_ok_iff : nothing path node = .ok () ↔
    ∃ header s, node = .scalar header .plain s ∧ (s = "" ∨ s ∈ ["null", "Null", "NULL", "~"]) := by
  unfold nothing
  split
  · rename_i header style s
    simp only [isNullWord, List.contains_iff_mem]
    constructor
    · intro h
      split at h
      · rename_i empty
        exact ⟨header, s, by rw [empty.1], empty.2⟩
      · cases h
    · rintro ⟨_, _, ⟨⟩, empty⟩
      exact if_pos ⟨rfl, empty⟩
  · exact ⟨nofun, fun h => by obtain ⟨_, _, ⟨⟩, _⟩ := h⟩
  · exact ⟨nofun, fun h => by obtain ⟨_, _, ⟨⟩, _⟩ := h⟩
  · rename_i other _ _
    exact ⟨nofun, fun h => by obtain ⟨_, _, same, _⟩ := h; exact absurd same (other _ _ _)⟩

/-- A name is read for its value, from a text or from a tag with nothing after it. -/
lemma name_eq_ok_iff {all : List (String × α)} {v : α} :
    name all d path node = .ok v ↔ ∃ s, d.IsName node s ∧ all.lookup s = some v := by
  unfold name
  dsimp only
  constructor
  · intro h
    split at h
    · rename_i s tagged
      obtain ⟨w, known, h⟩ := bind_eq_ok h
      obtain ⟨_, empty, h⟩ := bind_eq_ok h
      cases h
      obtain ⟨header, t, same, empty⟩ := nothing_eq_ok_iff.1 empty
      rw [same] at tagged
      exact ⟨s, .tag same (nameOfTag?_eq_some_iff.1 tagged) empty, named_eq_ok_iff.1 known⟩
    · rename_i untagged
      split at h
      · rename_i header style s same
        rw [same] at untagged
        refine ⟨s, .text same fun t tagged => ?_, named_eq_ok_iff.1 (mapError_eq_ok h)⟩
        cases untagged.symm.trans (nameOfTag?_eq_some_iff.2 tagged)
      · exact absurd h refuse_ne_ok
  · rintro ⟨s, isName, known⟩
    cases isName with
    | @text header _ _ same untagged =>
      have no_name : nameOfTag? header.tag = none := Option.eq_none_iff_forall_ne_some.2
        fun t tagged => untagged t (nameOfTag?_eq_some_iff.1 tagged)
      simp only [same, headerOf?, Option.bind_some, no_name, named_eq_ok_iff.2 known]
      rfl
    | @tag header t _ same tagged empty =>
      have read := nameOfTag?_eq_some_iff.2 tagged
      have nothing_left := @nothing_eq_ok_iff path _ |>.2 ⟨header, t, rfl, empty⟩
      simp only [same, headerOf?, Option.bind_some, read, bind, Except.bind, named_eq_ok_iff.2 known,
        nothing_left]

end Decoder

end PackageFinder.Yaml
