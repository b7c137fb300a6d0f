import PackageFinder.Proofs.Except
import PackageFinder.Proofs.Url.Form
import PackageFinder.Url.Parser

/-!
# What is read of an address

The scheme of an address is the one that its text starts with. Where the scheme is a special one other
than that of files, the address names a host (`hasHost_of_parse`), and its query is written so that
nothing ends it before its end (`isQueryChar_of_parse`).
-/

namespace PackageFinder.Url

/-- A host of a special scheme that is read is not empty. -/
lemma Host.ne_empty_of_readSpecial {s : List Char} {host : Host} (h : readSpecial s = .ok host) :
    host ≠ .empty := by
  rintro rfl
  unfold readSpecial at h
  split at h
  case h_1 r =>
    unfold readBracketed at h
    split at h
    case h_1 => split at h <;> cases h
    case h_2 => cases h
  case h_2 =>
    split at h
    case h_1 => cases h
    case h_2 => cases h
    case h_3 =>
      split at h
      case isTrue => split at h <;> cases h
      case isFalse => cases h

variable {u : Url} {scheme s : List Char}

/-- What stands after the two slashes is read for the scheme before them: the host as that scheme asks
for, and the query behind the path. -/
lemma readAuthority_ok (h : readAuthority scheme s = .ok u) :
    u.scheme = scheme ∧
      (∃ text host,
        (if isSpecial scheme then Host.readSpecial text else Host.readOpaque text) = .ok host ∧
          u.host = some host) ∧
      ∃ rest, u.query = (readTail (isSpecial scheme) rest).1 := by
  unfold readAuthority at h
  -- what is thrown on the way is no address, and user and port tell nothing here
  obtain ⟨⟨name, password, r⟩, _, h⟩ := bind_eq_ok h
  dsimp only at h
  generalize splitHost (isSpecial scheme) false r = cut at h
  split at h
  case isTrue => cases h
  case isFalse =>
    obtain ⟨host, read, h⟩ := ite_bind_eq_ok h
    split at h
    case isTrue => cases h
    case isFalse =>
      obtain ⟨port, _, h⟩ := ite_bind_eq_ok h
      split at h
      case isTrue => cases h
      case isFalse =>
        cases h
        exact ⟨rfl, ⟨cut.1, host, read, rfl⟩, _, rfl⟩

/-- The address of a file is one of files. -/
lemma scheme_of_readFile (h : readFile s = .ok u) : u.scheme = "file".toList := by
  unfold readFile at h
  split at h
  case h_1 a b r =>
    dsimp only at h
    split at h
    case isTrue =>
      split at h
      case isTrue =>
        cases h
        rfl
      case isFalse =>
        split at h
        case isTrue =>
          cases h
          rfl
        case isFalse =>
          obtain ⟨host, _, h⟩ := bind_eq_ok h
          cases h
          rfl
    case isFalse =>
      cases h
      rfl
  case h_2 =>
    cases h
    rfl

/-- An address of a special scheme is read after its two slashes, unless it is that of a file. -/
lemma exists_readAuthority {text : String} (h : parse text = .ok u) (special : isSpecial u.scheme)
    (remote : ¬isFile u.scheme) : ∃ s, readAuthority u.scheme s = .ok u := by
  unfold parse at h
  split at h
  case h_1 => cases h
  case h_2 scheme s _ =>
    split at h
    case isTrue =>
      rw [scheme_of_readFile h] at remote
      exact absurd rfl remote
    case isFalse =>
      split at h
      case isTrue =>
        obtain ⟨rfl, _⟩ := readAuthority_ok h
        exact ⟨_, h⟩
      case isFalse unknown =>
        split at h
        case h_1 =>
          obtain ⟨rfl, _⟩ := readAuthority_ok h
          exact absurd special unknown
        case h_2 =>
          cases h
          exact absurd special unknown

/-- Such an address names a host. -/
theorem hasHost_of_parse {text : String} (h : parse text = .ok u) (special : isSpecial u.scheme)
    (remote : ¬isFile u.scheme) : u.hasHost = true := by
  obtain ⟨s, authority⟩ := exists_readAuthority h special remote
  obtain ⟨_, ⟨text, host, read, there⟩, _⟩ := readAuthority_ok authority
  rw [if_pos special] at read
  rw [hasHost, there]
  cases host with
  | empty => exact absurd rfl (Host.ne_empty_of_readSpecial read)
  | name | four | eight => rfl

/-! ## Queries -/

/-- In a text that is encoded stand the characters that are not bad, and those that encode others. -/
lemma mem_percentEncode {bad : Char → Bool} {d : Char} (h : d ∈ percentEncode bad s) :
    (d.toNat < 0x80 ∧ bad d = false) ∨ ∃ b, d ∈ percentByte b := by
  obtain ⟨c, _, hc⟩ := List.mem_flatMap.1 h
  unfold percentChar at hc
  split at hc
  case isTrue good =>
    rw [List.mem_singleton.1 hc]
    rw [Bool.and_eq_true, decide_eq_true_eq, Bool.not_eq_true'] at good
    exact .inl good
  case isFalse =>
    obtain ⟨b, _, hb⟩ := List.mem_flatMap.1 hc
    exact .inr ⟨b, hb⟩

/-- What is not bad in a query may stand in it, and so may what is written for the rest. -/
lemma isQueryChar_of_mem_percentEncode {bad : Char → Bool} (h : ∀ c, queryBad c = true → bad c = true)
    {d : Char} (hd : d ∈ percentEncode bad s) : isQueryChar d = true := by
  obtain ⟨ascii, good⟩ | ⟨b, hb⟩ := mem_percentEncode hd
  · have allowed : queryBad d = false := by
      rw [← Bool.not_eq_true]
      intro refused
      cases good.symm.trans (h d refused)
    revert allowed
    exact of_ascii (P := fun c => queryBad c = false → isQueryChar c = true) (by decide) ascii
  · exact Form.isQueryChar_of_mem_percentByte hb

/-- A query that is read has no other characters. -/
lemma isQueryChar_readTail (special : Bool) :
    ∀ c ∈ (readTail special s).1.getD [], isQueryChar c = true := by
  intro c hc
  unfold readTail at hc
  split at hc
  case h_1 r =>
    cases special with
    | false => exact isQueryChar_of_mem_percentEncode (fun _ => id) hc
    | true =>
      refine isQueryChar_of_mem_percentEncode (fun d hd => ?_) hc
      rw [if_pos rfl, specialQueryBad, hd, Bool.true_or]
  case h_2 => cases hc

/-- Neither has that of an address of a special scheme. -/
lemma isQueryChar_of_parse {text : String} (h : parse text = .ok u) (special : isSpecial u.scheme)
    (remote : ¬isFile u.scheme) : ∀ c ∈ u.query.getD [], isQueryChar c = true := by
  obtain ⟨s, authority⟩ := exists_readAuthority h special remote
  obtain ⟨_, _, rest, query⟩ := readAuthority_ok authority
  rw [query]
  exact isQueryChar_readTail _

end PackageFinder.Url
