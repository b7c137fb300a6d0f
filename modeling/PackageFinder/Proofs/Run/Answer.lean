import PackageFinder.Proofs.Run.Session

/-!
# What answers bring

The answers of the network, sorted by what they are good for: a text or a reason why there is none,
the elements of a page of the index or a reason why it cannot be read, and what becomes of an item.
`page_cases` and `resolves_resolve` say that the sessions of a run sort them in this way; they are
all that the theorems about reports know of pages and items.
-/

namespace PackageFinder
open PackageFinder.Http

/-- An answer of success, with its text. -/
inductive Succeeds : Answer → String → Prop
  | of {r : Response} : 200 ≤ r.status → r.status < 300 → Succeeds (.ok r) r.text

/-- Why an answer is none of success. -/
inductive Fails : Answer → FetchError → Prop
  /-- The exchange failed. -/
  | transport {e} : Fails (.error e) (.transport e)
  /-- The status is another one. -/
  | status {r : Response} :
    r.status < 200 ∨ 300 ≤ r.status → Fails (.ok r) (.status r.status r.url)

/-- An answer is one of success, or there is a reason why it is not. -/
lemma bodyOf_cases (a : Answer) :
    (∃ text, Succeeds a text ∧ bodyOf a = .ok text) ∨ (∃ e, Fails a e ∧ bodyOf a = .error e) := by
  cases a with
  | error e => exact .inr ⟨_, .transport, rfl⟩
  | ok r =>
    by_cases h : 200 ≤ r.status ∧ r.status < 300
    · refine .inl ⟨r.text, .of h.1 h.2, ?_⟩
      simp [bodyOf, Response.body, Response.checked, Response.isSuccess, h, Except.map]
    · refine .inr ⟨_, .status (by omega), ?_⟩
      have hs : r.isSuccess = false := by
        simp only [Response.isSuccess, Bool.and_eq_false_iff, decide_eq_false_iff_not]
        omega
      simp [bodyOf, Response.body, Response.checked, hs, Except.map]

/-- The text of an answer of success is unique. -/
lemma Succeeds.unique {a text text'} (h : Succeeds a text) (h' : Succeeds a text') :
    text = text' := by
  cases h
  cases h'
  rfl

/-- No answer both succeeds and fails. -/
lemma Succeeds.not_fails {a text e} (h : Succeeds a text) : ¬ Fails a e := by
  intro h'
  cases h
  cases h'
  omega

/-! ## Pages of the index -/

/-- The call for a page of a query. -/
def pageCall (s : Settings) (query : String) (k : Nat) : Call :=
  .index s.search.endpoint ((Query.ofSettings query s.search).params k)

/-- The elements of the list of downloads in a JSON value; none if it has no such list. -/
def downloads (v : Json.Value) : List Json.Value :=
  match v.member? "downloads" with
  | some (.list vs) => vs
  | _ => []

/-- The elements of the page that an answer brings: one of success whose text is JSON. -/
def elements? : Answer → Option (List Json.Value)
  | .error _ => none
  | .ok r =>
    if 200 ≤ r.status ∧ r.status < 300 then
      match Json.parse r.text with
      | .ok v => some (downloads v)
      | .error _ => none
    else none

/-- Why an answer brings no page. -/
inductive PageFails : Answer → FetchError → Prop
  /-- It is none of success. -/
  | fetch {a e} : Fails a e → PageFails a e
  /-- Its text is no JSON. -/
  | decode {a text complaint} :
    Succeeds a text → Json.parse text = .error complaint → PageFails a (.decode complaint)

/-- The items of a page are its elements. -/
lemma ofPage_eq (v : Json.Value) : Item.ofPage v = (downloads v).map .ofValue := by
  unfold Item.ofPage downloads
  cases v.member? "downloads" with
  | none => rfl
  | some w => cases w <;> rfl

/-- An answer brings the elements of a page, each of which is an item, or a reason why there is
none. -/
lemma page_cases (k : Nat) (a : Answer) :
    (∃ vs, elements? a = some vs ∧ Page.ofBody k (bodyOf a) = .items (vs.map .ofValue)) ∨
      (∃ e, elements? a = none ∧ PageFails a e ∧ Page.ofBody k (bodyOf a) = .failed k e) := by
  rcases bodyOf_cases a with ⟨text, hs, hb⟩ | ⟨e, hf, hb⟩
  · rw [hb]
    cases hs with
    | @of r lo hi =>
      simp only [elements?, lo, hi, and_self, if_true, Page.ofBody, Item.parsePage]
      cases hp : Json.parse r.text with
      | ok v => exact .inl ⟨_, rfl, congrArg Page.items (ofPage_eq v)⟩
      | error c => exact .inr ⟨_, rfl, .decode (.of lo hi) hp, rfl⟩
  · refine .inr ⟨e, ?_, .fetch hf, by rw [hb]; rfl⟩
    cases hf with
    | transport => rfl
    | status out => exact if_neg (by omega)

/-! ## Items -/

/-- The address of the detail page of an element. -/
def address? (v : Json.Value) : Option String :=
  match v.member? "url" with
  | some (.text url) => some url
  | _ => none

/-- An item has the address of its element. -/
lemma url_ofValue (v : Json.Value) : (Item.ofValue v).url = address? v := by
  unfold Item.ofValue address?
  cases v.member? "url" with
  | none => rfl
  | some w => cases w <;> rfl

/-- What may become of an item. -/
inductive Resolves (net : Network) (mode : Link.MatchMode) (item : Item) : Resolution → Prop
  /-- It has no address. -/
  | missing :
    item.url = none →
    Resolves net mode item
      ⟨⟨item.displayTitle, none⟩, some (.of .detail item.displayTitle .missingUrl)⟩
  /-- Its page cannot be read. -/
  | detail {url e} :
    item.url = some url → Fails (net (.detail url)) e →
    Resolves net mode item ⟨⟨item.displayTitle, none⟩, some (.of .detail url e)⟩
  /-- Its page has no link. -/
  | extraction {url text} :
    item.url = some url → Succeeds (net (.detail url)) text → Link.extract mode text = none →
    Resolves net mode item ⟨⟨item.displayTitle, none⟩, some (.of .extraction url .linkNotFound)⟩
  /-- Its page has a link. -/
  | linked {url text link} :
    item.url = some url → Succeeds (net (.detail url)) text → Link.extract mode text = some link →
    Resolves net mode item ⟨⟨item.displayTitle, some link⟩, none⟩

/-- Resolving an item does with the answer for its page what may become of the item. -/
lemma resolves_resolve (net : Network) (mode : Link.MatchMode) (item : Item) :
    Resolves net mode item ((resolve mode item).result net) := by
  unfold resolve
  split
  case h_1 hu => exact .missing hu
  case h_2 url hu =>
    simp only [Session.result_bind, result_fetchBody, Session.result_pure]
    rcases bodyOf_cases (net (.detail url)) with ⟨text, hs, hb⟩ | ⟨e, hf, hb⟩
    · rw [hb]
      simp only [Finding.ofBody]
      cases hx : Link.extract mode text with
      | none => exact .extraction hu hs hx
      | some link => exact .linked hu hs hx
    · rw [hb]
      exact .detail hu hf

/-- The network decides about an item only by its answer for the item's page. -/
lemma resolve_congr {net net' : Network} {item : Item}
    (h : ∀ url, item.url = some url → net (.detail url) = net' (.detail url))
    (mode : Link.MatchMode) : (resolve mode item).result net = (resolve mode item).result net' := by
  unfold resolve
  split
  · rfl
  case h_2 url hu =>
    simp only [Session.result_bind, result_fetchBody, Session.result_pure, h url hu]

/-! ## Networks that play a list -/

/-- The network that answers the pages of the index by their offsets, and detail pages by their
addresses, as they are listed. Other pages of the index are empty, and there are no other detail
pages. -/
def listed (pages details : List (String × Answer)) : Network
  | .index _ ps =>
    (pages.lookup ((ps.lookup "offset").getD "")).getD (.ok ⟨200, "http://h/", "\x7b\x7d"⟩)
  | .detail url => (details.lookup url).getD (.ok ⟨404, url, ""⟩)

/-- An index of two pages, of which the second fails. The first has two elements with the same
address, and one without in between. -/
def twinPages : List (String × Answer) :=
  [("0", .ok ⟨200, "http://h/",
      "\x7b\"downloads\": [\x7b\"url\": \"u\"\x7d, 7, \x7b\"url\": \"u\"\x7d]\x7d"⟩),
    ("1", .error .truncatedBody)]

end PackageFinder
