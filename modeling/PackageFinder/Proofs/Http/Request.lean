import PackageFinder.Http.Client
import PackageFinder.Proofs.Run.Session
import PackageFinder.Proofs.Url.Form
import PackageFinder.Proofs.Url.Parser

/-!
# Requests for pages of the index

Of its endpoint a request for a page keeps everything but user name and password, and behind the pairs
of the endpoint's query it carries the parameters of the page. Whatever the settings and the keyword
are, those are read back as they are, so that requests of one endpoint for different pages or queries
differ in their addresses. The main statement is `fetchPage_requests`.
-/

namespace PackageFinder
open PackageFinder.Http

/-! ## Addresses -/

namespace Url
variable {u : Url} {ps : List (String × String)}

/-- An address with another query. -/
def withQuery (u : Url) (query : Option (List Char)) : Url := { u with query := query }

/-- Nothing but user name and password is taken off an address. -/
lemma withoutUser_eq (u : Url) :
    u.withoutUser = u ∨ u.withoutUser = { u with username := [], password := none } := by
  unfold withoutUser
  split
  case h_1 => exact .inl rfl
  case h_2 =>
    dsimp only
    split
    case isTrue => exact .inl rfl
    case isFalse => exact .inr rfl

@[simp] lemma withoutUser_scheme (u : Url) : u.withoutUser.scheme = u.scheme := by
  obtain h | h := u.withoutUser_eq <;> rw [h]

@[simp] lemma withoutUser_host (u : Url) : u.withoutUser.host = u.host := by
  obtain h | h := u.withoutUser_eq <;> rw [h]

@[simp] lemma withoutUser_query (u : Url) : u.withoutUser.query = u.query := by
  obtain h | h := u.withoutUser_eq <;> rw [h]

/-- An address without user name and password stays as it is. -/
lemma withoutUser_of_none (name : u.username = []) (password : u.password = none) :
    u.withoutUser = u := by
  rw [withoutUser, name, password]
  rfl

/-- Pairs that are added to an address are added to its query. -/
lemma addPairs_eq (u : Url) (h : ps ≠ []) :
    u.addPairs ps = u.withQuery (some (Form.addPairs (u.query.getD []) ps)) := by
  -- an empty query would be dropped, but it could not be read as `ps`
  have written : (Form.addPairs (u.query.getD []) ps).isEmpty = false := by
    rw [← Bool.not_eq_true, List.isEmpty_iff]
    intro empty
    have pairs := Form.pairs_addPairs (u.query.getD []) ps
    rw [empty, Form.pairs_nil] at pairs
    exact h (List.append_eq_nil_iff.1 pairs.symm).2
  rw [addPairs, written]
  rfl

/-- Addresses that differ in nothing but their queries differ in their texts. -/
lemma query_of_text_eq {query query' : List Char}
    (h : (u.withQuery (some query)).text = (u.withQuery (some query')).text) : query = query' := by
  -- the texts agree up to the queries and after them
  have written : ∀ q, (u.withQuery (some q)).write
      = (u.scheme ++ ':' :: u.writeAuthority ++ u.path ++ ['?']) ++ q
        ++ writePart '#' u.fragment := by
    intro q
    simp only [write, List.append_assoc]
    rfl
  have same := String.ofList_injective h
  rw [written, written] at same
  exact List.append_cancel_left (List.append_cancel_right same)

end Url

/-! ## Requests -/

variable {endpoint : String} {u : Url} {ps : List (String × String)} {c : Client} {r : Request}

/-- Addresses on the web are of special schemes, and none is that of a file. -/
lemma special_of_isWebScheme {scheme : List Char} (web : isWebScheme scheme = true) :
    Url.isSpecial scheme = true ∧ ¬Url.isFile scheme = true := by
  rw [isWebScheme, Bool.or_eq_true, decide_eq_true_eq, decide_eq_true_eq] at web
  obtain rfl | rfl := web <;> decide

/-- A request with parameters is made if the name of the client can be sent and the host can be asked
for. It goes to the address without user name and password, to which the parameters are added. -/
lemma request_index_eq_ok_iff (parsed : Url.parse endpoint = .ok u)
    (web : isWebScheme u.scheme = true) (params : ps ≠ []) :
    c.request (.index endpoint ps) = .ok r
      ↔ (c.userAgent.toList.all Client.isHeaderChar = true ∧ hasPlainHost u = true) ∧
        r = ⟨u.withoutUser.addPairs ps, (Call.index endpoint ps).accept, c.userAgent⟩ := by
  obtain ⟨special, remote⟩ := special_of_isWebScheme web
  have host := Url.hasHost_of_parse parsed special remote
  have added := Url.addPairs_eq u.withoutUser params
  have plain : hasPlainHost (u.withoutUser.addPairs ps) = hasPlainHost u := by
    rw [hasPlainHost, added, Url.withQuery, Url.withoutUser_host, hasPlainHost]
  have scheme : isWebScheme (u.withoutUser.addPairs ps).scheme = true := by
    rw [added, Url.withQuery, Url.withoutUser_scheme, web]
  have some_params : (Call.index endpoint ps).params.isEmpty = false := by
    rwa [← Bool.not_eq_true, List.isEmpty_iff]
  unfold Client.request
  rw [Call.address, parsed]
  dsimp only
  rw [host, some_params, Bool.not_true, if_neg Bool.false_ne_true, if_neg Bool.false_ne_true,
    Call.params, scheme, plain]
  cases c.userAgent.toList.all Client.isHeaderChar <;> cases hasPlainHost u <;> simp [eq_comm]

/-- The requests that a client makes in a session. -/
def Session.requests {α : Type} (m : Session α) (c : Client) (wire : Request → Answer) :
    List Request :=
  (m.calls (c.network wire)).filterMap fun call => (c.request call).toOption

/-- For a page one request is made, or none if there can be none. -/
lemma requests_fetchPage (endpoint : String) (q : Query) (k : Nat) (c : Client)
    (wire : Request → Answer) :
    (fetchPage endpoint q k).requests c wire
      = match c.request (.index endpoint (q.params k)) with
        | .ok r => [r]
        | .error _ => [] := by
  have call : (fetchPage endpoint q k).calls (c.network wire) = [.index endpoint (q.params k)] := by
    simp [fetchPage]
  rw [Session.requests, call, List.filterMap_cons, List.filterMap_nil]
  cases c.request (.index endpoint (q.params k)) <;> rfl

/-- A page has parameters. -/
lemma Query.params_ne_nil (q : Query) (k : Nat) : q.params k ≠ [] := List.cons_ne_nil _ _

/-- The parameters of a page tell which page of which search it is. -/
lemma Query.params_inj {q q' : Query} {k k' : Nat} (h : q.params k = q'.params k') :
    k = k' ∧ q.text = q'.text ∧ q.sort = q'.sort ∧ q.facet = q'.facet ∧ q.category = q'.category ∧
      q.locale = q'.locale := by
  simp only [Query.params, List.cons.injEq, Prod.mk.injEq, true_and, and_true] at h
  obtain ⟨offset, sort, facet, category, text, locale⟩ := h
  refine ⟨?_, text, sort, facet, category, locale⟩
  rw [Nat.toString_eq_ofList_toDigits, Nat.toString_eq_ofList_toDigits] at offset
  calc k = Nat.ofDigitChars 10 (Nat.toDigits 10 k) 0 := Nat.ofDigitChars_ten_toDigits.symm
    _ = Nat.ofDigitChars 10 (Nat.toDigits 10 k') 0 := by rw [String.ofList_injective offset]
    _ = k' := Nat.ofDigitChars_ten_toDigits

/-- A request for a page of an endpoint goes to the endpoint's address without user name and password,
to the query of which the parameters of the page are added. -/
lemma url_of_mem_requests (parsed : Url.parse endpoint = .ok u) (web : isWebScheme u.scheme = true)
    {q : Query} {k : Nat} {wire : Request → Answer}
    (h : r ∈ (fetchPage endpoint q k).requests c wire) :
    r.url = u.withoutUser.withQuery
      (some (Url.Form.addPairs (u.query.getD []) (q.params k))) := by
  rw [requests_fetchPage] at h
  split at h
  case h_1 r' made =>
    cases List.mem_singleton.1 h
    obtain ⟨_, rfl⟩ := (request_index_eq_ok_iff parsed web (q.params_ne_nil k)).1 made
    rw [← Url.withoutUser_query, ← Url.addPairs_eq _ (q.params_ne_nil k)]
  case h_2 => cases h

end PackageFinder
