import AssetSeed.Http.Client
import AssetSeed.Proofs.Dialogue.Run

/-!
# Listings page by page

A listing is served in pages, each of which has a link to the next one. The records are those of all
pages, and what is no page ends the listing at once.

## Main definitions

* `StoreClient.pageRequest` — the request for a page.
* `StoreClient.Holds` — a reply that holds a page.
* `StoreClient.Fails` — an answer that holds none, and the failure that it stands for.
* `StoreClient.Serves` — a server that serves pages, each with a link to the next one.
* `StoreClient.Paginates` — what becomes of a listing.

## Main statements

* `StoreClient.fails_interpret` — an answer that holds no page fails.
* `StoreClient.Serves.listPages` — pages that are served make no difference to what follows.
* `StoreClient.answer_paginates` — every listing is paginated.
-/

namespace AssetSeed.StoreClient

open Record (Page)

/-- The token is sent along, unless it is empty. -/
def authorization : Option String → List (String × String)
  | some token => if token = "" then [] else [("authorization", "Token " ++ token)]
  | none => []

/-- The request for the page behind a link. -/
def pageRequest (token : Option String) (link : String) : HttpRequest where
  method := .get
  url := link
  headers := ("accept", "application/json") :: authorization token
  body := none

/-- The request is granted, and the page is what the body says. -/
structure Holds {α : Type} [Wire α] (reply : HttpReply) (page : Page α) : Prop where
  granted : 200 ≤ reply.status ∧ reply.status < 300
  decoded : ((Text.utf8Decode? reply.body).bind Json.ofText?).bind decode? = some page

/-- What an answer without a page stands for. -/
inductive Fails (α : Type) [Wire α] : Except String HttpReply → StoreError → Prop
  /-- No reply comes. -/
  | closed (detail : String) : Fails α (.error detail) (.connectivity detail)
  | refused {reply : HttpReply} (client : 400 ≤ reply.status ∧ reply.status < 500) :
      Fails α (.ok reply) (.rejected reply.status reply.text)
  | unexpected {reply : HttpReply} (ungranted : ¬ (200 ≤ reply.status ∧ reply.status < 300))
      (unrefused : ¬ (400 ≤ reply.status ∧ reply.status < 500)) :
      Fails α (.ok reply) (.unexpected
        ("NetBox API error " ++ HttpReply.statusText reply.status ++ ": " ++ reply.text))
  | malformed {reply : HttpReply} (granted : 200 ≤ reply.status ∧ reply.status < 300)
      (undecodable : ∀ page : Page α, ¬ Holds reply page) :
      Fails α (.ok reply) (.malformedInput "NetBox response: unexpected content")

variable {α σ : Type} [Wire α] {server : Responder HttpProtocol σ} {token : Option String}

/-- The server serves pages, the first one where `url` leads, each other one where the link of the
page before it leads. The last of them has `link`. -/
inductive Serves (server : Responder HttpProtocol σ) (token : Option String) :
    (url : String) → σ → List (Page α) → List (Exchange HttpProtocol) → (link : String) → σ → Prop
  | nil {url : String} {s : σ} : Serves server token url s [] [] url s
  | page {url next link : String} {s s₁ s' : σ} {reply : HttpReply} {page : Page α}
      {pages : List (Page α)} {said : List (Exchange HttpProtocol)}
      (sendable : isSendable (pageRequest token url))
      (replies : server (pageRequest token url) s = (.ok reply, s₁)) (holds : Holds reply page)
      (leads : page.next = some next) (linked : next ≠ "")
      (rest : Serves server token next s₁ pages said link s') :
      Serves server token url s (page :: pages)
        (⟨pageRequest token url, .ok reply⟩ :: said) link s'

/-- What becomes of a listing that begins at `start` and may have `limit` pages. -/
structure Paginates (server : Responder HttpProtocol σ) (token : Option String) (start : String)
    (limit : Nat) (listing : HttpDialogue (Except StoreError (List α))) : Prop where
  /-- The records of all pages are returned. -/
  complete : ∀ {s s₁ s' pages said link reply} {page : Page α},
    Serves server token start s pages said link s₁ → said.length < limit →
    isSendable (pageRequest token link) → server (pageRequest token link) s₁ = (.ok reply, s') →
    Holds reply page → page.next = none ∨ page.next = some "" →
    listing.run server s = (.ok ((pages ++ [page]).flatMap Page.results), s') ∧
      listing.exchanges server s = said ++ [⟨pageRequest token link, .ok reply⟩]
  /-- An answer that holds no page ends the listing. -/
  failed : ∀ {s s₁ s' link answer} {pages : List (Page α)} {said},
    Serves server token start s pages said link s₁ → said.length < limit →
    isSendable (pageRequest token link) → server (pageRequest token link) s₁ = (answer, s') →
    (∀ reply (page : Page α), answer = .ok reply → ¬ Holds reply page) →
    ∃ error, Fails α answer error ∧ listing.run server s = (.error error, s') ∧
      listing.exchanges server s = said ++ [⟨pageRequest token link, answer⟩]
  /-- So does a link to which no request can be sent. -/
  unsendable : ∀ {s s' link} {pages : List (Page α)} {said},
    Serves server token start s pages said link s' → said.length < limit →
    isSendable (pageRequest token link) = false →
    (∃ detail, listing.run server s = (.error (.unexpected detail), s')) ∧
      listing.exchanges server s = said

/-! ## Answers -/

section

variable {reply : HttpReply}

theorem isSuccess_iff : reply.isSuccess ↔ 200 ≤ reply.status ∧ reply.status < 300 := by
  simp [HttpReply.isSuccess]

theorem isRefusal_iff : reply.isRefusal ↔ 400 ≤ reply.status ∧ reply.status < 500 := by
  simp [HttpReply.isRefusal]

theorem Holds.interpret_eq {page : Page α} (holds : Holds reply page) :
    interpret (Page α) (.ok reply) = .ok page := by
  rw [interpret, if_pos (isSuccess_iff.2 holds.granted), decodeBody, holds.decoded]

theorem fails_interpret {answer : Except String HttpReply}
    (pageless : ∀ reply (page : Page α), answer = .ok reply → ¬ Holds reply page) :
    ∃ error, Fails α answer error ∧ interpret (Page α) answer = .error error := by
  cases answer with
  | error detail => exact ⟨_, .closed detail, rfl⟩
  | ok reply =>
    by_cases granted : reply.isSuccess
    · have undecodable : ((Text.utf8Decode? reply.body).bind Json.ofText?).bind
          (decode? (α := Page α)) = none :=
        Option.eq_none_iff_forall_ne_some.2 fun page decoded =>
          pageless reply page rfl ⟨isSuccess_iff.1 granted, decoded⟩
      refine ⟨_, .malformed (isSuccess_iff.1 granted) fun page => pageless reply page rfl, ?_⟩
      rw [interpret, if_pos granted, decodeBody, undecodable]
    · by_cases refused : reply.isRefusal
      · refine ⟨_, .refused (isRefusal_iff.1 refused), ?_⟩
        rw [interpret, if_neg granted, if_pos refused]
      · refine ⟨_, .unexpected (mt isSuccess_iff.2 granted) (mt isRefusal_iff.2 refused), ?_⟩
        rw [interpret, if_neg granted, if_neg refused]

end

/-! ## Clients -/

section

variable (url : String) (maxPages : Nat)

theorem headers_ofUrl : (ofUrl url token maxPages).headers none =
    ("accept", "application/json") :: authorization token := by
  cases token with
  | none => rfl
  | some token =>
    by_cases empty : token = ""
    · subst empty
      rfl
    · simp [headers, ofUrl, authorization, empty]

/-- The slashes at the end of an address do not count. -/
theorem base_ofUrl (token : Option String) :
    (∃ n, url.toList = (ofUrl url token maxPages).base.toList ++ List.replicate n '/') ∧
      (ofUrl url token maxPages).base.toList.getLast? ≠ some '/' := by
  have slashes : url.toList.reverse.takeWhile (· = '/') =
      List.replicate (url.toList.reverse.takeWhile (· = '/')).length '/' :=
    List.eq_replicate_iff.2 ⟨rfl, fun c mem =>
      of_decide_eq_true (List.all_eq_true.1 List.all_takeWhile c mem)⟩
  have whole := congrArg List.reverse
    (List.takeWhile_append_dropWhile (p := fun c => decide (c = '/')) (l := url.toList.reverse))
  rw [slashes, List.reverse_append, List.reverse_reverse, List.reverse_replicate] at whole
  refine ⟨⟨_, by simpa [ofUrl] using whole.symm⟩, fun last => ?_⟩
  rw [ofUrl, String.toList_ofList, List.getLast?_reverse] at last
  have visible := List.head?_dropWhile_not (fun c => decide (c = '/')) url.toList.reverse
  rw [last] at visible
  exact absurd visible (by decide)

theorem firstPage_ofUrl (token : Option String) (kind : Kind) :
    (ofUrl url token maxPages).firstPage (endpoint kind) =
      (ofUrl url token maxPages).base ++ "/api" ++ endpoint kind ++ "?limit=1000" := by
  have unqueried : (endpoint kind).toList.contains '?' = false := by cases kind <;> decide
  have limited : "?" ++ ("limit=" ++ toString pageLimit) = "?limit=1000" := by decide
  simp only [firstPage, unqueried, Bool.false_eq_true, if_false, StoreClient.url,
    String.append_assoc, limited]

theorem firstPage_undescribed (token : Option String) :
    (ofUrl url token maxPages).firstPage (endpoint .ipPrefix ++ undescribedQuery) =
      (ofUrl url token maxPages).base ++
        "/api/ipam/prefixes/?description__empty=true&limit=1000" := by
  have queried : (endpoint .ipPrefix ++ undescribedQuery).toList.contains '?' := by decide
  have limited : "/api" ++ (endpoint .ipPrefix ++ (undescribedQuery ++ ("&" ++ ("limit=" ++
      toString pageLimit)))) = "/api/ipam/prefixes/?description__empty=true&limit=1000" := by decide
  simp only [firstPage, queried, if_true, StoreClient.url, String.append_assoc, limited]

end

/-! ## Pages -/

section

variable {client : StoreClient}
  (headers : client.headers none = ("accept", "application/json") :: authorization token)
  {s s' : σ} {link : String}
include headers

theorem send_of_sendable (β : Type) [Wire β] {answer : Except String HttpReply}
    (sendable : isSendable (pageRequest token link))
    (replies : server (pageRequest token link) s = (answer, s')) :
    (client.send β .get link none).run server s = (interpret β answer, s') ∧
      (client.send β .get link none).exchanges server s =
        [⟨pageRequest token link, answer⟩] := by
  have sends : client.send β .get link none =
      (Dialogue.call (P := HttpProtocol) (pageRequest token link)).map (interpret β) := by
    rw [send, headers]
    exact if_pos sendable
  rw [sends]
  simp only [Dialogue.call, Dialogue.map, Dialogue.run, Dialogue.exchanges, replies, and_self]

theorem send_of_unsendable (β : Type) [Wire β]
    (unsendable : isSendable (pageRequest token link) = false) :
    client.send β .get link none = .done (.error (.unexpected "the request cannot be built")) := by
  rw [send, headers]
  exact if_neg (ne_true_of_eq_false unsendable)

/-- A page with a link leads to the rest of the listing. -/
theorem listPages_of_leads {reply : HttpReply} {page : Page α} {next : String}
    (sendable : isSendable (pageRequest token link))
    (replies : server (pageRequest token link) s = (.ok reply, s')) (holds : Holds reply page)
    (leads : page.next = some next) (linked : next ≠ "") (n : Nat) :
    (client.listPages α (n + 1) link).run server s =
        (((client.listPages α n next).run server s').1.map (page.results ++ ·),
          ((client.listPages α n next).run server s').2) ∧
      (client.listPages α (n + 1) link).exchanges server s =
        ⟨pageRequest token link, .ok reply⟩ :: (client.listPages α n next).exchanges server s' := by
  obtain ⟨run, exchanges⟩ := send_of_sendable headers (Page α) sendable replies
  have follows : page.next.filter (!·.isEmpty) = some next := by
    rw [leads, Option.filter_some, if_pos]
    simpa using linked
  rw [listPages, Dialogue.run_bind, Dialogue.exchanges_bind, run, exchanges, holds.interpret_eq]
  simp only [follows, Dialogue.run_bind, Dialogue.exchanges_bind]
  cases ((client.listPages α n next).run server s').1 <;> simp [Except.map]

/-- A page without a link, or with the empty one, is the last one. -/
theorem listPages_of_last {reply : HttpReply} {page : Page α}
    (sendable : isSendable (pageRequest token link))
    (replies : server (pageRequest token link) s = (.ok reply, s')) (holds : Holds reply page)
    (last : page.next = none ∨ page.next = some "") (n : Nat) :
    (client.listPages α (n + 1) link).run server s = (.ok page.results, s') ∧
      (client.listPages α (n + 1) link).exchanges server s =
        [⟨pageRequest token link, .ok reply⟩] := by
  obtain ⟨run, exchanges⟩ := send_of_sendable headers (Page α) sendable replies
  have ends : page.next.filter (!·.isEmpty) = none := by
    rcases last with none | empty
    · rw [none, Option.filter_none]
    · rw [empty]
      rfl
  rw [listPages, Dialogue.run_bind, Dialogue.exchanges_bind, run, exchanges, holds.interpret_eq]
  simp only [ends, Dialogue.run_pure, Dialogue.exchanges_pure, List.append_nil, and_self]

/-- The pages that are served come before what follows them, and one request is made for each. -/
theorem Serves.listPages {url : String} {pages : List (Page α)}
    {said : List (Exchange HttpProtocol)} (serves : Serves server token url s pages said link s')
    (n : Nat) :
    (client.listPages α (said.length + n) url).run server s =
        (((client.listPages α n link).run server s').1.map (pages.flatMap Page.results ++ ·),
          ((client.listPages α n link).run server s').2) ∧
      (client.listPages α (said.length + n) url).exchanges server s =
        said ++ (client.listPages α n link).exchanges server s' := by
  -- `n` is what is left of the number of pages that may be asked for behind those served.
  induction serves with
  | @nil url s =>
    have unchanged : Except.map (([] : List α) ++ ·) ((client.listPages α n url).run server s).1 =
        ((client.listPages α n url).run server s).1 := by
      simp only [List.nil_append]
      exact congrFun Except.map_id _
    rw [List.length_nil, Nat.zero_add, List.flatMap_nil, List.nil_append, unchanged]
    exact ⟨rfl, rfl⟩
  | @page url next link s s₁ s' reply page pages said sendable replies holds leads linked _ ih =>
    obtain ⟨ran, heard⟩ :=
      listPages_of_leads headers sendable replies holds leads linked (said.length + n)
    rw [List.length_cons, Nat.add_right_comm, ran, heard, ih.1, ih.2]
    refine ⟨?_, rfl⟩
    cases ((client.listPages α n link).run server s').1 <;> simp [Except.map]

/-- Nothing is asked once a page cannot be had. -/
theorem Serves.listPages_of_error {start : String} {pages : List (Page α)}
    {said : List (Exchange HttpProtocol)} {limit : Nat} {s'' : σ} {error : StoreError}
    (serves : Serves server token start s pages said link s') (short : said.length < limit)
    (fails : (client.send (Page α) .get link none).run server s' = (.error error, s'')) :
    (client.listPages α limit start).run server s = (.error error, s'') ∧
      (client.listPages α limit start).exchanges server s =
        said ++ (client.send (Page α) .get link none).exchanges server s' := by
  obtain ⟨n, rfl⟩ : ∃ n, limit = said.length + (n + 1) := ⟨limit - said.length - 1, by omega⟩
  obtain ⟨run, exchanges⟩ := serves.listPages headers (n + 1)
  rw [run, exchanges, StoreClient.listPages, Dialogue.run_bind, Dialogue.exchanges_bind, fails]
  simp [Except.map]

/-- Listings are paginated wherever they begin. -/
theorem paginates_listPages (start : String) (limit : Nat) :
    Paginates server token start limit (client.listPages α limit start) where
  complete {_ _ _ _ said _ _ _} serves short sendable replies holds last := by
    obtain ⟨n, rfl⟩ : ∃ n, limit = said.length + (n + 1) := ⟨limit - said.length - 1, by omega⟩
    obtain ⟨run, exchanges⟩ := serves.listPages headers (n + 1)
    obtain ⟨ran, heard⟩ := listPages_of_last headers sendable replies holds last n
    rw [run, exchanges, ran, heard]
    simp [Except.map]
  failed serves short sendable replies pageless := by
    obtain ⟨sent, heard⟩ := send_of_sendable headers (Page α) sendable replies
    obtain ⟨error, fails, means⟩ := fails_interpret pageless
    rw [means] at sent
    have ends := serves.listPages_of_error headers short sent
    rw [heard] at ends
    exact ⟨error, fails, ends⟩
  unsendable {_ s' _ _ said} serves short unsendable := by
    have unsent := send_of_unsendable headers (Page α) unsendable
    have ends := serves.listPages_of_error headers short
      (congrArg (Dialogue.run server · s') unsent)
    rw [unsent] at ends
    exact ⟨⟨_, ends.1⟩, ends.2.trans (List.append_nil said)⟩

end

/-- Every listing begins at the first page below the address of the database, however many slashes
the address ends in, and is paginated as long as it has fewer pages than the client asks for. -/
theorem answer_paginates (url : String) (token : Option String) (maxPages : Nat)
    (server : Responder HttpProtocol σ) :
    let client := ofUrl url token maxPages
    (∃ n, url.toList = client.base.toList ++ List.replicate n '/') ∧
      client.base.toList.getLast? ≠ some '/' ∧
      (∀ kind, Paginates (α := Kind.Record kind) server token
        (client.base ++ "/api" ++ endpoint kind ++ "?limit=1000") maxPages
        (client.answer (.list kind))) ∧
      Paginates (α := Record.IpPrefix) server token
        (client.base ++ "/api/ipam/prefixes/?description__empty=true&limit=1000") maxPages
        (client.answer .listUndescribed) := by
  obtain ⟨slashes, ends⟩ := base_ofUrl url maxPages token
  refine ⟨slashes, ends, fun kind => ?_, ?_⟩
  · rw [← firstPage_ofUrl]
    exact paginates_listPages (headers_ofUrl url maxPages) _ maxPages
  · rw [← firstPage_undescribed]
    exact paginates_listPages (headers_ofUrl url maxPages) _ maxPages

/-- Gives the replies of a list one after the other. -/
def inTurn : Responder HttpProtocol (List HttpReply)
  | _, [] => (.error "connection closed", [])
  | _, reply :: replies => (.ok reply, replies)

theorem answer_paginates_two_pages :
    let first : HttpReply :=
      ⟨200, Text.utf8Encode "[2,\"http://netbox/next\",null,[[1,\"HQ\",\"hq\"]]]"⟩
    let second : HttpReply :=
      ⟨200, Text.utf8Encode "[2,\"\",null,[[2,\"Lab\",\"lab\"]]]"⟩
    let sites := (ofUrl "http://netbox/" (some "secret") 9).answer (.list .site)
    sites.run inTurn [first, second] = (.ok [⟨1, "HQ", "hq"⟩, ⟨2, "Lab", "lab"⟩], []) ∧
      sites.exchanges inTurn [first, second] =
        [⟨pageRequest (some "secret") "http://netbox/api/dcim/sites/?limit=1000", .ok first⟩,
          ⟨pageRequest (some "secret") "http://netbox/next", .ok second⟩] := by
  intro first second sites
  have pages := (answer_paginates "http://netbox/" (some "secret") 9 inTurn).2.2.1 .site
  have start : (ofUrl "http://netbox/" (some "secret") 9).base ++ "/api" ++ endpoint .site ++
      "?limit=1000" = "http://netbox/api/dcim/sites/?limit=1000" := by decide +kernel
  rw [start] at pages
  have leading : Holds first
      (⟨2, some "http://netbox/next", none, [⟨1, "HQ", "hq"⟩]⟩ : Page Record.Site) :=
    ⟨by decide, by decide +kernel⟩
  have last : Holds second (⟨2, some "", none, [⟨2, "Lab", "lab"⟩]⟩ : Page Record.Site) :=
    ⟨by decide, by decide +kernel⟩
  exact pages.complete (.page (by decide +kernel) rfl leading rfl (by decide) .nil) (by decide)
    (by decide +kernel) rfl last (.inr rfl)

end AssetSeed.StoreClient
