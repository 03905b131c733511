import WebhookRelay.Proofs.Application.Identity

/-!
# Paths make no difference

Deliveries are taken at every path that begins with a slash and has no line end inside, by every
method, except that one path answers whether the relay works, and some have pages about it. Wherever
they are taken, the path changes neither the response nor what is sent.

- `TakesDeliveries`: deliveries are taken at a path for a method.
- `Request.hostText`: what decides whether the address of a request can be read.
- `plan_result_withPath`: the same is planned at every such path.
- `Application.PathBlind`: how response and calls depend on the path.
-/

namespace WebhookRelay

/-- The same request at another path. -/
def Request.withPath (r : Request) (path : String) : Request := { r with path }

/-! ## Where deliveries are taken -/

/-- A path begins with a slash and has no line end, except perhaps as its last character. -/
def IsUnbroken (path : String) : Prop :=
  ∃ rest, path.toList = '/' :: rest ∧ '\n' ∉ rest.dropLast

/-- Deliveries are taken at a path for a method: the path is unbroken, and the request does not ask
for a page or whether the relay works. -/
structure TakesDeliveries (method path : String) : Prop where
  unbroken : IsUnbroken path
  notPage : method = "GET" ∨ method = "HEAD" →
    ∀ page : Page, path ≠ page.path ∧ path ≠ page.path ++ "\n"
  notHealth : method = "GET" → path ≠ "/health" ∧ path ≠ "/health\n"

variable {s : Settings} {schedule : Schedule} {generated : String} {r : Request}
  {path path' : String}

theorem isDeliveryPath_iff : isDeliveryPath path = true ↔ IsUnbroken path := by
  unfold isDeliveryPath IsUnbroken
  split
  · rename_i rest hrest
    simp [hrest]
  · rename_i hnone
    constructor
    · nofun
    · rintro ⟨rest, hrest, -⟩
      exact absurd hrest (hnone rest)

/-- A path is that of a place, or has a line end more. -/
theorem isAt_iff {place : String} :
    isAt place path = true ↔ path = place ∨ path = place ++ "\n" := by
  simp [isAt]

theorem isAt_of_mem {place : String} (h : path ∈ [place, place ++ "\n"]) :
    isAt place path = true :=
  isAt_iff.mpr (by simpa using h)

/-- A place without line ends is at an unbroken path, also if one follows it. -/
theorem isUnbroken_of_isAt {place : String} {rest : List Char}
    (hplace : place.toList = '/' :: rest) (hnone : '\n' ∉ rest) (h : isAt place path = true) :
    IsUnbroken path := by
  obtain rfl | rfl := isAt_iff.mp h
  · exact ⟨rest, hplace, fun hmem => hnone (List.dropLast_subset _ hmem)⟩
  · refine ⟨rest ++ ['\n'], ?_, ?_⟩
    · rw [String.toList_append, hplace]
      rfl
    · rwa [List.dropLast_concat]

/-- So is every page. -/
theorem isUnbroken_of_page {page : Page} (h : isAt page.path path = true) : IsUnbroken path := by
  cases page <;> exact isUnbroken_of_isAt rfl (by decide) h

/-- A request asks for a page if its method is one of two and its path is that of the page. -/
theorem page?_eq_some {page : Page} (hmethod : r.method = "GET" ∨ r.method = "HEAD")
    (h : isAt page.path r.path = true) : r.page? = some page := by
  have hfind : Page.all.find? (fun p => isAt p.path r.path) = some page := by
    -- No path is that of two pages.
    obtain hpath | hpath := isAt_iff.mp h
    · rw [hpath]
      cases page <;> decide +kernel
    · rw [hpath]
      cases page <;> decide +kernel
  unfold Request.page?
  rw [hfind]
  simp [hmethod]

/-- It asks for none if it has another method or its path is that of no page. -/
theorem page?_eq_none (h : r.method = "GET" ∨ r.method = "HEAD" →
    ∀ page : Page, isAt page.path r.path = false) : r.page? = none := by
  unfold Request.page?
  split
  case isFalse => rfl
  case isTrue hmethod =>
    have hmethod : r.method = "GET" ∨ r.method = "HEAD" := by simpa using hmethod
    exact List.find?_eq_none.mpr fun page _ => Bool.eq_false_iff.mp (h hmethod page)

/-- Where a request goes that asks for no page. -/
theorem route_of_page?_eq_none (h : r.page? = none) :
    r.route =
      if r.method = "GET" && isAt "/health" r.path then .health
      else if isDeliveryPath r.path then .delivery
      else if isDeliveryPath (otherPath r.path) then .elsewhere (otherPath r.path)
      else .nowhere := by
  unfold Request.route
  rw [h]

/-- A request goes to deliveries if they are taken at its path. -/
theorem route_eq_delivery (h : TakesDeliveries r.method r.path) : r.route = .delivery := by
  have hpage : r.page? = none := by
    refine page?_eq_none fun hmethod page => Bool.eq_false_iff.mpr fun hat => ?_
    obtain ⟨hne, hne'⟩ := h.notPage hmethod page
    obtain heq | heq := isAt_iff.mp hat
    · exact hne heq
    · exact hne' heq
  have hhealth : (r.method = "GET" && isAt "/health" r.path) = false := by
    by_cases hget : r.method = "GET"
    · obtain ⟨hne, hne'⟩ := h.notHealth hget
      simp [isAt, hne, hne']
    · simp [hget]
  rw [route_of_page?_eq_none hpage, hhealth, if_neg Bool.false_ne_true,
    if_pos (isDeliveryPath_iff.mpr h.unbroken)]

/-! ## The host -/

/-- What is read of the host of a request: up to a slash, a query or a fragment, without tabs and
line ends. -/
def Request.hostText (r : Request) : List Char :=
  (((r.headers.first? "host").getD "").toList.filter fun c =>
    c != '\t' && c != '\n' && c != '\r').takeWhile fun c => !(c = '/' || c = '?' || c = '#')

/-- If the path begins with a slash, nothing of it is taken for a part of the host. -/
theorem takeWhile_append_slash {p keeps : Char → Bool} (hp : p '/' = false)
    (hkeeps : keeps '/' = true) (host rest : List Char) :
    ((host ++ '/' :: rest).filter keeps).takeWhile p = (host.filter keeps).takeWhile p := by
  rw [List.filter_append, List.filter_cons_of_pos hkeeps, List.takeWhile_append,
    List.takeWhile_cons_of_neg (by simp [hp]), List.append_nil]
  split
  · rename_i hall
    exact ((List.takeWhile_prefix p).eq_of_length hall).symm
  · rfl

/-- The address of such a request can be read exactly if its host can. -/
theorem addressPath_of_slash {rest : List Char} (hpath : r.path.toList = '/' :: rest) :
    (Host.isReadable r.hostText = true → ∃ address, r.addressPath = .ok address) ∧
      (Host.isReadable r.hostText = false → r.addressPath = .error (.crash .hostBrackets)) := by
  unfold Request.addressPath Request.hostText
  dsimp only
  rw [String.toList_append, hpath, takeWhile_append_slash (by decide) (by decide)]
  constructor
  · intro h
    rw [if_pos h]
    exact ⟨_, rfl⟩
  · intro h
    rw [if_neg (Bool.eq_false_iff.mp h)]

/-- A request whose host can be read has an address at every unbroken path. -/
theorem exists_addressPath (hpath : IsUnbroken path)
    (hhost : Host.isReadable r.hostText = true) :
    ∃ address, (r.withPath path).addressPath = .ok address := by
  obtain ⟨rest, hrest, -⟩ := hpath
  exact (addressPath_of_slash (r := r.withPath path) hrest).1 hhost

/-! ## Planning and answering -/

theorem checkForm_withPath (r : Request) (path : String) :
    checkForm (r.withPath path) = checkForm r := rfl

theorem checkSignature_withPath (s : Settings) (r : Request) (path : String) :
    checkSignature s (r.withPath path) = checkSignature s r := rfl

theorem planFor_withPath (s : Settings) (r : Request) (path : String) (document : Json)
    (action : Action) :
    planFor s (r.withPath path) document action = planFor s r document action := by
  cases action <;> rfl

/-- Caller and target see no difference between two requests that have been handled. -/
structure Handled.LooksLike (h h' : Handled) : Prop where
  response : h.response = h'.response
  sent : h.sent = h'.sent

section Handling

variable [Platform]

/-- What is planned at an unbroken path does not depend on it: the address is only recorded. -/
theorem plan_result_withPath (hpath : IsUnbroken path)
    (hhost : Host.isReadable r.hostText = true) :
    (plan s (r.withPath path)).result = (do
      let (event, text) ← checkForm r
      checkSignature s r
      let document ← readBody text
      let action ← (decide s.matchConfig event document).result
      (planFor s r document action).result) := by
  obtain ⟨address, haddress⟩ := exists_addressPath hpath hhost
  unfold plan
  rw [haddress, checkForm_withPath, checkSignature_withPath]
  simp only [Logged.of_ok_bind, Logged.result_bind, Logged.result_of, planFor_withPath]
  rfl

namespace Application

/-- What is sent, and how the response comes about, is decided by what is planned. -/
theorem respondToDelivery_of_plan_result (schedule : Schedule) {r' : Request}
    (h : (plan s r).result = (plan s r').result) :
    (respondToDelivery s schedule r).1 = (respondToDelivery s schedule r').1 ∧
      (respondToDelivery s schedule r).2.result = (respondToDelivery s schedule r').2.result := by
  unfold respondToDelivery
  dsimp only
  rw [h]
  -- The records differ, so they have to be out of the way before both sides are compared.
  cases (plan s r').result with
  | error e => simp only [and_self]
  | ok p =>
    cases p with
    | drop => simp only [and_self]
    | relay call => simp only [Logged.result_bind, and_self]

/-- If the host cannot be read, there is no answer, and nothing is sent. -/
theorem handle_of_unreadable (h : TakesDeliveries r.method path)
    (hhost : Host.isReadable r.hostText = false) :
    (handle s schedule generated (r.withPath path)).response = .unhandled ∧
      (handle s schedule generated (r.withPath path)).sent = [] := by
  obtain ⟨rest, hrest, -⟩ := h.unbroken
  have haddress := (addressPath_of_slash (r := r.withPath path) hrest).2 hhost
  have hroute := route_eq_delivery (r := r.withPath path) h
  refine ⟨response_of_crashes (.address hroute haddress), ?_⟩
  refine handle_sent_eq_nil fun call event document hcall => ?_
  obtain ⟨address, hread⟩ := hcall.delivers.address
  rw [haddress] at hread
  cases hread

/-- Otherwise response and calls are the same wherever deliveries are taken. -/
theorem handle_withPath (h : TakesDeliveries r.method path) (h' : TakesDeliveries r.method path')
    (hhost : Host.isReadable r.hostText = true) :
    (handle s schedule generated (r.withPath path)).LooksLike
      (handle s schedule generated (r.withPath path')) := by
  obtain ⟨address, haddress⟩ := exists_addressPath h.unbroken hhost
  obtain ⟨address', haddress'⟩ := exists_addressPath h'.unbroken hhost
  have hplan : (plan s (r.withPath path)).result = (plan s (r.withPath path')).result := by
    rw [plan_result_withPath h.unbroken hhost, plan_result_withPath h'.unbroken hhost]
  obtain ⟨hsent, hresult⟩ := respondToDelivery_of_plan_result schedule hplan
  rw [← respond_of_delivery (route_eq_delivery (r := r.withPath path) h),
    ← respond_of_delivery (route_eq_delivery (r := r.withPath path') h')] at hsent hresult
  refine ⟨?_, hsent⟩
  -- Both responses come about in the same way, under the same identity.
  cases hfirst : (respond s schedule (r.withPath path')).2.result with
  | ok response =>
    rw [hfirst] at hresult
    rw [response_of_ok hresult, response_of_ok hfirst]
    rfl
  | error e =>
    rw [hfirst] at hresult
    cases e with
    | crash c => rw [response_of_crash hresult, response_of_crash hfirst]
    | fault f =>
      rw [response_of_fault haddress hresult, response_of_fault haddress' hfirst]
      rfl

/-- A request with another method than the one for deliveries fails the first check. -/
theorem plan_of_method (hmethod : r.method ≠ "POST") :
    (plan s r).result = .error (.fault (.request .method)) := by
  have hfails : Check.method.FailsFirst s r := ⟨nofun, hmethod⟩
  unfold plan
  rw [checkForm_of_failsFirst hfails (by decide), Logged.of_error_bind]
  rfl

/-- Such a request is refused. -/
theorem handle_of_method (hmethod : r.method ≠ "POST") (h : TakesDeliveries r.method path)
    (hhost : Host.isReadable r.hostText = true) :
    (handle s schedule generated (r.withPath path)).response =
        (Response.text 400 "Unexpected HTTP method" [("allow", "POST")]).withTraceId
          (r.traceId generated) ∧
      (handle s schedule generated (r.withPath path)).sent = [] := by
  obtain ⟨address, haddress⟩ := exists_addressPath h.unbroken hhost
  exact handle_of_plan_fault (route_eq_delivery (r := r.withPath path) h) haddress
    (plan_of_method hmethod)

/-- At a path with a line end inside, no request finds anything. -/
theorem handle_of_broken {rest : List Char} (hpath : r.path.toList = '/' :: rest)
    (hbroken : '\n' ∈ rest.dropLast) :
    ((handle s schedule generated r).response.status = 307 ∨
        (handle s schedule generated r).response.status = 404) ∧
      (handle s schedule generated r).sent = [] := by
  have hnot : ¬ IsUnbroken r.path := by
    rintro ⟨rest', hrest, hnone⟩
    rw [hpath, List.cons.injEq] at hrest
    exact hnone (hrest.2 ▸ hbroken)
  have hdelivery : isDeliveryPath r.path = false :=
    Bool.eq_false_iff.mpr (isDeliveryPath_iff.not.mpr hnot)
  -- The places that are not for deliveries have no line end inside.
  have hpage : r.page? = none :=
    page?_eq_none fun _ page => Bool.eq_false_iff.mpr fun hat => hnot (isUnbroken_of_page hat)
  have hhealth : isAt "/health" r.path = false :=
    Bool.eq_false_iff.mpr fun hat => hnot (isUnbroken_of_isAt rfl (by decide) hat)
  have hroute : (∃ other, r.route = .elsewhere other) ∨ r.route = .nowhere := by
    rw [route_of_page?_eq_none hpage, hhealth, Bool.and_false, if_neg Bool.false_ne_true,
      hdelivery, if_neg Bool.false_ne_true]
    split
    · exact .inl ⟨_, rfl⟩
    · exact .inr rfl
  obtain ⟨other, hroute⟩ | hroute := hroute
  · have hrespond : respond s schedule r = ([], return .elsewhere r other) := by
      unfold respond
      rw [hroute]
    obtain ⟨hresponse, hsent⟩ := handle_of_respond generated hrespond
    rw [hresponse]
    exact ⟨.inl rfl, hsent⟩
  · have hrespond : respond s schedule r = ([], return .notFound) := by
      unfold respond
      rw [hroute]
    obtain ⟨hresponse, hsent⟩ := handle_of_respond generated hrespond
    rw [hresponse]
    exact ⟨.inr rfl, hsent⟩

/-- Whoever asks whether the relay works is told so, also with a line end after the path. -/
theorem handle_of_health (hget : r.method = "GET") (hat : isAt "/health" r.path = true) :
    (handle s schedule generated r).response =
        Response.health.withTraceId (r.traceId generated) ∧
      (handle s schedule generated r).sent = [] := by
  have hpage : r.page? = none := by
    refine page?_eq_none fun _ page => ?_
    obtain hpath | hpath := isAt_iff.mp hat
    · rw [hpath]
      cases page <;> decide +kernel
    · rw [hpath]
      cases page <;> decide +kernel
  have hhealth : (r.method = "GET" && isAt "/health" r.path) = true := by
    rw [hat, Bool.and_true]
    exact decide_eq_true hget
  have hrespond : respond s schedule r = ([], return .health) := by
    unfold respond
    rw [route_of_page?_eq_none hpage, hhealth, if_pos rfl]
  exact handle_of_respond generated hrespond

/-- Whoever asks for a page gets it, also with a line end after the path. -/
theorem handle_of_page (hmethod : r.method = "GET" ∨ r.method = "HEAD") {page : Page}
    (hat : isAt page.path r.path = true) :
    (handle s schedule generated r).response =
        (Response.documentation page).withTraceId (r.traceId generated) ∧
      (handle s schedule generated r).sent = [] := by
  have hrespond : respond s schedule r = ([], return .documentation page) := by
    unfold respond Request.route
    rw [page?_eq_some hmethod hat]
  exact handle_of_respond generated hrespond

/-! ## All paths -/

/-- How response and calls depend on the path of a request. -/
structure PathBlind (s : Settings) (schedule : Schedule) (generated : String) (r : Request) :
    Prop where
  /-- Wherever deliveries are taken, they are the same. -/
  alike : ∀ path path', TakesDeliveries r.method path → TakesDeliveries r.method path' →
    (handle s schedule generated (r.withPath path)).LooksLike
      (handle s schedule generated (r.withPath path'))
  /-- There every method but one is refused, and nothing is sent, if the host can be read. -/
  refused : r.method ≠ "POST" → Host.isReadable r.hostText = true →
    ∀ path, TakesDeliveries r.method path →
      (handle s schedule generated (r.withPath path)).response =
          (Response.text 400 "Unexpected HTTP method" [("allow", "POST")]).withTraceId
            (r.traceId generated) ∧
        (handle s schedule generated (r.withPath path)).sent = []
  /-- If it cannot be read, no request is answered there, and nothing is sent. -/
  unreadable : Host.isReadable r.hostText = false →
    ∀ path, TakesDeliveries r.method path →
      (handle s schedule generated (r.withPath path)).response = .unhandled ∧
        (handle s schedule generated (r.withPath path)).sent = []
  /-- Whoever asks for a page about the relay gets it, also with a line end after its path. -/
  documented : r.method = "GET" ∨ r.method = "HEAD" → ∀ page : Page,
    ∀ path ∈ [page.path, page.path ++ "\n"],
      (handle s schedule generated (r.withPath path)).response =
          (Response.documentation page).withTraceId (r.traceId generated) ∧
        (handle s schedule generated (r.withPath path)).sent = []
  /-- The path that answers whether the relay works is like any other for other methods. -/
  health : r.method ≠ "GET" → (handle s schedule generated (r.withPath "/health")).LooksLike
    (handle s schedule generated (r.withPath "/"))
  /-- With this method it answers, also with a line end after it. -/
  asked : r.method = "GET" → ∀ path ∈ ["/health", "/health\n"],
    (handle s schedule generated (r.withPath path)).response =
        Response.health.withTraceId (r.traceId generated) ∧
      (handle s schedule generated (r.withPath path)).sent = []
  /-- A path with a line end inside is the exception: nothing is found there by any method. -/
  broken : ∀ path rest, path.toList = '/' :: rest → '\n' ∈ rest.dropLast →
    ((handle s schedule generated (r.withPath path)).response.status = 307 ∨
        (handle s schedule generated (r.withPath path)).response.status = 404) ∧
      (handle s schedule generated (r.withPath path)).sent = []

/-- **Paths make no difference** where deliveries are taken, whatever the settings, the request and
the target are; and they are taken at every path that begins with a slash and has no line end
inside, unless the relay has something else to answer there. -/
theorem handle_pathBlind (s : Settings) (schedule : Schedule) (generated : String) (r : Request) :
    PathBlind s schedule generated r := by
  have halike : ∀ path path', TakesDeliveries r.method path → TakesDeliveries r.method path' →
      (handle s schedule generated (r.withPath path)).LooksLike
        (handle s schedule generated (r.withPath path')) := by
    intro path path' h h'
    cases hhost : Host.isReadable r.hostText with
    | true => exact handle_withPath h h' hhost
    | false =>
      have hunread : ∀ p, TakesDeliveries r.method p →
          (handle s schedule generated (r.withPath p)).response = .unhandled ∧
            (handle s schedule generated (r.withPath p)).sent = [] :=
        fun p hp => handle_of_unreadable hp hhost
      exact ⟨(hunread path h).1.trans (hunread path' h').1.symm,
        (hunread path h).2.trans (hunread path' h').2.symm⟩
  have htakes : ∀ path ∈ ["/", "/health"], r.method ≠ "GET" → TakesDeliveries r.method path := by
    intro path hmem hget
    have hunbroken : ∀ path ∈ ["/", "/health"], isDeliveryPath path = true := by decide +kernel
    have hpages : ∀ path ∈ ["/", "/health"], ∀ page ∈ Page.all,
        path ≠ page.path ∧ path ≠ page.path ++ "\n" := by decide +kernel
    exact {
      unbroken := isDeliveryPath_iff.mp (hunbroken path hmem)
      notPage := fun _ page => hpages path hmem page (by cases page <;> decide)
      notHealth := fun h => absurd h hget }
  exact {
    alike := halike
    refused := fun hmethod hhost path h => handle_of_method hmethod h hhost
    unreadable := fun hhost path h => handle_of_unreadable h hhost
    documented := fun hmethod page path hpath =>
      handle_of_page (r := r.withPath path) hmethod (isAt_of_mem hpath)
    health := fun hget => halike _ _ (htakes _ (by decide) hget) (htakes _ (by decide) hget)
    asked := fun hget path hpath =>
      handle_of_health (r := r.withPath path) hget (isAt_of_mem hpath)
    broken := fun path rest => handle_of_broken (r := r.withPath path) }

end Application

end Handling

namespace Application

attribute [local instance] Platform.bare

/-- A push to the path that answers whether the relay works is sent on like any other. -/
theorem handle_pathBlind_of_health :
    ∃ call, Authorized .relayAll Request.signedPush .push (.object []) call ∧
      (handle .relayAll (.finished (.response ⟨200, [], .empty⟩)) "id"
        (Request.signedPush.withPath "/health")).sent = [⟨call, false⟩] := by
  have hcall := Authorized.relayAll (Request.signedPush_delivers (by decide) rfl)
  have hblind := handle_pathBlind .relayAll (.finished (.response ⟨200, [], .empty⟩)) "id"
    Request.signedPush
  have hpath : Request.signedPush.withPath "/" = Request.signedPush := rfl
  refine ⟨_, hcall, (hblind.health (by decide)).sent.trans ?_⟩
  rw [hpath, handle_sent_of_authorized hcall, if_pos (by decide +kernel)]
  rfl

/-- A path that begins with a slash, but has a line end inside: unlike at another path, a request
with another method than the one for deliveries is not refused, since nothing is found. -/
theorem status_of_lineEnd :
    "/a\nb".toList.head? = some '/' ∧
      (handle {} .unasked "id" ⟨"GET", "/a", [], .empty⟩).response.status = 400 ∧
      (handle {} .unasked "id" ⟨"GET", "/a\nb", [], .empty⟩).response.status = 404 := by
  refine ⟨by decide, ?_, ?_⟩
  · rfl
  · rfl

end Application

end WebhookRelay
