import Registrar.Directory.Remote
import Registrar.Proofs.Host.Url
import Registrar.Proofs.World.Exchanges

/-!
# Waiting for a report

The report of all accounts is started, and its state is looked at until it is final. Where every request is answered,
one turn of the loop replaces a pending state by what the next reply says (`awaitReport_continuesAs`). So the loop comes
to every reply that only pending ones precede (`usersReport_continuesAs`), and what it does there depends on this reply
alone.

A state is examined before the next look, and none is examined after the last look. The replies that count are
therefore the one to the start and those to all looks but the last (`usersReport_polls`).
-/

namespace Registrar

open Program

/-- The server did what it was asked. -/
def HttpResponse.IsSuccess (r : HttpResponse) : Prop := 200 ≤ r.status ∧ r.status < 300

namespace Remote

/-! ## Requests that are answered -/

/-- A host whose server gives the responses of a script. Its state is the number of requests so far. -/
def scripted (script : Nat → HttpResponse) : Handler host Nat := fun c sent =>
  match c with
  | .send _ => (.ok (.ok (script sent)), sent + 1)
  | .pause _ => (.ok (), sent)
  | _ => (.error "no server", sent)

/-- With these settings requests reach the directory. -/
structure CanSend (s : DirectorySettings) (token : String) : Prop where
  hasToken : s.apiToken = some token
  notEmpty : token.isEmpty = false
  isHeader : isHeader ("Bearer " ++ token) = true
  isAddress : (Url.parse? (address s "")).isSome = true

variable {α : Type} {s : DirectorySettings} {token operation : String} {script : Nat → HttpResponse} {n : Nat}
  {d : Draft}

/-- All parts of the directory are on one server. -/
theorem map_origin_address (s : DirectorySettings) (path path' : String) :
    (Url.parse? (address s path)).map Url.origin = (Url.parse? (address s path')).map Url.origin := by
  have haddress (path : String) : address s path = String.ofList
      ((s.baseUrl.toList.reverse.dropWhile (· = '/')).reverse ++ "/api/v".toList ++ '1' :: '/' :: path.toList) :=
    String.toList_inj.1 (by simp [address])
  rw [haddress, haddress]
  exact Url.map_origin_parse?_append (by decide) _ _ _

theorem CanSend.exists_url (hs : CanSend s token) (path : String) : ∃ url, Url.parse? (address s path) = some url := by
  rw [← Option.isSome_iff_exists, ← Option.isSome_map (f := Url.origin), map_origin_address s path "",
    Option.isSome_map]
  exact hs.isAddress

theorem CanSend.filter_apiToken (hs : CanSend s token) : (s.apiToken.filter fun t => !t.isEmpty) = some token := by
  rw [hs.hasToken, Option.filter_some, hs.notEmpty]
  rfl

theorem CanSend.complete? (hs : CanSend s token) {url : Url} (hurl : Url.parse? d.url = some url) :
    d.complete? token = some {
      method := d.method
      url := if d.query.isEmpty then url else url.withQuery d.query
      authorization := "Bearer " ++ token
      contentType := d.contentType
      body := d.body } := by
  simp [Draft.complete?, hurl, hs.isHeader]

theorem accept_of_isSuccess {response : HttpResponse} (hgood : response.IsSuccess) :
    accept operation response = .ok response.body := if_pos hgood

/-- A draft that can be sent is answered with the next response of the script. -/
theorem CanSend.sendText (hs : CanSend s token) {request : HttpRequest} (hd : d.complete? token = some request)
    (operation : String) (script : Nat → HttpResponse) (n : Nat) :
    (sendText s operation d).Yields (scripted script) n (accept operation (script n)) (n + 1) ∧
    (sendText s operation d).exchanges (scripted script) n = [⟨.send request, .ok (script n)⟩] := by
  have hask : (HostAction.send request).Yields (scripted script) n (.ok (script n)) (n + 1) := yields_ask rfl
  constructor
  · simp only [Remote.sendText, hs.filter_apiToken, hd]
    exact hask.bind (yields_pure _ _ _)
  · simp only [Remote.sendText, hs.filter_apiToken, hd]
    exact hask.exchanges_bind

/-- What a response says, or that it says nothing. -/
def reading (operation : String) (read : Value → Option α) (response : HttpResponse) : Except String α :=
  match (Json.read? response.body).bind read with
  | some a => .ok a
  | none => .error s!"{operation}: failed to parse response"

theorem CanSend.sendJson (hs : CanSend s token) {path : String} (hd : d.url = address s path)
    (hgood : (script n).IsSuccess) (operation : String) (read : Value → Option α) :
    (sendJson s operation read d).Yields (scripted script) n (reading operation read (script n)) (n + 1) := by
  obtain ⟨url, hurl⟩ := hs.exists_url path
  have hsend := (hs.sendText (hs.complete? (hd ▸ hurl)) operation script n).1
  rw [accept_of_isSuccess hgood] at hsend
  refine Yields.bind hsend ?_
  simp only [reading]
  cases (Json.read? (script n).body).bind read with
  | some a => exact yields_pure _ _ _
  | none => exact yields_pure _ _ _

/-! ## The loop -/

/-- What a response says about a report. -/
def report? (response : HttpResponse) : Option ReportStatus := (Json.read? response.body).bind ReportStatus.ofValue?

theorem reading_of_report? {response : HttpResponse} {r : ReportStatus} (hr : report? response = some r) :
    reading operation ReportStatus.ofValue? response = .ok r := by
  rw [report?] at hr
  rw [reading, hr]

theorem reading_of_none {response : HttpResponse} (hr : report? response = none) :
    reading operation ReportStatus.ofValue? response = .error s!"{operation}: failed to parse response" := by
  rw [report?] at hr
  rw [reading, hr]

/-- The report is neither there nor lost. -/
def ReportStatus.IsPending (r : ReportStatus) : Prop := r.isComplete = false ∧ r.isLost = false

/-- The report is pending in every reply in front of reply `k`. -/
def PendsUntil (script : Nat → HttpResponse) (k : Nat) : Prop := ∀ i < k, ∃ r, report? (script i) = some r ∧ r.IsPending

variable {r : ReportStatus} {k : Nat}

/-- One turn of the loop: a pending state is replaced by what the next reply says. -/
theorem awaitReport_continuesAs (hs : CanSend s token) (hr : r.IsPending) (hgood : (script n).IsSuccess) (polls : Nat) :
    (awaitReport s (polls + 1) r).ContinuesAs (scripted script) n
      (goOn (awaitReport s polls) (reading "poll users report" ReportStatus.ofValue? (script n))) (n + 1) := by
  have hpause : (HostAction.pause s.reportPollSeconds).Yields (scripted script) n () n := yields_ask rfl
  have hpoll : (pollReport s r.id).Yields _ _ _ _ := hs.sendJson rfl hgood "poll users report" ReportStatus.ofValue?
  rw [awaitReport, hr.1, hr.2]
  exact hpause.continuesAs.trans hpoll.andThen_continuesAs

/-- The loop comes to every reply that only pending ones precede, with one look less for each of these. -/
theorem usersReport_continuesAs (hs : CanSend s token) (hgood : ∀ n, (script n).IsSuccess) (hk : k ≤ maxPolls)
    (hpends : PendsUntil script k) : ∃ operation, (usersReport s).ContinuesAs (scripted script) 0
      (goOn (awaitReport s (maxPolls - k)) (reading operation ReportStatus.ofValue? (script k))) (k + 1) := by
  induction k with
  | zero =>
    have hstart : (startReport s).Yields _ _ _ _ := hs.sendJson rfl (hgood 0) "start users report" ReportStatus.ofValue?
    refine ⟨"start users report", hstart.andThen_continuesAs.trans ?_⟩
    cases reading "start users report" ReportStatus.ofValue? (script 0) with
    | ok r => exact (yields_log _ _ _).continuesAs
    | error e => exact .refl
  | succ k ih =>
    obtain ⟨r, hr, hpending⟩ := hpends k (Nat.lt_succ_self k)
    obtain ⟨operation, hcome⟩ := ih (by omega) fun i hi => hpends i (by omega)
    rw [reading_of_report? hr, goOn, show maxPolls - k = maxPolls - (k + 1) + 1 by omega] at hcome
    exact ⟨_, hcome.trans (awaitReport_continuesAs hs hpending (hgood (k + 1)) _)⟩

/-! ## The end of the loop -/

/-- The loop gave up. -/
def GivesUp (result : Except String String) : Prop :=
  ∃ id : UInt64, result = .error s!"users report {id} did not complete"

theorem not_givesUp_ok (text : String) : ¬ GivesUp (.ok text) := by
  rintro ⟨id, h⟩
  cases h

/-- The last two characters of a text, in reverse. -/
def ending (s : String) : List Char := s.toList.reverse.take 2

theorem ending_append (front : String) {back : String} (hback : 2 ≤ back.toList.length) :
    ending (front ++ back) = ending back := by
  rw [ending, String.toList_append, List.reverse_append, List.take_append_of_le_length (by simpa using hback), ending]

/-- Giving up is told from the other errors by the end of its text. -/
theorem not_givesUp_error {e : String} (he : ending e ≠ ['e', 't']) : ¬ GivesUp (.error e) := by
  rintro ⟨id, h⟩
  cases h
  exact he (ending_append _ (by decide))

theorem not_givesUp_reading (operation : String) : ¬ GivesUp (.error s!"{operation}: failed to parse response") := by
  refine not_givesUp_error ?_
  rw [ending_append _ (by decide)]
  decide

theorem not_givesUp_of_isLost (hr : r.isLost = true) :
    ¬ GivesUp (.error s!"users report {r.id} ended with {r.status}") := by
  refine not_givesUp_error ?_
  rw [ReportStatus.isLost, Bool.or_eq_true, decide_eq_true_iff, decide_eq_true_iff] at hr
  rcases hr with hr | hr
  · rw [hr, ending_append _ (by decide)]
    decide
  · rw [hr, ending_append _ (by decide)]
    decide

theorem fetchReport_yields (hs : CanSend s token) (hgood : (script n).IsSuccess) {text : String} {url : Url}
    (htext : r.attachment = some text) (hurl : Url.parse? text = some url) :
    (fetchReport s r).Yields (scripted script) n (.ok (script n).body) (n + 1) ∧
    (fetchReport s r).exchanges (scripted script) n =
      [⟨.send { method := .get, url, authorization := "Bearer " ++ token }, .ok (script n)⟩] := by
  have hsend := hs.sendText (hs.complete? (d := { method := .get, url := text }) hurl) "download users report" script n
  rw [accept_of_isSuccess hgood] at hsend
  simp only [fetchReport, htext]
  exact hsend

theorem exists_fetchReport_yields (hs : CanSend s token) (hgood : (script n).IsSuccess) (r : ReportStatus) :
    ∃ result sent, (fetchReport s r).Yields (scripted script) n result sent ∧ ¬ GivesUp result := by
  cases htext : r.attachment with
  | none =>
    rw [fetchReport, htext]
    exact ⟨_, _, yields_pure _ _ _, not_givesUp_error (by decide)⟩
  | some text =>
    cases hurl : Url.parse? text with
    | some url => exact ⟨_, _, (fetchReport_yields hs hgood htext hurl).1, not_givesUp_ok _⟩
    | none =>
      have hdraft : Draft.complete? { method := .get, url := text } token = none := by simp [Draft.complete?, hurl]
      have hfetch : fetchReport s r = return .error "download users report request failed: builder error" := by
        simp only [fetchReport, htext, sendText, hs.filter_apiToken, hdraft]
        rfl
      rw [hfetch]
      exact ⟨_, _, yields_pure _ _ _, not_givesUp_error (by decide)⟩

/-- At a final state the loop ends, and it does not give up. -/
theorem exists_awaitReport_yields (hs : CanSend s token) (hgood : (script n).IsSuccess) (hr : ¬ r.IsPending)
    (polls : Nat) :
    ∃ result sent, (awaitReport s (polls + 1) r).Yields (scripted script) n result sent ∧ ¬ GivesUp result := by
  rw [awaitReport]
  split
  · exact exists_fetchReport_yields hs hgood r
  · split
    · exact ⟨_, _, yields_pure _ _ _, not_givesUp_of_isLost ‹_›⟩
    · exact absurd ⟨Bool.eq_false_iff.2 ‹_›, Bool.eq_false_iff.2 ‹_›⟩ hr

/-- A script either pends until reply `k` or comes to a reply in front of it that is not pending. -/
theorem pendsUntil_or (script : Nat → HttpResponse) (k : Nat) :
    PendsUntil script k ∨ ∃ j < k, PendsUntil script j ∧ ¬ ∃ r, report? (script j) = some r ∧ r.IsPending := by
  induction k with
  | zero => exact .inl fun i hi => absurd hi (Nat.not_lt_zero i)
  | succ k ih =>
    rcases ih with hpends | ⟨j, hj, hfirst⟩
    · by_cases hk : ∃ r, report? (script k) = some r ∧ r.IsPending
      · refine .inl fun i hi => ?_
        rcases Nat.lt_succ_iff_lt_or_eq.1 hi with hi | rfl
        · exact hpends i hi
        · exact hk
      · exact .inr ⟨k, Nat.lt_succ_self k, hpends, hk⟩
    · exact .inr ⟨j, Nat.lt_succ_of_lt hj, hfirst⟩

/-! ## The whole call -/

theorem usersReport_fetches (hs : CanSend s token) (hgood : ∀ n, (script n).IsSuccess) (hk : k < maxPolls)
    (hpends : PendsUntil script k) (hr : report? (script k) = some r) (hcomplete : r.isComplete = true) {text : String}
    {url : Url} (htext : r.attachment = some text) (hurl : Url.parse? text = some url) :
    (usersReport s).Yields (scripted script) 0 (.ok (script (k + 1)).body) (k + 2) ∧
    [⟨.send { method := .get, url, authorization := "Bearer " ++ token }, .ok (script (k + 1))⟩] <:+
      (usersReport s).exchanges (scripted script) 0 := by
  obtain ⟨operation, hcome⟩ := usersReport_continuesAs hs hgood (Nat.le_of_lt hk) hpends
  rw [reading_of_report? hr, goOn, show maxPolls - k = maxPolls - (k + 1) + 1 by omega, awaitReport, if_pos hcomplete]
    at hcome
  obtain ⟨hyields, hexchanges⟩ := fetchReport_yields hs (hgood (k + 1)) htext hurl
  exact ⟨hcome.yields hyields, hexchanges ▸ hcome.exchanges⟩

/-- Where a reply in front of the last is not pending, the call does not give up. -/
theorem usersReport_ends (hs : CanSend s token) (hgood : ∀ n, (script n).IsSuccess) (hk : k < maxPolls)
    (hpends : PendsUntil script k) (hfinal : ¬ ∃ r, report? (script k) = some r ∧ r.IsPending) :
    ∃ result sent, (usersReport s).Yields (scripted script) 0 result sent ∧ ¬ GivesUp result := by
  obtain ⟨operation, hcome⟩ := usersReport_continuesAs hs hgood (Nat.le_of_lt hk) hpends
  cases hr : report? (script k) with
  | none =>
    rw [reading_of_none hr, goOn] at hcome
    exact ⟨_, _, hcome.yields (yields_pure _ _ _), not_givesUp_reading operation⟩
  | some r =>
    rw [reading_of_report? hr, goOn, show maxPolls - k = maxPolls - (k + 1) + 1 by omega] at hcome
    obtain ⟨result, sent, hyields, hnot⟩ := exists_awaitReport_yields hs (hgood (k + 1))
      (fun hpending => hfinal ⟨r, hr, hpending⟩) (maxPolls - (k + 1))
    exact ⟨result, sent, hcome.yields hyields, hnot⟩

/-- The call gives up exactly where the report is pending in all replies in front of the one to the last look and this
one says anything about it. -/
theorem usersReport_givesUp_iff (hs : CanSend s token) (hgood : ∀ n, (script n).IsSuccess) :
    ∃ result sent, (usersReport s).Yields (scripted script) 0 result sent ∧
      (GivesUp result ↔ PendsUntil script maxPolls ∧ (report? (script maxPolls)).isSome = true) ∧
      (GivesUp result → sent = maxPolls + 1) := by
  rcases pendsUntil_or script maxPolls with hpends | ⟨k, hk, hpends, hfinal⟩
  · obtain ⟨operation, hcome⟩ := usersReport_continuesAs hs hgood (Nat.le_refl _) hpends
    rw [Nat.sub_self] at hcome
    cases hr : report? (script maxPolls) with
    | none =>
      rw [reading_of_none hr, goOn] at hcome
      have hnot := not_givesUp_reading operation
      exact ⟨_, _, hcome.yields (yields_pure _ _ _), by simp [hnot], fun h => absurd h hnot⟩
    | some r =>
      rw [reading_of_report? hr, goOn, awaitReport] at hcome
      exact ⟨_, _, hcome.yields (yields_pure _ _ _), iff_of_true ⟨r.id, rfl⟩ ⟨hpends, rfl⟩, fun _ => rfl⟩
  · obtain ⟨result, sent, hyields, hnot⟩ := usersReport_ends hs hgood hk hpends hfinal
    exact ⟨result, sent, hyields, iff_of_false hnot fun h => hfinal (h.1 k hk), fun h => absurd h hnot⟩

/-- **The replies that count are the one to the start and those to all looks but the last.** If the report is pending in
all replies in front of one of these, and this one says that it is there, its text is fetched and returned. The call
gives up exactly where the report is pending in all of them, whatever the reply to the last look says about it, and not
before this look. -/
theorem usersReport_polls (hs : CanSend s token) (hgood : ∀ n, (script n).IsSuccess) :
    (∀ k < maxPolls, PendsUntil script k → ∀ r text url, report? (script k) = some r → r.isComplete = true →
      r.attachment = some text → Url.parse? text = some url →
      (usersReport s).Yields (scripted script) 0 (.ok (script (k + 1)).body) (k + 2) ∧
      [⟨.send { method := .get, url, authorization := "Bearer " ++ token }, .ok (script (k + 1))⟩] <:+
        (usersReport s).exchanges (scripted script) 0) ∧
    ∃ result sent, (usersReport s).Yields (scripted script) 0 result sent ∧
      (GivesUp result ↔ PendsUntil script maxPolls ∧ (report? (script maxPolls)).isSome = true) ∧
      (GivesUp result → sent = maxPolls + 1) :=
  ⟨fun _ hk hpends _ _ _ hr hcomplete htext hurl => usersReport_fetches hs hgood hk hpends hr hcomplete htext hurl,
    usersReport_givesUp_iff hs hgood⟩

/-! ### A report that is complete in one reply -/

/-- Settings with a token. -/
def withToken : DirectorySettings := { apiToken := some "t" }

theorem canSend_withToken : CanSend withToken "t" where
  hasToken := rfl
  notEmpty := by decide
  isHeader := by decide
  isAddress := by decide +kernel

/-- Where the report is. -/
def reportUrl : Url := { origin := "http://localhost:3000", path := "/f" }

/-- The report when it is there. -/
def completeReport : ReportStatus := { id := 5, status := "complete", attachment := some reportUrl.text }

/-- The replies of a server on which the report is complete in reply `k`; its text is behind this reply. -/
def completing (k i : Nat) : HttpResponse where
  status := 200
  body :=
    if i < k then "\x7b\"id\": 5, \"status\": \"running\"\x7d"
    else if i = k then
      "\x7b\"id\": 5, \"status\": \"complete\", \"attachment\": \x7b\"url\": \"http://localhost:3000/f\"\x7d\x7d"
    else "canvas_user_id"

theorem isSuccess_completing (k i : Nat) : (completing k i).IsSuccess := by
  simp [completing, HttpResponse.IsSuccess]

theorem pendsUntil_completing (k : Nat) : PendsUntil (completing k) k := by
  intro i hi
  refine ⟨{ id := 5, status := "running" }, ?_, by decide, by decide⟩
  rw [report?, completing, if_pos hi]
  decide +kernel

theorem report?_completing (k : Nat) : report? (completing k k) = some completeReport := by
  rw [report?, completing, if_neg (Nat.lt_irrefl k), if_pos rfl]
  decide +kernel

/-- The reply to the last look but one counts. -/
theorem usersReport_polls_fetched :
    CanSend withToken "t" ∧ (∀ n, (completing (maxPolls - 1) n).IsSuccess) ∧
    PendsUntil (completing (maxPolls - 1)) (maxPolls - 1) ∧
    report? (completing (maxPolls - 1) (maxPolls - 1)) = some completeReport ∧
    (usersReport withToken).Yields (scripted (completing (maxPolls - 1))) 0 (.ok "canvas_user_id") (maxPolls + 1) ∧
    [⟨.send { method := .get, url := reportUrl, authorization := "Bearer t" }, .ok ⟨200, "canvas_user_id"⟩⟩] <:+
      (usersReport withToken).exchanges (scripted (completing (maxPolls - 1))) 0 := by
  have hpends := pendsUntil_completing (maxPolls - 1)
  have hreport := report?_completing (maxPolls - 1)
  have hfetched := (usersReport_polls canSend_withToken (isSuccess_completing (maxPolls - 1))).1 (maxPolls - 1)
    (by decide) hpends completeReport _ reportUrl hreport (by decide) rfl (by decide +kernel)
  exact ⟨canSend_withToken, isSuccess_completing _, hpends, hreport, hfetched⟩

/-- The reply to the last look does not count: it says that the report is there, and the call gives up. -/
theorem last_poll_unread :
    CanSend withToken "t" ∧ (∀ n, (completing maxPolls n).IsSuccess) ∧ PendsUntil (completing maxPolls) maxPolls ∧
    report? (completing maxPolls maxPolls) = some completeReport ∧ completeReport.isComplete = true ∧
    completeReport.attachment = some reportUrl.text ∧ Url.parse? reportUrl.text = some reportUrl ∧
    (usersReport withToken).Yields (scripted (completing maxPolls)) 0 (.error "users report 5 did not complete")
      (maxPolls + 1) := by
  have hpends := pendsUntil_completing maxPolls
  have hreport := report?_completing maxPolls
  obtain ⟨operation, hcome⟩ := usersReport_continuesAs canSend_withToken (isSuccess_completing maxPolls)
    (Nat.le_refl _) hpends
  have hmessage : s!"users report {completeReport.id} did not complete" = "users report 5 did not complete" := by decide
  rw [reading_of_report? hreport, Nat.sub_self, goOn, awaitReport, hmessage] at hcome
  exact ⟨canSend_withToken, isSuccess_completing _, hpends, hreport, by decide, rfl, by decide +kernel,
    hcome.yields (yields_pure _ _ _)⟩

end Remote

end Registrar
