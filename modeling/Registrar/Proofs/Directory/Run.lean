import Registrar.Directory.Run
import Registrar.Proofs.Directory.Load

/-!
# What a directory run writes and submits

A run writes the report that it fetched and the sheets of its outcome, and submits the sheets unless it is a dry run
(`SyncRun.course_of_yields`); whether a write or an import is refused changes nothing about that. The steps between
leave neither files nor sheets: they only look people up in the campus feed (`asks_batch`) and ask the directory about
single users (`Apply.asks_renames`, `Apply.asks_purgeIfEnabled`).
-/

namespace Registrar

open Program

/-! ## Calls -/

/-- A lookup of people. -/
def Service.IsLookup (c : Service) : Prop := ∃ uids, c = .people uids

theorem Service.IsLookup.isQuiet {c : Service} (hc : c.IsLookup) : c.IsQuiet := by
  obtain ⟨uids, rfl⟩ := hc
  exact ⟨rfl, rfl⟩

/-- A call to the directory about one user. -/
def Service.IsAboutUser : Service → Prop
  | .logins _ | .assignSisId _ _ | .channels _ | .deleteChannel _ _ => True
  | _ => False

theorem Service.IsAboutUser.isQuiet {c : Service} (hc : c.IsAboutUser) : c.IsQuiet := by
  cases c
  case logins | assignSisId | channels | deleteChannel => exact ⟨rfl, rfl⟩
  all_goals cases hc

theorem asks_batch (policy : SyncPolicy) (s : Reconciliation) (accounts : List (Row .provisionedUsers)) :
    (s.batch policy accounts).Asks Service.IsLookup := by
  refine (asks_ask ⟨_, rfl⟩).bind fun reply => ?_
  cases reply with
  | error reason => exact asks_pure _
  | ok people => exact (asks_logAll _).bind fun _ => asks_pure _

namespace Apply

theorem asks_rename (user newId : String) : (rename user newId).Asks Service.IsAboutUser := by
  refine (asks_ask trivial).bind fun reply => ?_
  cases reply with
  | error reason => exact asks_pure _
  | ok logins =>
    dsimp only
    split
    · refine (asks_log _).bind fun _ => (asks_ask trivial).bind fun reply => ?_
      cases reply with
      | error reason => exact asks_pure _
      | ok _ => exact asks_pure _
    · exact (asks_log _).bind fun _ => asks_pure _
    · exact (asks_log _).bind fun _ => asks_pure _

theorem asks_renameStep (tally : Tally) (change : IdChange) : (renameStep tally change).Asks Service.IsAboutUser := by
  refine (asks_rename _ _).bind fun outcome => ?_
  match outcome with
  | .ok true => exact asks_pure _
  | .ok false => exact (asks_log _).bind fun _ => asks_pure _
  | .error failure => exact (asks_log _).bind fun _ => (asks_log _).bind fun _ => asks_pure _

theorem asks_renames (dryRun : Bool) (changes : List IdChange) : (renames dryRun changes).Asks Service.IsAboutUser := by
  unfold renames
  split
  · exact asks_pure _
  · split
    · exact (asks_log _).bind fun _ => asks_pure _
    · exact (asks_log _).bind fun _ => asks_foldList asks_renameStep _ _

theorem asks_deleteStep (dryRun : Bool) (user : String) (tally : Tally) (channel : Channel) :
    (deleteStep dryRun user tally channel).Asks Service.IsAboutUser := by
  unfold deleteStep
  split
  · exact (asks_log _).bind fun _ => asks_pure _
  · refine (asks_log _).bind fun _ => (asks_ask trivial).bind fun reply => ?_
    cases reply with
    | ok _ => exact asks_pure _
    | error reason => exact (asks_log _).bind fun _ => asks_pure _

theorem asks_purgeStep (dryRun : Bool) (tally : Tally) (user : String) :
    (purgeStep dryRun tally user).Asks Service.IsAboutUser := by
  refine (asks_ask trivial).bind fun reply => ?_
  cases reply with
  | error reason => exact (asks_log _).bind fun _ => asks_pure _
  | ok channels => exact asks_foldList (asks_deleteStep dryRun user) _ _

theorem asks_purge (dryRun : Bool) (users : List String) : (purge dryRun users).Asks Service.IsAboutUser :=
  (asks_log _).bind fun _ => asks_foldList (asks_purgeStep dryRun) _ _

theorem asks_purgeIfEnabled (enabled dryRun : Bool) (users : List String) :
    (purgeIfEnabled enabled dryRun users).Asks Service.IsAboutUser := by
  unfold purgeIfEnabled
  split
  · exact asks_pure _
  · split
    · exact asks_purge _ _
    · exact (asks_log _).bind fun _ => asks_pure _

end Apply

namespace SyncRun

theorem asks_batchStep (policy : SyncPolicy) (state : Reconciliation × Nat) (accounts : List (Row .provisionedUsers)) :
    (batchStep policy state accounts).Asks Service.IsLookup := by
  refine (asks_batch _ _ _).bind fun outcome => ?_
  cases outcome with
  | ok s => exact asks_pure _
  | error failure => exact (asks_log _).bind fun _ => asks_pure _

/-- The lookups of a run are all that reconciling calls for. -/
theorem asks_reconcile (settings : SyncSettings) (known : KnownIds) (accounts : List (Row .provisionedUsers)) :
    (reconcile settings known accounts).Asks Service.IsLookup := asks_foldList (asks_batchStep _) _ _

/-! ## Sheets -/

variable {σ : Type} {h : Handler services σ} {settings : SyncSettings} {request : SyncRequest} {stamp : String}
  {s t : σ}

/-- The sheet of ID changes, if they go as a sheet. -/
def renameSheets (settings : SyncSettings) (changes : Changes) (stamp : String) : List (String × String) :=
  if settings.importViaCsv && !changes.renames.isEmpty then [(Stash.renamesName stamp, changes.toSheet.write)] else []

/-- The sheet of account updates, if there are any. -/
def updateSheets (updates : Sheet .userImport) (stamp : String) : List (String × String) :=
  if updates.rows.isEmpty then [] else [(Stash.updatesName stamp, updates.write)]

/-- The sheets of an outcome under their names in the stash. -/
def sheetsFor (settings : SyncSettings) (stamp : String) (outcome : Reconciliation) : List (String × String) :=
  renameSheets settings outcome.changes stamp ++ updateSheets outcome.updates stamp

/-- Sheets are submitted except in a dry run. -/
def offered (settings : SyncSettings) (sheets : List (String × String)) : List String :=
  if settings.dryRun then [] else sheets.map Prod.snd

theorem offered_append (settings : SyncSettings) (sheets more : List (String × String)) :
    offered settings (sheets ++ more) = offered settings sheets ++ offered settings more := by
  unfold offered
  split
  · rfl
  · exact List.map_append

theorem offered_nil (settings : SyncSettings) : offered settings [] = [] := by
  unfold offered
  exact ite_self _

theorem leaves_stash {folder : Path} {name text : String}
    (hy : (stash (Path.join folder name) text).Yields h s () t) :
    Leaves folder ((stash (Path.join folder name) text).exchanges h s) [(name, text)] [] := by
  obtain ⟨reply, u, hwrite, -⟩ := yields_bind_iff.1 hy
  have hexchanges : (stash (Path.join folder name) text).exchanges h s =
      [⟨.writeFile (Path.join folder name) text, reply⟩] := by
    refine (exchanges_ask_bind hwrite).trans ?_
    cases reply with
    | ok _ => rfl
    | error reason => rfl
  rw [hexchanges]
  exact ⟨rfl, rfl⟩

theorem leaves_submit {dryRun accepted : Bool} {what text : String}
    (hy : (submit dryRun what text).Yields h s accepted t) :
    Leaves settings.exportDir ((submit dryRun what text).exchanges h s) [] (if dryRun then [] else [text]) := by
  cases dryRun with
  | true => exact leaves_of_asks ((asks_log _).bind fun _ => asks_pure _)
  | false =>
    obtain ⟨reply, u, himport, -⟩ := yields_bind_iff.1 hy
    have hexchanges : (submit false what text).exchanges h s = [⟨.importSheet text, reply⟩] := by
      refine (exchanges_ask_bind himport).trans ?_
      cases reply with
      | ok _ => rfl
      | error reason => rfl
    rw [hexchanges]
    exact ⟨rfl, rfl⟩

/-- A sheet is stashed in any case, and before it is submitted. -/
theorem leaves_submitSheet {what name text : String} {count : Nat} {tally : Tally}
    (hy : (submitSheet settings what name text count).Yields h s tally t) :
    Leaves settings.exportDir ((submitSheet settings what name text count).exchanges h s) [(name, text)]
      (offered settings [(name, text)]) := by
  obtain ⟨_, u, hstash, hy⟩ := yields_bind_iff.1 hy
  obtain ⟨accepted, v, hsubmit, -⟩ := yields_bind_iff.1 hy
  suffices hrest : Leaves settings.exportDir _ [] (offered settings [(name, text)]) from
    (leaves_stash hstash).bind hstash hrest
  rw [← List.append_nil (offered settings _)]
  exact (leaves_submit hsubmit).bind hsubmit (leaves_of_asks (asks_pure _))

theorem leaves_applyRenames {changes : Changes} {tally : Tally}
    (hy : (applyRenames settings changes stamp).Yields h s tally t) :
    Leaves settings.exportDir ((applyRenames settings changes stamp).exchanges h s)
      (renameSheets settings changes stamp) (offered settings (renameSheets settings changes stamp)) := by
  unfold applyRenames renameSheets at *
  cases hcsv : settings.importViaCsv with
  | false => exact offered_nil settings ▸ leaves_of_asks ((Apply.asks_renames _ _).mono fun _ hc => hc.isQuiet)
  | true =>
    rw [hcsv] at hy
    cases hempty : changes.renames.isEmpty with
    | true => exact offered_nil settings ▸ leaves_of_asks (asks_pure _)
    | false =>
      rw [hempty] at hy
      obtain ⟨_, u, hlog, hsheet⟩ := yields_bind_iff.1 hy
      exact (leaves_of_asks (asks_log _)).bind hlog (leaves_submitSheet hsheet)

theorem leaves_submitUpdates {updates : Sheet .userImport} {tally : Tally}
    (hy : (submitUpdates settings updates stamp).Yields h s tally t) :
    Leaves settings.exportDir ((submitUpdates settings updates stamp).exchanges h s) (updateSheets updates stamp)
      (offered settings (updateSheets updates stamp)) := by
  unfold submitUpdates updateSheets at *
  cases hempty : updates.rows.isEmpty with
  | true => exact offered_nil settings ▸ leaves_of_asks ((asks_log _).bind fun _ => asks_pure _)
  | false =>
    rw [hempty] at hy
    obtain ⟨_, u, hwarn, hsheet⟩ := yields_bind_iff.1 hy
    exact (leaves_of_asks (asks_logAll _)).bind hwarn (leaves_submitSheet hsheet)

/-! ## The course of a run -/

theorem asks_learnFrom {P : Service → Prop} (htext : ∀ path, P (.fileText path)) {k : Kind} (what : String)
    (learn : KnownIds → Sheet k → KnownIds) (folder : Path) (known : KnownIds) (name : String) :
    (Stash.learnFrom k what learn folder known name).Asks P := by
  have hsheet : (Stash.readSheet k (Path.join folder name)).Asks P := by
    refine (asks_ask (htext _)).bind fun reply => ?_
    cases reply with
    | error reason => exact asks_pure _
    | ok text => exact asks_pure _
  refine (asks_log _).bind fun _ => hsheet.bind fun reply => ?_
  cases reply with
  | ok sheet => exact asks_pure _
  | error failure => exact (asks_log _).bind fun _ => asks_pure _

/-- Loading the stash lists the folder and reads files. -/
theorem asks_load {P : Service → Prop} {folder : Path} (hlist : P (.listFolder folder))
    (htext : ∀ path, P (.fileText path)) (known : KnownIds) : (Stash.load folder known).Asks P := by
  refine (asks_ask hlist).bind fun reply => ?_
  cases reply with
  | error reason => exact asks_pure _
  | ok listed =>
    dsimp only
    split
    · exact asks_pure _
    · refine (asks_log _).bind fun _ => (asks_ask (htext _)).bind fun reply => ?_
      cases reply with
      | error reason => exact asks_pure _
      | ok text =>
        dsimp only
        split
        · exact (asks_pure _).bind fun _ => asks_pure _
        · refine Asks.bind ?_ fun _ => asks_pure _
          exact (asks_foldList (asks_learnFrom htext _ _ _) _ _).bind fun _ =>
            asks_foldList (asks_learnFrom htext _ _ _) _ _

/-- The report as a file of the stash, where the run fetched it. -/
def reportFiles (cached : Bool) (stamp text : String) : List (String × String) :=
  if cached then [] else [(Stash.reportName stamp, text)]

theorem leaves_obtainReport {cached : Bool} {source : Except Failure (String × KnownIds)}
    (hy : (obtainReport settings cached stamp).Yields h s source t) :
    (∃ failure, source = .error failure ∧
      Leaves settings.exportDir ((obtainReport settings cached stamp).exchanges h s) [] []) ∨
    ∃ text known, source = .ok (text, known) ∧
      Leaves settings.exportDir ((obtainReport settings cached stamp).exchanges h s) (reportFiles cached stamp text)
        [] := by
  cases cached with
  | true =>
    have hquiet : (obtainReport settings true stamp).Asks Service.IsQuiet := by
      refine (asks_load ⟨rfl, rfl⟩ (fun _ => ⟨rfl, rfl⟩) _).bind fun loaded => ?_
      cases loaded with
      | error failure => exact asks_pure _
      | ok found => exact asks_pure _
    cases source with
    | error failure => exact .inl ⟨failure, rfl, leaves_of_asks hquiet⟩
    | ok found => exact .inr ⟨found.1, found.2, rfl, leaves_of_asks hquiet⟩
  | false =>
    obtain ⟨reply, u, hask, hrest⟩ := yields_bind_iff.1 hy
    cases reply with
    | error reason =>
      obtain ⟨rfl, -⟩ := yields_pure_iff.1 hrest
      exact .inl ⟨_, rfl, (leaves_of_asks (asks_ask ⟨rfl, rfl⟩)).bind hask (leaves_of_asks (asks_pure _))⟩
    | ok text =>
      obtain ⟨_, v, hstash, hpure⟩ := yields_bind_iff.1 hrest
      obtain ⟨rfl, -⟩ := yields_pure_iff.1 hpure
      refine .inr ⟨_, _, rfl, (leaves_of_asks (asks_ask ⟨rfl, rfl⟩)).bind hask ?_⟩
      exact (leaves_stash hstash).bind hstash (leaves_of_asks (asks_pure _))

/-- The services once a run knows its name and the time. -/
def clocked (h : Handler services σ) (s : σ) : σ := (h .now (h .freshId s).2).2

/-- How a run goes on once it knows the time, with the report file and the sheets that it leaves. -/
inductive Course (h : Handler services σ) (settings : SyncSettings) (request : SyncRequest) (stamp : String) (s : σ) :
    Except Failure SyncReport → List (String × String) → List (String × String) → Prop
  /-- There is no report. -/
  | missing {failure : Failure} {u : σ}
      (obtained : (obtainReport settings request.cached stamp).Yields h s (.error failure) u) :
      Course h settings request stamp s (.error failure) [] []
  /-- The report is malformed. -/
  | malformed {failure : Failure} {text : String} {known : KnownIds} {u : σ}
      (obtained : (obtainReport settings request.cached stamp).Yields h s (.ok (text, known)) u)
      (read : Sheet.readStrict .provisionedUsers text = .error failure) :
      Course h settings request stamp s (.error failure) (reportFiles request.cached stamp text) []
  /-- The accounts are reconciled, and what comes of it is submitted. -/
  | done {report : SyncReport} {text : String} {known : KnownIds} {sheet : Sheet .provisionedUsers} {skipped : Nat}
      {outcome : Reconciliation} {u v : σ}
      (obtained : (obtainReport settings request.cached stamp).Yields h s (.ok (text, known)) u)
      (read : Sheet.readStrict .provisionedUsers text = .ok sheet)
      (reconciled : (reconcile settings known (sheet.toList.filter (isWanted request.uids))).Yields h u
        (outcome, skipped) v) :
      Course h settings request stamp s (.ok report) (reportFiles request.cached stamp text)
        (sheetsFor settings stamp outcome)

/-- What a run wrote and submitted, by its course. -/
theorem course_of_yields {result : Except Failure SyncReport} (hy : (run settings request).Yields h s result t) :
    ∃ now reports sheets, timeOf? ((run settings request).exchanges h s) = some now ∧
      Course h settings request now.minuteStamp (clocked h s) result reports sheets ∧
      Leaves settings.exportDir ((run settings request).exchanges h s) (reports ++ sheets)
        (offered settings sheets) := by
  obtain ⟨runId, s₁, hid, hy₁⟩ := yields_bind_iff.1 hy
  obtain ⟨now, s₂, hnow, hy₂⟩ := yields_bind_iff.1 hy₁
  have hclocked : clocked h s = s₂ := by
    rw [clocked, yields_ask_iff.1 hid, yields_ask_iff.1 hnow]
  obtain ⟨_, s₃, hlog, hy₃⟩ := yields_bind_iff.1 hy₂
  obtain rfl := yields_log_iff.1 hlog
  obtain ⟨source, u, hobtain, hy₄⟩ := yields_bind_iff.1 hy₃
  have htime : timeOf? ((run settings request).exchanges h s) = some now := by
    refine (timeOf?_freshId_bind hid).trans ?_
    exact timeOf?_now_bind hnow
  -- naming the run, reading the clock and logging leave nothing
  suffices hwork : ∃ reports sheets,
      Course h settings request now.minuteStamp s₃ result reports sheets ∧
        Leaves settings.exportDir (Program.exchanges _ h s₃) (reports ++ sheets) (offered settings sheets) by
    obtain ⟨reports, sheets, hcourse, hleaves⟩ := hwork
    refine ⟨now, reports, sheets, htime, hclocked ▸ hcourse, ?_⟩
    exact (leaves_of_asks (asks_ask ⟨rfl, rfl⟩)).bind hid ((leaves_of_asks (asks_ask ⟨rfl, rfl⟩)).bind hnow
      ((leaves_of_asks (asks_log _)).bind hlog hleaves))
  rcases leaves_obtainReport hobtain with ⟨failure, rfl, hleaves⟩ | ⟨text, known, rfl, hleaves⟩
  · obtain ⟨rfl, -⟩ := yields_pure_iff.1 hy₄
    refine ⟨[], [], .missing hobtain, ?_⟩
    rw [offered_nil]
    exact hleaves.bind hobtain (leaves_of_asks (asks_pure _))
  · cases hread : Sheet.readStrict .provisionedUsers text with
    | error failure =>
      simp only [hread] at hy₄
      obtain ⟨rfl, -⟩ := yields_pure_iff.1 hy₄
      refine ⟨_, [], .malformed hobtain hread, ?_⟩
      rw [offered_nil]
      refine hleaves.bind hobtain ?_
      simp only [hread]
      exact leaves_of_asks (asks_pure _)
    | ok sheet =>
      simp only [hread] at hy₄
      obtain ⟨⟨outcome, skipped⟩, v, hreconcile, hy₅⟩ := yields_bind_iff.1 hy₄
      obtain ⟨renames, w, hrenames, hy₆⟩ := yields_bind_iff.1 hy₅
      obtain ⟨updates, x, hupdates, hy₇⟩ := yields_bind_iff.1 hy₆
      obtain ⟨_, _, -, hy₈⟩ := yields_bind_iff.1 hy₇
      obtain ⟨_, _, -, hy₉⟩ := yields_bind_iff.1 hy₈
      obtain ⟨rfl, -⟩ := yields_pure_iff.1 hy₉
      refine ⟨_, _, .done hobtain hread hreconcile, hleaves.bind hobtain ?_⟩
      have hquiet := (asks_reconcile settings known (sheet.toList.filter (isWanted request.uids))).mono
        fun _ hc => hc.isQuiet
      simp only [hread]
      suffices hsheets : Leaves settings.exportDir (Program.exchanges _ h u)
          ([] ++ (renameSheets settings outcome.changes now.minuteStamp ++
            (updateSheets outcome.updates now.minuteStamp ++ [])))
          ([] ++ (offered settings (renameSheets settings outcome.changes now.minuteStamp) ++
            (offered settings (updateSheets outcome.updates now.minuteStamp) ++ []))) by
        rw [List.append_nil, List.append_nil, ← offered_append] at hsheets
        exact hsheets
      refine (leaves_of_asks hquiet).bind hreconcile ((leaves_applyRenames hrenames).bind hrenames
        ((leaves_submitUpdates hupdates).bind hupdates (leaves_of_asks ?_)))
      exact ((Apply.asks_purgeIfEnabled _ _ _).mono fun _ hc => hc.isQuiet).bind fun _ =>
        (asks_log _).bind fun _ => asks_pure _

end SyncRun

end Registrar
