import Registrar.Proofs.Directory.Run
import Registrar.Proofs.World.History
import Registrar.Tape.Encoding
import Registrar.World.Memory

/-!
# What a run may do to the directory

`SyncRun.Authorised settings request past c` says when a run may make the call `c` after the exchanges `past`: a dry run
only looks, nothing touches channels unless purging is enabled, a channel goes only when it was just listed as an email
address of a user that the run decided to purge, and a login is given another SIS ID only when it is the single campus
login in the reply just received about a user whose ID the run decided to change. What a run decided is read off its
history (`SyncRun.Concludes`), which leaves no choice (`SyncRun.Concludes.unique`). Every call of every run is
authorised (`SyncRun.run_authorised`): each part of a run keeps to its own calls, and after its decisions each step
keeps the decisions in the history.
-/

namespace Registrar

open Program

/-! ## The parts of a run before its decisions -/

/-- A call that changes nothing in the directory and looks at no single user. -/
def Service.IsPassive (c : Service) : Prop := c.family = .directory → c = .usersReport

theorem Service.IsLookup.isPassive {c : Service} (hc : c.IsLookup) : c.IsPassive := by
  obtain ⟨uids, rfl⟩ := hc
  nofun

namespace SyncRun

variable {σ : Type} {h : Handler services σ} {settings : SyncSettings} {request : SyncRequest} {changes : Changes}
  {past later : List (Exchange services)}

theorem asks_stash (path : Path) (contents : String) : (stash path contents).Asks Service.IsPassive := by
  refine (asks_ask nofun).bind fun reply => ?_
  cases reply with
  | ok _ => exact asks_pure _
  | error reason => exact asks_log _

theorem asks_obtainReport (settings : SyncSettings) (cached : Bool) (stamp : String) :
    (obtainReport settings cached stamp).Asks Service.IsPassive := by
  cases cached with
  | true =>
    refine (asks_load nofun (fun _ => nofun) _).bind fun loaded => ?_
    cases loaded with
    | error failure => exact asks_pure _
    | ok found => exact asks_pure _
  | false =>
    refine (asks_ask fun _ => rfl).bind fun reply => ?_
    cases reply with
    | error reason => exact asks_pure _
    | ok text => exact (asks_stash _ _).bind fun _ => asks_pure _

/-! ## Decisions and listings in a history -/

/-- After these exchanges a run has decided on these changes: its report was obtained and could be read, and reconciling
the accounts asked for has come to them. -/
inductive Concludes (settings : SyncSettings) (request : SyncRequest) : List (Exchange services) → Changes → Prop
  | intro {runId : String} {now : Instant} {text : String} {known : KnownIds} {report : Sheet .provisionedUsers}
      {outcome : Reconciliation} {skipped : Nat} {source lookups later : List (Exchange services)}
      (obtained : (obtainReport settings request.cached now.minuteStamp).Reaches source (.ok (text, known)))
      (read : Sheet.readStrict .provisionedUsers text = .ok report)
      (reconciled : (reconcile settings known (report.toList.filter (isWanted request.uids))).Reaches lookups
        (outcome, skipped)) :
      Concludes settings request (⟨.freshId, runId⟩ :: ⟨.now, now⟩ :: (source ++ (lookups ++ later))) outcome.changes

/-- A history leaves no choice of the changes. -/
theorem Concludes.unique {changes' : Changes} (hc : Concludes settings request past changes)
    (hc' : Concludes settings request past changes') : changes = changes' := by
  obtain ⟨obtained, read, reconciled⟩ := hc
  generalize hpast : _ :: _ :: (_ ++ (_ ++ _)) = past at hc'
  obtain ⟨obtained', read', reconciled'⟩ := hc'
  obtain ⟨-, htail⟩ := List.cons_eq_cons.1 hpast
  obtain ⟨hnow, hparts⟩ := List.cons_eq_cons.1 htail
  cases hnow
  obtain ⟨hsource, hrest⟩ := obtained.unique obtained' hparts
  cases hsource
  cases read.symm.trans read'
  obtain ⟨houtcome, -⟩ := reconciled.unique reconciled' hrest
  cases houtcome
  rfl

theorem Concludes.append (hc : Concludes settings request past changes) (more : List (Exchange services)) :
    Concludes settings request (past ++ more) changes := by
  obtain ⟨obtained, read, reconciled⟩ := hc
  rw [List.cons_append, List.cons_append, List.append_assoc, List.append_assoc]
  exact .intro obtained read reconciled

/-- The channel was listed for the user as an email address, and since then nothing but channels of the user was
deleted. -/
inductive Listed (user : String) (id : UInt64) : List (Exchange services) → Prop
  | intro {before deletions : List (Exchange services)} {channels : List Channel} {channel : Channel}
      (since : ∀ e ∈ deletions, ∃ other, e.call = Service.deleteChannel user other) (mem : channel ∈ channels)
      (email : channel.type = "email") (names : channel.id = id) :
      Listed user id (before ++ ⟨.channels user, .ok channels⟩ :: deletions)

/-- When a run may make a call after these exchanges. -/
structure Authorised (settings : SyncSettings) (request : SyncRequest) (past : List (Exchange services)) (c : Service) :
    Prop where
  /-- A dry run asks the directory only for its report and for channels. -/
  dry : settings.dryRun = true → c.family = .directory → c = .usersReport ∨ ∃ user, c = .channels user
  /-- Channels are left alone unless purging is enabled. -/
  blocked : settings.deleteBadEmails = false →
    (∀ user, c ≠ .channels user) ∧ ∀ user id, c ≠ .deleteChannel user id
  deletion {user : String} {id : UInt64} : c = .deleteChannel user id →
    settings.dryRun = false ∧ settings.deleteBadEmails = true ∧
      ∃ changes, Concludes settings request past changes ∧ user ∈ changes.purges ∧ Listed user id past
  /-- A login is given another ID only right after the reply that it is the single campus login of its user. -/
  rename {id : UInt64} {newId : String} : c = .assignSisId id newId →
    settings.dryRun = false ∧ settings.importViaCsv = false ∧
      ∃ changes, Concludes settings request past changes ∧ ∃ change ∈ changes.renames, change.newId = newId ∧
        ∃ before logins login, past = before ++ [⟨.logins change.user, .ok logins⟩] ∧
          (logins.filter fun login => (CampusLogin.parse? login.uniqueId).isSome) = [login] ∧ login.id = id

theorem Authorised.of_isPassive {c : Service} (hc : c.IsPassive) (past : List (Exchange services)) :
    Authorised settings request past c where
  dry _ hfamily := .inl (hc hfamily)
  blocked _ := by
    constructor
    · rintro user rfl
      cases hc rfl
    · rintro user id rfl
      cases hc rfl
  deletion := by
    rintro user id rfl
    cases hc rfl
  rename := by
    rintro id newId rfl
    cases hc rfl

/-- Outside of dry runs a call that neither touches channels nor gives a login another ID is always right. -/
theorem Authorised.of_not_dryRun (hdry : settings.dryRun = false) (past : List (Exchange services)) {c : Service}
    (hchannels : ∀ user, c ≠ .channels user) (hdelete : ∀ user id, c ≠ .deleteChannel user id)
    (hassign : ∀ id newId, c ≠ .assignSisId id newId) : Authorised settings request past c where
  dry h := by
    rw [hdry] at h
    cases h
  blocked _ := ⟨hchannels, hdelete⟩
  deletion hc := absurd hc (hdelete _ _)
  rename hc := absurd hc (hassign _ _)

theorem Authorised.logins (hdry : settings.dryRun = false) (past : List (Exchange services)) (user : String) :
    Authorised settings request past (.logins user) :=
  .of_not_dryRun hdry past (fun _ => nofun) (fun _ _ => nofun) fun _ _ => nofun

theorem Authorised.importSheet (hdry : settings.dryRun = false) (past : List (Exchange services)) (text : String) :
    Authorised settings request past (.importSheet text) :=
  .of_not_dryRun hdry past (fun _ => nofun) (fun _ _ => nofun) fun _ _ => nofun

theorem Authorised.assignSisId (hdry : settings.dryRun = false) (hcsv : settings.importViaCsv = false)
    {change : IdChange} {logins : List DirectoryLogin} {login : DirectoryLogin}
    (hc : Concludes settings request (past ++ [⟨.logins change.user, .ok logins⟩]) changes)
    (hchange : change ∈ changes.renames)
    (hsingle : (logins.filter fun login => (CampusLogin.parse? login.uniqueId).isSome) = [login]) :
    Authorised settings request (past ++ [⟨.logins change.user, .ok logins⟩])
      (.assignSisId login.id change.newId) where
  dry h := by
    rw [hdry] at h
    cases h
  blocked _ := ⟨fun _ => nofun, fun _ _ => nofun⟩
  deletion := nofun
  rename := by
    rintro _ _ ⟨⟩
    exact ⟨hdry, hcsv, changes, hc, change, hchange, rfl, past, logins, login, rfl, hsingle, rfl⟩

theorem Authorised.deleteChannel (hdry : settings.dryRun = false) (henabled : settings.deleteBadEmails = true)
    {user : String} {id : UInt64} (hc : Concludes settings request past changes) (huser : user ∈ changes.purges)
    (hlisted : Listed user id past) : Authorised settings request past (.deleteChannel user id) where
  dry h := by
    rw [hdry] at h
    cases h
  blocked h := by
    rw [henabled] at h
    cases h
  deletion := by
    rintro _ _ ⟨⟩
    exact ⟨hdry, henabled, changes, hc, huser, hlisted⟩
  rename := nofun

theorem Authorised.channels (henabled : settings.deleteBadEmails = true) (past : List (Exchange services))
    (user : String) : Authorised settings request past (.channels user) where
  dry _ _ := .inr ⟨user, rfl⟩
  blocked h := by
    rw [henabled] at h
    cases h
  deletion := nofun
  rename := nofun

/-! ## The steps after the decisions -/

/-- Calls of no single user keep the decisions. -/
theorem meets_of_isPassive {α : Type} {p : Action α} (hp : p.Asks Service.IsPassive)
    (hc : Concludes settings request past changes) :
    p.Meets (Authorised settings request) (fun past' _ => Concludes settings request past' changes) past := by
  refine (hp.meets fun past c hpassive => Authorised.of_isPassive hpassive past).mono fun past' a hreaches => ?_
  obtain ⟨es, rfl, -⟩ := hreaches
  exact hc.append es

theorem meets_rename (hdry : settings.dryRun = false) (hcsv : settings.importViaCsv = false) {change : IdChange}
    (hchange : change ∈ changes.renames) (hc : Concludes settings request past changes) :
    (Apply.rename change.user change.newId).Meets (Authorised settings request)
      (fun past' _ => Concludes settings request past' changes) past := by
  refine meets_ask_bind (.logins hdry past _) fun reply => ?_
  have hlogins := hc.append [⟨.logins change.user, reply⟩]
  cases reply with
  | error reason => exact meets_pure hlogins
  | ok logins =>
    dsimp only
    split
    · rename_i login hsingle
      refine meets_log_bind _ (meets_ask_bind (.assignSisId hdry hcsv hlogins hchange hsingle) fun reply => ?_)
      cases reply with
      | error reason => exact meets_pure (hlogins.append _)
      | ok _ => exact meets_pure (hlogins.append _)
    · exact meets_log_bind _ (meets_pure hlogins)
    · exact meets_log_bind _ (meets_pure hlogins)

theorem meets_renameStep (hdry : settings.dryRun = false) (hcsv : settings.importViaCsv = false) (tally : Tally)
    {change : IdChange} (hchange : change ∈ changes.renames) (hc : Concludes settings request past changes) :
    (Apply.renameStep tally change).Meets (Authorised settings request)
      (fun past' _ => Concludes settings request past' changes) past := by
  refine (meets_rename hdry hcsv hchange hc).bind fun outcome past' hpast' => ?_
  match outcome with
  | .ok true => exact meets_pure hpast'
  | .ok false => exact meets_log_bind _ (meets_pure hpast')
  | .error failure => exact meets_log_bind _ (meets_log_bind _ (meets_pure hpast'))

theorem meets_submitSheet (what name text : String) (count : Nat) (hc : Concludes settings request past changes) :
    (submitSheet settings what name text count).Meets (Authorised settings request)
      (fun past' _ => Concludes settings request past' changes) past := by
  refine (meets_of_isPassive (asks_stash _ _) hc).bind fun _ past' hpast' => ?_
  suffices hsubmit : (submit settings.dryRun what text).Meets (Authorised settings request)
      (fun past' _ => Concludes settings request past' changes) past' from
    hsubmit.bind fun accepted _ hpast' => meets_pure hpast'
  cases hdry : settings.dryRun with
  | true => exact meets_log_bind _ (meets_pure hpast')
  | false =>
    refine meets_ask_bind (.importSheet hdry past' text) fun reply => ?_
    cases reply with
    | ok _ => exact meets_log_bind _ (meets_pure (hpast'.append _))
    | error reason => exact meets_log_bind _ (meets_pure (hpast'.append _))

theorem meets_applyRenames (stamp : String) (hc : Concludes settings request past changes) :
    (applyRenames settings changes stamp).Meets (Authorised settings request)
      (fun past' _ => Concludes settings request past' changes) past := by
  unfold applyRenames
  cases hcsv : settings.importViaCsv with
  | false =>
    show (Apply.renames settings.dryRun changes.renames).Meets _ _ past
    unfold Apply.renames
    split
    · exact meets_pure hc
    cases hdry : settings.dryRun with
    | true => exact meets_log_bind _ (meets_pure hc)
    | false =>
      exact meets_log_bind _ (meets_foldList (fun tally change hchange past hpast =>
        meets_renameStep hdry hcsv tally hchange hpast) _ hc)
  | true =>
    cases hempty : changes.renames.isEmpty with
    | true => exact meets_pure hc
    | false => exact meets_log_bind _ (meets_submitSheet _ _ _ _ hc)

theorem meets_submitUpdates (updates : Sheet .userImport) (stamp : String)
    (hc : Concludes settings request past changes) :
    (submitUpdates settings updates stamp).Meets (Authorised settings request)
      (fun past' _ => Concludes settings request past' changes) past := by
  unfold submitUpdates
  cases hempty : updates.rows.isEmpty with
  | true => exact meets_log_bind _ (meets_pure hc)
  | false => exact meets_logAll_bind _ (meets_submitSheet _ _ _ _ hc)

/-- While the channels of a user are deleted one by one, the reply that lists them stays the last other call. -/
theorem meets_purgeStep (henabled : settings.deleteBadEmails = true) (tally : Tally) {user : String}
    (huser : user ∈ changes.purges) (hc : Concludes settings request past changes) :
    (Apply.purgeStep settings.dryRun tally user).Meets (Authorised settings request)
      (fun past' _ => Concludes settings request past' changes) past := by
  refine meets_ask_bind (.channels henabled past user) fun reply => ?_
  cases reply with
  | error reason => exact meets_log_bind _ (meets_pure (hc.append _))
  | ok channels =>
    let K (past' : List (Exchange services)) : Prop := ∃ deletions : List (Exchange services),
      past' = past ++ ⟨.channels user, .ok channels⟩ :: deletions ∧
        ∀ e ∈ deletions, ∃ id, e.call = Service.deleteChannel user id
    have hstart : K (past ++ [⟨.channels user, .ok channels⟩]) := ⟨[], rfl, fun _ he => nomatch he⟩
    have hconcludes : ∀ past', K past' → Concludes settings request past' changes := by
      rintro past' ⟨deletions, rfl, -⟩
      exact hc.append _
    refine (meets_foldList (K := K) (fun tally channel hchannel past' hpast' => ?_) tally hstart).mono
      fun past' _ hpast' => hconcludes past' hpast'
    obtain ⟨hlisted, hemail⟩ := List.mem_filter.1 hchannel
    unfold Apply.deleteStep
    cases hdry : settings.dryRun with
    | true => exact meets_log_bind _ (meets_pure hpast')
    | false =>
      have hauthorised : Authorised settings request past' (.deleteChannel user channel.id) := by
        refine .deleteChannel hdry henabled (hconcludes past' hpast') huser ?_
        obtain ⟨deletions, rfl, hsince⟩ := hpast'
        exact .intro hsince hlisted (of_decide_eq_true hemail) rfl
      have hkept : ∀ reply, K (past' ++ [⟨.deleteChannel user channel.id, reply⟩]) := by
        intro reply
        obtain ⟨deletions, rfl, hsince⟩ := hpast'
        refine ⟨deletions ++ [⟨.deleteChannel user channel.id, reply⟩], by simp, fun e he => ?_⟩
        rcases List.mem_append.1 he with he | he
        · exact hsince e he
        · exact ⟨channel.id, by rw [List.mem_singleton.1 he]⟩
      refine meets_log_bind _ (meets_ask_bind hauthorised fun reply => ?_)
      cases reply with
      | ok _ => exact meets_pure (hkept _)
      | error reason => exact meets_log_bind _ (meets_pure (hkept _))

theorem meets_purgeIfEnabled (hc : Concludes settings request past changes) :
    (Apply.purgeIfEnabled settings.deleteBadEmails settings.dryRun changes.purges).Meets (Authorised settings request)
      (fun past' _ => Concludes settings request past' changes) past := by
  unfold Apply.purgeIfEnabled
  split
  · exact meets_pure hc
  · split
    · rename_i henabled
      exact meets_log_bind _ (meets_foldList (fun tally user huser past hpast =>
        meets_purgeStep henabled tally huser hpast) _ hc)
    · exact meets_log_bind _ (meets_pure hc)

/-! ## Whole runs -/

/-- Every call of a run is authorised, and the report counts the decisions that the history led to. -/
theorem meets_run (settings : SyncSettings) (request : SyncRequest) :
    (run settings request).Meets (Authorised settings request) (fun past result => ∀ report, result = .ok report →
      ∃ changes, Concludes settings request past changes ∧ report.sisIdChanges = changes.renames.length ∧
        report.emailDeletions = changes.purges.length) [] := by
  refine meets_ask_bind (.of_isPassive (by nofun) _) fun runId => ?_
  refine meets_ask_bind (.of_isPassive (by nofun) _) fun now => meets_log_bind _ ?_
  refine ((asks_obtainReport settings request.cached now.minuteStamp).meets fun past c hc => .of_isPassive hc past).bind
    fun source past hsource => ?_
  obtain ⟨es, rfl, hobtained⟩ := hsource
  match source, hobtained with
  | .error failure, _ => exact meets_pure fun report h => nomatch h
  | .ok (text, known), hobtained =>
    cases hread : Sheet.readStrict .provisionedUsers text with
    | error failure =>
      simp only [hread]
      exact meets_pure fun report h => nomatch h
    | ok report =>
      simp only [hread]
      have hasks := (asks_reconcile settings known (report.toList.filter (isWanted request.uids))).mono
        fun _ hc => hc.isPassive
      refine (hasks.meets fun past c hc => .of_isPassive hc past).bind fun reconciled past hreconciled => ?_
      obtain ⟨es', rfl, hreconciled⟩ := hreconciled
      obtain ⟨outcome, skipped⟩ := reconciled
      have hc : Concludes settings request
          (([] ++ [⟨.freshId, runId⟩] ++ [⟨.now, now⟩] ++ es) ++ es') outcome.changes := by
        have hintro : Concludes settings request
            (⟨.freshId, runId⟩ :: ⟨.now, now⟩ :: (es ++ (es' ++ []))) outcome.changes :=
          .intro hobtained hread hreconciled
        simpa using hintro
      refine (meets_applyRenames _ hc).bind fun renames past hpast => ?_
      refine (meets_submitUpdates _ _ hpast).bind fun updates past hpast => ?_
      refine (meets_purgeIfEnabled hpast).bind fun _ past hpast => meets_log_bind _ (meets_pure ?_)
      rintro _ ⟨⟩
      exact ⟨outcome.changes, hpast, rfl, rfl⟩

/-- **Every call is authorised.** Whatever the services reply, and also when a run is halted, each call of a run is one
that it may make after what was exchanged before. What the history led the run to decide is what its report counts. -/
theorem run_authorised (h : Handler services σ) (s : σ) (settings : SyncSettings) (request : SyncRequest) :
    (∀ past e later, (run settings request).exchanges h s = past ++ e :: later →
      Authorised settings request past e.call) ∧
    ∀ report t, (run settings request).Yields h s (.ok report) t →
      ∃ changes, Concludes settings request ((run settings request).exchanges h s) changes ∧
        report.sisIdChanges = changes.renames.length ∧ report.emailDeletions = changes.purges.length :=
  ⟨fun _ _ _ hsplit => (meets_run settings request).of_split hsplit,
    fun report _ hy => (meets_run settings request).of_yields hy report rfl⟩

end SyncRun

namespace DepartedStudent

/-- A report of one account whose owner has departed. -/
def report : String :=
  "canvas_user_id,user_id,login_id,first_name,last_name,full_name,email,status\n" ++
    "77,2345678,12345,Ann,Aaa,Ann Aaa,ann@example.edu,active\n"

def settings : SyncSettings := { inactivateExpiredUsers := true, deleteBadEmails := true }

/-- A directory that knows a login and an email address of the owner. -/
def world : World where
  now := .sinceEpoch 0 0
  directory := {
    report := some report
    logins := Keyed.empty.insert "sis_login_id:12345" [{ id := 5, uniqueId := "12345", sisUserId := none }]
    channels := Keyed.empty.insert "77" [{ id := 3, type := "email", address := "ann@example.edu" }] }

theorem exists_split {c : Service}
    (hc : c ∈ ((SyncRun.run settings {}).exchanges World.handler world).map (·.call)) :
    ∃ past e later, (SyncRun.run settings {}).exchanges World.handler world = past ++ e :: later ∧ e.call = c := by
  obtain ⟨e, he, rfl⟩ := List.mem_map.1 hc
  obtain ⟨past, later, hsplit⟩ := List.append_of_mem he
  exact ⟨past, e, later, hsplit, rfl⟩

end DepartedStudent

open DepartedStudent in
/-- The run gives the login of the departed student another SIS ID and deletes the email address, both authorised. -/
theorem SyncRun.run_authorised_departed :
    (∃ past e later, (run settings {}).exchanges World.handler world = past ++ e :: later ∧
      e.call = .assignSisId 5 "UID:12345" ∧ Authorised settings {} past (.assignSisId 5 "UID:12345")) ∧
    ∃ past e later, (run settings {}).exchanges World.handler world = past ++ e :: later ∧
      e.call = .deleteChannel "77" 3 ∧ Authorised settings {} past (.deleteChannel "77" 3) := by
  obtain ⟨past, e, later, hsplit, he⟩ := exists_split (c := .assignSisId 5 "UID:12345") (by decide +kernel)
  obtain ⟨past', e', later', hsplit', he'⟩ := exists_split (c := .deleteChannel "77" 3) (by decide +kernel)
  have hauthorised := (run_authorised World.handler world settings {}).1
  exact ⟨⟨past, e, later, hsplit, he, he ▸ hauthorised past e later hsplit⟩,
    past', e', later', hsplit', he', he' ▸ hauthorised past' e' later' hsplit'⟩

end Registrar
