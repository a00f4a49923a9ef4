import Registrar.Proofs.Directory.CachedRun
import Registrar.Proofs.Directory.Session

/-!
# Who is inactivated

A run judges the accounts of every batch whose lookup is answered, one after the other, against the people of the reply
(`judgements`, `eq_foldl_judgements`). Each account update is what was decided about one of the accounts judged
(`Decided`, kept by every judgement: `Decided.judge`).

A decision writes the mark of inactivation only for an owner who has departed, where the login had it before or departed
people are inactivated (`Judgement.Decides.inactivation`). For somebody on the whitelist it writes the bare campus ID
(`Judgement.Decides.loginId_of_mem_whitelist`). So a run inactivates nobody but departed people
(`run_inactivates_departed`).
-/

namespace Registrar

open Program

section Runs

variable {σ : Type} {h : Handler services σ} {settings : SyncSettings} {request : SyncRequest}
  {policy : SyncPolicy} {people : List Person} {uid : String}

/-! ## The accounts that a run judges -/

/-- The accounts of the batches whose lookup is answered, each with the people of the reply. -/
def judgements (h : Handler services σ) : σ → List (List (Row .provisionedUsers)) → List Judgement
  | _, [] => []
  | s, batch :: rest =>
    match lookup h (idsOf batch) s with
    | (.ok (.ok people), s') => batch.map (⟨·, people⟩) ++ judgements h s' rest
    | (_, s') => judgements h s' rest

/-- Every account judged is an account of some batch. -/
theorem account_mem_of_mem_judgements {s : σ} {bs : List (List (Row .provisionedUsers))} {j : Judgement}
    (hj : j ∈ judgements h s bs) : j.account ∈ bs.flatten := by
  induction bs generalizing s with
  | nil => cases hj
  | cons batch rest ih =>
    rw [List.flatten_cons, List.mem_append]
    unfold judgements at hj
    split at hj
    · rcases List.mem_append.1 hj with hj | hj
      · obtain ⟨account, haccount, rfl⟩ := List.mem_map.1 hj
        exact .inl haccount
      · exact .inr (ih hj)
    · exact .inr (ih hj)

namespace Reconciliation

variable {r : Reconciliation} {account : Row .provisionedUsers} {login : CampusLogin}

/-- The reconciliation after a judgement. -/
def judge (policy : SyncPolicy) (r : Reconciliation) (j : Judgement) : Reconciliation :=
  (r.take policy j.people j.account).1

theorem foldl_judge_map (policy : SyncPolicy) (people : List Person) (r : Reconciliation)
    (accounts : List (Row .provisionedUsers)) :
    (accounts.map (Judgement.mk · people)).foldl (judge policy) r = (r.takeAll policy people accounts).1 := by
  rw [takeAll_eq_foldl, List.foldl_map]
  rfl

/-- Going through batches is judging the accounts of the answered ones. -/
theorem eq_foldl_judgements {bs : List (List (Row .provisionedUsers))} {x y : Reconciliation × Nat} {s t : σ}
    (hy : (foldList (SyncRun.batchStep policy) x bs).Yields h s y t) :
    y.1 = (judgements h s bs).foldl (judge policy) x.1 := by
  induction bs generalizing x s with
  | nil =>
    obtain ⟨rfl, -⟩ := yields_pure_iff.1 hy
    rfl
  | cons batch rest ih =>
    obtain ⟨next, u, hstep, hrest⟩ := yields_bind_iff.1 hy
    obtain ⟨batched, v, hbatch, hafter⟩ := yields_bind_iff.1 hstep
    rw [ih hrest, judgements]
    cases batched with
    | ok first =>
      obtain ⟨people, hl, rfl⟩ := lookup_of_yields_batch hbatch
      obtain ⟨rfl, rfl⟩ := yields_pure_iff.1 hafter
      simp only [hl]
      rw [List.foldl_append, foldl_judge_map]
    | error failure =>
      obtain ⟨reason, hl⟩ := refused_of_yields_batch hbatch
      obtain ⟨_, w, hlog, hpure⟩ := yields_bind_iff.1 hafter
      obtain rfl := yields_log_iff.1 hlog
      obtain ⟨rfl, rfl⟩ := yields_pure_iff.1 hpure
      simp only [hl]

end Reconciliation

/-! ## What is decided about an account -/

namespace Judgement

/-- The row is what is decided about the account, which is one of the campus ID. -/
def Decides (policy : SyncPolicy) (j : Judgement) (uid : String) (r : Row .userImport) : Prop :=
  ∃ login, CampusLogin.parse? (j.account.get .loginId) = some login ∧ login.uid = uid ∧
    r = (Verdict.of policy j.people j.account login).target

/-- The owner of the campus ID is not on the whitelist. Either the login of the account has the mark of inactivation, or
departed people are inactivated and the first person found is absent or has left. -/
structure CallsForInactivation (policy : SyncPolicy) (j : Judgement) (uid : String) : Prop where
  unlisted : uid ∉ policy.whitelist
  cause : j.account.get .loginId = inactiveMark ++ uid ∨
    policy.inactivateExpired = true ∧ ∀ person, findPerson j.people uid = some person → person.expired = true

end Judgement

namespace Judgement

variable {j : Judgement} {r : Row .userImport}

open Reconciliation

/-- A numeral has no mark of inactivation. -/
theorem ne_marked_of_isNumeral {owner : String} (hn : Text.isNumeral uid = true) : uid ≠ inactiveMark ++ owner := by
  rintro rfl
  rw [Text.not_isNumeral_append (by decide)] at hn
  cases hn

/-- Only the account of a departed owner is given the mark, and the mark stands before the owner's campus ID. -/
theorem Decides.inactivation {owner : String} (hd : j.Decides policy uid r)
    (hr : r.get .loginId = inactiveMark ++ owner) : owner = uid ∧ j.CallsForInactivation policy uid := by
  obtain ⟨login, hl, rfl, rfl⟩ := hd
  obtain ⟨hn, htext⟩ := CampusLogin.parse?_eq_some_iff.1 hl
  by_cases hst : Standing.of policy j.people login.uid = .departed
  · obtain ⟨hunlisted, hleft⟩ := standing_eq_departed_iff.1 hst
    rw [loginId_target_of_departed j.account hst] at hr
    split at hr
    · rename_i hinactivate
      exact ⟨((String.append_right_inj _).1 hr).symm, hunlisted, .inr ⟨hinactivate, hleft⟩⟩
    · rw [htext, CampusLogin.text] at hr
      split at hr
      · rename_i hinactive
        refine ⟨((String.append_right_inj _).1 hr).symm, hunlisted, .inl ?_⟩
        rw [htext, CampusLogin.text, if_pos hinactive]
      · exact absurd hr (ne_marked_of_isNumeral hn)
  · rw [loginId_target_of_not_departed hl hst] at hr
    exact absurd hr (ne_marked_of_isNumeral hn)

/-- The account of somebody on the whitelist is given the bare campus ID. -/
theorem Decides.loginId_of_mem_whitelist (hd : j.Decides policy uid r) (hlisted : uid ∈ policy.whitelist) :
    r.get .loginId = uid := by
  obtain ⟨login, hl, rfl, rfl⟩ := hd
  exact loginId_target_of_not_departed hl fun hst => (standing_eq_departed_iff.1 hst).1 hlisted

end Judgement

/-! ## Every account update was decided -/

namespace Reconciliation

/-- Every account update is what was decided about one of the accounts judged. -/
def Decided (policy : SyncPolicy) (judged : List Judgement) (updates : Sheet .userImport) : Prop :=
  ∀ uid r, updates.get? uid = some r → ∃ j ∈ judged, j.Decides policy uid r

theorem Decided.judge {judged : List Judgement} {s : Reconciliation} (hs : Decided policy judged s.updates)
    (j : Judgement) : Decided policy (judged ++ [j]) (s.judge policy j).updates := by
  have hbefore : Decided policy (judged ++ [j]) s.updates := fun uid r hr =>
    (hs uid r hr).imp fun _ hi => ⟨List.mem_append_left _ hi.1, hi.2⟩
  rcases take_cases policy j.people s j.account with ht | ⟨login, hl, -, ht⟩
  · rwa [Reconciliation.judge, ht]
  · rw [Reconciliation.judge, ht, enter_eq]
    dsimp only
    split
    · exact hbefore
    · intro uid r hr
      rw [Sheet.get?, Sheet.insert, Keyed.get?_insert] at hr
      split at hr
      · rename_i huid
        exact ⟨j, by simp, login, hl, huid.symm, (Option.some.inj hr).symm⟩
      · exact hbefore uid r hr

theorem Decided.foldl {judged : List Judgement} {s : Reconciliation} (hs : Decided policy judged s.updates)
    (more : List Judgement) : Decided policy (judged ++ more) (more.foldl (Reconciliation.judge policy) s).updates := by
  induction more generalizing judged s with
  | nil =>
    rw [List.append_nil]
    exact hs
  | cons j rest ih =>
    rw [List.append_cons]
    exact ih (hs.judge j)

/-- The account updates of a run were decided about accounts of its answered batches. -/
theorem decided_of_yields {known : KnownIds} {accounts : List (Row .provisionedUsers)} {outcome : Reconciliation}
    {skipped : Nat} {s t : σ} (hy : (SyncRun.reconcile settings known accounts).Yields h s (outcome, skipped) t) :
    Decided settings.policy (judgements h s (batches settings.batchSize accounts)) outcome.updates := by
  have hstart : Decided settings.policy [] (start known).updates := fun _ _ hr => nomatch hr
  have houtcome : outcome = _ := eq_foldl_judgements hy
  rw [houtcome]
  exact hstart.foldl _

end Reconciliation

/-! ## Whole runs -/

namespace SyncRun

/-- A run over a report, with the time that its clock gave: from the services `u` on, the accounts asked for came to an
outcome, and the sheets of the outcome, which bear this time, are what the run submitted. -/
structure Reconciled (h : Handler services σ) (settings : SyncSettings) (request : SyncRequest) (now : Instant)
    (known : KnownIds) (s u : σ) (report : Sheet .provisionedUsers) (outcome : Reconciliation) : Prop where
  time : timeOf? ((run settings request).exchanges h s) = some now
  obtained : ∃ text, (obtainReport settings request.cached now.minuteStamp).Yields h (clocked h s)
      (.ok (text, known)) u ∧
    Sheet.readStrict .provisionedUsers text = .ok report
  reconciled : ∃ skipped v, (reconcile settings known (report.toList.filter (isWanted request.uids))).Yields h u
    (outcome, skipped) v
  submitted : sheetsOf ((run settings request).exchanges h s) =
    offered settings (sheetsFor settings now.minuteStamp outcome)

theorem reconciled_of_yields {s t : σ} {result : SyncReport} (hy : (run settings request).Yields h s (.ok result) t) :
    ∃ now known u report outcome, Reconciled h settings request now known s u report outcome := by
  obtain ⟨now, reports, sheets, htime, hcourse, hleaves⟩ := course_of_yields hy
  cases hcourse with
  | done obtained read reconciled =>
    exact ⟨now, _, _, _, _, htime, ⟨_, obtained, read⟩, ⟨_, _, reconciled⟩, hleaves.sheets⟩

/-- The accounts that a run judges: those asked for, in the batches whose lookup is answered. -/
def judged (h : Handler services σ) (settings : SyncSettings) (request : SyncRequest)
    (report : Sheet .provisionedUsers) (u : σ) : List Judgement :=
  judgements h u (batches settings.batchSize (report.toList.filter (isWanted request.uids)))

/-- **A run inactivates nobody but departed people.** Every account update of a run whose login has the mark of
inactivation stands under the campus ID behind the mark and was decided about an account of the report that was asked
for, has that campus ID and lies in a batch whose lookup was answered. The campus ID is not on the whitelist, and either
the login of the account had the mark before, or departed people are inactivated and the first person of the reply with
that campus ID is absent or has left. An account update under a campus ID of the whitelist has the bare campus ID as its
login. -/
theorem run_inactivates_departed {s t : σ} {result : SyncReport}
    (hy : (run settings request).Yields h s (.ok result) t) :
    ∃ now known u report outcome, Reconciled h settings request now known s u report outcome ∧
      (∀ uid r, outcome.updates.get? uid = some r → ∀ owner, r.get .loginId = inactiveMark ++ owner →
        owner = uid ∧ ∃ j ∈ judged h settings request report u, j.account ∈ report.toList ∧
          isWanted request.uids j.account = true ∧ j.Decides settings.policy owner r ∧
          j.CallsForInactivation settings.policy owner) ∧
      ∀ uid ∈ settings.whitelist, ∀ r, outcome.updates.get? uid = some r → r.get .loginId = uid := by
  obtain ⟨now, known, u, report, outcome, hrun⟩ := reconciled_of_yields hy
  obtain ⟨skipped, v, hreconcile⟩ := hrun.reconciled
  have hdecided := Reconciliation.decided_of_yields hreconcile
  refine ⟨now, known, u, report, outcome, hrun, fun uid r hr owner howner => ?_, fun uid huid r hr => ?_⟩
  · obtain ⟨j, hj, hd⟩ := hdecided uid r hr
    obtain ⟨rfl, hcalls⟩ := hd.inactivation howner
    have haccount := account_mem_of_mem_judgements hj
    rw [flatten_batches, List.mem_filter] at haccount
    exact ⟨rfl, j, hj, haccount.1, haccount.2, hd, hcalls⟩
  · obtain ⟨j, -, hd⟩ := hdecided uid r hr
    exact hd.loginId_of_mem_whitelist huid

end SyncRun

end Runs

/-! ## A run over three accounts -/

namespace DepartedOwner

/-- A report of three accounts whose owners nobody knows. -/
def report : String :=
  "canvas_user_id,user_id,login_id,first_name,last_name,full_name,email,status\n" ++
    "7,,101\n8,,102\n9,,inactive-103\n"

def accounts : List (Row .provisionedUsers) :=
  [.ofPairs _ [(.canvasUserId, "7"), (.loginId, "101")], .ofPairs _ [(.canvasUserId, "8"), (.loginId, "102")],
   .ofPairs _ [(.canvasUserId, "9"), (.loginId, "inactive-103")]]

def settings : SyncSettings := { inactivateExpiredUsers := true, batchSize := 1, whitelist := ["103"] }

/-- The services with an empty campus feed that refuses its first lookup. -/
def world : World :=
  { now := ⟨.epoch, 0, 0, by decide⟩, campus := { failing := [0] }, directory := { report := some report } }

theorem readStrict_report :
    Sheet.readStrict .provisionedUsers report = .ok (Sheet.ofRows .provisionedUsers accounts) := by
  decide +kernel

/-- The services once a run has stashed its report. -/
def stashed (stamp : String) : World :=
  ((SyncRun.obtainReport settings false stamp).run World.handler (SyncRun.clocked World.handler world)).state

theorem yields_obtainReport (stamp : String) :
    (SyncRun.obtainReport settings false stamp).Yields World.handler (SyncRun.clocked World.handler world)
      (.ok (report, {})) (stashed stamp) := ⟨rfl, rfl⟩

/-- What the second and the third account come to. -/
def outcome : Reconciliation :=
  (((Reconciliation.start {}).takeAll settings.policy [] [accounts[1]]).1.takeAll settings.policy [] [accounts[2]]).1

theorem yields_reconcile (stamp : String) :
    ∃ t, (SyncRun.reconcile settings {} accounts).Yields World.handler (stashed stamp) (outcome, 1) t := by
  have hbatches : batches settings.batchSize accounts = [[accounts[0]], [accounts[1]], [accounts[2]]] := by
    simp [batches, settings, accounts]
  rw [SyncRun.reconcile, hbatches]
  -- the first lookup is refused, and the feed replies with nobody to the others
  have hanswered {batch : List (Row .provisionedUsers)} {w w' : World} (x : Reconciliation)
      (hl : lookup World.handler (idsOf batch) w = (.ok (.ok (peopleAmong [] (idsOf batch))), w')) :
      (SyncRun.batchStep settings.policy (x, 1) batch).Yields World.handler w
        ((x.takeAll settings.policy [] batch).1, 1) w' := yields_batchStep_answered hl x 1
  exact ⟨_, .foldList (yields_batchStep_refused rfl _ _) (.foldList (hanswered _ rfl)
    (.foldList (hanswered _ rfl) (yields_foldList_nil _ _ _ _)))⟩

end DepartedOwner

open DepartedOwner in
/-- The lookup of the first account is refused, so nothing is decided about it; the owner of the second has departed,
and the third is on the whitelist. -/
theorem SyncRun.run_inactivates_departed_refused :
    ∃ result t, (run settings {}).Yields World.handler world (.ok result) t ∧
      ∃ now known u report outcome, Reconciled World.handler settings {} now known world u report outcome ∧
        outcome.updates.get? "101" = none ∧
        (∃ r, outcome.updates.get? "102" = some r ∧ r.get .loginId = inactiveMark ++ "102" ∧
          ∃ j ∈ judged World.handler settings {} report u, j.account ∈ report.toList ∧
            j.Decides settings.policy "102" r ∧ j.CallsForInactivation settings.policy "102") ∧
        ∃ r, outcome.updates.get? "103" = some r ∧ r.get .loginId = "103" := by
  obtain ⟨result, t, hy⟩ : ∃ result t, (run settings {}).Yields World.handler world (.ok result) t :=
    exists_report_of_obtained World.answers_handler (fun stamp => ⟨_, yields_obtainReport stamp⟩) readStrict_report
  obtain ⟨now, known, u, report, outcome, hrun, hmarked, hlisted⟩ := run_inactivates_departed hy
  -- the run has read the report above, and reconciled it as above
  obtain ⟨text, hobtained, hread⟩ := hrun.obtained
  obtain ⟨hsource, rfl⟩ := hobtained.unique (yields_obtainReport now.minuteStamp)
  cases hsource
  cases hread.symm.trans readStrict_report
  obtain ⟨skipped, v, hreconciled⟩ := hrun.reconciled
  obtain ⟨w, hreconcile⟩ := yields_reconcile now.minuteStamp
  have hall : (Sheet.ofRows .provisionedUsers accounts).toList.filter (isWanted none) = accounts := by decide +kernel
  rw [hall] at hreconciled
  cases (hreconciled.unique hreconcile).1
  obtain ⟨r, hr, hlogin⟩ :
      ∃ r, DepartedOwner.outcome.updates.get? "102" = some r ∧ r.get .loginId = inactiveMark ++ "102" :=
    ⟨_, rfl, by decide +kernel⟩
  obtain ⟨r', hr'⟩ : ∃ r, DepartedOwner.outcome.updates.get? "103" = some r := ⟨_, rfl⟩
  obtain ⟨-, j, hj, haccount, -, hd, hcalls⟩ := hmarked "102" r hr "102" hlogin
  refine ⟨result, t, hy, now, {}, _, _, _, hrun, by decide +kernel, ?_, r', hr', hlisted "103" (by decide) r' hr'⟩
  exact ⟨r, hr, hlogin, j, hj, haccount, hd, hcalls⟩

end Registrar
