import Registrar.Proofs.Directory.Inactivation

/-!
# Account updates and ID changes agree

An account update may have another SIS ID than the account of its campus ID has. The directory then needs the ID change
first, so the change has to be there, for this account and to this ID. Three facts carry this:

- an ID change gives an ID (`Judgement.newId_ne_of_change?`), so its campus ID is known from then on and no account of
  it is judged again;
- therefore no later change replaces it: changes are added at the end, in the order in which they are decided;
- while no change of an earlier run is known, every change that a verdict asks for is recorded.

They are kept by every judgement (`Tracked.judge`), so after any sequence of batches the account updates, the changes
and their sheet agree (`batches_coherent`).
-/

namespace Registrar

open Program

variable {σ : Type} {h : Handler services σ} {policy : SyncPolicy} {judged : List Judgement} {r : Reconciliation}
  {uid : String}

/-! ## The change that an account asks for -/

namespace Judgement

variable {j : Judgement} {login : CampusLogin} {c : IdChange}

/-- The ID change that is decided about an account, if its login names a campus person: from the SIS ID that it has to
the one that it should have, where these differ. -/
def change? (policy : SyncPolicy) (j : Judgement) : Option IdChange :=
  (CampusLogin.parse? (j.account.get .loginId)).bind fun login =>
    let newId := (Verdict.of policy j.people j.account login).target.get .userId
    if j.account.get .userId = newId then none
    else some ⟨Reconciliation.userOf j.account, j.account.get .userId, newId⟩

theorem change?_eq_some_iff (hl : CampusLogin.parse? (j.account.get .loginId) = some login) :
    j.change? policy = some c ↔
      j.account.get .userId ≠ (Verdict.of policy j.people j.account login).target.get .userId ∧
        c = ⟨Reconciliation.userOf j.account, j.account.get .userId,
          (Verdict.of policy j.people j.account login).target.get .userId⟩ := by
  rw [change?, hl, Option.bind_some]
  dsimp only
  split
  · rename_i heq
    exact ⟨fun hnone => by simp at hnone, fun hne => absurd heq hne.1⟩
  · rename_i hne
    rw [Option.some.injEq]
    exact ⟨fun heq => ⟨hne, heq.symm⟩, fun heq => heq.2.symm⟩

theorem change?_eq_none_iff (hl : CampusLogin.parse? (j.account.get .loginId) = some login) :
    j.change? policy = none ↔
      j.account.get .userId = (Verdict.of policy j.people j.account login).target.get .userId := by
  rw [change?, hl, Option.bind_some]
  dsimp only
  split
  · rename_i heq
    exact iff_of_true rfl heq
  · rename_i hne
    exact iff_of_false nofun hne

/-- A change is one of the user of the account, from one ID to another. -/
theorem ids_of_change? (hc : j.change? policy = some c) :
    c.user = Reconciliation.userOf j.account ∧ c.oldId = j.account.get .userId ∧ c.oldId ≠ c.newId := by
  obtain ⟨login, hl, -⟩ := Option.bind_eq_some_iff.1 hc
  obtain ⟨hne, rfl⟩ := (change?_eq_some_iff hl).1 hc
  exact ⟨rfl, rfl, hne⟩

/-- A change gives an ID: no verdict takes one away. -/
theorem newId_ne_of_change? (hc : j.change? policy = some c) : c.newId ≠ "" := by
  obtain ⟨login, hl, -⟩ := Option.bind_eq_some_iff.1 hc
  obtain ⟨hne, rfl⟩ := (change?_eq_some_iff hl).1 hc
  exact fun hempty => hne ((Reconciliation.verdict_of_userId_empty hempty).1.trans hempty.symm)

end Judgement

/-! ## What every judgement keeps -/

namespace Reconciliation

/-- Entering a verdict records the change of SIS IDs, unless the old one is known to be replaced. -/
theorem renames_enter (policy : SyncPolicy) (r : Reconciliation) (account : Row .provisionedUsers) (uid : String)
    (v : Verdict) :
    (r.enter policy account uid v).1.changes.renames =
      if account.get .userId = v.target.get .userId ∨ r.known.hasRename (account.get .userId) then r.changes.renames
      else Changes.putRename ⟨userOf account, account.get .userId, v.target.get .userId⟩ r.changes.renames := by
  have hflagged : (r.flagged account v).renames = r.changes.renames := by
    unfold flagged Changes.flag
    split
    · split <;> rfl
    · rfl
  rw [enter_eq, ← hflagged]
  dsimp only
  split <;> rfl

/-! ### A campus ID with a change has been given a SIS ID -/

/-- A campus ID with a change has been given a SIS ID, so none of its accounts is judged again. -/
def Given (r : Reconciliation) : Prop :=
  ∀ account login, userOf account ∈ r.changes.renames.map IdChange.user →
    CampusLogin.parse? (account.get .loginId) = some login → r.known.hasUser login.uid = true

theorem given_start (known : KnownIds) : (start known).Given := nofun

section Given

variable {j : Judgement} {login : CampusLogin}

/-- A campus ID that has been given a SIS ID keeps one. -/
theorem hasUser_enter (hk : r.known.hasUser login.uid = false) (v : Verdict) (hu : r.known.hasUser uid = true) :
    (r.enter policy j.account login.uid v).1.known.hasUser uid = true := by
  have hne : uid ≠ login.uid := by
    rintro rfl
    rw [hk] at hu
    cases hu
  rw [enter_eq, KnownIds.hasUser, Keyed.get?_insert, if_neg hne]
  exact hu

/-- Nothing is recorded for the user of an account that is judged. -/
theorem Given.user_not_mem (hr : r.Given) (hl : CampusLogin.parse? (j.account.get .loginId) = some login)
    (hk : r.known.hasUser login.uid = false) : userOf j.account ∉ r.changes.renames.map IdChange.user := fun hmem => by
  rw [hr j.account login hmem hl] at hk
  cases hk

theorem Given.enter (hr : r.Given) (hl : CampusLogin.parse? (j.account.get .loginId) = some login)
    (hk : r.known.hasUser login.uid = false) :
    (r.enter policy j.account login.uid (.of policy j.people j.account login)).1.Given := by
  intro account login' huser hl'
  rw [renames_enter] at huser
  split at huser
  · exact hasUser_enter hk _ (hr account login' huser hl')
  · rename_i hcond
    rw [not_or] at hcond
    rw [Changes.putRename_of_not_mem (hr.user_not_mem hl hk), List.map_append, List.mem_append] at huser
    rcases huser with huser | huser
    · exact hasUser_enter hk _ (hr account login' huser hl')
    · -- the account has the login of the one judged, so it has its campus ID
      have hsame : login = login' := by
        rw [userOf_injective (List.mem_singleton.1 huser), hl, Option.some.injEq] at hl'
        exact hl'
      have hid := Judgement.newId_ne_of_change? ((Judgement.change?_eq_some_iff hl).2 ⟨hcond.1, rfl⟩)
      rw [← hsame, enter_eq, KnownIds.hasUser, Keyed.get?_insert_self, Option.any_some, Bool.not_eq_true',
        String.isEmpty_eq_false_iff]
      exact hid

theorem Given.judge (hr : r.Given) (j : Judgement) : (r.judge policy j).Given := by
  rcases take_cases policy j.people r j.account with ht | ⟨login, hl, hk, ht⟩
  · rwa [Reconciliation.judge, ht]
  · rw [Reconciliation.judge, ht]
    exact hr.enter hl hk

end Given

/-! ### Account updates and changes -/

/-- An account of the campus ID was judged that has the SIS ID of an account update, or is given it by a change. -/
def Supplied (judged : List Judgement) (renames : List IdChange) (uid : String) (row : Row .userImport) : Prop :=
  ∃ j ∈ judged, uidOf? j.account = some uid ∧ (j.account.get .userId = row.get .userId ∨
    ⟨userOf j.account, j.account.get .userId, row.get .userId⟩ ∈ renames)

theorem Supplied.append {renames : List IdChange} {row : Row .userImport} (hs : Supplied judged renames uid row)
    (j : Judgement) (changes : List IdChange) : Supplied (judged ++ [j]) (renames ++ changes) uid row := by
  obtain ⟨i, hi, huid, hid⟩ := hs
  exact ⟨i, List.mem_append_left _ hi, huid, hid.imp id (List.mem_append_left _)⟩

/-- The account updates and the changes of a reconciliation agree, and every change was decided about an account that
was judged. -/
structure Coherent (policy : SyncPolicy) (judged : List Judgement) (r : Reconciliation) : Prop where
  supplied : ∀ uid row, r.updates.get? uid = some row → Supplied judged r.changes.renames uid row
  differ : ∀ c ∈ r.changes.renames, c.oldId ≠ c.newId
  /-- A user has one change. -/
  single : (r.changes.renames.map IdChange.user).Nodup
  /-- The changes are decisions about judged accounts, in their order. -/
  ordered : r.changes.renames.Sublist (judged.filterMap (Judgement.change? policy))
  /-- The sheet of the changes has one row for each, in the same order. -/
  sheet : r.changes.toSheet.entries = r.changes.renames.map fun c => (c.user, c.row)

/-- What judgements keep so that account updates and changes agree. -/
structure Tracked (policy : SyncPolicy) (judged : List Judgement) (r : Reconciliation) : Prop where
  supplied : ∀ uid row, r.updates.get? uid = some row → Supplied judged r.changes.renames uid row
  ordered : r.changes.renames.Sublist (judged.filterMap (Judgement.change? policy))
  single : (r.changes.renames.map IdChange.user).Nodup
  /-- No change of an earlier run is known. -/
  unreplaced : ∀ id, r.known.hasRename id = false
  given : r.Given

theorem tracked_start {known : KnownIds} (hknown : ∀ id, known.hasRename id = false) :
    Tracked policy [] (start known) where
  supplied := fun _ _ hnone => nomatch hnone
  ordered := List.Sublist.slnil
  single := List.nodup_nil
  unreplaced := hknown
  given := given_start known

/-- A judgement that changes nothing keeps what was there. -/
theorem Tracked.append (hr : Tracked policy judged r) (j : Judgement) : Tracked policy (judged ++ [j]) r where
  supplied := fun uid row hrow => List.append_nil r.changes.renames ▸ (hr.supplied uid row hrow).append j []
  ordered := by
    rw [List.filterMap_append]
    exact hr.ordered.trans (List.sublist_append_left _ _)
  single := hr.single
  unreplaced := hr.unreplaced
  given := hr.given

section Enter

variable {j : Judgement} {login : CampusLogin}

/-- The changes once a campus ID is judged that has not been given a SIS ID: the change that is decided comes last. -/
theorem Tracked.renames_enter (hr : Tracked policy judged r)
    (hl : CampusLogin.parse? (j.account.get .loginId) = some login) (hk : r.known.hasUser login.uid = false) :
    (r.enter policy j.account login.uid (.of policy j.people j.account login)).1.changes.renames =
      r.changes.renames ++ (j.change? policy).toList := by
  rw [Reconciliation.renames_enter, hr.unreplaced]
  simp only [Bool.false_eq_true, or_false]
  split
  · rename_i heq
    rw [(Judgement.change?_eq_none_iff hl).2 heq, Option.toList_none, List.append_nil]
  · rename_i hne
    rw [(Judgement.change?_eq_some_iff hl).2 ⟨hne, rfl⟩, Changes.putRename_of_not_mem (hr.given.user_not_mem hl hk)]
    rfl

/-- The account that is judged supplies the update that is entered: where SIS IDs differ, the change comes with it. -/
theorem Tracked.supplied_enter (hr : Tracked policy judged r) {row : Row .userImport}
    (hl : CampusLogin.parse? (j.account.get .loginId) = some login) (hk : r.known.hasUser login.uid = false)
    (hrow : (r.enter policy j.account login.uid (.of policy j.people j.account login)).1.updates.get? uid = some row) :
    Supplied (judged ++ [j])
      (r.enter policy j.account login.uid (.of policy j.people j.account login)).1.changes.renames uid row := by
  rw [hr.renames_enter hl hk]
  rw [enter_eq] at hrow
  dsimp only at hrow
  split at hrow
  · exact (hr.supplied uid row hrow).append j _
  · rw [Sheet.get?, Sheet.insert, Keyed.get?_insert] at hrow
    split at hrow
    · rename_i huid
      cases hrow
      refine ⟨j, by simp, by rw [uidOf?_of_parse? hl, huid], or_iff_not_imp_left.2 fun hne => ?_⟩
      rw [(Judgement.change?_eq_some_iff hl).2 ⟨hne, rfl⟩]
      exact List.mem_append_right _ List.mem_cons_self
    · exact (hr.supplied uid row hrow).append j _

theorem Tracked.enter (hr : Tracked policy judged r) (hl : CampusLogin.parse? (j.account.get .loginId) = some login)
    (hk : r.known.hasUser login.uid = false) :
    Tracked policy (judged ++ [j])
      (r.enter policy j.account login.uid (.of policy j.people j.account login)).1 := by
  have hrenames := hr.renames_enter hl hk
  constructor
  case supplied => exact fun _ _ => hr.supplied_enter hl hk
  case ordered =>
    rw [hrenames, List.filterMap_append]
    refine hr.ordered.append ?_
    rw [List.filterMap_cons, List.filterMap_nil]
    cases j.change? policy <;> exact List.Sublist.refl _
  case single =>
    rw [hrenames, List.map_append, List.nodup_append]
    refine ⟨hr.single, ?_, ?_⟩
    · cases j.change? policy <;> simp
    · rintro user huser _ hnew rfl
      obtain ⟨c, hc, rfl⟩ := List.mem_map.1 hnew
      rw [(Judgement.ids_of_change? (Option.mem_toList.1 hc)).1] at huser
      exact hr.given.user_not_mem hl hk huser
  case unreplaced =>
    rw [enter_eq]
    exact hr.unreplaced
  case given => exact hr.given.enter hl hk

end Enter

theorem Tracked.judge (hr : Tracked policy judged r) (j : Judgement) :
    Tracked policy (judged ++ [j]) (r.judge policy j) := by
  rcases take_cases policy j.people r j.account with ht | ⟨login, hl, hk, ht⟩
  · rw [Reconciliation.judge, ht]
    exact hr.append j
  · rw [Reconciliation.judge, ht]
    exact hr.enter hl hk

theorem Tracked.foldl (hr : Tracked policy judged r) (more : List Judgement) :
    Tracked policy (judged ++ more) (more.foldl (Reconciliation.judge policy) r) := by
  induction more generalizing judged r with
  | nil =>
    rw [List.append_nil]
    exact hr
  | cons j rest ih =>
    rw [List.append_cons]
    exact ih (hr.judge j)

theorem Tracked.coherent (hr : Tracked policy judged r) : Coherent policy judged r where
  supplied := hr.supplied
  differ := fun c hc => by
    obtain ⟨j, -, hchange⟩ := List.mem_filterMap.1 (hr.ordered.subset hc)
    exact (Judgement.ids_of_change? hchange).2.2
  single := hr.single
  ordered := hr.ordered
  sheet := Changes.entries_toSheet hr.single

/-! ## Sequences of batches -/

/-- Against a source that answers, batches are gone through, and the accounts of the answered ones are judged. -/
theorem yields_batches (hh : AnswersLookups h) (policy : SyncPolicy) (bs : List (List (Row .provisionedUsers))) (s : σ)
    (r : Reconciliation) (skipped : Nat) :
    ∃ n t, (foldList (SyncRun.batchStep policy) (r, skipped) bs).Yields h s
      ((judgements h s bs).foldl (judge policy) r, n) t := by
  induction bs generalizing s r skipped with
  | nil => exact ⟨skipped, s, yields_foldList_nil _ _ _ _⟩
  | cons batch rest ih =>
    obtain ⟨reply, hreply⟩ := hh (idsOf batch) s
    cases reply with
    | ok people =>
      have hl : lookup h (idsOf batch) s = (.ok (.ok people), (lookup h (idsOf batch) s).2) := Prod.ext hreply rfl
      obtain ⟨n, t, hrest⟩ := ih (lookup h (idsOf batch) s).2 (r.takeAll policy people batch).1 skipped
      refine ⟨n, t, ?_⟩
      rw [judgements, hl]
      dsimp only
      rw [List.foldl_append, foldl_judge_map]
      exact .foldList (.bind (yields_batch_answered hl r) (yields_pure _ _ _)) hrest
    | error reason =>
      have hl : lookup h (idsOf batch) s = (.ok (.error reason), (lookup h (idsOf batch) s).2) := Prod.ext hreply rfl
      obtain ⟨n, t, hrest⟩ := ih (lookup h (idsOf batch) s).2 r (skipped + 1)
      refine ⟨n, t, ?_⟩
      rw [judgements, hl]
      exact .foldList (yields_batchStep_refused hl r skipped) hrest

/-- **Account updates and ID changes agree.** Where no ID change of an earlier run is known, any sequence of batches is
gone through against a source that answers, with people or a refusal. In the outcome every account update belongs to an
account of its campus ID that was judged, and either the account has the SIS ID of the update or there is a change that
gives it this ID. A change has two different IDs, every user has one change, and the sheet of the changes has one row
for each, in the order in which they were decided. -/
theorem batches_coherent (hh : AnswersLookups h) (policy : SyncPolicy) (known : KnownIds)
    (hknown : ∀ id, known.hasRename id = false) (bs : List (List (Row .provisionedUsers))) (s : σ) :
    let judged := judgements h s bs
    let outcome := judged.foldl (judge policy) (start known)
    (∃ skipped t, (foldList (SyncRun.batchStep policy) (start known, 0) bs).Yields h s (outcome, skipped) t) ∧
      Coherent policy judged outcome :=
  ⟨yields_batches hh policy bs s (start known) 0, ((tracked_start hknown).foldl _).coherent⟩

/-- A student without a SIS ID, a departed person with one, a batch that is refused, a second account of the student and
somebody on the whitelist: two account updates need a change, and the third one has the SIS ID of its account. -/
theorem batches_coherent_refused :
    let policy : SyncPolicy := { inactivateExpired := true, whitelist := ["104"] }
    let feed : List Person :=
      [{ uid := "101", studentId := some "2345", email := some "b@example.edu", student := true }]
    let source := countingLookups feed fun n => n == 1
    let bs : List (List (Row .provisionedUsers)) :=
      [[.ofPairs _ [(.canvasUserId, "7"), (.loginId, "101"), (.email, "a@example.edu")],
        .ofPairs _ [(.canvasUserId, "8"), (.loginId, "102"), (.userId, "9999")]],
       [.ofPairs _ [(.canvasUserId, "9"), (.loginId, "103")]],
       [.ofPairs _ [(.canvasUserId, "7"), (.loginId, "inactive-101"), (.userId, "UID:101")],
        .ofPairs _ [(.canvasUserId, "10"), (.loginId, "inactive-104"), (.userId, "8888")]]]
    let judged := judgements source 0 bs
    let outcome := judged.foldl (judge policy) (start {})
    AnswersLookups source ∧ (∀ id, ({} : KnownIds).hasRename id = false) ∧
      (∃ skipped t, (foldList (SyncRun.batchStep policy) (start {}, 0) bs).Yields source 0 (outcome, skipped) t) ∧
      Coherent policy judged outcome ∧ outcome.updates.rows.keys = ["101", "102", "104"] ∧
      outcome.changes.renames = [⟨"sis_login_id:101", "", "2345"⟩, ⟨"sis_login_id:102", "9999", "UID:102"⟩] := by
  intro policy feed source bs judged outcome
  have hh : AnswersLookups source := fun _ _ => ⟨_, rfl⟩
  have hknown : ∀ id, ({} : KnownIds).hasRename id = false := fun _ => rfl
  obtain ⟨hyields, hcoherent⟩ := batches_coherent hh policy {} hknown bs 0
  exact ⟨hh, hknown, hyields, hcoherent, by decide +kernel, by decide +kernel⟩

end Reconciliation

end Registrar
