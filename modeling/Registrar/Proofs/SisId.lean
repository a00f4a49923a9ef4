import Registrar.Proofs.Directory.Coherence
import Registrar.Proofs.Evaluation.Backfill

/-!
# SIS IDs from the feed

The sync and the back-fill give a campus ID the SIS ID of a person of the feed: all verdicts of the sync about a campus
ID agree on one (`Reconciliation.targets_current`), and the first account of it that is judged is given it
(`Reconciliation.gives_takeAll`); a row of the back-fill takes that of a person with its campus ID
(`Backfill.fill_of_feed`). Both find people by their trimmed campus ID, while a person's SIS ID is made of the campus ID
as the feed writes it. So the SIS ID is the one that the campus ID should have exactly when the person has a student ID
or the feed writes the campus ID without surrounding blanks (`Person.isCanonical_sisId_iff`), and this is the rule for
both (`assigned_canonical_iff`).
-/

namespace Registrar

open Program

/-! ## Canonical SIS IDs -/

section Canonical

variable {p : Person} {uid id : String}

/-- The person is a student whose student ID, without surrounding blanks, is `id`. -/
def Person.HasStudentId (p : Person) (id : String) : Prop :=
  p.student = true ∧ id ≠ "" ∧ ∃ text, p.studentId = some text ∧ Text.trim text = id

/-- The SIS ID that a campus ID should have by what a person's data say: the student ID of a student who has one, or the
reference to the campus ID that its inactivation would assign. -/
def Person.IsCanonical (p : Person) (uid id : String) : Prop := p.HasStudentId id ∨ id = uidReference uid

theorem uidReference_injective {uid uid' : String} (h : uidReference uid = uidReference uid') : uid = uid' :=
  (String.append_right_inj _).1 h

/-- A person has the student ID as SIS ID or, for want of one, the reference to the campus ID as the feed writes it. -/
theorem Person.sisId_cases (p : Person) :
    p.HasStudentId p.sisId ∨ (∀ id, ¬ p.HasStudentId id) ∧ p.sisId = uidReference p.uid := by
  unfold sisId HasStudentId
  cases hid : p.studentId with
  | none =>
    refine .inr ⟨?_, rfl⟩
    rintro id ⟨-, -, text, htext, -⟩
    cases htext
  | some text =>
    simp only [Option.map_some]
    split
    · rename_i h
      rw [Bool.and_eq_true, Bool.not_eq_true', String.isEmpty_eq_false_iff] at h
      exact .inl ⟨h.1, h.2, text, rfl, rfl⟩
    · rename_i h
      refine .inr ⟨fun id ⟨hstudent, hne, text', htext, htrim⟩ => h ?_, rfl⟩
      rw [Bool.and_eq_true, Bool.not_eq_true', String.isEmpty_eq_false_iff]
      cases htext
      exact ⟨hstudent, htrim ▸ hne⟩

/-- The SIS ID of a person is canonical exactly when it is a student ID or the feed writes the campus ID as it is. -/
theorem Person.isCanonical_sisId_iff : p.IsCanonical uid p.sisId ↔ (∃ id, p.HasStudentId id) ∨ p.uid = uid := by
  rcases p.sisId_cases with hstudent | ⟨hnone, hreference⟩
  · exact ⟨fun _ => .inl ⟨_, hstudent⟩, fun _ => .inl hstudent⟩
  · rw [IsCanonical, hreference]
    constructor
    · rintro (hstudent | heq)
      · exact absurd hstudent (hnone _)
      · exact .inr (uidReference_injective heq)
    · rintro (⟨id, hid⟩ | rfl)
      · exact absurd hid (hnone id)
      · exact .inr rfl

/-- A reference passes the check of SIS IDs against its own campus ID only. -/
theorem isSisIdOf_uidReference {uid' : String} : isSisIdOf uid (uidReference uid') = true ↔ uid' = uid := by
  have hnumeral : Text.isNumeral (uidReference uid') = false := Text.not_isNumeral_append (by decide) uid'
  rw [isSisIdOf, hnumeral, Bool.or_false, decide_eq_true_eq]
  exact ⟨uidReference_injective, fun h => h ▸ rfl⟩

end Canonical

/-! ## The sync -/

namespace Reconciliation

variable {σ : Type} {h : Handler services σ} {policy : SyncPolicy} {feed people : List Person} {r : Reconciliation}
  {accounts : List (Row .provisionedUsers)} {uid id : String}

/-- What is held anew about a campus ID has this SIS ID: what the campus ID is known by, its account update and the
changes for its logins. -/
structure Gives (before after : Reconciliation) (uid id : String) : Prop where
  known : after.known.users.get? uid = some id
  update : ∀ row, after.updates.get? uid = some row → before.updates.get? uid = some row ∨ row.get .userId = id
  rename : ∀ account, uidOf? account = some uid → ∀ c ∈ after.changes.renames, c.user = userOf account →
    c ∈ before.changes.renames ∨ c.newId = id

/-- A change that was not there before is one that an account asked for. -/
theorem mem_renames_takeAll {c : IdChange} (hc : c ∈ (r.takeAll policy people accounts).1.changes.renames) :
    c ∈ r.changes.renames ∨ ∃ account ∈ accounts, (Judgement.mk account people).change? policy = some c := by
  revert c
  apply takeAll_induction (P := fun t => ∀ c ∈ t.changes.renames,
    c ∈ r.changes.renames ∨ ∃ account ∈ accounts, (Judgement.mk account people).change? policy = some c)
  · exact fun c hc => .inl hc
  · intro t account hmem ht c hc
    rcases take_cases policy people t account with htake | ⟨login, hl, -, htake⟩
    · rw [htake] at hc
      exact ht c hc
    · rw [htake, renames_enter] at hc
      split at hc
      · exact ht c hc
      · rename_i hne
        rcases Changes.mem_putRename hc with rfl | hc
        · refine .inr ⟨account, hmem, ?_⟩
          exact (Judgement.change?_eq_some_iff (j := ⟨account, people⟩) hl).2 ⟨fun heq => hne (.inl heq), rfl⟩
        · exact ht c hc

/-- Every verdict about the campus ID gives it this SIS ID. -/
def Targets (policy : SyncPolicy) (people : List Person) (uid id : String) : Prop :=
  ∀ account login, CampusLogin.parse? (account.get .loginId) = some login → login.uid = uid →
    (Verdict.of policy people account login).target.get .userId = id

theorem targets_current {p : Person} (hst : Standing.of policy people uid = .current p) :
    Targets policy people uid p.sisId := by
  rintro account login - rfl
  rw [(verdict_current policy people account login hst).1, get_accountOf_userId]

theorem targets_departed (hst : Standing.of policy people uid = .departed) (hi : policy.inactivateExpired = true) :
    Targets policy people uid (uidReference uid) := by
  rintro account login - rfl
  rw [(verdict_departed policy people account login hst).1, if_pos hi, Row.get_set_of_ne _ _ (by decide),
    Row.get_set_self _ _ (by decide)]

/-- The first account of the campus ID is judged and gives it the SIS ID; the others are passed over. -/
theorem foldl_judged_of_targets (hid : Targets policy people uid id) (hne : id ≠ "") {x : Holding}
    (hx : x.isKnown = false) (hmem : ∃ account ∈ accounts, uidOf? account = some uid) :
    (accounts.foldl (Holding.judged policy people uid) x).sisId = some id ∧
      ∀ row, (accounts.foldl (Holding.judged policy people uid) x).update = some row →
        x.update = some row ∨ row.get .userId = id := by
  induction accounts with
  | nil =>
    obtain ⟨_, hnone, -⟩ := hmem
    cases hnone
  | cons account rest ih =>
    rw [List.foldl_cons]
    by_cases hu : uidOf? account = some uid
    · obtain ⟨login, hl, rfl⟩ := Option.map_eq_some_iff.1 hu
      have htarget := hid account login hl rfl
      have hknown : (x.judged policy people login.uid account).isKnown = true := by
        rw [Holding.judged_of_not_isKnown hl hx, Holding.isKnown, Option.any_some, htarget, Bool.not_eq_true',
          String.isEmpty_eq_false_iff]
        exact hne
      rw [Holding.foldl_judged_of_isKnown hknown, Holding.judged_of_not_isKnown hl hx]
      refine ⟨congrArg some htarget, fun row hrow => ?_⟩
      dsimp only at hrow
      split at hrow
      · exact .inl hrow
      · exact .inr (Option.some.inj hrow ▸ htarget)
    · rw [Holding.judged_of_uidOf?_ne hu]
      obtain ⟨account', hmem', hu'⟩ := hmem
      refine ih ⟨account', (List.mem_cons.1 hmem').resolve_left ?_, hu'⟩
      rintro rfl
      exact hu hu'

/-- Where all verdicts agree on the SIS ID of a campus ID that has none, judging an account of it gives it this ID. -/
theorem gives_takeAll (hid : Targets policy people uid id) (hne : id ≠ "") (hk : r.known.hasUser uid = false)
    (hmem : ∃ account ∈ accounts, uidOf? account = some uid) :
    Gives r (r.takeAll policy people accounts).1 uid id := by
  have hunder := under_takeAll policy people r accounts uid
  have hheld := foldl_judged_of_targets hid hne (x := r.under uid) hk hmem
  rw [← hunder] at hheld
  refine ⟨hheld.1, hheld.2, fun account hu c hc huser => ?_⟩
  refine or_iff_not_imp_left.2 fun hnew => ?_
  obtain ⟨account', -, hchange⟩ := (mem_renames_takeAll hc).resolve_left hnew
  obtain ⟨login, hl, rfl⟩ := Option.map_eq_some_iff.1 hu
  -- the change is of an account with the same login
  have hlogin : account'.get .loginId = account.get .loginId :=
    userOf_injective ((Judgement.ids_of_change? hchange).1.symm.trans huser)
  rw [← hlogin] at hl
  rw [((Judgement.change?_eq_some_iff (j := ⟨account', people⟩) hl).1 hchange).2]
  exact hid account' login hl rfl

/-- In any sequence of batches, a campus ID about which all verdicts agree is given that SIS ID. -/
theorem gives_batches (hf : ServesFeed h feed) (policy : SyncPolicy) (bs : List (List (Row .provisionedUsers)))
    (r : Reconciliation) (s : σ) :
    ∃ outcome skipped t, (foldList (SyncRun.batchStep policy) (r, 0) bs).Yields h s (outcome, skipped) t ∧
      ∀ uid id, Targets policy feed uid id → id ≠ "" → r.known.hasUser uid = false →
        (∃ account ∈ (answered h s bs).flatten, uidOf? account = some uid) → Gives r outcome uid id := by
  obtain ⟨t, ht⟩ := yields_foldList_batchStep policy hf bs s r 0
  exact ⟨_, _, t, ht, fun uid id hid hne hk hmem => gives_takeAll hid hne hk hmem⟩

end Reconciliation

/-! ## The back-fill -/

namespace Backfill

variable {σ : Type} {h : Handler services σ} {feed : List Person} {r r' : Row .sisImport} {p : Person}

/-- A row without a SIS ID takes that of a person with its campus ID. -/
def TakesFrom (p : Person) (r r' : Row .sisImport) : Prop :=
  r.isBlankAt .sisId = true ∧ Text.trim p.uid = uidOf r ∧ r' = r.set .sisId p.sisId

theorem exists_of_sisIdIn? {uid id : String} (hid : sisIdIn? feed uid = some id) :
    ∃ p ∈ feed, Text.trim p.uid = uid ∧ p.sisId = id := by
  obtain ⟨p, hp, rfl⟩ := Option.map_eq_some_iff.1 hid
  have hmem := List.mem_filter.1 (List.mem_of_getLast? hp)
  exact ⟨p, hmem.1, of_decide_eq_true hmem.2, rfl⟩

/-- What a row takes is the SIS ID of a person of the feed. -/
theorem fill_of_feed {ids : Keyed String} (hids : ∀ uid id, ids.get? uid = some id → sisIdIn? feed uid = some id)
    (r : Row .sisImport) : fill ids r = r ∨ ∃ p ∈ feed, TakesFrom p r (fill ids r) := by
  unfold fill
  cases hfilling : filling? ids r with
  | none => exact .inl rfl
  | some id =>
    unfold filling? at hfilling
    split at hfilling
    · rename_i hblank
      obtain ⟨p, hp, huid, rfl⟩ := exists_of_sisIdIn? (hids _ _ hfilling)
      exact .inr ⟨p, hp, hblank, huid, rfl⟩
    · cases hfilling

/-- A back-fill leaves each row as it is, or the row takes the SIS ID of a person of the feed. -/
theorem yields_run_taking (hf : ServesFeed h feed) (batchSize : Nat) (rows : List (Row .sisImport)) (s : σ) :
    ∃ filled n t, (run batchSize rows).Yields h s (filled, n) t ∧
      List.Forall₂ (fun r r' => r' = r ∨ ∃ p ∈ feed, TakesFrom p r r') rows filled := by
  obtain ⟨ids, t, ht, hget⟩ := yields_lookups_of_feed hf (batches batchSize (missing rows)) Keyed.empty s
  have hids : ∀ uid id, ids.get? uid = some id → sisIdIn? feed uid = some id := by
    intro uid id hid
    rw [hget, Keyed.get?_empty, Option.or_none] at hid
    split at hid
    · exact hid
    · cases hid
  refine ⟨_, _, t, yields_run_counted ht, ?_⟩
  rw [List.forall₂_map_right_iff, List.forall₂_same]
  exact fun r _ => fill_of_feed hids r

/-- What a row takes passes the check of SIS IDs as far as the feed writes the campus ID without surrounding blanks. -/
theorem TakesFrom.isSisIdOf_iff (ht : TakesFrom p r r') (hplain : Text.trim (r.get .ldapUid) = r.get .ldapUid)
    (hnone : ∀ id, ¬ p.HasStudentId id) :
    isSisIdOf (r'.get .ldapUid) (r'.get .sisId) = true ↔ p.uid = uidOf r := by
  obtain ⟨-, -, rfl⟩ := ht
  have hreference := (p.sisId_cases.resolve_left (hnone _)).2
  rw [Row.get_set_of_ne _ _ (by decide), Row.get_set_self _ _ (by decide), hreference, isSisIdOf_uidReference, uidOf,
    hplain]

end Backfill

/-! ## Both -/

section Both

variable {σ : Type} {h : Handler services σ} {feed : List Person}

open Reconciliation Backfill

/-- **A SIS ID is canonical unless the feed pads the campus ID.** Take a source that serves a feed. Batches are gone
through from any state, and a campus ID that had no SIS ID and has an account in an answered batch is given one: where
its owner is a current person, that of the person, and where departed people are inactivated and the owner has departed,
the reference to the campus ID. A back-fill gives rows without a SIS ID that of a person of the feed with their campus
ID; without a student ID, it passes the check of SIS IDs, in a row without surrounding blanks, exactly where the feed
writes the campus ID without them. For the same reason the SIS ID of a person is the one that the campus ID should have
exactly when the person has a student ID or the feed writes the campus ID without surrounding blanks. -/
theorem assigned_canonical_iff (hf : ServesFeed h feed) (s : σ) :
    (∀ (policy : SyncPolicy) (bs : List (List (Row .provisionedUsers))) (r : Reconciliation), ∃ outcome skipped t,
      (foldList (SyncRun.batchStep policy) (r, 0) bs).Yields h s (outcome, skipped) t ∧
      ∀ uid, r.known.hasUser uid = false → (∃ account ∈ (answered h s bs).flatten, uidOf? account = some uid) →
        (∀ p, Standing.of policy feed uid = .current p →
          p ∈ feed ∧ Text.trim p.uid = uid ∧ Gives r outcome uid p.sisId) ∧
        (Standing.of policy feed uid = .departed → policy.inactivateExpired = true →
          Gives r outcome uid (uidReference uid))) ∧
    (∀ (batchSize : Nat) (rows : List (Row .sisImport)), ∃ filled n t,
      (Backfill.run batchSize rows).Yields h s (filled, n) t ∧
      List.Forall₂ (fun r r' => r' = r ∨ ∃ p ∈ feed, TakesFrom p r r' ∧
        (Text.trim (r.get .ldapUid) = r.get .ldapUid → (∀ id, ¬ p.HasStudentId id) →
          (isSisIdOf (r'.get .ldapUid) (r'.get .sisId) = true ↔ Text.trim p.uid = p.uid))) rows filled) ∧
    ∀ p ∈ feed, p.IsCanonical (Text.trim p.uid) p.sisId ↔ (∃ id, p.HasStudentId id) ∨ Text.trim p.uid = p.uid := by
  refine ⟨fun policy bs r => ?_, fun batchSize rows => ?_, fun p _ => ?_⟩
  · obtain ⟨outcome, skipped, t, hyields, hgives⟩ := gives_batches hf policy bs r s
    refine ⟨outcome, skipped, t, hyields, fun uid hk hmem => ⟨fun p hst => ?_, fun hst hi => ?_⟩⟩
    · exact ⟨List.mem_of_find?_eq_some (standing_eq_current_iff.1 hst).1, trim_uid_of_current hst,
        hgives uid _ (targets_current hst) (sisId_ne_empty p) hk hmem⟩
    · exact hgives uid _ (targets_departed hst hi) (uidReference_ne_empty uid) hk hmem
  · obtain ⟨filled, n, t, hyields, htaking⟩ := yields_run_taking hf batchSize rows s
    refine ⟨filled, n, t, hyields, htaking.imp fun r r' htakes => htakes.imp id ?_⟩
    rintro ⟨p, hp, ht⟩
    refine ⟨p, hp, ht, fun hplain hnone => ?_⟩
    rw [ht.isSisIdOf_iff hplain hnone, ← ht.2.1]
    exact eq_comm
  · rw [Person.isCanonical_sisId_iff]
    exact or_congr_right eq_comm

/-- A student whom the feed pads, a member of staff whom it does not, and somebody who has departed. -/
theorem assigned_canonical_iff_student :
    let student : Person := { uid := " 101 ", studentId := some " 2345 ", student := true }
    let staff : Person := { uid := "102" }
    let source := countingLookups [student, staff] fun _ => false
    let policy : SyncPolicy := { inactivateExpired := true }
    let account (login : String) : Row .provisionedUsers := .ofPairs _ [(.loginId, login)]
    let row : Row .sisImport := .ofPairs _ [(.ldapUid, "102")]
    ServesFeed source [student, staff] ∧
      (∃ outcome skipped t, (foldList (SyncRun.batchStep policy) ({}, 0)
          [[account "101", account "102"], [account "inactive-103"]]).Yields source 0 (outcome, skipped) t ∧
        Gives {} outcome "101" "2345" ∧ Gives {} outcome "102" "UID:102" ∧ Gives {} outcome "103" "UID:103") ∧
      (∃ filled n t, (Backfill.run 10 [row]).Yields source 0 ([filled], n) t ∧ filled.get .sisId = "UID:102" ∧
        isSisIdOf (filled.get .ldapUid) (filled.get .sisId) = true) ∧
      student.IsCanonical "101" "2345" ∧ staff.IsCanonical "102" "UID:102" := by
  intro student staff source policy account row
  have hf : ServesFeed source [student, staff] := servesFeed_countingLookups _ _
  have hid : student.sisId = "2345" := by decide +kernel
  have hreference : staff.sisId = "UID:102" := by decide +kernel
  obtain ⟨hsync, hfill, hcanonical⟩ := assigned_canonical_iff hf 0
  refine ⟨hf, ?_, ?_, ?_, ?_⟩
  · obtain ⟨outcome, skipped, t, hyields, hgives⟩ :=
      hsync policy [[account "101", account "102"], [account "inactive-103"]] {}
    have hanswered : (answered source 0 [[account "101", account "102"], [account "inactive-103"]]).flatten =
        [account "101", account "102", account "inactive-103"] := by
      rw [answered_of_neverRefuses (neverRefuses_countingLookups _)]
      rfl
    rw [hanswered] at hgives
    have hstudent : Standing.of policy [student, staff] "101" = .current student :=
      standing_eq_current_iff.2 ⟨by decide +kernel, .inl rfl⟩
    have hstaff : Standing.of policy [student, staff] "102" = .current staff :=
      standing_eq_current_iff.2 ⟨by decide +kernel, .inl rfl⟩
    have hdeparted : Standing.of policy [student, staff] "103" = .departed :=
      standing_eq_departed_iff.2 ⟨by decide +kernel, by decide +kernel⟩
    refine ⟨outcome, skipped, t, hyields, ?_, ?_, ?_⟩
    · have hgiven := ((hgives "101" rfl ⟨account "101", by simp, by decide +kernel⟩).1 student hstudent).2.2
      rwa [hid] at hgiven
    · have hgiven := ((hgives "102" rfl ⟨account "102", by simp, by decide +kernel⟩).1 staff hstaff).2.2
      rwa [hreference] at hgiven
    · exact (hgives "103" rfl ⟨account "inactive-103", by simp, by decide +kernel⟩).2 hdeparted rfl
  · obtain ⟨filled, n, t, hyields, htakes⟩ := hfill 10 [row]
    obtain ⟨m, u, hsupplied⟩ := yields_run_of_feed hf (neverRefuses_countingLookups _) 10 [row] 0
    obtain rfl : filled = [supply [student, staff] row] := congrArg Prod.fst (hyields.unique hsupplied).1
    have hsis : (supply [student, staff] row).get .sisId = "UID:102" := by decide +kernel
    refine ⟨_, n, t, hyields, hsis, ?_⟩
    rcases (List.forall₂_cons.1 htakes).1 with hsame | ⟨p, hp, htaken, hchecked⟩
    · rw [hsame] at hsis
      exact absurd hsis (by decide +kernel)
    · obtain rfl : p = staff := by
        rcases List.mem_cons.1 hp with rfl | hp
        · exact absurd htaken.2.1 (by decide +kernel)
        · exact List.mem_singleton.1 hp
      exact (hchecked (by decide +kernel) fun id hstudent => nomatch hstudent.1).2 (by decide +kernel)
  · have hcanon := (hcanonical student (by simp)).2 (.inl ⟨"2345", rfl, by decide, " 2345 ", rfl, by decide +kernel⟩)
    rwa [hid, show Text.trim student.uid = "101" by decide +kernel] at hcanon
  · have hcanon := (hcanonical staff (by simp)).2 (.inr (by decide +kernel))
    rwa [hreference, show Text.trim staff.uid = "102" by decide +kernel] at hcanon

/-- A feed that pads a campus ID: the account and the row get a SIS ID with the blanks, which is not the one that the
campus ID should have. -/
theorem assigned_padded :
    let padded : Person := { uid := " 101 " }
    let source := countingLookups [padded] fun _ => false
    let account : Row .provisionedUsers := .ofPairs _ [(.canvasUserId, "7"), (.loginId, "101")]
    let row : Row .sisImport := .ofPairs _ [(.ldapUid, "101")]
    ServesFeed source [padded] ∧ ¬ padded.IsCanonical "101" "UID: 101 " ∧
      (∃ outcome skipped t,
        (foldList (SyncRun.batchStep {}) ({}, 0) [[account]]).Yields source 0 (outcome, skipped) t ∧
        outcome.known.users.get? "101" = some "UID: 101 " ∧
        outcome.changes.renames = [⟨"sis_login_id:101", "", "UID: 101 "⟩]) ∧
      ∃ filled n t, (Backfill.run 10 [row]).Yields source 0 ([filled], n) t ∧
        filled.get .sisId = "UID: 101 " ∧ isSisIdOf (filled.get .ldapUid) (filled.get .sisId) = false := by
  intro padded source account row
  have hf : ServesFeed source [padded] := servesFeed_countingLookups _ _
  refine ⟨hf, ?_, ?_, ?_⟩
  · rintro (⟨hstudent, -⟩ | hreference)
    · exact Bool.noConfusion hstudent
    · exact absurd hreference (by decide)
  · obtain ⟨t, ht⟩ := yields_foldList_batchStep {} hf [[account]] 0 {} 0
    exact ⟨_, _, t, ht, by decide +kernel, by decide +kernel⟩
  · obtain ⟨n, t, ht⟩ := yields_run_of_feed hf (neverRefuses_countingLookups _) 10 [row] 0
    exact ⟨_, n, t, ht, by decide +kernel, by decide +kernel⟩

end Both

end Registrar
