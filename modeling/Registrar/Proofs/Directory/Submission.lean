import Registrar.Proofs.Directory.Again
import Registrar.Proofs.Directory.Load
import Registrar.Proofs.Directory.Run
import Registrar.Proofs.Keyed
import Registrar.Proofs.Sheet.RoundTrip

/-!
# What submitted sheets mention

Every account update stands under the campus ID that its login names (`Addressed`), so the written sheet of an outcome
mentions a campus ID exactly where the outcome holds an update for it (`mentions_write_iff`). A campus ID that is known
when the accounts are reconciled gets no update (`not_mentions_of_hasUser`), and a sheet of ID changes mentions nobody
(`not_mentions_toSheet`).
-/

namespace Registrar

open Program

/-! ## Reading sheets without dates -/

namespace Sheet

variable {k : Kind}

theorem ofRecord_of_no_dates (hk : ∀ c ∈ Column.dates, c ∉ k.columns) (record : Delimited.Record) :
    (Row.ofRecord k record).2 = [] := by
  have hnone : ∀ (r : Row k), ∀ c ∈ Column.dates, r.normalizeDate c = (r, []) :=
    fun r c hc => if_neg fun h => hk c hc h.1
  have hstart := hnone (Row.ofFields k record) .startDate (by decide)
  have hend := hnone (Row.ofFields k record) .endDate (by decide)
  simp [Row.ofRecord, Column.dates, hstart, hend]

/-- A sheet without date columns is read strictly wherever it is read at all. -/
theorem readStrict_of_read (hk : ∀ c ∈ Column.dates, c ∉ k.columns) {text : String} {reading : Reading k}
    (h : read k text = .ok reading) : readStrict k text = .ok reading.sheet := by
  have hfailures : reading.dateFailures = [] := by
    unfold read at h
    split at h
    · cases h
    · cases h
      rw [List.flatten_eq_nil_iff]
      intro failures hmem
      obtain ⟨⟨⟨r, failed⟩, i⟩, hrow, rfl⟩ := List.mem_map.1 hmem
      obtain ⟨record, -, hrecord⟩ := List.mem_map.1 (List.fst_mem_of_mem_zipIdx hrow)
      have hfailed := ofRecord_of_no_dates hk record
      rw [hrecord] at hfailed
      cases hfailed
      rfl
  obtain ⟨sheet, dateFailures⟩ := reading
  cases hfailures
  rw [readStrict, h]
  rfl

/-- The written form of a sheet of account updates is read as its rows in canonical form. -/
theorem readStrict_write (updates : Sheet .userImport) :
    ∃ sheet, readStrict .userImport updates.write = .ok sheet ∧
      ∀ r, r ∈ sheet.toList ↔ ∃ held ∈ updates.toList, held.canonical = r := by
  obtain ⟨reading, hread, hsheet⟩ := read_writer (w := write) List.mem_cons_self updates
  refine ⟨reading.sheet, readStrict_of_read (by decide) hread, fun r => ?_⟩
  rw [hsheet, toList_ofRows, List.mem_map]
  simp only [mem_sortedRows]

/-- A sheet of ID changes is not read as one of account updates: its records are too short for the header line. -/
theorem readStrict_write_renames (renames : Sheet .sisIdChanges) (sheet : Sheet .userImport) :
    readStrict .userImport renames.write ≠ .ok sheet := by
  have hlength : ∀ record ∈ Kind.sisIdChanges.headerLine :: renames.sortedRows.map (fun r => r.exportedCells.map id),
      record.length = 5 := by
    intro record hrecord
    rcases List.mem_cons.1 hrecord with rfl | hrecord
    · rfl
    · obtain ⟨r, -, rfl⟩ := List.mem_map.1 hrecord
      rfl
  have hrecords : Delimited.read renames.write =
      Kind.sisIdChanges.headerLine :: renames.sortedRows.map (fun r => r.exportedCells.map id) := by
    apply read_writeRecords
    intro record hrecord hnil
    have := hlength record (List.mem_cons_of_mem _ hrecord)
    rw [hnil] at this
    cases this
  have hnone : dataRecords? .userImport (Delimited.read renames.write) = none := by
    rw [hrecords, dataRecords?, List.dropWhile_eq_nil_iff.2]
    intro record hrecord
    refine decide_eq_true fun heq => ?_
    have := hlength record hrecord
    rw [heq] at this
    cases this
  rw [readStrict, read, hnone]
  intro hread
  cases hread

end Sheet

theorem unprotectNumeral_of_parse? {v : String} {login : CampusLogin} (h : CampusLogin.parse? v = some login) :
    unprotectNumeral v = v := by
  obtain ⟨hn, rfl⟩ := CampusLogin.parse?_eq_some_iff.1 h
  unfold CampusLogin.text
  split
  · apply unprotectNumeral_of_stripLead?
    cases hrest : Text.stripLead? "'" (inactiveMark ++ login.uid) with
    | none => rfl
    | some rest =>
      have hhead := congrArg (fun t : String => t.toList.head?) (Text.stripLead?_eq_some_iff.1 hrest)
      simp [inactiveMark] at hhead
  · exact unprotectNumeral_of_isNumeral hn

namespace Reconciliation

variable {policy : SyncPolicy} {people : List Person} {s : Reconciliation} {account : Row .provisionedUsers}
  {login : CampusLogin} {uid id : String}

/-! ## The login that is decided -/

/-- Whoever has not departed is given the bare campus ID. -/
theorem loginId_target_of_not_departed (hl : CampusLogin.parse? (account.get .loginId) = some login)
    (hst : Standing.of policy people login.uid ≠ .departed) :
    (Verdict.of policy people account login).target.get .loginId = login.uid := by
  cases hcase : Standing.of policy people login.uid with
  | departed => exact absurd hcase hst
  | current person =>
    rw [(verdict_current policy people account login hcase).1, get_accountOf_loginId, trim_uid_of_current hcase]
  | kept =>
    rw [(verdict_kept policy people account login hcase).1]
    split
    · exact Row.get_set_self _ _ (by decide)
    · rename_i hactive
      rw [Row.get_project _ (by decide) (by decide), (CampusLogin.parse?_eq_some_iff.1 hl).2, CampusLogin.text,
        if_neg hactive]

/-- Whoever has departed is given the mark, or keeps the login. -/
theorem loginId_target_of_departed (account : Row .provisionedUsers)
    (hst : Standing.of policy people login.uid = .departed) :
    (Verdict.of policy people account login).target.get .loginId =
      if policy.inactivateExpired then inactiveMark ++ login.uid else account.get .loginId := by
  rw [(verdict_departed policy people account login hst).1]
  split
  · rw [Row.get_set_of_ne _ _ (by decide), Row.get_set_of_ne _ _ (by decide), Row.get_set_self _ _ (by decide)]
  · exact Row.get_project _ (by decide) (by decide)

/-! ## Updates stand under their campus IDs -/

/-- The login of every account update names the campus ID that it stands under. -/
def Addressed (updates : Sheet .userImport) : Prop :=
  ∀ uid r, updates.get? uid = some r →
    ∃ login, CampusLogin.parse? (r.get .loginId) = some login ∧ login.uid = uid

/-- The login of a target names the campus ID that was judged. -/
theorem uid_target (policy : SyncPolicy) (people : List Person)
    (h : CampusLogin.parse? (account.get .loginId) = some login) :
    ∃ l, CampusLogin.parse? ((Verdict.of policy people account login).target.get .loginId) = some l ∧
      l.uid = login.uid := by
  have hn : Text.isNumeral login.uid = true := (CampusLogin.parse?_eq_some_iff.1 h).1
  by_cases hst : Standing.of policy people login.uid = .departed
  · rw [loginId_target_of_departed account hst]
    split
    · exact ⟨⟨login.uid, true⟩, CampusLogin.parse?_text (l := ⟨login.uid, true⟩) hn, rfl⟩
    · exact ⟨login, h, rfl⟩
  · rw [loginId_target_of_not_departed h hst]
    exact ⟨⟨login.uid, false⟩, CampusLogin.parse?_text (l := ⟨login.uid, false⟩) hn, rfl⟩

theorem Addressed.take (h : Addressed s.updates) (account : Row .provisionedUsers) :
    Addressed (s.take policy people account).1.updates := by
  rcases take_cases policy people s account with ht | ⟨login, hl, -, ht⟩
  · rw [ht]
    exact h
  · rw [ht, enter_eq]
    dsimp only
    split
    · exact h
    · intro uid r hr
      rw [Sheet.get?, Sheet.insert, Keyed.get?_insert] at hr
      split at hr
      · rename_i huid
        cases hr
        obtain ⟨l, htarget, hlogin⟩ := uid_target policy people hl
        exact ⟨l, htarget, hlogin.trans huid.symm⟩
      · exact h uid r hr

theorem Addressed.takeAll (h : Addressed s.updates) (accounts : List (Row .provisionedUsers)) :
    Addressed (s.takeAll policy people accounts).1.updates :=
  takeAll_induction (P := fun s => Addressed s.updates) h fun _ account _ hs => hs.take account

/-- The sheet of updates mentions the campus IDs of its rows, and nobody else. -/
theorem mentions_write_iff {updates : Sheet .userImport} (h : Addressed updates) :
    Mentions updates.write uid id ↔ ∃ r, updates.get? uid = some r ∧ unprotectNumeral (r.get .userId) = id := by
  obtain ⟨sheet, hread, hmem⟩ := Sheet.readStrict_write updates
  have hlogin : ∀ uid r, updates.get? uid = some r → CampusLogin.bare (r.canonical.get .loginId) = uid := by
    intro uid r hr
    obtain ⟨login, hl, rfl⟩ := h uid r hr
    rw [Row.get_canonical, if_pos (by decide), canon_of_not_mem (by decide), unprotectNumeral_of_parse? hl]
    exact CampusLogin.bare_of_parse? hl
  have hid : ∀ r : Row .userImport, r.canonical.get .userId = unprotectNumeral (r.get .userId) := by
    intro r
    rw [Row.get_canonical, if_pos (by decide), canon_of_not_mem (by decide)]
  constructor
  · rintro ⟨sheet', hread', r, hr, huid, rfl⟩
    obtain rfl : sheet = sheet' := Except.ok.inj (hread.symm.trans hread')
    obtain ⟨held, hheld, rfl⟩ := (hmem r).1 hr
    obtain ⟨key, hkey⟩ := Keyed.mem_values_iff.1 hheld
    obtain rfl : key = uid := (hlogin key held hkey).symm.trans huid
    exact ⟨held, hkey, (hid held).symm⟩
  · rintro ⟨r, hr, rfl⟩
    exact ⟨sheet, hread, r.canonical, (hmem _).2 ⟨r, Keyed.mem_values_iff.2 ⟨uid, hr⟩, rfl⟩, hlogin uid r hr, hid r⟩

theorem not_mentions_toSheet (changes : Changes) : ¬ Mentions changes.toSheet.write uid id := by
  rintro ⟨sheet, hread, -⟩
  exact Sheet.readStrict_write_renames changes.toSheet sheet hread

/-! ## Outcomes of a run -/

section Reconcile

variable {σ : Type} {h : Handler services σ} {settings : SyncSettings} {known : KnownIds}
  {accounts : List (Row .provisionedUsers)} {outcome : Reconciliation} {skipped : Nat} {t u : σ}

theorem batchStep_cases {r r' : Reconciliation × Nat} (hy : (SyncRun.batchStep policy r accounts).Yields h t r' u) :
    r'.1 = r.1 ∨ ∃ people, r'.1 = (r.1.takeAll policy people accounts).1 := by
  obtain ⟨batched, v, hbatch, hrest⟩ := yields_bind_iff.1 hy
  cases batched with
  | ok s =>
    obtain ⟨people, -, hs⟩ := lookup_of_yields_batch hbatch
    obtain ⟨rfl, -⟩ := yields_pure_iff.1 hrest
    exact .inr ⟨people, hs⟩
  | error failure =>
    obtain ⟨_, _, -, hpure⟩ := yields_bind_iff.1 hrest
    obtain ⟨rfl, -⟩ := yields_pure_iff.1 hpure
    exact .inl rfl

/-- What holds before any account is judged and is kept by judging accounts holds of the outcome of a run. -/
theorem reconcile_induction {P : Reconciliation → Prop} (hstart : P (start known))
    (hstep : ∀ s people accounts, P s → P (s.takeAll settings.policy people accounts).1)
    (hy : (SyncRun.reconcile settings known accounts).Yields h t (outcome, skipped) u) : P outcome := by
  have hfold : ∀ (batches : List (List (Row .provisionedUsers))) (r r' : Reconciliation × Nat) (t u : σ), P r.1 →
      (foldList (SyncRun.batchStep settings.policy) r batches).Yields h t r' u → P r'.1 := by
    intro batches
    induction batches with
    | nil =>
      intro r r' t u hr hy
      obtain ⟨rfl, -⟩ := yields_pure_iff.1 hy
      exact hr
    | cons batch rest ih =>
      intro r r' t u hr hy
      obtain ⟨next, v, hfirst, hrest⟩ := yields_bind_iff.1 hy
      refine ih next r' v u ?_ hrest
      rcases batchStep_cases hfirst with hsame | ⟨people, hjudged⟩
      · rw [hsame]
        exact hr
      · rw [hjudged]
        exact hstep _ _ _ hr
  exact hfold _ _ _ _ _ hstart hy

theorem addressed_reconcile (hy : (SyncRun.reconcile settings known accounts).Yields h t (outcome, skipped) u) :
    Addressed outcome.updates :=
  reconcile_induction (P := fun s => Addressed s.updates) (fun _ _ hr => nomatch hr) (fun _ _ _ hs => hs.takeAll _) hy

/-- A campus ID that is known from the start gets no account update. -/
theorem not_mentions_of_hasUser (hknown : known.hasUser uid = true)
    (hy : (SyncRun.reconcile settings known accounts).Yields h t (outcome, skipped) u) :
    ¬ Mentions outcome.updates.write uid id := by
  have hunder : outcome.under uid = (start known).under uid := by
    refine reconcile_induction (P := fun s => s.under uid = (start known).under uid) rfl ?_ hy
    intro s people accounts hs
    have hk : (s.under uid).isKnown = true := by
      rw [hs]
      exact hknown
    rw [under_takeAll, Holding.foldl_judged_of_isKnown hk, hs]
  have hnone : outcome.updates.get? uid = none := congrArg Holding.update hunder
  rw [mentions_write_iff (addressed_reconcile hy)]
  rintro ⟨r, hr, -⟩
  rw [hnone] at hr
  cases hr

end Reconcile

end Reconciliation

end Registrar
