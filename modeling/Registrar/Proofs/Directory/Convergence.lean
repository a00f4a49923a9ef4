import Registrar.Proofs.Directory.Take
import Registrar.Proofs.Sheet.Row

/-!
# The sync converges

An account is *settled* when judging it decides nothing: no purge, no ID change and no update (`Settled`). What the
directory holds once it has carried out a reconciliation is `applied`. After every verdict the account that carries it
out is settled (`settled_of_carriedOut`), so a second pass over the applied accounts decides nothing
(`takeAll_applied`).
-/

namespace Registrar

/-- The account as an import row leaves it; a blank email leaves the email alone. -/
def imported (account : Row .provisionedUsers) (r : Row .userImport) : Row .provisionedUsers :=
  let a := (((account.set .loginId (r.get .loginId)).set .givenName (r.get .givenName)).set .familyName
    (r.get .familyName)).set .status (r.get .status)
  let a := a.set .fullName (r.get .givenName ++ " " ++ r.get .familyName)
  if r.isBlankAt .email then a else a.set .email (r.get .email)

namespace Reconciliation

variable {policy : SyncPolicy} {people : List Person} {s : Reconciliation} {account b : Row .provisionedUsers}
  {login : CampusLogin} {v : Verdict}

/-- The account once the directory has carried out its ID change, its update and its purge. -/
def applied (s : Reconciliation) (account : Row .provisionedUsers) : Row .provisionedUsers :=
  let a := match s.changes.renameOf? (userOf account) with
    | some change => account.set .userId change.newId
    | none => account
  let a := match (uidOf? account).bind s.updates.get? with
    | some r => imported a r
    | none => a
  if s.changes.purges.contains (account.get .canvasUserId) then a.set .email "" else a

/-! ## Carrying out a verdict -/

/-- `b` is an account on which a verdict about `account` has been carried out. -/
structure CarriedOut (policy : SyncPolicy) (account : Row .provisionedUsers) (v : Verdict)
    (b : Row .provisionedUsers) : Prop where
  loginId : b.get .loginId = v.target.get .loginId
  userId : b.get .userId = v.target.get .userId
  email : b.get .email =
    if v.purge then "" else if v.target.isBlankAt .email then account.get .email else v.target.get .email
  fullName : policy.maintainNames = true →
    b.get .fullName = v.target.get .givenName ++ " " ++ v.target.get .familyName
  givenName : v.target.get .givenName = account.get .givenName → b.get .givenName = account.get .givenName
  familyName : v.target.get .familyName = account.get .familyName → b.get .familyName = account.get .familyName

theorem isUnchanged_iff {target : Row .userImport} :
    isUnchanged policy account target = true ↔ account.get .loginId = target.get .loginId ∧
      (target.isBlankAt .email = true ∨ account.get .email = target.get .email) ∧
      (policy.maintainNames = true →
        account.get .fullName = target.get .givenName ++ " " ++ target.get .familyName) := by
  simp only [isUnchanged, Bool.and_eq_true, decide_eq_true_eq, Bool.or_eq_true, Bool.not_eq_true', and_assoc]
  cases policy.maintainNames <;> simp

/-- The account after its ID change and its update, before a purge. -/
def submitted (policy : SyncPolicy) (account : Row .provisionedUsers) (v : Verdict) : Row .provisionedUsers :=
  let a := account.set .userId (v.target.get .userId)
  if isUnchanged policy account v.target then a else imported a v.target

/-- What the directory holds about an account with the entry of a verdict. -/
theorem applied_eq (hu : uidOf? account = some login.uid) (h : s.entryOf account login.uid = .of policy account v) :
    s.applied account =
      if v.purge then (submitted policy account v).set .email "" else submitted policy account v := by
  obtain ⟨-, hrename, hpurge, hupdate⟩ := Entry.mk.inj h
  have hset : (match s.changes.renameOf? (userOf account) with
      | some change => account.set .userId change.newId
      | none => account) = account.set .userId (v.target.get .userId) := by
    rw [hrename]
    split
    · rename_i hc
      split at hc
      · cases hc
      · rw [← Option.some.inj hc]
    · rename_i hc
      split at hc
      · rename_i he
        rw [← he, Row.set_get]
      · cases hc
  unfold applied submitted
  dsimp only
  rw [hset, hu, Option.bind_some, hupdate, hpurge]
  cases isUnchanged policy account v.target <;> rfl

section Imported

variable (account : Row .provisionedUsers) (r : Row .userImport)

theorem get_imported {c : Column} (h : c ∉ [.loginId, .givenName, .familyName, .status, .fullName, .email]) :
    (imported account r).get c = account.get c := by
  simp only [List.mem_cons, List.not_mem_nil, or_false, not_or] at h
  unfold imported
  dsimp only
  split <;> simp [Row.get_set, h]

theorem get_imported_of_mem {c : Column} (h : c ∈ [Column.loginId, .givenName, .familyName, .status]) :
    (imported account r).get c = r.get c := by
  simp only [List.mem_cons, List.not_mem_nil, or_false] at h
  unfold imported
  dsimp only
  rcases h with rfl | rfl | rfl | rfl <;> split <;> simp (disch := decide) [Row.get_set_self, Row.get_set_of_ne]

theorem get_imported_fullName :
    (imported account r).get .fullName = r.get .givenName ++ " " ++ r.get .familyName := by
  unfold imported
  dsimp only
  split <;> simp (disch := decide) [Row.get_set_self, Row.get_set_of_ne]

theorem get_imported_email :
    (imported account r).get .email = if r.isBlankAt .email then account.get .email else r.get .email := by
  unfold imported
  dsimp only
  split <;> simp (disch := decide) [Row.get_set_self, Row.get_set_of_ne]

end Imported

theorem get_submitted_userId (policy : SyncPolicy) (account : Row .provisionedUsers) (v : Verdict) :
    (submitted policy account v).get .userId = v.target.get .userId := by
  unfold submitted
  dsimp only
  split
  · exact Row.get_set_self _ _ (by decide)
  · rw [get_imported _ _ (by decide), Row.get_set_self _ _ (by decide)]

theorem get_submitted_loginId (policy : SyncPolicy) (account : Row .provisionedUsers) (v : Verdict) :
    (submitted policy account v).get .loginId = v.target.get .loginId := by
  unfold submitted
  dsimp only
  split
  · rename_i h
    rw [Row.get_set_of_ne _ _ (by decide), (isUnchanged_iff.1 h).1]
  · exact get_imported_of_mem _ _ (by decide)

theorem get_submitted_email (policy : SyncPolicy) (account : Row .provisionedUsers) (v : Verdict) :
    (submitted policy account v).get .email =
      if v.target.isBlankAt .email then account.get .email else v.target.get .email := by
  unfold submitted
  dsimp only
  split
  · rename_i h
    rw [Row.get_set_of_ne _ _ (by decide)]
    rcases (isUnchanged_iff.1 h).2.1 with hb | he
    · rw [if_pos hb]
    · rw [he, ite_self]
  · rw [get_imported_email, Row.get_set_of_ne _ _ (by decide)]

theorem get_submitted_fullName (account : Row .provisionedUsers) (v : Verdict) (hm : policy.maintainNames = true) :
    (submitted policy account v).get .fullName = v.target.get .givenName ++ " " ++ v.target.get .familyName := by
  unfold submitted
  dsimp only
  split
  · rename_i h
    rw [Row.get_set_of_ne _ _ (by decide), (isUnchanged_iff.1 h).2.2 hm]
  · exact get_imported_fullName _ _

/-- A name that the target takes over from the account stays as it is. -/
theorem get_submitted_name (policy : SyncPolicy) {c : Column} (hc : c ∈ [Column.givenName, .familyName])
    (h : v.target.get c = account.get c) : (submitted policy account v).get c = account.get c := by
  simp only [List.mem_cons, List.not_mem_nil, or_false] at hc
  unfold submitted
  dsimp only
  split
  · exact Row.get_set_of_ne _ _ (by rcases hc with rfl | rfl <;> decide)
  · rw [get_imported_of_mem _ _ (by rcases hc with rfl | rfl <;> decide), h]

theorem carriedOut_applied (hu : uidOf? account = some login.uid)
    (h : s.entryOf account login.uid = .of policy account v) : CarriedOut policy account v (s.applied account) := by
  have heq : s.applied account =
      if v.purge then (submitted policy account v).set .email "" else submitted policy account v :=
    applied_eq hu h
  have hget : ∀ c : Column, c ≠ .email → (s.applied account).get c = (submitted policy account v).get c := by
    intro c hc
    rw [heq]
    split
    · exact Row.get_set_of_ne _ _ hc
    · rfl
  constructor
  case loginId => rw [hget _ (by decide), get_submitted_loginId]
  case userId => rw [hget _ (by decide), get_submitted_userId]
  case email =>
    rw [heq]
    split
    · exact Row.get_set_self _ _ (by decide)
    · exact get_submitted_email policy account v
  case fullName => intro hm; rw [hget _ (by decide), get_submitted_fullName account v hm]
  case givenName => intro hg; rw [hget _ (by decide), get_submitted_name policy (by decide) hg]
  case familyName => intro hf; rw [hget _ (by decide), get_submitted_name policy (by decide) hf]

/-! ## Settled accounts -/

/-- Judging the account decides nothing. -/
def Settled (policy : SyncPolicy) (people : List Person) (b : Row .provisionedUsers) : Prop :=
  ∀ l, CampusLogin.parse? (b.get .loginId) = some l →
    (Verdict.of policy people b l).purge = false ∧
      b.get .userId = (Verdict.of policy people b l).target.get .userId ∧
      isUnchanged policy b (Verdict.of policy people b l).target = true

theorem get_accountOf_loginId (policy : SyncPolicy) (person : Person) :
    (accountOf policy person).get .loginId = Text.trim person.uid := by
  simp (disch := decide) only [accountOf, Row.ofPairs, List.foldl_cons, List.foldl_nil, Row.get_set_of_ne,
    Row.get_set_self]

/-- A current person is the first one with the campus ID, and has not left or is on the whitelist. -/
theorem standing_eq_current_iff {uid : String} {p : Person} :
    Standing.of policy people uid = .current p ↔
      findPerson people uid = some p ∧ (p.expired = false ∨ uid ∈ policy.whitelist) := by
  unfold Standing.of
  cases hp : findPerson people uid with
  | none => by_cases hw : uid ∈ policy.whitelist <;> simp [hw]
  | some person =>
    have hcurrent : (!person.expired || policy.whitelist.contains uid) = true ↔
        person.expired = false ∨ uid ∈ policy.whitelist := by simp
    dsimp only
    split
    · rename_i h
      rw [Standing.current.injEq, Option.some.injEq]
      exact ⟨fun heq => ⟨heq, heq ▸ hcurrent.1 h⟩, And.left⟩
    · rename_i h
      refine ⟨nofun, ?_⟩
      rintro ⟨heq, hc⟩
      cases heq
      exact absurd (hcurrent.2 hc) h

/-- A current person has the campus ID that was asked for. -/
theorem trim_uid_of_current {uid : String} {person : Person} (h : Standing.of policy people uid = .current person) :
    Text.trim person.uid = uid := by
  simpa using List.find?_some (standing_eq_current_iff.1 h).1

section Verdicts

variable (policy people account login)

theorem verdict_current {person : Person} (h : Standing.of policy people login.uid = .current person) :
    (Verdict.of policy people account login).target = accountOf policy person ∧
      (Verdict.of policy people account login).purge = false := by
  unfold Verdict.of
  rw [h]
  exact ⟨rfl, rfl⟩

theorem verdict_kept (h : Standing.of policy people login.uid = .kept) :
    (Verdict.of policy people account login).target =
        (if login.inactive then (account.project .userImport).set .loginId login.uid
          else account.project .userImport) ∧
      (Verdict.of policy people account login).purge = false := by
  unfold Verdict.of
  rw [h]
  dsimp only
  split <;> exact ⟨rfl, rfl⟩

theorem verdict_departed (h : Standing.of policy people login.uid = .departed) :
    (Verdict.of policy people account login).target =
        (if policy.inactivateExpired then
          (((account.project .userImport).set .loginId (inactiveMark ++ login.uid)).set .userId
            (uidReference login.uid)).set .email ""
          else account.project .userImport) ∧
      (Verdict.of policy people account login).purge =
        (!account.isBlankAt .email && (login.inactive || policy.inactivateExpired)) := by
  unfold Verdict.of
  rw [h]
  dsimp only
  split
  · rename_i hi
    rw [hi]
    exact ⟨rfl, rfl⟩
  · exact ⟨rfl, rfl⟩

end Verdicts

/-- An account is settled when its one verdict decides nothing. -/
theorem settled_of_loginId {l : CampusLogin} (hn : Text.isNumeral l.uid = true) (hb : b.get .loginId = l.text)
    (h : (Verdict.of policy people b l).purge = false ∧
      b.get .userId = (Verdict.of policy people b l).target.get .userId ∧
      isUnchanged policy b (Verdict.of policy people b l).target = true) : Settled policy people b := by
  intro l' hl'
  rw [hb, CampusLogin.parse?_text hn] at hl'
  cases hl'
  exact h

/-- Where a target takes over the names of the account, the display name comes to consist of them. -/
theorem CarriedOut.fullName_of_held (h : CarriedOut policy account v b)
    (hg : v.target.get .givenName = account.get .givenName)
    (hf : v.target.get .familyName = account.get .familyName) (hm : policy.maintainNames = true) :
    b.get .fullName = b.get .givenName ++ " " ++ b.get .familyName := by
  rw [h.fullName hm, hg, hf, h.givenName hg, h.familyName hf]

/-- The account of a current person carries the person's data. -/
theorem settled_of_current {person : Person} (hn : Text.isNumeral login.uid = true)
    (hst : Standing.of policy people login.uid = .current person)
    (h : CarriedOut policy account (.of policy people account login) b) : Settled policy people b := by
  obtain ⟨ht, hp⟩ := verdict_current policy people account login hst
  obtain ⟨ht', hp'⟩ := verdict_current policy people b ⟨login.uid, false⟩ hst
  have hemail := h.email
  rw [hp, ht, if_neg Bool.false_ne_true] at hemail
  apply settled_of_loginId (l := ⟨login.uid, false⟩) hn
  · rw [h.loginId, ht, get_accountOf_loginId, trim_uid_of_current hst]
    rfl
  · refine ⟨hp', by rw [ht', h.userId, ht], isUnchanged_iff.2 ⟨by rw [ht', h.loginId, ht], ?_, fun hm => ?_⟩⟩
    · rw [ht']
      split at hemail
      · rename_i hb
        exact .inl hb
      · exact .inr hemail
    · rw [ht', h.fullName hm, ht]

/-- An account that should be held as it is, without a purge, is settled. -/
theorem unchanged_of_held (policy : SyncPolicy) (b : Row .provisionedUsers)
    (hm : policy.maintainNames = true → b.get .fullName = b.get .givenName ++ " " ++ b.get .familyName) :
    b.get .userId = (b.project .userImport).get .userId ∧ isUnchanged policy b (b.project .userImport) = true := by
  have hget : ∀ c ∈ Kind.userImport.columns, (b.project .userImport).get c = b.get c := fun c hc =>
    Row.get_project b hc (by revert c; decide)
  refine ⟨(hget _ (by decide)).symm, isUnchanged_iff.2 ⟨(hget _ (by decide)).symm, .inr (hget _ (by decide)).symm, ?_⟩⟩
  intro h
  rw [hm h, hget _ (by decide), hget _ (by decide)]

/-- The account of a person on the whitelist carries the bare login. -/
theorem settled_of_kept (hl : CampusLogin.parse? (account.get .loginId) = some login)
    (hst : Standing.of policy people login.uid = .kept)
    (h : CarriedOut policy account (.of policy people account login) b) : Settled policy people b := by
  obtain ⟨hn, htext⟩ := CampusLogin.parse?_eq_some_iff.1 hl
  obtain ⟨ht, hp⟩ := verdict_kept policy people account login hst
  obtain ⟨ht', hp'⟩ := verdict_kept policy people b ⟨login.uid, false⟩ hst
  rw [if_neg Bool.false_ne_true] at ht'
  have hlogin : b.get .loginId = login.uid := by
    rw [h.loginId, ht]
    split
    · exact Row.get_set_self _ _ (by decide)
    · rename_i hi
      rw [Row.get_project _ (by decide) (by decide), htext, CampusLogin.text, if_neg hi]
  have hname : ∀ c ∈ [Column.givenName, .familyName],
      (Verdict.of policy people account login).target.get c = account.get c := by
    intro c hc
    simp only [List.mem_cons, List.not_mem_nil, or_false] at hc
    rw [ht]
    rcases hc with rfl | rfl <;> split <;>
      simp (disch := decide) only [Row.get_set_of_ne, Row.get_project]
  apply settled_of_loginId (l := ⟨login.uid, false⟩) hn hlogin
  rw [ht', hp']
  exact ⟨rfl, unchanged_of_held policy b (h.fullName_of_held (hname _ (by decide)) (hname _ (by decide)))⟩

/-- Without inactivation the account of a departed person is held as it is, less the email of an inactive login. -/
theorem settled_of_departed_held (hl : CampusLogin.parse? (account.get .loginId) = some login)
    (hst : Standing.of policy people login.uid = .departed) (hi : policy.inactivateExpired = false)
    (h : CarriedOut policy account (.of policy people account login) b) : Settled policy people b := by
  obtain ⟨hn, htext⟩ := CampusLogin.parse?_eq_some_iff.1 hl
  obtain ⟨ht, hp⟩ := verdict_departed policy people account login hst
  obtain ⟨ht', hp'⟩ := verdict_departed policy people b login hst
  rw [hi, if_neg Bool.false_ne_true] at ht ht'
  rw [hi, Bool.or_false] at hp hp'
  have hget : ∀ c ∈ Kind.userImport.columns,
      (Verdict.of policy people account login).target.get c = account.get c := fun c hc => by
    rw [ht, Row.get_project account hc (by revert c; decide)]
  have hlogin : b.get .loginId = login.text := by rw [h.loginId, hget _ (by decide), htext]
  have hpurge : (!b.isBlankAt .email && login.inactive) = false := by
    have hemail := h.email
    rw [hp, hget _ (by decide), ite_self] at hemail
    rw [Row.isBlankAt, hemail]
    split
    · rfl
    · rename_i hne
      simpa [Row.isBlankAt] using hne
  apply settled_of_loginId hn hlogin
  rw [ht', hp', hpurge]
  exact ⟨rfl, unchanged_of_held policy b (h.fullName_of_held (hget _ (by decide)) (hget _ (by decide)))⟩

/-- With inactivation the account of a departed person carries the marked login, the reference and no email. -/
theorem settled_of_departed_inactivated (hn : Text.isNumeral login.uid = true)
    (hst : Standing.of policy people login.uid = .departed) (hi : policy.inactivateExpired = true)
    (h : CarriedOut policy account (.of policy people account login) b) : Settled policy people b := by
  obtain ⟨ht, hp⟩ := verdict_departed policy people account login hst
  obtain ⟨ht', hp'⟩ := verdict_departed policy people b ⟨login.uid, true⟩ hst
  rw [hi, if_pos rfl] at ht ht'
  rw [hi, Bool.or_true, Bool.and_true] at hp hp'
  have hname : ∀ c ∈ [Column.givenName, .familyName],
      (Verdict.of policy people account login).target.get c = account.get c ∧
        (Verdict.of policy people b ⟨login.uid, true⟩).target.get c = b.get c := by
    intro c hc
    simp only [List.mem_cons, List.not_mem_nil, or_false] at hc
    rw [ht, ht']
    rcases hc with rfl | rfl <;> constructor <;>
      simp (disch := decide) only [Row.get_set_of_ne, Row.get_project]
  have hemail : b.isBlankAt .email = true := by
    have hemail := h.email
    have htarget : (Verdict.of policy people account login).target.isBlankAt .email = true := by
      rw [ht, Row.isBlankAt, Row.get_set_self _ _ (by decide)]
      rfl
    rw [hp, if_pos htarget] at hemail
    rw [Row.isBlankAt, hemail]
    split
    · rfl
    · rename_i hne
      simpa [Row.isBlankAt] using hne
  have hlogin : b.get .loginId = inactiveMark ++ login.uid := by
    rw [h.loginId, ht]
    simp (disch := decide) only [Row.get_set_of_ne, Row.get_set_self]
  apply settled_of_loginId (l := ⟨login.uid, true⟩) hn hlogin
  refine ⟨by rw [hp', hemail]; rfl, ?_, isUnchanged_iff.2 ⟨?_, .inl ?_, fun hm => ?_⟩⟩
  · rw [ht', h.userId, ht]
    simp (disch := decide) only [Row.get_set_of_ne, Row.get_set_self]
  · rw [ht', hlogin]
    simp (disch := decide) only [Row.get_set_of_ne, Row.get_set_self]
  · rw [ht', Row.isBlankAt, Row.get_set_self _ _ (by decide)]
    rfl
  · rw [(hname _ (by decide)).2, (hname _ (by decide)).2]
    exact h.fullName_of_held (hname _ (by decide)).1 (hname _ (by decide)).1 hm

theorem settled_of_carriedOut (hl : CampusLogin.parse? (account.get .loginId) = some login)
    (h : CarriedOut policy account (.of policy people account login) b) : Settled policy people b := by
  have hn := (CampusLogin.parse?_eq_some_iff.1 hl).1
  cases hst : Standing.of policy people login.uid with
  | current person => exact settled_of_current hn hst h
  | kept => exact settled_of_kept hl hst h
  | departed =>
    cases hi : policy.inactivateExpired with
    | true => exact settled_of_departed_inactivated hn hst hi h
    | false => exact settled_of_departed_held hl hst hi h

/-! ## The second pass -/

/-- Judging a settled account decides nothing. -/
theorem take_of_settled (h : Settled policy people b) (s : Reconciliation) :
    (s.take policy people b).1.changes = s.changes ∧ (s.take policy people b).1.updates = s.updates := by
  rcases take_cases policy people s b with ht | ⟨l, hl, -, ht⟩
  · rw [ht]
    exact ⟨rfl, rfl⟩
  · obtain ⟨hp, hid, hun⟩ := h l hl
    rw [ht, enter_eq, if_pos (Or.inl hid), if_pos hun, flagged, hp, if_neg Bool.false_ne_true]
    exact ⟨rfl, rfl⟩

/-- An account without a campus login keeps its login. -/
theorem get_applied_loginId (h : uidOf? account = none) (s : Reconciliation) :
    (s.applied account).get .loginId = account.get .loginId := by
  unfold applied
  dsimp only
  rw [h, Option.bind_none]
  have hrename : (match s.changes.renameOf? (userOf account) with
      | some change => account.set .userId change.newId
      | none => account).get .loginId = account.get .loginId := by
    split
    · exact Row.get_set_of_ne _ _ (by decide)
    · rfl
  split
  · rw [Row.get_set_of_ne _ _ (by decide), hrename]
  · exact hrename

theorem settled_applied {accounts : List (Row .provisionedUsers)} (hap : accounts.Pairwise Apart)
    (hmem : account ∈ accounts) :
    Settled policy people (((start {}).takeAll policy people accounts).1.applied account) := by
  cases hl : CampusLogin.parse? (account.get .loginId) with
  | none =>
    intro l h
    rw [get_applied_loginId (by rw [uidOf?, hl]; rfl), hl] at h
    cases h
  | some login =>
    exact settled_of_carriedOut hl (carriedOut_applied (uidOf?_of_parse? hl) (entryOf_takeAll hap hmem hl))

theorem pairwise_apart {accounts : List (Row .provisionedUsers)} (huids : (accounts.filterMap uidOf?).Nodup)
    (husers : (accounts.map fun a => a.get .canvasUserId).Nodup) : accounts.Pairwise Apart := by
  have h₁ := List.pairwise_map.1 husers
  have h₂ := List.pairwise_filterMap.1 huids
  exact (h₁.and h₂).imp fun h => ⟨h.1, fun uid ha hb => h.2 uid ha uid hb rfl⟩

/-- **The sync converges.** Where the campus logins name distinct people and the accounts are distinct users, a second
pass over the accounts that the first pass leads to decides nothing. -/
theorem takeAll_applied (policy : SyncPolicy) (people : List Person) (accounts : List (Row .provisionedUsers))
    (huids : (accounts.filterMap uidOf?).Nodup) (husers : (accounts.map fun a => a.get .canvasUserId).Nodup) :
    let first := ((start {}).takeAll policy people accounts).1
    let second := ((start {}).takeAll policy people (accounts.map first.applied)).1
    second.changes.renames = [] ∧ second.changes.purges = [] ∧ second.updates.entries = [] := by
  intro first second
  have hsettled : second.changes = {} ∧ second.updates = {} := by
    apply takeAll_induction (P := fun t => t.changes = {} ∧ t.updates = {}) ⟨rfl, rfl⟩
    intro t a ha ht
    obtain ⟨account, hmem, rfl⟩ := List.mem_map.1 ha
    have hset : Settled policy people (first.applied account) := settled_applied (pairwise_apart huids husers) hmem
    exact ⟨(take_of_settled hset t).1.trans ht.1, (take_of_settled hset t).2.trans ht.2⟩
  rw [hsettled.1, hsettled.2]
  exact ⟨rfl, rfl, rfl⟩

/-- Two people who left, one of them still active in the directory. -/
theorem takeAll_applied_departed :
    let policy : SyncPolicy := { inactivateExpired := true }
    let accounts : List (Row .provisionedUsers) :=
      [.ofPairs _ [(.canvasUserId, "7"), (.userId, "2345"), (.loginId, "101"), (.email, "a@example.edu")],
       .ofPairs _ [(.canvasUserId, "8"), (.userId, "UID:102"), (.loginId, "inactive-102"), (.email, "b@example.edu")]]
    let first := ((start {}).takeAll policy [] accounts).1
    let second := ((start {}).takeAll policy [] (accounts.map first.applied)).1
    (accounts.filterMap uidOf?).Nodup ∧ (accounts.map fun a => a.get .canvasUserId).Nodup ∧
      first.changes.purges = ["7", "8"] ∧
      second.changes.renames = [] ∧ second.changes.purges = [] ∧ second.updates.entries = [] :=
  ⟨by decide +kernel, by decide +kernel, by decide +kernel,
    takeAll_applied _ _ _ (by decide +kernel) (by decide +kernel)⟩

end Reconciliation

end Registrar
