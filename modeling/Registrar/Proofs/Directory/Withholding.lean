import Registrar.Proofs.Directory.Coherence

/-!
# Changes that are held back

A judgement decides on a change (`decision?`) and records it, unless some new ID is known for the old one
(`renames_judge`). Which new ID that is does not matter, so whoever has the old ID waits for a change that was decided
about somebody else: a change is held back because of its old ID alone (`withholds_iff`). Only in states that know of no
change at all is every change that is held back the one that is known.

Over a sequence of judgements the changes recorded are those decided whose old ID has no known new one, in their order
(`renames_judged`).
-/

namespace Registrar.Reconciliation

variable {policy : SyncPolicy} {r : Reconciliation} {j : Judgement} {c : IdChange} {oldId uid : String}

/-! ## One judgement -/

/-- The change that a judgement decides on: the one that its account asks for, unless the campus ID has been given a SIS
ID and the account is left alone. -/
def decision? (policy : SyncPolicy) (r : Reconciliation) (j : Judgement) : Option IdChange :=
  if (uidOf? j.account).any r.known.hasUser then none else j.change? policy

/-- A change is decided on for an account with the login of a campus person who has not been given a SIS ID. -/
theorem decision?_eq_some_iff : r.decision? policy j = some c ↔
    j.change? policy = some c ∧ ∃ login, CampusLogin.parse? (j.account.get .loginId) = some login ∧
      r.known.hasUser login.uid = false := by
  rw [decision?, Option.ite_none_left_eq_some, and_comm]
  refine and_congr_right fun hc => ?_
  obtain ⟨login, hl, -⟩ := Option.bind_eq_some_iff.1 hc
  rw [uidOf?_of_parse? hl, Option.any_some, Bool.not_eq_true, hl]
  exact ⟨fun hk => ⟨login, rfl, hk⟩, fun ⟨_, hsame, hk⟩ => Option.some.inj hsame ▸ hk⟩

/-- The changes with one that was decided on, unless a new ID is known for the old one. -/
def putUnlessKnown (known : KnownIds) (renames : List IdChange) : Option IdChange → List IdChange
  | none => renames
  | some c => if known.hasRename c.oldId then renames else Changes.putRename c renames

/-- What a judgement does to the changes. -/
theorem renames_judge (policy : SyncPolicy) (r : Reconciliation) (j : Judgement) :
    (r.judge policy j).changes.renames = putUnlessKnown r.known r.changes.renames (r.decision? policy j) := by
  rw [judge, decision?]
  cases hl : CampusLogin.parse? (j.account.get .loginId) with
  | none => rw [take_of_parse?_eq_none hl, uidOf?, hl, Judgement.change?, hl]; rfl
  | some login =>
    rw [uidOf?_of_parse? hl, Option.any_some]
    cases hk : r.known.hasUser login.uid with
    | true => rw [take_of_hasUser hl hk, if_pos rfl]; rfl
    | false =>
      rw [take_of_not_hasUser hl hk, renames_enter, if_neg Bool.false_ne_true]
      by_cases hid : j.account.get .userId = (Verdict.of policy j.people j.account login).target.get .userId
      · rw [if_pos (Or.inl hid), (Judgement.change?_eq_none_iff hl).2 hid]
        rfl
      · rw [(Judgement.change?_eq_some_iff hl).2 ⟨hid, rfl⟩, putUnlessKnown]
        simp only [hid, false_or]

/-- What is recorded for a user once a change of it is decided on. -/
theorem renameOf?_judge (hc : r.decision? policy j = some c) :
    (r.judge policy j).changes.renameOf? c.user =
      if r.known.hasRename c.oldId then r.changes.renameOf? c.user else some c := by
  rw [Changes.renameOf?, renames_judge, hc, putUnlessKnown]
  split
  · rfl
  · rw [Changes.find?_putRename, if_pos rfl]

/-- The judgement decides on the change, and nothing is recorded for its user. -/
def Withholds (policy : SyncPolicy) (r : Reconciliation) (j : Judgement) (c : IdChange) : Prop :=
  r.decision? policy j = some c ∧ (r.judge policy j).changes.renameOf? c.user = none

theorem hasRename_iff {known : KnownIds} :
    known.hasRename oldId = true ↔ ∃ id, id ≠ "" ∧ known.renames.get? oldId = some id := by
  rw [KnownIds.hasRename, Option.any_eq_true]
  simp only [Bool.not_eq_true', String.isEmpty_eq_false_iff]
  exact exists_congr fun id => and_comm

theorem withholds_iff_hasRename : r.Withholds policy j c ↔
    r.decision? policy j = some c ∧ r.changes.renameOf? c.user = none ∧ r.known.hasRename c.oldId = true := by
  refine and_congr_right fun hc => ?_
  rw [renameOf?_judge hc]
  cases r.known.hasRename c.oldId <;> simp

/-! ## Somebody who was not there before -/

/-- An account with a SIS ID, and somebody found for it who has no student ID. -/
def newcomer (oldId uid : String) : Judgement := ⟨.ofPairs _ [(.userId, oldId), (.loginId, uid)], [{ uid }]⟩

theorem get_newcomer (oldId uid : String) :
    (newcomer oldId uid).account.get .userId = oldId ∧ (newcomer oldId uid).account.get .loginId = uid := by
  simp (disch := decide) only [newcomer, Row.ofPairs, List.foldl_cons, List.foldl_nil, Row.get_set_of_ne,
    Row.get_set_self, and_self]

theorem parse?_newcomer (hn : Text.isNumeral uid = true) :
    CampusLogin.parse? ((newcomer oldId uid).account.get .loginId) = some ⟨uid, false⟩ := by
  rw [(get_newcomer oldId uid).2]
  exact CampusLogin.parse?_eq_some_iff.2 ⟨hn, rfl⟩

theorem change?_newcomer (hn : Text.isNumeral uid = true) (hne : oldId ≠ uidReference uid) :
    (newcomer oldId uid).change? policy = some ⟨"sis_login_id:" ++ uid, oldId, uidReference uid⟩ := by
  obtain ⟨hold, hlogin⟩ := get_newcomer oldId uid
  have htrim : Text.trim uid = uid := by
    rw [← String.toList_inj, Text.toList_trim]
    exact Text.trimChars_of_not_blank fun c hc => Text.isBlank_of_isAsciiDigit ((Text.isNumeral_iff.1 hn).2 c hc)
  have hfound : Standing.of policy (newcomer oldId uid).people uid = .current { uid } :=
    standing_eq_current_iff.2 ⟨by simp [newcomer, findPerson, htrim], .inl rfl⟩
  have htarget : (Verdict.of policy (newcomer oldId uid).people (newcomer oldId uid).account ⟨uid, false⟩).target.get
      .userId = uidReference uid := by
    rw [(verdict_current policy _ _ ⟨uid, false⟩ hfound).1, get_accountOf_userId]
    rfl
  rw [Judgement.change?_eq_some_iff (parse?_newcomer hn), htarget, hold, userOf, hlogin]
  exact ⟨hne, rfl⟩

/-- Where a new ID is known for an old one, a judgement can decide on replacing the old one by another ID, and that
change is held back. -/
theorem exists_withholds_ne (policy : SyncPolicy) {id : String} (hid : id ≠ "")
    (hknown : r.known.renames.get? oldId = some id) :
    ∃ j c, r.Withholds policy j c ∧ c.oldId = oldId ∧ c.newId ≠ id := by
  -- somebody whose campus ID is longer than everything that the state knows
  obtain ⟨uid, hn, hlong⟩ :=
    Text.exists_longer_numeral (oldId :: id :: (r.known.users.keys ++ r.changes.renames.map IdChange.user))
  have hnew : ∀ lead, lead ++ uid ∉ oldId :: id :: (r.known.users.keys ++ r.changes.renames.map IdChange.user) :=
    fun lead hmem => by
      have := hlong _ hmem
      rw [String.length_append] at this
      omega
  have hunknown : r.known.hasUser uid = false := by
    have hnone : r.known.users.get? uid = none := lookup_eq_none fun hkey =>
      Nat.lt_irrefl _ (hlong uid (List.mem_cons_of_mem _ (List.mem_cons_of_mem _ (List.mem_append_left _ hkey))))
    rw [KnownIds.hasUser, hnone, Option.any_none]
  have hold : oldId ≠ uidReference uid := fun h => hnew "UID:" (h ▸ List.mem_cons_self)
  have hdecided : r.decision? policy (newcomer oldId uid) = some ⟨"sis_login_id:" ++ uid, oldId, uidReference uid⟩ :=
    decision?_eq_some_iff.2 ⟨change?_newcomer hn hold, ⟨uid, false⟩, parse?_newcomer hn, hunknown⟩
  refine ⟨_, _, withholds_iff_hasRename.2 ⟨hdecided, ?_, hasRename_iff.2 ⟨id, hid, hknown⟩⟩, rfl, fun h => ?_⟩
  · rw [Changes.renameOf?, List.find?_eq_none]
    intro c hc hu
    have hmem : "sis_login_id:" ++ uid ∈ r.changes.renames.map IdChange.user :=
      List.mem_map.2 ⟨c, hc, of_decide_eq_true hu⟩
    exact hnew "sis_login_id:" (by simp [hmem])
  · exact hnew "UID:" (List.mem_cons_of_mem _ (h ▸ List.mem_cons_self))

/-- **A change is held back because of its old ID alone.** In every state a judgement holds back a change that it
decides on exactly where nothing was recorded for the user before and some new ID, not empty, is known for the old one:
which one does not matter. So only in states that know of no change, where none is held back, is every change that is
held back the known one. -/
theorem withholds_iff (policy : SyncPolicy) (r : Reconciliation) :
    (∀ j c, r.Withholds policy j c ↔ r.decision? policy j = some c ∧ r.changes.renameOf? c.user = none ∧
      ∃ id, id ≠ "" ∧ r.known.renames.get? c.oldId = some id) ∧
    ((∀ j c, r.Withholds policy j c → r.known.renames.get? c.oldId = some c.newId) ↔
      ∀ oldId, r.known.hasRename oldId = false) := by
  refine ⟨fun j c => by rw [withholds_iff_hasRename, hasRename_iff], fun hsame oldId => ?_, fun hnone j c hc => ?_⟩
  · rw [Bool.eq_false_iff]
    intro hknown
    obtain ⟨id, hid, hget⟩ := hasRename_iff.1 hknown
    obtain ⟨j, c, hc, rfl, hne⟩ := exists_withholds_ne policy hid hget
    rw [hsame j c hc, Option.some.injEq] at hget
    exact hne hget
  · obtain ⟨-, -, hknown⟩ := withholds_iff_hasRename.1 hc
    rw [hnone] at hknown
    cases hknown

/-- The account of 102 has no SIS ID. It stays without one because 101, who had none either, was given one before. -/
theorem withholds_other_user :
    let r : Reconciliation := { known := { renames := .ofList [("", "UID:101")] } }
    let j : Judgement := ⟨.ofPairs _ [(.canvasUserId, "8"), (.loginId, "102")], [{ uid := "102" }]⟩
    let c : IdChange := ⟨"sis_login_id:102", "", "UID:102"⟩
    r.Withholds {} j c ∧ r.known.renames.get? c.oldId ≠ some c.newId :=
  ⟨⟨by decide +kernel, by decide +kernel⟩, by decide +kernel⟩

/-! ## Sequences of judgements -/

/-- The changes that judgements decide on one after the other. -/
def decisions (policy : SyncPolicy) : Reconciliation → List Judgement → List IdChange
  | _, [] => []
  | r, j :: rest => (r.decision? policy j).toList ++ decisions policy (r.judge policy j) rest

theorem known_renames_judge (policy : SyncPolicy) (r : Reconciliation) (j : Judgement) :
    (r.judge policy j).known.renames = r.known.renames :=
  known_renames_takeAll policy j.people r [j.account]

/-- The changes that judgements add are those decided on whose old ID has no known new one. -/
theorem renames_foldl_judge (hr : r.Given) (js : List Judgement) :
    (js.foldl (judge policy) r).changes.renames =
      r.changes.renames ++ (decisions policy r js).filter fun c => !r.known.hasRename c.oldId := by
  induction js generalizing r with
  | nil => rw [decisions, List.filter_nil, List.append_nil]; rfl
  | cons j rest ih =>
    have hknown : (r.judge policy j).known.hasRename = r.known.hasRename := by
      funext oldId
      rw [KnownIds.hasRename, known_renames_judge, KnownIds.hasRename]
    rw [List.foldl_cons, ih (hr.judge j), hknown, decisions, List.filter_append, ← List.append_assoc]
    congr 1
    rw [renames_judge]
    cases hc : r.decision? policy j with
    | none => simp [putUnlessKnown]
    | some c =>
      have huser : c.user ∉ r.changes.renames.map IdChange.user := by
        obtain ⟨hchange, login, hl, hk⟩ := decision?_eq_some_iff.1 hc
        rw [(Judgement.ids_of_change? hchange).1]
        exact hr.user_not_mem hl hk
      cases hold : r.known.hasRename c.oldId <;> simp [putUnlessKnown, hold, Changes.putRename_of_not_mem huser]

/-- A sequence of judgements records the changes that it decides on, in their order, but for those whose old ID has a
new one known from the start. -/
theorem renames_judged (policy : SyncPolicy) (known : KnownIds) (js : List Judgement) :
    (js.foldl (judge policy) (start known)).changes.renames =
      (decisions policy (start known) js).filter fun c => !known.hasRename c.oldId :=
  renames_foldl_judge (given_start known) js

end Registrar.Reconciliation
