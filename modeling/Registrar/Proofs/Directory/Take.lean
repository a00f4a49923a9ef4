import Registrar.Directory.Reconcile
import Registrar.Proofs.Directory.Changes
import Registrar.Proofs.Directory.Login

/-!
# What judging an account does

- Judging one account either leaves a reconciliation alone or enters one verdict (`take_cases`); what entering leaves is
  said field by field (`enter_eq`).
- Judging accounts in order is a fold of single judgements (`takeAll_eq_foldl`), so judging two lists one after the
  other is judging them in a row (`takeAll_append`), and what every judgement keeps is kept (`takeAll_induction`).
- The part of a reconciliation that speaks about one account is its `Entry`. Other accounts leave it alone
  (`entryOf_take_of_apart`), so among accounts of distinct people and users each ends with the entry of its own verdict
  (`entryOf_takeAll`).
-/

namespace Registrar

/-- The campus ID of an account, if its login names one. -/
def uidOf? (account : Row .provisionedUsers) : Option String :=
  (CampusLogin.parse? (account.get .loginId)).map CampusLogin.uid

namespace Reconciliation

variable {policy : SyncPolicy} {people : List Person} {s : Reconciliation} {account : Row .provisionedUsers}
  {login : CampusLogin} {uid : String} {v : Verdict}

/-! ## Entering a verdict -/

theorem recordRename_eq (s : Reconciliation) (account : Row .provisionedUsers) (target : Row .userImport) :
    (s.recordRename account target).1 =
      { s with changes :=
          if account.get .userId = target.get .userId ∨ s.known.hasRename (account.get .userId) then s.changes
          else s.changes.record ⟨userOf account, account.get .userId, target.get .userId⟩ } := by
  unfold recordRename
  dsimp only
  by_cases hid : account.get .userId = target.get .userId
  · rw [if_pos hid, if_pos (Or.inl hid)]
  · rw [if_neg hid]
    by_cases hk : s.known.hasRename (account.get .userId) = true
    · rw [if_pos hk, if_pos (Or.inr hk)]
    · rw [if_neg hk, if_neg fun h => h.elim hid hk]

/-- The changes once the purge of a verdict has been flagged. -/
def flagged (s : Reconciliation) (account : Row .provisionedUsers) (v : Verdict) : Changes :=
  if v.purge then s.changes.flag (account.get .canvasUserId) else s.changes

/-- What entering a verdict leaves. -/
theorem enter_eq (policy : SyncPolicy) (s : Reconciliation) (account : Row .provisionedUsers) (uid : String)
    (v : Verdict) :
    (s.enter policy account uid v).1 =
      { known := { s.known with users := s.known.users.insert uid (v.target.get .userId) }
        changes :=
          if account.get .userId = v.target.get .userId ∨ s.known.hasRename (account.get .userId) then
            s.flagged account v
          else (s.flagged account v).record ⟨userOf account, account.get .userId, v.target.get .userId⟩
        updates := if isUnchanged policy account v.target then s.updates else s.updates.insert uid v.target } := by
  have hs : (if v.purge = true then { s with changes := s.changes.flag (account.get .canvasUserId) } else s) =
      { s with changes := s.flagged account v } := by
    unfold flagged
    split <;> rfl
  unfold enter
  dsimp only
  rw [hs, recordRename_eq]
  split <;> rfl

/-! ## Judging -/

theorem take_of_parse?_eq_none (h : CampusLogin.parse? (account.get .loginId) = none) :
    (s.take policy people account).1 = s := by rw [take, h]

theorem take_of_hasUser (h : CampusLogin.parse? (account.get .loginId) = some login)
    (hk : s.known.hasUser login.uid = true) : (s.take policy people account).1 = s := by
  rw [take, h]
  dsimp only
  rw [if_pos hk]

theorem take_of_not_hasUser (h : CampusLogin.parse? (account.get .loginId) = some login)
    (hk : s.known.hasUser login.uid = false) :
    (s.take policy people account).1 = (s.enter policy account login.uid (.of policy people account login)).1 := by
  rw [take, h]
  dsimp only
  rw [hk, if_neg Bool.false_ne_true]

/-- Judging an account changes nothing, or enters the verdict about it. -/
theorem take_cases (policy : SyncPolicy) (people : List Person) (s : Reconciliation)
    (account : Row .provisionedUsers) :
    (s.take policy people account).1 = s ∨
      ∃ login, CampusLogin.parse? (account.get .loginId) = some login ∧ s.known.hasUser login.uid = false ∧
        (s.take policy people account).1 =
          (s.enter policy account login.uid (.of policy people account login)).1 := by
  cases h : CampusLogin.parse? (account.get .loginId) with
  | none => exact .inl (take_of_parse?_eq_none h)
  | some login =>
    cases hk : s.known.hasUser login.uid with
    | true => exact .inl (take_of_hasUser h hk)
    | false => exact .inr ⟨login, rfl, hk, take_of_not_hasUser h hk⟩

theorem takeAll_eq_foldl (policy : SyncPolicy) (people : List Person) (s : Reconciliation)
    (accounts : List (Row .provisionedUsers)) :
    (s.takeAll policy people accounts).1 = accounts.foldl (fun s a => (s.take policy people a).1) s := by
  induction accounts generalizing s with
  | nil => rfl
  | cons account rest ih => exact ih (s.take policy people account).1

theorem takeAll_append (policy : SyncPolicy) (people : List Person) (s : Reconciliation)
    (xs ys : List (Row .provisionedUsers)) :
    (s.takeAll policy people (xs ++ ys)).1 = ((s.takeAll policy people xs).1.takeAll policy people ys).1 := by
  simp only [takeAll_eq_foldl, List.foldl_append]

/-- What holds at first and is kept by every judgement holds at the end. -/
theorem takeAll_induction {P : Reconciliation → Prop} {accounts : List (Row .provisionedUsers)} (hs : P s)
    (hstep : ∀ s, ∀ a ∈ accounts, P s → P (s.take policy people a).1) : P (s.takeAll policy people accounts).1 := by
  rw [takeAll_eq_foldl]
  induction accounts generalizing s with
  | nil => exact hs
  | cons account rest ih =>
    exact ih (hstep s account List.mem_cons_self hs) fun s a ha => hstep s a (List.mem_cons_of_mem _ ha)

/-! ## What is entered about an account -/

/-- What a reconciliation holds about one account. -/
structure Entry where
  /-- The SIS ID that the campus ID is known by. -/
  known : Option String
  rename : Option IdChange
  /-- The email addresses of the user are to be purged. -/
  purge : Bool
  update : Option (Row .userImport)

/-- Nothing is held. -/
def Entry.nothing : Entry := ⟨none, none, false, none⟩

/-- The entry of a verdict. -/
def Entry.of (policy : SyncPolicy) (account : Row .provisionedUsers) (v : Verdict) : Entry where
  known := some (v.target.get .userId)
  rename := if account.get .userId = v.target.get .userId then none
    else some ⟨userOf account, account.get .userId, v.target.get .userId⟩
  purge := v.purge
  update := if isUnchanged policy account v.target then none else some v.target

/-- What is held about an account of a campus ID. -/
def entryOf (s : Reconciliation) (account : Row .provisionedUsers) (uid : String) : Entry where
  known := s.known.users.get? uid
  rename := s.changes.renameOf? (userOf account)
  purge := s.changes.purges.contains (account.get .canvasUserId)
  update := s.updates.get? uid

/-- Two accounts belong to different people and different users of the directory. -/
def Apart (a b : Row .provisionedUsers) : Prop :=
  a.get .canvasUserId ≠ b.get .canvasUserId ∧ ∀ uid, uidOf? a = some uid → uidOf? b ≠ some uid

theorem Apart.symm {a b : Row .provisionedUsers} (h : Apart a b) : Apart b a :=
  ⟨h.1.symm, fun uid hb ha => h.2 uid ha hb⟩

theorem userOf_injective {a b : Row .provisionedUsers} (h : userOf a = userOf b) :
    a.get .loginId = b.get .loginId := by
  have := congrArg String.toList h
  simp only [userOf, String.toList_append, List.append_cancel_left_eq] at this
  exact String.toList_inj.1 this

theorem uidOf?_of_parse? (h : CampusLogin.parse? (account.get .loginId) = some login) :
    uidOf? account = some login.uid := by rw [uidOf?, h, Option.map_some]

theorem purges_flagged (s : Reconciliation) (account : Row .provisionedUsers) (v : Verdict) (user : String) :
    (s.flagged account v).purges.contains user =
      (s.changes.purges.contains user || (v.purge && user == account.get .canvasUserId)) := by
  unfold flagged
  cases v.purge with
  | true =>
    rw [if_pos rfl, Bool.eq_iff_iff]
    simp [Changes.mem_purges_flag]
  | false => simp

theorem renameOf?_flagged (s : Reconciliation) (account : Row .provisionedUsers) (v : Verdict) (user : String) :
    (s.flagged account v).renameOf? user = s.changes.renameOf? user := by
  unfold flagged
  split
  · rw [Changes.renameOf?_flag]
  · rfl

/-- Where nothing is held about an account, entering a verdict leaves the entry of the verdict. -/
theorem entryOf_enter (h : s.entryOf account uid = .nothing) (hr : s.known.hasRename (account.get .userId) = false)
    (v : Verdict) : (s.enter policy account uid v).1.entryOf account uid = .of policy account v := by
  obtain ⟨-, hrename, hpurge, hupdate⟩ := Entry.mk.inj h
  rw [enter_eq]
  simp only [entryOf, Entry.of, Keyed.get?_insert_self, Entry.mk.injEq, true_and, hr, Bool.false_eq_true, or_false]
  refine ⟨?_, ?_, ?_⟩
  · split
    · rw [renameOf?_flagged, hrename]
    · rw [Changes.renameOf?_record, if_pos rfl]
  · split <;> simp only [Changes.purges_record, purges_flagged, hpurge] <;> simp
  · split
    · exact hupdate
    · rw [Sheet.get?, Sheet.insert, Keyed.get?_insert_self]

/-- Entering a verdict about one account leaves alone what is held about an account apart from it. -/
theorem entryOf_enter_of_apart {a : Row .provisionedUsers} (hcanvas : account.get .canvasUserId ≠ a.get .canvasUserId)
    (huser : userOf a ≠ userOf account) (huid : uid ≠ login.uid) (v : Verdict) :
    (s.enter policy a login.uid v).1.entryOf account uid = s.entryOf account uid := by
  rw [enter_eq]
  simp only [entryOf, Entry.mk.injEq]
  refine ⟨?_, ?_, ?_, ?_⟩
  · rw [Keyed.get?_insert, if_neg huid]
  · split
    · rw [renameOf?_flagged]
    · rw [Changes.renameOf?_record, if_neg huser, renameOf?_flagged]
  · split <;> simp only [Changes.purges_record, purges_flagged] <;> simp [hcanvas]
  · split
    · rfl
    · rw [Sheet.get?, Sheet.insert, Keyed.get?_insert, if_neg huid]; rfl

theorem entryOf_take_of_apart {a : Row .provisionedUsers} (h : CampusLogin.parse? (account.get .loginId) = some login)
    (hap : Apart account a) :
    (s.take policy people a).1.entryOf account login.uid = s.entryOf account login.uid := by
  rcases take_cases policy people s a with ht | ⟨l, hl, -, ht⟩
  · rw [ht]
  · have huid : login.uid ≠ l.uid := fun e =>
      hap.2 login.uid (uidOf?_of_parse? h) (by rw [uidOf?_of_parse? hl, e])
    have huser : userOf a ≠ userOf account := fun e => by
      rw [userOf_injective e, h] at hl
      exact huid (congrArg CampusLogin.uid (Option.some.inj hl))
    rw [ht, entryOf_enter_of_apart hap.1 huser huid]

/-- The ID changes of earlier runs stay as they are. -/
theorem known_renames_takeAll (policy : SyncPolicy) (people : List Person) (s : Reconciliation)
    (accounts : List (Row .provisionedUsers)) :
    (s.takeAll policy people accounts).1.known.renames = s.known.renames := by
  apply takeAll_induction (P := fun t => t.known.renames = s.known.renames) rfl
  intro t a _ ht
  rcases take_cases policy people t a with h | ⟨l, -, -, h⟩
  · rw [h, ht]
  · rw [h, enter_eq]
    exact ht

/-- Among accounts of distinct people and users, judged from nothing, each ends with the entry of its own verdict. -/
theorem entryOf_takeAll {accounts : List (Row .provisionedUsers)} (hap : accounts.Pairwise Apart)
    (hmem : account ∈ accounts) (h : CampusLogin.parse? (account.get .loginId) = some login) :
    ((start {}).takeAll policy people accounts).1.entryOf account login.uid =
      .of policy account (.of policy people account login) := by
  obtain ⟨pre, post, rfl⟩ := List.append_of_mem hmem
  obtain ⟨-, hpost, hpre⟩ := List.pairwise_append.1 hap
  have hcons := List.pairwise_cons.1 hpost
  -- the accounts before leave nothing about this one
  have hnothing : ((start {}).takeAll policy people pre).1.entryOf account login.uid = .nothing := by
    apply takeAll_induction (P := fun t => t.entryOf account login.uid = .nothing) rfl
    intro t a ha ht
    rw [entryOf_take_of_apart h (hpre a ha account List.mem_cons_self).symm, ht]
  have hknown : ((start {}).takeAll policy people pre).1.known.hasUser login.uid = false := by
    have : ((start {}).takeAll policy people pre).1.known.users.get? login.uid = none := congrArg Entry.known hnothing
    rw [KnownIds.hasUser, this, Option.any_none]
  have hrename : ∀ oldId, ((start {}).takeAll policy people pre).1.known.hasRename oldId = false := by
    intro oldId
    rw [KnownIds.hasRename, known_renames_takeAll]
    rfl
  rw [takeAll_append, ← List.singleton_append, takeAll_append]
  apply takeAll_induction (P := fun t => t.entryOf account login.uid = _)
  · show ((((start {}).takeAll policy people pre).1.take policy people account).1).entryOf account login.uid = _
    rw [take_of_not_hasUser h hknown, entryOf_enter hnothing (hrename _)]
  · intro t a ha ht
    rw [entryOf_take_of_apart h (hcons.1 a ha), ht]

end Reconciliation

end Registrar
