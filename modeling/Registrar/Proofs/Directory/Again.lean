import Registrar.Proofs.Directory.Batching
import Registrar.Proofs.Directory.Convergence
import Registrar.Proofs.Keyed

/-!
# Judging a batch again

What a reconciliation holds under a campus ID, its SIS ID and its account update, is a fold over the accounts
(`under_takeAll`). A campus ID that has been given a SIS ID is passed over from then on, one that has been left without
is judged like the first time, so the fold is idempotent (`foldl_judged_again`). A batch that is judged again after its
changes were handed over therefore leaves what is known and the account updates as they are. It decides no ID change,
and it flags exactly the users of accounts that *linger*: inactive logins without a SIS ID whose people have left
(`batch_again`).
-/

namespace Registrar.Reconciliation

variable {policy : SyncPolicy} {people : List Person} {s : Reconciliation} {account : Row .provisionedUsers}
  {accounts : List (Row .provisionedUsers)} {login : CampusLogin} {uid : String}

/-! ## What is held under a campus ID -/

/-- The SIS ID and the account update of a campus ID. -/
structure Holding where
  sisId : Option String
  update : Option (Row .userImport)

/-- What is held under a campus ID. -/
def under (s : Reconciliation) (uid : String) : Holding := ⟨s.known.users.get? uid, s.updates.get? uid⟩

namespace Holding

/-- The campus ID has been given a SIS ID. -/
def isKnown (x : Holding) : Bool := x.sisId.any fun id => !id.isEmpty

/-- What is held under a campus ID after an account has been judged. -/
def judged (policy : SyncPolicy) (people : List Person) (uid : String) (x : Holding) (account : Row .provisionedUsers) :
    Holding :=
  match CampusLogin.parse? (account.get .loginId) with
  | none => x
  | some login =>
    if login.uid = uid ∧ x.isKnown = false then
      let target := (Verdict.of policy people account login).target
      ⟨some (target.get .userId), if isUnchanged policy account target then x.update else some target⟩
    else x

theorem judged_of_isKnown {x : Holding} (h : x.isKnown = true) (account : Row .provisionedUsers) :
    x.judged policy people uid account = x := by
  unfold judged
  split
  · rfl
  · rw [if_neg fun hc => by rw [h] at hc; cases hc.2]

/-- Accounts of other campus IDs do not matter. -/
theorem judged_of_uidOf?_ne (h : uidOf? account ≠ some uid) (x : Holding) :
    x.judged policy people uid account = x := by
  unfold judged
  split
  · rfl
  · rename_i login hl
    rw [if_neg fun hc => h (by rw [uidOf?_of_parse? hl, hc.1])]

theorem judged_of_not_isKnown {x : Holding} (hl : CampusLogin.parse? (account.get .loginId) = some login)
    (hk : x.isKnown = false) :
    x.judged policy people login.uid account =
      ⟨some ((Verdict.of policy people account login).target.get .userId),
        if isUnchanged policy account (Verdict.of policy people account login).target then x.update
        else some (Verdict.of policy people account login).target⟩ := by
  unfold judged
  rw [hl]
  exact if_pos ⟨rfl, hk⟩

theorem foldl_judged_of_isKnown {x : Holding} (h : x.isKnown = true) (accounts : List (Row .provisionedUsers)) :
    accounts.foldl (judged policy people uid) x = x := by
  induction accounts with
  | nil => rfl
  | cons account rest ih => rw [List.foldl_cons, judged_of_isKnown h, ih]

theorem not_isKnown_of_foldl {x : Holding} (h : (accounts.foldl (judged policy people uid) x).isKnown = false) :
    x.isKnown = false := by
  rw [Bool.eq_false_iff]
  intro hk
  rw [foldl_judged_of_isKnown hk, hk] at h
  cases h

/-- A second fold takes up with `y` what the first one does with `x`. Wherever `y` has not caught up with `x` it still
holds what the first fold ends with. -/
theorem foldl_judged_eq {x y z : Holding} (hz : accounts.foldl (judged policy people uid) x = z)
    (hzk : z.isKnown = false) (hyk : y.isKnown = false) (hid : y.sisId = x.sisId ∨ y.sisId = z.sisId)
    (hup : y.update = x.update ∨ y.update = z.update) : accounts.foldl (judged policy people uid) y = z := by
  induction accounts generalizing x y with
  | nil =>
    obtain rfl : x = z := hz
    obtain ⟨yid, yup⟩ := y
    obtain ⟨xid, xup⟩ := x
    simp only [or_self] at hid hup
    rw [List.foldl_nil, hid, hup]
  | cons account rest ih =>
    rw [List.foldl_cons] at hz ⊢
    have hnext : (x.judged policy people uid account).isKnown = false := not_isKnown_of_foldl (hz ▸ hzk)
    have hone : ([account].foldl (judged policy people uid) x).isKnown = false := hnext
    have hxk : x.isKnown = false := not_isKnown_of_foldl hone
    by_cases hu : uidOf? account = some uid
    · obtain ⟨login, hl, rfl⟩ := Option.map_eq_some_iff.1 hu
      rw [judged_of_not_isKnown hl hxk] at hz hnext
      rw [judged_of_not_isKnown hl hyk]
      refine ih hz hnext (.inl rfl) ?_
      dsimp only
      split
      · exact hup
      · exact .inl rfl
    · rw [judged_of_uidOf?_ne hu] at hz ⊢
      exact ih hz hyk hid hup

/-- Judging the accounts a second time changes nothing. -/
theorem foldl_judged_again (policy : SyncPolicy) (people : List Person) (uid : String) (x : Holding)
    (accounts : List (Row .provisionedUsers)) :
    accounts.foldl (judged policy people uid) (accounts.foldl (judged policy people uid) x) =
      accounts.foldl (judged policy people uid) x := by
  cases hk : (accounts.foldl (judged policy people uid) x).isKnown with
  | true => exact foldl_judged_of_isKnown hk accounts
  | false => exact foldl_judged_eq rfl hk hk (.inr rfl) (.inr rfl)

/-- A campus ID that ends without a SIS ID was given none by any of its accounts. -/
theorem userId_target_of_foldl {x : Holding}
    (hk : (accounts.foldl (judged policy people login.uid) x).isKnown = false) (hmem : account ∈ accounts)
    (hl : CampusLogin.parse? (account.get .loginId) = some login) :
    (Verdict.of policy people account login).target.get .userId = "" := by
  induction accounts generalizing x with
  | nil => cases hmem
  | cons a rest ih =>
    rw [List.foldl_cons] at hk
    rcases List.mem_cons.1 hmem with rfl | hmem
    · have hnext := not_isKnown_of_foldl hk
      have hone : ([account].foldl (judged policy people login.uid) x).isKnown = false := hnext
      rw [judged_of_not_isKnown hl (not_isKnown_of_foldl hone)] at hnext
      simpa [isKnown] using hnext
    · exact ih hk hmem

end Holding

theorem under_enter_self (policy : SyncPolicy) (s : Reconciliation) (account : Row .provisionedUsers) (uid : String)
    (v : Verdict) :
    (s.enter policy account uid v).1.under uid =
      ⟨some (v.target.get .userId), if isUnchanged policy account v.target then (s.under uid).update
        else some v.target⟩ := by
  rw [enter_eq, under, Holding.mk.injEq]
  refine ⟨Keyed.get?_insert_self _ _ _, ?_⟩
  dsimp only
  split
  · rfl
  · exact Keyed.get?_insert_self _ _ _

theorem under_enter_of_ne {uid' : String} (h : uid' ≠ uid) (v : Verdict) :
    (s.enter policy account uid v).1.under uid' = s.under uid' := by
  rw [enter_eq, under, under, Holding.mk.injEq]
  refine ⟨(Keyed.get?_insert _ _ _ _).trans (if_neg h), ?_⟩
  dsimp only
  split
  · rfl
  · exact (Keyed.get?_insert _ _ _ _).trans (if_neg h)

theorem under_take (policy : SyncPolicy) (people : List Person) (s : Reconciliation)
    (account : Row .provisionedUsers) (uid : String) :
    (s.take policy people account).1.under uid = (s.under uid).judged policy people uid account := by
  cases hl : CampusLogin.parse? (account.get .loginId) with
  | none =>
    rw [take_of_parse?_eq_none hl, Holding.judged_of_uidOf?_ne]
    rw [uidOf?, hl]
    intro hnone
    cases hnone
  | some login =>
    by_cases hu : login.uid = uid
    · subst hu
      cases hk : s.known.hasUser login.uid with
      | true =>
        have hk' : (s.under login.uid).isKnown = true := hk
        rw [take_of_hasUser hl hk, Holding.judged_of_isKnown hk']
      | false =>
        have hk' : (s.under login.uid).isKnown = false := hk
        rw [take_of_not_hasUser hl hk, under_enter_self, Holding.judged_of_not_isKnown hl hk']
    · rw [Holding.judged_of_uidOf?_ne (by rw [uidOf?_of_parse? hl]; exact fun e => hu (Option.some.inj e))]
      rcases take_cases policy people s account with h | ⟨login', hl', -, h⟩
      · rw [h]
      · obtain rfl : login = login' := Option.some.inj (hl.symm.trans hl')
        rw [h, under_enter_of_ne fun e => hu e.symm]

theorem under_takeAll (policy : SyncPolicy) (people : List Person) (s : Reconciliation)
    (accounts : List (Row .provisionedUsers)) (uid : String) :
    (s.takeAll policy people accounts).1.under uid =
      accounts.foldl (Holding.judged policy people uid) (s.under uid) := by
  rw [takeAll_eq_foldl]
  induction accounts generalizing s with
  | nil => rfl
  | cons account rest ih => rw [List.foldl_cons, List.foldl_cons, ih, under_take]

/-! ## Growth -/

/-- What is known and the account updates only grow. -/
structure Grows (s t : Reconciliation) : Prop where
  users : s.known.users.keys <+: t.known.users.keys
  renames : t.known.renames = s.known.renames
  updates : s.updates.rows.keys <+: t.updates.rows.keys
  name : t.updates.name = s.updates.name

theorem grows_takeAll (policy : SyncPolicy) (people : List Person) (s : Reconciliation)
    (accounts : List (Row .provisionedUsers)) : s.Grows (s.takeAll policy people accounts).1 := by
  apply takeAll_induction (P := s.Grows) ⟨List.prefix_rfl, rfl, List.prefix_rfl, rfl⟩
  intro t account _ ht
  rcases take_cases policy people t account with h | ⟨login, -, -, h⟩
  · rw [h]
    exact ht
  · rw [h, enter_eq]
    refine ⟨ht.users.trans (Keyed.keys_prefix_insert _ _ _), ht.renames, ?_, ?_⟩ <;> dsimp only <;> split
    · exact ht.updates
    · exact ht.updates.trans (Keyed.keys_prefix_insert _ _ _)
    · exact ht.name
    · exact ht.name

/-- A reconciliation that has grown and holds the same under every campus ID knows and updates the same. -/
theorem Grows.eq {s t : Reconciliation} (h : s.Grows t) (hunder : ∀ uid, t.under uid = s.under uid) :
    t.known = s.known ∧ t.updates = s.updates := by
  have husers := Keyed.eq_of_prefix h.users fun uid => congrArg Holding.sisId (hunder uid)
  have hrows := Keyed.eq_of_prefix h.updates fun uid => congrArg Holding.update (hunder uid)
  constructor
  · show KnownIds.mk t.known.users t.known.renames = KnownIds.mk s.known.users s.known.renames
    rw [husers, h.renames]
  · show Sheet.mk t.updates.rows t.updates.name = Sheet.mk s.updates.rows s.updates.name
    rw [hrows, h.name]

/-! ## What a second pass decides -/

/-- An inactive login without a SIS ID whose person has left, and whose email addresses have not been purged. Nothing
tells that it was judged before. -/
def Lingers (policy : SyncPolicy) (people : List Person) (known : KnownIds) (account : Row .provisionedUsers) : Prop :=
  ∃ login, CampusLogin.parse? (account.get .loginId) = some login ∧ login.inactive = true ∧
    Standing.of policy people login.uid = .departed ∧ policy.inactivateExpired = false ∧
    account.get .userId = "" ∧ known.hasUser login.uid = false ∧ account.isBlankAt .email = false

theorem uidReference_ne_empty (uid : String) : uidReference uid ≠ "" := fun h => by
  have := congrArg String.toList h
  simp [uidReference] at this

theorem sisId_ne_empty (person : Person) : person.sisId ≠ "" := by
  unfold Person.sisId
  split
  · split
    · rename_i h
      intro he
      simp [he] at h
    · exact uidReference_ne_empty _
  · exact uidReference_ne_empty _

theorem get_accountOf_userId (policy : SyncPolicy) (person : Person) :
    (accountOf policy person).get .userId = person.sisId := by
  simp (disch := decide) only [accountOf, Row.ofPairs, List.foldl_cons, List.foldl_nil, Row.get_set_of_ne,
    Row.get_set_self]

/-- A verdict gives no SIS ID only where it leaves an account without one as it is. -/
theorem verdict_of_userId_empty (h : (Verdict.of policy people account login).target.get .userId = "") :
    account.get .userId = "" ∧
      ((Verdict.of policy people account login).purge = true ↔
        login.inactive = true ∧ Standing.of policy people login.uid = .departed ∧
          policy.inactivateExpired = false ∧ account.isBlankAt .email = false) := by
  cases hst : Standing.of policy people login.uid with
  | current person =>
    obtain ⟨ht, -⟩ := verdict_current policy people account login hst
    rw [ht, get_accountOf_userId] at h
    exact absurd h (sisId_ne_empty person)
  | kept =>
    obtain ⟨ht, hp⟩ := verdict_kept policy people account login hst
    rw [hp]
    refine ⟨?_, by simp⟩
    rw [ht] at h
    split at h
    · rwa [Row.get_set_of_ne _ _ (by decide), Row.get_project _ (by decide) (by decide)] at h
    · rwa [Row.get_project _ (by decide) (by decide)] at h
  | departed =>
    obtain ⟨ht, hp⟩ := verdict_departed policy people account login hst
    rw [ht] at h
    rw [hp]
    cases hi : policy.inactivateExpired with
    | true =>
      rw [hi, if_pos rfl, Row.get_set_of_ne _ _ (by decide), Row.get_set_self _ _ (by decide)] at h
      exact absurd h (uidReference_ne_empty _)
    | false =>
      rw [hi, if_neg Bool.false_ne_true, Row.get_project _ (by decide) (by decide)] at h
      exact ⟨h, by simp [and_comm]⟩

variable {known : KnownIds}

/-- Judging an account that was judged before decides a purge at most, namely where it lingers. -/
theorem take_again (hs : ∀ uid, s.known.hasUser uid = known.hasUser uid)
    (hblank : ∀ login, CampusLogin.parse? (account.get .loginId) = some login → known.hasUser login.uid = false →
      (Verdict.of policy people account login).target.get .userId = "") :
    (∀ uid, (s.take policy people account).1.known.hasUser uid = known.hasUser uid) ∧
      (s.take policy people account).1.changes.renames = s.changes.renames ∧
      ∀ user, user ∈ (s.take policy people account).1.changes.purges ↔
        user ∈ s.changes.purges ∨ account.get .canvasUserId = user ∧ Lingers policy people known account := by
  cases hl : CampusLogin.parse? (account.get .loginId) with
  | none =>
    rw [take_of_parse?_eq_none hl]
    exact ⟨hs, rfl, fun user => by simp [Lingers, hl]⟩
  | some login =>
    cases hk : s.known.hasUser login.uid with
    | true =>
      rw [take_of_hasUser hl hk]
      rw [hs] at hk
      exact ⟨hs, rfl, fun user => by simp [Lingers, hl, hk]⟩
    | false =>
      have htarget := hblank login hl (by rw [← hs, hk])
      obtain ⟨hid, hpurge⟩ := verdict_of_userId_empty htarget
      rw [take_of_not_hasUser hl hk, enter_eq, if_pos (Or.inl (hid.trans htarget.symm)), htarget]
      refine ⟨fun uid => ?_, ?_, fun user => ?_⟩
      · rw [← hs uid, KnownIds.hasUser, Keyed.get?_insert]
        split
        · rename_i hu
          rw [hu, hk]
          rfl
        · rfl
      · unfold flagged Changes.flag
        split
        · split <;> rfl
        · rfl
      · rw [hs] at hk
        have hlingers : Lingers policy people known account ↔
            (Verdict.of policy people account login).purge = true := by
          rw [hpurge]
          simp [Lingers, hl, hk, hid]
        have hflagged := purges_flagged s account (Verdict.of policy people account login) user
        rw [Bool.eq_iff_iff] at hflagged
        simp only [List.contains_iff_mem, Bool.or_eq_true, Bool.and_eq_true, beq_iff_eq] at hflagged
        rw [hflagged, hlingers, and_comm, eq_comm (a := user)]

/-- Judging again decides purges only, for the users of accounts that linger. -/
theorem takeAll_again (hs : ∀ uid, s.known.hasUser uid = known.hasUser uid)
    (hblank : ∀ account ∈ accounts, ∀ login, CampusLogin.parse? (account.get .loginId) = some login →
      known.hasUser login.uid = false → (Verdict.of policy people account login).target.get .userId = "") :
    (s.takeAll policy people accounts).1.changes.renames = s.changes.renames ∧
      ∀ user, user ∈ (s.takeAll policy people accounts).1.changes.purges ↔
        user ∈ s.changes.purges ∨
          ∃ account ∈ accounts, account.get .canvasUserId = user ∧ Lingers policy people known account := by
  rw [takeAll_eq_foldl]
  induction accounts generalizing s with
  | nil => exact ⟨rfl, fun user => by simp⟩
  | cons account rest ih =>
    obtain ⟨hknown, hrenames, hpurges⟩ := take_again hs (hblank account List.mem_cons_self)
    obtain ⟨hrenames', hpurges'⟩ := ih hknown fun a ha => hblank a (List.mem_cons_of_mem _ ha)
    rw [List.foldl_cons]
    refine ⟨hrenames'.trans hrenames, fun user => ?_⟩
    rw [hpurges', hpurges, List.exists_mem_cons_iff, or_assoc]

/-- What a batch has left is not changed by judging the batch again, and no ID change is decided. -/
theorem takeAll_takeChanges (policy : SyncPolicy) (people : List Person) (s : Reconciliation)
    (accounts : List (Row .provisionedUsers)) :
    let first := (s.takeAll policy people accounts).1
    let second := (first.takeChanges.2.takeAll policy people accounts).1
    second.known = first.known ∧ second.updates = first.updates ∧ second.changes.renames = [] ∧
      ∀ user, user ∈ second.changes.purges ↔
        ∃ account ∈ accounts, account.get .canvasUserId = user ∧ Lingers policy people first.known account := by
  intro first second
  have hunder : ∀ uid, second.under uid = first.takeChanges.2.under uid := by
    intro uid
    have hfirst : first.takeChanges.2.under uid = accounts.foldl (Holding.judged policy people uid) (s.under uid) :=
      under_takeAll policy people s accounts uid
    rw [under_takeAll, hfirst, Holding.foldl_judged_again]
  obtain ⟨hknown, hupdates⟩ := (grows_takeAll policy people first.takeChanges.2 accounts).eq hunder
  have hblank : ∀ account ∈ accounts, ∀ login, CampusLogin.parse? (account.get .loginId) = some login →
      first.known.hasUser login.uid = false →
        (Verdict.of policy people account login).target.get .userId = "" := by
    intro account hmem login hl hk
    have hk' : (first.under login.uid).isKnown = false := hk
    rw [under_takeAll] at hk'
    exact Holding.userId_target_of_foldl hk' hmem hl
  obtain ⟨hrenames, hpurges⟩ := takeAll_again (s := first.takeChanges.2) (fun _ => rfl) hblank
  refine ⟨hknown, hupdates, hrenames, fun user => ?_⟩
  rw [hpurges]
  exact or_iff_right List.not_mem_nil

/-! ## Batches -/

variable {σ : Type} {h : Handler services σ} {t u : σ} {first : Reconciliation}

/-- A batch that succeeds was judged against the people of its lookup. -/
theorem lookup_of_yields_batch (hb : (s.batch policy accounts).Yields h t (.ok first) u) :
    ∃ people, lookup h (idsOf accounts) t = (.ok (.ok people), u) ∧
      first = (s.takeAll policy people accounts).1 := by
  obtain ⟨reply, v, hask, hrest⟩ := Program.yields_bind_iff.1 hb
  have hl : lookup h (idsOf accounts) t = (.ok reply, v) := Program.yields_ask_iff.1 hask
  match reply with
  | .error reason => exact nomatch (Program.yields_pure_iff.1 hrest).1
  | .ok people =>
    obtain ⟨_, w, hlog, hdone⟩ := Program.yields_bind_iff.1 hrest
    obtain ⟨hfirst, rfl⟩ := Program.yields_pure_iff.1 hdone
    obtain rfl : v = u := (Program.yields_logAll _ h v).state.symm.trans hlog.state
    exact ⟨people, hl, Except.ok.inj hfirst⟩

/-- A batch that fails was refused by its lookup. -/
theorem refused_of_yields_batch {failure : Failure} (hb : (s.batch policy accounts).Yields h t (.error failure) u) :
    ∃ reason, lookup h (idsOf accounts) t = (.ok (.error reason), u) := by
  obtain ⟨reply, v, hask, hrest⟩ := Program.yields_bind_iff.1 hb
  have hl : lookup h (idsOf accounts) t = (.ok reply, v) := Program.yields_ask_iff.1 hask
  match reply with
  | .error reason =>
    obtain ⟨-, rfl⟩ := Program.yields_pure_iff.1 hrest
    exact ⟨reason, hl⟩
  | .ok people =>
    obtain ⟨_, w, -, hdone⟩ := Program.yields_bind_iff.1 hrest
    exact nomatch (Program.yields_pure_iff.1 hdone).1

/-- **Judging a batch again decides nothing new.** Where a batch has succeeded, its changes were handed over and the
campus source gives the same answer again, judging the batch a second time succeeds. It leaves what is known and the
account updates exactly as they were, and decides no ID change. The users that it flags are those of the accounts that
linger; where no account does, there are no changes at all. -/
theorem batch_again (policy : SyncPolicy) (s : Reconciliation) (accounts : List (Row .provisionedUsers))
    (h : Handler services σ) (t u : σ) (first : Reconciliation)
    (hfirst : (s.batch policy accounts).Yields h t (.ok first) u)
    (hsame : (lookup h (idsOf accounts) u).1 = (lookup h (idsOf accounts) t).1) :
    ∃ people second w, (lookup h (idsOf accounts) t).1 = .ok (.ok people) ∧
      (first.takeChanges.2.batch policy accounts).Yields h u (.ok second) w ∧
      second.known = first.known ∧ second.updates = first.updates ∧ second.changes.renames = [] ∧
      (∀ user, user ∈ second.changes.purges ↔
        ∃ account ∈ accounts, account.get .canvasUserId = user ∧ Lingers policy people first.known account) ∧
      (second.changes.isEmpty = true ↔ ∀ account ∈ accounts, ¬ Lingers policy people first.known account) := by
  obtain ⟨people, hl, rfl⟩ := lookup_of_yields_batch hfirst
  rw [hl] at hsame
  have hl' : lookup h (idsOf accounts) u = (.ok (.ok people), (lookup h (idsOf accounts) u).2) := Prod.ext hsame rfl
  obtain ⟨hknown, hupdates, hrenames, hpurges⟩ := takeAll_takeChanges policy people s accounts
  refine ⟨people, _, _, by rw [hl], yields_batch_answered hl' _, hknown, hupdates, hrenames, hpurges, ?_⟩
  rw [Changes.isEmpty, hrenames, List.isEmpty_nil, Bool.true_and, List.isEmpty_iff, List.eq_nil_iff_forall_not_mem]
  constructor
  · intro hnone account hmem hlingers
    exact hnone _ ((hpurges _).2 ⟨account, hmem, rfl, hlingers⟩)
  · intro hnone user huser
    obtain ⟨account, hmem, -, hlingers⟩ := (hpurges user).1 huser
    exact hnone account hmem hlingers

/-- A current person, a departed one with an ID change, and two accounts without SIS IDs: the second pass is empty. -/
theorem batch_again_settled :
    let policy : SyncPolicy := { inactivateExpired := true }
    let person : Person := { uid := "102", firstName := "Ann", lastName := "Aaa", email := some "ann@example.edu" }
    let accounts : List (Row .provisionedUsers) :=
      [.ofPairs _ [(.canvasUserId, "7"), (.userId, "2345"), (.loginId, "101"), (.email, "a@example.edu")],
       .ofPairs _ [(.canvasUserId, "8"), (.loginId, "inactive-102"), (.email, "b@example.edu")],
       .ofPairs _ [(.canvasUserId, "9"), (.loginId, "inactive-103"), (.email, "c@example.edu")]]
    let feed := countingLookups [person] fun _ => false
    ∃ first second w, (({} : Reconciliation).batch policy accounts).Yields feed 0 (.ok first) 1 ∧
      (first.takeChanges.2.batch policy accounts).Yields feed 1 (.ok second) w ∧
      first.changes.purges = ["7", "9"] ∧ first.changes.renames.length = 3 ∧
      second.changes.isEmpty = true ∧ second.updates = first.updates := by
  intro policy person accounts feed
  have hfirst : (({} : Reconciliation).batch policy accounts).Yields feed 0
      (.ok (({} : Reconciliation).takeAll policy (peopleAmong [person] (idsOf accounts)) accounts).1) 1 :=
    yields_batch_answered (lookup_countingLookups _ _ _ _) _
  obtain ⟨people, second, w, hl, hsecond, -, hupdates, -, -, hempty⟩ :=
    batch_again policy {} accounts feed 0 1 _ hfirst rfl
  refine ⟨_, second, w, hfirst, hsecond, by decide +kernel, by decide +kernel, hempty.2 ?_, hupdates⟩
  rintro account - ⟨login, -, -, -, hi, -⟩
  cases hi

/-- An inactive login without a SIS ID: its user is flagged in every pass, although nothing has changed. -/
theorem batch_again_lingering :
    let policy : SyncPolicy := {}
    let accounts : List (Row .provisionedUsers) :=
      [.ofPairs _ [(.canvasUserId, "7"), (.loginId, "inactive-101"), (.email, "a@example.edu")]]
    let feed := countingLookups [] fun _ => false
    (lookup feed (idsOf accounts) 1).1 = (lookup feed (idsOf accounts) 0).1 ∧
      ∃ first second, (({} : Reconciliation).batch policy accounts).Yields feed 0 (.ok first) 1 ∧
        (first.takeChanges.2.batch policy accounts).Yields feed 1 (.ok second) 2 ∧
        first.takeChanges.1.purges = ["7"] ∧ second.changes.purges = ["7"] := by
  intro policy accounts feed
  exact ⟨rfl, _, _, yields_batch_answered (lookup_countingLookups _ _ _ _) _,
    yields_batch_answered (lookup_countingLookups _ _ _ _) _, by decide +kernel, by decide +kernel⟩

end Registrar.Reconciliation
