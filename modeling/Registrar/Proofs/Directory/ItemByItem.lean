import Registrar.Proofs.Directory.Run
import Registrar.Proofs.World.Replies

/-!
# Changes are applied item by item

Where the directory replies to a call about a user in the same way whenever it is made, ID changes and purges are
applied item by item (`ItemByItem`): what is asked for an item depends on the item and the replies alone
(`renameExchanges`, `purgeExchanges`), so no failure of one item touches another; every item is tried once; and the
tally of two lists one after the other is the sum of their tallies. The tally itself is read off the exchanges
(`Apply.item_by_item`).
-/

namespace Registrar

open Program

variable {α σ : Type} {h : Handler services σ} {R : σ → Prop} {reply : (c : services.Call) → services.Reply c}

/-! ## Tallies -/

attribute [ext] Tally

namespace Tally

instance : Add Tally := ⟨fun t u => ⟨t.applied + u.applied, t.failed + u.failed⟩⟩

@[simp] theorem applied_add (t u : Tally) : (t + u).applied = t.applied + u.applied := rfl

@[simp] theorem failed_add (t u : Tally) : (t + u).failed = t.failed + u.failed := rfl

theorem add_assoc (t u v : Tally) : t + u + v = t + (u + v) := Tally.ext (Nat.add_assoc _ _ _) (Nat.add_assoc _ _ _)

theorem add_empty (t : Tally) : t + {} = t := rfl

theorem empty_add (t : Tally) : {} + t = t := Tally.ext (Nat.zero_add _) (Nat.zero_add _)

/-- What items come to in all. -/
def total (gain : α → Tally) : List α → Tally
  | [] => {}
  | a :: rest => gain a + total gain rest

theorem foldl_add (gain : α → Tally) (t : Tally) (l : List α) :
    l.foldl (fun t a => t + gain a) t = t + total gain l := by
  induction l generalizing t with
  | nil => exact (add_empty t).symm
  | cons a rest ih => rw [List.foldl_cons, ih, total, add_assoc]

theorem total_append (gain : α → Tally) (xs ys : List α) : total gain (xs ++ ys) = total gain xs + total gain ys := by
  induction xs with
  | nil => exact (empty_add _).symm
  | cons x rest ih => rw [List.cons_append, total, ih, total, add_assoc]

theorem total_const_empty (l : List α) : total (fun _ => {}) l = {} := by
  induction l with
  | nil => rfl
  | cons a rest ih => rw [total, ih, empty_add]

end Tally

/-! ## Item by item -/

/-- From every state of the directory a list is applied to the end, by the exchanges that belong to its items, item
after item; and a list behind another adds its tally to that of the first, whatever states they were tried in. -/
structure ItemByItem (h : Handler services σ) (R : σ → Prop) (apply : List α → Action Tally)
    (asked : α → List (Exchange services)) : Prop where
  ends : ∀ items s, R s → ∃ tally t, (apply items).Yields h s tally t
  exchanges : ∀ items s, R s → (apply items).exchanges h s = items.flatMap asked
  append : ∀ xs ys s s₁ s₂ t₁ t₂ a b, R s → R s₁ → R s₂ → (apply xs).Yields h s₁ a t₁ → (apply ys).Yields h s₂ b t₂ →
    (apply (xs ++ ys)).exchanges h s = (apply xs).exchanges h s₁ ++ (apply ys).exchanges h s₂ ∧
      ∃ t, (apply (xs ++ ys)).Yields h s (a + b) t

theorem itemByItem_of_endsBy {apply : List α → Action Tally} {gain : α → Tally} {asked : α → List (Exchange services)}
    (hh : RepliesBy h R Service.IsAboutUser reply) (hasks : ∀ items, (apply items).Asks Service.IsAboutUser)
    (hends : ∀ items, (apply items).EndsBy reply (items.flatMap asked) (Tally.total gain items)) :
    ItemByItem h R apply asked := by
  have hrun : ∀ items s, R s → ∃ t, R t ∧ (apply items).Yields h s (Tally.total gain items) t ∧
      (apply items).exchanges h s = items.flatMap asked := fun items s hs => hh.yields (hasks items) (hends items) hs
  constructor
  · intro items s hs
    obtain ⟨t, -, hy, -⟩ := hrun items s hs
    exact ⟨_, t, hy⟩
  · intro items s hs
    obtain ⟨-, -, -, hexchanges⟩ := hrun items s hs
    exact hexchanges
  · intro xs ys s s₁ s₂ t₁ t₂ a b hs hs₁ hs₂ hxs hys
    obtain ⟨u₁, -, hy₁, hexchanges₁⟩ := hrun xs s₁ hs₁
    obtain ⟨u₂, -, hy₂, hexchanges₂⟩ := hrun ys s₂ hs₂
    obtain ⟨t, -, hy, hexchanges⟩ := hrun (xs ++ ys) s hs
    rw [hexchanges, hexchanges₁, hexchanges₂, (hxs.unique hy₁).1, (hys.unique hy₂).1, ← Tally.total_append]
    exact ⟨List.flatMap_append, t, hy⟩

namespace Apply

/-! ## What is asked, and how it went -/

/-- The login is given its new ID. -/
def isAcceptedChange : Exchange services → Bool
  | ⟨.assignSisId _ _, .ok ()⟩ => true
  | _ => false

/-- The channel is deleted. -/
def isAcceptedDeletion : Exchange services → Bool
  | ⟨.deleteChannel _ _, .ok ()⟩ => true
  | _ => false

/-- The channel is not deleted. -/
def isRejectedDeletion : Exchange services → Bool
  | ⟨.deleteChannel _ _, .error _⟩ => true
  | _ => false

/-- The channels of a user are not told. -/
def isFailedListing : Exchange services → Bool
  | ⟨.channels _, .error _⟩ => true
  | _ => false

/-- The single login of a user that names a campus person. -/
def soleLogin? (logins : List DirectoryLogin) : Option DirectoryLogin :=
  match logins.filter fun login => (CampusLogin.parse? login.uniqueId).isSome with
  | [login] => some login
  | _ => none

/-- The exchange in which a login, if there is one, is to be given an ID. -/
def assignExchanges (reply : (c : services.Call) → services.Reply c) (newId : String) :
    Option DirectoryLogin → List (Exchange services)
  | none => []
  | some login => [⟨.assignSisId login.id newId, reply (.assignSisId login.id newId)⟩]

/-- What an ID change asks: the logins of its user, and where a single one of them names a campus person, that this one
be given the ID. A dry run asks nothing. -/
def renameExchanges (reply : (c : services.Call) → services.Reply c) (dryRun : Bool) (change : IdChange) :
    List (Exchange services) :=
  if dryRun then []
  else ⟨.logins change.user, reply (.logins change.user)⟩ ::
    match reply (.logins change.user) with
    | .error _ => []
    | .ok logins => assignExchanges reply change.newId (soleLogin? logins)

/-- The exchange in which a channel is to be deleted. A dry run deletes nothing. -/
def deleteExchanges (reply : (c : services.Call) → services.Reply c) (dryRun : Bool) (user : String)
    (channel : Channel) : List (Exchange services) :=
  if dryRun then [] else [⟨.deleteChannel user channel.id, reply (.deleteChannel user channel.id)⟩]

/-- What the purge of a user asks: the channels of the user, and that each of type `email` be deleted. -/
def purgeExchanges (reply : (c : services.Call) → services.Reply c) (dryRun : Bool) (user : String) :
    List (Exchange services) :=
  ⟨.channels user, reply (.channels user)⟩ ::
    match reply (.channels user) with
    | .error _ => []
    | .ok channels => (channels.filter Channel.isEmail).flatMap (deleteExchanges reply dryRun user)

variable (reply)

/-! ## ID changes -/

theorem soleLogin?_eq_none {logins : List DirectoryLogin}
    (h : ∀ login, (logins.filter fun login => (CampusLogin.parse? login.uniqueId).isSome) ≠ [login]) :
    soleLogin? logins = none := by
  unfold soleLogin?
  split
  · rename_i login hsole
    exact absurd hsole (h login)
  · rfl

/-- An ID change asks what belongs to it, and goes through where it ends in the one change that is accepted. -/
theorem rename_endsBy (change : IdChange) :
    ∃ outcome, (rename change.user change.newId).EndsBy reply (renameExchanges reply false change) outcome ∧
      (outcome = .ok true ∧ (renameExchanges reply false change).countP isAcceptedChange = 1 ∨
        outcome ≠ .ok true ∧ (renameExchanges reply false change).countP isAcceptedChange = 0) := by
  rw [renameExchanges, if_neg Bool.false_ne_true]
  cases hlogins : reply (.logins change.user) with
  | error reason => exact ⟨_, (endsBy_ask hlogins).bind (endsBy_pure _), .inr ⟨nofun, rfl⟩⟩
  | ok logins =>
    suffices hrest : ∃ outcome, _ ∧ _ from
      hrest.imp fun _ ⟨hends, houtcome⟩ => ⟨(endsBy_ask hlogins).bind hends, houtcome⟩
    dsimp only
    split
    · rename_i login hsole
      simp only [soleLogin?, hsole, assignExchanges]
      cases hassign : reply (.assignSisId login.id change.newId) with
      | error reason =>
        exact ⟨_, (endsBy_log _).bind ((endsBy_ask hassign).bind (endsBy_pure _)), .inr ⟨nofun, rfl⟩⟩
      | ok done => exact ⟨_, (endsBy_log _).bind ((endsBy_ask hassign).bind (endsBy_pure _)), .inl ⟨rfl, rfl⟩⟩
    · rename_i hnil
      simp only [soleLogin?, hnil, assignExchanges]
      exact ⟨_, (endsBy_log _).bind (endsBy_pure _), .inr ⟨nofun, rfl⟩⟩
    · rename_i hnot _
      rw [soleLogin?_eq_none hnot, assignExchanges]
      exact ⟨_, (endsBy_log _).bind (endsBy_pure _), .inr ⟨nofun, rfl⟩⟩

/-- What an ID change adds to the tally. -/
def renameGain (change : IdChange) : Tally :=
  ⟨(renameExchanges reply false change).countP isAcceptedChange,
    1 - (renameExchanges reply false change).countP isAcceptedChange⟩

theorem renameStep_endsBy (t : Tally) (change : IdChange) :
    (renameStep t change).EndsBy reply (renameExchanges reply false change) (t + renameGain reply change) := by
  obtain ⟨outcome, hends, houtcome⟩ := rename_endsBy reply change
  rw [← List.append_nil (renameExchanges reply false change)]
  rcases houtcome with ⟨rfl, hone⟩ | ⟨hnot, hnone⟩
  · have hgain : renameGain reply change = ⟨1, 0⟩ := by rw [renameGain, hone]
    rw [hgain]
    exact hends.bind (endsBy_pure _)
  · have hgain : renameGain reply change = ⟨0, 1⟩ := by rw [renameGain, hnone]
    rw [hgain]
    refine hends.bind ?_
    match outcome, hnot with
    | .ok true, hnot => exact absurd rfl hnot
    | .ok false, _ => exact (endsBy_log _).bind (endsBy_pure _)
    | .error failure, _ => exact (endsBy_log _).bind ((endsBy_log _).bind (endsBy_pure _))

theorem renames_endsBy (changes : List IdChange) :
    (renames false changes).EndsBy reply (changes.flatMap (renameExchanges reply false))
      (Tally.total (renameGain reply) changes) := by
  have hsteps := endsBy_foldList (renameStep_endsBy reply) {} changes
  rw [Tally.foldl_add, Tally.empty_add] at hsteps
  cases changes with
  | nil => exact endsBy_pure _
  | cons change rest => exact (endsBy_log _).bind hsteps

/-- A dry run asks nothing and counts nothing. -/
theorem renames_dry_endsBy (changes : List IdChange) :
    (renames true changes).EndsBy reply (changes.flatMap (renameExchanges reply true))
      (Tally.total (fun _ => {}) changes) := by
  have hasked : changes.flatMap (renameExchanges reply true) = [] := List.flatMap_eq_nil_iff.2 fun _ _ => rfl
  rw [hasked, Tally.total_const_empty]
  cases changes with
  | nil => exact endsBy_pure _
  | cons change rest => exact (endsBy_log _).bind (endsBy_pure _)

/-- Every ID change either goes through or fails. -/
theorem applied_add_failed_total (changes : List IdChange) :
    (Tally.total (renameGain reply) changes).applied + (Tally.total (renameGain reply) changes).failed =
      changes.length := by
  induction changes with
  | nil => rfl
  | cons change rest ih =>
    have hgain : (renameGain reply change).applied + (renameGain reply change).failed = 1 := by
      dsimp only [renameGain]
      obtain ⟨-, -, ⟨-, hcount⟩ | ⟨-, hcount⟩⟩ := rename_endsBy reply change
      all_goals omega
    rw [Tally.total, Tally.applied_add, Tally.failed_add, List.length_cons]
    omega

theorem applied_total (changes : List IdChange) :
    (Tally.total (renameGain reply) changes).applied =
      (changes.flatMap (renameExchanges reply false)).countP isAcceptedChange := by
  induction changes with
  | nil => rfl
  | cons change rest ih => rw [Tally.total, Tally.applied_add, ih, List.flatMap_cons, List.countP_append, renameGain]

/-! ## Purges -/

/-- The tally of the exchanges of a purge. -/
def purgeTally (es : List (Exchange services)) : Tally :=
  ⟨es.countP isAcceptedDeletion, es.countP isFailedListing + es.countP isRejectedDeletion⟩

theorem purgeTally_append (es es' : List (Exchange services)) :
    purgeTally (es ++ es') = purgeTally es + purgeTally es' := by
  ext
  · exact List.countP_append
  · simp only [purgeTally, List.countP_append, Tally.failed_add]
    omega

theorem total_purgeTally (asked : α → List (Exchange services)) (l : List α) :
    Tally.total (fun a => purgeTally (asked a)) l = purgeTally (l.flatMap asked) := by
  induction l with
  | nil => rfl
  | cons a rest ih => rw [Tally.total, ih, List.flatMap_cons, purgeTally_append]

theorem deleteStep_endsBy (dryRun : Bool) (user : String) (t : Tally) (channel : Channel) :
    (deleteStep dryRun user t channel).EndsBy reply (deleteExchanges reply dryRun user channel)
      (t + purgeTally (deleteExchanges reply dryRun user channel)) := by
  cases dryRun with
  | true => exact (endsBy_log _).bind (endsBy_pure _)
  | false =>
    simp only [deleteExchanges, Bool.false_eq_true, if_false]
    cases hdelete : reply (.deleteChannel user channel.id) with
    | error reason => exact (endsBy_log _).bind ((endsBy_ask hdelete).bind ((endsBy_log _).bind (endsBy_pure _)))
    | ok done => exact (endsBy_log _).bind ((endsBy_ask hdelete).bind (endsBy_pure _))

theorem purgeStep_endsBy (dryRun : Bool) (t : Tally) (user : String) :
    (purgeStep dryRun t user).EndsBy reply (purgeExchanges reply dryRun user)
      (t + purgeTally (purgeExchanges reply dryRun user)) := by
  unfold purgeExchanges
  cases hchannels : reply (.channels user) with
  | error reason => exact (endsBy_ask hchannels).bind ((endsBy_log _).bind (endsBy_pure _))
  | ok channels =>
    have hdeletions := endsBy_foldList (deleteStep_endsBy reply dryRun user) t (channels.filter Channel.isEmail)
    rw [Tally.foldl_add, total_purgeTally] at hdeletions
    exact (endsBy_ask hchannels).bind hdeletions

theorem purge_endsBy (dryRun : Bool) (users : List String) :
    (purge dryRun users).EndsBy reply (users.flatMap (purgeExchanges reply dryRun))
      (Tally.total (fun user => purgeTally (purgeExchanges reply dryRun user)) users) := by
  have hsteps := endsBy_foldList (purgeStep_endsBy reply dryRun) {} users
  rw [Tally.foldl_add, Tally.empty_add] at hsteps
  exact (endsBy_log _).bind hsteps

/-! ## Both -/

variable {reply}

/-- **Changes are applied item by item.** Let the directory reply to every call about a user in the same way whenever it
is made. Then ID changes and purges, dry runs included, are applied item by item. Outside of dry runs every ID change is
counted once, as applied exactly where a login was given its new ID; and a purge counts as applied the deletions that
were accepted, and as failed the listings that failed and the deletions that were rejected. -/
theorem item_by_item (hh : RepliesBy h R Service.IsAboutUser reply) (dryRun : Bool) :
    ItemByItem h R (renames dryRun) (renameExchanges reply dryRun) ∧
    ItemByItem h R (purge dryRun) (purgeExchanges reply dryRun) ∧
    ∀ s, R s →
      (∀ changes tally t, (renames false changes).Yields h s tally t →
        tally.applied + tally.failed = changes.length ∧
        tally.applied = ((renames false changes).exchanges h s).countP isAcceptedChange) ∧
      ∀ users tally t, (purge false users).Yields h s tally t →
        tally.applied = ((purge false users).exchanges h s).countP isAcceptedDeletion ∧
        tally.failed = ((purge false users).exchanges h s).countP isFailedListing +
          ((purge false users).exchanges h s).countP isRejectedDeletion := by
  refine ⟨?_, itemByItem_of_endsBy hh (asks_purge dryRun) (purge_endsBy reply dryRun), fun s hs => ⟨?_, ?_⟩⟩
  · cases dryRun with
    | true => exact itemByItem_of_endsBy hh (asks_renames true) (renames_dry_endsBy reply)
    | false => exact itemByItem_of_endsBy hh (asks_renames false) (renames_endsBy reply)
  · intro changes tally t hy
    obtain ⟨u, -, hu, hexchanges⟩ := hh.yields (asks_renames false changes) (renames_endsBy reply changes) hs
    rw [(hy.unique hu).1, hexchanges]
    exact ⟨applied_add_failed_total reply changes, applied_total reply changes⟩
  · intro users tally t hy
    obtain ⟨u, -, hu, hexchanges⟩ := hh.yields (asks_purge false users) (purge_endsBy reply false users) hs
    rw [(hy.unique hu).1, hexchanges, total_purgeTally]
    exact ⟨rfl, rfl⟩

/-- The directory in memory replies to calls about users in the same way whenever they are made. -/
theorem repliesBy_memory (world : World) :
    RepliesBy World.handler (fun w => w.directory = world.directory) Service.IsAboutUser
      fun c => (world.answer c).1 := by
  intro c w hc hw
  obtain ⟨now, runs, files, campus, directory, campusCalls, directoryCalls⟩ := w
  obtain rfl : directory = world.directory := hw
  cases c
  case logins | assignSisId | channels | deleteChannel => exact ⟨rfl, rfl⟩
  all_goals cases hc

/-- The first ID change is rejected, the second finds two campus logins and the third goes through. The channels of the
first user cannot be listed, and one of the two addresses of the second stays. -/
theorem item_by_item_refusals :
    let directory : DirectoryModel := {
      logins := Keyed.ofList [("1", [{ id := 5, uniqueId := "1" }]),
        ("2", [{ id := 6, uniqueId := "2" }, { id := 7, uniqueId := "inactive-2" }]),
        ("3", [{ id := 8, uniqueId := "guest" }, { id := 9, uniqueId := "3" }])]
      channels := Keyed.ofList
        [("78", [⟨1, "email", "a@example.edu"⟩, ⟨2, "sms", "5551234"⟩, ⟨3, "email", "b@example.edu"⟩])]
      rejectedLogins := [5]
      rejectedChannels := [3] }
    let world : World := { now := ⟨.epoch, 0, 0, by decide⟩, directory }
    let R : World → Prop := fun w => w.directory = directory
    let reply : (c : services.Call) → services.Reply c := fun c => (world.answer c).1
    let first := [IdChange.mk "1" "" "UID:1", IdChange.mk "2" "" "UID:2"]
    let last := [IdChange.mk "3" "" "UID:3"]
    RepliesBy World.handler R Service.IsAboutUser reply ∧ R world ∧
      (∃ t, (renames false (first ++ last)).Yields World.handler world (⟨0, 2⟩ + ⟨1, 0⟩) t) ∧
      (renames false (first ++ last)).exchanges World.handler world =
        first.flatMap (renameExchanges reply false) ++ last.flatMap (renameExchanges reply false) ∧
      (∃ t, (purge false (["77"] ++ ["78"])).Yields World.handler world (⟨0, 1⟩ + ⟨1, 1⟩) t) ∧
      (purge false (["77"] ++ ["78"])).exchanges World.handler world =
        purgeExchanges reply false "77" ++ purgeExchanges reply false "78" := by
  intro directory world R reply first last
  have hh : RepliesBy World.handler R Service.IsAboutUser reply := repliesBy_memory world
  obtain ⟨hrenames, hpurges, -⟩ := item_by_item hh false
  have yields (p : Action Tally) (a : Tally) (hp : (p.run World.handler world).result = .ok a) :
      p.Yields World.handler world a (p.run World.handler world).state := ⟨hp, rfl⟩
  obtain ⟨-, hsum⟩ := hrenames.append first last world world world _ _ ⟨0, 2⟩ ⟨1, 0⟩ rfl rfl rfl
    (yields _ _ (by decide +kernel)) (yields _ _ (by decide +kernel))
  obtain ⟨-, hsum'⟩ := hpurges.append ["77"] ["78"] world world world _ _ ⟨0, 1⟩ ⟨1, 1⟩ rfl rfl rfl
    (yields _ _ (by decide +kernel)) (yields _ _ (by decide +kernel))
  refine ⟨hh, rfl, hsum, ?_, hsum', hpurges.exchanges _ world rfl⟩
  rw [← List.flatMap_append]
  exact hrenames.exchanges _ world rfl

end Apply

end Registrar
