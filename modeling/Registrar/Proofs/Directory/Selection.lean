import Registrar.Proofs.Directory.Load

/-!
# What a cached run selects

In a folder whose names are orderly (`IsOrderly`), the files of each kind are in the order of their stamps, so the last
report is the one of the greatest stamp, and the sheets behind it are taken up from the oldest to the newest. What is
known of an ID afterwards is therefore what the newest sheet says that says anything about it (`Latest`), and a sheet
that cannot be read, or is not well-formed, says nothing (`said`). Without such a sheet it is what was known before
(`load_orderly`).
-/

namespace Registrar

open Program

namespace Stash

variable {name : String} {names : List String} {replies : String → Except String String}

/-! ## Orderly names -/

/-- A name that a run gives to a file, or one that is taken for no file of a run. -/
inductive IsOrderly : String → Prop
  | report (s : Stamp) : IsOrderly (reportName s.text)
  | updates (s : Stamp) : IsOrderly (updatesName s.text)
  | renames (s : Stamp) : IsOrderly (renamesName s.text)
  | other {name : String} (report : isReport name = false) (updates : isUpdates name = false)
      (renames : isRenames name = false) : IsOrderly name

/-- The orderly names of one kind are those that a run gives to files of the kind. -/
structure IsNaming (nameOf : String → String) (isKind : String → Bool) : Prop where
  /-- Names are in the order of their stamps. -/
  lt {s t : Stamp} (h : s < t) : nameOf s.text < nameOf t.text
  stampOf?_name (s : Stamp) : stampOf? (nameOf s.text) = some s.text
  isKind_name (s : Stamp) : isKind (nameOf s.text) = true
  exists_stamp {name : String} (h : IsOrderly name) (hkind : isKind name = true) : ∃ s : Stamp, name = nameOf s.text

theorem isNaming_report : IsNaming reportName isReport where
  lt h := framed_lt_framed_iff.2 h
  stampOf?_name s := (stampOf?_reportName _).trans s.stampOf?_text
  isKind_name s := isReport_reportName _
  exists_stamp h hkind := by
    cases h with
    | report s => exact ⟨s, rfl⟩
    | updates s => exact absurd hkind (Bool.eq_false_iff.1 (isReport_updatesName _))
    | renames s => exact absurd hkind (Bool.eq_false_iff.1 (isReport_renamesName _))
    | other hother => exact absurd hkind (Bool.eq_false_iff.1 hother)

theorem isNaming_updates : IsNaming updatesName isUpdates where
  lt h := framed_lt_framed_iff.2 h
  stampOf?_name s := (stampOf?_updatesName _).trans s.stampOf?_text
  isKind_name s := isUpdates_updatesName _
  exists_stamp h hkind := by
    cases h with
    | report s => exact absurd hkind (Bool.eq_false_iff.1 (isUpdates_reportName _))
    | updates s => exact ⟨s, rfl⟩
    | renames s => exact absurd hkind (Bool.eq_false_iff.1 (isUpdates_renamesName s.isPlain_text))
    | other _ hother => exact absurd hkind (Bool.eq_false_iff.1 hother)

theorem isNaming_renames : IsNaming renamesName isRenames where
  lt h := framed_lt_framed_iff.2 h
  stampOf?_name s := (stampOf?_renamesName _).trans s.stampOf?_text
  isKind_name s := isRenames_renamesName _
  exists_stamp h hkind := by
    cases h with
    | report s => exact absurd hkind (Bool.eq_false_iff.1 (isRenames_reportName _))
    | updates s => exact absurd hkind (Bool.eq_false_iff.1 (isRenames_updatesName _))
    | renames s => exact ⟨s, rfl⟩
    | other _ _ hother => exact absurd hkind (Bool.eq_false_iff.1 hother)

namespace IsNaming

variable {nameOf : String → String} {isKind : String → Bool} {top s : Stamp}

theorem isNewer_eq (hnaming : IsNaming nameOf isKind) (top s : Stamp) :
    isNewer top.text (nameOf s.text) = decide (top < s) := by
  rw [isNewer_of_stampOf? (hnaming.stampOf?_name s)]
  exact decide_eq_decide.2 Stamp.text_lt_text_iff

theorem isNewer_iff (hnaming : IsNaming nameOf isKind) : isNewer top.text (nameOf s.text) = true ↔ top < s := by
  rw [hnaming.isNewer_eq, decide_eq_true_iff]

theorem le_of_le (hnaming : IsNaming nameOf isKind) (h : s ≤ top) : nameOf s.text ≤ nameOf top.text := by
  rcases Stamp.lt_trichotomy s top with hlt | rfl | hgt
  · exact String.not_lt.1 (String.lt_asymm (hnaming.lt hlt))
  · exact String.le_refl _
  · exact absurd hgt (Stamp.not_lt.2 h)

/-- The last file of a kind is the one of the greatest stamp. -/
theorem getLast?_filter (hnaming : IsNaming nameOf isKind) (horderly : ∀ name ∈ names, IsOrderly name)
    (htop : nameOf top.text ∈ names) (hgreatest : ∀ s : Stamp, nameOf s.text ∈ names → s ≤ top) :
    ((sorted names).filter isKind).getLast? = some (nameOf top.text) := by
  refine getLast?_filter_sorted htop (hnaming.isKind_name top) fun name hname hkind => ?_
  obtain ⟨s, rfl⟩ := hnaming.exists_stamp (horderly name hname) hkind
  exact hnaming.le_of_le (hgreatest s hname)

/-- The files of a kind that are newer than a stamp. -/
theorem mem_newer_iff (hnaming : IsNaming nameOf isKind) (horderly : ∀ name ∈ names, IsOrderly name) :
    name ∈ ((sorted names).filter (isNewer top.text)).filter isKind ↔
      ∃ s : Stamp, name = nameOf s.text ∧ nameOf s.text ∈ names ∧ top < s := by
  rw [List.mem_filter, List.mem_filter, mem_sorted]
  constructor
  · rintro ⟨⟨hname, hnewer⟩, hkind⟩
    obtain ⟨s, rfl⟩ := hnaming.exists_stamp (horderly name hname) hkind
    exact ⟨s, rfl, hname, hnaming.isNewer_iff.1 hnewer⟩
  · rintro ⟨s, rfl, hname, hlater⟩
    exact ⟨⟨hname, hnaming.isNewer_iff.2 hlater⟩, hnaming.isKind_name s⟩

end IsNaming

/-! ## What sheets say -/

/-- What the reply to reading a sheet says about an ID: the value in the last row that mentions it. -/
def said (k : Kind) (key value : Row k → String) (id : String) : Except String String → Option String
  | .error _ => none
  | .ok text =>
    match Sheet.readStrict k text with
    | .error _ => none
    | .ok sheet => (sheet.toList.filter fun r => key r = id).getLast?.map value

/-- The SIS ID that a sheet of account updates gives a campus ID. -/
def userSaid (uid : String) : Except String String → Option String :=
  said .userImport (fun r => CampusLogin.bare (r.get .loginId)) (Row.get · .userId) uid

/-- The SIS ID that a sheet of ID changes replaces an old one by. -/
def renameSaid (old : String) : Except String String → Option String :=
  said .sisIdChanges (Row.get · .oldId) (Row.get · .newId) old

theorem users_takeReply (known : KnownIds) (reply : Except String String) (uid : String) :
    (takeReply .userImport learnUpdates known reply).users.get? uid =
      (userSaid uid reply).or (known.users.get? uid) := by
  cases reply with
  | error reason => rfl
  | ok text =>
    rw [takeReply, takeUp, userSaid, said]
    cases Sheet.readStrict .userImport text with
    | error failure => rfl
    | ok sheet => exact users_learnUpdates known sheet uid

theorem renames_takeReply (known : KnownIds) (reply : Except String String) (old : String) :
    (takeReply .sisIdChanges learnRenames known reply).renames.get? old =
      (renameSaid old reply).or (known.renames.get? old) := by
  cases reply with
  | error reason => rfl
  | ok text =>
    rw [takeReply, takeUp, renameSaid, said]
    cases Sheet.readStrict .sisIdChanges text with
    | error failure => rfl
    | ok sheet => exact renames_learnRenames known sheet old

theorem users_takeReply_renames (known : KnownIds) (reply : Except String String) :
    (takeReply .sisIdChanges learnRenames known reply).users = known.users := by
  cases reply with
  | error reason => rfl
  | ok text => exact users_takeUp_renames known text

theorem renames_takeReply_updates (known : KnownIds) (reply : Except String String) :
    (takeReply .userImport learnUpdates known reply).renames = known.renames := by
  cases reply with
  | error reason => rfl
  | ok text => exact renames_takeUp_updates known text

/-! ## Taking up one sheet after the other -/

/-- Where every step sets what it says, the last one that says anything counts. -/
theorem foldl_said {α β γ : Type} {step : β → α → β} (view : β → Option γ) {tells : α → Option γ}
    (hstep : ∀ b a, view (step b a) = (tells a).or (view b)) (items : List α) (b : β) :
    view (items.foldl step b) = (items.reverse.findSome? tells).or (view b) := by
  induction items generalizing b with
  | nil => rfl
  | cons a rest ih =>
    rw [List.foldl_cons, ih, hstep, List.reverse_cons, List.findSome?_append, Option.or_assoc]
    simp

theorem users_takeNewer (replies : String → Except String String) (stamp : String) (names : List String)
    (known : KnownIds) (uid : String) :
    (takeNewer replies stamp names known).users.get? uid =
      (((names.filter (isNewer stamp)).filter isUpdates).reverse.findSome? fun name => userSaid uid (replies name)).or
        (known.users.get? uid) := by
  unfold takeNewer
  dsimp only
  rw [foldl_kept KnownIds.users fun known name => users_takeReply_renames known (replies name)]
  exact foldl_said (fun known : KnownIds => known.users.get? uid)
    (fun known name => users_takeReply known (replies name) uid) _ known

theorem renames_takeNewer (replies : String → Except String String) (stamp : String) (names : List String)
    (known : KnownIds) (old : String) :
    (takeNewer replies stamp names known).renames.get? old =
      (((names.filter (isNewer stamp)).filter isRenames).reverse.findSome? fun name => renameSaid old (replies name)).or
        (known.renames.get? old) := by
  unfold takeNewer
  dsimp only
  rw [foldl_said (fun known : KnownIds => known.renames.get? old)
    fun known name => renames_takeReply known (replies name) old]
  rw [foldl_kept KnownIds.renames fun known name => renames_takeReply_updates known (replies name)]

/-! ## The newest sheet -/

/-- What the newest of the listed sheets behind a stamp says, of those that say anything. -/
inductive Latest (names : List String) (nameOf : String → String) (top : Stamp) (tells : String → Option String) :
    Option String → Prop
  | said {s : Stamp} {value : String} (listed : nameOf s.text ∈ names) (later : top < s)
      (telling : tells (nameOf s.text) = some value)
      (newest : ∀ t : Stamp, nameOf t.text ∈ names → s < t → tells (nameOf t.text) = none) :
      Latest names nameOf top tells (some value)
  | silent (silent : ∀ s : Stamp, nameOf s.text ∈ names → top < s → tells (nameOf s.text) = none) :
      Latest names nameOf top tells none

section Latest

variable {nameOf : String → String} {top : Stamp} {tells : String → Option String} {a b : Option String}

/-- The sheets determine what counts. -/
theorem Latest.unique (ha : Latest names nameOf top tells a) (hb : Latest names nameOf top tells b) : a = b := by
  cases ha with
  | silent hnone =>
    cases hb with
    | silent => rfl
    | said listed later telling => exact nomatch (hnone _ listed later).symm.trans telling
  | @said s v listed later telling newest =>
    cases hb with
    | silent hnone => exact nomatch (hnone _ listed later).symm.trans telling
    | @said t w listed' later' telling' newest' =>
      rcases Stamp.lt_trichotomy s t with hlt | rfl | hgt
      · exact nomatch (newest t listed' hlt).symm.trans telling'
      · exact telling.symm.trans telling'
      · exact nomatch (newest' s listed hgt).symm.trans telling

/-- In a list in order, what is found from behind is said by a text behind which nothing is said. -/
theorem exists_of_findSome?_reverse {sheets : List String} {value : String} (hsorted : sheets.Pairwise (· ≤ ·))
    (h : sheets.reverse.findSome? tells = some value) :
    ∃ sheet ∈ sheets, tells sheet = some value ∧ ∀ other ∈ sheets, sheet < other → tells other = none := by
  obtain ⟨behind, sheet, before, hsplit, htells, hnone⟩ := List.findSome?_eq_some_iff.1 h
  have hsheets : sheets = before.reverse ++ sheet :: behind.reverse := by
    rw [← List.reverse_reverse sheets, hsplit, List.reverse_append, List.reverse_cons, List.append_assoc]
    rfl
  rw [hsheets] at hsorted ⊢
  refine ⟨sheet, List.mem_append_right _ List.mem_cons_self, htells, fun other hother hlt => ?_⟩
  rcases List.mem_append.1 hother with hother | hother
  · exact absurd ((List.pairwise_append.1 hsorted).2.2 other hother sheet List.mem_cons_self) (String.not_le.2 hlt)
  · rcases List.mem_cons.1 hother with rfl | hother
    · exact absurd hlt (String.lt_irrefl _)
    · exact hnone other (List.mem_reverse.1 hother)

/-- In order, the last of the newer sheets that says anything is the newest. -/
theorem IsNaming.latest {isKind : String → Bool} (hnaming : IsNaming nameOf isKind)
    (horderly : ∀ name ∈ names, IsOrderly name) (top : Stamp) (tells : String → Option String) :
    Latest names nameOf top tells
      ((((sorted names).filter (isNewer top.text)).filter isKind).reverse.findSome? tells) := by
  have hsorted : (((sorted names).filter (isNewer top.text)).filter isKind).Pairwise (· ≤ ·) :=
    (pairwise_le_mergeSort names).sublist (List.filter_sublist.trans List.filter_sublist)
  cases hfound : (((sorted names).filter (isNewer top.text)).filter isKind).reverse.findSome? tells with
  | none =>
    refine .silent fun s hs hlater => ?_
    have hmem := (hnaming.mem_newer_iff horderly).2 ⟨s, rfl, hs, hlater⟩
    exact List.findSome?_eq_none_iff.1 hfound _ (List.mem_reverse.2 hmem)
  | some value =>
    obtain ⟨sheet, hsheet, htells, hnone⟩ := exists_of_findSome?_reverse hsorted hfound
    obtain ⟨s, rfl, hs, hlater⟩ := (hnaming.mem_newer_iff horderly).1 hsheet
    refine .said hs hlater htells fun t ht hst => hnone _ ?_ (hnaming.lt hst)
    exact (hnaming.mem_newer_iff horderly).2 ⟨t, rfl, ht, Stamp.lt_trans hlater hst⟩

end Latest

/-! ## Loading -/

variable {σ : Type} {h : Handler services σ} {folder : Path} {R : σ → Prop} {s u : σ} {text : String} {top : Stamp}

/-- **A cached run goes by the newest of everything.** In a folder of orderly names, listed in any order, where the
report of the greatest stamp can be read, loading the stash gives that report. What is known of a campus ID, and of an
old SIS ID, is then what the newest sheet with a later stamp says that says anything about it, and without one what was
known before. -/
theorem load_orderly (hreads : ReadsAs h folder names replies R)
    (hlist : h (.listFolder folder) s = (.ok (.ok names), u)) (hu : R u)
    (horderly : ∀ name ∈ names, IsOrderly name) (htop : reportName top.text ∈ names)
    (hgreatest : ∀ s : Stamp, reportName s.text ∈ names → s ≤ top) (htext : replies (reportName top.text) = .ok text)
    (known : KnownIds) :
    ∃ known' t, R t ∧
      (load folder known).Yields h s (.ok (⟨Path.join folder (reportName top.text), text⟩, known')) t ∧
      (∀ uid, ∃ told, Latest names updatesName top (fun name => userSaid uid (replies name)) told ∧
        known'.users.get? uid = told.or (known.users.get? uid)) ∧
      ∀ old, ∃ told, Latest names renamesName top (fun name => renameSaid old (replies name)) told ∧
        known'.renames.get? old = told.or (known.renames.get? old) := by
  obtain ⟨t, ht, hy⟩ := yields_loaded hreads hlist hu known
  simp only [loaded, isNaming_report.getLast?_filter horderly htop hgreatest, htext, stampOf?_reportName,
    top.stampOf?_text] at hy
  exact ⟨_, t, ht, hy,
    fun uid => ⟨_, isNaming_updates.latest horderly top _, users_takeNewer replies top.text (sorted names) known uid⟩,
    fun old => ⟨_, isNaming_renames.latest horderly top _, renames_takeNewer replies top.text (sorted names) known old⟩⟩

/-- Serves one folder, listed in this order. -/
def folderHandler (folder : Path) (files : List (String × Except String String)) : Handler services Unit
  | .listFolder _, s => (.ok (.ok (files.map Prod.fst)), s)
  | .fileText path, s =>
    (.ok (((files.find? fun file => path = Path.join folder file.1).map Prod.snd).getD (.error "not found")), s)
  | _, s => (.error "only a folder is served", s)

namespace MarchStash

/-- A minute in March 2015. -/
def march (day hour minute : Fin 100) : Stamp := ⟨2015, 3, day, hour, minute⟩

/-- Two rows about one account. -/
def updates : Sheet .userImport :=
  .ofRows _ [.ofPairs _ [(.userId, "UID:2"), (.loginId, "inactive-2"), (.status, "active")],
    .ofPairs _ [(.userId, "UID:22"), (.loginId, "2"), (.status, "active")]]

def updatesText : String :=
  "user_id,login_id,first_name,last_name,email,status\nUID:2,inactive-2,,,,active\nUID:22,2,,,,active\n"

def renamesText : String := "old_id,new_id,old_integration_id,new_integration_id,type\n2345678,UID:2,,,user\n"

/-- The last sheet of account updates cannot be read. -/
def files : List (String × Except String String) :=
  [(updatesName (march 8 10 0).text, .error "permission denied"),
   (reportName (march 1 8 0).text, .ok "an older report"),
   (renamesName (march 8 9 30).text, .ok renamesText),
   (reportName (march 8 8 0).text, .ok "the newest report"),
   (updatesName (march 8 9 30).text, .ok updatesText),
   (updatesName (march 8 8 0).text, .ok
      "user_id,login_id,first_name,last_name,email,status\nUID:1,1,,,,active\n")]

def listing : List String := files.map Prod.fst

def handler : Handler services Unit := folderHandler "stash" files

def reply (name : String) : Except String String :=
  ((files.find? fun file => Path.join "stash" name = Path.join "stash" file.1).map Prod.snd).getD (.error "not found")

/-- One account is known before. -/
def known : KnownIds := { users := Keyed.ofList [("1", "UID:0")] }

theorem readsAs : ReadsAs handler "stash" listing reply fun _ => True := fun _ _ _ _ => ⟨(), trivial, rfl⟩

theorem isOrderly : ∀ name ∈ listing, IsOrderly name := by
  intro name hname
  simp only [listing, files, List.map_cons, List.map_nil, List.mem_cons, List.not_mem_nil, or_false] at hname
  rcases hname with rfl | rfl | rfl | rfl | rfl | rfl
  · exact .updates _
  · exact .report _
  · exact .renames _
  · exact .report _
  · exact .updates _
  · exact .updates _

/-- The names behind the newest report. -/
theorem newer_report :
    listing.filter (isNewer (march 8 8 0).text) = [updatesName (march 8 10 0).text, renamesName (march 8 9 30).text,
      updatesName (march 8 9 30).text] := by
  simp only [listing, files, List.map_cons, List.map_nil, List.filter_cons, List.filter_nil,
    isNaming_report.isNewer_eq, isNaming_updates.isNewer_eq, isNaming_renames.isNewer_eq]
  rfl

/-- The name behind the last sheets that can be read. -/
theorem newer_sheets : listing.filter (isNewer (march 8 9 30).text) = [updatesName (march 8 10 0).text] := by
  simp only [listing, files, List.map_cons, List.map_nil, List.filter_cons, List.filter_nil,
    isNaming_report.isNewer_eq, isNaming_updates.isNewer_eq, isNaming_renames.isNewer_eq]
  rfl

theorem le_of_report (s : Stamp) (hs : reportName s.text ∈ listing) : s ≤ march 8 8 0 := by
  refine Stamp.not_lt.1 fun hlt => ?_
  have hnewer := List.mem_filter.2 ⟨hs, isNaming_report.isNewer_iff.2 hlt⟩
  have hnone : ∀ name ∈ listing.filter (isNewer (march 8 8 0).text), isReport name = false := by
    simp [newer_report, isReport_updatesName, isReport_renamesName]
  exact Bool.eq_false_iff.1 (hnone _ hnewer) (isReport_reportName _)

/-- What the files say. -/
theorem replies_eq :
    reply (reportName (march 8 8 0).text) = .ok "the newest report" ∧
      reply (updatesName (march 8 10 0).text) = .error "permission denied" ∧
      userSaid "2" (reply (updatesName (march 8 9 30).text)) = some "UID:22" ∧
      userSaid "1" (reply (updatesName (march 8 9 30).text)) = none ∧
      renameSaid "2345678" (reply (renamesName (march 8 9 30).text)) = some "UID:2" := by
  have hreply : reply (updatesName (march 8 9 30).text) = .ok updatesText := by decide +kernel
  have hread : Sheet.readStrict .userImport updatesText = .ok updates := by decide +kernel
  simp only [hreply, userSaid, said, hread]
  exact ⟨by decide +kernel, by decide +kernel, by decide +kernel, by decide +kernel, by decide +kernel⟩

theorem said_of_newer {name : String} {k : Kind} (key value : Row k → String) (id : String)
    (hname : name ∈ listing.filter (isNewer (march 8 9 30).text)) : said k key value id (reply name) = none := by
  rw [newer_sheets, List.mem_singleton] at hname
  rw [hname, replies_eq.2.1]
  rfl

theorem latest_user :
    Latest listing updatesName (march 8 8 0) (fun name => userSaid "2" (reply name)) (some "UID:22") :=
  .said (s := march 8 9 30) (by simp [listing, files]) (by decide) replies_eq.2.2.1 fun _ ht hlater =>
    said_of_newer _ _ _ (List.mem_filter.2 ⟨ht, isNaming_updates.isNewer_iff.2 hlater⟩)

theorem latest_rename :
    Latest listing renamesName (march 8 8 0) (fun name => renameSaid "2345678" (reply name)) (some "UID:2") :=
  .said (s := march 8 9 30) (by simp [listing, files]) (by decide) replies_eq.2.2.2.2 fun _ ht hlater =>
    said_of_newer _ _ _ (List.mem_filter.2 ⟨ht, isNaming_renames.isNewer_iff.2 hlater⟩)

theorem latest_other : Latest listing updatesName (march 8 8 0) (fun name => userSaid "1" (reply name)) none := by
  refine .silent fun s hs hlater => ?_
  have hnewer := List.mem_filter.2 ⟨hs, isNaming_updates.isNewer_iff.2 hlater⟩
  simp only [newer_report, List.mem_cons, List.not_mem_nil, or_false] at hnewer
  rcases hnewer with hname | hname | hname
  · rw [hname, replies_eq.2.1]
    rfl
  · have hupdates := isUpdates_updatesName s.text
    rw [hname, isUpdates_renamesName (Stamp.isPlain_text _)] at hupdates
    cases hupdates
  · rw [hname]
    exact replies_eq.2.2.2.1

end MarchStash

open MarchStash in
/-- The last row about an account counts, the sheet after it cannot be read, and the sheet of the minute of the report
is passed over. -/
theorem load_orderly_march :
    ReadsAs handler "stash" listing reply (fun _ => True) ∧
      handler (.listFolder "stash") () = (.ok (.ok listing), ()) ∧ (∀ name ∈ listing, IsOrderly name) ∧
      reportName (march 8 8 0).text ∈ listing ∧ (∀ s : Stamp, reportName s.text ∈ listing → s ≤ march 8 8 0) ∧
      reply (reportName (march 8 8 0).text) = .ok "the newest report" ∧
      ∃ known' t,
        (load "stash" known).Yields handler ()
          (.ok (⟨Path.join "stash" (reportName (march 8 8 0).text), "the newest report"⟩, known')) t ∧
        known'.users.get? "2" = some "UID:22" ∧ known'.users.get? "1" = some "UID:0" ∧
        known'.renames.get? "2345678" = some "UID:2" := by
  have htop : reportName (march 8 8 0).text ∈ listing := by simp [listing, files]
  obtain ⟨known', t, -, hy, husers, hrenames⟩ :=
    load_orderly readsAs rfl trivial isOrderly htop le_of_report replies_eq.1 known
  refine ⟨readsAs, rfl, isOrderly, htop, le_of_report, replies_eq.1, known', t, hy, ?_, ?_, ?_⟩
  · obtain ⟨told, htold, hget⟩ := husers "2"
    rw [hget, htold.unique latest_user]
    rfl
  · obtain ⟨told, htold, hget⟩ := husers "1"
    rw [hget, htold.unique latest_other]
    rfl
  · obtain ⟨told, htold, hget⟩ := hrenames "2345678"
    rw [hget, htold.unique latest_rename]
    rfl

end Stash

end Registrar
