import Registrar.Proofs.Directory.StashNames
import Registrar.Proofs.Keyed
import Registrar.Proofs.World.Folder

/-!
# What the stash says

`Stash.loaded` is what a cached run makes of a folder: the report whose name is last, and what is known once the sheets
with a later stamp than the report's have been taken up, those that can be read (`yields_loaded`). Where every file can
be read, that is what the folder says (`Stash.found`). Loading the stash yields it (`yields_load`) and leaves the folder
alone. A campus ID is known after it only if it was known before or a sheet of account updates in the folder mentions it
(`users_found`).
-/

namespace Registrar

open Program

/-- A sheet of account updates, as a text, has a row that gives a SIS ID to a campus ID. -/
def Mentions (text uid id : String) : Prop :=
  ∃ sheet, Sheet.readStrict .userImport text = .ok sheet ∧
    ∃ r ∈ sheet.toList, CampusLogin.bare (r.get .loginId) = uid ∧ r.get .userId = id

namespace Stash

variable {σ : Type} {h : Handler services σ} {folder : Path} {holds : σ → Contents → Prop} {m : Contents} {s : σ}

/-- Takes up one sheet, unless its text cannot be read. -/
def takeUp (k : Kind) (learn : KnownIds → Sheet k → KnownIds) (known : KnownIds) (text : String) : KnownIds :=
  match Sheet.readStrict k text with
  | .ok sheet => learn known sheet
  | .error _ => known

/-- Takes up one sheet, unless its file or its text cannot be read. -/
def takeReply (k : Kind) (learn : KnownIds → Sheet k → KnownIds) (known : KnownIds) : Except String String → KnownIds
  | .error _ => known
  | .ok text => takeUp k learn known text

/-- What is known once the sheets that are later than a stamp have been taken up. -/
def takeNewer (replies : String → Except String String) (stamp : String) (names : List String) (known : KnownIds) :
    KnownIds :=
  let newer := names.filter (isNewer stamp)
  let known := (newer.filter isUpdates).foldl
    (fun known name => takeReply .userImport learnUpdates known (replies name)) known
  (newer.filter isRenames).foldl (fun known name => takeReply .sisIdChanges learnRenames known (replies name)) known

/-- What is made of a folder that is listed by these names and read with these replies. -/
def loaded (folder : Path) (replies : String → Except String String) (names : List String) (known : KnownIds) :
    Except Failure (CachedReport × KnownIds) :=
  match ((sorted names).filter isReport).getLast? with
  | none => .error (.noStashedReport folder)
  | some name =>
    match replies name with
    | .error reason => .error (.fileUnread (Path.join folder name) reason)
    | .ok text =>
      .ok (⟨Path.join folder name, text⟩,
        match stampOf? name with
        | none => known
        | some stamp => takeNewer replies stamp (sorted names) known)

/-- What is known once the sheets of a folder that are later than a stamp have been taken up. -/
def takeUpNewer (m : Contents) (stamp : String) (names : List String) (known : KnownIds) : KnownIds :=
  let newer := names.filter (isNewer stamp)
  let known := (newer.filter isUpdates).foldl
    (fun known name => takeUp .userImport learnUpdates known ((m name).getD "")) known
  (newer.filter isRenames).foldl (fun known name => takeUp .sisIdChanges learnRenames known ((m name).getD "")) known

/-- What a folder says when it is listed by these names. -/
def found (folder : Path) (m : Contents) (names : List String) (known : KnownIds) :
    Except Failure (CachedReport × KnownIds) :=
  match ((sorted names).filter isReport).getLast? with
  | none => .error (.noStashedReport folder)
  | some name =>
    .ok (⟨Path.join folder name, (m name).getD ""⟩,
      match stampOf? name with
      | none => known
      | some stamp => takeUpNewer m stamp (sorted names) known)

/-- A folder all of whose files can be read says what is made of their texts. -/
theorem found_eq_loaded (folder : Path) (m : Contents) (names : List String) (known : KnownIds) :
    found folder m names known = loaded folder (fun name => .ok ((m name).getD "")) names known := by
  unfold found loaded
  cases ((sorted names).filter isReport).getLast? with
  | none => rfl
  | some name => rfl

/-! ## Loading -/

/-- The files of a folder are read with these replies, as long as `R` holds, and reading keeps it so. -/
def ReadsAs (h : Handler services σ) (folder : Path) (names : List String) (replies : String → Except String String)
    (R : σ → Prop) : Prop :=
  ∀ s, R s → ∀ name ∈ names, ∃ t, R t ∧ h (.fileText (Path.join folder name)) s = (.ok (replies name), t)

section ReadsAs

variable {names : List String} {replies : String → Except String String} {R : σ → Prop}

theorem yields_learnFrom (hreads : ReadsAs h folder names replies R) (hs : R s) {k : Kind} (what : String)
    (learn : KnownIds → Sheet k → KnownIds) (known : KnownIds) {name : String} (hname : name ∈ names) :
    ∃ t, R t ∧ (learnFrom k what learn folder known name).Yields h s (takeReply k learn known (replies name)) t := by
  obtain ⟨t, ht, hread⟩ := hreads s hs name hname
  refine ⟨t, ht, (yields_log _ h s).bind ?_⟩
  cases hreply : replies name with
  | error reason =>
    rw [hreply] at hread
    have hsheet : (readSheet k (Path.join folder name)).Yields h s
        (.error (.callFailed (.readFile (Path.join folder name)) reason)) t :=
      (yields_ask hread).bind (yields_pure _ h t)
    exact hsheet.bind ((yields_log _ h t).bind (yields_pure _ h t))
  | ok text =>
    rw [hreply] at hread
    have hsheet : (readSheet k (Path.join folder name)).Yields h s (Sheet.readStrict k text) t :=
      (yields_ask hread).bind (yields_pure _ h t)
    refine hsheet.bind ?_
    rw [takeReply, takeUp]
    cases Sheet.readStrict k text with
    | ok sheet => exact yields_pure _ h t
    | error failure => exact (yields_log _ h t).bind (yields_pure _ h t)

theorem yields_foldList_learnFrom (hreads : ReadsAs h folder names replies R) (hs : R s) {k : Kind} (what : String)
    (learn : KnownIds → Sheet k → KnownIds) (known : KnownIds) {some : List String} (hsome : some ⊆ names) :
    ∃ t, R t ∧ (foldList (learnFrom k what learn folder) known some).Yields h s
      (some.foldl (fun known name => takeReply k learn known (replies name)) known) t := by
  induction some generalizing s known with
  | nil => exact ⟨s, hs, yields_foldList_nil _ _ h s⟩
  | cons name rest ih =>
    obtain ⟨t, ht, hfirst⟩ := yields_learnFrom hreads hs what learn known (hsome List.mem_cons_self)
    obtain ⟨u, hu, hrest⟩ := ih ht (takeReply k learn known (replies name))
      fun other hother => hsome (List.mem_cons_of_mem _ hother)
    exact ⟨u, hu, hfirst.foldList hrest⟩

theorem yields_learnNewer (hreads : ReadsAs h folder names replies R) (hs : R s) (stamp : String)
    {some : List String} (hsome : some ⊆ names) (known : KnownIds) :
    ∃ t, R t ∧ (learnNewer folder stamp some known).Yields h s (takeNewer replies stamp some known) t := by
  have hnewer : ∀ p : String → Bool, (some.filter (isNewer stamp)).filter p ⊆ names :=
    fun p name hname => hsome (List.mem_filter.1 (List.mem_filter.1 hname).1).1
  obtain ⟨t, ht, hupdates⟩ := yields_foldList_learnFrom hreads hs "user update" learnUpdates known (hnewer isUpdates)
  obtain ⟨u, hu, hrenames⟩ := yields_foldList_learnFrom hreads ht "SIS id update" learnRenames _ (hnewer isRenames)
  exact ⟨u, hu, hupdates.bind hrenames⟩

/-- Loading the stash yields what is made of the listing and the replies. -/
theorem yields_loaded (hreads : ReadsAs h folder names replies R) {u : σ}
    (hlist : h (.listFolder folder) s = (.ok (.ok names), u)) (hu : R u) (known : KnownIds) :
    ∃ t, R t ∧ (load folder known).Yields h s (loaded folder replies names known) t := by
  suffices hrest : ∃ t, R t ∧ Yields _ h u (loaded folder replies names known) t by
    obtain ⟨t, ht, hy⟩ := hrest
    exact ⟨t, ht, (yields_ask hlist).bind hy⟩
  dsimp only
  unfold loaded
  have hsorted : sorted names ⊆ names := fun name hname => mem_sorted.1 hname
  cases hlast : ((sorted names).filter isReport).getLast? with
  | none => exact ⟨u, hu, yields_pure _ h u⟩
  | some name =>
    have hname : name ∈ sorted names := (List.mem_filter.1 (List.mem_of_getLast? hlast)).1
    obtain ⟨v, hv, hread⟩ := hreads u hu name (hsorted hname)
    dsimp only
    cases hreply : replies name with
    | error reason =>
      rw [hreply] at hread
      exact ⟨v, hv, (yields_log _ h u).bind ((yields_ask hread).bind (yields_pure _ h v))⟩
    | ok text =>
      rw [hreply] at hread
      suffices hrest : ∃ t, R t ∧ Yields _ h v _ t by
        obtain ⟨t, ht, hy⟩ := hrest
        exact ⟨t, ht, (yields_log _ h u).bind ((yields_ask hread).bind hy)⟩
      dsimp only
      cases hstamp : stampOf? name with
      | none => exact ⟨v, hv, (yields_pure known h v).bind (yields_pure _ h v)⟩
      | some stamp =>
        obtain ⟨t, ht, hnewer⟩ := yields_learnNewer hreads hv stamp hsorted known
        exact ⟨t, ht, hnewer.bind (yields_pure _ h t)⟩

end ReadsAs

theorem readsAs_of_servesFolder (hserves : ServesFolder h folder holds) {names : List String}
    (hnames : ∀ name ∈ names, (m name).isSome = true) :
    ReadsAs h folder names (fun name => .ok ((m name).getD "")) (holds · m) := by
  intro s hs name hname
  have htext : m name = some ((m name).getD "") := by
    obtain ⟨text, htext⟩ := Option.isSome_iff_exists.1 (hnames name hname)
    rw [htext]
    rfl
  exact ⟨(h (.fileText (Path.join folder name)) s).2, hserves.keep hs rfl, Prod.ext (hserves.read hs htext) rfl⟩

/-- Loading the stash yields what the folder says. -/
theorem yields_load (hserves : ServesFolder h folder holds) (hs : holds s m) (known : KnownIds) :
    ∃ t, holds t m ∧
      ((∃ names, (∀ name, name ∈ names ↔ (m name).isSome = true) ∧
          (load folder known).Yields h s (found folder m names known) t) ∨
        ∃ failure, m = .empty ∧ (load folder known).Yields h s (.error failure) t) := by
  have hkeep : holds (h (.listFolder folder) s).2 m := hserves.keep hs rfl
  rcases hserves.list hs with ⟨names, hlist, hmem⟩ | ⟨reason, hlist, hempty⟩
  · have hreads := readsAs_of_servesFolder (m := m) hserves fun name => (hmem name).1
    obtain ⟨t, ht, hy⟩ := yields_loaded hreads (Prod.ext hlist rfl) hkeep known
    exact ⟨t, ht, .inl ⟨names, hmem, found_eq_loaded folder m names known ▸ hy⟩⟩
  · have hask : (Action.listFolder folder).Yields h s (.error reason) (h (.listFolder folder) s).2 :=
      yields_ask (Prod.ext hlist rfl)
    exact ⟨_, hkeep, .inr ⟨_, hempty, hask.bind (yields_pure _ h _)⟩⟩

/-! ## What is known after it -/

variable {known : KnownIds} {uid id text : String}

/-- The last row about a campus ID says which SIS ID it is known by. -/
theorem users_learnUpdates (known : KnownIds) (sheet : Sheet .userImport) (uid : String) :
    (learnUpdates known sheet).users.get? uid =
      ((sheet.toList.filter fun r => CampusLogin.bare (r.get .loginId) = uid).getLast?.map (Row.get · .userId)).or
        (known.users.get? uid) := by
  rw [← Keyed.get?_foldl_insert]
  exact congrArg (Keyed.get? · uid) (List.foldl_hom KnownIds.users fun _ _ => rfl).symm

/-- The last row about an old SIS ID says what it was replaced by. -/
theorem renames_learnRenames (known : KnownIds) (sheet : Sheet .sisIdChanges) (old : String) :
    (learnRenames known sheet).renames.get? old =
      ((sheet.toList.filter fun r => r.get .oldId = old).getLast?.map (Row.get · .newId)).or
        (known.renames.get? old) := by
  rw [← Keyed.get?_foldl_insert]
  exact congrArg (Keyed.get? · old) (List.foldl_hom KnownIds.renames fun _ _ => rfl).symm

theorem users_takeUp (h : (takeUp .userImport learnUpdates known text).users.get? uid = some id) :
    Mentions text uid id ∨ known.users.get? uid = some id := by
  unfold takeUp at h
  split at h
  · rename_i sheet hread
    rw [users_learnUpdates, Option.or_eq_some_iff] at h
    rcases h with h | ⟨-, h⟩
    · obtain ⟨r, hr, hid⟩ := Option.map_eq_some_iff.1 h
      obtain ⟨hmem, huid⟩ := List.mem_filter.1 (List.mem_of_getLast? hr)
      exact .inl ⟨sheet, hread, r, hmem, of_decide_eq_true huid, hid⟩
    · exact .inr h
  · exact .inr h

/-- A campus ID that a sheet mentions is known by what the sheet says about it. -/
theorem exists_users_takeUp (h : Mentions text uid id) (known : KnownIds) :
    ∃ id', Mentions text uid id' ∧ (takeUp .userImport learnUpdates known text).users.get? uid = some id' := by
  obtain ⟨sheet, hread, r, hmem, huid, -⟩ := h
  have hne : (sheet.toList.filter fun r => CampusLogin.bare (r.get .loginId) = uid) ≠ [] :=
    List.ne_nil_of_mem (List.mem_filter.2 ⟨hmem, decide_eq_true huid⟩)
  obtain ⟨last, hlast⟩ := Option.isSome_iff_exists.1 (List.getLast?_isSome.2 hne)
  obtain ⟨hmem', huid'⟩ := List.mem_filter.1 (List.mem_of_getLast? hlast)
  refine ⟨last.get .userId, ⟨sheet, hread, last, hmem', of_decide_eq_true huid', rfl⟩, ?_⟩
  simp only [takeUp, hread]
  rw [users_learnUpdates, hlast]
  rfl

theorem isSome_users_takeUp (text : String) (h : (known.users.get? uid).isSome = true) :
    ((takeUp .userImport learnUpdates known text).users.get? uid).isSome = true := by
  unfold takeUp
  split
  · rw [users_learnUpdates, Option.isSome_or, h, Bool.or_true]
  · exact h

/-- What no step changes, none of them changes. -/
theorem foldl_kept {α β γ : Type} {step : β → α → β} (view : β → γ) (h : ∀ b a, view (step b a) = view b)
    (items : List α) (b : β) : view (items.foldl step b) = view b := by
  induction items generalizing b with
  | nil => rfl
  | cons a rest ih => rw [List.foldl_cons, ih, h]

theorem users_takeUp_renames (known : KnownIds) (text : String) :
    (takeUp .sisIdChanges learnRenames known text).users = known.users := by
  unfold takeUp learnRenames
  split
  · refine foldl_kept KnownIds.users ?_ _ known
    exact fun _ _ => rfl
  · rfl

theorem renames_takeUp_updates (known : KnownIds) (text : String) :
    (takeUp .userImport learnUpdates known text).renames = known.renames := by
  unfold takeUp learnUpdates
  split
  · refine foldl_kept KnownIds.renames ?_ _ known
    exact fun _ _ => rfl
  · rfl

/-- Only sheets of account updates say by which SIS IDs campus IDs are known. -/
theorem users_takeUpNewer (m : Contents) (stamp : String) (names : List String) (known : KnownIds) :
    (takeUpNewer m stamp names known).users =
      (((names.filter (isNewer stamp)).filter isUpdates).foldl
        (fun known name => takeUp .userImport learnUpdates known ((m name).getD "")) known).users :=
  foldl_kept KnownIds.users (fun known name => users_takeUp_renames known ((m name).getD "")) _ _

theorem users_foldl_takeUp {m : Contents} {names : List String}
    (h : (names.foldl (fun known name => takeUp .userImport learnUpdates known ((m name).getD "")) known).users.get?
      uid = some id) :
    (∃ name ∈ names, Mentions ((m name).getD "") uid id) ∨ known.users.get? uid = some id := by
  induction names generalizing known with
  | nil => exact .inr h
  | cons name rest ih =>
    rcases ih h with ⟨other, hother, hmentions⟩ | h
    · exact .inl ⟨other, List.mem_cons_of_mem _ hother, hmentions⟩
    · exact (users_takeUp h).imp_left fun hmentions => ⟨name, List.mem_cons_self, hmentions⟩

/-- Sheets that agree about a campus ID make it known, if one of them mentions it or it was known like that before. -/
theorem users_foldl_takeUp_of_agree {m : Contents} {names : List String}
    (hagree : ∀ name ∈ names, ∀ id', Mentions ((m name).getD "") uid id' → id' = id)
    (h : known.users.get? uid = some id ∨ ∃ name ∈ names, Mentions ((m name).getD "") uid id) :
    (names.foldl (fun known name => takeUp .userImport learnUpdates known ((m name).getD "")) known).users.get? uid =
      some id := by
  induction names generalizing known with
  | nil =>
    rcases h with h | ⟨name, hname, -⟩
    · exact h
    · cases hname
  | cons first rest ih =>
    refine ih (fun name hname => hagree name (List.mem_cons_of_mem _ hname)) ?_
    rcases h with h | ⟨name, hname, hmentions⟩
    · obtain ⟨id', hid'⟩ := Option.isSome_iff_exists.1
        (isSome_users_takeUp ((m first).getD "") (Option.isSome_of_eq_some h))
      rcases users_takeUp hid' with hmentions | hbefore
      · obtain rfl := hagree first List.mem_cons_self id' hmentions
        exact .inl hid'
      · exact .inl (hid'.trans (hbefore.symm.trans h))
    · rcases List.mem_cons.1 hname with rfl | hname
      · obtain ⟨id', hmentions', hid'⟩ := exists_users_takeUp hmentions known
        obtain rfl := hagree name List.mem_cons_self id' hmentions'
        exact .inl hid'
      · exact .inr ⟨name, hname, hmentions⟩

/-- A campus ID is known after loading because it was known before or because a sheet in the folder mentions it. -/
theorem users_found {names : List String} {report : CachedReport} {known' : KnownIds}
    (h : found folder m names known = .ok (report, known')) (huser : known'.users.get? uid = some id) :
    (∃ name ∈ names, isUpdates name = true ∧ Mentions ((m name).getD "") uid id) ∨
      known.users.get? uid = some id := by
  unfold found at h
  split at h
  · cases h
  · rename_i last _
    obtain ⟨-, rfl⟩ := Prod.mk.inj (Except.ok.inj h)
    cases hstamp : stampOf? last with
    | none =>
      rw [hstamp] at huser
      exact .inr huser
    | some stamp =>
      simp only [hstamp] at huser
      rw [users_takeUpNewer] at huser
      refine (users_foldl_takeUp huser).imp_left ?_
      rintro ⟨name, hname, hmentions⟩
      obtain ⟨hnewer, hupdates⟩ := List.mem_filter.1 hname
      exact ⟨name, List.mem_mergeSort.1 (List.mem_filter.1 hnewer).1, hupdates, hmentions⟩

end Stash

end Registrar
