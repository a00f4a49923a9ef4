import Mathlib.Logic.Function.Basic
import Registrar.Proofs.Path
import Registrar.Proofs.World.Exchanges
import Registrar.World.Memory

/-!
# Folders

What is assumed of the services about one folder (`ServesFolder`): it is listed by the names of its files, a file reads
as the text that was written last, every write is accepted, and no other call changes it. So what a run leaves in the
folder is known from the files that it wrote (`ServesFolder.holds_of_yields`).

The services in memory serve every folder that has a path (`servesFolder_memory`). If they accept everything, nothing
disturbs a run (`AcceptsAll.undisturbed`).
-/

namespace Registrar

/-- The text of each file of a folder. -/
abbrev Contents := String → Option String

namespace Contents

/-- A folder without files. -/
def empty : Contents := fun _ => none

/-- A folder once a file was written. -/
def put (m : Contents) (file : String × String) : Contents := Function.update m file.1 (some file.2)

/-- A folder once files were written one after the other. -/
def putAll (m : Contents) (files : List (String × String)) : Contents := files.foldl put m

theorem get_put (m : Contents) (file : String × String) (name : String) :
    m.put file name = if name = file.1 then some file.2 else m name := by
  unfold put
  by_cases h : name = file.1
  · subst h
    rw [Function.update_self, if_pos rfl]
  · rw [Function.update_of_ne h, if_neg h]

variable {m : Contents} {files : List (String × String)} {name text : String}

theorem putAll_cons (m : Contents) (file : String × String) (rest : List (String × String)) :
    m.putAll (file :: rest) = (m.put file).putAll rest := rfl

theorem putAll_append (m : Contents) (files more : List (String × String)) :
    m.putAll (files ++ more) = (m.putAll files).putAll more := List.foldl_append

/-- A file that was not put is the one that was there. -/
theorem putAll_of_not_mem (h : name ∉ files.map Prod.fst) : m.putAll files name = m name := by
  induction files generalizing m with
  | nil => rfl
  | cons file rest ih =>
    rw [List.map_cons, List.mem_cons, not_or] at h
    rw [putAll_cons, ih h.2, get_put, if_neg h.1]

theorem putAll_of_mem (hnodup : (files.map Prod.fst).Nodup) (h : (name, text) ∈ files) :
    m.putAll files name = some text := by
  induction files generalizing m with
  | nil => cases h
  | cons file rest ih =>
    rw [List.map_cons, List.nodup_cons] at hnodup
    rw [putAll_cons]
    rcases List.mem_cons.1 h with rfl | h
    · rw [putAll_of_not_mem hnodup.1, get_put, if_pos rfl]
    · exact ih hnodup.2 h

/-- What a folder holds after files were put was put or was there. -/
theorem mem_or_of_putAll (h : m.putAll files name = some text) : (name, text) ∈ files ∨ m name = some text := by
  induction files generalizing m with
  | nil => exact .inr h
  | cons file rest ih =>
    rcases ih h with hmem | hput
    · exact .inl (List.mem_cons_of_mem _ hmem)
    · rw [get_put] at hput
      split at hput
      · rename_i hname
        cases hput
        rw [hname]
        exact .inl List.mem_cons_self
      · exact .inr hput

theorem isSome_putAll : (m.putAll files name).isSome = true ↔ name ∈ files.map Prod.fst ∨ (m name).isSome = true := by
  induction files generalizing m with
  | nil => simp [putAll]
  | cons file rest ih =>
    rw [putAll_cons, ih, get_put, List.map_cons, List.mem_cons]
    split
    · rename_i hname
      simp [hname]
    · rename_i hname
      simp [hname]

end Contents

/-- The file that a call writes. -/
def Service.file? : Service → Option (Path × String)
  | writeFile path contents => some (path, contents)
  | _ => none

/-- The sheet that a call submits. -/
def Service.sheet? : Service → Option String
  | importSheet text => some text
  | _ => none

variable {σ α : Type} {h : Handler services σ} {folder : Path} {holds : σ → Contents → Prop}

/-- The services serve a folder: `holds s m` says that in the state `s` the folder holds `m`. -/
structure ServesFolder (h : Handler services σ) (folder : Path) (holds : σ → Contents → Prop) : Prop where
  /-- A folder is listed by the names of its files; only one without files may be unlisted. -/
  list {s : σ} {m : Contents} (hs : holds s m) :
    (∃ names, (h (.listFolder folder) s).1 = .ok (.ok names) ∧ ∀ name, name ∈ names ↔ (m name).isSome = true) ∨
      ∃ reason, (h (.listFolder folder) s).1 = .ok (.error reason) ∧ m = .empty
  read {s : σ} {m : Contents} {name text : String} (hs : holds s m) (hname : m name = some text) :
    (h (.fileText (Path.join folder name)) s).1 = .ok (.ok text)
  write {s : σ} {m : Contents} {name : String} (text : String) (hs : holds s m) (hname : Path.IsName name) :
    (h (.writeFile (Path.join folder name) text) s).1 = .ok (.ok ()) ∧
      holds (h (.writeFile (Path.join folder name) text) s).2 (m.put (name, text))
  keep {s : σ} {m : Contents} {c : Service} (hs : holds s m) (hc : c.file? = none) : holds (h c s).2 m

/-- The file that an exchange writes. -/
def Exchange.file? (e : Exchange services) : Option (Path × String) := Service.file? e.call

/-- The sheet that an exchange submits. -/
def Exchange.sheet? (e : Exchange services) : Option String := Service.sheet? e.call

/-- The files that were written, in order. -/
def filesOf (exchanges : List (Exchange services)) : List (Path × String) := exchanges.filterMap Exchange.file?

/-- The sheets that were submitted, in order. -/
def sheetsOf (exchanges : List (Exchange services)) : List String := exchanges.filterMap Exchange.sheet?

theorem mem_sheetsOf {exchanges : List (Exchange services)} {text : String} :
    text ∈ sheetsOf exchanges ↔ ∃ reply, (⟨.importSheet text, reply⟩ : Exchange services) ∈ exchanges := by
  rw [sheetsOf, List.mem_filterMap]
  constructor
  · rintro ⟨⟨c, reply⟩, hmem, hc⟩
    cases c <;> cases hc
    exact ⟨reply, hmem⟩
  · rintro ⟨reply, hmem⟩
    exact ⟨_, hmem, rfl⟩

/-- The reading of the clock in an exchange. -/
def Exchange.clock? : Exchange services → Option Instant
  | ⟨.now, t⟩ => some t
  | _ => none

/-- The first reading of the clock. -/
def timeOf? (exchanges : List (Exchange services)) : Option Instant := exchanges.findSome? Exchange.clock?

theorem timeOf?_freshId_bind {s t : σ} {runId : String} {f : String → Action α}
    (hy : Action.freshId.Yields h s runId t) :
    timeOf? ((Action.freshId >>= f).exchanges h s) = timeOf? ((f runId).exchanges h t) := by
  have htime := congrArg timeOf? (Program.exchanges_ask_bind (f := f) hy)
  exact htime

theorem timeOf?_now_bind {s t : σ} {now : Instant} {f : Instant → Action α} (hy : Action.now.Yields h s now t) :
    timeOf? ((Action.now >>= f).exchanges h s) = some now := by
  have htime := congrArg timeOf? (Program.exchanges_ask_bind (f := f) hy)
  exact htime

/-- A call that writes no file and submits no sheet. -/
def Service.IsQuiet (c : Service) : Prop := c.file? = none ∧ c.sheet? = none

/-- Exchanges that wrote these files of a folder and submitted these sheets, in order. -/
structure Leaves (folder : Path) (exchanges : List (Exchange services)) (files : List (String × String))
    (sheets : List String) : Prop where
  files : filesOf exchanges = files.map fun (name, text) => (Path.join folder name, text)
  sheets : sheetsOf exchanges = sheets

/-- Every file was written and every sheet was accepted. -/
structure Undisturbed (exchanges : List (Exchange services)) : Prop where
  written {path : Path} {text : String} {reply : Except String Unit}
    (h : (⟨.writeFile path text, reply⟩ : Exchange services) ∈ exchanges) : reply = .ok ()
  accepted {text : String} {reply : Except String Unit}
    (h : (⟨.importSheet text, reply⟩ : Exchange services) ∈ exchanges) : reply = .ok ()

section Leaves

variable {β : Type} {s t : σ} {a : α} {p : Action α} {files files' : List (String × String)}
  {sheets sheets' : List String}

theorem Leaves.bind {f : α → Action β} (hy : p.Yields h s a t) (hp : Leaves folder (p.exchanges h s) files sheets)
    (hf : Leaves folder ((f a).exchanges h t) files' sheets') :
    Leaves folder ((p >>= f).exchanges h s) (files ++ files') (sheets ++ sheets') := by
  rw [hy.exchanges_bind]
  constructor
  · rw [filesOf, List.filterMap_append, ← filesOf, ← filesOf, hp.files, hf.files, List.map_append]
  · rw [sheetsOf, List.filterMap_append, ← sheetsOf, ← sheetsOf, hp.sheets, hf.sheets]

theorem leaves_of_asks (hp : p.Asks Service.IsQuiet) : Leaves folder (p.exchanges h s) [] [] where
  files := List.filterMap_eq_nil_iff.2 fun e he => (hp.of_mem_exchanges e he).1
  sheets := List.filterMap_eq_nil_iff.2 fun e he => (hp.of_mem_exchanges e he).2

theorem Leaves.mem_files (hl : Leaves folder (p.exchanges h s) files sheets) {file : String × String}
    (hfile : file ∈ files) :
    ∃ reply, (⟨.writeFile (Path.join folder file.1) file.2, reply⟩ : Exchange services) ∈ p.exchanges h s := by
  have hmem : (Path.join folder file.1, file.2) ∈ filesOf (p.exchanges h s) := by
    rw [hl.files]
    exact List.mem_map.2 ⟨file, hfile, rfl⟩
  obtain ⟨⟨c, reply⟩, hmem, hc⟩ := List.mem_filterMap.1 hmem
  cases c <;> cases hc
  exact ⟨reply, hmem⟩

end Leaves

namespace ServesFolder

open Program

variable {s t : σ} {m : Contents} {a : α}

/-- What a run leaves in the folder is what it held, with the files that the run wrote. -/
theorem holds_of_yields (hserves : ServesFolder h folder holds) {p : Action α} {files : List (String × String)}
    {sheets : List String} (hy : p.Yields h s a t) (hs : holds s m) (hnames : ∀ file ∈ files, Path.IsName file.1)
    (hleaves : Leaves folder (p.exchanges h s) files sheets) : holds t (m.putAll files) := by
  have hwritten := hleaves.files
  clear hleaves
  induction p generalizing s m files with
  | done b =>
    rw [← hy.state]
    cases files with
    | nil => exact hs
    | cons file rest => cases hwritten
  | note line next ih => exact ih ⟨hy.result, hy.state⟩ hs hnames hwritten
  | call c next ih =>
    obtain ⟨hresult, hstate⟩ := hy
    obtain ⟨reply, u, hc⟩ : ∃ reply u, h c s = (reply, u) := ⟨_, _, rfl⟩
    have hu : (h c s).2 = u := congrArg Prod.snd hc
    cases reply with
    | error halt =>
      simp only [run, hc] at hresult
      cases hresult
    | ok reply =>
      simp only [run, hc] at hresult hstate
      simp only [exchanges, hc] at hwritten
      cases hfile : Service.file? c with
      | none =>
        have hnone : Exchange.file? ⟨c, reply⟩ = none := hfile
        rw [filesOf, List.filterMap_cons_none hnone] at hwritten
        exact ih reply ⟨hresult, hstate⟩ (hu ▸ hserves.keep hs hfile) hnames hwritten
      | some file =>
        have hsome : Exchange.file? ⟨c, reply⟩ = some file := hfile
        rw [filesOf, List.filterMap_cons_some hsome] at hwritten
        cases files with
        | nil => cases hwritten
        | cons first rest =>
          rw [List.map_cons, List.cons.injEq] at hwritten
          obtain ⟨rfl, hrest⟩ := hwritten
          obtain rfl : c = .writeFile (Path.join folder first.1) first.2 := by
            cases c <;> cases hfile
            rfl
          have hput : holds u (m.put first) := hu ▸ (hserves.write first.2 hs (hnames first List.mem_cons_self)).2
          have hnames' := fun file hmem => hnames file (List.mem_cons_of_mem first hmem)
          show holds t ((m.put first).putAll rest)
          exact ih reply ⟨hresult, hstate⟩ hput hnames' hrest

end ServesFolder

/-! ## Services in memory -/

namespace FileStore

theorem same_iff {p q : Path} : same p q = true ↔ Path.components p = Path.components q := decide_eq_true_iff

theorem text?_isSome_iff {s : FileStore} {p : Path} :
    (s.text? p).isSome = true ↔ ∃ q text, (q, text) ∈ s.files ∧ Path.components q = Path.components p := by
  rw [text?, Option.isSome_map, List.find?_isSome]
  constructor
  · rintro ⟨⟨q, text⟩, hmem, hsame⟩
    exact ⟨q, text, hmem, (same_iff.1 hsame).symm⟩
  · rintro ⟨q, text, hmem, hsame⟩
    exact ⟨(q, text), hmem, same_iff.2 hsame.symm⟩

/-- Another spelling of a path names the same file. -/
theorem text?_congr {s : FileStore} {p q : Path} (h : Path.components p = Path.components q) :
    s.text? p = s.text? q := by
  simp only [text?, same, h]

/-- The text of a file once another text was stored in its place. -/
theorem find?_replaced (files : List (Path × String)) (p q : Path) (text : String) :
    ((files.map fun (r, t) => if same p r then (r, text) else (r, t)).find? fun (r, _) => same q r).map Prod.snd =
      (files.find? fun (r, _) => same q r).map fun file =>
        if Path.components q = Path.components p then text else file.2 := by
  induction files with
  | nil => rfl
  | cons file rest ih =>
    obtain ⟨r, t⟩ := file
    have hkey : (if same p r then (r, text) else (r, t)).1 = r := by split <;> rfl
    rw [List.map_cons, List.find?_cons, List.find?_cons]
    simp only [hkey]
    by_cases hqr : same q r = true
    · rw [hqr]
      by_cases hqp : Path.components q = Path.components p
      · have hpr : same p r = true := same_iff.2 (hqp.symm.trans (same_iff.1 hqr))
        simp [hpr, hqp]
      · have hpr : ¬ same p r = true := fun h => hqp ((same_iff.1 hqr).trans (same_iff.1 h).symm)
        simp [hpr, hqp]
    · rw [Bool.not_eq_true] at hqr
      rw [hqr]
      exact ih

theorem write_eq {s : FileStore} (hs : s.unwritable = []) (p : Path) (text : String) :
    s.write p text = (.ok (), { s with
      files := if (s.text? p).isSome then s.files.map fun (q, t) => if same p q then (q, text) else (q, t)
        else s.files ++ [(p, text)]
      written := p :: s.written }) := by
  rw [write, if_neg (by simp [hs])]

theorem text?_write {s : FileStore} (hs : s.unwritable = []) (p q : Path) (text : String) :
    (s.write p text).2.text? q = if Path.components q = Path.components p then some text else s.text? q := by
  rw [write_eq hs]
  by_cases hp : (s.text? p).isSome = true
  · simp only [hp, if_true]
    rw [text?, find?_replaced]
    split
    · rename_i hqp
      rw [← text?_congr hqp, text?, Option.isSome_map] at hp
      obtain ⟨file, hfile⟩ := Option.isSome_iff_exists.1 hp
      rw [hfile, Option.map_some]
    · rfl
  · have hnone : s.text? p = none := by simpa using hp
    show ((if (s.text? p).isSome = true then _ else s.files ++ [(p, text)]).find? fun (r, _) => same q r).map
      Prod.snd = _
    rw [if_neg hp, List.find?_append, Option.map_or]
    show (s.text? q).or _ = _
    by_cases hqp : Path.components q = Path.components p
    · rw [text?_congr hqp, hnone]
      simp [same, hqp]
    · simp [same, hqp]

end FileStore

namespace World

theorem answers_handler : Answers handler := fun _ _ => ⟨_, rfl⟩

/-- In memory, a folder holds these files, every file can be read and written, and the campus feed is `feed`. -/
structure Holds (folder : Path) (feed : CampusFeed) (w : World) (m : Contents) : Prop where
  unreadable : w.files.unreadable = []
  unwritable : w.files.unwritable = []
  campus : w.campus = feed
  contents (name : String) : m name = if Path.IsName name then w.files.text? (Path.join folder name) else none

variable {feed : CampusFeed} {w : World} {m : Contents} {name : String}

theorem Holds.isSome_iff (hw : Holds folder feed w m) (hfolder : Path.components folder ≠ []) :
    (m name).isSome = true ↔
      ∃ q text, (q, text) ∈ w.files.files ∧ Path.components q = Path.components folder ++ [name] := by
  rw [hw.contents]
  split
  · rename_i hname
    rw [FileStore.text?_isSome_iff, Path.components_join hname]
  · rename_i hname
    simp only [Option.isSome_none, Bool.false_eq_true, false_iff]
    rintro ⟨q, text, -, hq⟩
    exact hname (Path.isName_of_components hq hfolder)

theorem Holds.list (hw : Holds folder feed w m) (hfolder : Path.components folder ≠ []) :
    (∃ names, w.files.list folder = .ok names ∧ ∀ name, name ∈ names ↔ (m name).isSome = true) ∨
      ∃ reason, w.files.list folder = .error reason ∧ m = .empty := by
  have hinside : ∀ name, name ∈ (w.files.files.filterMap fun (q, _) =>
      if (Path.components q).dropLast = Path.components folder then (Path.components q).getLast? else none) ↔
        (m name).isSome = true := by
    intro name
    rw [hw.isSome_iff hfolder, List.mem_filterMap]
    constructor
    · rintro ⟨⟨q, text⟩, hmem, hq⟩
      obtain ⟨hfront, hq⟩ := Option.ite_none_right_eq_some.1 hq
      obtain ⟨front, hlast⟩ := List.getLast?_eq_some_iff.1 hq
      rw [hlast, List.dropLast_concat] at hfront
      exact ⟨q, text, hmem, hfront ▸ hlast⟩
    · rintro ⟨q, text, hmem, hq⟩
      exact ⟨(q, text), hmem, by simp [hq]⟩
  unfold FileStore.list
  dsimp only
  split
  · rename_i hempty
    refine .inr ⟨_, rfl, funext fun name => ?_⟩
    have hnone := hinside name
    rw [← List.mem_mergeSort, List.isEmpty_iff.1 hempty] at hnone
    simpa [Contents.empty] using hnone
  · refine .inl ⟨_, rfl, fun name => ?_⟩
    rw [← hinside name]
    split
    · rw [List.mem_reverse, List.mem_mergeSort]
    · rw [List.mem_mergeSort]

/-- The services in memory serve a folder. -/
theorem servesFolder_memory (hfolder : Path.components folder ≠ []) (feed : CampusFeed) :
    ServesFolder handler folder (Holds folder feed) where
  list {w m} hw := by
    rcases hw.list hfolder with ⟨names, hlist, hmem⟩ | ⟨reason, hlist, hm⟩
    · exact .inl ⟨names, congrArg Except.ok hlist, hmem⟩
    · exact .inr ⟨reason, congrArg Except.ok hlist, hm⟩
  read {w m name text} hw hname := by
    have hfile : w.files.text? (Path.join folder name) = some text := by
      rw [hw.contents] at hname
      split at hname
      · exact hname
      · cases hname
    show Except.ok (w.files.read (Path.join folder name)) = _
    rw [FileStore.read, hw.unreadable, List.any_nil, if_neg Bool.false_ne_true, hfile]
    rfl
  write {w m name} text hw hname := by
    have hwrite := FileStore.write_eq hw.unwritable (Path.join folder name) text
    refine ⟨?_, ⟨?_, ?_, hw.campus, fun other => ?_⟩⟩
    · show Except.ok (w.files.write (Path.join folder name) text).1 = _
      rw [hwrite]
      rfl
    · show (w.files.write (Path.join folder name) text).2.unreadable = []
      rw [hwrite, ← hw.unreadable]
    · show (w.files.write (Path.join folder name) text).2.unwritable = []
      rw [hwrite, ← hw.unwritable]
    · show _ = if Path.IsName other then (w.files.write (Path.join folder name) text).2.text? _ else none
      rw [Contents.get_put, FileStore.text?_write hw.unwritable, hw.contents]
      by_cases hother : Path.IsName other
      · rw [Path.components_join hother, Path.components_join hname]
        simp [hother]
      · have hne : other ≠ name := fun h => hother (h ▸ hname)
        simp [hother, hne]
  keep {w m c} hw hc := by
    cases c with
    | writeFile => cases hc
    | _ => exact ⟨hw.unreadable, hw.unwritable, hw.campus, hw.contents⟩

/-- Time does not change what a folder holds. -/
theorem Holds.later (hw : Holds folder feed w m) (t : Instant) : Holds folder feed { w with now := t } m :=
  ⟨hw.unreadable, hw.unwritable, hw.campus, hw.contents⟩

/-- Every file can be written and every sheet is accepted. -/
structure AcceptsAll (w : World) : Prop where
  unwritable : w.files.unwritable = []
  rejectedImports : w.directory.rejectedImports = []

theorem AcceptsAll.next (hw : w.AcceptsAll) (c : Service) : (World.handler c w).2.AcceptsAll := by
  cases c with
  | writeFile path text =>
    refine ⟨?_, hw.rejectedImports⟩
    show (w.files.write path text).2.unwritable = []
    rw [FileStore.write_eq hw.unwritable]
    exact hw.unwritable
  | _ => exact ⟨hw.unwritable, hw.rejectedImports⟩

theorem AcceptsAll.of_yields {a : α} {w' : World} (hw : w.AcceptsAll) {p : Action α}
    (hy : p.Yields World.handler w a w') : w'.AcceptsAll :=
  hy.state ▸ Program.kept (R := AcceptsAll) (fun c _ hu => hu.next c) hw

theorem AcceptsAll.undisturbed (hw : w.AcceptsAll) (p : Action α) : Undisturbed (p.exchanges World.handler w) where
  written {path text reply} hmem := by
    obtain ⟨u, hu, hreply⟩ := Program.exists_of_mem_exchanges (R := AcceptsAll) (fun c _ hu => hu.next c) hw hmem
    have hwrite : (u.files.write path text).1 = reply := Except.ok.inj hreply
    rw [← hwrite, FileStore.write_eq hu.unwritable]
  accepted {text reply} hmem := by
    obtain ⟨u, hu, hreply⟩ := Program.exists_of_mem_exchanges (R := AcceptsAll) (fun c _ hu => hu.next c) hw hmem
    have haccept : accept (u.directory.rejectedImports.contains u.importCount) _ = reply := Except.ok.inj hreply
    rw [← haccept, hu.rejectedImports]
    rfl

end World

end Registrar
