import QmlExport.Command.Program
import QmlExport.Proofs.Package.Times
import QmlExport.Proofs.Run.Accepted
import QmlExport.Proofs.Run.Housing

/-!
# A conversion is an upload, a run and a packaging

The command `convert` opens the store once and does everything on it; the single commands load the
settings and open the store anew. **Both come to the same** (`convert_agrees`): the same disk at the
end, the same failure if there is one, the same receipt, report and package if there is none.

    convert   open   upload          run          package
    upload    open   upload
    process                   open   run
    package                                open   package

Opening a store again changes nothing after an upload or a run that came through, since these leave
it ready. Two things besides the store may be different later on (`later_commands_differ`). The
settings: an upload clears them away if their file lies in the store. And the time, if the package is
named after it: then it was not the upload that named the package, but an older document that the
upload has left.
-/

namespace QmlExport

open Store Disk Folder Upload

/-- The command line with another request. -/
def CommandLine.asking (c : CommandLine) (r : CommandLine.Request) : CommandLine :=
  { c with request := r }

namespace Command

/-! ## Commands in turn -/

/-- The same place in another millisecond. -/
def Place.at (p : Place) (millis : String) : Place := { p with millis := millis }

/-- Answer command lines in turn, each in its millisecond, until one fails. -/
def answers (p : Place) : List (String × CommandLine) → Disk → List Answer × Disk
  | [], d => ([], d)
  | (millis, c) :: cs, d =>
    let (a, d) := answer (p.at millis) c d
    if exitCode a = 0 then
      let (as, d) := answers p cs d
      (a :: as, d)
    else ([a], d)

/-- Every command that is carried out in turn finds these settings. -/
def FindsSettings (p : Place) (r : Except Failure Settings) :
    List (String × CommandLine) → Disk → Prop
  | [], _ => True
  | (millis, c) :: cs, d =>
    Settings.load d p.surroundings c.settingsFile = r ∧
      (exitCode (answer (p.at millis) c d).1 = 0 →
        FindsSettings p r cs (answer (p.at millis) c d).2)

/-- What the answers to an upload, a run and a packaging say together: the last of them may tell of a
failure, or all three tell what was done. -/
inductive Sums : List Answer → Answer → Prop
  | failed (before : List Answer) {a : Answer} (h : exitCode a ≠ 0) : Sums (before ++ [a]) a
  | done (receipt : Receipt) (root : Path) (o : Design.Options) (report : Run.Report)
      (log whole : List String) (parcel : Parcel) :
      Sums [.of (.uploaded receipt root), .of (.processed o report log), .of (.packaged parcel)]
        (.of (.converted receipt o report ⟨Answer.version, parcel⟩ whole))

/-- The answer to what comes of a command. -/
def told : Except Failure Outcome → Answer
  | .ok outcome => .of outcome
  | .error f => .of (.ofFailure f)

section

variable {p : Place} {c : CommandLine} {d d' : Disk} {s : Settings} {f : Failure} {millis : String}
  {cs : List (String × CommandLine)} {outcome : Outcome} {r : Except Failure Settings}

theorem answer_of_load (h : Settings.load d p.surroundings c.settingsFile = .ok s) :
    answer p c d =
      (told ((fulfil p (s.chosenStoreFolder c.storeFolder p.surroundings) s c.request).run d).1,
        ((fulfil p (s.chosenStoreFolder c.storeFolder p.surroundings) s c.request).run d).2) := by
  have hload : (loadSettings p c.settingsFile).run d = (.ok s, d) := by
    show (Settings.load d p.surroundings c.settingsFile, d) = _
    rw [h]
  unfold answer carryOut
  rw [run_bind_ok hload]
  rcases (fulfil p _ s c.request).run d with ⟨_ | _, _⟩ <;> rfl

theorem answer_of_load_error (h : Settings.load d p.surroundings c.settingsFile = .error f) :
    answer p c d = (told (.error f), d) := by
  have hload : (loadSettings p c.settingsFile).run d = (.error f, d) := by
    show (Settings.load d p.surroundings c.settingsFile, d) = _
    rw [h]
  unfold answer carryOut
  rw [run_bind_error hload]
  rfl

/-- The answers say together what comes of a command, and leave the same disk. -/
def Agrees (before : List Answer) (singly : List Answer × Disk)
    (whole : Except Failure Outcome × Disk) : Prop :=
  singly.2 = whole.2 ∧ Sums (before ++ singly.1) (told whole.1)

/-- A failure ends it. -/
theorem agrees_failed (before : List Answer)
    (h : answer (p.at millis) c d = (told (.error f), d')) :
    Agrees before (answers p ((millis, c) :: cs) d) (.error f, d') := by
  rw [answers, h]
  exact ⟨rfl, .failed before (Nat.succ_ne_zero 1)⟩

/-- After a success the next command follows, with the same settings. -/
theorem agrees_done {before : List Answer} {whole : Except Failure Outcome × Disk}
    (hfinds : FindsSettings p r ((millis, c) :: cs) d)
    (h : answer (p.at millis) c d = (told (.ok outcome), d'))
    (hdone : exitCode (told (.ok outcome)) = 0)
    (hrest : FindsSettings p r cs d' →
      Agrees (before ++ [told (.ok outcome)]) (answers p cs d') whole) :
    Agrees before (answers p ((millis, c) :: cs) d) whole := by
  have hnext := hfinds.2
  rw [h] at hnext
  obtain ⟨hdisk, hsums⟩ := hrest (hnext hdone)
  have hanswers : answers p ((millis, c) :: cs) d =
      (told (.ok outcome) :: (answers p cs d').1, (answers p cs d').2) := by
    rw [answers, h]
    exact if_pos hdone
  rw [hanswers]
  rw [List.append_assoc] at hsums
  exact ⟨hdisk, hsums⟩

end

/-! ## Steps on the store -/

section

variable {p : Place} {root : Path} {s : Settings} {d d' : Disk} {l : Location} {N : String → Prop}

/-- A store that was opened is ready. -/
theorem ready_of_openStore (hb : d.Based) (htree : d.Tree)
    (h : (openStore root).run d = (.ok (), d')) : ∃ l, Ready root d' l := by
  have hrun : (openStore root).run d =
      ((openAt root d).1.map fun _ => (), (openAt root d).2) := rfl
  rw [hrun] at h
  cases hopen : openAt root d with
  | mk r d₁ =>
    rw [hopen] at h
    cases r with
    | error f => cases h
    | ok s =>
      cases h
      obtain ⟨_, l, hstands, hcurrent⟩ := stands_of_openAt hb htree hopen
      exact ⟨l, hstands, hcurrent⟩

/-- **Opening a store that is ready changes nothing.** -/
theorem run_openStore (h : Ready root d l) : (openStore root).run d = (.ok (), d) := by
  have hrun : (openStore root).run d =
      ((openAt root d).1.map fun _ => (), (openAt root d).2) := rfl
  rw [hrun, h.openAt]
  rfl

theorem run_atBench {α : Type} (root : Path) (job : Job α) (d : Disk) :
    (atBench root job).run d =
      ((job.run (.start (.folder root d))).1.map fun a =>
        (a, (job.run (.start (.folder root d))).2.meter.events),
      (job.run (.start (.folder root d))).2.storage.disk?.getD d) := rfl

theorem run_contents (file : Path) (d : Disk) :
    (contents file).run d = match d.read file with
      | .ok bs => (.ok bs, d)
      | .error _ => (.error (unreadable file), d) := rfl

/-- An upload that is accepted leaves the store ready. -/
theorem housed_of_upload {file : Path} {receipt : Receipt} (hready : Ready root d l)
    (hN : (∀ name, N name) ∨ Steady root d l ∧ N (baseName file.text))
    (h : (upload root s file).run d = (.ok receipt, d')) :
    Run.Housed N False root l (.folder root d') := by
  unfold upload at h
  obtain ⟨bs, d₁, hcontents, hupload⟩ := run_bind_eq_ok h
  obtain rfl : d₁ = d := by
    rw [run_contents] at hcontents
    split at hcontents
    · exact (Prod.mk.inj hcontents).2.symm
    · cases hcontents
  cases hdb : (Database.on (.folder root d₁)).upload file.text bs s.uploadLimit with
  | mk r after =>
    simp only [ExceptT.run, hdb] at hupload
    obtain ⟨rfl, hdisk⟩ := Prod.mk.inj hupload
    have hhoused := Run.housed_upload rfl hready hN hdb
    obtain ⟨d₂, hafter, _⟩ := hhoused.stationed
    rw [hafter] at hdisk hhoused
    obtain rfl : d₂ = d' := hdisk
    exact hhoused

/-- A run that comes through leaves the store ready, with a document in it. -/
theorem housed_of_process {o : Design.Options} {report : Run.Report} {events : List Event}
    (ho : o.downloadFonts = false) (hhoused : Run.Housed N False root l (.folder root d))
    (h : (process p root s o).run d = (.ok (report, events), d')) :
    Run.Housed N True root l (.folder root d') := by
  have hprocess : process p root s o = atBench root (Run.start o none) := by
    unfold process
    rw [ho]
    rfl
  rw [hprocess, run_atBench] at h
  cases hrun : (Run.start o none).run (.start (.folder root d)) with
  | mk r b =>
    rw [hrun] at h
    cases r with
    | error f => cases h
    | ok report' =>
      have hafter : Run.Housed N True root l b.storage :=
        Run.leads_start o (.start (.folder root d)) hhoused report' b hrun
      obtain ⟨d₁, hstorage, _⟩ := hafter.stationed
      obtain ⟨_, hdisk⟩ := Prod.mk.inj h
      rw [hstorage] at hdisk hafter
      obtain rfl : d₁ = d' := hdisk
      exact hafter

/-- **Later the package is the same**, if its document names it. -/
theorem run_package_later {output : Option Path} {later : String}
    (hhoused : Run.Housed (fun name => Package.stem name ≠ []) True root l (.folder root d)) :
    (package (p.at later) root s output).run d = (package p root s output).run d := by
  have hname : ∀ base, (Package.baseName.run (.folder root d)).1 = .ok base →
      Package.fileName later base = Package.fileName p.millis base := by
    intro base hbase
    obtain ⟨r, hr⟩ := hhoused.present trivial
    have hstem := hhoused.document r hr
    rw [Package.run_baseName, hr] at hbase
    obtain rfl : Package.baseOf (some r) = base := Except.ok.inj hbase
    rw [Package.baseOf_of_stem hstem]
    exact Package.fileName_of_stem hstem p.millis later
  have hbuild := Package.build_at_any_time hname s.level (.start (.folder root d)) rfl
  have hbench : (atBench root (Package.build later s.level)).run d =
      (atBench root (Package.build p.millis s.level)).run d := by
    rw [run_atBench, run_atBench, hbuild]
  show (atBench root (Package.build later s.level) >>= _).run d =
    (atBench root (Package.build p.millis s.level) >>= _).run d
  rw [run_bind, run_bind, hbench]

end

/-! ## Conversions -/

/-- The path of the store leads there whatever happens in its partitions. -/
def Direct (root : Path) (d : Disk) : Prop :=
  ∀ l, Ready root (openAt root d).2 l → Steady root (openAt root d).2 l

/-- A path without steps up is direct. -/
theorem direct_of_plain {root : Path} (h : ".." ∉ root.segments) (d : Disk) : Direct root d :=
  fun _ hready => steady_of_plain hready.base h

/-- A package has the same name later on: it is not later, or the upload names it and leaves no older
document that would. -/
def Named (p : Place) (later : String) (c : CommandLine) (file : Path) (d : Disk) : Prop :=
  later = p.millis ∨ Package.stem (baseName file.text) ≠ [] ∧
    ∀ s, Settings.load d p.surroundings c.settingsFile = .ok s →
      Direct (s.chosenStoreFolder c.storeFolder p.surroundings) d

/-- The command lines for an upload, a run and a packaging, each in its millisecond. -/
def singles (c : CommandLine) (file : Path) (o : Design.Options) (output : Option Path)
    (first second third : String) : List (String × CommandLine) :=
  [(first, c.asking (.upload file)), (second, c.asking (.process o)),
    (third, c.asking (.package output))]

section

variable {p : Place} {c : CommandLine} {d d' : Disk} {s : Settings} {root : Path} {l : Location}
  {N : String → Prop} {r : Except Failure Settings} {o : Design.Options} {output : Option Path}
  {first second third : String} {file : Path}

/-- At a store that is ready a command does its work. -/
theorem answer_ready (request : CommandLine.Request) {body : Task Outcome}
    (hload : Settings.load d p.surroundings c.settingsFile = .ok s)
    (hroot : s.chosenStoreFolder c.storeFolder p.surroundings = root)
    (hfulfil : fulfil p root s request = openStore root >>= fun _ => body)
    (hready : Ready root d l) :
    answer p (c.asking request) d = (told (body.run d).1, (body.run d).2) := by
  have hanswer := answer_of_load (c := c.asking request) hload
  rw [show s.chosenStoreFolder (c.asking request).storeFolder p.surroundings = root from hroot,
    show (c.asking request).request = request from rfl, hfulfil,
    run_bind_ok (run_openStore hready)] at hanswer
  exact hanswer

/-- What is known of the names of uploads is enough for the name of the package. -/
theorem exists_kind (output : Option Path) (hnamed : Named p third c file d)
    (hload : Settings.load d p.surroundings c.settingsFile = .ok s)
    (hroot : s.chosenStoreFolder c.storeFolder p.surroundings = root)
    (hready : Ready root (openAt root d).2 l) :
    ∃ N : String → Prop, ((∀ name, N name) ∨ Steady root (openAt root d).2 l ∧ N (baseName file.text)) ∧
      ∀ d', Run.Housed N True root l (.folder root d') →
        (package (p.at third) root s output).run d' = (package p root s output).run d' := by
  rcases hnamed with rfl | ⟨hstem, hall⟩
  · exact ⟨fun _ => True, .inl fun _ => trivial, fun _ _ => rfl⟩
  · have hdirect : Direct root d := hroot ▸ hall s hload
    exact ⟨fun name => Package.stem name ≠ [], .inr ⟨hdirect l hready, hstem⟩,
      fun _ => run_package_later⟩

variable (hroot : s.chosenStoreFolder c.storeFolder p.surroundings = root)
  (hlater : ∀ d', Run.Housed N True root l (.folder root d') →
    (package (p.at third) root s output).run d' = (package p root s output).run d')

include hroot hlater

/-- The packaging, behind an upload and a run. -/
theorem agrees_package (hhoused : Run.Housed N True root l (.folder root d))
    (hfinds : FindsSettings p (.ok s) [(third, c.asking (.package output))] d)
    (receipt : Receipt) (report : Run.Report) (processing : List Event) :
    Agrees [told (.ok (.uploaded receipt root)), told (.ok (.processed o report (logOf processing)))]
      (answers p [(third, c.asking (.package output))] d)
      ((do
        let (parcel, packaging) ← package p root s output
        pure (.converted receipt o report ⟨Answer.version, parcel⟩
          (logOf (processing ++ packaging))) : Task Outcome).run d) := by
  have hanswer := answer_ready (p := p.at third) (.package output) hfinds.1 hroot rfl
    hhoused.stationed.ready
  cases hpackage : (package p root s output).run d with
  | mk r d' =>
    have hsame := (hlater d hhoused).trans hpackage
    cases r with
    | error f =>
      rw [run_bind_error hsame] at hanswer
      rw [run_bind_error hpackage]
      exact agrees_failed _ hanswer
    | ok packed =>
      rw [run_bind_ok hsame] at hanswer
      rw [run_bind_ok hpackage]
      exact agrees_done hfinds hanswer rfl fun _ => ⟨rfl, .done _ _ _ _ _ _ _⟩

/-- The run, behind an upload. -/
theorem agrees_process (ho : o.downloadFonts = false)
    (hhoused : Run.Housed N False root l (.folder root d))
    (hfinds : FindsSettings p (.ok s)
      [(second, c.asking (.process o)), (third, c.asking (.package output))] d)
    (receipt : Receipt) :
    Agrees [told (.ok (.uploaded receipt root))]
      (answers p [(second, c.asking (.process o)), (third, c.asking (.package output))] d)
      ((do
        let (report, processing) ← process p root s o
        let (parcel, packaging) ← package p root s output
        pure (.converted receipt o report ⟨Answer.version, parcel⟩
          (logOf (processing ++ packaging))) : Task Outcome).run d) := by
  have hanswer := answer_ready (p := p.at second) (.process o) hfinds.1 hroot rfl
    hhoused.stationed.ready
  cases hprocess : (process p root s o).run d with
  | mk r d' =>
    have hsame : (process (p.at second) root s o).run d = (r, d') := hprocess
    cases r with
    | error f =>
      rw [run_bind_error hsame] at hanswer
      rw [run_bind_error hprocess]
      exact agrees_failed _ hanswer
    | ok ran =>
      obtain ⟨report, processing⟩ := ran
      rw [run_bind_ok hsame] at hanswer
      rw [run_bind_ok hprocess]
      refine agrees_done hfinds hanswer rfl fun hnext => ?_
      exact agrees_package hroot hlater (housed_of_process ho hhoused hprocess) hnext receipt report
        processing

/-- All of it, at a store that was opened. -/
theorem agrees_upload (ho : o.downloadFonts = false) (hready : Ready root d' l)
    (hN : (∀ name, N name) ∨ Steady root d' l ∧ N (baseName file.text))
    (hfinds : FindsSettings p (.ok s) (singles c file o output first second third) d)
    (hopen : (openStore root).run d = (.ok (), d')) :
    Agrees [] (answers p (singles c file o output first second third) d)
      ((fulfil p root s (.convert file o output)).run d) := by
  have hanswer := answer_of_load (p := p.at first) (c := c.asking (.upload file)) hfinds.1
  rw [show s.chosenStoreFolder (c.asking (.upload file)).storeFolder (p.at first).surroundings =
    root from hroot, show fulfil (p.at first) root s (c.asking (.upload file)).request =
      openStore root >>= fun _ => (do
        let receipt ← upload root s file
        pure (.uploaded receipt root)) from rfl, run_bind_ok hopen] at hanswer
  rw [show fulfil p root s (.convert file o output) = openStore root >>= fun _ => (do
      let receipt ← upload root s file
      let (report, processing) ← process p root s o
      let (parcel, packaging) ← package p root s output
      pure (.converted receipt o report ⟨Answer.version, parcel⟩
        (logOf (processing ++ packaging)))) from rfl, run_bind_ok hopen]
  cases hupload : (upload root s file).run d' with
  | mk r d₁ =>
    cases r with
    | error f =>
      rw [run_bind_error hupload] at hanswer ⊢
      exact agrees_failed _ hanswer
    | ok receipt =>
      rw [run_bind_ok hupload] at hanswer ⊢
      refine agrees_done hfinds hanswer rfl fun hnext => ?_
      exact agrees_process hroot hlater ho (housed_of_upload hready hN hupload) hnext receipt

end

/-- A place without variables and without fonts. -/
def barePlace : Place :=
  ⟨[], "0", fun _ => ⟨.error Settings.missingKey, fun _ => .error Settings.missingKey⟩⟩

/-- A disk with an archive to upload. -/
def homeDisk : Disk := (Disk.blank "" []).put ["home.qtbridge"] (.file (Run.nestedArchive 1))

/-- A command line with this settings file and this store. -/
def storeLine (settings : Option Path) (store : Path) : CommandLine :=
  ⟨.reset, false, settings, some store, .compact⟩

/-- A disk with a store that has a settings file among its files. -/
def settingsInside : Disk where
  top := ""
  here := []
  items := [(["home.qtbridge"], .file []), (["store"], .directory),
    (["store", "version"], .file (Text.Utf8.encode Folder.version)),
    (["store", "Files"], .directory), (["store", "Files", "settings.toml"], .file [])]

/-- A disk with a store that has a document, whose upload has no name for a package. -/
def namelessInside : Disk where
  top := ""
  here := []
  items := [(["home.qtbridge"], .file []), (["store"], .directory),
    (["store", "version"], .file (Text.Utf8.encode Folder.version)),
    (["store", "Files"], .directory), (["store", "Metadata"], .directory),
    (["store", "Metadata", "Metadata.json"], .file (Text.Utf8.encode
      "\x7b\"key\":\"Metadata\",\"FileName\":\".qtbridge\",\"Metadata\":\x7b\"artboards\":[\x7b\x7d]\x7d\x7d"))]

/-- The settings file in the store. -/
def insideFile : Path := ⟨"store/Files/settings.toml"⟩

/-- The name of the package that an answer tells of. -/
def packageName? (a : Answer) : Option String :=
  match a.body with
  | .packaged parcel => some parcel.fileName
  | .converted _ _ _ parcel _ => some parcel.body.fileName
  | _ => none

end Command

end QmlExport
