import PageRecipe.Command.Running
import PageRecipe.Proofs.Command.CommandLines
import PageRecipe.Proofs.Project.Lookups

/-!
# How a check ends

A check loads the settings of a project, decides which pages to look at, checks them and shows
what it found. Each of these steps can end it, and the exit status tells which one did.
`CheckEnds` says which number a check exits with, in terms of the files, the settings and the
findings of single pages.

`check_exits_iff` says that a check ends in this way and in no other, whatever the format of the
reports is, and that reports are shown only if every page could be checked. A command line with an
empty path asks for no check, and it is refused before anything is looked at
(`exits_emptyPath_and_nowhere`).
-/

namespace PageRecipe

namespace Project

variable (project : Project Id)

/-- A check can start : all paths that are given are files, and if none is given there is a
directory of pages. -/
def CanCheck (paths : List FilePath) : Prop :=
  (∀ path ∈ paths, project.files.isFile path = true) ∧
    (paths = [] → project.files.isDirectory
      (project.root.join ⟨project.settings.contentDirectory⟩) = true)

/-- The files below the directory of pages. -/
def filesOfContent : List FilePath :=
  project.files.filesBelow (project.root.join ⟨project.settings.contentDirectory⟩)

/-- The page is to be checked : it is given, or none is given and it is one of the files of that
name below the directory of pages. -/
def IsToCheck (paths : List FilePath) (path : FilePath) : Prop :=
  path ∈ paths ∨ paths = [] ∧ path ∈ project.filesOfContent ∧
    path.name? = some project.settings.pageFileName

/-- The report of a page has a violation. -/
def HasViolation (path : FilePath) : Prop :=
  ∃ report, (project.checkPage .builtin path).run = .ok report ∧
    ∃ finding ∈ report.findings, finding.severity = .fail

end Project

namespace Workplace

variable (workplace : Workplace Id)

/-- The directory that a command is about : the one that is given, else the current one. -/
def IsRoot (given : Option FilePath) (root : FilePath) : Prop :=
  given = some root ∨ given = none ∧ workplace.here = .ok root

/-- The project that a command is about. -/
structure IsProject (given : Option FilePath) (project : Project Id) : Prop where
  files : project.files = workplace.files
  root : workplace.IsRoot given project.root
  settings : (Settings.load workplace.files workplace.environment (some project.root)).run =
    .ok project.settings

/-- The number with which a check exits. -/
inductive CheckEnds (given : Option FilePath) (paths : List FilePath) : Nat → Prop where
  /-- The current directory is not known. -/
  | nowhere {cause : String} (hgiven : given = none) (hhere : workplace.here = .error cause) :
      CheckEnds given paths 74
  | noSettings {root : FilePath} {error : SettingsError} (hroot : workplace.IsRoot given root)
      (hload : (Settings.load workplace.files workplace.environment (some root)).run =
        .error error) : CheckEnds given paths 78
  | notAFile {project : Project Id} {path : FilePath} (hproject : workplace.IsProject given project)
      (hpath : path ∈ paths) (hfile : project.files.isFile path = false) : CheckEnds given paths 64
  | noContent {project : Project Id} (hproject : workplace.IsProject given project)
      (hpaths : paths = [])
      (hcontent : project.files.isDirectory
        (project.root.join ⟨project.settings.contentDirectory⟩) = false) :
      CheckEnds given paths 66
  | unreadable {project : Project Id} {path : FilePath} {cause : ReadError}
      (hproject : workplace.IsProject given project) (hstart : project.CanCheck paths)
      (hpath : project.IsToCheck paths path) (hread : project.files.read path = .error cause) :
      CheckEnds given paths 65
  | violation {project : Project Id} {path : FilePath}
      (hproject : workplace.IsProject given project) (hstart : project.CanCheck paths)
      (hread : ∀ path, project.IsToCheck paths path → ∃ text, project.files.read path = .ok text)
      (hpath : project.IsToCheck paths path) (hviolation : project.HasViolation path) :
      CheckEnds given paths 1
  | clean {project : Project Id} (hproject : workplace.IsProject given project)
      (hstart : project.CanCheck paths)
      (hread : ∀ path, project.IsToCheck paths path → ∃ text, project.files.read path = .ok text)
      (hclean : ∀ path, project.IsToCheck paths path → ¬project.HasViolation path) :
      CheckEnds given paths 0

variable {workplace} {given : Option FilePath} {paths : List FilePath} {project : Project Id}

/-! ## Loading the project -/

theorem run_adapt {ε δ α : Type} (f : ε → δ) (x : ExceptT ε Id α) :
    (ExceptT.adapt f x).run = (x.run).mapError f := by
  rfl

theorem projectRoot_of_isRoot {root : FilePath} (h : workplace.IsRoot given root)
    (verbosity : Nat) (command : Command) :
    workplace.projectRoot ⟨verbosity, given, command⟩ = .ok root := by
  rcases h with rfl | ⟨rfl, h⟩
  · rfl
  · simp only [projectRoot, h]

theorem run_loadProject_of_nowhere {cause : String} (hgiven : given = none)
    (hhere : workplace.here = .error cause) (verbosity : Nat) (command : Command) :
    (workplace.loadProject ⟨verbosity, given, command⟩).run =
      .error (.inputOutput "determine current directory" cause) := by
  have hroot : workplace.projectRoot ⟨verbosity, given, command⟩ =
      .error (.inputOutput "determine current directory" cause) := by
    simp only [projectRoot, hgiven, hhere]
  rw [loadProject, hroot]
  rfl

theorem run_loadProject_of_noSettings {root : FilePath} {error : SettingsError}
    (hroot : workplace.IsRoot given root)
    (hload : (Settings.load workplace.files workplace.environment (some root)).run = .error error)
    (verbosity : Nat) (command : Command) :
    (workplace.loadProject ⟨verbosity, given, command⟩).run =
      .error (.project (.settings error.message)) := by
  have hsettings : (workplace.loadSettings root).run =
      .error (.project (.settings error.message)) := by
    rw [loadSettings, run_adapt, hload]
    rfl
  rw [loadProject, projectRoot_of_isRoot hroot]
  exact run_bind_error hsettings _

theorem run_loadProject (h : workplace.IsProject given project) (verbosity : Nat)
    (command : Command) :
    (workplace.loadProject ⟨verbosity, given, command⟩).run = .ok project := by
  obtain ⟨files, settings, root⟩ := project
  have hsettings : (workplace.loadSettings root).run = .ok settings := by
    rw [loadSettings, run_adapt, h.settings]
    rfl
  rw [loadProject, projectRoot_of_isRoot h.root]
  refine (run_bind_ok hsettings _).trans ?_
  rw [← h.files]
  rfl

/-! ## Finding the pages -/

/-- The look at a path that is given : it has to be a file. -/
def lookAt (project : Project Id) (path : FilePath) : ExceptT Failure Id (ForInStep PUnit) := do
  if !(← project.files.isFile path) then
    throw (.arguments ("not a document: " ++ path.text))
  return .yield ⟨⟩

theorem run_lookAt_of_isFile {path : FilePath} (h : project.files.isFile path = true) :
    (lookAt project path).run = .ok (.yield ⟨⟩) := by
  rw [lookAt, h]
  rfl

theorem run_lookAt_of_noFile {path : FilePath} (h : project.files.isFile path = false) :
    (lookAt project path).run = .error (.arguments ("not a document: " ++ path.text)) := by
  rw [lookAt, h]
  rfl

theorem pagesToCheck_of_ne_nil (hne : paths ≠ []) : pagesToCheck project paths = (do
    forIn paths PUnit.unit fun path _ => lookAt project path
    return paths) := if_neg (by simpa using hne)

/-- A path that is no file ends the check. -/
theorem run_pagesToCheck_of_notAFile
    (hpath : ∃ path ∈ paths, project.files.isFile path = false) :
    ∃ message, (pagesToCheck project paths).run = .error (.arguments message) := by
  obtain ⟨path, hmem, hfile⟩ := hpath
  have hsteps : ∀ path ∈ paths, (lookAt project path).run = .ok (.yield ⟨⟩) ∨
      (lookAt project path).run = .error (.arguments ("not a document: " ++ path.text)) := by
    intro path _
    cases h : project.files.isFile path with
    | true => exact Or.inl (run_lookAt_of_isFile h)
    | false => exact Or.inr (run_lookAt_of_noFile h)
  obtain ⟨first, -, hloop⟩ :=
    exists_run_forIn_error hsteps ⟨path, hmem, run_lookAt_of_noFile hfile⟩
  rw [pagesToCheck_of_ne_nil (List.ne_nil_of_mem hmem)]
  exact ⟨_, run_bind_error hloop _⟩

theorem run_pagesToCheck_of_files (hne : paths ≠ [])
    (hfiles : ∀ path ∈ paths, project.files.isFile path = true) :
    (pagesToCheck project paths).run = .ok paths := by
  rw [pagesToCheck_of_ne_nil hne]
  exact run_bind_ok (run_forIn_ok fun path hpath => run_lookAt_of_isFile (hfiles path hpath)) _

theorem run_pagesToCheck_of_noContent
    (hcontent : project.files.isDirectory project.contentDirectory = false) :
    (pagesToCheck project []).run =
      .error (.project (.contentNotFound project.contentDirectory)) := by
  rw [pagesToCheck, if_pos List.isEmpty_nil, run_adapt, Project.run_pages_of_noDirectory hcontent]
  rfl

theorem run_pagesToCheck_of_content
    (hcontent : project.files.isDirectory project.contentDirectory = true) :
    (pagesToCheck project []).run = .ok ((project.filesOfContent.filter fun path =>
      path.isNamed project.settings.pageFileName).mergeSort FilePath.le) := by
  rw [pagesToCheck, if_pos List.isEmpty_nil, run_adapt, Project.run_pages_of_isDirectory hcontent]
  rfl

/-- When a check can start, it finds the pages that are to be checked. -/
theorem run_pagesToCheck (h : project.CanCheck paths) :
    ∃ pages, (pagesToCheck project paths).run = .ok pages ∧
      ∀ path, path ∈ pages ↔ project.IsToCheck paths path := by
  by_cases hne : paths = []
  · subst hne
    refine ⟨_, run_pagesToCheck_of_content (h.2 rfl), fun path => ?_⟩
    simp [Project.IsToCheck, FilePath.isNamed]
  · refine ⟨paths, run_pagesToCheck_of_files hne h.1, fun path => ?_⟩
    simp [Project.IsToCheck, hne]

/-! ## Checking the pages -/

theorem run_checkPages_of_unreadable {pages : List FilePath} {path : FilePath} {cause : ReadError}
    (hpath : path ∈ pages) (hread : project.files.read path = .error cause) :
    ∃ action file reason,
      (project.checkPages .builtin pages).run = .error (.operation action file reason) := by
  obtain ⟨other, -, error, herror, hrun⟩ :=
    exists_run_mapM_error ⟨path, hpath, _, Project.run_checkPage_of_error hread⟩
  rcases Project.run_checkPage_cases project .builtin other with
    ⟨cause, -, hother⟩ | ⟨_, _, _, _, -, -, -, hother⟩
  · rw [hother] at herror
    exact ⟨_, _, _, Except.error.inj herror ▸ hrun⟩
  · cases hother.symm.trans herror

/-- Pages that can be read can be checked. -/
theorem run_checkPages {pages : List FilePath}
    (hread : ∀ path ∈ pages, ∃ text, project.files.read path = .ok text) :
    ∃ reports, (project.checkPages .builtin pages).run = .ok reports ∧
      List.Forall₂ (fun path report => (project.checkPage .builtin path).run = .ok report)
        pages reports := by
  suffices h : ∃ reports, List.Forall₂
      (fun path report => (project.checkPage .builtin path).run = .ok report) pages reports by
    obtain ⟨reports, hreports⟩ := h
    exact ⟨reports, run_mapM_ok hreports, hreports⟩
  induction pages with
  | nil => exact ⟨[], .nil⟩
  | cons path pages ih =>
    obtain ⟨reports, hreports⟩ := ih fun path hpath => hread path (List.mem_cons_of_mem _ hpath)
    obtain ⟨text, htext⟩ := hread path List.mem_cons_self
    rcases Project.run_checkPage_cases project .builtin path with
      ⟨cause, herror, -⟩ | ⟨_, _, _, _, -, -, -, hrun⟩
    · cases htext.symm.trans herror
    · exact ⟨_, .cons hrun hreports⟩

theorem hasFailures_iff {report : PageReport} :
    report.hasFailures = true ↔ ∃ finding ∈ report.findings, finding.severity = .fail := by
  simp [PageReport.hasFailures]

/-- The status of a check tells whether some page has a violation. -/
theorem any_hasFailures_iff {pages : List FilePath} {reports : List PageReport}
    (h : List.Forall₂ (fun path report => (project.checkPage .builtin path).run = .ok report)
      pages reports) :
    reports.any PageReport.hasFailures = true ↔ ∃ path ∈ pages, project.HasViolation path := by
  induction h with
  | nil => simp
  | cons hreport _ ih =>
    rw [List.any_cons, Bool.or_eq_true, ih, hasFailures_iff, List.exists_mem_cons_iff]
    refine or_congr ⟨fun h => ⟨_, hreport, h⟩, ?_⟩ Iff.rfl
    rintro ⟨other, hother, h⟩
    rwa [Except.ok.inj (hother.symm.trans hreport)] at h

/-! ## How the command ends -/

/-- The transcript of a check. -/
def checkTranscript (workplace : Workplace Id) (verbosity : Nat) (given : Option FilePath)
    (paths : List FilePath) (format : OutputFormat) : Transcript :=
  workplace.transcriptOf (workplace.perform ⟨verbosity, given, .check paths format⟩).run

/-- The transcript is that of a failure : it shows no report. -/
def EndsWith (transcript : Transcript) (code : Nat) : Prop :=
  transcript.status.code = code ∧ transcript.output = ""

/-- The transcript shows the reports of all pages that are to be checked. -/
def Shows (workplace : Workplace Id) (given : Option FilePath) (paths : List FilePath)
    (format : OutputFormat) (transcript : Transcript) : Prop :=
  ∃ project pages reports, workplace.IsProject given project ∧
    (∀ path, path ∈ pages ↔ project.IsToCheck paths path) ∧
    List.Forall₂ (fun path report => (project.checkPage .builtin path).run = .ok report)
      pages reports ∧
    transcript.output = workplace.showReports project.root format reports

section Transcripts

variable (verbosity : Nat) (format : OutputFormat)

theorem checkTranscript_of_noProject {failure : Failure}
    (h : (workplace.loadProject ⟨verbosity, given, .check paths format⟩).run = .error failure) :
    EndsWith (workplace.checkTranscript verbosity given paths format) failure.exitStatus.code := by
  have hrun : (workplace.perform ⟨verbosity, given, .check paths format⟩).run = .error failure :=
    run_bind_error h _
  rw [checkTranscript, hrun]
  exact ⟨rfl, rfl⟩

/-- Behind the project, a check ends as it does for that project. -/
theorem checkTranscript_of_isProject (h : workplace.IsProject given project) :
    workplace.checkTranscript verbosity given paths format =
      workplace.transcriptOf (workplace.check project paths format).run := by
  have hrun : (workplace.perform ⟨verbosity, given, .check paths format⟩).run =
      (workplace.check project paths format).run := run_bind_ok (run_loadProject h _ _) _
  rw [checkTranscript, hrun]

theorem checkTranscript_of_noPages {failure : Failure}
    (hproject : workplace.IsProject given project)
    (h : (pagesToCheck project paths).run = .error failure) :
    EndsWith (workplace.checkTranscript verbosity given paths format) failure.exitStatus.code := by
  have hrun : (workplace.check project paths format).run = .error failure := run_bind_error h _
  rw [checkTranscript_of_isProject verbosity format hproject, hrun]
  exact ⟨rfl, rfl⟩

theorem checkTranscript_of_unreadable {path : FilePath} {cause : ReadError}
    (hproject : workplace.IsProject given project) (hstart : project.CanCheck paths)
    (hpath : project.IsToCheck paths path) (hread : project.files.read path = .error cause) :
    EndsWith (workplace.checkTranscript verbosity given paths format) 65 := by
  obtain ⟨pages, hpages, hmem⟩ := run_pagesToCheck hstart
  obtain ⟨action, file, reason, herror⟩ :=
    run_checkPages_of_unreadable ((hmem path).mpr hpath) hread
  have hreports : (ExceptT.adapt Failure.project (project.checkPages .builtin pages)).run =
      .error (.project (.operation action file reason)) := by
    rw [run_adapt, herror]
    rfl
  have hrun : (workplace.check project paths format).run =
      .error (.project (.operation action file reason)) := by
    rw [check, run_bind_ok hpages]
    exact run_bind_error hreports _
  rw [checkTranscript_of_isProject verbosity format hproject, hrun]
  exact ⟨rfl, rfl⟩

/-- When all pages can be read, their reports are shown and the status goes by them. -/
theorem checkTranscript_of_readable (hproject : workplace.IsProject given project)
    (hstart : project.CanCheck paths)
    (hread : ∀ path, project.IsToCheck paths path → ∃ text, project.files.read path = .ok text) :
    Shows workplace given paths format (workplace.checkTranscript verbosity given paths format) ∧
      ((∃ path, project.IsToCheck paths path ∧ project.HasViolation path) ∧
        (workplace.checkTranscript verbosity given paths format).status = .findings ∨
      (∀ path, project.IsToCheck paths path → ¬project.HasViolation path) ∧
        (workplace.checkTranscript verbosity given paths format).status = .ok) := by
  obtain ⟨pages, hpages, hmem⟩ := run_pagesToCheck hstart
  obtain ⟨reports, hreports, hall⟩ :=
    run_checkPages fun path hpath => hread path ((hmem path).mp hpath)
  have hadapt : (ExceptT.adapt Failure.project (project.checkPages .builtin pages)).run =
      .ok reports := by
    rw [run_adapt, hreports]
    rfl
  have hrun : (workplace.check project paths format).run =
      .ok (workplace.showReports project.root format reports, checkStatus reports) := by
    rw [check, run_bind_ok hpages]
    exact run_bind_ok hadapt _
  rw [checkTranscript_of_isProject verbosity format hproject, hrun]
  refine ⟨⟨project, pages, reports, hproject, hmem, hall, rfl⟩, ?_⟩
  have hany := any_hasFailures_iff hall
  simp only [hmem] at hany
  simp only [transcriptOf, checkStatus]
  by_cases hviolation : ∃ path, project.IsToCheck paths path ∧ project.HasViolation path
  · exact Or.inl ⟨hviolation, if_pos (hany.mpr hviolation)⟩
  · refine Or.inr ⟨fun path hpath h => hviolation ⟨path, hpath, h⟩, ?_⟩
    exact if_neg fun h => hviolation (hany.mp h)

/-- Each way in which a check ends is that of its transcript. -/
theorem CheckEnds.code_eq {code : Nat} (h : workplace.CheckEnds given paths code) :
    EndsWith (workplace.checkTranscript verbosity given paths format) code ∧ 1 < code ∨
      (workplace.checkTranscript verbosity given paths format).status.code = code ∧ code ≤ 1 ∧
        Shows workplace given paths format
          (workplace.checkTranscript verbosity given paths format) := by
  cases h with
  | nowhere hgiven hhere =>
    exact Or.inl ⟨checkTranscript_of_noProject _ _ (run_loadProject_of_nowhere hgiven hhere _ _),
      by decide⟩
  | noSettings hroot hload =>
    exact Or.inl ⟨checkTranscript_of_noProject _ _ (run_loadProject_of_noSettings hroot hload _ _),
      by decide⟩
  | notAFile hproject hpath hfile =>
    obtain ⟨message, hpages⟩ := run_pagesToCheck_of_notAFile ⟨_, hpath, hfile⟩
    exact Or.inl ⟨checkTranscript_of_noPages _ _ hproject hpages, by decide⟩
  | noContent hproject hpaths hcontent =>
    subst hpaths
    exact Or.inl ⟨checkTranscript_of_noPages _ _ hproject (run_pagesToCheck_of_noContent hcontent),
      by decide⟩
  | unreadable hproject hstart hpath hread =>
    exact Or.inl ⟨checkTranscript_of_unreadable _ _ hproject hstart hpath hread, by decide⟩
  | violation hproject hstart hread hpath hviolation =>
    obtain ⟨hshows, hstatus⟩ := checkTranscript_of_readable verbosity format hproject hstart hread
    refine Or.inr ⟨?_, by decide, hshows⟩
    rcases hstatus with ⟨-, hstatus⟩ | ⟨hclean, -⟩
    · rw [hstatus]
      rfl
    · exact absurd hviolation (hclean _ hpath)
  | clean hproject hstart hread hclean =>
    obtain ⟨hshows, hstatus⟩ := checkTranscript_of_readable verbosity format hproject hstart hread
    refine Or.inr ⟨?_, by decide, hshows⟩
    rcases hstatus with ⟨⟨path, hpath, hviolation⟩, -⟩ | ⟨-, hstatus⟩
    · exact absurd hviolation (hclean path hpath)
    · rw [hstatus]
      rfl

end Transcripts

/-- Every command is about some project, or there is a reason why it is about none. -/
theorem exists_isProject (workplace : Workplace Id) (given : Option FilePath) :
    (∃ project, workplace.IsProject given project) ∨
      (given = none ∧ ∃ cause, workplace.here = .error cause) ∨
      ∃ root error, workplace.IsRoot given root ∧
        (Settings.load workplace.files workplace.environment (some root)).run = .error error := by
  have hload : ∀ root, workplace.IsRoot given root →
      (∃ project, workplace.IsProject given project) ∨ ∃ root error,
        workplace.IsRoot given root ∧
          (Settings.load workplace.files workplace.environment (some root)).run = .error error := by
    intro root hroot
    cases h : (Settings.load workplace.files workplace.environment (some root)).run with
    | ok settings => exact Or.inl ⟨⟨workplace.files, settings, root⟩, rfl, hroot, h⟩
    | error error => exact Or.inr ⟨root, error, hroot, h⟩
  cases given with
  | some root => exact (hload root (Or.inl rfl)).imp id Or.inr
  | none =>
    cases hhere : workplace.here with
    | ok root => exact (hload root (Or.inr ⟨rfl, hhere⟩)).imp id Or.inr
    | error cause => exact Or.inr (Or.inl ⟨rfl, cause, rfl⟩)

/-- Every check ends in some way. -/
theorem exists_checkEnds (workplace : Workplace Id) (given : Option FilePath)
    (paths : List FilePath) : ∃ code, workplace.CheckEnds given paths code := by
  rcases exists_isProject workplace given with
    ⟨project, hproject⟩ | ⟨hgiven, cause, hhere⟩ | ⟨root, error, hroot, hload⟩
  · by_cases hfile : ∃ path ∈ paths, project.files.isFile path = false
    · obtain ⟨path, hpath, hfile⟩ := hfile
      exact ⟨64, .notAFile hproject hpath hfile⟩
    by_cases hcontent : paths = [] ∧ project.files.isDirectory project.contentDirectory = false
    · exact ⟨66, .noContent hproject hcontent.1 hcontent.2⟩
    have hstart : project.CanCheck paths := by
      refine ⟨fun path hpath => ?_, fun hpaths => ?_⟩
      · exact eq_true_of_ne_false fun h => hfile ⟨path, hpath, h⟩
      · exact eq_true_of_ne_false fun h => hcontent ⟨hpaths, h⟩
    by_cases hread : ∃ path cause, project.IsToCheck paths path ∧
        project.files.read path = .error cause
    · obtain ⟨path, cause, hpath, hread⟩ := hread
      exact ⟨65, .unreadable hproject hstart hpath hread⟩
    have hread : ∀ path, project.IsToCheck paths path →
        ∃ text, project.files.read path = .ok text := by
      intro path hpath
      cases h : project.files.read path with
      | ok text => exact ⟨text, rfl⟩
      | error cause => exact absurd ⟨path, cause, hpath, h⟩ hread
    by_cases hviolation : ∃ path, project.IsToCheck paths path ∧ project.HasViolation path
    · obtain ⟨path, hpath, hviolation⟩ := hviolation
      exact ⟨1, .violation hproject hstart hread hpath hviolation⟩
    · exact ⟨0, .clean hproject hstart hread fun path hpath h => hviolation ⟨path, hpath, h⟩⟩
  · exact ⟨74, .nowhere hgiven hhere⟩
  · exact ⟨78, .noSettings hroot hload⟩

/-- A check exits with the number of the first of its steps that ends it, and then it shows no
report. If none does, the reports of all pages are shown, and the number says whether some page
has a violation. The format has no part in this. Every command line that asks for the check ends
in this way, and for paths that are not empty there is one. -/
theorem check_exits_iff (workplace : Workplace Id) (verbosity : Nat) (given : Option FilePath)
    (paths : List FilePath) (format : OutputFormat) :
    (∀ code, (workplace.checkTranscript verbosity given paths format).status.code = code ↔
      workplace.CheckEnds given paths code) ∧
    (1 < (workplace.checkTranscript verbosity given paths format).status.code →
      (workplace.checkTranscript verbosity given paths format).output = "") ∧
    ((workplace.checkTranscript verbosity given paths format).status.code ≤ 1 →
      Shows workplace given paths format
        (workplace.checkTranscript verbosity given paths format)) ∧
    (∀ words, Invocation.ofWords words = .ok ⟨verbosity, given, .check paths format⟩ →
      workplace.run words = workplace.checkTranscript verbosity given paths format) ∧
    ((∀ path ∈ given, path.text ≠ "") → (∀ path ∈ paths, path.text ≠ "") →
      workplace.run (checkWords given format paths) =
        workplace.checkTranscript 0 given paths format) := by
  obtain ⟨code, hends⟩ := exists_checkEnds workplace given paths
  have hcode := hends.code_eq verbosity format
  have hrun : ∀ verbosity words,
      Invocation.ofWords words = .ok ⟨verbosity, given, .check paths format⟩ →
        workplace.run words = workplace.checkTranscript verbosity given paths format := by
    intro verbosity words hwords
    rw [run, hwords]
    rfl
  refine ⟨fun other => ⟨fun hother => ?_, fun hother => ?_⟩, fun hlt => ?_, fun hle => ?_,
    hrun verbosity, fun hgiven hpaths => hrun 0 _ (ofWords_checkWords format hgiven hpaths)⟩
  · rcases hcode with ⟨⟨hcode, -⟩, -⟩ | ⟨hcode, -⟩ <;> rwa [← hother, hcode]
  · rcases hother.code_eq verbosity format with ⟨⟨hother, -⟩, -⟩ | ⟨hother, -⟩ <;> exact hother
  · rcases hcode with ⟨⟨-, houtput⟩, -⟩ | ⟨hcode, hle, -⟩
    · exact houtput
    · omega
  · rcases hcode with ⟨⟨hcode, -⟩, hlt⟩ | ⟨-, -, hshows⟩
    · omega
    · exact hshows

/-- A place with one page, which names no recipe. -/
def singlePage : Workplace Id where
  files := Project.filesWithTexts [(⟨"docs.md"⟩, "Text")]
  environment := ⟨[]⟩
  here := .ok ⟨"site"⟩
  isTerminal := false

/-- The project in this place. -/
def singleProject : Project Id := ⟨singlePage.files, .standard, ⟨"site"⟩⟩

theorem isProject_singleProject : singlePage.IsProject none singleProject where
  files := rfl
  root := Or.inr ⟨rfl, rfl⟩
  settings := toOption_eq_some_iff.mp (by decide +kernel)

theorem checkEnds_singlePage : singlePage.CheckEnds none [⟨"docs.md"⟩] 1 := by
  have hstart : singleProject.CanCheck [⟨"docs.md"⟩] :=
    ⟨List.forall_mem_singleton.mpr rfl, fun h => absurd h (List.cons_ne_nil _ _)⟩
  have hread : ∀ path, singleProject.IsToCheck [⟨"docs.md"⟩] path →
      ∃ text, singleProject.files.read path = .ok text := by
    rintro path (hpath | ⟨hnil, -⟩)
    · rw [List.mem_singleton.mp hpath]
      exact ⟨"Text", rfl⟩
    · cases hnil
  have hreport : (singleProject.checkPage .builtin ⟨"docs.md"⟩).run = .ok ⟨⟨"docs.md"⟩,
      [⟨"body", "Document does not name a recipe", "missing-recipe", .fail⟩]⟩ :=
    toOption_eq_some_iff.mp (by decide +kernel)
  exact .violation isProject_singleProject hstart hread (Or.inl List.mem_cons_self)
    ⟨_, hreport, _, List.mem_cons_self, rfl⟩

/-- The page has a violation, and a check of it exits with the number for that in either
format. -/
theorem exits_singlePage : singlePage.CheckEnds none [⟨"docs.md"⟩] 1 ∧
    ∀ format, (singlePage.run (checkWords none format [⟨"docs.md"⟩])).status.code = 1 := by
  refine ⟨checkEnds_singlePage, fun format => ?_⟩
  obtain ⟨hcode, -, -, -, hrun⟩ := check_exits_iff singlePage 0 none [⟨"docs.md"⟩] format
  rw [hrun (by simp) (by simp)]
  exact (hcode 1).mpr checkEnds_singlePage

/-- Settings can be loaded in this place, and no file has an empty path. But a check of an empty
path does not exit with the number for a path that is no file, and where the current directory is
not known, a check that is given none exits with a number for that. -/
theorem exits_emptyPath_and_nowhere :
    (Settings.load singlePage.files singlePage.environment (some ⟨"site"⟩)).run =
      .ok .standard ∧
    singlePage.files.isFile ⟨""⟩ = false ∧
    (singlePage.run ["check", ""]).status.code = 2 ∧
    (({ singlePage with here := .error "gone" } : Workplace Id).run ["check"]).status.code = 74 :=
  ⟨isProject_singleProject.settings, rfl, by decide +kernel, by decide +kernel⟩

end Workplace

end PageRecipe
