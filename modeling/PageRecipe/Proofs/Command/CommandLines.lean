import PageRecipe.Command.Arguments

/-!
# Command lines for checks

Every list of paths can be given to a check, behind two dashes that end the options, together
with a format and a directory of the project (`ofWords_checkWords`). Only the empty text is no
path.
-/

namespace PageRecipe

/-- The name of a format. -/
def OutputFormat.name : OutputFormat → String
  | text => "text"
  | json => "json"

/-- The words that ask for a check. -/
def checkWords (directory : Option FilePath) (format : OutputFormat) (paths : List FilePath) :
    List String :=
  (directory.map fun directory => "--project-dir=" ++ directory.text).toList ++
    "check" :: "--format" :: format.name :: "--" :: paths.map FilePath.text

namespace CommandLevel

/-- What is given to a check when its options have ended : a format, and paths. -/
def givenPaths (format : OutputFormat) (paths : List String) : Given :=
  { Given.nothing with
    format := some format, pending := some (.operand, paths), onlyOperands := true }

/-- Words behind the first path are paths. -/
theorem read_givenPaths (format : OutputFormat) (before words : List String) :
    check.read (givenPaths format before) words =
      (givenPaths format (before ++ words)).finish check := by
  induction words generalizing before with
  | nil =>
    rw [List.append_nil]
    rfl
  | cons word words ih =>
    have hword : check.read (givenPaths format before) (word :: words) =
        check.read (givenPaths format (before ++ [word])) words := by
      rw [read]
      rfl
    rw [hword, ih, List.append_assoc]
    rfl

theorem finish_givenPaths {format : OutputFormat} {words : List String}
    (hwords : ∀ word ∈ words, word ≠ "") :
    (givenPaths format words).finish check =
      .ok ⟨0, none, .check (words.map (⟨·⟩)) format⟩ := by
  have haccepts : words.all check.accepts = true := by
    simpa [accepts] using hwords
  have hsettle : (givenPaths format words).settle check =
      .ok { givenPaths format words with operands := words, pending := none } := by
    simp only [Given.settle, givenPaths, Given.take, haccepts]
    rfl
  rw [Given.finish, hsettle]
  rfl

/-- The options of a check that are followed by two dashes. -/
theorem read_check (format : OutputFormat) (words : List String)
    (hwords : ∀ word ∈ words, word ≠ "") :
    check.read .nothing ("--format" :: format.name :: "--" :: words) =
      .ok ⟨0, none, .check (words.map (⟨·⟩)) format⟩ := by
  cases words with
  | nil => cases format <;> rfl
  | cons word words =>
    have hfirst : check.read .nothing ("--format" :: format.name :: "--" :: word :: words) =
        check.read (givenPaths format [word]) words := by
      cases format <;> rfl
    rw [hfirst, read_givenPaths, List.singleton_append, finish_givenPaths hwords]

/-- What is given to the program when a directory of the project is. -/
def givenDirectory (directory : Option String) : Given :=
  { Given.nothing with projectDirectory := directory }

/-- What a check says is joined with the directory in front of it. -/
theorem read_program {words : List String} {command : Command}
    (h : check.read .nothing words = .ok ⟨0, none, command⟩) (directory : Option String) :
    program.read (givenDirectory directory) ("check" :: words) =
      .ok ⟨0, directory.map (⟨·⟩), command⟩ := by
  have hread : program.read (givenDirectory directory) ("check" :: words) =
      (check.read .nothing words).bind fun inner =>
        .ok ((givenDirectory directory).around inner) := rfl
  rw [hread, h]
  rfl

/-- A word that starts with a dash is no command. -/
theorem below?_of_dash {level : CommandLevel} {word : String} (h : word.toList.head? = some '-') :
    level.below? word = none := by
  unfold below?
  split <;> first | rfl | simp at h

/-- The word that gives a directory of the project. -/
theorem read_directory {directory : String} (hne : directory ≠ "") (words : List String) :
    program.read .nothing (("--project-dir=" ++ directory) :: words) =
      program.read (givenDirectory (some directory)) words := by
  have hword : ("--project-dir=" ++ directory).toList =
      '-' :: '-' :: ("project-dir=".toList ++ directory.toList) := by
    simp
  have hhelp : "--project-dir=" ++ directory ≠ "help" := fun h => by
    have := congrArg String.toList h
    rw [hword] at this
    cases this
  have hbelow : program.below? ("--project-dir=" ++ directory) = none :=
    below?_of_dash (by rw [hword]; rfl)
  have hadd : Given.nothing.addWord program ("--project-dir=" ++ directory) =
      .ok (givenDirectory (some directory)) := by
    have hname : ("project-dir=".toList ++ directory.toList).takeWhile (· != '=') =
        "project-dir".toList := rfl
    have hvalue : (("project-dir=".toList ++ directory.toList).dropWhile (· != '=')).tail =
        directory.toList := rfl
    have hsign : ("project-dir=".toList ++ directory.toList).contains '=' = true := by simp
    have htake : Given.nothing.take program .projectDirectory [directory] =
        .ok (givenDirectory (some directory)) := by
      simp [Given.take, Given.nothing, givenDirectory, hne]
    have hnamed : Given.nothing.addWord program ("--project-dir=" ++ directory) =
        Given.nothing.addNamed program ("project-dir=".toList ++ directory.toList) := by
      simp only [Given.addWord, hword]
      rfl
    rw [hnamed, Given.addNamed]
    simp only [hname, hvalue, hsign, if_true, String.ofList_toList]
    exact htake
  rw [read]
  simp only [hbelow, hadd, hhelp]
  rfl

end CommandLevel

/-- Every list of paths can be given to a check, with either format and any directory of the
project. -/
theorem ofWords_checkWords {directory : Option FilePath} (format : OutputFormat)
    {paths : List FilePath} (hdirectory : ∀ path ∈ directory, path.text ≠ "")
    (hpaths : ∀ path ∈ paths, path.text ≠ "") :
    Invocation.ofWords (checkWords directory format paths) =
      .ok ⟨0, directory, .check paths format⟩ := by
  have hread : CommandLevel.check.read .nothing
      ("--format" :: format.name :: "--" :: paths.map FilePath.text) =
        .ok ⟨0, none, .check paths format⟩ := by
    rw [CommandLevel.read_check _ _ (by simpa using hpaths), List.map_map]
    simp [Function.comp_def]
  cases directory with
  | none => exact CommandLevel.read_program hread none
  | some directory =>
    have hne : directory.text ≠ "" := hdirectory directory rfl
    exact (CommandLevel.read_directory hne _).trans
      (CommandLevel.read_program hread (some directory.text))

end PageRecipe
