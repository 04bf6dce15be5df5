import PageRecipe.Proofs.Files.PathOrder
import PageRecipe.Proofs.Files.TreeFiles
import PageRecipe.Proofs.Project.PageFindings

/-!
# Which files are the pages of a project

The pages are looked for by a walk through the content directory. Here the files of a project are
those of a tree, so what is in the content directory is told by the names under which it is found
there. `Project.pages_inTree` says that the pages are the files of the right name, in the order
of their paths, and that looking for them fails exactly when the content directory is no
directory.
-/

namespace PageRecipe.Project

variable {project : Project Id} {tree : FileTree} {here : List String}

theorem run_pages_of_notInTree (hfiles : project.files = tree.system here)
    (h : ∀ entries, tree.find here project.contentDirectory ≠ .ok (.directory entries)) :
    project.pages.run = .error (.contentNotFound project.contentDirectory) := by
  refine run_pages_of_noDirectory ?_
  simp only [hfiles, FileTree.system]
  split
  · next found hfound =>
    cases found with
    | directory entries => exact absurd hfound (h entries)
    | file | link => rfl
  · rfl

/-- The pages are the files in the content directory that have the right name, sorted. -/
theorem run_pages_of_inTree (hfiles : project.files = tree.system here) (hproper : tree.IsProper)
    {entries : List (String × FileTree)}
    (h : tree.find here project.contentDirectory = .ok (.directory entries)) :
    project.pages.run = .ok ((((FileTree.directory entries).placesNamed
      project.settings.pageFileName).map project.contentDirectory.below).mergeSort
        FilePath.le) := by
  have hdirectory : project.files.isDirectory project.contentDirectory = true := by
    simp only [hfiles, FileTree.system, h]
    rfl
  have hbelow : project.files.filesBelow project.contentDirectory =
      (FileTree.directory entries).filePlaces.map project.contentDirectory.below := by
    simp only [hfiles, FileTree.system, h, FileTree.filesAt_eq]
  rw [run_pages_of_isDirectory hdirectory, hbelow,
    FileTree.filter_isNamed_eq (hproper.of_find h) (FileTree.text_ne_nil_of_find h)]

/-- Looking for pages fails when the content directory is no directory, and not else. The pages
are the files that names lead to from the content directory, through directories, of which the
last one is the right name. Each of them is there once, and they are in ascending order of the
parts of their paths. -/
theorem pages_inTree (project : Project Id) (tree : FileTree) (here : List String)
    (hfiles : project.files = tree.system here) (hproper : tree.IsProper) :
    (∀ error, project.pages.run = .error error ↔
      error = .contentNotFound (project.root.join ⟨project.settings.contentDirectory⟩) ∧
        ∀ entries, tree.find here (project.root.join ⟨project.settings.contentDirectory⟩) ≠
          .ok (.directory entries)) ∧
    ∀ entries, tree.find here (project.root.join ⟨project.settings.contentDirectory⟩) =
        .ok (.directory entries) →
      ∃ places : List (List String),
        project.pages.run =
          .ok (places.map (project.root.join ⟨project.settings.contentDirectory⟩).below) ∧
        (∀ names, names ∈ places ↔
          (∃ bytes, (FileTree.directory entries).at? names = some (.file bytes)) ∧
            names.getLast? = some project.settings.pageFileName) ∧
        (places.map (project.root.join ⟨project.settings.contentDirectory⟩).below).Pairwise
          FilePath.ComesBefore := by
  have hdirectory : project.root.join ⟨project.settings.contentDirectory⟩ =
      project.contentDirectory := rfl
  rw [hdirectory]
  refine ⟨fun error => ⟨fun hrun => ?_, ?_⟩, fun entries hfind => ?_⟩
  · by_cases hdirectory : ∃ entries,
        tree.find here project.contentDirectory = .ok (.directory entries)
    · obtain ⟨entries, hfind⟩ := hdirectory
      cases (run_pages_of_inTree hfiles hproper hfind).symm.trans hrun
    · have hnone := not_exists.mp hdirectory
      exact ⟨Except.error.inj (hrun.symm.trans (run_pages_of_notInTree hfiles hnone)), hnone⟩
  · rintro ⟨rfl, hnone⟩
    exact run_pages_of_notInTree hfiles hnone
  · have hcontent := hproper.of_find hfind
    have hsorted := List.map_mergeSort (s := FilePath.le) (f := project.contentDirectory.below)
      (l := (FileTree.directory entries).placesNamed project.settings.pageFileName)
      fun _ _ _ _ => rfl
    refine ⟨_, (run_pages_of_inTree hfiles hproper hfind).trans (congrArg _ hsorted.symm),
      fun names => List.mem_mergeSort.trans (FileTree.mem_placesNamed_iff hcontent), ?_⟩
    rw [hsorted]
    exact FilePath.pairwise_comesBefore_mergeSort
      (FileTree.nodup_parts_placesNamed hcontent (FileTree.text_ne_nil_of_find hfind) _)

/-- The content of a project : a directory with the name of pages that holds a page, one with a
page beside it, and a link to a page. -/
def crowdedContent : List (String × FileTree) :=
  [("a-b", .directory [("docs.md", .file .empty)]),
    ("a", .directory [("docs.md", .directory [("docs.md", .file .empty)])]),
    ("docs.md", .link ⟨"a-b/docs.md"⟩)]

/-- The project with this content. -/
def crowdedProject : Project Id :=
  ⟨(FileTree.directory [("content", .directory crowdedContent)]).system [], .standard, ⟨"/"⟩⟩

theorem find_crowdedProject : (FileTree.directory [("content", .directory crowdedContent)]).find []
    crowdedProject.contentDirectory = .ok (.directory crowdedContent) := by
  have hpath : crowdedProject.contentDirectory = ⟨"/content"⟩ := by decide
  have habsolute : (⟨"/content"⟩ : FilePath).isAbsolute = true := by decide
  have hsegments : segments "/content".toList = [[], "content".toList] := by decide
  have hresolve : (FileTree.directory [("content", .directory crowdedContent)]).resolve
      FileTree.maxLinks [] [[], "content".toList] = .ok ["content"] := by
    simp [FileTree.resolve, FileTree.at?, FileTree.entry?, FileTree.isDirectory]
  have hlocate : (FileTree.directory [("content", .directory crowdedContent)]).locate []
      ⟨"/content"⟩ = .ok ["content"] := by
    rw [FileTree.locate, if_neg (by decide), hsegments, habsolute, if_pos rfl]
    exact congrArg (Except.map List.reverse) hresolve
  rw [hpath, FileTree.find, hlocate]
  rfl

/-- Both pages are found, and neither the directory nor the link. -/
theorem pages_crowdedProject :
    (FileTree.directory [("content", .directory crowdedContent)]).IsProper ∧
    (FileTree.directory [("content", .directory crowdedContent)]).find []
      crowdedProject.contentDirectory = .ok (.directory crowdedContent) ∧
    ∃ places : List (List String),
      crowdedProject.pages.run = .ok (places.map crowdedProject.contentDirectory.below) ∧
      ["a", "docs.md", "docs.md"] ∈ places ∧ ["a-b", "docs.md"] ∈ places ∧
      ["a", "docs.md"] ∉ places ∧ ["docs.md"] ∉ places := by
  have hcontent : (FileTree.directory crowdedContent).IsProper :=
    .directory (by decide) (by decide) <| List.forall_mem_cons.mpr
      ⟨.directory (by decide) (by decide) (List.forall_mem_singleton.mpr (.file _)),
        List.forall_mem_cons.mpr
          ⟨.directory (by decide) (by decide) <| List.forall_mem_singleton.mpr <|
            .directory (by decide) (by decide) (List.forall_mem_singleton.mpr (.file _)),
            List.forall_mem_singleton.mpr (.link _)⟩⟩
  have hproper : (FileTree.directory [("content", .directory crowdedContent)]).IsProper :=
    .directory (by decide) (by decide) (List.forall_mem_singleton.mpr hcontent)
  obtain ⟨places, hrun, hplaces, -⟩ :=
    (pages_inTree crowdedProject _ [] rfl hproper).2 crowdedContent find_crowdedProject
  refine ⟨hproper, find_crowdedProject, places, hrun, ?_, ?_, ?_, ?_⟩ <;> rw [hplaces]
  · exact ⟨⟨.empty, rfl⟩, rfl⟩
  · exact ⟨⟨.empty, rfl⟩, rfl⟩
  · rintro ⟨⟨bytes, hfile⟩, -⟩
    cases hfile
  · rintro ⟨⟨bytes, hfile⟩, -⟩
    cases hfile

end PageRecipe.Project
