import Logbook.Proofs.Disk.TreeFolder
import Logbook.Proofs.Intake.Contents

/-! What settings load from a file system: the lines of the log files directly in the folder that is
set, and nothing else. There is no archive if and only if the settings cannot be used or one of
these lines interrupts an intake that aborts.
-/

namespace Logbook.Settings

open Intake Text

/-- The listing of the folder that is set. -/
def listing (settings : Settings) (files : FileSystem) : Except ListFault Folder :=
  files.disk.folder settings.folder settings.suffix

/-- The log files directly in the folder that is set. -/
def logFiles (settings : Settings) (files : FileSystem) : List Source :=
  files.logFiles settings.folder settings.suffix

/-- The folder that is set, if it is one, has names that lead to its items. -/
def ProperFolder (settings : Settings) (files : FileSystem) : Prop :=
  ∀ items, files.at? settings.folder = .ok (.folder items) → FileTree.ProperNames items

theorem properFolder_of_listed {settings : Settings} {files : FileSystem}
    {items : List (Path × FileTree)}
    (listed : files.at? settings.folder = .ok (.folder items))
    (proper : FileTree.ProperNames items)
    : settings.ProperFolder files := by
  intro others found
  rw [listed] at found
  cases found
  exact proper

-----------------------------------------------------------------------------------------
-- Loading is taking in the log files
-----------------------------------------------------------------------------------------

/-- The log files are the sources that are taken in, and where there is no folder there are none. -/
theorem load_listing {settings : Settings} {files : FileSystem}
    (proper : settings.ProperFolder files)
    : settings.load (settings.listing files)
      = settings.intake.takeSources (settings.logFiles files) := by
  rw [listing, logFiles]
  by_cases present : ∃ items, files.at? settings.folder = .ok (.folder items)
  · obtain ⟨items, found⟩ := present
    rw [FileSystem.folder_disk found, ← FileSystem.sources_folder found (proper items found)]
    rfl
  · obtain ⟨⟨fault, unlisted⟩, none⟩ :=
      FileSystem.folder_disk_of_no_folder (not_exists.mp present) settings.suffix
    rw [unlisted, none]
    rfl

/-- What is added to an intake that starts with nothing is all that it has. -/
theorem intake_plus (settings : Settings) (entries : List Entry) (counts : Counts)
    : settings.intake.plus entries counts
      = { settings.intake with entries := entries.toArray, counts } := by
  have counted : settings.intake.counts + counts = counts := zero_add counts
  have stored : settings.intake.entries ++ entries.toArray = entries.toArray :=
    Array.empty_append
  rw [plus, counted, stored]

/-- There is no archive if and only if the settings cannot be used or loading was interrupted. -/
theorem archive_fails_iff {settings : Settings} {listing : Except ListFault Folder}
    : (∃ fault, settings.archive listing = .error fault)
      ↔ settings.bareExtension = [] ∨ settings.limit = 0
        ∨ (settings.load listing).2 ≠ none := by
  rw [Settings.archive, fault?]
  by_cases extension : settings.bareExtension = []
  · simp [extension]
  · by_cases limit : settings.limit = 0
    · simp [extension, limit]
    · simp only [List.isEmpty_iff, extension, limit, if_false, false_or]
      rcases settings.load listing with ⟨intake, _ | stop⟩ <;> simp

/-- An archive holds what was loaded without an interruption. -/
theorem load_of_archive {settings : Settings} {listing : Except ListFault Folder}
    {archive : Archive} (found : settings.archive listing = .ok archive)
    : ∃ intake, settings.load listing = (intake, none) ∧ archive = intake.archive := by
  rw [Settings.archive] at found
  split at found
  · cases found
  · split at found
    · cases found
    · next intake loaded =>
        cases found
        exact ⟨intake, loaded, rfl⟩

/-- The log files are taken in to the end if and only if the policy is to skip or no line lacks a
task.
-/
theorem load_uninterrupted_iff {settings : Settings} {files : FileSystem}
    (proper : settings.ProperFolder files)
    : (settings.load (settings.listing files)).2 = none
      ↔ ¬ (settings.policy = .abort
          ∧ ∃ file ∈ settings.logFiles files, ∃ line ∈ file.lines, ∃ field,
              Entry.ofLine settings.limit line = .error (.malformedTask field)) := by
  rw [load_listing proper, takeSources_eq_none_iff]
  have lacks_iff (line : String)
      : Entry.lacksTask settings.limit line = false
        ↔ ¬ ∃ field, Entry.ofLine settings.limit line = .error (.malformedTask field) := by
    rw [← Entry.lacksTask_eq_true, Bool.not_eq_true]
  simp only [Passes, intake, lacks_iff, List.mem_flatMap]
  constructor
  · rintro passes ⟨abort, file, member, line, inside, lacks⟩
    exact passes abort line ⟨file, member, inside⟩ lacks
  · rintro uninterrupted abort line ⟨file, member, inside⟩ lacks
    exact uninterrupted ⟨abort, file, member, line, inside, lacks⟩

-----------------------------------------------------------------------------------------
-- What is loaded
-----------------------------------------------------------------------------------------

/-- What settings load from a file system, and whether they make an archive of it.

No file below a folder in the folder that is set, and no file with another suffix, has a part in
it, as two file systems with the same log files are loaded alike.
-/
structure LoadsLogFiles (settings : Settings) (files : FileSystem) : Prop where
  lenient
    : settings.policy = .skip
      → let loaded := settings.load (settings.listing files)
        let sources := settings.logFiles files
        loaded.2 = none
        ∧ loaded.1.entries.toList
          = sources.flatMap (fun file => entriesOf settings.limit file.lines)
        ∧ loaded.1.counts.filesRead = sources.length
        ∧ loaded.1.counts.filesFailed = 0
        ∧ loaded.1.counts.linesRead = (sources.flatMap Source.lines).length
  unseen
    : ∀ other : FileSystem,
        settings.ProperFolder other
        → settings.logFiles other = settings.logFiles files
        → settings.load (settings.listing other) = settings.load (settings.listing files)
  missing
    : (∀ items, files.at? settings.folder ≠ .ok (.folder items))
      → let loaded := settings.load (settings.listing files)
        loaded.2 = none ∧ loaded.1.entries = #[] ∧ loaded.1.counts = {}
  fails
    : (∃ fault, settings.archive (settings.listing files) = .error fault)
      ↔ settings.extension.toList.dropWhile (· == '.') = []
        ∨ settings.limit = 0
        ∨ settings.policy = .abort
          ∧ ∃ file ∈ settings.logFiles files, ∃ line ∈ file.lines, ∃ field,
              Entry.ofLine settings.limit line = .error (.malformedTask field)
  succeeds
    : ∀ archive,
        settings.archive (settings.listing files) = .ok archive
        → ∃ intake,
            settings.load (settings.listing files) = (intake, none)
            ∧ archive.entries = intake.entries.toList

/-- Whatever is in the folder that is set, settings load the lines of its log files. -/
theorem loadsLogFiles {settings : Settings} {files : FileSystem}
    (proper : settings.ProperFolder files)
    : LoadsLogFiles settings files := by
  have loaded := load_listing proper
  refine
    {
      lenient := fun skipping => ?_,
      unseen := fun other otherProper same => ?_,
      missing := fun absent => ?_,
      fails := ?_,
      succeeds := fun archive found => ?_,
    }
  · have passes : settings.intake.Passes ((settings.logFiles files).flatMap Source.lines) :=
      passes_of_skip skipping _
    have whole : ∀ file ∈ settings.logFiles files, file.breaksOff = false :=
      fun _ => FileSystem.breaksOff_of_mem_logFiles
    have progress := Counts.progress_sources whole settings.limit
    simp only [Counts.progress, Prod.mk.injEq] at progress
    rw [loaded, takeSources_eq passes, intake_plus]
    exact ⟨rfl, rfl, progress⟩
  · rw [loaded, load_listing otherProper, same]
  · have none := (FileSystem.folder_disk_of_no_folder absent settings.suffix).2
    rw [loaded, logFiles, none]
    exact ⟨rfl, rfl, rfl⟩
  · rw [archive_fails_iff, Ne, load_uninterrupted_iff proper, not_not]
    rfl
  · obtain ⟨intake, taken, rfl⟩ := load_of_archive found
    exact ⟨intake, taken, rfl⟩

/-- A file by a name in capitals that is no text, a folder named like a file, and a file of another
kind: only the first is loaded, and its second line keeps a strict intake from making an archive.
The folder is the same by its path from the root and by one that leads out of the home.
-/
theorem loadsLogFiles_nested
    : let line := "1\tA\t\tLOGIN\tOK"
      let bad := "1\tA\t\tSOLVE_TASK\tOK"
      let written (text : String) : FileTree := .file (Utf8.encode text.toList)
      let items : List (Path × FileTree) :=
        [
          (.ofText "b.log", .folder [(.ofText "c.log", written line)]),
          (0xFF :: Path.ofText ".LOG", written (line ++ "\n" ++ bad)),
          (.ofText "notes.txt", written line)
        ]
      let files : FileSystem :=
        {
          root := .folder [(.ofText "home", .folder []), (.ofText "logs", .folder items)],
          home := [.ofText "home"],
        }
      let lenient : Settings := { folder := .ofText "/logs/", extension := "..Log" }
      let strict : Settings := { lenient with folder := .ofText "../logs", policy := .abort }
      lenient.ProperFolder files
      ∧ (lenient.load (lenient.listing files)).2 = none
      ∧ (lenient.load (lenient.listing files)).1.counts.filesRead = 1
      ∧ (lenient.load (lenient.listing files)).1.counts.linesRead = 2
      ∧ ∃ fault, strict.archive (strict.listing files) = .error fault := by
  intro line bad written items files lenient strict
  have itemsProper : FileTree.ProperNames items :=
    { distinct := by decide +kernel, single := by decide +kernel }
  have fromRoot : lenient.folder.names = [[], Path.ofText "logs", []] := by decide +kernel
  have fromHome : strict.folder.names = [Path.ofText "..", .ofText "logs"] := by decide +kernel
  have listed : files.at? lenient.folder = .ok (.folder items) :=
    FileSystem.at?_eq_ok_iff.mpr ⟨by decide +kernel, fromRoot ▸ rfl⟩
  have strictListed : files.at? strict.folder = .ok (.folder items) :=
    FileSystem.at?_eq_ok_iff.mpr ⟨by decide +kernel, fromHome ▸ rfl⟩
  have proper : lenient.ProperFolder files := properFolder_of_listed listed itemsProper
  have strictProper : strict.ProperFolder files := properFolder_of_listed strictListed itemsProper
  obtain ⟨passed, _, read, _, lines⟩ := (loadsLogFiles proper).lenient rfl
  let file : Source :=
    {
      name := (Path.ofText "../logs/" ++ 0xFF :: Path.ofText ".LOG").shown,
      bytes := Utf8.encode (line ++ "\n" ++ bad).toList,
    }
  have lacks
      : ∃ file ∈ strict.logFiles files, ∃ line ∈ file.lines, ∃ field,
          Entry.ofLine strict.limit line = .error (.malformedTask field) :=
    ⟨file, by decide +kernel, bad, by decide +kernel, "SOLVE_TASK", by decide +kernel⟩
  refine ⟨proper, passed, read.trans (by decide +kernel), lines.trans (by decide +kernel), ?_⟩
  exact (loadsLogFiles strictProper).fails.mpr (.inr (.inr ⟨rfl, lacks⟩))

end Logbook.Settings
