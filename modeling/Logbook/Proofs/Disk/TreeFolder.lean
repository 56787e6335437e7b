import Mathlib.Data.List.Basic
import Logbook.Disk.Tree

/-! A folder of a file system as the disk shows it: the files in it are read by the path of the
folder with their name behind it, and no other file is.
-/

namespace Logbook

open Text

-----------------------------------------------------------------------------------------
-- Joined paths
-----------------------------------------------------------------------------------------

/-- The path of a name in a folder is one slash and the name behind the path of the folder, which
may bring the slash.
-/
theorem Path.join_eq {path : Path} (named : path ≠ []) (name : Path)
    : ∃ front,
        (path = front ∨ path = front ++ [slash]) ∧ path.join name = front ++ slash :: name := by
  have notEmpty : path.isEmpty = false := List.isEmpty_eq_false_iff.mpr named
  rw [join, notEmpty, Bool.false_or]
  split
  · next slashed =>
      obtain ⟨front, split⟩ := List.getLast?_eq_some_iff.mp (eq_of_beq slashed)
      exact ⟨front, .inr split, by simp [split]⟩
  · exact ⟨path, .inl rfl, rfl⟩

/-- A path begins where the path of its folder begins. -/
theorem Path.isAbsolute_join {path : Path} (named : path ≠ []) (name : Path)
    : (path.join name).isAbsolute = path.isAbsolute := by
  obtain ⟨first, rest, rfl⟩ := List.exists_cons_of_ne_nil named
  unfold join
  split <;> rfl

namespace FileTree

-----------------------------------------------------------------------------------------
-- Walks
-----------------------------------------------------------------------------------------

/-- The names in a folder tell its items apart, and each leads to its item: it is not empty, not
one of the names with a meaning of their own, and no path of several names.
-/
structure ProperNames (items : List (Path × FileTree)) : Prop where
  distinct : (items.map Prod.fst).Nodup
  single
    : ∀ item ∈ items,
        item.1 ≠ [] ∧ item.1 ≠ Path.here ∧ item.1 ≠ Path.above ∧ Path.slash ∉ item.1

/-- Walking on behind the end of a path, by induction on the path. -/
theorem walk_append (passed : List FileTree) (tree : FileTree) (front : List Path)
    : ∃ behind, ∀ back,
        walk passed tree (front ++ back)
        = (walk passed tree front).bind fun target => walk behind target back := by
  induction front generalizing passed tree with
  | nil => exact ⟨passed, fun _ => rfl⟩
  | cons name rest ih =>
      cases tree with
      | file bytes => exact ⟨passed, fun _ => rfl⟩
      | folder items =>
          simp only [List.cons_append, walk]
          by_cases stays : name = [] ∨ name = Path.here
          · simp only [if_pos stays]
            exact ih passed (folder items)
          · simp only [if_neg stays]
            by_cases back : name = Path.above
            · simp only [if_pos back]
              cases passed with
              | nil => exact ih [] (folder items)
              | cons parent passed => exact ih passed parent
            · simp only [if_neg back]
              cases items.lookup name with
              | none => exact ⟨passed, fun _ => rfl⟩
              | some next => exact ih (folder items :: passed) next

/-- An empty name at the end of a path leads nowhere else. -/
theorem walk_of_walk_append_empty {passed : List FileTree} {tree target : FileTree}
    {front : List Path} (found : walk passed tree (front ++ [[]]) = .ok target)
    : walk passed tree front = .ok target := by
  obtain ⟨behind, walked⟩ := walk_append passed tree front
  rw [walked] at found
  cases reached : walk passed tree front with
  | error fault =>
      rw [reached] at found
      cases found
  | ok last =>
      rw [reached] at found
      cases last with
      | file bytes => cases found
      | folder items => simpa [Except.bind, walk] using found

theorem lookup_of_mem {items : List (Path × FileTree)} {name : Path} {item : FileTree}
    (distinct : (items.map Prod.fst).Nodup) (member : (name, item) ∈ items)
    : items.lookup name = some item := by
  obtain ⟨front, back, rfl⟩ := List.append_of_mem member
  refine List.lookup_eq_some_iff.mpr ⟨front, back, rfl, fun other earlier => ?_⟩
  rw [List.map_append, List.map_cons, List.nodup_append] at distinct
  have differs := distinct.2.2 other.1 (List.mem_map_of_mem earlier) name List.mem_cons_self
  simpa using Ne.symm differs

end FileTree

namespace FileSystem

open FileTree

-----------------------------------------------------------------------------------------
-- What a path leads to
-----------------------------------------------------------------------------------------

theorem at?_eq_ok_iff {files : FileSystem} {path : Path} {found : FileTree}
    : files.at? path = .ok found
      ↔ path ≠ [] ∧ files.root.walk [] (files.start path ++ path.names) = .ok found := by
  rw [at?]
  by_cases empty : path = []
  · simp [empty]
  · simp [empty]

theorem start_join {path : Path} (files : FileSystem) (named : path ≠ []) (name : Path)
    : files.start (path.join name) = files.start path := by
  rw [start, start, Path.isAbsolute_join named]

/-- What a path leads to is reached by a joined path up to the slash in front of the name. -/
theorem exists_walk_join {files : FileSystem} {found : FileTree} {path name : Path}
    (reached : files.at? path = .ok found) (single : Path.slash ∉ name)
    : ∃ front,
        files.start (path.join name) ++ (path.join name).names = front ++ [name]
        ∧ files.root.walk [] front = .ok found := by
  obtain ⟨named, walked⟩ := at?_eq_ok_iff.mp reached
  obtain ⟨front, same, joined⟩ := Path.join_eq named name
  refine ⟨files.start path ++ Path.names front, ?_, ?_⟩
  · rw [start_join files named, joined, Path.names, List.splitOn_append_cons_self,
      List.splitOn_eq_singleton single, List.append_assoc]
    rfl
  · rcases same with rfl | slashed
    · exact walked
    · have names : path.names = Path.names front ++ [[]] := by
        rw [Path.names, slashed, List.splitOn_append_cons_self]
        rfl
      rw [names, ← List.append_assoc] at walked
      exact walk_of_walk_append_empty walked

/-- An item of a folder is at the end of its joined path. -/
theorem at?_join {files : FileSystem} {item : FileTree} {path name : Path}
    {items : List (Path × FileTree)} (found : files.at? path = .ok (.folder items))
    (proper : ProperNames items) (member : (name, item) ∈ items)
    : files.at? (path.join name) = .ok item := by
  obtain ⟨notEmpty, notHere, notAbove, single⟩ := proper.single _ member
  obtain ⟨front, along, reached⟩ := exists_walk_join found single
  obtain ⟨behind, goesOn⟩ := walk_append [] files.root front
  have named : path.join name ≠ [] := by
    obtain ⟨front, -, joined⟩ := Path.join_eq (at?_eq_ok_iff.mp found).1 name
    simp [joined]
  refine at?_eq_ok_iff.mpr ⟨named, ?_⟩
  rw [along, goesOn, reached]
  simp [Except.bind, walk, notEmpty, notHere, notAbove, lookup_of_mem proper.distinct member]

-----------------------------------------------------------------------------------------
-- The folder that the disk shows
-----------------------------------------------------------------------------------------

/-- The source that an item of a folder is: only a regular file is one, and only if its name in
small letters ends with the suffix in small letters.
-/
def logFile? (path : Path) (suffix : String) : Path × FileTree → Option Source
  | (name, .file bytes) =>
      if lowerCase suffix.toList <:+ lowerCase name.text then
        some { name := (path.join name).shown, bytes }
      else
        none
  | (_, .folder _) => none

/-- The log files that lie directly in the folder at the end of a path, in the order in which they
are listed. What is no folder has none.
-/
def logFiles (files : FileSystem) (path : Path) (suffix : String) : List Source :=
  match files.at? path with
  | .ok (.folder items) => items.filterMap (logFile? path suffix)
  | _ => []

/-- A file in a file system is read to its end. -/
theorem breaksOff_of_mem_logFiles {files : FileSystem} {path : Path} {suffix : String}
    {source : Source} (member : source ∈ files.logFiles path suffix)
    : source.breaksOff = false := by
  unfold logFiles at member
  split at member
  · obtain ⟨item, _, found⟩ := List.mem_filterMap.mp member
    unfold logFile? at found
    split at found
    · split at found
      · cases found
        rfl
      · cases found
    · cases found
  · cases member

/-- What the disk shows of an item. -/
def shown (files : FileSystem) (path : Path) (suffix : String) (item : Path × FileTree)
    : Path × FolderItem :=
  files.disk.item path suffix (item.1, item.2.isFile)

theorem shown_file {files : FileSystem} {path name : Path} {suffix : String}
    {bytes : List UInt8} (read : files.at? (path.join name) = .ok (.file bytes))
    : files.shown path suffix (name, .file bytes)
      = (name, if hasSuffix suffix name then .file bytes false else .folder) := by
  have bytes_read : files.read (path.join name) = .ok bytes := by
    unfold FileSystem.read
    rw [read]
  cases ends : hasSuffix suffix name with
  | false =>
      simp only [shown, Disk.item, isFile, ends, Bool.true_and, Bool.false_eq_true, if_false]
      rfl
  | true =>
      simp only [shown, Disk.item, isFile, ends, Bool.true_and, if_true, disk, bytes_read]
      rfl

/-- An item of a folder counts as the disk shows it for what it is in the tree. -/
theorem source?_shown {files : FileSystem} {path : Path} {items : List (Path × FileTree)}
    (found : files.at? path = .ok (.folder items)) (proper : ProperNames items)
    (suffix : String) {item : Path × FileTree} (member : item ∈ items)
    : (if Folder.isLogFile suffix (files.shown path suffix item) then
        Folder.source? path (files.shown path suffix item)
      else
        none)
      = logFile? path suffix item := by
  obtain ⟨name, content⟩ := item
  cases content with
  | folder items => rfl
  | file bytes =>
      rw [shown_file (at?_join found proper member), logFile?]
      have ends_iff
          : hasSuffix suffix name = true
            ↔ lowerCase suffix.toList <:+ lowerCase name.text :=
        List.isSuffixOf_iff_suffix
      by_cases ends : hasSuffix suffix name = true
      · simp only [ends, if_pos (ends_iff.mp ends), Folder.isLogFile, Folder.source?, if_true]
      · simp only [ends, if_neg (mt ends_iff.mpr ends), Folder.isLogFile]
        rfl

theorem folder_disk {files : FileSystem} {path : Path} {items : List (Path × FileTree)}
    (found : files.at? path = .ok (.folder items)) (suffix : String)
    : files.disk.folder path suffix = .ok (items.map (files.shown path suffix)) := by
  have listed : files.disk.list path = .ok (items.map fun item => (item.1, item.2.isFile)) := by
    simp [disk, list, found]
  have each
      : (items.map fun item => (item.1, item.2.isFile)).mapM (files.disk.item path suffix)
        = items.map (files.shown path suffix) := by
    refine List.idRun_mapM.trans ?_
    rw [List.map_map]
    rfl
  rw [Disk.folder, listed]
  exact congrArg Except.ok each

theorem sources_folder {files : FileSystem} {path : Path} {items : List (Path × FileTree)}
    (found : files.at? path = .ok (.folder items)) (proper : ProperNames items)
    (suffix : String)
    : Folder.sources (items.map (files.shown path suffix)) path suffix
      = files.logFiles path suffix := by
  rw [Folder.sources, List.filterMap_filter, List.filterMap_map, logFiles, found]
  exact List.filterMap_congr fun item member => source?_shown found proper suffix member

/-- What is no folder is not listed and has no log files. -/
theorem folder_disk_of_no_folder {files : FileSystem} {path : Path}
    (absent : ∀ items, files.at? path ≠ .ok (.folder items)) (suffix : String)
    : (∃ fault, files.disk.folder path suffix = .error fault)
      ∧ files.logFiles path suffix = [] := by
  have unlisted : ∃ fault, files.disk.list path = .error fault := by
    simp only [disk, list]
    split
    · next items found => exact absurd found (absent items)
    all_goals exact ⟨_, rfl⟩
  constructor
  · obtain ⟨fault, unlisted⟩ := unlisted
    rw [Disk.folder, unlisted]
    exact ⟨fault, rfl⟩
  · unfold logFiles
    split
    · next items found => exact absurd found (absent items)
    · rfl

end FileSystem

end Logbook
