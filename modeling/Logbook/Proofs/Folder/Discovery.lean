import Logbook.Proofs.Disk.TreeFolder
import Logbook.Proofs.Text.AsciiCase

/-! Which files are found as log files.
The case of ASCII letters in their names and in the extension makes no difference. A file with the
extension as it is set is found, unless a capital sigma alone begins the extension: behind a word it
is taken for the end of that word, which no extension taken alone has.
-/

namespace Logbook

open Text

-----------------------------------------------------------------------------------------
-- The names that are found
-----------------------------------------------------------------------------------------

namespace FileSystem

/-- Whether a file is found does not hang on whether it can be read. -/
theorem isLogFile_shown (files : FileSystem) (path : Path) (suffix : String)
    (item : Path × FileTree)
    : Folder.isLogFile suffix (files.shown path suffix item)
      = (item.2.isFile && hasSuffix suffix item.1) := by
  obtain ⟨name, content⟩ := item
  cases content with
  | folder items => rfl
  | file bytes =>
      cases ends : hasSuffix suffix name with
      | false => simp [shown, Disk.item, FileTree.isFile, ends, Folder.isLogFile, pure]
      | true =>
          cases read : files.read (path.join name) <;>
            simp [shown, Disk.item, FileTree.isFile, ends, disk, read, Folder.isLogFile, pure, bind]

theorem fst_shown (files : FileSystem) (path : Path) (suffix : String)
    (item : Path × FileTree)
    : (files.shown path suffix item).1 = item.1 := by
  obtain ⟨name, content⟩ := item
  simp only [shown, Disk.item]
  split
  · cases read : files.disk.read (path.join name) <;> rfl
  · rfl

theorem mem_logFiles_shown {files : FileSystem} {path name : Path} {suffix : String}
    {items : List (Path × FileTree)}
    : name ∈ Folder.logFiles (items.map (files.shown path suffix)) suffix
      ↔ (∃ bytes, (name, .file bytes) ∈ items) ∧ hasSuffix suffix name = true := by
  rw [Folder.logFiles, List.filter_map, List.map_map]
  simp only [List.mem_map, List.mem_filter, Function.comp_apply, isLogFile_shown, fst_shown,
    Bool.and_eq_true]
  constructor
  · rintro ⟨⟨other, content⟩, ⟨member, isFile, ends⟩, rfl⟩
    cases content with
    | file bytes => exact ⟨⟨bytes, member⟩, ends⟩
    | folder items => cases isFile
  · rintro ⟨⟨bytes, member⟩, ends⟩
    exact ⟨(name, .file bytes), ⟨member, rfl, ends⟩, rfl⟩

end FileSystem

namespace Settings

/-- The names of the log files that are found in the folder that is set. -/
def found (settings : Settings) (files : FileSystem) : List Path :=
  match files.disk.folder settings.folder settings.suffix with
  | .ok folder => folder.logFiles settings.suffix
  | .error _ => []

variable {settings : Settings} {files : FileSystem} {items : List (Path × FileTree)}

/-- A regular file in the folder is found exactly when its name has the suffix. -/
theorem mem_found_iff (listed : files.at? settings.folder = .ok (.folder items)) {name : Path}
    {bytes : List UInt8} (present : (name, .file bytes) ∈ items)
    : name ∈ settings.found files ↔ hasSuffix settings.suffix name = true := by
  rw [found, FileSystem.folder_disk listed, FileSystem.mem_logFiles_shown]
  exact and_iff_right ⟨bytes, present⟩

/-- The suffix is the small form of a dot and the extension. -/
theorem toList_suffix (settings : Settings)
    : settings.suffix.toList = lowerCase ('.' :: settings.bareExtension) := by
  rw [suffix, String.toList_ofList, lowerCase_dot]

-----------------------------------------------------------------------------------------
-- Files with the extension as it is set
-----------------------------------------------------------------------------------------

/-- The name of a file with the extension as it is set, without the dots in front of that. -/
def fileName (settings : Settings) (stem : Path) : Path :=
  stem ++ Utf8.encode ('.' :: settings.bareExtension)

/-- The dot keeps the stem apart from the extension, also where the stem is no text. -/
theorem text_fileName (settings : Settings) (stem : Path)
    : (settings.fileName stem).text = stem.text ++ '.' :: settings.bareExtension := by
  have dotted
      : Utf8.encode ('.' :: settings.bareExtension) = 46 :: Utf8.encode settings.bareExtension :=
    rfl
  rw [fileName, dotted, Path.text, Utf8.decode_append_ascii (by decide), Utf8.decode_encode]
  rfl

theorem hasSuffix_fileName (settings : Settings) (stem : Path)
    : hasSuffix settings.suffix (settings.fileName stem) = true
      ↔ ¬(sigmaAlone settings.bareExtension = true ∧ meetsCased stem.text.reverse = true) := by
  rw [hasSuffix, List.isSuffixOf_iff_suffix, toList_suffix, lowerCase_lowerCase, text_fileName,
    lowerCase_suffix_iff, sigmaAlone_dot]

/-- A regular file with the extension as it is set is found, whatever its stem, unless the extension
begins with a capital sigma alone and the stem ends with a word: the sigma then becomes the final
one in the name, but not in the suffix.
-/
theorem found_iff_no_sigma {stem : Path} {bytes : List UInt8}
    (listed : files.at? settings.folder = .ok (.folder items))
    (present : (settings.fileName stem, .file bytes) ∈ items)
    : settings.fileName stem ∈ settings.found files
      ↔ ¬(sigmaAlone settings.bareExtension = true ∧ meetsCased stem.text.reverse = true) := by
  rw [mem_found_iff listed present, hasSuffix_fileName]

/-- The file system with these items in the folder of log files. -/
def filesOfLogs (items : List (Path × FileTree)) : FileSystem :=
  { root := .folder [(.ofText "logs", .folder items)] }

theorem at?_filesOfLogs (items : List (Path × FileTree))
    : (filesOfLogs items).at? (.ofText "logs") = .ok (.folder items) := by
  have names : Path.names (.ofText "logs") = [.ofText "logs"] := by decide +kernel
  have plain
      : Path.ofText "logs" ≠ []
        ∧ Path.ofText "logs" ≠ Path.here
        ∧ Path.ofText "logs" ≠ Path.above := by
    decide +kernel
  refine FileSystem.at?_eq_ok_iff.mpr ⟨plain.1, ?_⟩
  simp [filesOfLogs, FileSystem.start, names, FileTree.walk, plain]

/-- A sigma that is not the first letter of the extension is lowered alike in both places. -/
theorem found_iff_no_sigma_first
    : let settings : Settings := { extension := "..İΣ" }
      let items : List (Path × FileTree) := [(.ofText "ΟΔΟΣ.İΣ", .file [])]
      let files := filesOfLogs items
      files.at? settings.folder = .ok (.folder items)
      ∧ (settings.fileName (.ofText "ΟΔΟΣ"), .file []) ∈ items
      ∧ settings.fileName (.ofText "ΟΔΟΣ") ∈ settings.found files := by
  intro settings items files
  have listed : files.at? settings.folder = .ok (.folder items) := at?_filesOfLogs items
  have name : settings.fileName (.ofText "ΟΔΟΣ") = .ofText "ΟΔΟΣ.İΣ" := by decide +kernel
  have present : (settings.fileName (.ofText "ΟΔΟΣ"), .file []) ∈ items := by simp [name, items]
  have first : sigmaAlone settings.bareExtension = false := by decide +kernel
  exact ⟨listed, present, (found_iff_no_sigma listed present).mpr (by simp [first])⟩

/-- With the extension `Σ` a file with just this extension is not found. -/
theorem file_with_sigma_missed
    : let settings : Settings := { extension := "Σ" }
      let items : List (Path × FileTree) := [(.ofText "α.Σ", .file [])]
      let files := filesOfLogs items
      settings.fault? = none
      ∧ files.at? settings.folder = .ok (.folder items)
      ∧ (settings.fileName (.ofText "α"), .file []) ∈ items
      ∧ settings.fileName (.ofText "α") ∉ settings.found files := by
  intro settings items files
  have listed : files.at? settings.folder = .ok (.folder items) := at?_filesOfLogs items
  have name : settings.fileName (.ofText "α") = .ofText "α.Σ" := by decide +kernel
  have present : (settings.fileName (.ofText "α"), .file []) ∈ items := by simp [name, items]
  have missed : hasSuffix settings.suffix (settings.fileName (.ofText "α")) = false := by
    decide +kernel
  refine ⟨by decide +kernel, listed, present, ?_⟩
  rw [mem_found_iff listed present, missed]
  exact Bool.false_ne_true

-----------------------------------------------------------------------------------------
-- The case of ASCII letters
-----------------------------------------------------------------------------------------

/-- The texts differ at most in the case of ASCII letters. -/
def AlikeInAscii (left right : String) : Prop :=
  left.toList.map Char.toLower = right.toList.map Char.toLower

instance (left right : String) : Decidable (AlikeInAscii left right) :=
  inferInstanceAs (Decidable (left.toList.map Char.toLower = right.toList.map Char.toLower))

/-- No dot is a letter, so the dots in front of both extensions are the same. -/
theorem AlikeInAscii.suffix_eq {left right : Settings}
    (h : AlikeInAscii left.extension right.extension)
    : left.suffix = right.suffix := by
  have bare (settings : Settings)
      : settings.bareExtension.map Char.toLower
        = (settings.extension.toList.map Char.toLower).dropWhile (· == '.') := by
    have dot : ((· == '.') ∘ Char.toLower : Char → Bool) = (· == '.') :=
      funext (eq_toLower_of_capitals (f := (· == '.')) (by decide +kernel))
    rw [bareExtension, List.dropWhile_map, dot]
  rw [suffix, suffix, ← lowerCase_map_toLower, bare, h, ← bare, lowerCase_map_toLower]

/-- The names differ at most in the case of ASCII letters, byte by byte. -/
def NamesAlike (left right : Path) : Prop :=
  left.map Utf8.smallByte = right.map Utf8.smallByte

instance (left right : Path) : Decidable (NamesAlike left right) :=
  inferInstanceAs (Decidable (left.map Utf8.smallByte = right.map Utf8.smallByte))

theorem NamesAlike.lowerCase_eq {left right : Path} (h : NamesAlike left right)
    : lowerCase left.text = lowerCase right.text := by
  have small : left.text.map Char.toLower = right.text.map Char.toLower := by
    rw [Path.text, Path.text, ← Utf8.decode_map_smallByte, h, Utf8.decode_map_smallByte]
  rw [← lowerCase_map_toLower left.text, small, lowerCase_map_toLower]

/-- Changing the case of ASCII letters in the name of a regular file and in the extension makes no
difference to whether the file is found.
-/
theorem found_iff_alike {left right : Settings} {leftFiles rightFiles : FileSystem}
    {leftItems rightItems : List (Path × FileTree)} {leftName rightName : Path}
    {leftBytes rightBytes : List UInt8}
    (leftListed : leftFiles.at? left.folder = .ok (.folder leftItems))
    (rightListed : rightFiles.at? right.folder = .ok (.folder rightItems))
    (leftPresent : (leftName, .file leftBytes) ∈ leftItems)
    (rightPresent : (rightName, .file rightBytes) ∈ rightItems)
    (names : NamesAlike leftName rightName)
    (extensions : AlikeInAscii left.extension right.extension)
    : leftName ∈ left.found leftFiles ↔ rightName ∈ right.found rightFiles := by
  rw [mem_found_iff leftListed leftPresent, mem_found_iff rightListed rightPresent,
    extensions.suffix_eq, hasSuffix, hasSuffix, names.lowerCase_eq]

/-- A sigma at the end of a word is final whatever the case of the letter in front of it, and a byte
that is no text is no part of the word.
-/
theorem found_iff_alike_final_sigma
    : let left : Settings := { extension := ".LogΣ" }
      let right : Settings := { extension := ".lOGΣ" }
      let leftName : Path := 0xFF :: Path.ofText "AΣ.logΣ"
      let rightName : Path := 0xFF :: Path.ofText "aΣ.LOGΣ"
      NamesAlike leftName rightName
      ∧ AlikeInAscii left.extension right.extension
      ∧ leftName ∈ left.found (filesOfLogs [(leftName, .file [])])
      ∧ rightName ∈ right.found (filesOfLogs [(rightName, .file [])]) := by
  intro left right leftName rightName
  have leftListed := at?_filesOfLogs [(leftName, .file [])]
  have rightListed := at?_filesOfLogs [(rightName, .file [])]
  have names : NamesAlike leftName rightName := by decide +kernel
  have extensions : AlikeInAscii left.extension right.extension := by decide +kernel
  have found : leftName ∈ left.found (filesOfLogs [(leftName, .file [])]) :=
    (mem_found_iff leftListed List.mem_cons_self).mpr (by decide +kernel)
  have alike :=
    found_iff_alike leftListed rightListed List.mem_cons_self List.mem_cons_self names extensions
  exact ⟨names, extensions, found, alike.mp found⟩

end Settings

end Logbook
