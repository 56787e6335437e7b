import Logbook.Settings
import Logbook.Text.Utf8
import Logbook.Toml.Document

/-! Settings written in a TOML document.
Settings that are not mentioned keep their default, and members that set nothing are passed over.
-/

namespace Logbook.Settings

open Toml

/-- What is made of a member that has to be a text. -/
def textMember? {α : Type} (members : Members) (key : String) (make : String → α) (default : α)
    : Option α :=
  match members.get? key with
  | none => some default
  | some (.text text) => some (make text)
  | some _ => none

/-- A member that has to be a number of 64 bits. -/
def numberMember? (members : Members) (key : String) (default : Nat) : Option Nat :=
  match members.get? key with
  | none => some default
  | some (.integer n) => if 0 ≤ n ∧ n ≤ largestLimit then some n.toNat else none
  | some _ => none

/-- A member that has to be a policy: its name, or a table whose only member has that name and is
empty itself.
-/
def policyMember? (members : Members) (key : String) (default : Policy) : Option Policy :=
  match members.get? key with
  | none => some default
  | some (.text name) => Policy.ofName? name
  | some (.table _ [(name, .table _ [])]) => Policy.ofName? name
  | some (.table _ [(name, .array _ [])]) => Policy.ofName? name
  | some _ => none

/-- The settings that the members of a document make. -/
def ofMembers? (members : Members) : Option Settings := do
  let default : Settings := {}
  return {
    folder := ← textMember? members "log_dir" Path.ofText default.folder,
    extension := ← textMember? members "extension" id default.extension,
    limit := ← numberMember? members "max_line_size" default.limit,
    policy := ← policyMember? members "malformed_task_id" default.policy,
  }

/-- The settings that a document makes, if it is well formed and sets nothing amiss. -/
def ofDocument? (document : List Char) : Option Settings := do
  ofMembers? (← Toml.parse? document)

end Logbook.Settings
