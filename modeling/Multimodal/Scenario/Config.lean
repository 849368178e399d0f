import Multimodal.Scenario.Application
import Multimodal.Toml.Reader

/-! # Settings of an application

* `ApplicationConfig.ofText?`: the settings of a file.

What a file does not set takes its default, and names that are not known are ignored.
-/

namespace Multimodal

/-- Whether a value is an array or a table without anything in it. -/
def Toml.isEmpty : Toml → Bool
  | array items => items.isEmpty
  | table members => members.isEmpty
  | text _ | boolean _ | integer _ | float _ | moment _ => false

/-- A policy by its name, or as a table whose only member is named for it and holds nothing. -/
def RebuildPolicy.ofToml? : Toml → Option RebuildPolicy
  | .text name => ofName? name
  | .table [(name, v)] => if v.isEmpty then ofName? name else none
  | _ => none

/-- A truth value. -/
def Toml.asBoolean? : Toml → Option Bool
  | boolean b => some b
  | _ => none

namespace ApplicationConfig

/-- A setting, or its default. -/
def setting {α : Type} (members : List (String × Toml)) (name : String) (default : α)
    (decode : Toml → Option α) : Option α :=
  match members.lookup name with
  | none => some default
  | some v => decode v

/-- The settings of a table. -/
def ofMembers? (members : List (String × Toml)) : Option ApplicationConfig := do
  let default : ApplicationConfig := {}
  return {
    verifyBaseline :=
      ← setting members "verify_baseline_unchanged" default.verifyBaseline Toml.asBoolean?
    policy := ← setting members "rebuild_policy" default.policy RebuildPolicy.ofToml? }

/-- The settings of a file; none if the file is malformed or a setting has no such value. -/
def ofText? (s : String) : Option ApplicationConfig := (Toml.read? s).bind ofMembers?

end ApplicationConfig

end Multimodal
