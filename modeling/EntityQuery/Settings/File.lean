import EntityQuery.Settings
import EntityQuery.Toml.Reader

/-!
Settings in TOML files. Where several places may hold such a file, the first that does decides, and one
that cannot be read is passed over.
-/

namespace EntityQuery

inductive SettingsError where
  | unreadable
  | malformed
deriving DecidableEq, Repr, Inhabited

def SettingsError.message : SettingsError → String
  | unreadable => "config error: failed to read config file"
  | malformed => "config error: failed to parse config"

namespace Settings

def ofToml (text : String) : Except SettingsError Settings :=
  match Toml.read? text with
  | none => .error .malformed
  | some value => (ofDocument value).mapError fun _ => .malformed

def ofFile : Option String → Except SettingsError Settings
  | none => .error .unreadable
  | some text => ofToml text

/-- The settings of the first file that can be read, or else the defaults. -/
def ofFirst (files : List (Option String)) : Settings :=
  (files.findSome? fun file => (ofFile file).toOption).getD {}

end Settings

end EntityQuery
