import EntityQuery.Catalog.Validation
import EntityQuery.Mapping.Codec
import EntityQuery.Text.Wildcard
import EntityQuery.Yaml.Value

/-!
Mapping directories: a folder of tables and a folder of entities, each of them described by a YAML file of
its own. The path of a directory is part of the pattern that finds the files, so characters of it that are
special in patterns are taken as such.
-/

namespace EntityQuery

/-- Something in a folder: the text of a file, or a folder. -/
inductive FolderEntry where
  | file (text : String)
  | folder
deriving DecidableEq, Repr, Inhabited

abbrev Folder := List (String × FolderEntry)

/-- A mapping directory with those of its two folders that exist. -/
structure Directory where
  path : String
  tables : Option Folder
  entities : Option Folder
deriving Repr, Inhabited

/-- Why a mapping directory cannot be loaded. -/
inductive LoadError where
  /-- One of its two folders is missing. -/
  | missing (folder : String)
  | pattern
  /-- A folder stands in the place of a file. -/
  | unreadable (file : String)
  /-- A file does not describe what it should. -/
  | malformed (file : String)
  | problem (problem : Problem)
deriving Repr, Inhabited

/-- The wording of an error, where it has one, with the given name for the directory. -/
def LoadError.message? (root : String) : LoadError → Option String
  | missing folder => some s!"catalog error: mapping directory not found: {root}/{folder}"
  | problem cause => some cause.errorMessage
  | pattern | unreadable _ | malformed _ => none

namespace Directory

variable {α : Type}

def patterns (path : String) : Except LoadError (List (String × List Text.Wildcard)) :=
  (Text.split '/' path).mapM fun name =>
    match Text.Wildcard.ofText? name with
    | some pattern => .ok (name, pattern)
    | none => .error .pattern

def fitsItself (path : String) : Except LoadError Bool :=
  (patterns path).map fun names => names.all fun (name, pattern) =>
    Text.Wildcard.accepts pattern name.toList

/-- Whether a file name has one of the endings of YAML files. -/
def isYamlName (name : String) : Bool :=
  name.endsWith ".yml" || name.endsWith ".yaml"

/-- The YAML files that are found in a folder, in ascending order of their names. -/
def yamlFiles (directory : Directory) (label : String) (folder : Option Folder) :
    Except LoadError Folder := do
  match folder with
  | none => .error (.missing label)
  | some entries =>
    if ← fitsItself directory.path then
      return Json.sortMembers (entries.filter fun entry => isYamlName entry.1)
    else return []

def readFile (read : Yaml.Node → Except Fault α) (name : String) : FolderEntry → Except LoadError α
  | .folder => .error (.unreadable name)
  | .file text =>
    match Yaml.Node.ofText? text with
    | none => .error (.malformed name)
    | some node => (read node).mapError fun _ => .malformed name

def readFiles (read : Yaml.Node → Except Fault α) (files : Folder) : Except LoadError (List α) :=
  files.mapM fun (name, entry) => readFile read name entry

def load (directory : Directory) : Except LoadError Catalog := do
  let tables ← readFiles Table.ofDocument (← directory.yamlFiles "tables" directory.tables)
  let entities ← readFiles Entity.ofDocument (← directory.yamlFiles "entities" directory.entities)
  return .ofParts tables entities

def loadChecked (mode : Validation.Mode) (directory : Directory) :
    Except LoadError (Catalog × List Problem) := do
  let catalog ← directory.load
  let problems ← (catalog.validate mode).mapError .problem
  return (catalog, problems)

end Directory

end EntityQuery
