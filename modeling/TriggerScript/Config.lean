import TriggerScript.Disk
import TriggerScript.Toml.Document

/-!
# Configuration

Where scripts are, what they are called, and whether compiled scripts are cached. A configuration is
read from a TOML document; keys that are missing keep their default, and keys that mean nothing here
are ignored.
-/

namespace TriggerScript

structure Config where
  scriptsDir : Path := ⟨"scripts"⟩
  enableCaching : Bool := true
  /-- The directory of the artifacts, seen from the directory of a script. -/
  cacheDir : Path := ⟨"cache"⟩
  /-- The extension of scripts, without the dot. -/
  extension : String := "sk"
  /-- What the names of files and directories start with that are passed over. -/
  disabledPrefix : String := "-"
deriving DecidableEq, Repr

namespace Config

instance : Inhabited Config := ⟨{}⟩

/-- Whether the last name of a path marks it as one to pass over. Only a name that is text can. -/
def isDisabled (config : Config) (path : Path) : Bool :=
  config.disabledPrefix ≠ "" &&
    (path.fileName?.bind Text.ofBytes?).any fun name =>
      config.disabledPrefix.toList.isPrefixOf name.toList

def isScript (config : Config) (path : Path) : Bool :=
  path.extension? = some (config.extension : Bytes) && !config.isDisabled path

/-! ## Reading -/

/-- The text under a key; another kind of value is refused. -/
def textAt? (table : Toml.Table) (key : String) (fallback : String) : Option String :=
  match table.find? key with
  | none => some fallback
  | some (.value (.text content)) => some content
  | some _ => none

/-- The truth value under a key; another kind of value is refused. -/
def truthAt? (table : Toml.Table) (key : String) (fallback : Bool) : Option Bool :=
  match table.find? key with
  | none => some fallback
  | some (.value (.truth value)) => some value
  | some _ => none

def ofTable? (table : Toml.Table) : Option Config := do
  let fallback : Config := {}
  let scriptsDir ← textAt? table "scripts_dir" fallback.scriptsDir.text
  let enableCaching ← truthAt? table "enable_caching" fallback.enableCaching
  let cacheDir ← textAt? table "cache_dir" fallback.cacheDir.text
  let extension ← textAt? table "extension" fallback.extension
  let disabledPrefix ← textAt? table "disabled_prefix" fallback.disabledPrefix
  some { scriptsDir := ⟨scriptsDir⟩, enableCaching, cacheDir := ⟨cacheDir⟩, extension,
         disabledPrefix }

def ofText (document : String) : Except LoadError Config :=
  match (Toml.parse? document).bind ofTable? with
  | some config => .ok config
  | none => .error .config

/-- Reads a configuration file. -/
def ofFile (path : Path) (disk : Disk) : Except LoadError Config := do
  let document ← (disk.readText path).mapError (.io path)
  ofText document

end Config

end TriggerScript
