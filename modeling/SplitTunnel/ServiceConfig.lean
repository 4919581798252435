import SplitTunnel.Capabilities
import SplitTunnel.Json.Reader
import SplitTunnel.Storage
import SplitTunnel.Text.Bytes

/-!
# The configuration of the service (`SPEC_FULL.md` §10.3, `ServiceConfig`)

* `ServiceConfig.logPath`: where the engine logs, by default beside its data.
* `ServiceConfig.load`: the configuration in a file. A missing file stands for the defaults, and a
  file that cannot be opened is told apart from one that holds no configuration.
-/

namespace SplitTunnel

/-- What holds for all connections. -/
structure ServiceConfig where
  dataDir : String := "."
  logFile : Option String := none
  /-- The language of the engine's messages. -/
  language : String := "en"
  /-- The app whose own traffic never goes into the tunnel. -/
  owningAppId : String := "org.strongswan.android"
  byod : Bool := false
  /-- What may be used of what the platform supports. -/
  capabilities : Capabilities := {}
deriving DecidableEq, Repr, Inhabited

/-- Why `load` gives no configuration. -/
inductive ConfigError where
  /-- The file cannot be opened. -/
  | unreadable
  /-- The file holds no configuration. -/
  | malformed
deriving DecidableEq, Repr

/-- The wording of the error. -/
def ConfigError.message : ConfigError → String
  | unreadable => "could not read config"
  | malformed => "could not deserialize config"

namespace ServiceConfig

open Json

/-- The path of `name` below `folder`. -/
def join (folder name : String) : String :=
  if folder.isEmpty ∨ folder.toList.getLast? = some '/' then folder ++ name
  else folder ++ "/" ++ name

/-- Where the engine logs: `logFile`, or `charon.log` in `dataDir`. -/
def logPath (c : ServiceConfig) : String := c.logFile.getD (join c.dataDir "charon.log")

/-- The fields in the order in which a record without names gives them. -/
def fieldNames : List String :=
  ["dataDir", "logFile", "language", "owningAppId", "byod", "capabilities"]

/-- `c` as a document. -/
def toJson (c : ServiceConfig) : Json :=
  .obj [
    ("dataDir", .str c.dataDir),
    ("logFile", .opt .str c.logFile),
    ("language", .str c.language),
    ("owningAppId", .str c.owningAppId),
    ("byod", .bool c.byod),
    ("capabilities", c.capabilities.toJson)]

/-- The configuration that `v` stands for. -/
def ofJson? (v : Json) : Option ServiceConfig := do
  let fs ← v.fields? fieldNames
  let d : ServiceConfig := {}
  some {
    dataDir := ← field? fs "dataDir" d.dataDir text?
    logFile := ← field? fs "logFile" d.logFile (optional? text?)
    language := ← field? fs "language" d.language text?
    owningAppId := ← field? fs "owningAppId" d.owningAppId text?
    byod := ← field? fs "byod" d.byod bool?
    capabilities := ← field? fs "capabilities" d.capabilities Capabilities.ofJson? }

/-- The configuration in a file that reads as given. -/
def load : Reading → Except ConfigError ServiceConfig
  | .missing => .ok {}
  | .refused => .error .unreadable
  | .unreadable => .error .malformed
  | .content bytes =>
    match (ofSymbols? (Text.symbols bytes)).bind ofJson? with
    | some c => .ok c
    | none => .error .malformed

end ServiceConfig

end SplitTunnel
