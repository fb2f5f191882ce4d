import Outband.Endpoint
import Outband.Gallery
import Outband.Json.Basic
/-! The settings, by section, and what each is when nothing sets it. -/

namespace Outband

inductive LogFormat where
  | pretty
  | compact
  | json
  deriving DecidableEq, Repr

namespace LogFormat

def all : List LogFormat := [.pretty, .compact, .json]

def name : LogFormat → String
  | .pretty => "pretty"
  | .compact => "compact"
  | .json => "json"

def label : LogFormat → String
  | .pretty => "Pretty"
  | .compact => "Compact"
  | .json => "Json"

def ofName? (name : String) : Option LogFormat := all.find? (·.name == name)

end LogFormat

namespace Config

/-- The listener of the service. -/
structure Server where
  bindTo : String := "0.0.0.0:8000"
  deriving DecidableEq, Repr

/-- The credentials for every controller. -/
structure Bmc where
  username : String := ""
  password : String := ""
  deriving DecidableEq, Repr

/-- The fallback driver. Without a path its tool is looked for. -/
structure Ipmi where
  binary : Option String := none
  interface : String := "lanplus"
  deriving DecidableEq, Repr

/-- The directory that screenshots are kept in, and the URL prefix it is served under. -/
structure Screenshot where
  storage : String := "/tmp/screenshots"
  urlPrefix : String := "/screenshot"
  deriving DecidableEq, Repr

/-- An object store for screenshots. -/
structure S3 where
  enabled : Bool := false
  bucket : String := ""
  folder : String := ""
  endpoint : String := ""
  region : String := "us-east-1"
  accessKeyId : String := ""
  secretAccessKey : String := ""
  acl : String := ""
  deriving DecidableEq, Repr

structure Logging where
  level : String := "info"
  format : LogFormat := .pretty
  deriving DecidableEq, Repr

end Config

structure Config where
  server : Config.Server := {}
  bmc : Config.Bmc := {}
  ipmi : Config.Ipmi := {}
  screenshot : Config.Screenshot := {}
  s3 : Config.S3 := {}
  logging : Config.Logging := {}
  deriving DecidableEq, Repr

namespace Config

/-! Descriptions, which show no secret. -/

def Server.describe (c : Server) : String :=
  describeRecord "ServerConfig" [("bind_to", Text.quoted c.bindTo)]

def Bmc.describe (c : Bmc) : String :=
  describeRecord "BmcConfig" [("username", Text.quoted c.username), ("password", redacted)]

def Ipmi.describe (c : Ipmi) : String :=
  let binary := match c.binary with
    | some path => "Some(" ++ Text.quoted path ++ ")"
    | none => "None"
  describeRecord "IpmiConfig" [("binary", binary), ("interface", Text.quoted c.interface)]

def Screenshot.describe (c : Screenshot) : String :=
  describeRecord "ScreenshotConfig"
    [("storage", Text.quoted c.storage), ("url_prefix", Text.quoted c.urlPrefix)]

def S3.describe (c : S3) : String :=
  describeRecord "S3Config"
    [("enabled", toString c.enabled), ("bucket", Text.quoted c.bucket),
      ("folder", Text.quoted c.folder), ("endpoint", Text.quoted c.endpoint),
      ("region", Text.quoted c.region), ("access_key_id", Text.quoted c.accessKeyId),
      ("secret_access_key", redacted), ("acl", Text.quoted c.acl)]

def Logging.describe (c : Logging) : String :=
  describeRecord "LoggingConfig"
    [("level", Text.quoted c.level), ("format", c.format.label)]

def describe (c : Config) : String :=
  describeRecord "Config"
    [("server", c.server.describe), ("bmc", c.bmc.describe), ("ipmi", c.ipmi.describe),
      ("screenshot", c.screenshot.describe), ("s3", c.s3.describe),
      ("logging", c.logging.describe)]

/-- All settings, secrets too, in the layout of a settings file. -/
def toJson (c : Config) : Json :=
  .object
    [("server", .object [("bind_to", .text c.server.bindTo)]),
      ("bmc", .object
        [("username", .text c.bmc.username), ("password", .text c.bmc.password)]),
      ("ipmi", .object
        [("binary", (c.ipmi.binary.map Json.text).getD .null),
          ("interface", .text c.ipmi.interface)]),
      ("screenshot", .object
        [("storage", .text c.screenshot.storage), ("url_prefix", .text c.screenshot.urlPrefix)]),
      ("s3", .object
        [("enabled", .bool c.s3.enabled), ("bucket", .text c.s3.bucket),
          ("folder", .text c.s3.folder), ("endpoint", .text c.s3.endpoint),
          ("region", .text c.s3.region), ("access_key_id", .text c.s3.accessKeyId),
          ("secret_access_key", .text c.s3.secretAccessKey), ("acl", .text c.s3.acl)]),
      ("logging", .object
        [("level", .text c.logging.level), ("format", .text c.logging.format.name)])]

def credentials (c : Config) : Credentials := ⟨c.bmc.username, c.bmc.password⟩

/-- Where screenshots are kept. There is no object store to keep them in. -/
def gallery (c : Config) : Except Error Gallery :=
  if c.s3.enabled then
    .error (.config "s3.enabled is set but bmc-actor was built without the `s3` feature")
  else .ok ⟨c.screenshot.storage, c.screenshot.urlPrefix⟩

end Config

end Outband
