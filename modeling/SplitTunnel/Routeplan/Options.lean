import SplitTunnel.Net.InterfaceAddress

/-!
# The command line of the route planner (`SPEC_FULL.md` §10.5)

* `Options`: what the command line asks for.
* `Options.ofArgs`: reads the arguments from left to right. The first one that does not fit is the
  error, and a request for help before it is answered instead.
* An option's value is the next argument or stands after an equals sign. The next argument is none
  if it starts with a dash and goes on. Options that may be given once, and switches, are refused
  the second time.
-/

namespace SplitTunnel.Routeplan

open Net

/-- What the command line asks for. -/
structure Options where
  profile : String
  /-- The file of the service's configuration. -/
  config : Option String := none
  /-- The addresses that the gateway assigns. -/
  addresses : List InterfaceAddress := []
  /-- The routes that the gateway pushes. -/
  routes : List InterfaceAddress := []
  dnsServers : List Address := []
  /-- The app that owns the tunnel, in place of `ServiceConfig.owningAppId`. -/
  owningApp : Option String := none
  noAppScoping : Bool := false
  noFamilyBypass : Bool := false
  /-- The placeholder is asked for. -/
  blocking : Bool := false
deriving DecidableEq, Repr

/-- Why `Options.ofArgs` gives no options. -/
inductive UsageError where
  | unexpected (arg : String)
  | missingValue (name : String)
  | badValue (name value : String)
  | repeated (name : String)
  | missingProfile
  | help
deriving DecidableEq, Repr

/-- The wording of the error. -/
def UsageError.message : UsageError → String
  | unexpected arg => "unexpected argument '" ++ arg ++ "' found"
  | missingValue name => "a value is required for '" ++ name ++ "' but none was supplied"
  | badValue name value => "invalid value '" ++ value ++ "' for '" ++ name ++ "'"
  | repeated name => "the argument '" ++ name ++ "' cannot be used multiple times"
  | missingProfile => "the argument '--profile <PROFILE>' was not provided"
  | help => ""

/-- The options that have been read of a command line. -/
structure Draft where
  profile : Option String := none
  config : Option String := none
  addresses : List InterfaceAddress := []
  routes : List InterfaceAddress := []
  dnsServers : List Address := []
  owningApp : Option String := none
  noAppScoping : Bool := false
  noFamilyBypass : Bool := false
  blocking : Bool := false
deriving DecidableEq, Repr, Inhabited

namespace Draft

/-- `v`, or the error that `text` is no value of the option `name`. -/
def value (name text : String) (v : Option α) : Except UsageError α :=
  match v with
  | some a => .ok a
  | none => .error (.badValue name text)

/-- `text` as a path, which is not empty. -/
def path? (text : String) : Option String := if text.isEmpty then none else some text

/-- The value `v` of the option `name`, unless it has one `before`. -/
def once (name : String) (before : Option α) (v : α) : Except UsageError (Option α) :=
  match before with
  | none => .ok (some v)
  | some _ => .error (.repeated name)

/-- The switch `name`, unless it is on `before`. -/
def switch (name : String) (before : Bool) : Except UsageError Bool :=
  if before then .error (.repeated name) else .ok true

/-- `d` with the option `name` and its value `text`. -/
def take (d : Draft) (name text : String) : Except UsageError Draft := do
  if name = "--profile" then
    return { d with profile := ← once name d.profile (← value name text (path? text)) }
  else if name = "--config" then
    return { d with config := ← once name d.config (← value name text (path? text)) }
  else if name = "--owning-app-id" then
    return { d with owningApp := ← once name d.owningApp text }
  else if name = "--address" then
    let a ← value name text (InterfaceAddress.parse? text)
    return { d with addresses := d.addresses ++ [a] }
  else if name = "--route" then
    let a ← value name text (InterfaceAddress.parse? text)
    return { d with routes := d.routes ++ [a] }
  else
    let a ← value name text (Address.parse? text)
    return { d with dnsServers := d.dnsServers ++ [a] }

/-- `d` with the switch `name`. -/
def turn (d : Draft) (name : String) : Except UsageError Draft := do
  if name = "--no-app-scoping" then
    return { d with noAppScoping := ← switch name d.noAppScoping }
  else if name = "--no-family-bypass" then
    return { d with noFamilyBypass := ← switch name d.noFamilyBypass }
  else return { d with blocking := ← switch name d.blocking }

/-- The options that have a value. -/
def valued : List String :=
  ["--profile", "--config", "--address", "--route", "--dns", "--owning-app-id"]

/-- The options that have none. -/
def switches : List String := ["--no-app-scoping", "--no-family-bypass", "--blocking"]

/-- `arg` can be the value of the option before it. -/
def isValue (arg : String) : Bool := arg.toList.head? != some '-' || arg == "-"

/-- The name and the value in `arg`, on the two sides of an equals sign. -/
def assigned? (arg : String) : Option (String × String) :=
  match arg.toList.span (· != '=') with
  | (_, []) => none
  | (name, _ :: text) => some (String.ofList name, String.ofList text)

/-- `d` with `arg`, which neither is an option as it stands nor asks for help. -/
def takeAssigned (d : Draft) (arg : String) : Except UsageError Draft :=
  match assigned? arg with
  | some (name, text) =>
    if valued.contains name then d.take name text else .error (.unexpected arg)
  | none => .error (.unexpected arg)

/-- `d` with the arguments that are left. After two dashes there is nothing to be read. -/
def ofArgs (d : Draft) : List String → Except UsageError Draft
  | [] => .ok d
  | arg :: rest =>
    if arg = "--help" ∨ arg.startsWith "-h" then .error .help
    else if switches.contains arg then
      match d.turn arg with
      | .ok d => d.ofArgs rest
      | .error e => .error e
    else if valued.contains arg then
      match rest with
      | [] => .error (.missingValue arg)
      | text :: rest =>
        if isValue text then
          match d.take arg text with
          | .ok d => d.ofArgs rest
          | .error e => .error e
        else .error (.missingValue arg)
    else if arg = "--" then
      match rest with
      | [] => .ok d
      | arg :: _ => .error (.unexpected arg)
    else
      match d.takeAssigned arg with
      | .ok d => d.ofArgs rest
      | .error e => .error e

/-- The options of `d`, if they are complete. -/
def finish (d : Draft) : Except UsageError Options :=
  match d.profile with
  | none => .error .missingProfile
  | some profile =>
    .ok {
      profile
      config := d.config
      addresses := d.addresses
      routes := d.routes
      dnsServers := d.dnsServers
      owningApp := d.owningApp
      noAppScoping := d.noAppScoping
      noFamilyBypass := d.noFamilyBypass
      blocking := d.blocking }

end Draft

/-- What `args` ask for. -/
def Options.ofArgs (args : List String) : Except UsageError Options := do
  (← Draft.ofArgs {} args).finish

/-- What the command line may hold. -/
def help : String :=
  "Usage: routeplan [OPTIONS] --profile <PROFILE>\n\nOptions:\n" ++
  "      --profile <PROFILE>              JSON file holding the connection profile\n" ++
  "      --config <CONFIG>                Service config, for the owning app id and capability " ++
  "overrides\n" ++
  "      --address <ADDRESSES>            Interface address assigned by the gateway, e.g. " ++
  "\x6010.10.0.2/32\x60\n" ++
  "      --route <ROUTES>                 Route pushed by the gateway\n" ++
  "      --dns <DNS_SERVERS>              \n" ++
  "      --owning-app-id <OWNING_APP_ID>  \n" ++
  "      --no-app-scoping                 \n" ++
  "      --no-family-bypass               \n" ++
  "      --blocking                       Plan the blocking placeholder instead\n" ++
  "  -h, --help                           Print help\n"

end SplitTunnel.Routeplan
