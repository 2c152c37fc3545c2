import Harbor.Files.Written
import Harbor.Settings.Basic
import Harbor.Toml.Document

/-!
# The settings file

Settings are kept in a TOML document with a table for each server. Tables and
keys that are missing keep their defaults, and unknown ones are passed over. A
section may also be an array, whose items are the section's settings in order; a
date in place of a section says nothing.

The file is the one that the environment names, else `svc/config.toml` in the
directory for configuration. Only a file that is there but cannot be read, or is
no such document, is a fault.
-/

namespace Harbor.Settings

open Net (IpAddress SocketAddress)
open Toml (Node Entries)

/-! ## Sections -/

/-- A text among settings. -/
def text? : Node → Option String
  | .text s => some s
  | _ => none

/-- A natural number below a bound among settings. -/
def number? (bound : Nat) : Node → Option Nat
  | .integer n => if 0 ≤ n ∧ n < bound then some n.toNat else none
  | _ => none

/-- A port among settings. -/
def port? (node : Node) : Option Port := (number? UInt16.size node).map UInt16.ofNat

/-- A number of seconds or milliseconds among settings. -/
def time? (node : Node) : Option UInt64 := (number? UInt64.size node).map UInt64.ofNat

/-- An IP address among settings. -/
def ipAddress? (node : Node) : Option IpAddress := (text? node).bind IpAddress.ofText?

/-- A socket address among settings. -/
def socketAddress? (node : Node) : Option SocketAddress := (text? node).bind SocketAddress.ofText?

/-- How a section finds what is said about a setting, by the setting's key or by its
    place in the order of the section. -/
abbrev Section := String → Nat → Option Node

/-- A node as a section. -/
def section? : Node → Option Section
  | .table _ entries => some fun key _ => Toml.find? key entries
  | .array items => some fun _ i => items[i]?
  | .tables elements => some fun _ i => elements[i]?.map (.table .header)
  | .moment => some fun _ _ => none
  | _ => none

/-- The value of a setting, or its default if nothing is said about it. -/
def valueOr {α : Type} (fallback : α) (read : Node → Option α) : Option Node → Option α
  | none => some fallback
  | some node => read node

/-- Reads the registry's section. -/
def Registry.ofSection? (s : Section) : Option Registry := do
  let d := Registry.default
  return {
    bindAddress := ← valueOr d.bindAddress ipAddress? (s "bind_address" 0)
    port := ← valueOr d.port port? (s "port" 1)
    firstPort := ← valueOr d.firstPort port? (s "start_port" 2)
    lastPort := ← valueOr d.lastPort port? (s "end_port" 3)
    timeoutSeconds := ← valueOr d.timeoutSeconds time? (s "keep_alive_timeout_secs" 4) }

/-- Reads the session daemon's section. -/
def Sessions.ofSection? (s : Section) : Option Sessions := do
  let d := Sessions.default
  return {
    serviceName := ← valueOr d.serviceName text? (s "service_name" 0)
    documentRoot := ← valueOr d.documentRoot text? (s "document_root" 1) }

/-- Reads the file server's section. -/
def Transfer.ofSection? (s : Section) : Option Transfer := do
  let d := Transfer.default
  return {
    serviceName := ← valueOr d.serviceName text? (s "service_name" 0)
    root := ← valueOr d.root text? (s "root" 1) }

/-- Reads the section about advertising. -/
def Advertising.ofSection? (s : Section) : Option Advertising := do
  let d := Advertising.default
  return {
    registry := ← valueOr d.registry socketAddress? (s "prs_address" 0)
    bindAddress := ← valueOr d.bindAddress ipAddress? (s "bind_address" 1)
    intervalSeconds := ← valueOr d.intervalSeconds time? (s "keep_alive_interval_secs" 2)
    timeoutMillis := ← valueOr d.timeoutMillis time? (s "request_timeout_ms" 3) }

/-- The settings in a document. -/
def ofEntries? (entries : Entries) : Option Settings := do
  let read {α : Type} (fallback : α) (read : Section → Option α) (key : String) : Option α :=
    valueOr fallback (fun node => (section? node).bind read) (Toml.find? key entries)
  return {
    registry := ← read .default Registry.ofSection? "prs"
    sessions := ← read .default Sessions.ofSection? "sd"
    transfer := ← read .default Transfer.ofSection? "ft"
    advertising := ← read .default Advertising.ofSection? "advertise" }

/-- The settings in a document written out. -/
def ofText? (text : String) : Option Settings := (Toml.ofText? text).bind ofEntries?

/-- What reading a file comes to, as settings (`load_from`). -/
def ofFile (path : String) (contents : Except SystemError Octets) : Except Error Settings :=
  match contents with
  | .error e => .error (.unreadable path e.message)
  | .ok octets =>
    match Text.decode? octets with
    | none => .error (.unreadable path "stream did not contain valid UTF-8")
    | some text =>
      match ofText? text with
      | none => .error (.malformed path)
      | some settings => .ok settings

/-! ## The place of the file -/

/-- What the environment says about where settings are. -/
structure Environment where
  /-- The settings file itself. -/
  file? : Option String
  /-- The directory for configuration. A relative one does not count. -/
  configHome? : Option String
  /-- The user's own directory. -/
  home? : Option String
  deriving Repr, DecidableEq

/-- The settings file, if the environment allows to tell (`file_path`). -/
def Environment.settingsFile? (env : Environment) : Option String :=
  let configHome? := env.configHome?.filter fun d => d.toList.head? == some '/'
  let directory? := configHome? <|> env.home?.map (Files.joined · ".config")
  env.file? <|> directory?.map fun d => Files.joined (Files.joined d "svc") "config.toml"

/-- Loads the settings file if there is one, else the defaults (`SuiteConfig.load`). -/
def load {m : Type → Type} [Monad m] (pathExists : String → m Bool)
    (readFile : String → m (Except SystemError Octets)) (env : Environment) :
    m (Except Error Settings) := do
  match env.settingsFile? with
  | none => return .ok .default
  | some path =>
    if ← pathExists path then return ofFile path (← readFile path)
    else return .ok .default

end Harbor.Settings
