import Harbor.Net.Address
import Harbor.PortRange
import Harbor.ServiceName

/-!
# Settings

The settings of the three servers and of the way in which the session daemon and
the file server advertise themselves. Every setting has a default.

Settings are checked when a server starts, not when they are read: the registry
needs a range of at least two ports that neither begins nor ends at its own port,
and no time may be zero.

Main results:

* `Registry.range_eq_ok_iff`: which settings the registry accepts, and as which range.
-/

namespace Harbor

open Net (IpAddress SocketAddress)

/-- Every interface of this machine. -/
def Net.IpAddress.any : IpAddress := .v4 0 0 0 0

/-- This machine, as it reaches itself. -/
def Net.IpAddress.loopback : IpAddress := .v4 127 0 0 1

namespace Settings

/-- The port that a registry listens on by default (`DEFAULT_PRS_PORT`). -/
def registryPort : Port := 30000

/-- Settings of the registry (`PrsConfig`). -/
structure Registry where
  bindAddress : IpAddress
  port : Port
  /-- First port handed out to services. -/
  firstPort : Port
  /-- Last port handed out to services. -/
  lastPort : Port
  /-- Seconds without a keep-alive after which a lease may be reclaimed. -/
  timeoutSeconds : UInt64
  deriving Repr, DecidableEq

/-- Settings of the session daemon (`SdConfig`). -/
structure Sessions where
  serviceName : String
  /-- The directory that documents are served from. -/
  documentRoot : String
  deriving Repr, DecidableEq

/-- Settings of the file server (`FtConfig`). -/
structure Transfer where
  serviceName : String
  /-- The directory that files are served from. -/
  root : String
  deriving Repr, DecidableEq

/-- How a server finds the registry and stays registered (`AdvertiseConfig`). -/
structure Advertising where
  registry : SocketAddress
  /-- The address that the server listens on, with the port it is leased. -/
  bindAddress : IpAddress
  /-- Seconds between two keep-alives. -/
  intervalSeconds : UInt64
  /-- Milliseconds to wait for the registry's answer. -/
  timeoutMillis : UInt64
  deriving Repr, DecidableEq

/-- The registry's settings when none are given. -/
def Registry.default : Registry := ⟨.any, registryPort, 40000, 40099, 300⟩

/-- The session daemon's settings when none are given. -/
def Sessions.default : Sessions := ⟨"SD Server", "."⟩

/-- The file server's settings when none are given. -/
def Transfer.default : Transfer := ⟨"FT Server", "."⟩

/-- How servers advertise when nothing is said about it. -/
def Advertising.default : Advertising := ⟨⟨.loopback, registryPort, 0⟩, .any, 60, 2000⟩

end Settings

/-- All settings (`SuiteConfig`). -/
structure Settings where
  registry : Settings.Registry
  sessions : Settings.Sessions
  transfer : Settings.Transfer
  advertising : Settings.Advertising
  deriving Repr, DecidableEq

namespace Settings

/-- The settings when none are given. -/
def default : Settings := ⟨.default, .default, .default, .default⟩

instance : Inhabited Settings := ⟨default⟩

/-- Why settings cannot be had or used (`ConfigError`). -/
inductive Error where
  /-- The settings file cannot be read. -/
  | unreadable (path : String) (reason : String)
  /-- The settings file is not one. -/
  | malformed (path : String)
  /-- The ports do not delimit a range of at least two ports. -/
  | badRange (first last : Port)
  /-- The range begins or ends at the registry's own port. -/
  | rangeOverlapsRegistry (first last port : Port)
  /-- A time is zero. -/
  | zeroDuration (field : String)
  | badServiceName (cause : ServiceName.Error)
  deriving Repr, DecidableEq

/-- The fault in words. -/
def Error.message : Error → String
  | unreadable path reason => s!"failed to read {path}: {reason}"
  | malformed path => s!"failed to parse {path}"
  | badRange first last => s!"invalid client port range {first}-{last}"
  | rangeOverlapsRegistry first last port =>
    s!"client port range {first}-{last} overlaps the registry port {port}"
  | zeroDuration field => s!"{field} must be greater than zero"
  | badServiceName cause => s!"invalid service name: {cause.message}"

/-- What lies beneath the fault. -/
def Error.causes : Error → List String
  | badServiceName cause => [cause.message]
  | _ => []

/-! ## Checking -/

/-- The range of ports that a registry with these settings hands out (`PrsConfig.validate`). -/
def Registry.range (s : Registry) : Except Error PortRange :=
  if s.lastPort ≤ s.firstPort ∨ s.firstPort = 0 ∨ s.lastPort = 0 then
    .error (.badRange s.firstPort s.lastPort)
  else if s.firstPort = s.port ∨ s.lastPort = s.port then
    .error (.rangeOverlapsRegistry s.firstPort s.lastPort s.port)
  else if s.timeoutSeconds = 0 then .error (.zeroDuration "keep_alive_timeout_secs")
  else
    match PortRange.ofBounds? s.firstPort s.lastPort with
    | .ok range => .ok range
    | .error _ => .error (.badRange s.firstPort s.lastPort)

/-- Milliseconds without a keep-alive after which a lease may be reclaimed
    (`keep_alive_timeout`). -/
def Registry.timeoutMillis (s : Registry) : Nat := 1000 * s.timeoutSeconds.toNat

/-- Milliseconds between two keep-alives (`keep_alive_interval`). -/
def Advertising.intervalMillis (s : Advertising) : Nat := 1000 * s.intervalSeconds.toNat

/-- Accepts settings whose times are not zero (`AdvertiseConfig.validate`). -/
def Advertising.check (s : Advertising) : Except Error Unit :=
  if s.intervalSeconds = 0 then .error (.zeroDuration "keep_alive_interval_secs")
  else if s.timeoutMillis = 0 then .error (.zeroDuration "request_timeout_ms")
  else .ok ()

/-- Accepts the name of a service in settings. -/
def serviceName? (text : String) : Except Error ServiceName :=
  match ServiceName.ofText? text with
  | .ok name => .ok name
  | .error e => .error (.badServiceName e)

/-- The name that the session daemon advertises itself under (`SdConfig.service_name`). -/
def Sessions.name (s : Sessions) : Except Error ServiceName := serviceName? s.serviceName

/-- The name that the file server advertises itself under (`FtConfig.service_name`). -/
def Transfer.name (s : Transfer) : Except Error ServiceName := serviceName? s.serviceName

theorem Registry.range_eq_ok_iff {s : Registry} {range : PortRange} :
    s.range = .ok range ↔
      (range.first = s.firstPort ∧ range.last = s.lastPort) ∧
      s.firstPort < s.lastPort ∧ s.firstPort ≠ s.port ∧ s.lastPort ≠ s.port ∧
      s.timeoutSeconds ≠ 0 := by
  obtain ⟨first, last, first_pos, first_le_last⟩ := range
  unfold Registry.range PortRange.ofBounds?
  constructor
  · intro h
    split at h
    · cases h
    split at h
    · cases h
    split at h
    · cases h
    next hbounds hports htime =>
    simp only [not_or, UInt16.not_le] at hbounds hports
    split at h
    · next r hr =>
      split at hr
      · cases hr
        cases h
        exact ⟨⟨rfl, rfl⟩, hbounds.1, hports.1, hports.2, htime⟩
      · cases hr
    · cases h
  · rintro ⟨⟨rfl, rfl⟩, hlt, hfirst, hlast, htime⟩
    have hne : s.firstPort ≠ 0 := fun h => by rw [h] at first_pos; exact absurd first_pos (by decide)
    have hne' : s.lastPort ≠ 0 := fun h => by rw [h] at hlt; exact absurd hlt (UInt16.not_lt_zero)
    rw [if_neg (by simp only [not_or, UInt16.not_le]; exact ⟨hlt, hne, hne'⟩),
      if_neg (by simp only [not_or]; exact ⟨hfirst, hlast⟩), if_neg htime,
      dif_pos ⟨first_pos, first_le_last⟩]

end Settings

end Harbor
