import SplitTunnel.Platform.Host
import SplitTunnel.Text.Blank

/-!
# The tunnel's interface (`SPEC_FULL.md` §4.3, `TunnelBuilderAdapter`)

A tunnel records what the negotiation engine learns about the interface to come, brings the
interface up, and has a placeholder up while profiles are switched.

* `Tunnel.setProfile` (`set_profile`): starts a recording for a profile on a new builder.
* `Tunnel.addAddress`, `addRoute`, `addDnsServer`, `addSearchDomain`, `setMtu`: one fact more. DNS
  servers and search domains are told to the builder at once.
* `Tunnel.establish` (`establish`): brings up what has been recorded. The recording becomes the one
  that `Tunnel.reestablish` (`establish_no_dns`) brings up again, and a new one starts from the
  profile.
* `Tunnel.raisePlaceholder` (`establish_blocking`): brings up an interface for all traffic, whose
  packets are read and thrown away. The next interface that is established ends it, and so does
  `Tunnel.lowerPlaceholder` (`close_blocking`).
-/

namespace SplitTunnel

open Net

/-- What belongs to the profile that was set last. -/
structure Session where
  profile : Profile
  /-- The number of the builder of the next interface. -/
  builder : Nat
  recording : Recording
  initial : Recording
  /-- The recording of the interface that was established last. -/
  established : Option Recording := none
deriving DecidableEq, Repr, Inhabited

/-- The interface side of a connection. -/
structure Tunnel where
  host : Host := {}
  session : Option Session := none
  /-- The number of the interface that stands in for the next one. -/
  placeholder : Option Nat := none
  /-- What both the service and the platform allow. -/
  capabilities : Capabilities
  owningApp : String
deriving DecidableEq, Repr, Inhabited

namespace Tunnel

/-- The tunnel where nothing is set and nothing is up. -/
def start (allowed supported : Capabilities) (owningApp : String) : Tunnel where
  capabilities := allowed.intersect supported
  owningApp

/-- The reader of `t.placeholder`, if there is one. -/
def drain? (t : Tunnel) : Option Drain := t.placeholder.bind t.host.drain?

/-! ## Recording -/

/-- Starts a recording for `p`. A profile whose subnets are not readable changes nothing. -/
def setProfile (t : Tunnel) (p : Profile) : Tunnel × Except LiteralError Unit :=
  match Recording.start p t.owningApp with
  | .error e => (t, .error e)
  | .ok initial =>
    let (host, builder) := t.host.create p.name
    ({ t with
      host
      session := some { profile := p, builder, recording := initial, initial } }, .ok ())

/-- Changes the recording by `f`, if there is one; the answer is whether there is. -/
def record (t : Tunnel) (f : Recording → Recording) : Tunnel × Bool :=
  match t.session with
  | none => (t, false)
  | some s => ({ t with session := some { s with recording := f s.recording } }, true)

/-- The address in `text`, with blanks around it. -/
def literal? (text : String) : Option Address := Address.ofChars? (Text.trim text.toList)

/-- `n` as the length of a prefix, which has eight bits. -/
def length? (n : Int) : Option Nat := n.toNat?.filter (· ≤ 255)

/-- The interface gets an address, if `address` and `prefixLength` are one. -/
def addAddress (t : Tunnel) (address : String) (prefixLength : Int) : Tunnel × Bool :=
  let interface? := do InterfaceAddress.of? (← literal? address) (← length? prefixLength)
  match interface? with
  | none => (t, false)
  | some a => t.record (·.addAddress a)

/-- A block is behind the gateway, if `address` and `prefixLength` are one. -/
def addRoute (t : Tunnel) (address : String) (prefixLength : Int) : Tunnel × Bool :=
  let block? := do Block.of? (← literal? address) (← length? prefixLength)
  match block? with
  | none => (t, false)
  | some b => t.record (·.addRoute b)

/-- Tells the session's builder `c`, and records it by `f` if the builder takes it. -/
def tell (p : Platform) (t : Tunnel) (c : Call) (f : Recording → Recording) : Tunnel × Bool :=
  match t.session with
  | none => (t, false)
  | some s =>
    match t.host.submit p s.builder c with
    | (host, some _) => ({ t with host }, false)
    | (host, none) =>
      ({ t with host, session := some { s with recording := f s.recording } }, true)

/-- Names are looked up at the server `address`. -/
def addDnsServer (p : Platform) (t : Tunnel) (address : String) : Tunnel × Bool :=
  match literal? address with
  | none => (t, false)
  | some a => t.tell p (.addDnsServer a) (·.addDnsServer a)

/-- Short names are completed with `domain`. -/
def addSearchDomain (p : Platform) (t : Tunnel) (domain : String) : Tunnel × Bool :=
  t.tell p (.addSearchDomain domain) id

/-- `n` as a size of packets; there are no empty packets. -/
def mtu? (n : Int) : Option UInt16 :=
  (n.toNat?.filter fun n => 0 < n && n ≤ 0xFFFF).map UInt16.ofNat

/-- Packets have at most `mtu` bytes. -/
def setMtu (t : Tunnel) (mtu : Int) : Tunnel × Bool :=
  match mtu? mtu with
  | none => (t, false)
  | some n => t.record (·.setMtu n)

/-! ## Interfaces -/

/-- Stops the reader of `t.placeholder`, if there is one. -/
def lowerPlaceholder (t : Tunnel) : Tunnel :=
  match t.placeholder with
  | none => t
  | some i => { t with host := t.host.close i, placeholder := none }

/-- An interface for the recording `established` is up: a new recording starts on a new builder, and
the placeholder is no longer needed. -/
def commit (t : Tunnel) (established : Recording) : Tunnel :=
  match t.session with
  | none => t.lowerPlaceholder
  | some s =>
    let (host, builder) := t.host.create s.profile.name
    { t with
      host
      session := some
        { s with builder, recording := s.initial, established := some established } }
      |>.lowerPlaceholder

/-- Brings up an interface for what has been recorded; the answer is the number of that. -/
def establish (p : Platform) (t : Tunnel) : Tunnel × Except EstablishError Nat :=
  match t.session with
  | none => (t, .error .noProfile)
  | some s =>
    match t.host.bringUp p s.builder (s.recording.requests t.capabilities) with
    | (host, .error e) => ({ t with host }, .error e)
    | (host, .ok i) => ({ t with host }.commit s.recording, .ok i)

/-- Brings up the interface that was `established` last once more, on a builder of its own and
without DNS servers. -/
def reestablish (p : Platform) (t : Tunnel) : Tunnel × Except EstablishError Nat :=
  match t.session with
  | none => (t, .error .noProfile)
  | some s =>
    match s.established with
    | none => (t, .error .nothingEstablished)
    | some r =>
      let (host, builder) := t.host.create s.profile.name
      match host.bringUp p builder (r.requests t.capabilities) with
      | (host, .error e) => ({ t with host }, .error e)
      | (host, .ok i) => ({ t with host }, .ok i)

/-! ## The placeholder -/

namespace Placeholder

/-- 172.16.252.1 and fd00::fd02:1. -/
def addresses : List InterfaceAddress :=
  [⟨⟨.ipv4, 0xAC10FC01, by decide⟩, 32, by decide⟩,
    ⟨⟨.ipv6, 0xFD0000000000000000000000FD020001, by decide⟩, 128, by decide⟩]

/-- 8.8.8.8 and 2001:4860:4860::8888. A placeholder has servers so that names do not leak when it
is replaced. -/
def dnsServers : List Address :=
  [⟨.ipv4, 0x08080808, by decide⟩, ⟨.ipv6, 0x20014860486000000000000000008888, by decide⟩]

/-- What a placeholder is for a profile whose recording starts as `initial`: the profile's own
interface with an address of each family and all addresses behind the gateway. -/
def recording (initial : Recording) : Recording :=
  Family.all.foldl (fun r f => r.addRoute (.whole f)) (addresses.foldl Recording.addAddress initial)

/-- All that a placeholder asks of a builder that supports `c`. -/
def requests (initial : Recording) (c : Capabilities) : List Request :=
  dnsServers.map .dnsServer ++ [.blocking] ++ (recording initial).requests c

end Placeholder

/-- Brings up a placeholder on a builder of its own and starts the reader of that. -/
def raisePlaceholder (p : Platform) (t : Tunnel) : Tunnel × Except EstablishError Unit :=
  match t.session with
  | none => (t, .error .noProfile)
  | some s =>
    let (host, builder) := t.host.create s.profile.name
    match host.bringUp p builder (Placeholder.requests s.initial t.capabilities) with
    | (host, .error e) => ({ t with host }, .error e)
    | (host, .ok i) =>
      let r := Placeholder.recording s.initial
      let t := { t with host }.commit r
      match t.host.drainFrom p i r.mtu.toNat with
      | (host, true) => ({ t with host, placeholder := some i }, .ok ())
      | (host, false) => ({ t with host }, .error .drainFailed)

end Tunnel

end SplitTunnel
