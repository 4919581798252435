import SplitTunnel.Net.AddressSet.Text
import SplitTunnel.Profile.Flags
import SplitTunnel.SortedSet

/-!
# Connection profiles (`SPEC_FULL.md` §3, `VpnProfile`)

What an app hands over to describe one connection.

* `VpnType`: how both ends prove who they are, and what a profile needs for it.
* `AppSelection`: what the list of selected apps means.
* `Profile.included`, `Profile.excluded`: the subnet lists as sets; a missing list is empty.
* `Profile.isMissingPassword`: a type with a password may be saved without one (§4.5).
-/

namespace SplitTunnel

open Net

/-- How the two ends of a connection authenticate. -/
inductive VpnType where
  | eap
  | cert
  | certEap
  | eapTls
  | byodEap
deriving DecidableEq, Repr, Inhabited

namespace VpnType

def all : List VpnType := [eap, cert, certEap, eapTls, byodEap]

/-- The name of the type in documents and settings. -/
def identifier : VpnType → String
  | eap => "ikev2-eap"
  | cert => "ikev2-cert"
  | certEap => "ikev2-cert-eap"
  | eapTls => "ikev2-eap-tls"
  | byodEap => "ikev2-byod-eap"

/-- The type `t` with `t.identifier = s`. -/
def ofIdentifier? (s : String) : Option VpnType := all.find? fun t => t.identifier == s

/-- The user proves to be who they are with `Profile.password`. -/
def requiresPassword : VpnType → Bool
  | eap | certEap | byodEap => true
  | cert | eapTls => false

/-- The user proves to be who they are with the certificate of `Profile.certificateAlias`. -/
def requiresCertificate : VpnType → Bool
  | cert | certEap | eapTls => true
  | eap | byodEap => false

@[simp] theorem ofIdentifier?_identifier (t : VpnType) : ofIdentifier? t.identifier = some t := by
  cases t <;> decide

end VpnType

/-- What `Profile.selectedApps` means. -/
inductive AppSelection where
  /-- The list means nothing. -/
  | disabled
  /-- The listed apps bypass the tunnel. -/
  | exclude
  /-- Only the listed apps use the tunnel. -/
  | only
deriving DecidableEq, Repr, Inhabited

namespace AppSelection

def all : List AppSelection := [disabled, exclude, only]

/-- The name of the meaning in documents. -/
def name : AppSelection → String
  | disabled => "disabled"
  | exclude => "exclude"
  | only => "only"

/-- The meaning `a` with `a.name = s`. -/
def ofName? (s : String) : Option AppSelection := all.find? fun a => a.name == s

@[simp] theorem ofName?_name (a : AppSelection) : ofName? a.name = some a := by
  cases a <;> decide

end AppSelection

/-- The names of apps, in order. -/
abbrev AppSet := SortedSet String

/-- A connection profile. -/
structure Profile where
  name : String := ""
  gateway : String := ""
  port : Option UInt16 := none
  vpnType : VpnType := .eap
  username : Option String := none
  password : Option String := none
  certificateAlias : Option String := none
  localId : Option String := none
  remoteId : Option String := none
  ikeProposal : Option String := none
  espProposal : Option String := none
  mtu : Option UInt16 := none
  natKeepalive : Option UInt32 := none
  flags : ProfileFlags := .none
  includedSubnets : Option String := none
  excludedSubnets : Option String := none
  splitTunneling : SplitTunneling := .none
  selectedAppsHandling : AppSelection := .disabled
  selectedApps : AppSet := .empty
deriving DecidableEq, Repr, Inhabited

namespace Profile

/-- The addresses to be tunneled, if `p` limits them. -/
def included (p : Profile) : Except LiteralError AddressSet :=
  AddressSet.parse (p.includedSubnets.getD "")

/-- The addresses never to be tunneled. -/
def excluded (p : Profile) : Except LiteralError AddressSet :=
  AddressSet.parse (p.excludedSubnets.getD "")

/-- `p.vpnType` needs a password and `p` has none. -/
def isMissingPassword (p : Profile) : Bool := p.vpnType.requiresPassword && p.password.isNone

end Profile

end SplitTunnel
