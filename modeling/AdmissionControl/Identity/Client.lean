import AdmissionControl.Identity.RequestId
import AdmissionControl.Identity.TrustedProxies
import AdmissionControl.Journal
import AdmissionControl.Net.AddressText
import AdmissionControl.Text.Split

namespace AdmissionControl.Identity

open Http Net Text

-- The name under which the requests of one client are counted together.
structure Client where
  name : String
deriving DecidableEq

namespace Client

def forwardedForHeader : String := "x-forwarded-for"
def realAddressHeader : String := "x-real-ip"

-- All clients that cannot be told apart.
def unknown : Client := ⟨"request:unknown"⟩

def ofAddress (address : Address) : Client := ⟨address.text⟩

-- The first hop that a proxy names, if it is an address.
def forwarded? (headers : Headers) : Option Address := do
  let hops ← headers.text? forwardedForHeader
  Address.ofChars? strict (trimChars (hops.takeWhile (· != ',')))

def nonBlankText? (name : String) (headers : Headers) : Option String :=
  ((headers.text? name).map trimChars).bind fun text =>
    if text.isEmpty then none else some (String.ofList text)

-- Without a peer the client is known by what it says of itself.
def ofHeaders (headers : Headers) : Client :=
  match nonBlankText? RequestId.header headers with
  | some id => ⟨"request-id:" ++ id⟩
  | none =>
    match nonBlankText? realAddressHeader headers with
    | some address => ⟨address⟩
    | none => unknown

-- A trusted peer may name the client that it forwards for. Any other peer is
-- itself the client.
def resolve (trusted : TrustedProxies) (peer : Option Address) (headers : Headers) :
    Client × Journal :=
  match peer with
  | none => (ofHeaders headers, [])
  | some peer =>
    if trusted.contains peer then
      match forwarded? headers with
      | some client => (ofAddress client, [.event (.clientForwarded peer client)])
      | none => (ofAddress peer, [])
    else (ofAddress peer, [])

end Client

end AdmissionControl.Identity
