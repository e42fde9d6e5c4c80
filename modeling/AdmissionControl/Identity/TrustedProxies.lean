import AdmissionControl.Net.Network
import AdmissionControl.Text.Blank

namespace AdmissionControl.Identity

open Net

-- The entry, without surrounding blanks, is neither a network nor an address.
structure InvalidEntry where
  entry : String
deriving DecidableEq

def InvalidEntry.message (e : InvalidEntry) : String :=
  "invalid trusted proxy entry: " ++ e.entry

-- The networks whose members may name the client that they forward for.
structure TrustedProxies where
  networks : List Network

namespace TrustedProxies

def none : TrustedProxies := ⟨[]⟩

-- Blank entries are skipped. The first that is not understood is reported.
def parseEntries : List String → Except InvalidEntry (List Network)
  | [] => .ok []
  | entry :: entries =>
    let trimmed := Text.trim entry
    if trimmed.isEmpty then parseEntries entries
    else
      match Network.parse? trimmed with
      | some network => do return network :: (← parseEntries entries)
      | .none => .error ⟨trimmed⟩

def parse (entries : List String) : Except InvalidEntry TrustedProxies :=
  (parseEntries entries).map TrustedProxies.mk

def size (proxies : TrustedProxies) : Nat := proxies.networks.length

def isEmpty (proxies : TrustedProxies) : Bool := proxies.networks.isEmpty

def contains (proxies : TrustedProxies) (address : Address) : Bool :=
  proxies.networks.any (·.contains address)

end TrustedProxies

end AdmissionControl.Identity
