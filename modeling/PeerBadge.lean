import PeerBadge.Json
import PeerBadge.Decimal
import PeerBadge.JsonText
import PeerBadge.Jcs
import PeerBadge.Value
import PeerBadge.Libraries
import PeerBadge.Outcome
import PeerBadge.Canonical
import PeerBadge.Preimages
import PeerBadge.Reference
import PeerBadge.Runs
import PeerBadge.Verifier
import PeerBadge.Holder
import PeerBadge.Issuer
import PeerBadge.Store
import PeerBadge.TrustScore
import PeerBadge.Badges
import PeerBadge.Issuance
import PeerBadge.Network
import PeerBadge.Presentation
import PeerBadge.Persistence
import PeerBadge.Isolation
import PeerBadge.Unlinkability
import PeerBadge.Wire
import PeerBadge.Transport
import PeerBadge.Deployment
import PeerBadge.Delivery
import PeerBadge.Js
import PeerBadge.Bindgen
import PeerBadge.Wasm
import PeerBadge.Agreement
import PeerBadge.Clock
import PeerBadge.Browser
import PeerBadge.BadgeLifecycle
import PeerBadge.Clients
import PeerBadge.Keygen
import PeerBadge.SecretKeys
import PeerBadge.Sessions
import PeerBadge.Alteration
import PeerBadge.Counting
import PeerBadge.Supply
import PeerBadge.Registry
import PeerBadge.Refinement
