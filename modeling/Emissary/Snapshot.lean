/-
# The Kubernetes snapshot of the Go entrypoint

The Go half of Emissary watches the cluster and keeps a snapshot of the
resources it cares about (`KubernetesSnapshot`); its reconcilers walk that
snapshot before Python builds the IR from it. This module has the part of the
snapshot that the modelled Go code reads: the resources, with the fields it
reads, the test of `ambassador_id` every reconciler makes first
(`AmbassadorID.Matches`), and the annotations, which hold resources of any
kind (`Object`, `GetAmbID`).

Go iterates the annotations map in no fixed order; it is a list here, and a
theorem about every list is about every order.

Key definitions: `AmbassadorID.Matches`, `Snapshot.Object`, `Snapshot.GetAmbID`,
`Snapshot.KubernetesSnapshot`.
-/
import Emissary.Basic
import Emissary.Lib.Json

namespace Emissary

/-- `AmbassadorID`: the Ambassador instances a resource is for. -/
abbrev AmbassadorID := List Key

/-- `AmbassadorID.Matches`: an empty list stands for `["default"]`, and
`_automatic_` is for every instance. -/
def AmbassadorID.Matches (aid : AmbassadorID) (envVar : Key) : Bool :=
  (if aid.length = 0 then ["default".toList] else aid).any fun item =>
    item == envVar || item == "_automatic_".toList

namespace Snapshot

/-! ### Resources

Spec fields are flattened into the resource; each structure has the fields
the modelled code reads, under their Go names. -/

/-- `corev1.SecretReference`. -/
structure SecretReference where
  name : Key
  «namespace» : Key
  deriving DecidableEq, Repr

/-- The secrets of `Host.spec.tls` (`TLSConfig`). -/
structure TLSConfig where
  caSecret : Key
  crlSecret : Key
  deriving DecidableEq, Repr

/-- `Host.spec.acmeProvider`: the name of `privateKeySecret`, if given. -/
structure ACMEProviderSpec where
  privateKeySecret : Option Key
  deriving DecidableEq, Repr

structure Host where
  name : Key
  «namespace» : Key
  ambassadorID : AmbassadorID
  acmeProvider : Option ACMEProviderSpec := none
  tlsSecret : Option SecretReference := none
  tls : Option TLSConfig := none
  deriving DecidableEq, Repr

structure TLSContext where
  name : Key
  «namespace» : Key
  ambassadorID : AmbassadorID
  secret : Key := []
  caSecret : Key := []
  crlSecret : Key := []
  secretNamespacing : Option Bool := none
  deriving DecidableEq, Repr

/-- A `Module`; its `config` is free-form. -/
structure Module where
  name : Key
  «namespace» : Key
  ambassadorID : AmbassadorID
  config : JsonObj
  deriving DecidableEq

/-- An `Ingress`: the `secretName` of each entry of `spec.tls`, and the
`ambassador_id` of its `getambassador.io/ambassador-id` annotation. -/
structure Ingress where
  name : Key
  «namespace» : Key
  ambassadorID : AmbassadorID := []
  tls : List Key
  deriving DecidableEq, Repr

/-- A `Mapping` or a `TCPMapping`: the two read alike. -/
structure Mapping where
  name : Key
  «namespace» : Key
  ambassadorID : AmbassadorID
  service : Key
  resolver : Key := []
  deriving DecidableEq, Repr

/-- A `KubernetesServiceResolver`, `KubernetesEndpointResolver` or `ConsulResolver`. -/
structure Resolver where
  name : Key
  «namespace» : Key
  ambassadorID : AmbassadorID
  deriving DecidableEq, Repr

/-- An `AuthService`, `RateLimitService`, `LogService` or `TracingService`:
its service string (`auth_service` for an `AuthService`, `service` for the
others). -/
structure ServiceResource where
  name : Key
  «namespace» : Key
  ambassadorID : AmbassadorID
  service : Key
  deriving DecidableEq, Repr

/-- A resource of any kind, as the annotations hold them. `unstructured` is
a `kates.Unstructured`: an annotation that did not parse. -/
inductive Object where
  | host (r : Host)
  | tlsContext (r : TLSContext)
  | module (r : Module)
  | ingress (r : Ingress)
  | mapping (r : Mapping)
  | tcpMapping (r : Mapping)
  | kubernetesServiceResolver (r : Resolver)
  | kubernetesEndpointResolver (r : Resolver)
  | consulResolver (r : Resolver)
  | authService (r : ServiceResource)
  | rateLimitService (r : ServiceResource)
  | logService (r : ServiceResource)
  | tracingService (r : ServiceResource)
  | unstructured
  deriving DecidableEq

/-- `GetAmbID`: the `ambassador_id` of a resource of any kind; a kind without
the field has its annotation's. -/
def GetAmbID : Object → AmbassadorID
  | .host r => r.ambassadorID
  | .tlsContext r => r.ambassadorID
  | .module r => r.ambassadorID
  | .ingress r => r.ambassadorID
  | .mapping r | .tcpMapping r => r.ambassadorID
  | .kubernetesServiceResolver r | .kubernetesEndpointResolver r | .consulResolver r =>
    r.ambassadorID
  | .authService r | .rateLimitService r | .logService r | .tracingService r => r.ambassadorID
  | .unstructured => []

/-- `snapshotTypes.SecretRef`. -/
structure SecretRef where
  «namespace» : Key
  name : Key
  deriving DecidableEq, Repr

/-- A `kates.Secret`; its `data` is what `checkSecret` validates. -/
structure Secret where
  name : Key
  «namespace» : Key
  data : List (Key × List Char) := []
  deriving DecidableEq, Repr

/-- The snapshot's `SecretRef`, by which `ReconcileSecrets` looks a secret up. -/
def Secret.ref (s : Secret) : SecretRef := ⟨s.namespace, s.name⟩

/-- `snapshotTypes.KubernetesSnapshot`. `FSSecrets` is a Go map, here a list of
its entries. -/
structure KubernetesSnapshot where
  annotations : List (List Object) := []
  hosts : List Host := []
  tlsContexts : List TLSContext := []
  modules : List Module := []
  ingresses : List Ingress := []
  mappings : List Mapping := []
  tcpMappings : List Mapping := []
  kubernetesServiceResolvers : List Resolver := []
  kubernetesEndpointResolvers : List Resolver := []
  consulResolvers : List Resolver := []
  authServices : List ServiceResource := []
  rateLimitServices : List ServiceResource := []
  logServices : List ServiceResource := []
  tracingServices : List ServiceResource := []
  k8sSecrets : List Secret := []
  fsSecrets : List (SecretRef × Secret) := []

/-- The annotations a reconciler takes: those that parsed, for this instance. -/
def annotationsFor (envAmbID : Key) (s : KubernetesSnapshot) : List Object :=
  s.annotations.flatten.filter fun a => a != .unstructured && (GetAmbID a).Matches envAmbID

end Snapshot

end Emissary
