import Emissary.Basic
import Emissary.Lib.Dict
import Emissary.Lib.Worklist
import Emissary.Lib.Python
import Emissary.Lib.Split
import Emissary.Lib.Json
import Emissary.Lib.Text
import Emissary.Cache
import Emissary.HostGlob
import Emissary.Weights
import Emissary.Config
import Emissary.MappingGroups
import Emissary.Snapshot
import Emissary.Secrets
import Emissary.Kates
import Emissary.KatesInvariant
import Emissary.EndpointRouting
import Emissary.EndpointWatches
import Emissary.Conversion
import Emissary.GroupId
import Emissary.Clusters
import Emissary.EnvoyNames
import Emissary.SavedSecrets
import Emissary.HostSecrets
import Emissary.Listener
import Emissary.ListenerChains
import Emissary.RouteVariants
import Emissary.Lib.Trace
import Emissary.Lib.Acyclic
import Emissary.RateLimit
import Emissary.Dependency
import Emissary.DependencySort
import Emissary.AmbexTransforms
import Emissary.Acp
import Emissary.Memory
import Emissary.RouteOrder
import Emissary.Consul
import Emissary.Watcher
