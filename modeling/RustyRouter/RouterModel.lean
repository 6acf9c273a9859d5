/-
# Configuration and status (`rusty-router-model`)

What the interface manager reads of a configuration, and the statuses it lists
and publishes.  A configuration that names a device for two links, or a link for
two interfaces, can be written down; `DistinctDevices` and `DistinctLinks` say
that a configuration does not.
-/
import RustyRouter.HashMap
import RustyRouter.NetAddr

namespace RustyRouter

/-! ## Configuration -/

/-- `NetworkLink`. -/
structure NetworkLink where
  device : String
  deriving DecidableEq, Repr

/-- `NetworkInterface`. -/
structure NetworkInterface where
  networkLink : String
  deriving DecidableEq, Repr

/-- `Router`.  The order of the entries is the order in which the maps are iterated over. -/
structure Router where
  networkLinks : HashMap String NetworkLink
  networkInterfaces : HashMap String NetworkInterface

namespace Router

/-- No two network links name the same device. -/
def DistinctDevices (config : Router) : Prop :=
  (config.networkLinks.iter.map fun (_, link) => link.device).Nodup

/-- No two interfaces name the same network link. -/
def DistinctLinks (config : Router) : Prop :=
  (config.networkInterfaces.iter.map fun (_, interface) => interface.networkLink).Nodup

instance (config : Router) : Decidable config.DistinctDevices :=
  inferInstanceAs (Decidable (List.Nodup _))

instance (config : Router) : Decidable config.DistinctLinks :=
  inferInstanceAs (Decidable (List.Nodup _))

variable {config : Router}

/-- A device names its link. -/
theorem DistinctDevices.name_eq (h : config.DistinctDevices) {name name' : String}
    {link link' : NetworkLink} (hlink : config.networkLinks.lookup name = some link)
    (hlink' : config.networkLinks.lookup name' = some link') (hdevice : link.device = link'.device) :
    name = name' := by
  have heq := List.inj_on_of_nodup_map h (HashMap.mem_iter.mpr hlink) (HashMap.mem_iter.mpr hlink')
    hdevice
  exact congrArg Prod.fst heq

/-- A link names its interface. -/
theorem DistinctLinks.name_eq (h : config.DistinctLinks) {name name' : String}
    {interface interface' : NetworkInterface}
    (hinterface : config.networkInterfaces.lookup name = some interface)
    (hinterface' : config.networkInterfaces.lookup name' = some interface')
    (hlink : interface.networkLink = interface'.networkLink) : name = name' := by
  have heq := List.inj_on_of_nodup_map h (HashMap.mem_iter.mpr hinterface)
    (HashMap.mem_iter.mpr hinterface') hlink
  exact congrArg Prod.fst heq

end Router

/-! ## Status -/

/-- `NetworkLinkOperationalState`. -/
inductive NetworkLinkOperationalState : Type where
  | up
  | down
  | unknown
  | notFound
  | misconfigured
  deriving DecidableEq, Repr

/-- `NetworkLinkStatus`. -/
structure NetworkLinkStatus where
  name : Option String
  device : String
  operationalState : NetworkLinkOperationalState
  deriving DecidableEq, Repr

/-- `NetworkInterfaceStatus`. -/
structure NetworkInterfaceStatus where
  name : Option String
  addresses : List IpAddress
  networkLinkStatus : NetworkLinkStatus
  deriving DecidableEq, Repr

/-- `NetworkStatusUpdate`. -/
inductive NetworkStatusUpdate : Type where
  | link (status : NetworkLinkStatus)
  | interface (status : NetworkInterfaceStatus)
  deriving DecidableEq, Repr

/-- Whether the kernel reports the link: the operational states a link message can give. -/
def NetworkLinkOperationalState.reported : NetworkLinkOperationalState → Bool
  | .up | .down | .unknown => true
  | .notFound | .misconfigured => false

end RustyRouter
