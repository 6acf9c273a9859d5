/-
# Connecting by the name of an interface (`LinuxRustyRouterPlatform::connect_ipv4`)

A connection is made on the device that the interface of a name is listed on.
In every run that is the device of the interface's configured link, or the empty
name when the link is not configured (`OnConfiguredDevice`): the poll lists such
an interface too, as misconfigured.  A socket that is bound to the empty name is
bound to no device.  So a name is safe to connect by exactly when it is not listed
or its link is configured with a device (`connectIpv4_iff`).
-/
import RustyRouter.ConfiguredListed
import RustyRouter.EventEntries

namespace RustyRouter

open KeyedStore HashMap InterfaceManagerWorker

/-! ## The connection -/

/-- `connect_ipv4`: `new` is `LinuxInetPacketNetworkInterface::new`, given the device and what else it
is given. -/
def LinuxRustyRouterPlatform.connectIpv4 {α : Type}
    (new : String → Ipv4Addr → UInt8 → List Ipv4Addr → Except Error α)
    (order : Shuffle (ℕ × InterfaceItem)) (db : InterfaceManagerDatabase)
    (networkInterface : String) (source : Ipv4Addr) (protocol : UInt8)
    (multicastGroups : List Ipv4Addr) : Except Error α :=
  let interfaces :=
    ((db.listInterfaceStatus order).filter fun interface =>
      match interface.name with
      | some name => name = networkInterface
      | none => false).map fun networkInterfaceStatus =>
        networkInterfaceStatus.networkLinkStatus.device
  match interfaces.getLast? with
  | some device => new device source protocol multicastGroups
  | none => .error (.illegalState ("Failed to find a device matching " ++ networkInterface))

/-- The device that the configuration gives to the network link of an interface. -/
def Router.deviceOf (config : Router) (interface : NetworkInterface) : Option String :=
  (config.networkLinks.lookup interface.networkLink).map NetworkLink.device

namespace LinuxRustyRouterPlatform

/-- Connecting by a name comes to an error before a socket is opened, or to the call that opens one
on a device. -/
def ConnectsTo (order : Shuffle (ℕ × InterfaceItem)) (db : InterfaceManagerDatabase)
    (networkInterface : String) (outcome : Except Error String) : Prop :=
  ∀ {α : Type} (new : String → Ipv4Addr → UInt8 → List Ipv4Addr → Except Error α)
    (source : Ipv4Addr) (protocol : UInt8) (multicastGroups : List Ipv4Addr),
    connectIpv4 new order db networkInterface source protocol multicastGroups =
      outcome.bind fun device => new device source protocol multicastGroups

/-- Connecting by a name fails before a socket is opened, or opens one on the device, which has a
name, of the interface's configured link. -/
inductive ConnectsSafely (config : Router) (order : Shuffle (ℕ × InterfaceItem))
    (db : InterfaceManagerDatabase) (networkInterface : String) : Prop where
  | fails (error : Error) (h : ConnectsTo order db networkInterface (.error error))
  | binds (interface : NetworkInterface) (device : String)
      (hinterface : config.networkInterfaces.lookup networkInterface = some interface)
      (hdevice : config.deviceOf interface = some device) (hname : device ≠ "")
      (h : ConnectsTo order db networkInterface (.ok device))

theorem ConnectsTo.eq {order : Shuffle (ℕ × InterfaceItem)} {db : InterfaceManagerDatabase}
    {networkInterface : String} {outcome outcome' : Except Error String}
    (h : ConnectsTo order db networkInterface outcome)
    (h' : ConnectsTo order db networkInterface outcome') : outcome = outcome' := by
  -- a constructor that gives back the device tells the outcomes apart
  have heq := (h (fun device _ _ _ => .ok device) ⟨0⟩ 0 []).symm.trans
    (h' (fun device _ _ _ => .ok device) ⟨0⟩ 0 [])
  cases outcome <;> cases outcome' <;> exact heq

/-- Connecting by a name that nothing is listed under fails; else it opens a socket on the device of
an interface of that name. -/
theorem connectsTo_cases (order : Shuffle (ℕ × InterfaceItem)) (db : InterfaceManagerDatabase)
    (networkInterface : String) :
    ((∀ item ∈ db.networkInterfaces.content, item.status.name ≠ some networkInterface) ∧
        ConnectsTo order db networkInterface
          (.error (.illegalState ("Failed to find a device matching " ++ networkInterface)))) ∨
      ∃ item ∈ db.networkInterfaces.content, item.status.name = some networkInterface ∧
        ConnectsTo order db networkInterface (.ok item.status.networkLinkStatus.device) := by
  have hnamed : ∀ status : NetworkInterfaceStatus,
      (match status.name with
        | some name => decide (name = networkInterface)
        | none => false) = true ↔ status.name = some networkInterface := by
    intro status
    cases status.name <;> simp
  unfold ConnectsTo connectIpv4
  dsimp only
  generalize hinterfaces : ((db.listInterfaceStatus order).filter _).map _ = interfaces
  -- the last interface with the name counts
  cases hlast : interfaces.getLast? with
  | none =>
    rw [List.getLast?_eq_none_iff.mp hlast, List.map_eq_nil_iff, List.filter_eq_nil_iff]
      at hinterfaces
    refine Or.inl ⟨fun item hitem hname => ?_, fun _ _ _ _ => rfl⟩
    exact hinterfaces item.status (StatusTable.mem_listStatus.mpr ⟨item, hitem, rfl⟩)
      ((hnamed _).mpr hname)
  | some device =>
    have hmem := List.mem_of_getLast? hlast
    rw [← hinterfaces, List.mem_map] at hmem
    obtain ⟨status, hstatus, rfl⟩ := hmem
    obtain ⟨hstatus, hname⟩ := List.mem_filter.mp hstatus
    obtain ⟨item, hitem, rfl⟩ := StatusTable.mem_listStatus.mp hstatus
    exact Or.inr ⟨item, hitem, (hnamed _).mp hname, fun _ _ _ _ => rfl⟩

end LinuxRustyRouterPlatform

/-! ## The device of a named interface -/

open LinuxRustyRouterPlatform

/-- A named interface is a configured one, on the device of its link if the link is configured and on
none otherwise. -/
def OnConfiguredDevice (config : Router) (e : CanonicalNetworkId × NetworkInterfaceStatus) : Prop :=
  ∀ name, e.2.name = some name →
    ∃ interface, config.networkInterfaces.lookup name = some interface ∧
      e.2.networkLinkStatus.device = (config.deviceOf interface).getD ""

theorem onConfiguredDevice_of_candidate {config : Router} {linkData : List NetlinkMessage}
    {id : CanonicalNetworkId} {status : NetworkInterfaceStatus}
    (h : Candidate config (reportedLinks config linkData) id status) :
    OnConfiguredDevice config (id, status) := by
  intro name hname
  cases h with
  | reported hinterface hr hlinkName =>
    cases hname
    obtain ⟨link, hlink, hdevice⟩ := link_of_mem_reportedLinks hr hlinkName
    refine ⟨_, hinterface, ?_⟩
    rw [Router.deviceOf, hlink]
    exact hdevice.symm
  | misconfigured hinterface hlink =>
    cases hname
    refine ⟨_, hinterface, ?_⟩
    rw [Router.deviceOf, hlink]
    rfl
  | unlinked hinterface hlink =>
    cases hname
    refine ⟨_, hinterface, ?_⟩
    rw [Router.deviceOf, hlink]
    rfl
  | unnamed => cases hname
  | missing hinterface hlink =>
    cases hname
    refine ⟨_, hinterface, ?_⟩
    rw [Router.deviceOf, hlink]
    rfl

/-- Every interface that a run stores is on the device of its configured link. -/
theorem onConfiguredDevice_run (config : Router) (steps : List ManagerStep) :
    ∀ e ∈ interfaceEntries config steps, OnConfiguredDevice config e := by
  apply forall_interfaceEntries
  · exact fun linkData id status => onConfiguredDevice_of_candidate
  · intro kernelEvent e e' he hedit
    obtain ⟨hname, hdevice⟩ := KernelEvent.name_device_of_edit hedit
    unfold OnConfiguredDevice
    rw [hname, hdevice]
    exact he

/-- **When connecting by a name is safe.**  In every database that a run reaches, connecting by a
name fails or opens a socket on the configured device, which has a name, if and only if no interface
of that name is listed or its link is configured with such a device. -/
theorem connectIpv4_iff (config : Router) (steps : List ManagerStep)
    (order : Shuffle (ℕ × InterfaceItem)) (networkInterface : String) :
    ConnectsSafely config order (InterfaceManager.run config steps) networkInterface ↔
      ∀ e ∈ interfaceEntries config steps, e.2.name = some networkInterface →
        ∃ interface device, config.networkInterfaces.lookup networkInterface = some interface ∧
          config.deviceOf interface = some device ∧ device ≠ "" := by
  -- in every run an interface is on the device that is configured for it
  have honDevice := onConfiguredDevice_run config steps
  rcases connectsTo_cases order (InterfaceManager.run config steps) networkInterface with
    ⟨hfree, herror⟩ | ⟨item, hitem, hname, hconnects⟩
  · refine iff_of_true (.fails _ herror) ?_
    rintro - ⟨item, hitem, rfl⟩ hname
    exact absurd hname (hfree item hitem)
  · obtain ⟨interface, hinterface, hdevice⟩ :=
      honDevice item.entry ⟨item, hitem, rfl⟩ networkInterface hname
    constructor
    · intro hsafe e he hename
      cases hsafe with
      | fails error h => cases h.eq hconnects
      | binds interface device hinterface hdevice hname h =>
        exact ⟨interface, device, hinterface, hdevice, hname⟩
    · intro hconfigured
      obtain ⟨interface', device, hinterface', hdevice', hnonempty⟩ :=
        hconfigured item.entry ⟨item, hitem, rfl⟩ hname
      rw [hinterface, Option.some.injEq] at hinterface'
      subst hinterface'
      rw [hdevice', Option.getD_some] at hdevice
      rw [show item.status.networkLinkStatus.device = device from hdevice] at hconnects
      exact .binds interface device hinterface hdevice' hnonempty hconnects

/-- A configuration with an interface on a link that does not exist. -/
def unusedConfig : Router :=
  ⟨collect [("iface0", ⟨"vlan.10"⟩)],
    collect [("Inside", ⟨"iface0"⟩), ("Unused", ⟨"doesnotexist"⟩)]⟩

/-- Connecting by the name of an interface whose link does not exist opens a socket on no device. -/
theorem not_connectsSafely :
    ¬ ∀ (config : Router) (steps : List ManagerStep) (order : Shuffle (ℕ × InterfaceItem))
      (networkInterface : String),
      (∃ before input after, steps = before ++ .poll input :: after ∧
        Succeeds config input (InterfaceManager.run config before)) →
      ConnectsSafely config order (InterfaceManager.run config steps) networkInterface := by
  intro h
  have hsafe := h unusedConfig [.poll (pollAt 0 [newLinkMessage 2 "vlan.10" .up] [])]
    (Shuffle.id _) "Unused" ⟨[], _, [], rfl, _, tryPoll_of_ok rfl rfl⟩
  have hlisted : ∃ item ∈ (InterfaceManager.run unusedConfig
      [.poll (pollAt 0 [newLinkMessage 2 "vlan.10" .up] [])]).networkInterfaces.content,
      item.status.name = some "Unused" := by decide +kernel
  obtain ⟨item, hitem, hname⟩ := hlisted
  obtain ⟨interface, device, hinterface, hdevice, -⟩ :=
    (connectIpv4_iff _ _ _ _).mp hsafe item.entry ⟨item, hitem, rfl⟩ hname
  have hunlinked : ∀ interface, unusedConfig.networkInterfaces.lookup "Unused" = some interface →
      unusedConfig.deviceOf interface = none := by
    intro interface hinterface
    cases hinterface
    decide +kernel
  rw [hunlinked interface hinterface] at hdevice
  cases hdevice

end RustyRouter
