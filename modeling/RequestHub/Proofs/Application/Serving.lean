import RequestHub.Proofs.Except
import RequestHub.Proofs.Http.Address
import RequestHub.Proofs.Listener.Instants

/-!
# Addresses of an application

A port can be given by the plan of an application, by the document of its hub, and by the addresses in the
settings.  The first of them that gives one decides, and nothing but the port of an address changes.  The
address is written into the settings with its new port, looked at when the settings are checked, and read
again when the server is built; all of them see the same address.
-/

namespace RequestHub.Application.Plan

variable {plan : Plan} {definition : Definition.Hub} {settings : Settings}

/-- The address that a text spells, with the port that is given, or with its own. -/
def Resolves (text : String) (port : Option Nat) (address : SocketAddress) : Prop :=
  ∃ own, SocketAddress.ofString? text = some own ∧
    address.ip = own.ip ∧ address.port = port.getD own.port

/-- A listener has the address that the settings spell for it, and there is none without one. -/
inductive Listens (port : Option Nat) : Option String → Option SocketAddress → Prop where
  | absent : Listens port none none
  | present {text : String} {address : SocketAddress} (resolves : Resolves text port address) :
      Listens port (some text) (some address)

/-- What the server and the settings of an application have from a plan and from a hub's document. -/
structure Serves
    (plan : Plan)
    (definition : Definition.Hub)
    (application : Application)
    (server : Server) : Prop where
  served : application.server = .ok server
  hub : server.hub = application.hub
  /-- The port of the public listener is that of the plan, or that of the document, or its own. -/
  publicAddress : Resolves plan.settings.server.publicAddress
    (plan.publicPort.or definition.publicPort) server.publicAddress
  /-- There is a private listener where the settings have one, and its port is found alike. -/
  privateAddress : Listens (plan.privatePort.or definition.privatePort)
    plan.settings.server.privateAddress server.privateAddress
  /-- Apart from the addresses, the settings are those of the plan, with what it has to say of the
  name, the home and the level of the log. -/
  settings : ∃ publicAddress privateAddress, application.settings =
    { plan.settings with
      application :=
        { name := plan.name, home := plan.home.getD plan.settings.application.home }
      server := { plan.settings.server with publicAddress, privateAddress }
      telemetry :=
        { plan.settings.telemetry with
          logging :=
            { plan.settings.telemetry.logging with
              level := plan.level.getD plan.settings.telemetry.logging.level } } }

/-! ## From the settings to the server -/

@[simp]
theorem address_eq_ok_iff {text : String} {address : SocketAddress} :
    Server.Plan.address text = .ok address ↔ SocketAddress.ofString? text = some address := by
  rw [Server.Plan.address]
  cases SocketAddress.ofString? text with
  | none => simp
  | some other => exact ⟨fun same => by cases same; rfl, fun same => by cases same; rfl⟩

/-- What is read behind a change of the port has the port that was given, and the host that it had. -/
theorem resolves_of_withPort?
    {setting text written : String} {port : Option Nat} {address : SocketAddress}
    (changed : withPort? setting text port = .ok written)
    (read : Server.Plan.address written = .ok address) : Resolves text port address := by
  rw [address_eq_ok_iff] at read
  cases port with
  | none =>
      cases changed
      exact ⟨address, read, rfl, rfl⟩
  | some port =>
      rw [withPort?, withPort] at changed
      split at changed
      · rename_i own spelled
        cases changed
        have back := SocketAddress.ofString?_text (SocketAddress.wellFormed_of_ofString? spelled) port
        change SocketAddress.ofString? (SocketAddress.text ⟨own.ip, port⟩) = some address at read
        rw [back] at read
        split at read
        · cases read
          exact ⟨own, spelled, rfl, rfl⟩
        · cases read
      · cases changed

theorem listens_of_withPort?
    {setting : String} {text written : Option String} {port : Option Nat}
    {address : Option SocketAddress}
    (changed : text.mapM (fun text => withPort? setting text port) = .ok written)
    (read : written.mapM Server.Plan.address = .ok address) : Listens port text address := by
  cases text with
  | none =>
      cases changed
      cases read
      exact .absent
  | some text =>
      obtain ⟨between, first, rfl⟩ := option_mapM_some_eq_ok changed
      obtain ⟨address, second, rfl⟩ := option_mapM_some_eq_ok read
      exact .present (resolves_of_withPort? first second)

/-- What is changed in the settings for the ports, and what is not. -/
theorem withPorts_eq_ok
    {changed : Settings} (found : plan.withPorts definition settings = .ok changed) :
    ∃ publicAddress privateAddress,
      withPort? "server.public_addr" settings.server.publicAddress
          (plan.publicPort.or definition.publicPort) = .ok publicAddress ∧
        settings.server.privateAddress.mapM (fun address =>
            withPort? "server.private_addr" address
              (plan.privatePort.or definition.privatePort)) = .ok privateAddress ∧
          changed = { settings with
            server := { settings.server with publicAddress, privateAddress } } := by
  rw [withPorts] at found
  obtain ⟨publicAddress, first, rest⟩ := except_bind_eq_ok_iff.mp found
  obtain ⟨privateAddress, second, made⟩ := except_bind_eq_ok_iff.mp rest
  cases made
  exact ⟨publicAddress, privateAddress, first, second, rfl⟩

/-- A hub is loaded from the documents of a home. -/
theorem exists_home_of_load
    {tree : FileTree} {registries : Registries} {path : String} {assembly later : Assembly}
    {loaded : Hub.Loaded}
    (done : Hub.load tree registries path assembly = (.ok loaded, later)) :
    ∃ home, Home.read tree path = .ok home ∧ loaded.definition = home.hub.spec := by
  rw [Hub.load] at done
  cases read : Home.read tree path with
  | error failure =>
      rw [read] at done
      cases done
  | ok home =>
      rw [read] at done
      dsimp only at done
      split at done
      · cases done
        exact ⟨home, rfl, rfl⟩
      · cases done

/-- What has gone well where an application was built. -/
theorem exists_of_build
    {tree : FileTree} {assembly later : Assembly} {application : Application}
    (built : plan.build tree assembly = (.ok application, later)) :
    ∃ home, Home.read tree plan.named.application.home = .ok home ∧
      plan.withPorts home.hub.spec plan.named = .ok application.settings ∧
        application.settings.check = .ok () := by
  rw [build] at built
  rcases loaded : Hub.load tree plan.registries plan.named.application.home assembly with
    ⟨failure | parts, after⟩
  · rw [loaded] at built
    cases built
  · rw [loaded] at built
    dsimp only at built
    split at built
    · cases built
    · rename_i settings ready
      cases built
      obtain ⟨ported, found, kept⟩ := except_bind_eq_ok_iff.mp ready
      obtain ⟨⟨⟩, checked, same⟩ := except_bind_eq_ok_iff.mp kept
      cases same
      obtain ⟨home, read, definition⟩ := exists_home_of_load loaded
      exact ⟨home, read, definition ▸ found, checked⟩

/-- An application that was built can be served, at the addresses that its plan and its home say. -/
theorem serves_of_build
    {tree : FileTree} {assembly later : Assembly} {application : Application}
    (built : plan.build tree assembly = (.ok application, later)) :
    ∃ home server,
      Home.read tree (plan.home.getD plan.settings.application.home) = .ok home ∧
        Serves plan home.hub.spec application server := by
  obtain ⟨home, read, ported, checked⟩ := exists_of_build built
  obtain ⟨server, served, hub, -, -, first, second⟩ := application.server_of_check checked
  obtain ⟨publicAddress, privateAddress, changed, others, same⟩ := withPorts_eq_ok ported
  rw [same] at first second
  refine ⟨home, server, read, ?_⟩
  constructor
  case served => exact served
  case hub => exact hub
  case publicAddress => exact resolves_of_withPort? changed first
  case privateAddress => exact listens_of_withPort? others second
  case settings => exact ⟨publicAddress, privateAddress, same⟩

/-- A home whose document gives the port of the public listener. -/
def kiosk : FileTree :=
  .ofFiles [] [("hub.json",
    Bytes.ofString "\x7b\"spec\":\x7b\"applicationName\":\"kiosk\",\"publicPort\":8080\x7d\x7d")]

/-- A plan that gives the port of the private listener. -/
def openKiosk : Plan where
  name := "kiosk"
  settings := { server := { publicAddress := "[::ffff:10.0.0.1]:80" } }
  home := some ""
  privatePort := some 9000

theorem serves_of_build_kiosk :
    ∃ application later home server,
      openKiosk.build kiosk .start = (.ok application, later) ∧
        Home.read kiosk "" = .ok home ∧ Serves openKiosk home.hub.spec application server := by
  have done : (openKiosk.build kiosk .start).1.isOk = true := by decide +kernel
  rcases built : openKiosk.build kiosk .start with ⟨failure | application, later⟩
  · rw [built] at done
    cases done
  · obtain ⟨home, server, read, serves⟩ := serves_of_build built
    exact ⟨application, later, home, server, rfl, read, serves⟩

end RequestHub.Application.Plan
