import RegistryBridge.Proofs.Lifetime.Reach
import RegistryBridge.Proofs.Registry.Address
import RegistryBridge.Proofs.Url.ReadBack
import RegistryBridge.Wiring
/-!
# One hostname, one registry

The hostname of an integration is read for two purposes: for the name of the registry in image
references and pull secrets, and for the address that the registry is called at. Both readings succeed
for the same hostnames, and they mean the same host and the same port; so does the address of every
request, whatever path it has. A pass that has opened its connection therefore never finds that the
registry has no name.

## Main definitions

* `Url.SameService`: an address of the same service as another one.
* `WebRequest.Reaches`: a request that reaches the registry of a hostname, if it goes to a registry.
* `Wiring.Points`: the wiring is connected to no other registry.

## Main results

* `Connection.endpoint_sameService`, `Connection.call_sameService`: a connection calls its service.
* `Wiring.run_reaches`: so does a whole pass.
* `Registry.one_registry`: a hostname names the registry that is called.
-/

namespace RegistryBridge

/-- **Both readings succeed for the same hostnames.** A host that was read is not empty, and two slashes
stand before it. -/
theorem Registry.exists_host_iff_exists_base {hostname : String} :
    (∃ name, Registry.host hostname = .ok name) ↔ ∃ base, Registry.base hostname = .ok base := by
  simp only [host_eq_ok_iff, base_eq_ok_iff]
  constructor
  · rintro ⟨_, url, host, read, named, -⟩
    exact ⟨url, read, host, named⟩
  · rintro ⟨url, read, host, named⟩
    obtain ⟨_, same, spelled⟩ := (Url.wellFormed_of_parse read named).host
    obtain rfl := Option.some.inj (named.symm.trans same)
    exact ⟨_, url, host, read, named, spelled.text_ne_empty, rfl⟩

/-! ## Addresses of one service -/

/-- **An address of the same service**: it is well formed and has scheme, host and port of another
address, and both is true of its text: whoever reads it is led to that service, and finds each part of
the address again. The host is read from its own text, and a file has no service. -/
structure Url.SameService (base url : Url) : Prop where
  wellFormed : url.WellFormed
  scheme : url.scheme = base.scheme
  host : url.host = base.host
  port : url.port = base.port
  leads : ∀ host, base.host = some host →
    Url.service? url.text = some (base.scheme, host.text, base.port)
  readBack : ∀ host, base.host = some host → base.scheme ≠ "file" →
    Url.parse url.text =
      (Url.hostNamed (Url.isSpecial base.scheme) true host.text.toList).map fun host =>
        { url with host }

theorem Url.WellFormed.sameService {base url : Url} (h : url.WellFormed)
    (scheme : url.scheme = base.scheme) (host : url.host = base.host) (port : url.port = base.port) :
    base.SameService url where
  wellFormed := h
  scheme := scheme
  host := host
  port := port
  leads found named := by rw [h.service?_text (host.trans named), scheme, port]
  readBack found named service := by
    rw [h.parse_text (host.trans named) (scheme ▸ service), scheme]

/-- An address that is read from a hostname is well formed. -/
theorem Registry.wellFormed_of_base {hostname : String} {url : Url}
    (h : Registry.base hostname = .ok url) : url.WellFormed := by
  obtain ⟨read, host, named⟩ := Registry.base_eq_ok_iff.mp h
  exact Url.wellFormed_of_parse read named

/-! ## Calls of one connection -/

namespace Connection

variable {c : Connection} {url : Url}

/-- **Every address of a connection** is one of its service. -/
theorem endpoint_sameService (h : c.base.WellFormed) (segments : List String) :
    ∃ url, c.endpoint segments = .ok url ∧ c.base.SameService url := by
  obtain ⟨host, named, -⟩ := h.host
  refine ⟨c.base.withPath segments, ?_, (h.withPath segments).sameService rfl rfl rfl⟩
  rw [endpoint, Url.isOpaque_eq_false named, if_neg (by simp)]

theorem sameService_bare (h : c.base.SameService url) : c.base.SameService (bare url) :=
  h.wellFormed.bare.sameService h.scheme h.host h.port

/-- **Every request of a call** goes to the service of the connection. -/
theorem call_sameService (h : c.base.WellFormed) (call : RegistryCall) :
    (c.call call).Only fun (request : RegistryRequest) => c.base.SameService request.url := by
  obtain ⟨url, found, same⟩ := endpoint_sameService h call.segments
  unfold Connection.call
  rw [found]
  dsimp only
  cases c.obstacle? url with
  | some reason => trivial
  | none => exact ⟨sameService_bare same, fun _ => trivial⟩

end Connection

/-! ## Passes over the web -/

/-- **A request that reaches the registry of a hostname**, if it goes to a registry at all. -/
def WebRequest.Reaches (hostname : String) : WebRequest → Prop
  | cluster _ => True
  | registry request => ∃ base, Registry.base hostname = .ok base ∧ base.SameService request.url

/-- A question that opens no connection but to the registry of a hostname. -/
def Question.Opens (hostname : String) : Question → Prop
  | connect other _ _ => other = hostname
  | _ => True

namespace Wiring

variable {α : Type} {hostname : String} {now : Instant} {w : Wiring}

/-- The wiring is connected to the registry of a hostname, if it is connected at all. -/
def Points (hostname : String) (w : Wiring) : Prop :=
  ∀ c, w.connection = some c → Registry.base hostname = .ok c.base

theorem ofCluster_reaches (p : Program ClusterApi.Wire α) :
    (ofCluster p).Only (WebRequest.Reaches hostname) := by
  induction p with
  | done value => trivial
  | ask request next ih => exact ⟨trivial, ih⟩

theorem ofRegistry_reaches {base : Url} {p : Program RegistryWire α}
    (read : Registry.base hostname = .ok base)
    (h : p.Only fun (request : RegistryRequest) => base.SameService request.url) :
    (ofRegistry p).Only (WebRequest.Reaches hostname) := by
  induction p with
  | done value => trivial
  | ask request next ih => exact ⟨⟨base, read, h.1⟩, fun reply => ih reply (h.2 reply)⟩

/-- A connection that opens is one to the registry of its hostname. -/
theorem base_of_ofHostname {token : String} {insecure : Bool} {c : Connection}
    (h : Connection.ofHostname hostname token insecure = .ok c) :
    Registry.base hostname = .ok c.base := by
  unfold Connection.ofHostname at h
  cases read : Registry.base hostname with
  | error e =>
    rw [read] at h
    cases h
  | ok base =>
    rw [read] at h
    obtain rfl := Except.ok.inj h
    rfl

/-- **Whatever is asked**, no registry but that of the hostname is reached, and the wiring stays
connected to no other, if no other is to be connected. -/
theorem answer_reaches {question : Question} (own : question.Opens hostname)
    (h : w.Points hostname) :
    (answer now question w).Only (WebRequest.Reaches hostname) ∧
      (answer now question w).Yields fun result => result.2.Points hostname := by
  unfold answer
  cases question with
  | cluster call =>
    exact ⟨.bind (ofCluster_reaches _) fun _ => trivial,
      .bind (Program.yields_of_forall (fun _ => trivial) _) fun _ (_ : True) => h⟩
  | publish event =>
    exact ⟨.bind (ofCluster_reaches _) fun _ => trivial,
      .bind (Program.yields_of_forall (fun _ => trivial) _) fun _ (_ : True) => h⟩
  | connect other token insecure =>
    obtain rfl : other = hostname := own
    dsimp only
    cases opened : Connection.ofHostname other token insecure with
    | error e => exact ⟨trivial, h⟩
    | ok c =>
      refine ⟨trivial, ?_⟩
      rintro _ ⟨⟩
      exact base_of_ofHostname opened
  | registry call =>
    dsimp only
    cases connected : w.connection with
    | none => exact ⟨trivial, h⟩
    | some c =>
      -- Whatever connection is used was opened for this hostname.
      have read := h c connected
      have calls := c.call_sameService (Registry.wellFormed_of_base read) call
      exact ⟨.bind (ofRegistry_reaches read calls) fun _ => trivial,
        .bind (Program.yields_of_forall (fun _ => trivial) _) fun _ (_ : True) => h⟩

/-- **A whole pass reaches one registry** that connects no other one. -/
theorem run_reaches {p : Program Bridge α} (own : p.Only (Question.Opens hostname))
    (h : w.Points hostname) : (run now p w).Only (WebRequest.Reaches hostname) :=
  Program.Only.through own (fun _ _ own h => answer_reaches own h) h

end Wiring

/-! ## A pass that connects -/

/-- **The answers of the web**: any that a question may have, but a connection opens only when the
registry's address can be read. -/
def Wiring.conduct : Conduct Bridge Wiring where
  allows
    | .connect hostname token insecure, _, reply, _ =>
      reply = (Connection.ofHostname hostname token insecure).map fun _ => ()
    | _, _, _, _ => True
  answers
    | .connect .., w => ⟨_, w, rfl⟩
    | .cluster call, w => ⟨(.error default : Except OperationError call.Value), w, trivial⟩
    | .registry call, w =>
      ⟨(.error (.transport call.operation "") : Except RegistryError (Registry.Response call.Value)),
        w, trivial⟩
    | .publish _, w => ⟨(), w, trivial⟩

theorem Wiring.answer_allowed (now : Instant) (question : Question) (w : Wiring) :
    (answer now question w).Yields fun result =>
      conduct.allows question w result.1 result.2 := by
  cases question with
  | connect hostname token insecure =>
    unfold answer
    dsimp only
    cases opened : Connection.ofHostname hostname token insecure with
    | error e => exact congrArg (Except.map fun _ => ()) opened |>.symm
    | ok c => exact congrArg (Except.map fun _ => ()) opened |>.symm
  | cluster | registry | publish => exact Program.yields_of_forall (fun _ => trivial) _

namespace NamespacePass

variable {object : ObjectReference} {spec : IntegrationSpec} {name : String}

/-- A pass opens no connection but that of its integration. -/
theorem Asks.opens {n : Namespace} {i : Integration} {question : Question} (h : Asks n i question) :
    question.Opens i.spec.hostname := by
  have about := h.confined
  cases question with
  | connect => exact about
  | cluster | registry | publish => trivial

/-- A pass is connected only if its registry has an address. -/
theorem connect_always (object : ObjectReference) (spec : IntegrationSpec) (w : Wiring) :
    (Pass.connect object spec).Always Wiring.conduct (fun _ _ => True)
      (fun _ _ => ∃ base, Registry.base spec.hostname = .ok base) (fun _ _ => True) w := by
  unfold Pass.connect
  cases spec.credentials with
  | none => trivial
  | some entry =>
    refine (Step.always_bind _ _).mpr ((Step.always_cluster _ _).mpr ⟨trivial, ?_⟩)
    -- Only with a token is a connection asked for at all.
    rintro (e | _ | secret) after -
    · trivial
    · trivial
    · dsimp only
      cases Credentials.token secret entry with
      | error e => trivial
      | ok token =>
        refine ⟨trivial, ?_⟩
        rintro _ _ rfl
        unfold Connection.ofHostname
        cases Registry.base spec.hostname with
        | error e => trivial
        | ok base => exact ⟨base, rfl⟩

/-- Over the web as well, whatever has been asked before. -/
theorem connect_yields (now : Instant) (w : Wiring) :
    (Wiring.run now (Pass.connect object spec).run w).Yields fun result =>
      result.1 = .ok () → ∃ base, Registry.base spec.hostname = .ok base := by
  have ends := Program.Always.through (connect_always object spec w)
    (Wiring.answer_allowed now)
  refine Program.Yields.mono ends ?_
  rintro ⟨failure | _, w⟩ h
  · nofun
  · exact fun _ => h

/-- Provisions a namespace, but does something else about a hostname that gives no name. -/
def provisionOr (instead : OperationError → Step Action) (turns : Turns) (object : ObjectReference)
    (spec : IntegrationSpec) (name : String) : Step Action := do
  Pass.connect object spec
  match Registry.host spec.hostname with
  | .error e => instead e
  | .ok host =>
    Provisioning.stepsBy turns { object, ns := name, host, spec }
    return .requeue (Settings.resyncSeconds * 1000)

/-- **A pass that connects does not fail on the hostname**: whatever it would do about one that gives no
name, over the web it is the same pass. -/
theorem run_provisionOr (instead : OperationError → Step Action) (turns : Turns) (now : Instant)
    (w : Wiring) :
    Wiring.run now (provisionOr instead turns object spec name).run w =
      Wiring.run now (provisionBy turns object spec name).run w := by
  unfold provisionOr provisionBy
  cases unnamed : Registry.host spec.hostname with
  | ok host => rfl
  | error e =>
    -- Without a name there is no address, and the pass does not get past the connection.
    have refused : ¬ ∃ base, Registry.base spec.hostname = .ok base := by
      rw [← Registry.exists_host_iff_exists_base, unnamed]
      nofun
    refine (Program.through_bind _ _ _ _).trans (Eq.trans ?_ (Program.through_bind _ _ _ _).symm)
    refine (connect_yields now w).bind_congr ?_
    rintro ⟨failure | _, w⟩ h
    · rfl
    · exact absurd (h rfl) refused

end NamespacePass

/-! ## One registry -/

/-- **One hostname, one registry.** A hostname gives a name for image references exactly if it gives an
address to call. The name is then the host of that address, and its port behind a colon where it has
one, which is a port that does not go without saying; every address below it, of any path, is well
formed and leads to the same host and port.

A pass over a namespace, in whatever phase the namespace is and whatever the pass is told, sends no
request to any other registry. If it connects, the registry has a name, and what the pass would do if
there were none makes no difference. -/
theorem Registry.one_registry (hostname : String) :
    ((∃ name, Registry.host hostname = .ok name) ↔ ∃ base, Registry.base hostname = .ok base) ∧
      (∀ base, Registry.base hostname = .ok base →
        ∃ host, base.host = some host ∧ host.text ≠ "" ∧
          (∀ port, base.port = some port →
            port ≤ 65535 ∧ Url.defaultPort? base.scheme ≠ some port) ∧
          Registry.host hostname = .ok (match base.port with
            | some port => host.text ++ ":" ++ toString port
            | none => host.text) ∧
          ∀ token insecure segments, ∃ url,
            (Connection.mk base token insecure).endpoint segments = .ok url ∧
              base.SameService url) ∧
      ∀ (turns : Turns) (n : Namespace) (i : Integration), i.spec.hostname = hostname →
        (∀ phase now recorder,
          (Wiring.run now
            (NamespacePass.inPhaseBy turns (Resource.reference n) i.spec n.metadata.displayName
              phase).run { recorder }).Only (WebRequest.Reaches hostname)) ∧
        (∀ now w,
          (Wiring.run now (Pass.connect (Resource.reference n) i.spec).run w).Yields fun result =>
            result.1 = .ok () → ∃ name, Registry.host hostname = .ok name) ∧
        ∀ instead now w,
          Wiring.run now
              (NamespacePass.provisionOr instead turns (Resource.reference n) i.spec
                n.metadata.displayName).run w =
            Wiring.run now
              (NamespacePass.provisionBy turns (Resource.reference n) i.spec
                n.metadata.displayName).run w := by
  refine ⟨exists_host_iff_exists_base, fun base read => ?_, ?_⟩
  · have proper := wellFormed_of_base read
    obtain ⟨host, named, spelled⟩ := proper.host
    refine ⟨host, named, spelled.text_ne_empty, proper.port, ?_, fun token insecure segments => ?_⟩
    · exact host_eq_ok_iff.mpr
        ⟨base, host, (base_eq_ok_iff.mp read).1, named, spelled.text_ne_empty, rfl⟩
    · exact (Connection.mk base token insecure).endpoint_sameService proper segments
  · rintro turns n i rfl
    refine ⟨fun phase now recorder => ?_, fun now w => ?_, fun instead now w => ?_⟩
    · have own := NamespacePass.inPhaseBy_asks (n := n) (i := i) turns phase
      exact Wiring.run_reaches (own.mono fun _ asks => asks.opens) nofun
    · exact (NamespacePass.connect_yields now w).mono fun result connected opened =>
        exists_host_iff_exists_base.mpr (connected opened)
    · exact NamespacePass.run_provisionOr instead turns now w

/-- The registry of a host that is written at length, and what it is read as. -/
def Integration.atLength : Integration where
  metadata := { name := some "quay" }
  spec := { clusterId := "acme", hostname := "http://robot@[0:0::1]:8080/x?y#z" }

/-- The address that is read. -/
def Url.atLength : Url where
  scheme := "http"
  user := "robot"
  host := some (.ipv6 [0, 0, 0, 0, 0, 0, 0, 1])
  port := some 8080
  path := .segments ["x"]
  query := some "y"
  fragment := some "z"

/-- A user, a path and a long way to write the host make no difference. -/
theorem Registry.one_registry_atLength :
    Registry.base Integration.atLength.spec.hostname = .ok Url.atLength ∧
      Registry.host Integration.atLength.spec.hostname = .ok "[::1]:8080" ∧
      (∃ url, (Connection.mk Url.atLength "" false).endpoint ["api", "a/b", ".."] = .ok url ∧
        Url.atLength.SameService url) ∧
      (Wiring.run default
        (NamespacePass.inPhaseBy .inOrder (Resource.reference (default : Namespace))
          Integration.atLength.spec (default : Namespace).metadata.displayName .managed).run
        { recorder := { controller := "namespaces" } }).Only
        (WebRequest.Reaches Integration.atLength.spec.hostname) := by
  have read : Registry.base Integration.atLength.spec.hostname = .ok Url.atLength := by
    decide +kernel
  have one := one_registry Integration.atLength.spec.hostname
  obtain ⟨host, named, -, -, shown, called⟩ := one.2.1 Url.atLength read
  obtain rfl := Option.some.inj named
  exact ⟨read, shown, called "" false ["api", "a/b", ".."],
    (one.2.2 .inOrder default Integration.atLength rfl).1 .managed default _⟩

end RegistryBridge
