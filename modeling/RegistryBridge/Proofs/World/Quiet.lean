import RegistryBridge.Pass.Connect
import RegistryBridge.Proofs.Registry.Address
import RegistryBridge.Proofs.World.Conduct
/-!
# Steps that only ask

## Main definitions

* `Question.isQuiet`: a question that changes nothing and tells nobody.
* `Step.Quiet`: a step that only asks quiet questions.
* `IntegrationSpec.HasCredentials`: an integration's secret is there and holds a token.

## Main results

* `Step.Quiet.bind`, and one rule for each way in which such a step is made.
* `Pass.integration_quiet`, `Pass.connect_quiet`: the first steps of a pass.
-/

namespace RegistryBridge

/-- **A question that changes nothing and tells nobody.** -/
def Question.isQuiet : Question → Bool
  | cluster call => !call.isWrite
  | connect .. => true
  | registry call => !call.isWrite
  | publish _ => false

namespace Step

variable {faults : Prop} {α β : Type} {ends : α → Prop} {w : World}

/-- **A step that only asks quiet questions**: it leaves the world as it is, ends as `ends` says, and
is lost only when something fails. -/
def Quiet (faults : Prop) (ends : α → Prop) (step : Step α) (w : World) : Prop :=
  step.Always (World.conduct faults) (fun question _ => question.isQuiet = true)
    (fun value after => ends value ∧ after = w) (fun _ after => after = w ∧ faults) w

namespace Quiet

theorem pure {value : α} (h : ends value) : (Pure.pure value : Step α).Quiet faults ends w :=
  ⟨h, rfl⟩

theorem fail {failure : Failure} (h : faults) :
    (Step.fail failure : Step α).Quiet faults ends w :=
  ⟨rfl, h⟩

theorem bind {ends' : β → Prop} {step : Step α} {next : α → Step β}
    (first : step.Quiet faults ends w)
    (rest : ∀ value, ends value → (next value).Quiet faults ends' w) :
    (step >>= next).Quiet faults ends' w := by
  refine (always_bind step next).mpr (Always.mono first (fun _ _ => id) ?_ fun _ _ => id)
  rintro value after ⟨h, rfl⟩
  exact rest value h

/-- A read of the cluster is quiet. -/
theorem cluster {call : ClusterCall} {failure : OperationError → Failure}
    (read : call.isWrite = false) :
    (Step.cluster call failure).Quiet faults (fun found => found = (w.cluster.answer call).1) w :=
  Always.cluster (w.cluster.answer_of_read read) (by simp [Question.isQuiet, read]) ⟨rfl, rfl⟩
    fun hf _ => ⟨⟨rfl, hf⟩, rfl, hf⟩

/-- **A lookup in the registry is quiet**, with an honest answer or, with faults, one that says
nothing. -/
theorem lookup {call : RegistryCall} {failure : RegistryError → Failure}
    (read : call.isWrite = false) :
    (Step.registry call failure).Quiet faults
      (fun response => w.registry.Honest call response w.registry ∨
        faults ∧ response.status ∉ call.telling) w :=
  Always.lookup read (by simp [Question.isQuiet, read]) (fun _ h => ⟨.inl h, rfl⟩)
    (fun hf _ h => ⟨.inr ⟨hf, h⟩, rfl⟩) fun hf _ => ⟨rfl, hf⟩

/-- Steps that are all taken are quiet when each of them is. -/
theorem all {l : List (Step Unit)} (each : ∀ step ∈ l, step.Quiet faults (fun _ => True) w) :
    (Step.all l).Quiet faults (fun _ => True) w := by
  have taken : ∀ step ∈ l, ∀ state, state = w →
      step.Always (World.conduct faults) (fun question _ => question.isQuiet = true)
        (fun _ after => (state = w → after = w) ∧ True)
        (fun _ after => (state = w → after = w) ∧ faults) state := by
    rintro step mem _ rfl
    exact (each step mem).mono (fun _ _ => id) (fun _ _ h => ⟨fun _ => h.2, trivial⟩)
      fun _ _ h => ⟨fun _ => h.1, h.2⟩
  have h := Always.all (· = w) (fun _ state after => state = w → after = w) (fun _ _ => True)
    (fun _ => faults) taken (fun _ _ _ _ moved => moved) (by simp [List.pairwise_iff_getElem]) rfl
  rw [List.map_id'] at h
  have stays : ∀ {after}, Moves (fun _ state after => state = w → after = w) l w after →
      after = w := fun moved => moved.keep (fun _ _ _ _ h => h) rfl
  exact h.mono (fun _ _ => id) (fun _ _ h => ⟨trivial, stays h.1⟩) fun _ _ h => ⟨stays h.1, h.2⟩

end Quiet

end Step

/-! ## The first steps of a pass -/

/-- A registry that has a name in image references can be connected. -/
theorem Connection.exists_ofHostname {hostname host : String}
    (named : Registry.host hostname = .ok host) (token : String) (insecure : Bool) :
    ∃ connection, ofHostname hostname token insecure = .ok connection := by
  obtain ⟨url, host, read, known, -⟩ := Registry.host_eq_ok_iff.mp named
  have base : Registry.base hostname = .ok url := Registry.base_eq_ok_iff.mpr ⟨read, host, known⟩
  exact ⟨⟨url, token, insecure⟩, by rw [ofHostname, base, Except.map]⟩

/-- The credentials of an integration can be read: their secret is there and holds a token. -/
def IntegrationSpec.HasCredentials (spec : IntegrationSpec) (entry : SecretKey) (w : World) : Prop :=
  spec.credentials = some entry ∧
    ∃ secret token, w.cluster.secrets.get? (qualified entry.ns entry.name) = some secret ∧
      Credentials.token secret entry = .ok token

namespace Pass

variable {faults : Prop} {w : World} {object : ObjectReference}

theorem integration_quiet {i : Integration} (only : w.cluster.integrations = [i]) :
    (integration object).Quiet faults (fun found => found = i) w := by
  refine .bind (.cluster rfl) fun found hfound => ?_
  obtain rfl : found = [i] := hfound.trans only
  exact ⟨rfl, rfl⟩

/-- **A connection opens** where the registry has a name and the credentials can be read. -/
theorem connect_quiet {spec : IntegrationSpec} {host : String} {entry : SecretKey}
    (named : Registry.host spec.hostname = .ok host) (usable : spec.HasCredentials entry w) :
    (connect object spec).Quiet faults (fun _ => True) w := by
  obtain ⟨asked, secret, token, stored, readable⟩ := usable
  unfold connect
  simp only [asked]
  refine .bind (.cluster rfl) fun found hfound => ?_
  obtain rfl : found = some secret := hfound.trans stored
  simp only [readable]
  obtain ⟨connection, opened⟩ := Connection.exists_ofHostname named token spec.insecure
  refine ⟨rfl, ?_⟩
  rintro reply after (⟨answered, rfl⟩ | ⟨hf, ⟨e, rfl⟩, rfl | ⟨_, _, rfl⟩⟩)
  · rw [opened] at answered
    subst answered
    exact ⟨trivial, rfl⟩
  · exact ⟨rfl, hf⟩
  · exact ⟨rfl, hf⟩

end Pass

end RegistryBridge
