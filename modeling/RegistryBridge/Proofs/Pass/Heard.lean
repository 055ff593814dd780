import RegistryBridge.Proofs.Pass.Script
import RegistryBridge.Proofs.Program.Heard
/-!
# What is heard in a step

A step of a pass hears exchanges until it ends with a value or loses the pass. How it is made says how
its transcript is made.

Some exchanges a step does not get past: it loses the pass there and asks no more. What such a step
hears is cut off at the first of them.

## Main definitions

* `Step.Hears`: what is heard in a step, and how it ends.
* `Step.HaltsAt`: a step that is lost at the first exchange of some kind, and only there.
* `Step.CutAt`: a transcript that is cut off at the first exchange of some kind.

## Main results

* `Step.hears_bind_iff` and one rule for each way of asking.
* `Step.HaltsAt.cutAt`: what a step hears that halts.
-/

namespace RegistryBridge

/-! ## Transcripts are compared -/

instance decidableEqExcept {ε α : Type} [DecidableEq ε] [DecidableEq α] :
    DecidableEq (Except ε α)
  | .ok a, .ok b => decidable_of_iff (a = b) (by simp)
  | .error e, .error e' => decidable_of_iff (e = e') (by simp)
  | .ok _, .error _ | .error _, .ok _ => isFalse nofun

instance {I : Interface} [DecidableEq I.Query] [∀ query, DecidableEq (I.Reply query)] :
    DecidableEq (Exchange I)
  | ⟨query, reply⟩, ⟨query', reply'⟩ =>
    if same : query = query' then
      decidable_of_iff (same ▸ reply = reply') (by subst same; simp)
    else
      isFalse fun h => same (congrArg Exchange.query h)

instance (call : ClusterCall) : DecidableEq call.Value :=
  match call with
  | .listIntegrations => inferInstanceAs (DecidableEq (List Integration))
  | .getSecret .. => inferInstanceAs (DecidableEq (Option Secret))
  | .getServiceAccount .. => inferInstanceAs (DecidableEq (Option ServiceAccount))
  | .listImageStreams _ => inferInstanceAs (DecidableEq (List ImageStream))
  | .getImageStream .. => inferInstanceAs (DecidableEq (Option ImageStream))
  | .applySecret _ | .linkServiceAccount .. | .holdFinalizer .. | .releaseFinalizer .. |
    .createImport _ | .noteBuild .. | .reportStatus .. => inferInstanceAs (DecidableEq Unit)

instance (call : RegistryCall) : DecidableEq call.Value :=
  match call with
  | .getOrganization _ => inferInstanceAs (DecidableEq Registry.Organization)
  | .getRobot .. | .createRobot .. => inferInstanceAs (DecidableEq Registry.Robot)
  | .getPrototypes _ => inferInstanceAs (DecidableEq Registry.Prototypes)
  | .createPrototype .. => inferInstanceAs (DecidableEq Registry.Prototype)
  | .getRepository .. => inferInstanceAs (DecidableEq Registry.Repository)
  | .createOrganization _ | .deleteOrganization _ | .createRepository .. =>
    inferInstanceAs (DecidableEq Unit)

instance (query : Bridge.Query) : DecidableEq (Bridge.Reply query) :=
  match query with
  | .cluster call => inferInstanceAs (DecidableEq (Except OperationError call.Value))
  | .connect .. => inferInstanceAs (DecidableEq (Except RegistryError Unit))
  | .registry call =>
    inferInstanceAs (DecidableEq (Except RegistryError (Registry.Response call.Value)))
  | .publish _ => inferInstanceAs (DecidableEq Unit)

instance : DecidableEq Bridge.Query := inferInstanceAs (DecidableEq Question)

namespace Step

variable {α β : Type} {t : Transcript Bridge} {ended : Except Failure α}

/-- **What is heard in a step**, up to its end with a value or with the failure of the pass. -/
def Hears (step : Step α) (t : Transcript Bridge) (ended : Except Failure α) : Prop :=
  Program.Hears step.run t ended

@[simp] theorem hears_pure_iff {value : α} :
    (pure value : Step α).Hears t ended ↔ t = [] ∧ ended = .ok value :=
  Program.hears_done_iff

@[simp] theorem hears_fail_iff {failure : Failure} :
    (fail failure : Step α).Hears t ended ↔ t = [] ∧ ended = .error failure :=
  Program.hears_done_iff

/-- **A step behind another one** hears what the first hears, and more where that ends with a value. -/
theorem hears_bind_iff {step : Step α} {next : α → Step β} {ended : Except Failure β} :
    (step >>= next).Hears t ended ↔
      (∃ failure, step.Hears t (.error failure) ∧ ended = .error failure) ∨
        ∃ first rest value, t = first ++ rest ∧ step.Hears first (.ok value) ∧
          (next value).Hears rest ended := by
  refine Program.hears_bind_iff.trans ⟨?_, ?_⟩
  · rintro ⟨first, rest, failure | value, rfl, run, onward⟩
    · obtain ⟨rfl, rfl⟩ := Program.hears_done_iff.mp onward
      rw [List.append_nil]
      exact .inl ⟨failure, run, rfl⟩
    · exact .inr ⟨first, rest, value, rfl, run, onward⟩
  · rintro (⟨failure, run, rfl⟩ | ⟨first, rest, value, rfl, run, onward⟩)
    · exact ⟨t, [], .error failure, by simp, run, Program.hears_done_iff.mpr ⟨rfl, rfl⟩⟩
    · exact ⟨first, rest, .ok value, rfl, run, onward⟩

theorem hears_cluster_iff {call : ClusterCall} {failure : OperationError → Failure}
    {ended : Except Failure call.Value} :
    (cluster call failure).Hears t ended ↔
      ∃ reply, t = [.cluster call reply] ∧ ended = reply.mapError failure := by
  refine Program.hears_ask_iff.trans ⟨?_, ?_⟩
  · rintro ⟨reply, rest, rfl, onward⟩
    obtain ⟨rfl, rfl⟩ := Program.hears_done_iff.mp onward
    exact ⟨reply, rfl, rfl⟩
  · rintro ⟨reply, rfl, rfl⟩
    exact ⟨reply, [], rfl, Program.hears_done_iff.mpr ⟨rfl, rfl⟩⟩

/-- A call of the cluster, of whose answer something is made. -/
theorem hears_cluster_bind_iff {call : ClusterCall} {failure : OperationError → Failure}
    {next : call.Value → Step α} :
    (cluster call failure >>= next).Hears t ended ↔
      (∃ e, t = [.cluster call (.error e)] ∧ ended = .error (failure e)) ∨
        ∃ value rest, t = .cluster call (.ok value) :: rest ∧ (next value).Hears rest ended := by
  refine Program.hears_ask_iff.trans ⟨?_, ?_⟩
  · rintro ⟨e | value, rest, rfl, onward⟩
    · obtain ⟨rfl, rfl⟩ := Program.hears_done_iff.mp onward
      exact .inl ⟨e, rfl, rfl⟩
    · exact .inr ⟨value, rest, rfl, onward⟩
  · rintro (⟨e, rfl, rfl⟩ | ⟨value, rest, rfl, onward⟩)
    · exact ⟨.error e, [], rfl, Program.hears_done_iff.mpr ⟨rfl, rfl⟩⟩
    · exact ⟨.ok value, rest, rfl, onward⟩

/-- A call of the registry, of whose answer something is made. -/
theorem hears_registry_bind_iff {call : RegistryCall} {failure : RegistryError → Failure}
    {next : Registry.Response call.Value → Step α} :
    (registry call failure >>= next).Hears t ended ↔
      (∃ e, t = [.registry call (.error e)] ∧ ended = .error (failure e)) ∨
        ∃ response rest, t = .registry call (.ok response) :: rest ∧
          (next response).Hears rest ended := by
  refine Program.hears_ask_iff.trans ⟨?_, ?_⟩
  · rintro ⟨e | response, rest, rfl, onward⟩
    · obtain ⟨rfl, rfl⟩ := Program.hears_done_iff.mp onward
      exact .inl ⟨e, rfl, rfl⟩
    · exact .inr ⟨response, rest, rfl, onward⟩
  · rintro (⟨e, rfl, rfl⟩ | ⟨response, rest, rfl, onward⟩)
    · exact ⟨.error e, [], rfl, Program.hears_done_iff.mpr ⟨rfl, rfl⟩⟩
    · exact ⟨.ok response, rest, rfl, onward⟩

@[simp] theorem hears_of_iff {result : Except Failure α} :
    (of result : Step α).Hears t ended ↔ t = [] ∧ ended = result :=
  Program.hears_done_iff

theorem hears_ite_iff {c : Prop} [Decidable c] {step other : Step α} :
    (if c then step else other).Hears t ended ↔
      c ∧ step.Hears t ended ∨ ¬ c ∧ other.Hears t ended := by
  split <;> simp [*]

/-! ## Steps that halt -/

section Halts

variable {stops : Exchange Bridge → Prop}

/-- **A transcript that is cut off at the first exchange of some kind**, where the pass is lost. What
ends with a value has met none. -/
def CutAt (stops : Exchange Bridge → Prop) (t : Transcript Bridge) (ended : Except Failure α) : Prop :=
  ((∃ value, ended = .ok value) ∧ ∀ e ∈ t, ¬ stops e) ∨
    ∃ failure front last, ended = .error failure ∧ t = front ++ [last] ∧ stops last ∧
      ∀ e ∈ front, ¬ stops e

/-- A program that is lost at the first exchange of some kind, and only there. -/
def HaltsIn (stops : Exchange Bridge → Prop) : Program Bridge (Except Failure α) → Prop
  | .done ended => ∃ value, ended = .ok value
  | .ask query next => ∀ reply,
    (stops ⟨query, reply⟩ → ∃ failure, next reply = .done (.error failure)) ∧
      (¬ stops ⟨query, reply⟩ → HaltsIn stops (next reply))

/-- **A step that is lost at the first exchange of some kind**, and only there. -/
def HaltsAt (stops : Exchange Bridge → Prop) (step : Step α) : Prop :=
  HaltsIn stops step.run

namespace HaltsAt

/-- **What a step hears that halts** is cut off at the first exchange that halts it. -/
theorem cutAt {step : Step α} (halts : step.HaltsAt stops) (run : step.Hears t ended) :
    CutAt stops t ended := by
  unfold HaltsAt at halts
  unfold Hears at run
  generalize step.run = p at halts run
  induction p generalizing t with
  | done result =>
    obtain ⟨rfl, rfl⟩ := Program.hears_done_iff.mp run
    exact .inl ⟨halts, by simp⟩
  | ask query next ih =>
    obtain ⟨reply, rest, rfl, onward⟩ := Program.hears_ask_iff.mp run
    -- The transcript goes on only behind an exchange that does not halt the step.
    by_cases stop : stops ⟨query, reply⟩
    · obtain ⟨failure, lost⟩ := (halts reply).1 stop
      rw [lost] at onward
      obtain ⟨rfl, rfl⟩ := Program.hears_done_iff.mp onward
      exact .inr ⟨failure, [], _, rfl, rfl, stop, by simp⟩
    · rcases ih reply ((halts reply).2 stop) onward with
        ⟨ends, clear⟩ | ⟨failure, front, last, rfl, rfl, stopped, clear⟩
      · exact .inl ⟨ends, List.forall_mem_cons.mpr ⟨stop, clear⟩⟩
      · exact .inr ⟨failure, _ :: front, last, rfl, rfl, stopped,
          List.forall_mem_cons.mpr ⟨stop, clear⟩⟩

theorem pure (value : α) : (Pure.pure value : Step α).HaltsAt stops :=
  ⟨value, rfl⟩

theorem of {result : Except Failure α} (h : ∃ value, result = .ok value) :
    (Step.of result).HaltsAt stops :=
  h

theorem bind {step : Step α} {next : α → Step β} (first : step.HaltsAt stops)
    (rest : ∀ value, (next value).HaltsAt stops) : (step >>= next).HaltsAt stops := by
  have both : ∀ p : Program Bridge (Except Failure α), HaltsIn stops p →
      HaltsIn stops ((ExceptT.mk p : Step α) >>= next).run := by
    intro p halts
    induction p with
    | done ended =>
      obtain ⟨value, rfl⟩ := halts
      exact rest value
    | ask query more ih =>
      refine fun reply => ⟨fun stop => ?_, fun onward => ih reply ((halts reply).2 onward)⟩
      obtain ⟨failure, lost⟩ := (halts reply).1 stop
      refine ⟨failure, ?_⟩
      change Program.bind (more reply) _ = _
      rw [lost]
      rfl
  exact both step.run first

theorem ite {c : Prop} [Decidable c] {step other : Step α} (yes : c → step.HaltsAt stops)
    (no : ¬ c → other.HaltsAt stops) : (if c then step else other).HaltsAt stops := by
  split
  · exact yes ‹_›
  · exact no ‹_›

/-- A call of the cluster, whose answer may halt the step as an error does. -/
theorem cluster_bind {call : ClusterCall} {failure : OperationError → Failure}
    {next : call.Value → Step α} (lost : ∀ e, stops (.cluster call (.error e)))
    (halts : ∀ value, stops (.cluster call (.ok value)) → ∃ failure, next value = fail failure)
    (goes : ∀ value, ¬ stops (.cluster call (.ok value)) → (next value).HaltsAt stops) :
    (cluster call failure >>= next).HaltsAt stops := by
  rintro (e | value)
  · exact ⟨fun _ => ⟨failure e, rfl⟩, fun onward => absurd (lost e) onward⟩
  · refine ⟨fun stop => ?_, goes value⟩
    obtain ⟨failure, same⟩ := halts value stop
    exact ⟨failure, congrArg ExceptT.run same⟩

theorem cluster {call : ClusterCall} {failure : OperationError → Failure}
    (lost : ∀ e, stops (.cluster call (.error e)))
    (goes : ∀ value, ¬ stops (.cluster call (.ok value))) :
    (Step.cluster call failure).HaltsAt stops := by
  rintro (e | value)
  · exact ⟨fun _ => ⟨failure e, rfl⟩, fun onward => absurd (lost e) onward⟩
  · exact ⟨fun stop => absurd stop (goes value), fun _ => ⟨value, rfl⟩⟩

/-- A call of the registry, whose answer may halt the step as an error does. -/
theorem registry_bind {call : RegistryCall} {failure : RegistryError → Failure}
    {next : Registry.Response call.Value → Step α} (lost : ∀ e, stops (.registry call (.error e)))
    (halts : ∀ response, stops (.registry call (.ok response)) →
      ∃ failure, next response = fail failure)
    (goes : ∀ response, ¬ stops (.registry call (.ok response)) → (next response).HaltsAt stops) :
    (registry call failure >>= next).HaltsAt stops := by
  rintro (e | response)
  · exact ⟨fun _ => ⟨failure e, rfl⟩, fun onward => absurd (lost e) onward⟩
  · refine ⟨fun stop => ?_, goes response⟩
    obtain ⟨failure, same⟩ := halts response stop
    exact ⟨failure, congrArg ExceptT.run same⟩

end HaltsAt

end Halts

end Step

end RegistryBridge
