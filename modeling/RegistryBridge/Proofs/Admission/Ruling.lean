import RegistryBridge.Admission.Redirect
import RegistryBridge.Proofs.Destination.Grammar
/-!
# What the review of a request rests on

A request passes a row of checks, and the cluster is asked twice on the way. What becomes of it
depends on the request and on these two answers alone, and there are three things that can become of
it: the build is redirected, it is refused, or it passes as it is. Each has conditions of its own
that do not mention the order of the checks.

The order shows only in the words of a refusal: where two things stand in the way of a build, the
earlier one is told.

## Main definitions

* `Redirect.Answers`, `Redirect.reply`: what the cluster answers, and the response then.
* `Redirect.Candidate`, `Redirect.Located`, `Redirect.Bridged`: builds that have passed the first
  checks, each with what is known of it by then.
* `Redirect.Redirectable`, `Redirect.Refused`, `Redirect.Passed`: the three ends of a review.

## Main results

* `Redirect.reply_of_redirectable`, `Redirect.refuses_of_refused`, `Redirect.reply_of_passed`: the
  response at each end.
* `Redirect.redirectable_or_refused_or_passed`: there is no other end.
* `Redirect.exists_edits`: what a response with edits rests on.
-/

namespace RegistryBridge

/-- **A response that refuses**: nothing is stored, and so there are neither edits nor warnings. -/
structure AdmissionResponse.Refuses (response : AdmissionResponse) : Prop where
  denied : response.allowed = false
  unedited : response.patch = none
  silent : response.warnings = none

theorem AdmissionResponse.Refuses.deny (r : AdmissionRequest) (message : String) :
    (r.deny message).Refuses :=
  ⟨rfl, rfl, rfl⟩

theorem AdmissionResponse.Refuses.invalid (message : String) :
    (AdmissionResponse.invalid message).Refuses :=
  ⟨rfl, rfl, rfl⟩

namespace Redirect

/-! ## The answers of the cluster -/

/-- **What the cluster answers** while a request is reviewed: the integrations, and the builder of a
namespace. Any of it may fail. -/
structure Answers where
  integrations : Except OperationError (List Integration)
  builderIn : String → Except OperationError (Option ServiceAccount)

section Answers

variable {σ : Type} (answer : (question : Question) → σ → question.Answer × σ) (state : σ)

/-- The answers of a system. It may go on to another state with each of them. -/
def Answers.of : Answers where
  integrations := (answer (.cluster .listIntegrations) state).1
  builderIn ns := (answer (.cluster (.getServiceAccount ns builder))
    (answer (.cluster .listIntegrations) state).2).1

/-- **The response to a request**, given a system that answers. -/
def reply (r : AdmissionRequest) : AdmissionResponse :=
  ((response r).run (I := Bridge) answer state).1

end Answers

/-! ## How far a build gets -/

/-- **A build that the bridge may take over**: it makes its image itself, from a container file or
from source, and pushes it to a tag of an image stream. -/
structure Candidate (r : AdmissionRequest) (b : Build) (output : OutputReference) : Prop where
  submitted : ∃ s, r.object = some s ∧ s.build = .ok b
  target : b.target = some output
  tag : output.kind = "ImageStreamTag"
  pushed : b.spec.strategy.kind = some "Docker" ∨ b.spec.strategy.kind = some "Source" ∨
    b.spec.strategy.dockerStrategy ≠ none ∨ b.spec.strategy.sourceStrategy ≠ none

/-- Such a build in a namespace that is known, from the request or else from the build. -/
structure Located (r : AdmissionRequest) (b : Build) (output : OutputReference) (ns : String) : Prop
    extends Candidate r b output where
  known : r.ns.or b.metadata.ns = some ns

/-- Such a build in a namespace that the only integration takes. -/
structure Bridged (a : Answers) (r : AdmissionRequest) (b : Build) (output : OutputReference)
    (ns : String) (spec : IntegrationSpec) : Prop extends Located r b output ns where
  single : ∃ i : Integration, a.integrations = .ok [i] ∧ i.spec = spec
  taken : spec.allows ns = true

/-- The builder of a namespace, if there is one, pulls with the secret that the integration gives
it. -/
def Linked (account : Option ServiceAccount) (spec : IntegrationSpec) : Prop :=
  ∃ found, account = some found ∧
    ∃ secret ∈ found.imagePullSecrets.getD [], secret.name = spec.pullSecretName builder

/-- The output names a destination. -/
structure Meant (output : OutputReference) (ns : String) (d : Destination) : Prop where
  ns : d.ns = output.ns.getD ns
  nameTag : d.nameTag = output.name
  named : d.Named

/-- **All that stands in the way of a build** of a bridged namespace. -/
inductive Hindered (a : Answers) (output : OutputReference) (ns : String) (spec : IntegrationSpec) :
    Prop
  | unread (e : OperationError) (failed : a.builderIn ns = .error e)
  | unlinked (account : Option ServiceAccount) (found : a.builderIn ns = .ok account)
      (without : ¬ Linked account spec)
  | malformed (none : ∀ d, ¬ Meant output ns d)
  | unaddressed (e : OperationError) (failed : Registry.host spec.hostname = .error e)

/-! ## The ends of a review -/

/-- **A build that is redirected**: nothing stands in its way. -/
structure Redirectable (a : Answers) (r : AdmissionRequest) (b : Build) (output : OutputReference)
    (ns : String) (spec : IntegrationSpec) (d : Destination) (host : String) : Prop
    extends Bridged a r b output ns spec where
  linked : ∃ account, a.builderIn ns = .ok account ∧ Linked account spec
  meant : Meant output ns d
  addressed : Registry.host spec.hostname = .ok host

/-- **A request that is refused.** -/
inductive Refused (a : Answers) (r : AdmissionRequest) : Prop
  | undecodable {s : Submitted} {e : Json.DecodeError} (object : r.object = some s)
      (broken : s.build = .error e)
  | homeless {b : Build} {output : OutputReference} (candidate : Candidate r b output)
      (request : r.ns = none) (build : b.metadata.ns = none)
  | unlisted {b : Build} {output : OutputReference} {ns : String} {e : OperationError}
      (located : Located r b output ns) (failed : a.integrations = .error e)
  | hindered {b : Build} {output : OutputReference} {ns : String} {spec : IntegrationSpec}
      (bridged : Bridged a r b output ns spec) (hindrance : Hindered a output ns spec)

/-- A build that would be judged, were there one integration. -/
def Unsettled (a : Answers) (r : AdmissionRequest) (count : Nat) : Prop :=
  ∃ b output ns all, Located r b output ns ∧ a.integrations = .ok all ∧ all.length = count ∧
    count ≠ 1

/-- **A request that passes as it is.** -/
inductive Passed (a : Answers) (r : AdmissionRequest) : Prop
  | empty (none : r.object = none)
  | foreign {b : Build} (submitted : ∃ s, r.object = some s ∧ s.build = .ok b)
      (other : ∀ output, ¬ Candidate r b output)
  | unsettled {count : Nat} (unsettled : Unsettled a r count)
  | leftAlone {b : Build} {output : OutputReference} {ns : String} {i : Integration}
      (located : Located r b output ns) (single : a.integrations = .ok [i])
      (denied : i.spec.allows ns = false)

/-! ## The checks -/

variable {σ : Type} {answer : (question : Question) → σ → question.Answer × σ} {state : σ}
  {r : AdmissionRequest} {b : Build} {output : OutputReference} {ns host : String}
  {spec : IntegrationSpec} {d : Destination}

theorem pushesOutput_iff {s : BuildStrategy} :
    s.pushesOutput = true ↔ s.kind = some "Docker" ∨ s.kind = some "Source" ∨
      s.dockerStrategy ≠ none ∨ s.sourceStrategy ≠ none := by
  simp [BuildStrategy.pushesOutput, Option.isSome_iff_ne_none, or_assoc]

theorem takenOver_eq_some_iff :
    takenOver b = some output ↔ b.target = some output ∧ output.kind = "ImageStreamTag" ∧
      b.spec.strategy.pushesOutput = true := by
  unfold takenOver
  cases b.target with
  | none => simp
  | some o =>
    have both : (o.isImageStreamTag && b.spec.strategy.pushesOutput) = true ↔
        o.kind = "ImageStreamTag" ∧ b.spec.strategy.pushesOutput = true := by
      simp [OutputReference.isImageStreamTag, OutputReference.imageStreamTagKind]
    dsimp only
    rw [Option.ite_none_right_eq_some, both, Option.some.injEq]
    constructor
    · rintro ⟨checked, rfl⟩
      exact ⟨rfl, checked⟩
    · rintro ⟨rfl, checked⟩
      exact ⟨checked, rfl⟩

theorem Candidate.takenOver (h : Candidate r b output) : takenOver b = some output :=
  takenOver_eq_some_iff.mpr ⟨h.target, h.tag, pushesOutput_iff.mpr h.pushed⟩

theorem candidate_of_takenOver (submitted : ∃ s, r.object = some s ∧ s.build = .ok b)
    (taken : Redirect.takenOver b = some output) : Candidate r b output := by
  obtain ⟨target, tag, pushed⟩ := takenOver_eq_some_iff.mp taken
  exact ⟨submitted, target, tag, pushesOutput_iff.mp pushed⟩

theorem any_pullsWith_iff {account : Option ServiceAccount} :
    (account.any fun a => a.pullsWith (spec.pullSecretName builder)) = true ↔
      Linked account spec := by
  simp [Linked, ServiceAccount.pullsWith, Option.any_eq_true]

theorem ofOutput_eq_ok_iff_meant :
    Destination.ofOutput (output.ns.getD ns) output.name = .ok d ↔ Meant output ns d := by
  rw [Destination.ofOutput_eq_ok_iff]
  exact ⟨fun ⟨same, nameTag, named⟩ => ⟨same, nameTag, named⟩,
    fun meant => ⟨meant.ns, meant.nameTag, meant.named⟩⟩

theorem active_single (i : Integration) : Integration.active [i] = .ok i := rfl

/-- What is said while there is not one integration. -/
def warning (count : Nat) : String :=
  "ConfigurationError: configuration error: " ++ Integration.countMessage ++ " (found " ++
    toString count ++ ")"

theorem active_of_several {all : List Integration} (several : all.length ≠ 1) :
    Integration.active all = .error (.configuration (Integration.countMessage ++ " (found " ++
      toString all.length ++ ")")) := by
  unfold Integration.active
  split
  · exact absurd rfl several
  · rfl

/-! ## What the checks lead to -/

theorem reply_of_submitted (submitted : ∃ s, r.object = some s ∧ s.build = .ok b)
    (taken : takenOver b = some output) :
    reply answer state r =
      match r.ns.or b.metadata.ns with
      | none => .invalid "Build request carries no namespace"
      | some ns => ((judged r b ns output).run (I := Bridge) answer state).1 := by
  obtain ⟨s, object, build⟩ := submitted
  unfold reply response
  rw [object]
  dsimp only
  rw [build]
  dsimp only
  rw [taken]
  dsimp only
  cases r.ns.or b.metadata.ns <;> rfl

theorem reply_of_located (h : Located r b output ns) :
    reply answer state r = ((judged r b ns output).run (I := Bridge) answer state).1 := by
  rw [reply_of_submitted h.submitted h.takenOver, h.known]

theorem reply_of_undecodable {s : Submitted} {e : Json.DecodeError} (object : r.object = some s)
    (broken : s.build = .error e) :
    reply answer state r = .invalid ("serialization error: " ++ e.message) := by
  unfold reply response
  rw [object]
  dsimp only
  rw [broken]
  rfl

theorem reply_of_homeless (h : Candidate r b output) (request : r.ns = none)
    (build : b.metadata.ns = none) :
    reply answer state r = .invalid "Build request carries no namespace" := by
  rw [reply_of_submitted h.submitted h.takenOver, request, build]
  rfl

theorem run_ask {α : Type} {question : Question} {next : question.Answer → Program Bridge α}
    {given : question.Answer} (answered : (answer question state).1 = given) :
    (Program.ask (I := Bridge) question next).run (I := Bridge) answer state =
      (next given).run (I := Bridge) answer (answer question state).2 := by
  subst answered
  rfl

/-- The list of integrations cannot be read. -/
theorem reply_of_unlisted {e : OperationError} (h : Located r b output ns)
    (failed : (Answers.of answer state).integrations = .error e) :
    reply answer state r = r.deny e.message := by
  rw [reply_of_located h]
  exact congrArg Prod.fst (run_ask failed)

/-- There is no integration, or there are several. -/
theorem reply_of_several {all : List Integration} (h : Located r b output ns)
    (listed : (Answers.of answer state).integrations = .ok all) (several : all.length ≠ 1) :
    reply answer state r = { r.allow with warnings := some [warning all.length] } := by
  rw [reply_of_located h]
  refine (congrArg Prod.fst (run_ask listed)).trans ?_
  dsimp only
  rw [active_of_several several]
  rfl

/-- The only integration leaves the namespace alone. -/
theorem reply_of_leftAlone {i : Integration} (h : Located r b output ns)
    (single : (Answers.of answer state).integrations = .ok [i])
    (denied : i.spec.allows ns = false) : reply answer state r = r.allow := by
  rw [reply_of_located h]
  refine (congrArg Prod.fst (run_ask single)).trans ?_
  dsimp only
  rw [active_single]
  dsimp only
  rw [if_pos (by simp [denied])]
  rfl

/-- **The response to a build of a bridged namespace** hangs on the builder alone, and then on what
the output and the integration say. -/
theorem reply_of_bridged (h : Bridged (.of answer state) r b output ns spec) :
    reply answer state r =
      match (Answers.of answer state).builderIn ns with
      | .error e => r.deny e.message
      | .ok account =>
        if account.any fun a => a.pullsWith (spec.pullSecretName builder) then
          redirected r b spec ns output
        else r.deny (notLinked ns (spec.pullSecretName builder)) := by
  obtain ⟨i, single, rfl⟩ := h.single
  rw [reply_of_located h.toLocated]
  -- Two questions are asked: the first one is answered, with what takes the namespace.
  refine (congrArg Prod.fst (run_ask single)).trans ?_
  dsimp only
  rw [active_single]
  dsimp only
  rw [if_neg (by simp [h.taken])]
  cases found : (Answers.of answer state).builderIn ns with
  | error e => exact congrArg Prod.fst (run_ask found)
  | ok account =>
    refine (congrArg Prod.fst (run_ask found)).trans ?_
    dsimp only
    split <;> rfl

/-- The response once the builder can pull. -/
theorem reply_of_linked (h : Bridged (.of answer state) r b output ns spec)
    {account : Option ServiceAccount} (found : (Answers.of answer state).builderIn ns = .ok account)
    (linked : Linked account spec) : reply answer state r = redirected r b spec ns output := by
  rw [reply_of_bridged h, found]
  exact if_pos (any_pullsWith_iff.mpr linked)

/-- **A build that nothing stands in the way of** is redirected. -/
theorem reply_of_redirectable (h : Redirectable (.of answer state) r b output ns spec d host) :
    reply answer state r =
      { r.allow with patch := some (edits b d (d.image host (spec.organization d.ns))) } := by
  obtain ⟨account, found, linked⟩ := h.linked
  rw [reply_of_linked h.toBridged found linked, redirected, ofOutput_eq_ok_iff_meant.mpr h.meant]
  dsimp only
  rw [h.addressed]

/-- A build that something stands in the way of is refused. -/
theorem refuses_of_hindered (h : Bridged (.of answer state) r b output ns spec)
    (hindrance : Hindered (.of answer state) output ns spec) :
    (reply answer state r).Refuses := by
  rw [reply_of_bridged h]
  -- The first thing that stands in the way is told, but whichever it is the build is refused.
  cases found : (Answers.of answer state).builderIn ns with
  | error e => exact .deny r _
  | ok account =>
    dsimp only
    split
    · rename_i pulls
      unfold redirected
      cases destination : Destination.ofOutput (output.ns.getD ns) output.name with
      | error e => exact .invalid _
      | ok d =>
        dsimp only
        cases addressed : Registry.host spec.hostname with
        | error e => exact .deny r _
        | ok host =>
          -- Here nothing has stood in the way, against the hindrance.
          exfalso
          cases hindrance with
          | unread e failed =>
            rw [found] at failed
            cases failed
          | unlinked account' found' without =>
            rw [found] at found'
            obtain rfl := Except.ok.inj found'
            exact without (any_pullsWith_iff.mp pulls)
          | malformed none => exact none d (ofOutput_eq_ok_iff_meant.mp destination)
          | unaddressed e failed =>
            rw [addressed] at failed
            cases failed
    · exact .deny r _

/-- **What is refused is not allowed**, and has no edits. -/
theorem refuses_of_refused (h : Refused (.of answer state) r) :
    (reply answer state r).Refuses := by
  cases h with
  | undecodable object broken =>
    rw [reply_of_undecodable object broken]
    exact .invalid _
  | homeless candidate request build =>
    rw [reply_of_homeless candidate request build]
    exact .invalid _
  | unlisted located failed =>
    rw [reply_of_unlisted located failed]
    exact .deny r _
  | hindered bridged hindrance => exact refuses_of_hindered bridged hindrance

/-- **What passes** is allowed as it is; while there is not one integration, with a warning. -/
theorem reply_of_passed (h : Passed (.of answer state) r) :
    reply answer state r = r.allow ∨
      ∃ count, Unsettled (.of answer state) r count ∧
        reply answer state r = { r.allow with warnings := some [warning count] } := by
  cases h with
  | empty none =>
    left
    rw [reply, response, none]
    rfl
  | @foreign b submitted other =>
    left
    obtain ⟨s, object, build⟩ := submitted
    have none : takenOver b = none := Option.eq_none_iff_forall_ne_some.mpr fun output taken =>
      other output (candidate_of_takenOver ⟨s, object, build⟩ taken)
    rw [reply, response, object]
    dsimp only
    rw [build]
    dsimp only
    rw [none]
    rfl
  | unsettled unsettled =>
    right
    obtain ⟨b, output, ns, all, located, listed, rfl, several⟩ := unsettled
    exact ⟨_, ⟨b, output, ns, all, located, listed, rfl, several⟩,
      reply_of_several located listed several⟩
  | leftAlone located single denied => exact .inl (reply_of_leftAlone located single denied)

/-! ## There is no other end -/

/-- Nothing stands in the way of a build of a bridged namespace, or something does. -/
theorem Bridged.redirectable_or_hindered {a : Answers} (h : Bridged a r b output ns spec) :
    (∃ d host, Redirectable a r b output ns spec d host) ∨ Hindered a output ns spec := by
  cases found : a.builderIn ns with
  | error e => exact .inr (.unread e found)
  | ok account =>
    by_cases linked : Linked account spec
    · by_cases meant : ∃ d, Meant output ns d
      · obtain ⟨d, meant⟩ := meant
        cases addressed : Registry.host spec.hostname with
        | error e => exact .inr (.unaddressed e addressed)
        | ok host => exact .inl ⟨d, host, h, ⟨account, found, linked⟩, meant, addressed⟩
      · exact .inr (.malformed (not_exists.mp meant))
    · exact .inr (.unlinked account found linked)

/-- **Every request** has its build redirected, is refused or passes. -/
theorem redirectable_or_refused_or_passed (a : Answers) (r : AdmissionRequest) :
    (∃ b output ns spec d host, Redirectable a r b output ns spec d host) ∨ Refused a r ∨
      Passed a r := by
  -- The cases follow the checks; where one of them ends the review, that end is named.
  cases object : r.object with
  | none => exact .inr (.inr (.empty object))
  | some s =>
    cases build : s.build with
    | error e => exact .inr (.inl (.undecodable object build))
    | ok b =>
      by_cases candidate : ∃ output, Candidate r b output
      · obtain ⟨output, candidate⟩ := candidate
        cases known : r.ns.or b.metadata.ns with
        | none =>
          obtain ⟨request, build⟩ := Option.or_eq_none_iff.mp known
          exact .inr (.inl (.homeless candidate request build))
        | some ns =>
          have located : Located r b output ns := ⟨candidate, known⟩
          cases listed : a.integrations with
          | error e => exact .inr (.inl (.unlisted located listed))
          | ok all =>
            by_cases single : all.length = 1
            · obtain ⟨i, rfl⟩ := List.length_eq_one_iff.mp single
              cases taken : i.spec.allows ns with
              | false => exact .inr (.inr (.leftAlone located listed taken))
              | true =>
                have bridged : Bridged a r b output ns i.spec := ⟨located, ⟨i, listed, rfl⟩, taken⟩
                rcases bridged.redirectable_or_hindered with ⟨d, host, ready⟩ | hindrance
                · exact .inl ⟨b, output, ns, i.spec, d, host, ready⟩
                · exact .inr (.inl (.hindered bridged hindrance))
            · exact .inr (.inr (.unsettled ⟨b, output, ns, all, located, listed, rfl, single⟩))
      · exact .inr (.inr (.foreign ⟨s, object, build⟩ (not_exists.mp candidate)))

/-- **What the response is**, by the end that the review has come to. -/
theorem reply_cases (answer : (question : Question) → σ → question.Answer × σ) (state : σ)
    (r : AdmissionRequest) :
    (∃ b output ns spec d host, Redirectable (.of answer state) r b output ns spec d host ∧
        reply answer state r =
          { r.allow with patch := some (edits b d (d.image host (spec.organization d.ns))) }) ∨
      (Refused (.of answer state) r ∧ (reply answer state r).Refuses) ∨
      reply answer state r = r.allow ∨
      ∃ count, Unsettled (.of answer state) r count ∧
        reply answer state r = { r.allow with warnings := some [warning count] } := by
  rcases redirectable_or_refused_or_passed (.of answer state) r with
    ⟨b, output, ns, spec, d, host, ready⟩ | refused | passed
  · exact .inl ⟨b, output, ns, spec, d, host, ready, reply_of_redirectable ready⟩
  · exact .inr (.inl ⟨refused, refuses_of_refused refused⟩)
  · exact .inr (.inr (reply_of_passed passed))

/-- **What a response with edits rests on**: nothing stood in the way of a build, and the edits are
those of the build. -/
theorem exists_edits {patch : List Json.PatchOperation}
    (patched : (reply answer state r).patch = some patch) :
    ∃ b output ns spec d host, Redirectable (.of answer state) r b output ns spec d host ∧
      patch = edits b d (d.image host (spec.organization d.ns)) := by
  -- A refusal has no edits, and neither has what passes, with or without a warning.
  rcases reply_cases answer state r with
    ⟨b, output, ns, spec, d, host, ready, edited⟩ | ⟨-, refuses⟩ | same | ⟨count, -, warned⟩
  · rw [edited] at patched
    exact ⟨b, output, ns, spec, d, host, ready, (Option.some.inj patched).symm⟩
  · rw [refuses.unedited] at patched
    cases patched
  · rw [same] at patched
    cases patched
  · rw [warned] at patched
    cases patched

end Redirect

end RegistryBridge
