import RegistryBridge.Proofs.Admission.Destination
import RegistryBridge.Proofs.Admission.Ruling
/-!
# The verdict on a request

What the response to a request says, read off from the request and from the answers of the cluster:
whether a build is redirected or refused, whose request is answered, and whose organization a build
is sent to.

A response says whose request it answers by the identity of the request. A refusal of what makes no
sense has none: it cannot be told from the refusal of anything else.

Whether a build is redirected is decided by its own namespace; where it is sent, by the namespace of
its output. The integration is asked of the first one alone.

## Main definitions

* `Redirect.Senseless`: requests whose refusal has no identity.

## Main results

* `Redirect.reply_verdict`: when a build is redirected, when it is refused, and when there is a
  warning.
* `Redirect.identity_kept_iff`: when a response can be told to answer its request.
* `Redirect.sent_within_iff`: when a build is sent to the organization of a bridged namespace.
-/

namespace RegistryBridge.Redirect

open NamespacePass (acme begun)

variable {σ : Type} {answer : (question : Question) → σ → question.Answer × σ} {state : σ}
  {r : AdmissionRequest} {b : Build} {output : OutputReference} {ns : String}
  {spec : IntegrationSpec}

/-! ## Redirected, refused, warned -/

/-- A response that does not allow the request refuses it. -/
theorem refused_of_denied (h : (reply answer state r).allowed = false) :
    Refused (.of answer state) r := by
  rcases reply_cases answer state r with
    ⟨b, output, ns, spec, d, host, -, edited⟩ | ⟨refused, -⟩ | same | ⟨count, -, warned⟩
  · rw [edited] at h
    cases h
  · exact refused
  · rw [same] at h
    cases h
  · rw [warned] at h
    cases h

/-- A warning counts the integrations. -/
theorem unsettled_of_warned {warnings : List String}
    (h : (reply answer state r).warnings = some warnings) :
    ∃ count, Unsettled (.of answer state) r count ∧ warnings = [warning count] := by
  rcases reply_cases answer state r with
    ⟨b, output, ns, spec, d, host, -, edited⟩ | ⟨-, refuses⟩ | same | ⟨count, unsettled, warned⟩
  · rw [edited] at h
    cases h
  · rw [refuses.silent] at h
    cases h
  · rw [same] at h
    cases h
  · rw [warned] at h
    exact ⟨count, unsettled, (Option.some.inj h).symm⟩

/-- **The verdict on a request.** Whatever the cluster answers, the build is redirected exactly when
nothing stands in its way, and the request is refused exactly when something does, or when it makes
no sense. All else is allowed as it is, with a warning while there is not one integration for a
build that needs it. -/
theorem reply_verdict (answer : (question : Question) → σ → question.Answer × σ) (state : σ)
    (r : AdmissionRequest) :
    ((reply answer state r).patch.isSome = true ↔
        ∃ b output ns spec d host, Redirectable (.of answer state) r b output ns spec d host) ∧
      ((reply answer state r).patch.isSome = true → (reply answer state r).allowed = true) ∧
      ((reply answer state r).allowed = false ↔ Refused (.of answer state) r) ∧
      ∀ warnings, (reply answer state r).warnings = some warnings ↔
        ∃ count, Unsettled (.of answer state) r count ∧ warnings = [warning count] := by
  have redirectable (edited : (reply answer state r).patch.isSome = true) :
      ∃ b output ns spec d host, Redirectable (.of answer state) r b output ns spec d host := by
    obtain ⟨patch, patched⟩ := Option.isSome_iff_exists.mp edited
    obtain ⟨b, output, ns, spec, d, host, ready, -⟩ := exists_edits patched
    exact ⟨b, output, ns, spec, d, host, ready⟩
  refine ⟨⟨redirectable, ?_⟩, fun edited => ?_, ⟨refused_of_denied, ?_⟩, fun warnings =>
    ⟨unsettled_of_warned, ?_⟩⟩
  · rintro ⟨b, output, ns, spec, d, host, ready⟩
    rw [reply_of_redirectable ready]
    rfl
  · obtain ⟨b, output, ns, spec, d, host, ready⟩ := redirectable edited
    rw [reply_of_redirectable ready]
    rfl
  · intro refused
    exact (refuses_of_refused refused).denied
  · rintro ⟨count, ⟨b, output, ns, all, located, listed, rfl, several⟩, rfl⟩
    rw [reply_of_several located listed several]

/-! ## Whose request is answered -/

/-- **A request that makes no sense**: what was submitted is no build, no namespace is known for it,
or its output names no destination, though all is there that it could be redirected with. -/
inductive Senseless (a : Answers) (r : AdmissionRequest) : Prop
  | undecodable {s : Submitted} {e : Json.DecodeError} (object : r.object = some s)
      (broken : s.build = .error e)
  | homeless {b : Build} {output : OutputReference} (candidate : Candidate r b output)
      (request : r.ns = none) (build : b.metadata.ns = none)
  | malformed {b : Build} {output : OutputReference} {ns : String} {spec : IntegrationSpec}
      {account : Option ServiceAccount} (bridged : Bridged a r b output ns spec)
      (found : a.builderIn ns = .ok account) (linked : Linked account spec)
      (none : ∀ d, ¬ Meant output ns d)

theorem uid_of_senseless (h : Senseless (.of answer state) r) : (reply answer state r).uid = "" := by
  -- Each of the three is answered by a response of its own making, not by one to the request.
  cases h with
  | undecodable object broken =>
    rw [reply_of_undecodable object broken]
    rfl
  | homeless candidate request build =>
    rw [reply_of_homeless candidate request build]
    rfl
  | malformed bridged found linked none =>
    rw [reply_of_linked bridged found linked, redirected]
    split
    · rfl
    · rename_i d destination
      exact absurd (ofOutput_eq_ok_iff_meant.mp destination) (none d)

/-- What stands in the way of a build is told under the identity of the request, unless it is the
output. -/
theorem uid_of_bridged (h : Bridged (.of answer state) r b output ns spec)
    (sense : ¬ Senseless (.of answer state) r) : (reply answer state r).uid = r.uid := by
  cases found : (Answers.of answer state).builderIn ns with
  | error e =>
    rw [reply_of_bridged h, found]
    rfl
  | ok account =>
    by_cases linked : Linked account spec
    · obtain ⟨d, meant⟩ : ∃ d, Meant output ns d := Classical.byContradiction fun none =>
        sense (.malformed h found linked (not_exists.mp none))
      rw [reply_of_linked h found linked, redirected, ofOutput_eq_ok_iff_meant.mpr meant]
      dsimp only
      cases Registry.host spec.hostname <;> rfl
    · rw [reply_of_bridged h, found]
      dsimp only
      rw [if_neg (mt any_pullsWith_iff.mp linked)]
      rfl

theorem uid_of_sensible (sense : ¬ Senseless (.of answer state) r) :
    (reply answer state r).uid = r.uid := by
  rcases redirectable_or_refused_or_passed (.of answer state) r with
    ⟨b, output, ns, spec, d, host, ready⟩ | refused | passed
  · exact uid_of_bridged ready.toBridged sense
  · cases refused with
    | undecodable object broken => exact absurd (.undecodable object broken) sense
    | homeless candidate request build => exact absurd (.homeless candidate request build) sense
    | unlisted located failed =>
      rw [reply_of_unlisted located failed]
      rfl
    | hindered bridged hindrance => exact uid_of_bridged bridged sense
  · rcases reply_of_passed passed with same | ⟨count, -, warned⟩
    · rw [same]
      rfl
    · rw [warned]
      rfl

/-- Where a review says whose request it answers. -/
def identityPath : List String := ["response", "uid"]

/-- **When a response can be told to answer its request.** The review that is sent back names the
identity of the request, whatever the cluster answers, unless the request makes no sense; what is
sent back then names none. -/
theorem identity_kept_iff (answer : (question : Question) → σ → question.Answer × σ) (state : σ)
    (r : AdmissionRequest) (writePatch : List Json.PatchOperation → Json) :
    (((reply answer state r).review writePatch).valueAt? identityPath = some (.text r.uid) ↔
        (Senseless (.of answer state) r → r.uid = "")) ∧
      (Senseless (.of answer state) r →
        ((reply answer state r).review writePatch).valueAt? identityPath = some (.text "")) := by
  have named : ((reply answer state r).review writePatch).valueAt? identityPath =
      some (.text (reply answer state r).uid) := rfl
  rw [named]
  by_cases senseless : Senseless (.of answer state) r
  · rw [uid_of_senseless senseless]
    refine ⟨⟨fun same _ => ?_, fun empty => ?_⟩, fun _ => rfl⟩
    · exact (Json.text.inj (Option.some.inj same)).symm
    · rw [empty senseless]
  · rw [uid_of_sensible senseless]
    exact ⟨⟨fun _ h => absurd h senseless, fun _ => rfl⟩, fun h => absurd h senseless⟩

/-- **A name without a tag** is refused to nobody: the request had an identity. -/
theorem tagless_refusal_unmatched :
    (requestFor "cart").uid = "uid-1" ∧
      ((reply World.answer begun (requestFor "cart")).review
        AdmissionResponse.operationBytes).valueAt? identityPath = some (.text "") := by
  decide +kernel

/-! ## Where builds are sent -/

/-- **When a build is sent to the organization of a bridged namespace.** A build that is redirected
is sent to the organization of the namespace of its output. The integration takes that one when the
output names none, so that it is the build's own, or one that the integration takes as well; nothing
else keeps a build from the organization of a namespace that is left alone. -/
theorem sent_within_iff {patch : List Json.PatchOperation}
    (patched : (reply answer state r).patch = some patch) :
    ∃ b output ns spec d host, Redirectable (.of answer state) r b output ns spec d host ∧
      d.ns = output.ns.getD ns ∧
      Json.Patch.written? (outputPath "name") patch =
        some (.text (d.image host (spec.organization d.ns))) ∧
      (spec.allows d.ns = true ↔ ∀ other, output.ns = some other → spec.allows other = true) := by
  obtain ⟨b, output, ns, spec, d, host, ready, rfl⟩ := exists_edits patched
  have same : d.ns = output.ns.getD ns := ready.meant.ns
  refine ⟨b, output, ns, spec, d, host, ready, same, written_image .., ?_⟩
  rw [same]
  -- Only the namespace of the build itself has been asked about.
  cases explicit : output.ns with
  | none => simp [ready.taken]
  | some other => simp

/-- The request to store a build that is to push into a tag of another namespace. -/
def requestInto (ns : String) : AdmissionRequest :=
  { requestFor "" with
    object := some
      { metadata := { name := some "app-1", ns := some "shop" }
        entries := [
          ("spec", .object [
            ("strategy", .object [("type", .text "Source")]),
            ("output", .object [
              ("to", .object [
                ("kind", .text "ImageStreamTag"),
                ("name", .text "cart:latest"),
                ("namespace", .text ns)])])])] } }

/-- A build is sent to the organization of another namespace that the integration takes. -/
theorem till_sent_within :
    ∃ (patch : List Json.PatchOperation) (d : Destination) (host : String),
      (reply World.answer begun (requestInto "till")).patch = some patch ∧
      Json.Patch.written? (outputPath "name") patch =
        some (.text (d.image host (acme.spec.organization "till"))) ∧
      acme.spec.allows "till" = true := by
  have patched : (reply World.answer begun (requestInto "till")).patch.isSome = true := by
    decide +kernel
  obtain ⟨patch, patched⟩ := Option.isSome_iff_exists.mp patched
  obtain ⟨b, output, ns, spec, d, host, ready, same, written, within⟩ := sent_within_iff patched
  obtain ⟨i, single, rfl⟩ := ready.single
  obtain rfl : acme = i := (List.cons.inj (Except.ok.inj single)).1
  obtain ⟨s, object, build⟩ := ready.submitted
  obtain rfl := Option.some.inj object
  have explicit : output.ns = some "till" := by
    obtain rfl := Except.ok.inj build
    obtain rfl := Option.some.inj ready.target
    rfl
  rw [same, explicit, Option.getD_some] at written within
  refine ⟨patch, d, host, patched, written, within.mpr fun other h => ?_⟩
  obtain rfl := Option.some.inj h
  decide

/-- **A namespace of the platform** has no organization, and yet builds are sent to it. -/
theorem platform_namespace_reached :
    acme.spec.allows "kube-system" = false ∧
      (reply World.answer begun (requestInto "kube-system")).patch.bind
          (Json.Patch.written? (outputPath "name")) =
        some (.text ((Destination.mk "kube-system" "cart" "latest").image "[::1]"
          (acme.spec.organization "kube-system"))) := by
  decide +kernel

end RegistryBridge.Redirect
