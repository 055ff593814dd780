import RegistryBridge.Admission.Redirect
import RegistryBridge.Proofs.Destination.Grammar
import RegistryBridge.Proofs.Json.Paths
import RegistryBridge.Proofs.Program.Conduct
import RegistryBridge.Proofs.Provisioning.Convergence
/-!
# The destination that a build is sent off with

A build that is redirected carries the text of its destination, which is read again when the build
is complete. The two readings differ in one point: the one at admission minds colons alone, the
later one slashes too.

## Main definitions

* `Redirect.Granted`: all that a response with edits rests on.

## Main results

* `Redirect.response_always`: a response has edits only when they are granted.
* `Redirect.destination_read_back_iff`: when the destination of a redirected build can be read
  again.
-/

namespace RegistryBridge

namespace Redirect

/-- **All that a response with edits rests on**: the build that was submitted, its output, the
namespace, and the spec of the integration, which takes the namespace and names a registry. -/
structure Granted (r : AdmissionRequest) (b : Build) (output : OutputReference) (ns : String)
    (spec : IntegrationSpec) (d : Destination) (host : String) (response : AdmissionResponse) :
    Prop where
  submitted : ∃ s, r.object = some s ∧ s.build = .ok b
  taken : takenOver b = some output
  known : r.ns.or b.metadata.ns = some ns
  allowed : spec.allows ns = true
  destination : Destination.ofOutput (output.ns.getD ns) output.name = .ok d
  named : Registry.host spec.hostname = .ok host
  answered : response =
    { r.allow with patch := some (edits b d (d.image host (spec.organization d.ns))) }

section Response

variable {σ : Type} {c : Conduct Bridge σ} {r : AdmissionRequest} {state after : σ}
  {response : AdmissionResponse} {counts : IntegrationSpec → Prop}

/-- What is said of any response: it has no edits, or they are granted under an integration that
counts. -/
def Sound (counts : IntegrationSpec → Prop) (r : AdmissionRequest) (response : AdmissionResponse) :
    Prop :=
  response.patch = none ∨
    ∃ b output ns spec d host, counts spec ∧ Granted r b output ns spec d host response

variable {b : Build} {output : OutputReference} {ns : String} {spec : IntegrationSpec}

/-- The response once the registry's part is known. -/
theorem redirected_sound (build : ∃ s, r.object = some s ∧ s.build = .ok b)
    (taken : takenOver b = some output) (known : r.ns.or b.metadata.ns = some ns)
    (allowed : spec.allows ns = true) (counting : counts spec) :
    Sound counts r (redirected r b spec ns output) := by
  unfold redirected
  cases destination : Destination.ofOutput (output.ns.getD ns) output.name with
  | error e => exact .inl rfl
  | ok d =>
    dsimp only
    cases named : Registry.host spec.hostname with
    | error e => exact .inl rfl
    | ok host =>
      exact .inr ⟨b, output, ns, spec, d, host, counting, build, taken, known, allowed, destination,
        named, rfl⟩

/-- The lists of integrations that may be answered have no other one that counts. -/
def Lists (c : Conduct Bridge σ) (state : σ) (counts : IntegrationSpec → Prop) : Prop :=
  ∀ (all : List Integration) i after, c.allows (.cluster .listIntegrations) state
    (.ok all : Except OperationError (List Integration)) after →
      Integration.active all = .ok i → counts i.spec

theorem judged_always (lists : Lists c state counts)
    (build : ∃ s, r.object = some s ∧ s.build = .ok b)
    (taken : takenOver b = some output) (known : r.ns.or b.metadata.ns = some ns) :
    (judged r b ns output).Always c (fun _ _ => True) (fun response _ => Sound counts r response)
      state := by
  refine ⟨trivial, fun (reply : Except OperationError (List Integration)) middle listed => ?_⟩
  cases reply with
  | error e => exact .inl rfl
  | ok all =>
    dsimp only
    cases counting : Integration.active all with
    | error e => exact .inl rfl
    | ok i =>
      dsimp only
      split
      · exact .inl rfl
      · rename_i allowed
        refine ⟨trivial,
          fun (reply : Except OperationError (Option ServiceAccount)) last answered => ?_⟩
        cases reply with
        | error e => exact .inl rfl
        | ok account =>
          dsimp only
          split
          · have counted := lists _ _ _ listed counting
            exact redirected_sound build taken known (by simpa using allowed) counted
          · exact .inl rfl

/-- **A response has edits only when they are granted**, whatever the cluster answers. -/
theorem response_always (lists : Lists c state counts) :
    (Redirect.response r).Always c (fun _ _ => True) (fun response _ => Sound counts r response)
      state := by
  unfold Redirect.response
  cases object : r.object with
  | none => exact .inl rfl
  | some s =>
    dsimp only
    cases build : s.build with
    | error e => exact .inl rfl
    | ok b =>
      dsimp only
      cases taken : takenOver b with
      | none => exact .inl rfl
      | some output =>
        dsimp only
        cases known : r.ns.or b.metadata.ns with
        | none => exact .inl rfl
        | some ns => exact judged_always lists ⟨s, object, build⟩ taken known

/-! ## The edits -/

/-- Where the destination is written. -/
def destinationPath : List String := ["metadata", "annotations", Marks.destination]

theorem written_destination (b : Build) (d : Destination) (image : String) :
    Json.Patch.written? destinationPath (edits b d image) = some (.text d.text) := by
  unfold edits
  split <;> split <;> rfl

theorem written_image (b : Build) (d : Destination) (image : String) :
    Json.Patch.written? (outputPath "name") (edits b d image) = some (.text image) := by
  unfold edits
  split <;> split <;> rfl

/-- **When the destination of a redirected build can be read again.** Whatever the cluster has
answered, edits write the text of the destination that the image is named after. It is read back,
and as that destination, exactly when there is no slash in the namespace and the name that the
output gave. With a slash there the text has too many components, and the image is never
imported. -/
theorem destination_read_back_iff {patch : List Json.PatchOperation}
    (run : (Redirect.response r).Ends c state response after)
    (patched : response.patch = some patch) :
    ∃ b output ns spec d host, Granted r b output ns spec d host response ∧
      Json.Patch.written? destinationPath patch = some (.text d.text) ∧
      Json.Patch.written? (outputPath "name") patch =
        some (.text (d.image host (spec.organization d.ns))) ∧
      (Destination.parse d.text = .ok d ↔
        '/' ∉ (output.ns.getD ns).toList ∧ '/' ∉ output.name.toList) ∧
      (¬ ('/' ∉ (output.ns.getD ns).toList ∧ '/' ∉ output.name.toList) →
        Destination.parse d.text = .error (.components d.text (d.text.toList.count '/' + 1))) := by
  have lists : Lists c state fun _ => True := fun _ _ _ _ _ => trivial
  rcases (response_always lists).of_ends run with none | ⟨b, output, ns, spec, d, host, -, granted⟩
  · rw [none] at patched
    cases patched
  have written : patch = edits b d (d.image host (spec.organization d.ns)) := by
    rw [granted.answered] at patched
    exact (Option.some.inj patched).symm
  subst written
  obtain ⟨hns, hname, -⟩ := Destination.ofOutput_eq_ok_iff.mp granted.destination
  have plain : d.Plain ↔ '/' ∉ (output.ns.getD ns).toList ∧ '/' ∉ output.name.toList := by
    rw [← hns, ← hname]
    exact ⟨fun h => ⟨h.ns, h.nameTag⟩, fun h => ⟨h.1, h.2⟩⟩
  refine ⟨b, output, ns, spec, d, host, granted, written_destination .., written_image .., ?_, ?_⟩
  · exact (Destination.parse_text_iff granted.destination).trans plain
  · exact fun slash => Destination.parse_text_of_slash (mt plain.mp slash)

end Response

section Slash

open NamespacePass (begun)

/-- The request to store a build that is to push into some tag of its namespace. -/
def requestFor (output : String) : AdmissionRequest :=
  { apiVersion := "admission.k8s.io/v1"
    kind := "AdmissionReview"
    uid := "uid-1"
    ns := some "shop"
    object := some
      { metadata := { name := some "app-1", ns := some "shop" }
        entries := [
          ("spec", .object [
            ("strategy", .object [("type", .text "Docker")]),
            ("output", .object [
              ("to", .object [("kind", .text "ImageStreamTag"), ("name", .text output)])])])] } }

/-- What is written as the destination of such a build. -/
def destinationFor (output : String) : Option Json :=
  (World.run (Redirect.response (requestFor output)) begun).1.patch.bind
    (Json.Patch.written? destinationPath)

/-- The destination of a build without slashes is read back. -/
theorem cart_read_back :
    ∃ d : Destination, destinationFor "cart:latest" = some (.text d.text) ∧
      Destination.parse d.text = .ok d := by
  have patched : (World.run (Redirect.response (requestFor "cart:latest")) begun).1.patch.isSome =
      true := by decide +kernel
  obtain ⟨patch, hpatch⟩ := Option.isSome_iff_exists.mp patched
  obtain ⟨_, _, _, _, d, _, -, written, -, iff, slash⟩ := destination_read_back_iff
    (World.ends_run (fun _ _ => False) (Redirect.response (requestFor "cart:latest")) begun) hpatch
  have whole : destinationFor "cart:latest" = some (.text d.text) := by
    rw [destinationFor, hpatch]
    exact written
  have text : d.text = "shop/cart:latest" := by
    have : destinationFor "cart:latest" = some (.text "shop/cart:latest") := by decide +kernel
    simpa using whole.symm.trans this
  refine ⟨d, whole, iff.mpr (Classical.byContradiction fun h => ?_)⟩
  have lost := slash h
  rw [text] at lost
  cases lost

/-- **A slash in the output of a build** passes at admission, and its destination is never read. -/
theorem slash_not_read_back :
    destinationFor "a/b:latest" = some (.text "shop/a/b:latest") ∧
      Destination.parse "shop/a/b:latest" = .error (.components "shop/a/b:latest" 3) :=
  ⟨by decide +kernel, rfl⟩

end Slash

end Redirect

end RegistryBridge
