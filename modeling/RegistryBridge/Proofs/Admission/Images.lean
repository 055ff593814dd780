import RegistryBridge.Proofs.Admission.Verdict
/-!
# Images of different destinations are different

The image of a destination is called by the registry's host, the organization, the name and the tag,
with signs between them that a cluster's name or a namespace may hold as well. Nothing is escaped, and
nothing is lost: the organization ends with the namespace, so that the text of the destination ends
the image, and only that differs from one destination to another.

## Main definitions

* `Redirect.Sent`: a build that is sent to an image under the spec of an integration.

## Main results

* `Destination.image_inj`: images are told apart as texts of destinations are.
* `Redirect.images_apart`
-/

namespace RegistryBridge

namespace Destination

variable {d d' : Destination} {value value' : String}

/-- **The text of a destination ends its image**: the sign before the namespace belongs to the
organization, and the one behind it is that of the text. -/
theorem image_eq (d : Destination) (host : String) (spec : IntegrationSpec) :
    d.image host (spec.organization d.ns) =
      host ++ "/" ++ Text.lowercase spec.clusterId ++ "_" ++ d.text := by
  simp only [image, text, IntegrationSpec.organization, organizationName, String.append_assoc]

/-- **Two images are one** where the texts of their destinations are. -/
theorem image_inj (host : String) (spec : IntegrationSpec) :
    d.image host (spec.organization d.ns) = d'.image host (spec.organization d'.ns) ↔
      d.text = d'.text := by
  rw [image_eq, image_eq, String.append_right_inj]

/-- A destination that was read from a text has that text. -/
theorem text_inj_of_parse (read : parse value = .ok d) (read' : parse value' = .ok d') :
    d.text = d'.text ↔ d = d' := by
  refine ⟨fun same => ?_, congrArg text⟩
  have whole : d.text = value := (parse_eq_ok_iff.mp read).1
  have whole' : d'.text = value' := (parse_eq_ok_iff.mp read').1
  have one : value = value' := whole.symm.trans (same.trans whole')
  rw [one, read'] at read
  exact (Except.ok.inj read).symm

end Destination

namespace Redirect

/-- **A build that is sent to an image** under the spec of an integration, given its output and its
namespace. Whatever else the cluster answers, the integration is the only one, and the response has
edits that write the image in the place of the output. -/
inductive Sent (spec : IntegrationSpec) : OutputReference → String → String → Prop
  | mk {σ : Type} {answer : (question : Question) → σ → question.Answer × σ} {state : σ}
    {r : AdmissionRequest} {b : Build} {output : OutputReference} {ns image : String}
    {i : Integration} {patch : List Json.PatchOperation}
    (single : (Answers.of answer state).integrations = .ok [i]) (under : i.spec = spec)
    (located : Located r b output ns) (patched : (reply answer state r).patch = some patch)
    (written : Json.Patch.written? (outputPath "name") patch = some (.text image)) :
    Sent spec output ns image

/-- A response with edits sends its build to some image. -/
theorem Sent.exists_of_patched {σ : Type}
    {answer : (question : Question) → σ → question.Answer × σ} {state : σ} {r : AdmissionRequest}
    {b : Build} {output : OutputReference} {ns : String} {i : Integration}
    (single : (Answers.of answer state).integrations = .ok [i]) (located : Located r b output ns)
    (edited : (reply answer state r).patch.isSome = true) : ∃ image, Sent i.spec output ns image := by
  obtain ⟨patch, patched⟩ := Option.isSome_iff_exists.mp edited
  obtain ⟨_, _, _, _, _, _, -, rfl⟩ := exists_edits patched
  exact ⟨_, .mk single rfl located patched (written_image ..)⟩

section Sent

variable {spec : IntegrationSpec} {output output' : OutputReference} {ns ns' image image' : String}

/-- A build is sent to the image of the destination that its output means. -/
theorem Sent.exists_meant (h : Sent spec output ns image) :
    ∃ d host, Meant output ns d ∧ Registry.host spec.hostname = .ok host ∧
      image = d.image host (spec.organization d.ns) := by
  obtain ⟨single, under, located, patched, written⟩ := h
  subst under
  obtain ⟨b, output, ns, spec, d, host, ready, rfl⟩ := exists_edits patched
  obtain ⟨i, listed, rfl⟩ := ready.single
  -- There is one integration, one object, one output and one namespace to speak of.
  obtain rfl := (List.cons.inj (Except.ok.inj (listed.symm.trans single))).1
  obtain ⟨s, object, build⟩ := ready.submitted
  obtain ⟨s', object', build'⟩ := located.submitted
  obtain rfl := Option.some.inj (object.symm.trans object')
  obtain rfl := Except.ok.inj (build.symm.trans build')
  obtain rfl := Option.some.inj (ready.target.symm.trans located.target)
  obtain rfl := Option.some.inj (ready.known.symm.trans located.known)
  rw [written_image] at written
  exact ⟨d, host, ready.meant, ready.addressed, (Json.text.inj (Option.some.inj written)).symm⟩

/-- Builds are sent to one image where their outputs have one text. -/
theorem Sent.image_inj (h : Sent spec output ns image) (h' : Sent spec output' ns' image') :
    image = image' ↔
      output.ns.getD ns ++ "/" ++ output.name = output'.ns.getD ns' ++ "/" ++ output'.name := by
  obtain ⟨d, host, meant, named, rfl⟩ := h.exists_meant
  obtain ⟨d', host', meant', named', rfl⟩ := h'.exists_meant
  obtain rfl := Except.ok.inj (named.symm.trans named')
  rw [Destination.image_inj, Destination.text, Destination.text, meant.ns, meant.nameTag, meant'.ns,
    meant'.nameTag]

/-- Without slashes in the namespaces that is the same namespace, name and tag. -/
theorem Sent.image_inj_of_slash (h : Sent spec output ns image) (h' : Sent spec output' ns' image')
    (free : '/' ∉ (output.ns.getD ns).toList) (free' : '/' ∉ (output'.ns.getD ns').toList) :
    image = image' ↔ output.ns.getD ns = output'.ns.getD ns' ∧ output.name = output'.name := by
  have texts : ∀ front back : String,
      (front ++ "/" ++ back).toList = front.toList ++ '/' :: back.toList := by
    simp
  rw [h.image_inj h', ← String.toList_inj, texts, texts, Text.append_first_inj free free',
    String.toList_inj, String.toList_inj]

/-- **Images of different destinations are different**, whatever the cluster is called. Destinations
that are read from texts have one image only when they are one; the host is the registry's, or any.
Builds that are sent to the registry under one spec are sent to one image only when their outputs
have one text. Unless a slash stands in the name of a namespace, as it does in none of a cluster, they
are then for one tag of one namespace. -/
theorem images_apart (spec : IntegrationSpec) :
    (∀ host value value' d d', Destination.parse value = .ok d → Destination.parse value' = .ok d' →
        (d.image host (spec.organization d.ns) = d'.image host (spec.organization d'.ns) ↔
          d = d')) ∧
      ∀ output ns image output' ns' image', Sent spec output ns image →
        Sent spec output' ns' image' →
          (image = image' ↔ output.ns.getD ns ++ "/" ++ output.name =
            output'.ns.getD ns' ++ "/" ++ output'.name) ∧
          ('/' ∉ (output.ns.getD ns).toList → '/' ∉ (output'.ns.getD ns').toList →
            (image = image' ↔
              output.ns.getD ns = output'.ns.getD ns' ∧ output.name = output'.name)) := by
  refine ⟨fun host value value' d d' read read' => ?_, fun _ _ _ _ _ _ sent sent' => ⟨?_, ?_⟩⟩
  · exact (Destination.image_inj host spec).trans (Destination.text_inj_of_parse read read')
  · exact sent.image_inj sent'
  · exact sent.image_inj_of_slash sent'

end Sent

section Cart

open NamespacePass (acme begun)

/-- The output of a build that is to push into the cart of a namespace. -/
def cartOf (ns : Option String) : OutputReference :=
  { kind := "ImageStreamTag", name := "cart:latest", ns }

/-- Builds for the carts of two namespaces, one of which has a sign in its name. -/
theorem carts_apart :
    Destination.parse "shop:eu/cart:1" = .ok ⟨"shop:eu", "cart", "1"⟩ ∧
      Destination.parse "shop/cart:1" = .ok ⟨"shop", "cart", "1"⟩ ∧
      (Destination.mk "shop:eu" "cart" "1").image "[::1]" (acme.spec.organization "shop:eu") ≠
        (Destination.mk "shop" "cart" "1").image "[::1]" (acme.spec.organization "shop") ∧
      ∃ image image', Sent acme.spec (cartOf none) "shop" image ∧
        Sent acme.spec (cartOf (some "till_shop")) "shop" image' ∧ image ≠ image' := by
  have read : Destination.parse "shop:eu/cart:1" = .ok ⟨"shop:eu", "cart", "1"⟩ := by rfl
  have read' : Destination.parse "shop/cart:1" = .ok ⟨"shop", "cart", "1"⟩ := by rfl
  refine ⟨read, read', fun same => ?_, ?_⟩
  · have one := ((images_apart acme.spec).1 _ _ _ _ _ read read').mp same
    exact absurd one (by decide)
  · have only : (Answers.of World.answer begun).integrations = .ok [acme] := rfl
    have edited : (reply World.answer begun (requestFor "cart:latest")).patch.isSome = true := by
      decide +kernel
    have edited' : (reply World.answer begun (requestInto "till_shop")).patch.isSome = true := by
      decide +kernel
    obtain ⟨image, sent⟩ : ∃ image, Sent acme.spec (cartOf none) "shop" image :=
      Sent.exists_of_patched only ⟨⟨⟨_, rfl, rfl⟩, rfl, rfl, .inl rfl⟩, rfl⟩ edited
    obtain ⟨image', sent'⟩ : ∃ image, Sent acme.spec (cartOf (some "till_shop")) "shop" image :=
      Sent.exists_of_patched only ⟨⟨⟨_, rfl, rfl⟩, rfl, rfl, .inr (.inl rfl)⟩, rfl⟩ edited'
    refine ⟨image, image', sent, sent', fun same => ?_⟩
    have one := (((images_apart acme.spec).2 _ _ _ _ _ _ sent sent').2 (by decide) (by decide)).mp
      same
    exact absurd one.1 (by decide)

end Cart

end Redirect

end RegistryBridge
