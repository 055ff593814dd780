import Mathlib.Data.List.Basic
import RegistryBridge.Proofs.ServiceAccount.Links
/-!
# Linking secrets, one after the other

The lists of a service account are written back as a whole, so what the account had must be in them,
as it was. Each list gains a reference only if it lacks one, at its end. So nothing is gained twice,
and secrets that are linked one after the other stand in the order in which they were linked.

## Main definitions

* `ReferenceKind`: the references of one list, by the secret that they name.
* `ReferenceKind.joined`: a list with a reference to one more secret.
* `ServiceAccount.linkedWith`: an account once a secret has been linked to it.

## Main results

* `ReferenceKind.foldl_joined`: what a list gains by several secrets.
* `ServiceAccount.links_linkedAll`: what an account gains by them.
* `ServiceAccount.linking_lawful`
-/

namespace RegistryBridge

/-- **References of one kind**: the secrets that one names, and the reference that is made for a
secret. It names that secret and no other. -/
structure ReferenceKind (α : Type) where
  names : α → String → Bool
  make : String → α
  names_make : ∀ secret other, names (make secret) other = (secret == other)

namespace ReferenceKind

variable {α : Type} (k : ReferenceKind α) (list : List α) (secret other : String)

/-- The references that images are pulled with. -/
def forPulling : ReferenceKind LocalReference where
  names r secret := r.name == secret
  make secret := ⟨secret⟩
  names_make _ _ := rfl

/-- The references of what may be used. -/
def forUse : ReferenceKind ObjectReference where
  names r secret := r.name == some secret
  make secret := { name := some secret }
  names_make _ _ := rfl

/-- Whether a list has no reference to a secret. -/
def lacks : Bool :=
  !list.any (k.names · secret)

/-- **A list with a reference to a secret**, a new one at its end if it lacks one. -/
def joined : List α :=
  if k.lacks list secret then list ++ [k.make secret] else list

theorem lacks_eq_false_iff : k.lacks list secret = false ↔ ∃ r ∈ list, k.names r secret = true := by
  simp [lacks]

theorem joined_of_lacks (h : k.lacks list secret = true) :
    k.joined list secret = list ++ [k.make secret] :=
  if_pos h

theorem joined_of_not_lacks (h : k.lacks list secret = false) : k.joined list secret = list :=
  if_neg (by simp [h])

/-- **A list that has been joined lacks** what it lacked before, but for the secret. -/
theorem lacks_joined :
    k.lacks (k.joined list secret) other = (k.lacks list other && secret != other) := by
  cases missing : k.lacks list secret with
  | true =>
    rw [joined_of_lacks _ _ _ missing]
    simp [lacks, k.names_make, bne]
  | false =>
    rw [joined_of_not_lacks _ _ _ missing]
    by_cases same : secret = other
    · subst same
      simp [missing]
    · simp [same]

/-- **Several secrets** that are joined one after the other: what the list lacks of them is behind it,
in that order. -/
theorem foldl_joined (secrets : List String) (once : secrets.Nodup) :
    secrets.foldl k.joined list = list ++ (secrets.filter (k.lacks list)).map k.make := by
  induction secrets generalizing list with
  | nil => simp
  | cons secret rest ih =>
    obtain ⟨new, once⟩ := List.nodup_cons.mp once
    -- The first secret is none of the others, so they are lacking as before.
    have still : rest.filter (k.lacks (k.joined list secret)) = rest.filter (k.lacks list) := by
      refine List.filter_congr fun other mem => ?_
      have apart : secret ≠ other := fun same => new (same ▸ mem)
      simp [lacks_joined, apart]
    rw [List.foldl_cons, ih _ once, still]
    cases missing : k.lacks list secret with
    | true => simp [joined_of_lacks, missing]
    | false => simp [joined_of_not_lacks, missing]

end ReferenceKind

namespace SecretLinks

/-- Images are pulled with some reference to a secret. -/
def Pulls (links : SecretLinks) (secret : String) : Prop :=
  ∃ r ∈ links.imagePullSecrets, r.name = secret

/-- There is some reference to a secret that may be used. -/
def Uses (links : SecretLinks) (secret : String) : Prop :=
  ∃ r ∈ links.secrets, r.name = some secret

theorem pulls_iff {links : SecretLinks} {secret : String} :
    links.Pulls secret ↔ ReferenceKind.forPulling.lacks links.imagePullSecrets secret = false := by
  simp [Pulls, ReferenceKind.lacks_eq_false_iff, ReferenceKind.forPulling]

theorem uses_iff {links : SecretLinks} {secret : String} :
    links.Uses secret ↔ ReferenceKind.forUse.lacks links.secrets secret = false := by
  simp [Uses, ReferenceKind.lacks_eq_false_iff, ReferenceKind.forUse]

end SecretLinks

namespace ServiceAccount

open ReferenceKind (forPulling forUse)

variable {a : ServiceAccount} {secret other : String} {links : SecretLinks}

/-- The account once a secret has been linked to it: the lists are written if there is anything to
write. -/
def linkedWith (a : ServiceAccount) (secret : String) : ServiceAccount :=
  match a.linksWith secret with
  | some links => a.withLinks links
  | none => a

theorem pullsWith_eq (a : ServiceAccount) (secret : String) :
    a.pullsWith secret = !forPulling.lacks a.links.imagePullSecrets secret :=
  (Bool.not_not _).symm

theorem uses_eq (a : ServiceAccount) (secret : String) :
    a.uses secret = !forUse.lacks a.links.secrets secret :=
  (Bool.not_not _).symm

/-- **The lists that are written** are joined with the secret, each by itself. -/
theorem joined_of_linksWith (h : a.linksWith secret = some links) :
    links =
      ⟨forPulling.joined a.links.imagePullSecrets secret,
        forUse.joined a.links.secrets secret⟩ := by
  rw [eq_of_linksWith h, pullsWith_eq, uses_eq]
  simp only [ReferenceKind.joined, Bool.not_eq_true', ← Bool.not_eq_true, ite_not]
  rfl

/-- **The lists of an account that a secret has been linked to**, whether they had to be written or
not. -/
theorem links_linkedWith (a : ServiceAccount) (secret : String) :
    (a.linkedWith secret).links =
      ⟨forPulling.joined a.links.imagePullSecrets secret,
        forUse.joined a.links.secrets secret⟩ := by
  unfold linkedWith
  cases missing : a.linksWith secret with
  | some links => exact joined_of_linksWith missing
  | none =>
    obtain ⟨pulling, used⟩ := linksWith_eq_none_iff.mp missing
    rw [pullsWith_eq, Bool.not_eq_true'] at pulling
    rw [uses_eq, Bool.not_eq_true'] at used
    simp only [ReferenceKind.joined_of_not_lacks, pulling, used]

/-- The same of several secrets, one after the other. -/
theorem links_linkedAll (a : ServiceAccount) (secrets : List String) :
    (secrets.foldl linkedWith a).links =
      ⟨secrets.foldl forPulling.joined a.links.imagePullSecrets,
        secrets.foldl forUse.joined a.links.secrets⟩ := by
  induction secrets generalizing a with
  | nil => rfl
  | cons secret rest ih =>
    rw [List.foldl_cons, ih, links_linkedWith]
    rfl

theorem linked_iff : a.Linked secret ↔ a.links.Pulls secret ∧ a.links.Uses secret := by
  rw [Linked, pullsWith_eq, uses_eq, SecretLinks.pulls_iff, SecretLinks.uses_iff]
  simp

/-- **What is linked once a secret has been linked**: what was linked before, and the secret. -/
theorem linked_linkedWith_iff :
    (a.linkedWith secret).Linked other ↔ a.Linked other ∨ secret = other := by
  rw [linked_iff, linked_iff, SecretLinks.pulls_iff, SecretLinks.uses_iff, SecretLinks.pulls_iff,
    SecretLinks.uses_iff, links_linkedWith]
  by_cases same : secret = other
  · simp [ReferenceKind.lacks_joined, same]
  · simp [ReferenceKind.lacks_joined, same]

/-- **What an account gains by several secrets**: a reference to each that it lacks, in the order in
which they are linked, behind what it has. -/
theorem links_linkedAll_of_nodup (a : ServiceAccount) {secrets : List String}
    (once : secrets.Nodup) :
    (secrets.foldl linkedWith a).links =
      ⟨a.links.imagePullSecrets ++
          (secrets.filter (forPulling.lacks a.links.imagePullSecrets)).map forPulling.make,
        a.links.secrets ++ (secrets.filter (forUse.lacks a.links.secrets)).map forUse.make⟩ := by
  rw [links_linkedAll, ReferenceKind.foldl_joined _ _ _ once,
    ReferenceKind.foldl_joined _ _ _ once]

/-- **Linking a secret.** There is something to write unless both lists name the secret. What is
written is, of each list, all that it was, with one reference to the secret behind it if there was none;
the secret is linked then. Of two secrets, whichever is linked first, both are linked in the end, and
the lists are the same but for the order of what is new. -/
theorem linking_lawful (a : ServiceAccount) (secret : String) :
    (a.linksWith secret = none ↔ a.links.Pulls secret ∧ a.links.Uses secret) ∧
      (∀ links, a.linksWith secret = some links →
        (a.links.Pulls secret → links.imagePullSecrets = a.links.imagePullSecrets) ∧
          (¬ a.links.Pulls secret →
            links.imagePullSecrets = a.links.imagePullSecrets ++ [⟨secret⟩]) ∧
          (a.links.Uses secret → links.secrets = a.links.secrets) ∧
          (¬ a.links.Uses secret →
            links.secrets = a.links.secrets ++ [{ name := some secret }]) ∧
          (a.withLinks links).linksWith secret = none) ∧
      ∀ other, secret ≠ other → ∃ pulling used,
        pulling.Sublist [⟨secret⟩, ⟨other⟩] ∧
          used.Sublist [{ name := some secret }, { name := some other }] ∧
          ((a.linkedWith secret).linkedWith other).links =
            ⟨a.links.imagePullSecrets ++ pulling, a.links.secrets ++ used⟩ ∧
          ((a.linkedWith other).linkedWith secret).links =
            ⟨a.links.imagePullSecrets ++ pulling.reverse, a.links.secrets ++ used.reverse⟩ ∧
          ∀ one ∈ [secret, other], ((a.linkedWith secret).linkedWith other).Linked one ∧
            ((a.linkedWith other).linkedWith secret).Linked one := by
  refine ⟨linksWith_eq_none_iff.trans linked_iff, fun links written => ?_, fun other apart => ?_⟩
  · have lists := joined_of_linksWith written
    refine ⟨fun h => ?_, fun h => ?_, fun h => ?_, fun h => ?_, ?_⟩
    · rw [lists, ReferenceKind.joined_of_not_lacks _ _ _ (SecretLinks.pulls_iff.mp h)]
    · rw [SecretLinks.pulls_iff, Bool.not_eq_false] at h
      rw [lists, ReferenceKind.joined_of_lacks _ _ _ h]
      rfl
    · rw [lists, ReferenceKind.joined_of_not_lacks _ _ _ (SecretLinks.uses_iff.mp h)]
    · rw [SecretLinks.uses_iff, Bool.not_eq_false] at h
      rw [lists, ReferenceKind.joined_of_lacks _ _ _ h]
      rfl
    · exact linksWith_eq_none_iff.mpr (linked_of_linksWith written)
  · have once : [secret, other].Nodup := by simpa using apart
    -- The other order is the same list of secrets, read from its end.
    have first := a.links_linkedAll_of_nodup once
    have turned : [secret, other].reverse.Nodup := by simpa using apart.symm
    have second := a.links_linkedAll_of_nodup turned
    rw [List.filter_reverse, List.filter_reverse, List.map_reverse, List.map_reverse] at second
    refine ⟨_, _, List.filter_sublist.map forPulling.make, List.filter_sublist.map forUse.make,
      first, second, ?_⟩
    intro one mem
    rw [linked_linkedWith_iff, linked_linkedWith_iff, linked_linkedWith_iff, linked_linkedWith_iff]
    rcases List.mem_cons.mp mem with rfl | mem
    · exact ⟨.inl (.inr rfl), .inr rfl⟩
    · obtain rfl := List.mem_singleton.mp mem
      exact ⟨.inr rfl, .inl (.inr rfl)⟩

/-- An account that pulls with a secret twice but may not use it. -/
def lopsided : ServiceAccount where
  metadata := { name := some "builder", ns := some "shop" }
  imagePullSecrets := some [⟨"mirror"⟩, ⟨"mirror"⟩]
  secrets := some [{}]

/-- What it had stays as it was, the second reference and the nameless one too. -/
theorem linking_lopsided :
    ∃ links, lopsided.linksWith "mirror" = some links ∧
      links.imagePullSecrets = [⟨"mirror"⟩, ⟨"mirror"⟩] ∧
      links.secrets = [{}, { name := some "mirror" }] ∧
      (lopsided.withLinks links).linksWith "mirror" = none ∧
      "mirror" ≠ "quay" ∧ ∃ pulling used,
        ((lopsided.linkedWith "mirror").linkedWith "quay").links =
            ⟨lopsided.links.imagePullSecrets ++ pulling, lopsided.links.secrets ++ used⟩ ∧
          ((lopsided.linkedWith "quay").linkedWith "mirror").links =
            ⟨lopsided.links.imagePullSecrets ++ pulling.reverse,
              lopsided.links.secrets ++ used.reverse⟩ := by
  have apart : "mirror" ≠ "quay" := by decide
  have pulls : lopsided.links.Pulls "mirror" :=
    ⟨(⟨"mirror"⟩ : LocalReference), List.mem_cons_self .., rfl⟩
  have useless : ¬ lopsided.links.Uses "mirror" := by
    rintro ⟨r, mem, named⟩
    obtain rfl := List.mem_singleton.mp mem
    cases named
  obtain ⟨-, written, ordered⟩ := linking_lawful lopsided "mirror"
  obtain ⟨pulling, used, -, -, first, second, -⟩ := ordered "quay" apart
  obtain ⟨same, -, -, new, settled⟩ := written _ rfl
  exact ⟨_, rfl, same pulls, new useless, settled, apart, pulling, used, first, second⟩

end ServiceAccount

end RegistryBridge
