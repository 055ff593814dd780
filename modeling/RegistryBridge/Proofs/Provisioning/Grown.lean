import RegistryBridge.Proofs.Provisioning.Beside
/-!
# How a world grows while a namespace is provisioned

What is asked for a namespace takes nothing away. In the registry there is only ever more. In the
cluster a pull secret of the platform's service accounts is written as a whole, and to the lists of
such an account its own pull secret is added where it is missing. So it is whether a call succeeds or
fails.

## Main definitions

* `ServiceAccount.Joins`: a service account to which a secret may have been added.
* `Provisioning.Mild`: the questions for one service account.
* `NamespacePass.Grows`, `NamespacePass.Grown`: how a world may have grown, cell by cell and in full.

## Main results

* `NamespacePass.Modest.grows`: no question of provisioning takes anything away.
-/

namespace RegistryBridge

/-! ## What may become of a service account -/

namespace ServiceAccount

/-- **A service account to which a secret may have been added**: both lists keep what they had, in
order, and gain at most one entry at their end, which names the secret. Nothing else changes. -/
def Joins (secret : String) (a after : ServiceAccount) : Prop :=
  after = a ∨ ∃ pulls uses,
    after = { a with
      imagePullSecrets := some (a.imagePullSecrets.getD [] ++ pulls)
      secrets := some (a.secrets.getD [] ++ uses) } ∧
    (pulls = [] ∨ pulls = [⟨secret⟩]) ∧ (uses = [] ∨ uses = [{ name := some secret }])

variable {a : ServiceAccount} {secret : String} {links : SecretLinks}

theorem joins_of_linksWith (h : a.linksWith secret = some links) :
    Joins secret a (a.withLinks links) := by
  obtain rfl := eq_of_linksWith h
  refine .inr ⟨if a.pullsWith secret then [] else [⟨secret⟩],
    if a.uses secret then [] else [{ name := some secret }], ?_, ?_, ?_⟩
  · unfold withLinks ServiceAccount.links
    split <;> split <;> simp
  · split <;> simp
  · split <;> simp

end ServiceAccount

namespace Provisioning

variable {p : Provisioning}

/-! ## The questions for one service account -/

/-- **The questions for one service account**, whatever the registry has told before: it is linked
only with lists that are made from what it has. -/
inductive Mild (p : Provisioning) (role : String × Registry.Role) : Question → World → Prop
  | quiet {question : Question} (quiet : question.isQuiet = true) (w : World) : Mild p role question w
  | createRobot (w : World) : Mild p role (.registry (.createRobot p.organization role.1)) w
  | createPrototype (robot : String) (w : World) :
    Mild p role (.registry (.createPrototype p.organization robot role.2)) w
  | applySecret (user token : String) (w : World) :
    Mild p role (.cluster (.applySecret (p.wanted role.1 user token))) w
  | linkServiceAccount {a : ServiceAccount} {links : SecretLinks} {w : World}
    (stored : w.cluster.serviceAccounts.get? (p.accountKey role.1) = some a)
    (lacks : a.linksWith (p.spec.pullSecretName role.1) = some links) :
    Mild p role (.cluster (.linkServiceAccount p.ns role.1 links)) w

/-- A question that provisioning may ask. -/
def Modest (p : Provisioning) (question : Question) (w : World) : Prop :=
  question.Beside ∨ ∃ role ∈ roles, p.Mild role question w

/-- What is due for a service account takes nothing away. -/
theorem Due.mild {role : String × Registry.Role} {question : Question} {w : World}
    (h : p.Due role question w) : p.Mild role question w := by
  cases h with
  | getRobot | getPrototypes | getSecret | getServiceAccount => exact .quiet rfl w
  | createRobot => exact .createRobot w
  | createPrototype robot => exact .createPrototype robot w
  | applySecret => exact .applySecret _ _ w
  | linkServiceAccount backed stored lacks => exact .linkServiceAccount stored lacks

theorem Proper.modest {question : Question} {w : World} (h : p.Proper question w) :
    p.Modest question w :=
  h.imp_right fun ⟨role, mem, due⟩ => ⟨role, mem, due.mild⟩

end Provisioning

namespace NamespacePass

variable {n : Namespace} {i : Integration} {w middle after : World}

/-! ## How each cell may change -/

/-- **How what a cell holds may change** by a pass over a namespace: what the registry has stays; a
pull secret is written as a whole, and a service account is linked to its own; all else stays as it
is. -/
def CellGrows (n : Namespace) (i : Integration) :
    (cell : World.Cell) → cell.Content → cell.Content → Prop
  | .organization _, before, after => Option.isSome before → Option.isSome after
  | .robot _, before, after => Option.isSome before → Option.isSome after
  | .repository _, before, after => Option.isSome before → Option.isSome after
  | .prototypes _, before, after => List.IsPrefix before after
  | .secret key, before, after =>
    after = before ∨ ∃ role ∈ roles,
      key = qualified n.metadata.displayName (i.spec.pullSecretName role.1) ∧
        ∃ host user token, Registry.host i.spec.hostname = .ok host ∧
          after = some (PullSecret.secret (i.spec.pullSecretName role.1) n.metadata.displayName host
            user token)
  | .serviceAccount key, before, after =>
    after = before ∨ ∃ role ∈ roles, key = qualified n.metadata.displayName role.1 ∧
      ∃ a links, before = some a ∧
        ServiceAccount.linksWith a (i.spec.pullSecretName role.1) = some links ∧
          after = some (a.withLinks links)
  | .integrations, before, after => after = before
  | .imageStreams, before, after => after = before
  | .namespaceNamed _, before, after => after = before
  | .build _, before, after => after = before

/-- A world in which cells have changed only as they may. -/
def Grows (n : Namespace) (i : Integration) (w after : World) : Prop :=
  ∀ cell, CellGrows n i cell (w.content cell) (after.content cell)

theorem CellGrows.refl (cell : World.Cell) (content : cell.Content) :
    CellGrows n i cell content content := by
  cases cell with
  | secret | serviceAccount => exact .inl rfl
  | organization | robot | repository => exact id
  | prototypes => exact List.prefix_rfl
  | integrations | imageStreams | namespaceNamed | build => rfl

theorem Grows.refl (w : World) : Grows n i w w :=
  fun cell => .refl cell _

theorem Grows.trans (h : Grows n i w middle) (h' : Grows n i middle after) : Grows n i w after := by
  intro cell
  have first := h cell
  have second := h' cell
  cases cell with
  | integrations | imageStreams | namespaceNamed | build => exact second.trans first
  | organization | robot | repository => exact fun there => second (first there)
  | prototypes => exact first.trans second
  | secret key =>
    rcases second with same | written
    · exact first.imp same.trans fun ⟨role, mem, own, host, user, token, named, held⟩ =>
        ⟨role, mem, own, host, user, token, named, same.trans held⟩
    · exact .inr written
  | serviceAccount key =>
    rcases second with same | ⟨role, mem, own, a, links, stored, lacks, linked⟩
    · exact first.imp same.trans fun ⟨role, mem, own, a, links, stored, lacks, linked⟩ =>
        ⟨role, mem, own, a, links, stored, lacks, same.trans linked⟩
    · rcases first with same | ⟨role', mem', own', a', links', stored', lacks', linked'⟩
      · exact .inr ⟨role, mem, own, a, links, same.symm.trans stored, lacks, linked⟩
      · -- An account that has been linked lacks nothing any more.
        obtain rfl : a'.withLinks links' = a := Option.some.inj (linked'.symm.trans stored)
        have same : role.1 = role'.1 := qualified_injective _ (own.symm.trans own')
        rw [same, ServiceAccount.linksWith_eq_none_iff.mpr
          (ServiceAccount.linked_of_linksWith lacks')] at lacks
        cases lacks

/-! ## What a question changes -/

/-- **What a pass over a managed namespace may ask**, whatever it has been told. -/
def Modest (n : Namespace) (i : Integration) (question : Question) (w : World) : Prop :=
  question.Beside ∨ ∃ host, Registry.host i.spec.hostname = .ok host ∧
    (provisioning n i host).Modest question w

section Allows

variable {faults : Prop} {question : Question} {reply : question.Answer}

/-- What changes one cell as it may change, changes the world so. -/
theorem grows_of_cell {cell : World.Cell} (here : question.cell? = some cell)
    (allowed : (World.conduct faults).allows question w reply after)
    (grows : CellGrows n i cell (w.content cell) (after.content cell)) : Grows n i w after := by
  intro other
  by_cases same : cell = other
  · exact same ▸ grows
  · rw [World.content_of_allows allowed fun here' => same (Option.some.inj (here.symm.trans here'))]
    exact .refl other _

theorem grows_of_beside (h : question.Beside)
    (allowed : (World.conduct faults).allows question w reply after) : Grows n i w after := by
  cases h with
  | quiet quiet =>
    obtain rfl := World.eq_of_quiet allowed quiet
    exact .refl _
  | tell event =>
    rcases World.eq_or_honest_of_allows allowed with rfl | ⟨-, rfl⟩
    · exact .refl _
    · exact .refl _
  | createOrganization o =>
    refine grows_of_cell rfl allowed ?_
    rcases World.eq_or_honest_of_allows allowed with rfl | ⟨-, -, -, ⟨-, rfl⟩, -, rfl⟩
    · exact id
    · exact fun there => Table.contains_insert there _ _
  | createRepository o name =>
    refine grows_of_cell rfl allowed ?_
    rcases World.eq_or_honest_of_allows allowed with rfl | ⟨-, -, -, ⟨-, rfl⟩, -, rfl⟩
    · exact id
    · exact fun there => Table.contains_insert there _ _

theorem grows_of_mild {host : String} {role : String × Registry.Role}
    (named : Registry.host i.spec.hostname = .ok host) (mem : role ∈ roles)
    (h : (provisioning n i host).Mild role question w)
    (allowed : (World.conduct faults).allows question w reply after) : Grows n i w after := by
  cases h with
  | quiet quiet =>
    obtain rfl := World.eq_of_quiet allowed quiet
    exact .refl _
  | createRobot =>
    refine grows_of_cell rfl allowed ?_
    rcases World.eq_or_honest_of_allows allowed with rfl | ⟨-, -, -, ⟨robot, -, rfl⟩, -, rfl⟩
    · exact id
    · exact fun there => Table.contains_insert there _ _
  | createPrototype robot =>
    refine grows_of_cell rfl allowed ?_
    exact World.prototypes_prefix allowed _
  | applySecret user token =>
    refine grows_of_cell rfl allowed ?_
    -- Even a call that fails has written the whole secret or nothing.
    rcases World.eq_or_honest_of_allows allowed with rfl | ⟨-, -, rfl⟩
    · exact .inl rfl
    · refine .inr ⟨role, mem, Provisioning.key_wanted .., host, user, token, named, ?_⟩
      exact Table.get?_insert_self _ _ _
  | @linkServiceAccount a links _ stored lacks =>
    refine grows_of_cell rfl allowed ?_
    rcases World.eq_or_honest_of_allows allowed with rfl | ⟨-, -, rfl⟩
    · exact .inl rfl
    · refine .inr ⟨role, mem, rfl, a, links, stored, lacks, ?_⟩
      simp only [World.content, ClusterStore.answer, ClusterStore.linked]
      rw [show w.cluster.serviceAccounts.get?
        (qualified (provisioning n i host).ns role.1) = some a from stored]
      exact Table.get?_insert_self _ _ _

/-- **No question of such a pass takes anything away.** -/
theorem Modest.grows (h : Modest n i question w)
    (allowed : (World.conduct faults).allows question w reply after) : Grows n i w after := by
  rcases h with beside | ⟨host, named, beside | ⟨role, mem, mild⟩⟩
  · exact grows_of_beside beside allowed
  · exact grows_of_beside beside allowed
  · exact grows_of_mild named mem mild allowed

end Allows

/-! ## A whole world -/

/-- **How a world may have grown** by a pass over a namespace. -/
structure Grown (n : Namespace) (i : Integration) (w after : World) : Prop where
  organizations : ∀ o, w.registry.organizations.contains o = true →
    after.registry.organizations.contains o = true
  robots : ∀ key, w.registry.robots.contains key = true → after.registry.robots.contains key = true
  prototypes : ∀ o, w.registry.prototypesOf o <+: after.registry.prototypesOf o
  repositories : ∀ key, w.registry.repositories.contains key = true →
    after.registry.repositories.contains key = true
  /-- The service accounts of the platform in the namespace gain their own pull secrets at most, and
  none is made. -/
  accounts : ∀ role ∈ roles, Option.Rel (ServiceAccount.Joins (i.spec.pullSecretName role.1))
    (w.cluster.serviceAccounts.get? (qualified n.metadata.displayName role.1))
    (after.cluster.serviceAccounts.get? (qualified n.metadata.displayName role.1))
  otherAccounts : ∀ key, (∀ role ∈ roles, key ≠ qualified n.metadata.displayName role.1) →
    after.cluster.serviceAccounts.get? key = w.cluster.serviceAccounts.get? key
  /-- Their pull secrets are as they were, or have been written as a whole. -/
  secrets : ∀ role ∈ roles,
    after.cluster.secrets.get?
        (qualified n.metadata.displayName (i.spec.pullSecretName role.1)) =
      w.cluster.secrets.get? (qualified n.metadata.displayName (i.spec.pullSecretName role.1)) ∨
    ∃ host user token, Registry.host i.spec.hostname = .ok host ∧
      after.cluster.secrets.get?
          (qualified n.metadata.displayName (i.spec.pullSecretName role.1)) =
        some (PullSecret.secret (i.spec.pullSecretName role.1) n.metadata.displayName host user token)
  otherSecrets : ∀ key,
    (∀ role ∈ roles, key ≠ qualified n.metadata.displayName (i.spec.pullSecretName role.1)) →
      after.cluster.secrets.get? key = w.cluster.secrets.get? key
  namespaces : ∀ name, after.cluster.namespaces.get? name = w.cluster.namespaces.get? name
  builds : ∀ key, after.cluster.builds.get? key = w.cluster.builds.get? key
  imageStreams : after.cluster.imageStreams = w.cluster.imageStreams
  integrations : after.cluster.integrations = w.cluster.integrations

theorem Grows.grown (h : Grows n i w after) : Grown n i w after where
  organizations o := h (.organization o)
  robots key := h (.robot key)
  prototypes o := h (.prototypes o)
  repositories key := h (.repository key)
  accounts role mem := by
    rcases h (.serviceAccount (qualified n.metadata.displayName role.1)) with
      same | ⟨role', -, own, a, links, stored, lacks, linked⟩
    · rw [show after.cluster.serviceAccounts.get? (qualified n.metadata.displayName role.1) =
        w.cluster.serviceAccounts.get? (qualified n.metadata.displayName role.1) from same]
      cases w.cluster.serviceAccounts.get? (qualified n.metadata.displayName role.1) with
      | none => exact .none
      | some a => exact .some (.inl rfl)
    · rw [← qualified_injective _ own] at lacks
      rw [show w.cluster.serviceAccounts.get? (qualified n.metadata.displayName role.1) = some a
          from stored,
        show after.cluster.serviceAccounts.get? (qualified n.metadata.displayName role.1) = _
          from linked]
      exact .some (ServiceAccount.joins_of_linksWith lacks)
  otherAccounts key other := by
    rcases h (.serviceAccount key) with same | ⟨role, mem, own, -⟩
    · exact same
    · exact absurd own (other role mem)
  secrets role mem := by
    rcases h (.secret (qualified n.metadata.displayName (i.spec.pullSecretName role.1))) with
      same | ⟨role', -, own, host, user, token, named, held⟩
    · exact .inl same
    · rw [← qualified_injective _ own] at held
      exact .inr ⟨host, user, token, named, held⟩
  otherSecrets key other := by
    rcases h (.secret key) with same | ⟨role, mem, own, -⟩
    · exact same
    · exact absurd own (other role mem)
  namespaces name := h (.namespaceNamed name)
  builds key := h (.build key)
  imageStreams := h .imageStreams
  integrations := h .integrations

end NamespacePass

end RegistryBridge
