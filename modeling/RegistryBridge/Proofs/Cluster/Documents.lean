import RegistryBridge.Cluster.Build
import RegistryBridge.Proofs.Cluster.IntegrationDocument
import RegistryBridge.Proofs.Json.Parts
/-!
# The documents of builds, image streams and imports

What builds, image streams and imports consist of is read back from the documents that are written
for it. The options of a build's strategy and the entries of an import's status are not looked into:
they are written as they have been read. An option is never null, since null stands for nothing.

## Main results

* `BuildSpec.returned`, `ImageStreamImportSpec.returned` and their kind
* `BuildSpec.option?_toJson`, `ImageStreamImportStatus.images_of_ofJson`: what is written as it has
  been read.
-/

namespace RegistryBridge

open Json (Field Record Reader Returned)

/-! ## References -/

theorem ObjectReference.returned (r : ObjectReference) :
    Returned ofJson ["apiVersion", "fieldPath", "kind", "name", "namespace", "resourceVersion", "uid"]
      r.toJson r :=
  ((Record.Returns.of ObjectReference.mk).field (Field.returns_optionalText "apiVersion" r.apiVersion))
    |>.field (Field.returns_optionalText "fieldPath" r.fieldPath)
    |>.field (Field.returns_optionalText "kind" r.kind)
    |>.field (Field.returns_optionalText "name" r.name)
    |>.field (Field.returns_optionalText "namespace" r.ns)
    |>.field (Field.returns_optionalText "resourceVersion" r.resourceVersion)
    |>.field (Field.returns_optionalText "uid" r.uid)
    |>.resourceReturned (by decide)

theorem LocalReference.returned (r : LocalReference) : Returned ofJson ["name"] r.toJson r :=
  ((Record.Returns.of LocalReference.mk).field
      (Field.returns_nullAs "name" "" (Reader.text_text r.name) nofun))
    |>.resourceReturned (by decide)

/-! ## Builds -/

namespace BuildStrategy

/-- The names of a strategy's fields. -/
def names : List String :=
  ["type", "dockerStrategy", "sourceStrategy"]

/-- A strategy whose options are documents other than null. -/
def Plain (s : BuildStrategy) : Prop :=
  s.dockerStrategy ≠ some .null ∧ s.sourceStrategy ≠ some .null

/-- **The options of a strategy are those of its document**, unless they are null. -/
theorem options_of_ofJson {document : Json} {s : BuildStrategy} (read : ofJson document = .ok s) :
    s.dockerStrategy = (document.fieldOf? names "dockerStrategy").filter (· ≠ .null) ∧
      s.sourceStrategy = (document.fieldOf? names "sourceStrategy").filter (· ≠ .null) := by
  have ordered := Record.ordered_of BuildStrategy.mk
  obtain ⟨_, source, front, hsource, rfl⟩ :=
    (Record.gives_of_read (by decide) read).field ((ordered.field _).field _)
  obtain ⟨_, docker, kinds, hdocker, rfl⟩ := front.field (ordered.field _)
  obtain ⟨_, kind, rest, -, rfl⟩ := kinds.field ordered
  obtain rfl := Record.eq_of_gives rest
  exact ⟨Field.eq_of_gives_anything hdocker, Field.eq_of_gives_anything hsource⟩

/-- An option that a strategy has is not null. -/
theorem plain_of_ofJson {document : Json} {s : BuildStrategy} (read : ofJson document = .ok s) :
    s.Plain := by
  obtain ⟨docker, source⟩ := options_of_ofJson read
  constructor
  · rw [docker]
    simp [Option.filter_eq_some_iff]
  · rw [source]
    simp [Option.filter_eq_some_iff]

/-- **A strategy is read back**, if its options are not null. -/
theorem Plain.returned {s : BuildStrategy} (h : s.Plain) : Returned ofJson names s.toJson s :=
  ((Record.Returns.of BuildStrategy.mk).field (Field.returns_optionalText "type" s.kind))
    |>.field (Field.returns_optionalJson "dockerStrategy" h.1)
    |>.field (Field.returns_optionalJson "sourceStrategy" h.2)
    |>.returned (by decide)

/-- **The options of a strategy are written as they have been read**, unless they are null. -/
theorem option_toJson {document : Json} {s : BuildStrategy} (read : ofJson document = .ok s)
    {key : String} (option : key = "dockerStrategy" ∨ key = "sourceStrategy") :
    s.toJson.get? key = (document.fieldOf? names key).filter (· ≠ .null) := by
  obtain ⟨docker, source⟩ := options_of_ofJson read
  rcases option with rfl | rfl
  · rw [← docker]
    obtain ⟨_ | _, _ | _, _ | _⟩ := s <;> rfl
  · rw [← source]
    obtain ⟨_ | _, _ | _, _ | _⟩ := s <;> rfl

end BuildStrategy

theorem OutputReference.returned (o : OutputReference) :
    Returned ofJson ["kind", "name", "namespace"] o.toJson o :=
  ((Record.Returns.of OutputReference.mk).field
      (Field.returns_withDefault "kind" "" (Reader.text_text o.kind)))
    |>.field (Field.returns_withDefault "name" "" (Reader.text_text o.name))
    |>.field (Field.returns_optionalText "namespace" o.ns)
    |>.returned (by decide)

theorem BuildOutput.returned (o : BuildOutput) : Returned ofJson ["to"] o.toJson o :=
  ((Record.Returns.of BuildOutput.mk).field
      (Field.returns_optional "to" (fun r _ => r.returned.back) fun r _ => r.returned.ne_null))
    |>.returned (by decide)

namespace BuildSpec

/-- The names of a spec's fields. -/
def names : List String :=
  ["strategy", "output"]

/-- The option of a build's strategy in the document of its spec. -/
def option? (document : Json) (key : String) : Option Json :=
  (document.fieldOf? names "strategy").bind fun strategy => strategy.fieldOf? BuildStrategy.names key

/-- The strategy of a spec is read from its document, or is the one that stands for none. -/
theorem strategy_of_ofJson {document : Json} {s : BuildSpec} (read : ofJson document = .ok s) :
    (document.fieldOf? names "strategy" = none ∧ s.strategy = {}) ∨
      ∃ strategy, document.fieldOf? names "strategy" = some strategy ∧
        BuildStrategy.ofJson strategy = .ok s.strategy := by
  have ordered := Record.ordered_of BuildSpec.mk
  obtain ⟨_, output, front, -, rfl⟩ :=
    (Record.gives_of_read (by decide) read).field (ordered.field _)
  obtain ⟨_, strategy, rest, hstrategy, rfl⟩ := front.field ordered
  obtain rfl := Record.eq_of_gives rest
  exact Field.gives_withDefault hstrategy

theorem plain_of_ofJson {document : Json} {s : BuildSpec} (read : ofJson document = .ok s) :
    s.strategy.Plain := by
  rcases strategy_of_ofJson read with ⟨-, default⟩ | ⟨strategy, -, read⟩
  · rw [default]
    exact ⟨nofun, nofun⟩
  · exact BuildStrategy.plain_of_ofJson read

/-- **A spec is read back**, if its strategy's options are not null. -/
theorem returned {s : BuildSpec} (plain : s.strategy.Plain) : Returned ofJson names s.toJson s :=
  ((Record.Returns.of BuildSpec.mk).field
      (Field.returns_withDefault "strategy" ({} : BuildStrategy) plain.returned.back))
    |>.field (Field.returns_withDefault "output" ({} : BuildOutput) s.output.returned.back)
    |>.returned (by decide)

/-- **The options of a strategy are written as they have been read**, unless they are null. -/
theorem option?_toJson {document : Json} {s : BuildSpec} (read : ofJson document = .ok s)
    {key : String} (option : key = "dockerStrategy" ∨ key = "sourceStrategy") :
    option? s.toJson key = (option? document key).filter (· ≠ .null) := by
  show s.strategy.toJson.get? key = _
  unfold option?
  -- A spec without a strategy is written with one that has no options.
  rcases strategy_of_ofJson read with ⟨absent, default⟩ | ⟨strategy, held, read⟩
  · rw [absent, default]
    rfl
  · rw [held]
    exact BuildStrategy.option_toJson read option

end BuildSpec

theorem BuildStatus.returned (s : BuildStatus) : Returned ofJson ["phase"] s.toJson s :=
  ((Record.Returns.of BuildStatus.mk).field (Field.returns_optionalText "phase" s.phase))
    |>.returned (by decide)

/-! ## Image streams and imports -/

theorem ImageStreamSpec.returned (s : ImageStreamSpec) :
    Returned ofJson ["dockerImageRepository"] s.toJson s :=
  ((Record.Returns.of ImageStreamSpec.mk).field
      (Field.returns_optionalText "dockerImageRepository" s.dockerImageRepository))
    |>.returned (by decide)

theorem TagImportPolicy.returned (p : TagImportPolicy) :
    Returned ofJson ["insecure", "scheduled"] p.toJson p :=
  ((Record.Returns.of TagImportPolicy.mk).field
      (Field.returns_withDefault "insecure" false (Reader.bool_bool p.insecure)))
    |>.field (Field.returns_withDefault "scheduled" false (Reader.bool_bool p.scheduled))
    |>.returned (by decide)

theorem TagReferencePolicy.returned (p : TagReferencePolicy) :
    Returned ofJson ["type"] p.toJson p :=
  ((Record.Returns.of TagReferencePolicy.mk).field
      (Field.returns_withDefault "type" "" (Reader.text_text p.kind)))
    |>.returned (by decide)

theorem ImageImport.returned (i : ImageImport) :
    Returned ofJson ["from", "to", "importPolicy", "referencePolicy"] i.toJson i :=
  ((Record.Returns.of ImageImport.mk).field (Field.returns_required "from" i.source.returned.back))
    |>.field (Field.returns_optional "to" (fun r _ => r.returned.back) fun r _ => r.returned.ne_null)
    |>.field (Field.returns_withDefault "importPolicy" ({} : TagImportPolicy)
      i.importPolicy.returned.back)
    |>.field (Field.returns_withDefault "referencePolicy" ({} : TagReferencePolicy)
      i.referencePolicy.returned.back)
    |>.returned (by decide)

theorem ImageStreamImportSpec.returned (s : ImageStreamImportSpec) :
    Returned ofJson ["import", "images"] s.toJson s :=
  ((Record.Returns.of ImageStreamImportSpec.mk).field
      (Field.returns_withDefault "import" false (Reader.bool_bool s.keep)))
    |>.field (Field.returns_list "images" (fun i => i.returned.back) s.images)
    |>.returned (by decide)

namespace ImageStreamImportStatus

/-- The name of a status's field. -/
def names : List String :=
  ["images"]

theorem returned (s : ImageStreamImportStatus) : Returned ofJson names s.toJson s :=
  ((Record.Returns.of ImageStreamImportStatus.mk).field
      (Field.returns_listOfJson "images" s.images))
    |>.returned (by decide)

/-- **The entries of a status are written as they have been read**, unless there are none. -/
theorem images_of_ofJson {document : Json} {s : ImageStreamImportStatus}
    (read : ofJson document = .ok s) :
    s.toJson.fieldOf? names "images" = (document.fieldOf? names "images").filter (· ≠ .list []) := by
  obtain ⟨_, images, rest, himages, rfl⟩ :=
    (Record.gives_of_read (by decide) read).field (Record.ordered_of ImageStreamImportStatus.mk)
  obtain rfl := Record.eq_of_gives rest
  have held : document.fieldOf? names "images" = none ∧ images = [] ∨
      document.fieldOf? names "images" = some (.list images) := by
    rcases Field.gives_withDefault himages with missing | ⟨entries, held, read⟩
    · exact .inl missing
    · rw [Json.eq_list_of_anything read] at held
      exact .inr held
  rcases held with ⟨absent, rfl⟩ | held
  · rw [absent]
    rfl
  · rw [held]
    cases images with
    | nil => rfl
    | cons entry rest => exact congrArg (fun entries => some (Json.list entries)) (List.map_id _)

end ImageStreamImportStatus

end RegistryBridge
