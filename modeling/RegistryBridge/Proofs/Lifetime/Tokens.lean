import RegistryBridge.Proofs.Lifetime.Phases
import RegistryBridge.Proofs.Pass.Veiled
/-!
# Where the tokens of a pass go

A pass reads the token that it connects with from a secret, is told the tokens of the robots, and
compares what the pull secrets hold with what they should. Nothing else that it does goes by any of
them: it ends in the same way, with the same failure if with one, and asks the same, whatever they are.

Service accounts take turns, and whether one of them writes its pull secret may change whose turn it
is. So runs are compared once they are sorted by service account; a sorted run is one of the pass in
which none of them waits for another one.

## Main definitions

* `Transcript.Trusted`: the credentials that are read are usable.
* `Transcript.Sorts`: a transcript sorted by service account.
* `NamespacePass.IsPullSecret`: a secret that a pass may write.

## Main results

* `NamespacePass.pass_twins`: a pass shows the same, whatever the tokens.
* `NamespacePass.passBy_sorts`: whatever turns are taken, a pass hears what the pass in order hears.
* `NamespacePass.passes_alike_but_for_tokens`
-/

namespace RegistryBridge

open Transcript (Unrefused unrefused_first unrefused_rest)

/-! ## Provisioning -/

namespace Provisioning

variable {p : Provisioning}

theorem organizationStep_plain : p.organizationStep.Only Question.Plain := by
  refine .bind (.registry fun _ => rfl) fun found => .ite (.pure _) (.ite ?_ (.fail _))
  refine .bind (.registry fun _ => rfl) fun made => ?_
  exact .ite (.bind (.fail _) fun _ => .tell fun _ => rfl) (.tell fun _ => rfl)

theorem prototypeStep_plain (robot : String) (role : Registry.Role) :
    (p.prototypeStep robot role).Only Question.Plain := by
  refine .bind (.registry fun _ => rfl) fun found => .ite (.fail _) (.ite (.pure _) ?_)
  exact .bind (.registry fun _ => rfl) fun made => .ite (.fail _) (.pure _)

theorem linkStep_plain (account : String) : (p.linkStep account).Only Question.Plain := by
  refine .bind (.cluster fun _ => rfl) fun found => ?_
  cases found with
  | none => exact .fail _
  | some existing =>
    dsimp only
    cases ServiceAccount.linksWith existing (p.spec.pullSecretName account) with
    | none => exact .pure _
    | some links => exact .cluster fun _ => rfl

theorem repositories_plain : p.repositories.Only Question.Plain := by
  refine .bind (.cluster fun _ => rfl) fun streams => .all fun step mem => ?_
  obtain ⟨stream, -, rfl⟩ := List.mem_map.mp mem
  refine .bind (.registry fun _ => rfl) fun found => .ite (.pure _) (.ite ?_ (.fail _))
  exact .bind (.registry fun _ => rfl) fun made => .ite (.fail _) (.pure _)

/-- The robots that are told of are alike but for their tokens, or there is none. -/
theorem robotOf_alike (account : String) {body body' : Option Registry.Robot}
    (same : body.map Registry.Robot.tokenless = body'.map Registry.Robot.tokenless) :
    Step.Alike (fun robot robot' => robot.tokenless = robot'.tokenless) (p.robotOf account body)
      (p.robotOf account body') := by
  match body, body' with
  | none, none => rfl
  | none, some _ | some _, none => cases same
  | some robot, some robot' =>
    have shown : robot.tokenless = robot'.tokenless := Option.some.inj same
    rw [robotOf_some, robotOf_some]
    show (p.named account robot).tokenless = (p.named account robot').tokenless
    unfold named
    rw [Registry.Robot.name_of_tokenless shown]
    split
    · exact congrArg (fun robot => { robot with name := p.robotKey account }) shown
    · exact shown

theorem robotStep_twins (account : String) :
    (p.robotStep account).Twins Unrefused (fun robot robot' => robot.tokenless = robot'.tokenless)
      (p.robotStep account) := by
  refine .bind (fun _ _ _ => trivial) (fun _ _ _ => trivial) (.registry fun _ => rfl)
    fun found found' same => ?_
  obtain ⟨status, body⟩ := Registry.Response.mk.inj same
  rw [← status]
  refine .ite Iff.rfl (fun _ => .of (robotOf_alike account body)) fun _ => ?_
  refine .ite Iff.rfl (fun _ => ?_) fun _ => .fail _
  refine .bind (fun _ _ _ => trivial) (fun _ _ _ => trivial) (.registry fun _ => rfl)
    fun made made' same => ?_
  obtain ⟨status, body⟩ := Registry.Response.mk.inj same
  rw [← status]
  exact .ite Iff.rfl (fun _ => .of (robotOf_alike account body)) fun _ => .fail _

/-- Whether a pull secret is written does not show, nor what is written. -/
theorem pullSecretStep_twins (account : String) (robot robot' : Registry.Robot) :
    (p.pullSecretStep account robot).Twins Unrefused Eq (p.pullSecretStep account robot') := by
  refine .bind (fun _ _ _ => trivial) unrefused_rest
    (.cluster fun _ => rfl) fun found found' _ => ?_
  exact .of_hidden (.ite .pure (.applySecret _ _)) (.ite .pure (.applySecret _ _))

/-- **What is asked for a service account** shows the same, whatever token its robot has. -/
theorem roleStep_twins (account : String) (role : Registry.Role) :
    (p.roleStep account role).Twins Unrefused Eq (p.roleStep account role) := by
  refine .bind unrefused_first unrefused_rest (robotStep_twins account) fun robot robot' same => ?_
  rw [Registry.Robot.name_of_tokenless same]
  refine .bind unrefused_first unrefused_rest (.of_only (prototypeStep_plain _ _)) fun _ _ _ => ?_
  refine .bind unrefused_first unrefused_rest (pullSecretStep_twins account robot robot')
    fun _ _ _ => ?_
  exact .of_only (linkStep_plain account)

theorem steps_twins : p.steps.Twins Unrefused Eq p.steps := by
  refine .bind unrefused_first unrefused_rest (.of_only organizationStep_plain) fun _ _ _ => ?_
  refine .bind unrefused_first unrefused_rest (.all fun step mem => ?_)
    fun _ _ _ => .of_only repositories_plain
  obtain ⟨role, -, rfl⟩ := List.mem_map.mp mem
  exact roleStep_twins role.1 role.2

end Provisioning

/-! ## The connection -/

/-- **The credentials are usable** where they are the first thing that is read. -/
def Transcript.Usable (spec : IntegrationSpec) (t : Transcript Bridge) : Prop :=
  ∀ entry secret more, spec.credentials = some entry →
    t = .cluster (.getSecret entry.ns entry.name) (.ok (some secret)) :: more →
      ∃ token, Credentials.token secret entry = .ok token

theorem Transcript.Usable.first {spec : IntegrationSpec} {t more : Transcript Bridge}
    (h : Usable spec (t ++ more)) : Usable spec t := by
  rintro entry secret more' named rfl
  exact h entry secret (more' ++ more) named rfl

theorem Pass.connect_twins {object : ObjectReference} {spec : IntegrationSpec} :
    (Pass.connect object spec).Twins (Transcript.Usable spec) Eq (Pass.connect object spec) := by
  unfold Pass.connect
  cases named : spec.credentials with
  | none => exact .fail _
  | some entry =>
    refine Program.Twins.ask (fun _ _ => True) fun reply reply' ok ok' =>
      ⟨_, _, rfl, rfl, rfl, fun same => ⟨fun _ _ => trivial, fun _ _ => trivial, ?_⟩⟩
    have shown := eq_of_heq (Exchange.mk.inj same).2
    match reply, reply' with
    | .error e, .error e' =>
      obtain rfl := Except.error.inj shown
      exact .done rfl
    | .ok _, .error _ | .error _, .ok _ => cases shown
    | .ok none, .ok none => exact .done rfl
    | .ok none, .ok (some _) | .ok (some _), .ok none => cases shown
    | .ok (some secret), .ok (some secret') =>
      obtain ⟨t, usable⟩ := ok
      obtain ⟨token, read⟩ := usable entry secret t named rfl
      obtain ⟨t', usable'⟩ := ok'
      obtain ⟨token', read'⟩ := usable' entry secret' t' named rfl
      simp only [Except.mapError, Program.done_bind, ExceptT.bindCont, read, read']
      -- The tokens differ, but a connection shows without its token.
      refine .ask (fun _ _ => True) fun reply reply' _ _ =>
        ⟨_, _, rfl, rfl, rfl, fun same => ⟨fun _ _ => trivial, fun _ _ => trivial, ?_⟩⟩
      obtain rfl : reply = reply' := eq_of_heq (Exchange.mk.inj same).2
      exact .done (Step.alike_eq_iff.mpr rfl)

/-! ## A whole pass -/

/-- **The credentials of the integration that counts are usable.** -/
def Transcript.Trusted (t : Transcript Bridge) : Prop :=
  ∀ i more, t = .listed i :: more → Usable i.spec more

namespace NamespacePass

variable {object : ObjectReference} {spec : IntegrationSpec} {name : String}

theorem takeIn_plain : (takeIn object spec name).Only Question.Plain :=
  .bind (.cluster fun _ => rfl) fun _ => .bind (.tell fun _ => rfl) fun _ => .pure _

theorem dropOrganization_plain (organization : String) :
    (dropOrganization object organization).Only Question.Plain := by
  refine .bind (.registry fun _ => rfl) fun found => .ite (.pure _) (.ite ?_ (.fail _))
  refine .bind (.registry fun _ => rfl) fun gone => ?_
  exact .ite (.bind (.fail _) fun _ => .tell fun _ => rfl) (.tell fun _ => rfl)

/-- What is done in a phase shows the same, whatever the tokens. -/
theorem inPhase_twins (phase : NamespacePhase) :
    (inPhase object spec name phase).Twins (fun t => t.Usable spec ∧ t.Unrefused) Eq
      (inPhase object spec name phase) := by
  have early : ∀ t more : Transcript Bridge,
      ((t ++ more).Usable spec ∧ (t ++ more).Unrefused) → t.Usable spec :=
    fun _ _ fair => fair.1.first
  have late : ∀ t more : Transcript Bridge,
      ((t ++ more).Usable spec ∧ (t ++ more).Unrefused) → more.Unrefused :=
    fun _ _ fair => unrefused_rest _ _ fair.2
  cases phase with
  | unmanaged | initializing | gone => exact .of_only (.pure _)
  | pending => exact .of_only takeIn_plain
  | terminating =>
    refine .bind early late Pass.connect_twins fun _ _ _ => .of_only ?_
    exact .bind (dropOrganization_plain _) fun _ =>
      .bind (.cluster fun _ => rfl) fun _ => .pure _
  | managed =>
    refine .bind early late Pass.connect_twins fun _ _ _ => ?_
    cases Registry.host spec.hostname with
    | error e => exact .fail _
    | ok host =>
      refine .bind unrefused_first (fun _ _ _ => trivial) Provisioning.steps_twins fun _ _ _ => ?_
      exact .of_only (.pure _)

/-- **A pass shows the same, whatever the tokens.** -/
theorem pass_twins (n : Namespace) :
    (pass n).Twins (fun t => t.Trusted ∧ t.Unrefused) Eq (pass n) := by
  have early : ∀ t more : Transcript Bridge,
      (t ++ more).Trusted ∧ (t ++ more).Unrefused → t.Trusted ∧ t.Unrefused := by
    rintro t more ⟨trusted, taken⟩
    refine ⟨?_, unrefused_first _ _ taken⟩
    rintro i rest rfl
    exact (trusted i (rest ++ more) rfl).first
  refine Pass.reporting_twins early ?_
  refine Program.Twins.ask (fun (reply : Except OperationError (List Integration)) t =>
    ∀ i, reply = .ok [i] → t.Usable i.spec ∧ t.Unrefused) fun reply reply' _ _ =>
      ⟨_, _, rfl, rfl, rfl, fun same => ?_⟩
  obtain rfl : reply = reply' := eq_of_heq (Exchange.mk.inj same).2
  have goes : ∀ t : Transcript Bridge, Transcript.Trusted (⟨_, reply⟩ :: t) ∧
      Transcript.Unrefused (⟨_, reply⟩ :: t) → ∀ i : Integration,
        reply = (.ok [i] : Except OperationError (List Integration)) →
          t.Usable i.spec ∧ t.Unrefused := by
    rintro t ⟨trusted, taken⟩ i rfl
    exact ⟨trusted i t rfl, unrefused_rest [_] t taken⟩
  refine ⟨goes, goes, ?_⟩
  match reply with
  | .error e => exact .done rfl
  | .ok all =>
    simp only [Except.mapError, Program.done_bind, ExceptT.bindCont]
    cases chosen : Integration.required (Resource.reference n) all with
    | error failure => exact .done rfl
    | ok i =>
      obtain rfl := Integration.eq_of_required chosen
      refine (inPhase_twins (.of n _)).mono (fun t fair => fair i rfl) fun _ _ => id

end NamespacePass

/-! ## Whatever turns are taken -/

/-- **A transcript sorted by service account**: what is heard for the service accounts, who took turns,
stands one behind the other, in the order of the roles. All else stays where it is. -/
inductive Transcript.Sorts : Transcript Bridge → Transcript Bridge → Prop
  | sort (front : Transcript Bridge) {view : { role // role ∈ roles } → Transcript Bridge}
    {middle : Transcript Bridge} (merged : Interleaves view middle) (back : Transcript Bridge) :
    Sorts (front ++ (middle ++ back)) (front ++ (roles.attach.flatMap view ++ back))

namespace Transcript.Sorts

variable {t sorted : Transcript Bridge}

theorem refl (t : Transcript Bridge) : Sorts t t := by
  have silent : roles.attach.flatMap (fun _ => ([] : Transcript Bridge)) = [] :=
    List.flatMap_eq_nil_iff.mpr fun _ _ => rfl
  simpa [silent] using Sorts.sort t .nil []

theorem behind (front : Transcript Bridge) (h : Sorts t sorted) :
    Sorts (front ++ t) (front ++ sorted) := by
  obtain ⟨begun, merged, back⟩ := h
  simpa using Sorts.sort (front ++ begun) merged back

theorem before (h : Sorts t sorted) (back : Transcript Bridge) :
    Sorts (t ++ back) (sorted ++ back) := by
  obtain ⟨begun, merged, rest⟩ := h
  simpa using Sorts.sort begun merged (rest ++ back)

end Transcript.Sorts

/-- **A program that hears what another one hears**, but for the turns that are taken. -/
def Program.Sorts {α : Type} (p p' : Program Bridge α) : Prop :=
  ∀ t value, p.Hears t value → ∃ sorted, t.Sorts sorted ∧ p'.Hears sorted value

namespace Program.Sorts

variable {α β : Type} {p p' : Program Bridge α}

theorem refl (p : Program Bridge α) : p.Sorts p :=
  fun t _ run => ⟨t, .refl t, run⟩

theorem first (h : p.Sorts p') (f : α → Program Bridge β) : (p.bind f).Sorts (p'.bind f) := by
  intro _ _ run
  obtain ⟨t, rest, value, rfl, begun, onward⟩ := hears_bind_iff.mp run
  obtain ⟨sorted, sorts, begun'⟩ := h t value begun
  exact ⟨sorted ++ rest, sorts.before rest,
    hears_bind_iff.mpr ⟨sorted, rest, value, rfl, begun', onward⟩⟩

theorem rest {f f' : α → Program Bridge β} (p : Program Bridge α)
    (h : ∀ value, (f value).Sorts (f' value)) : (p.bind f).Sorts (p.bind f') := by
  intro _ _ run
  obtain ⟨t, more, value, rfl, begun, onward⟩ := hears_bind_iff.mp run
  obtain ⟨sorted, sorts, onward'⟩ := h value more _ onward
  exact ⟨t ++ sorted, sorts.behind t,
    hears_bind_iff.mpr ⟨t, sorted, value, rfl, begun, onward'⟩⟩

end Program.Sorts

/-- A step behind another one is sorted where it takes turns. -/
theorem Step.sorts_rest {α β : Type} {next next' : α → Step β} (step : Step α)
    (h : ∀ value, (next value).run.Sorts (next' value).run) :
    (step >>= next).run.Sorts (step >>= next').run := by
  refine Program.Sorts.rest step.run fun ended => ?_
  cases ended with
  | ok value => exact h value
  | error failure => exact .refl _

namespace Provisioning

variable {p : Provisioning}

theorem fanOut_sorts (turns : Turns) :
    (fanOut (turns.woven p)).run.Sorts (fanOut (Turns.inOrder.woven p)).run := by
  refine Program.Sorts.first (fun t outcome run => ?_) _
  obtain ⟨view, own, merged⟩ := (turns.weaves p).hears run
  refine ⟨roles.attach.flatMap view, by simpa using Transcript.Sorts.sort [] merged [], ?_⟩
  exact Program.hears_inTurn (fun role _ => own role) fun role absent =>
    absurd (List.mem_attach roles role) absent

end Provisioning

namespace NamespacePass

variable {object : ObjectReference} {spec : IntegrationSpec} {name : String}

theorem inPhaseBy_sorts (turns : Turns) (phase : NamespacePhase) :
    (inPhaseBy turns object spec name phase).run.Sorts
      (inPhaseBy .inOrder object spec name phase).run := by
  cases phase with
  | unmanaged | initializing | gone | pending | terminating => exact .refl _
  | managed =>
    refine Step.sorts_rest _ fun _ => ?_
    cases Registry.host spec.hostname with
    | error e => exact .refl _
    | ok host =>
      refine Program.Sorts.first (Step.sorts_rest _ fun _ => ?_) _
      exact Program.Sorts.first (Provisioning.fanOut_sorts turns) _

/-- **A pass hears what the pass in order hears**, but for the turns that service accounts take. -/
theorem passBy_sorts (turns : Turns) (n : Namespace) : (passBy turns n).Sorts (pass n) := by
  rw [← passBy_inOrder]
  exact .first (Step.sorts_rest _ fun i => inPhaseBy_sorts turns _) _

/-- **A pull secret of a namespace**: what it holds under its one key is free. -/
def IsPullSecret (n : Namespace) (i : Integration) (secret : Secret) : Prop :=
  ∃ role ∈ roles, ∃ held, secret =
    { metadata :=
        { name := some (i.spec.pullSecretName role.1), ns := some n.metadata.displayName }
      kind := some PullSecret.kind
      data := some [(PullSecret.key, held)] }

/-- A pass writes no secrets but pull secrets of its namespace. -/
theorem isPullSecret_of_hears {turns : Turns} {n : Namespace} {i : Integration}
    {result : Except Failure Action} {more : Transcript Bridge}
    (run : (passBy turns n).Hears (.listed i :: more) result) {secret : Secret}
    {reply : Except OperationError Unit} (mem : .cluster (.applySecret secret) reply ∈ more) :
    IsPullSecret n i secret := by
  have only : (inPhaseBy turns (Resource.reference n) i.spec n.metadata.displayName
      (phase n i)).Only fun question => ∀ secret, question = .cluster (.applySecret secret) →
        IsPullSecret n i secret := by
    refine (inPhaseBy_asks turns _).mono ?_
    rintro question asks secret rfl
    cases asks with | provision asks =>
    cases asks with | @applySecret role mem user token =>
    exact ⟨role, mem, _, rfl⟩
  exact queries_of_run only (fun _ _ => nofun) (passBy_iff.mp run) _ mem secret rfl

/-- **Tokens are not seen but where they belong.** Whatever turns its service accounts take, a pass
hears what the pass in order hears, and writes no secret but a pull secret of its namespace. Of that
pass, two runs that are answered alike, but for the tokens of the credentials and of the robots and
for what the pull secrets hold, ask alike and end alike: they differ in the token that they connect
with, and in which pull secrets they write and what these hold. -/
theorem passes_alike_but_for_tokens (n : Namespace) :
    (∀ turns t result, (passBy turns n).Hears t result →
      (∃ sorted, t.Sorts sorted ∧ (pass n).Hears sorted result) ∧
        ∀ i more, t = .listed i :: more → ∀ secret reply,
          .cluster (.applySecret secret) reply ∈ more → IsPullSecret n i secret) ∧
      ∀ behaviour t t' result result', (pass n).Hears t result → (pass n).Hears t' result' →
        t.Trusted → t'.Trusted → t.Unrefused → t'.Unrefused →
          Transcript.Follows behaviour [] t → Transcript.Follows behaviour [] t' →
            result = result' ∧ t.veiled = t'.veiled := by
  refine ⟨fun turns t result run => ⟨passBy_sorts turns n t result run, ?_⟩, ?_⟩
  · rintro i more rfl secret reply mem
    exact isPullSecret_of_hears run mem
  · intro behaviour t t' result result' run run' trusted trusted' taken taken' follows follows'
    exact pass_twins n behaviour [] t t' result result' run run' ⟨trusted, taken⟩
      ⟨trusted', taken'⟩ follows follows'

/-! ## A namespace whose robots get other tokens -/

/-- What a pass hears in a world. -/
def heardIn (w : World) : Except Failure Action × (World × Transcript Bridge) :=
  Program.run (Program.recording (I := Bridge) World.answer) (pass shop) (w, [])

/-- The credentials with some token. -/
def credentialsOf (token : String) : Secret :=
  { data := some [("token", token.toUTF8)], metadata := { name := some "credentials" } }

/-- The world in which another token is stored, and the robot and its pull secret have another one. -/
def rekeyed : World :=
  { begun with
    cluster := { begun.cluster with
      secrets := Table.ofList [
        (qualified "bridge" "credentials", credentialsOf "u"),
        (qualified "shop" "builder-quay-acme",
          (provisioning shop acme "[::1]").wanted "builder" "acme_shop+builder" "c")] }
    registry := { begun.registry with
      robots := [("acme_shop+builder", { name := "acme_shop+builder", token := "c" })] } }

/-- How a pass begins that is given a secret for its credentials. -/
def readFirst (secret : Secret) : Transcript Bridge :=
  [.listed acme, .cluster (.getSecret "bridge" "credentials") (.ok (some secret))]

/-- A pass that begins by reading a usable secret. -/
theorem trusted_of_read {t : Transcript Bridge} {secret : Secret} (token : String)
    (read : readFirst secret <+: t)
    (usable : Credentials.token secret { name := "credentials", ns := "bridge" } = .ok token) :
    t.Trusted := by
  obtain ⟨rest, rfl⟩ := read
  rintro i _ same entry found more named rfl
  obtain ⟨first, later⟩ := List.cons.inj same
  have counted : [acme] = [i] := Except.ok.inj (eq_of_heq (Exchange.mk.inj first).2)
  obtain rfl := List.singleton_inj.mp counted
  obtain rfl := Option.some.inj named
  have second : some secret = some found :=
    Except.ok.inj (eq_of_heq (Exchange.mk.inj (List.cons.inj later).1).2)
  obtain rfl := Option.some.inj second
  exact ⟨token, usable⟩

/-- The two passes differ in all tokens, and only one of them writes the pull secret. -/
theorem rekeyed_alike :
    (heardIn begun).2.2.length = 32 ∧ (heardIn rekeyed).2.2.length = 31 ∧
      (heardIn begun).1 = (heardIn rekeyed).1 ∧
        (heardIn begun).2.2.veiled = (heardIn rekeyed).2.2.veiled := by
  have run : (pass shop).Hears (heardIn begun).2.2 (heardIn begun).1 :=
    Program.hears_recording (I := Bridge) World.answer (pass shop) begun
  have run' : (pass shop).Hears (heardIn rekeyed).2.2 (heardIn rekeyed).1 :=
    Program.hears_recording (I := Bridge) World.answer (pass shop) rekeyed
  -- One evaluation of the two runs serves for all that is read off them.
  obtain ⟨size, size', shown, taken, taken', read, read'⟩ :
      (heardIn begun).2.2.length = 32 ∧ (heardIn rekeyed).2.2.length = 31 ∧
        (heardIn begun).2.2.veiled = (heardIn rekeyed).2.2.veiled ∧
          (heardIn begun).2.2.Unrefused ∧ (heardIn rekeyed).2.2.Unrefused ∧
            readFirst (credentialsOf "t\n") <+: (heardIn begun).2.2 ∧
              readFirst (credentialsOf "u") <+: (heardIn rekeyed).2.2 := by
    decide +kernel
  obtain ⟨behaviour, follows⟩ := Transcript.exists_follows (heardIn begun).2.2
  have follows' : Transcript.Follows behaviour [] (heardIn rekeyed).2.2 := by
    intro front e back split
    exact follows front e back (shown.trans split)
  have trusted : (heardIn begun).2.2.Trusted := trusted_of_read "t" read (by decide +kernel)
  have trusted' : (heardIn rekeyed).2.2.Trusted := trusted_of_read "u" read' (by decide +kernel)
  exact ⟨size, size', (passes_alike_but_for_tokens shop).2 behaviour _ _ _ _ run run' trusted
    trusted' taken taken' follows follows'⟩

end NamespacePass

end RegistryBridge
