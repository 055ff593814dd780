import RegistryBridge.Proofs.Lifetime.Success
import RegistryBridge.Proofs.Lifetime.Tokens
import RegistryBridge.Proofs.Pass.Heard
import RegistryBridge.Proofs.PullSecret.Reading
/-!
# Where the passwords of pull secrets come from

A pass writes a pull secret only for a robot that the registry has given it, in an answer with a body.
The token of that answer is the password, whatever it is: a body without one is a body, and what the
secret then holds is a name and a colon. Without a body the service account gets no secret, and what
is done for it fails.

## Main definitions

* `Provisioning.Gave`: the registry has given a robot.

## Main results

* `Provisioning.Unsupplied.gave`: a pull secret is found wanting only for a robot that was given.
* `Provisioning.lost_of_not_gave`: without a robot a service account is given up.
* `NamespacePass.passwords_given`
-/

namespace RegistryBridge

open Transcript (Then Lasting)

/-- What lasts still holds when something else has been heard behind it. -/
theorem Transcript.Then.first {before : Transcript Bridge → Prop} {heard : Exchange Bridge → Prop}
    {t : Transcript Bridge} (lasting : Lasting before) (h : Then before heard t) : before t := by
  obtain ⟨front, e, back, rfl, first, -⟩ := h
  exact lasting.grow first (e :: back)

namespace Provisioning

variable {p : Provisioning} {account : String} {role : Registry.Role}
  {robot given : Registry.Robot} {t : Transcript Bridge}

/-- **The registry has given a robot**, in an answer with a body that says that it was found or made. -/
def Gave (p : Provisioning) (account : String) (given : Registry.Robot) (t : Transcript Bridge) :
    Prop :=
  ∃ e ∈ t,
    (RegistryCall.getRobot p.organization account).Answered
        (fun response => response.status = 200 ∧ response.body = some given) e ∨
      (RegistryCall.createRobot p.organization account).Answered
        (fun response => response.status = 201 ∧ response.body = some given) e

/-- A robot is taken from a body, and only its name may be filled in. -/
theorem exists_of_robotOf {body : Option Registry.Robot} (h : p.robotOf account body = .ok robot) :
    ∃ given, body = some given ∧ robot = p.named account given := by
  cases body with
  | none => cases h
  | some given =>
    rw [robotOf_some] at h
    exact ⟨given, rfl, (Except.ok.inj h).symm⟩

@[simp] theorem named_token (account : String) (robot : Registry.Robot) :
    (p.named account robot).token = robot.token := by
  unfold named
  split <;> rfl

theorem named_name (account : String) (robot : Registry.Robot) :
    (p.named account robot).name =
      if robot.name = "" then robotName p.organization account else robot.name := by
  unfold named
  split <;> rfl

/-- **A pull secret has a password** exactly when it was made of a token. -/
theorem exists_password_iff {account user token : String} :
    (∃ password, password ≠ "" ∧
      (p.wanted account user token).sent? = some (p.host, user ++ ":" ++ password)) ↔
        token ≠ "" := by
  have sent : (p.wanted account user token).sent? = some (p.host, user ++ ":" ++ token) :=
    PullSecret.sent?_secret ..
  constructor
  · rintro ⟨password, some, same⟩
    rw [sent] at same
    have pair := (Prod.mk.inj (Option.some.inj same)).2
    obtain rfl : token = password := by simpa using pair
    exact some
  · exact fun some => ⟨token, some, sent⟩

/-! ## What has been heard of a robot -/

theorem Known.gave (known : p.Known account robot t) :
    ∃ given, p.Gave account given t ∧ robot = p.named account given := by
  rcases known with ⟨front, e, back, rfl, -, response, rfl, status, taken⟩ |
    ⟨front, e, back, rfl, -, response, rfl, status, taken⟩
  · obtain ⟨given, body, rfl⟩ := exists_of_robotOf taken
    exact ⟨given, ⟨_, by simp, .inl ⟨response, rfl, status, body⟩⟩, rfl⟩
  · obtain ⟨given, body, rfl⟩ := exists_of_robotOf taken
    exact ⟨given, ⟨_, by simp, .inr ⟨response, rfl, status, body⟩⟩, rfl⟩

theorem Granted.known (granted : p.Granted account role robot t) : p.Known account robot t := by
  have lasting := known_lasting p account robot
  rcases granted with found | made
  · exact found.first lasting
  · exact (made.first (ungranted_lasting p account role robot)).first lasting

/-- **A pull secret is found wanting** only for a robot that the registry has given. -/
theorem Unsupplied.gave (stale : p.Unsupplied account role robot t) :
    ∃ given, p.Gave account given t ∧ robot = p.named account given :=
  (stale.first (granted_lasting p account role robot)).known.gave

/-! ## A service account without a robot -/

theorem gave_of_robotStep (run : (p.robotStep account).Hears t (.ok robot)) :
    ∃ given, p.Gave account given t := by
  rcases Step.hears_registry_bind_iff.mp run with ⟨e, -, lost⟩ | ⟨found, rest, rfl, onward⟩
  · cases lost
  rcases Step.hears_ite_iff.mp onward with ⟨there, taken⟩ | ⟨-, onward⟩
  · obtain ⟨-, taken⟩ := Step.hears_of_iff.mp taken
    obtain ⟨given, body, -⟩ := exists_of_robotOf taken.symm
    exact ⟨given, _, List.mem_cons_self .., .inl ⟨found, rfl, there, body⟩⟩
  rcases Step.hears_ite_iff.mp onward with ⟨-, onward⟩ | ⟨-, lost⟩
  · rcases Step.hears_registry_bind_iff.mp onward with ⟨e, -, lost⟩ | ⟨made, rest, rfl, ending⟩
    · cases lost
    rcases Step.hears_ite_iff.mp ending with ⟨there, taken⟩ | ⟨-, lost⟩
    · obtain ⟨-, taken⟩ := Step.hears_of_iff.mp taken
      obtain ⟨given, body, -⟩ := exists_of_robotOf taken.symm
      exact ⟨given, _, by simp, .inr ⟨made, rfl, there, body⟩⟩
    · cases (Step.hears_fail_iff.mp lost).2
  · cases (Step.hears_fail_iff.mp lost).2

/-- The registry alone is asked about a robot. -/
theorem robotStep_registry (account : String) :
    (p.robotStep account).Only fun question => ∃ call, question = .registry call := by
  refine .bind (.registry ⟨_, rfl⟩) fun found => .ite (.of _) (.ite ?_ (.fail _))
  exact .bind (.registry ⟨_, rfl⟩) fun made => .ite (.of _) (.fail _)

/-- **Without a robot a service account is given up**, and no pull secret is written for it. -/
theorem lost_of_not_gave {ended : Except Failure Unit}
    (run : (p.roleStep account role).Hears t ended) (none : ∀ given, ¬ p.Gave account given t) :
    (∃ failure, ended = .error failure) ∧
      ∀ secret reply, .cluster (.applySecret secret) reply ∉ t := by
  rcases Step.hears_bind_iff.mp run with ⟨failure, lost, rfl⟩ | ⟨first, rest, robot, rfl, taken, -⟩
  · refine ⟨⟨failure, rfl⟩, fun secret reply mem => ?_⟩
    obtain ⟨call, other⟩ := Program.Only.heard (t := []) (robotStep_registry account) lost _ mem
    cases other
  · obtain ⟨given, e, mem, gave⟩ := gave_of_robotStep taken
    exact absurd ⟨e, List.mem_append_left rest mem, gave⟩ (none given)

end Provisioning

namespace NamespacePass

/-- **The password of a pull secret is the token that the registry answered.** Whatever turns service
accounts take and whatever is answered, a pass writes a pull secret only for a robot that it has been
given for that service account. The secret sends that robot's name and token, so it has a password
exactly when the answer had a token. What is done for a service account without a robot fails, and no
secret is written. -/
theorem passwords_given (n : Namespace) :
    (∀ turns t result, (passBy turns n).Hears t result →
      ∀ front secret reply back, t = front ++ .cluster (.applySecret secret) reply :: back →
        ∃ i host account role given name, (account, role) ∈ roles ∧ Connected i front ∧
          (provisioning n i host).Gave account given front ∧
          name = (if given.name = "" then robotName (provisioning n i host).organization account
            else given.name) ∧
          secret = (provisioning n i host).wanted account name given.token ∧
          ((∃ token, token ≠ "" ∧ secret.sent? = some (host, name ++ ":" ++ token)) ↔
            given.token ≠ "")) ∧
      ∀ (p : Provisioning) account role t ended, (p.roleStep account role).Hears t ended →
        (∀ given, ¬ p.Gave account given t) →
          (∃ failure, ended = .error failure) ∧
            ∀ secret reply, .cluster (.applySecret secret) reply ∉ t := by
  refine ⟨?_, fun p account role t ended run => Provisioning.lost_of_not_gave run⟩
  rintro turns _ result run front secret reply back rfl
  have asked := (passBy_heeds turns n).asked_of_hears run
  rw [List.nil_append] at asked
  cases asked with
  | opening first => cases first
  | @provision i host _ _ connected managed warranted =>
    cases warranted with | @role _ account role _ mem warranted =>
    cases warranted with | @applySecret _ robot stale =>
    obtain ⟨given, gave, rfl⟩ := stale.gave
    refine ⟨i, host, account, role, given, _, mem, connected, gave, rfl, ?_, ?_⟩
    · rw [Provisioning.named_name, Provisioning.named_token]
    · rw [← Provisioning.named_name, Provisioning.named_token]
      exact Provisioning.exists_password_iff

/-! ## A robot with a token, and one without -/

/-- A pull secret of the namespace's builder. -/
def builderSecret (token : String) : Secret :=
  (provisioning shop acme "[::1]").wanted "builder" "acme_shop+builder" token

/-- What is heard of a robot that is found without a body. -/
def bodiless : Transcript Bridge :=
  [.registry (.getRobot "acme_shop" "builder") (.ok { status := 200, body := none })]

theorem begun_passwords_given :
    ((passBy .inOrder shop).Hears (heardIn begun).2.2 (heardIn begun).1 ∧
      ∃ front reply back, (heardIn begun).2.2 =
          front ++ .cluster (.applySecret (builderSecret "b")) reply :: back ∧
        ∃ i host account role given name, (account, role) ∈ roles ∧ Connected i front ∧
          (provisioning shop i host).Gave account given front ∧
          name = (if given.name = "" then
            robotName (provisioning shop i host).organization account else given.name) ∧
          builderSecret "b" = (provisioning shop i host).wanted account name given.token ∧
          ((∃ token, token ≠ "" ∧
            (builderSecret "b").sent? = some (host, name ++ ":" ++ token)) ↔ given.token ≠ "")) ∧
      ∃ ended, ((provisioning shop acme "[::1]").roleStep "builder" .write).Hears bodiless ended ∧
        ∃ failure, ended = .error failure := by
  have run : (passBy .inOrder shop).Hears (heardIn begun).2.2 (heardIn begun).1 := by
    rw [passBy_inOrder]
    exact Program.hears_recording (I := Bridge) World.answer (pass shop) begun
  have written : .cluster (.applySecret (builderSecret "b")) (.ok ()) ∈ (heardIn begun).2.2 := by
    decide +kernel
  obtain ⟨front, back, split⟩ := List.append_of_mem written
  obtain ⟨failure, lost⟩ : ∃ failure,
      ((provisioning shop acme "[::1]").roleStep "builder" .write).Hears bodiless
        (.error failure) :=
    ⟨_, Step.hears_bind_iff.mpr (.inl ⟨_, Step.hears_registry_bind_iff.mpr (.inr ⟨_, [], rfl,
      Step.hears_ite_iff.mpr (.inl ⟨rfl, Step.hears_of_iff.mpr ⟨rfl, rfl⟩⟩)⟩), rfl⟩)⟩
  have silent : ∀ given, ¬ (provisioning shop acme "[::1]").Gave "builder" given bodiless := by
    rintro given ⟨e, mem, ⟨response, rfl, -, body⟩ | ⟨response, rfl, -⟩⟩
    · cases List.mem_singleton.mp mem
      cases body
    · cases List.mem_singleton.mp mem
  exact ⟨⟨run, front, .ok (), back, split, (passwords_given shop).1 _ _ _ run _ _ _ _ split⟩,
    _, lost, ((passwords_given shop).2 _ _ _ _ _ lost silent).1⟩

/-- The robot as a body describes it that has a name and nothing else. -/
def tokenless : Registry.Robot :=
  { name := "acme_shop+builder" }

/-- The world in which all is as it should be, but the registry does not tell the token. -/
def untold : World :=
  { begun with
    cluster := { begun.cluster with
      secrets := Table.ofList [
        (qualified "bridge" "credentials", credentialsOf "t\n"),
        (qualified "shop" "builder-quay-acme", builderSecret "b")] }
    registry := { begun.registry with robots := [("acme_shop+builder", tokenless)] } }

/-- **A pull secret loses its password**: the pass succeeds, and the secret that let in before is
overwritten with a name and a colon. -/
theorem password_lost :
    Registry.Robot.ofJson (.object [("name", .text "acme_shop+builder")]) = .ok tokenless ∧
      (passBy .inOrder shop).Hears (heardIn untold).2.2 (.ok (.requeue 600000)) ∧
      .registry (.getRobot "acme_shop" "builder") (.ok { status := 200, body := some tokenless }) ∈
        (heardIn untold).2.2 ∧
      .cluster (.getSecret "shop" "builder-quay-acme") (.ok (some (builderSecret "b"))) ∈
        (heardIn untold).2.2 ∧
      .cluster (.applySecret (builderSecret "")) (.ok ()) ∈ (heardIn untold).2.2 ∧
      (builderSecret "b").sent? = some ("[::1]", "acme_shop+builder:b") ∧
      (builderSecret "").sent? = some ("[::1]", "acme_shop+builder:") := by
  have run : (passBy .inOrder shop).Hears (heardIn untold).2.2 (heardIn untold).1 := by
    rw [passBy_inOrder]
    exact Program.hears_recording (I := Bridge) World.answer (pass shop) untold
  -- One evaluation of the run serves for all that is read off it.
  obtain ⟨ended, told, read, written⟩ :
      (heardIn untold).1 = .ok (.requeue 600000) ∧
        .registry (.getRobot "acme_shop" "builder")
          (.ok { status := 200, body := some tokenless }) ∈ (heardIn untold).2.2 ∧
        .cluster (.getSecret "shop" "builder-quay-acme") (.ok (some (builderSecret "b"))) ∈
          (heardIn untold).2.2 ∧
        .cluster (.applySecret (builderSecret "")) (.ok ()) ∈ (heardIn untold).2.2 := by
    decide +kernel
  rw [ended] at run
  exact ⟨by rfl, run, told, read, written, PullSecret.sent?_secret .., PullSecret.sent?_secret ..⟩

end NamespacePass

end RegistryBridge
