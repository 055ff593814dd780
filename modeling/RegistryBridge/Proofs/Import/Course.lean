import RegistryBridge.Proofs.Cluster.BuildDocument
import RegistryBridge.Proofs.Import.Agreement
import RegistryBridge.Proofs.Import.Story
/-!
# Pass after pass over a build

A build is passed over again and again, each time as it is stored then, while others edit the world.
That its image has been imported is written down only by the bridge, and only after the cluster has
accepted the import: an import that is still to be done is never taken for done.

## Main definitions

* `World.build?`, `World.imported`: the build under a key, and whether it is marked as imported.
* `Transcript.imports`, `Transcript.refusals`: the imports that were accepted, the marks that were
  refused.
* `BuildPass.Course`: what any run of passes and edits leads to.

## Main results

* `BuildPass.Story.tally`: a pass imports at most once, and then tries to mark the build.
* `BuildPass.no_import_taken_for_done`
-/

namespace RegistryBridge

/-! ## Counting -/

/-- Whether an image is to be imported. -/
def Question.imports : Question → Bool
  | cluster (.createImport _) => true
  | _ => false

/-- Whether the cluster has answered with an error. -/
def Exchange.refused : Exchange Bridge → Bool
  | ⟨.cluster call, reply⟩ =>
    match (reply : Except OperationError call.Value) with
    | .ok _ => false
    | .error _ => true
  | _ => false

namespace Transcript

/-- **The imports that were accepted.** -/
def imports (t : Transcript Bridge) : Nat :=
  t.countP fun e => e.query.imports && !e.refused

/-- The marks that were made. -/
def marks (t : Transcript Bridge) : Nat :=
  t.countP fun e => e.query.marks && !e.refused

/-- **The marks that were refused.** -/
def refusals (t : Transcript Bridge) : Nat :=
  t.countP fun e => e.query.marks && e.refused

variable {t more : Transcript Bridge}

@[simp] theorem imports_append : imports (t ++ more) = imports t + imports more :=
  List.countP_append

@[simp] theorem marks_append : marks (t ++ more) = marks t + marks more :=
  List.countP_append

@[simp] theorem refusals_append : refusals (t ++ more) = refusals t + refusals more :=
  List.countP_append

/-- A mark was made or refused. -/
theorem exists_marks_iff :
    (∃ e ∈ t, e.query.marks = true) ↔ 0 < refusals t + marks t := by
  have split : List.countP (fun e : Exchange Bridge => e.query.marks) t = refusals t + marks t := by
    rw [List.countP_eq_countP_filter_add _ _ Exchange.refused, List.countP_filter,
      List.countP_filter]
    rfl
  rw [← split, List.countP_pos_iff]

end Transcript

namespace BuildPass

open Transcript (imports marks refusals)

variable {b : Build} {d : Destination} {image : String} {t : Transcript Bridge}
  {result : Except Failure Action}

theorem ImportStory.tally (story : ImportStory b d image t result) :
    imports t = refusals t + marks t ∧ imports t ≤ 1 := by
  cases story with
  | unlisted | unsettled | unread | missing | refused => exact ⟨rfl, Nat.zero_le 1⟩
  | unmarked | imported => exact ⟨rfl, Nat.le_refl 1⟩

/-- **A pass imports at most once, and then tries to mark the build**, whether or not it reports a
failure at the end. -/
theorem Story.tally (story : Story b t result) :
    imports (reported t result) = refusals (reported t result) + marks (reported t result) ∧
      imports (reported t result) ≤ 1 := by
  have told : imports t = refusals t + marks t ∧ imports t ≤ 1 := by
    cases story with
    | asleep | aimless | misdirected | imageless => exact ⟨rfl, Nat.zero_le 1⟩
    | importing _ story => exact story.tally
  cases result with
  | ok action => exact told
  | error failure =>
    simp only [reported, Transcript.imports_append, Transcript.marks_append,
      Transcript.refusals_append]
    exact told

end BuildPass

/-! ## What an exchange does to the build -/

namespace World

/-- The build that is stored under a key. -/
def build? (w : World) (key : String) : Option Build :=
  (w.cluster.builds.get? key).bind fun document => (Build.ofJson document).toOption

/-- **Whether the build under a key is marked as imported.** -/
def imported (w : World) (key : String) : Bool :=
  (w.build? key).any fun b => b.metadata.noted Marks.imported

variable {w after : World} {key : String} {question : Question} {reply : question.Answer}

theorem builds_of_honest (honest : w.Honest question reply after)
    (unmarked : question.marks = false) : after.cluster.builds = w.cluster.builds := by
  cases question with
  | cluster call =>
    obtain ⟨-, rfl⟩ := honest
    cases call with
    | holdFinalizer name finalizer =>
      simp only [ClusterStore.answer, ClusterStore.held]
      split <;> rfl
    | releaseFinalizer name finalizer =>
      simp only [ClusterStore.answer, ClusterStore.released]
      split <;> rfl
    | noteBuild => cases unmarked
    | _ => rfl
  | connect =>
    obtain ⟨-, rfl⟩ := honest
    rfl
  | registry call =>
    obtain ⟨_, _, -, -, rfl⟩ := honest
    rfl
  | publish event =>
    obtain rfl := honest
    rfl

theorem build?_congr (same : after.cluster.builds = w.cluster.builds) (key : String) :
    after.build? key = w.build? key := by
  rw [build?, build?, same]

theorem imported_congr (same : after.cluster.builds = w.cluster.builds) (key : String) :
    after.imported key = w.imported key := by
  rw [imported, imported, build?_congr same]

end World

namespace BuildPass

open Transcript (imports marks refusals)

variable {b : Build} {key : String} {first w after : World} {t more : Transcript Bridge}
  {result : Except Failure Action}

/-- **What any run leads to**, with all that was asked and answered in it: others edit the world, or
a pass goes over the build as it is stored, and ends in any way in which it may. -/
inductive Course (c : Conduct Bridge World) (edit : World → World → Prop) (key : String)
    (first : World) : World → Transcript Bridge → Prop
  | start : Course c edit key first first []
  | edit {w after : World} {t : Transcript Bridge} (before : Course c edit key first w t)
    (edited : edit w after) : Course c edit key first after t
  | pass {w after : World} {t more : Transcript Bridge} {b : Build}
    {result : Except Failure Action} (before : Course c edit key first w t)
    (stored : w.build? key = some b)
    (run : (pass b).Ends c.recorded (w, []) result (after, more)) :
    Course c edit key first after (t ++ more)

/-- The world after a pass in a system that has one answer to a question, with all that was asked and
answered. -/
def passedOver (answer : (question : Question) → World → question.Answer × World) (b : Build)
    (w : World) : World × Transcript Bridge :=
  ((pass b).run (Program.recording (I := Bridge) answer) (w, [])).2

theorem Course.passedOver {c : Conduct Bridge World} {edit : World → World → Prop}
    {answer : (question : Question) → World → question.Answer × World}
    (before : Course c edit key first w t) (stored : w.build? key = some b)
    (allowed : ∀ question w, c.allows question w (answer question w).1 (answer question w).2) :
    Course c edit key first (passedOver answer b w).1 (t ++ (passedOver answer b w).2) :=
  .pass before stored (Program.ends_recording allowed (BuildPass.pass b) w [])

/-- A pass that has come to an end has a story. -/
theorem exists_story {c : Conduct Bridge World}
    (run : (pass b).Ends c.recorded (w, []) result (after, more)) :
    ∃ told, Story b told result ∧ more = reported told result :=
  ((pass_story b).recorded c w).of_ends run

/-- Others do not mark the build as imported. -/
def Unmarking (key : String) (w after : World) : Prop :=
  after.imported key = true → w.imported key = true

/-- A build that is marked now was marked before, or the pass has tried to mark it. -/
def MarkedFrom (key : String) (w : World) (s : World × Transcript Bridge) : Prop :=
  s.1.imported key = true → w.imported key = true ∨ ∃ e ∈ s.2, e.query.marks = true

/-- A pass has tried to mark a build that it leaves marked, if it was not marked before. -/
theorem markedFrom_of_ends
    (run : (pass b).Ends (World.disturbed (Unmarking key)).recorded (w, []) result (after, more)) :
    MarkedFrom key w (after, more) := by
  refine run.keep ?_ .inl
  rintro question ⟨w', t'⟩ reply ⟨after', _⟩ ⟨allowed, rfl⟩ kept
  cases marks : question.marks with
  | true => exact fun _ => .inr ⟨_, List.mem_append_right _ (.head _), marks⟩
  | false =>
    have unmarking : Unmarking key w' after' :=
      World.keep_of_disturbed allowed (fun _ _ edited kept there => kept (edited there))
        (fun _ _ _ honest kept there =>
          kept (World.imported_congr (World.builds_of_honest honest marks) key ▸ there)) id
    intro there
    refine (kept (unmarking there)).imp_right fun ⟨e, mem, marked⟩ => ?_
    exact ⟨e, List.mem_append_left _ mem, marked⟩

/-- **A build is marked as imported only when an import of it has been accepted.** -/
theorem Course.imports_pos (course : Course (World.disturbed (Unmarking key)) (Unmarking key) key
    first w t) (fresh : first.imported key = false) (imported : w.imported key = true) :
    0 < imports t := by
  induction course with
  | start => rw [fresh] at imported; cases imported
  | edit _ edited ih => exact ih (edited imported)
  | pass _ _ run ih =>
    rw [Transcript.imports_append]
    rcases markedFrom_of_ends run imported with before | marked
    · exact Nat.add_pos_left (ih before) _
    · obtain ⟨told, story, rfl⟩ := exists_story run
      rw [story.tally.1]
      exact Nat.add_pos_right _ (Transcript.exists_marks_iff.mp marked)

/-- **No import is taken for done.** Whatever a pass is answered, it marks the build only once it has
had an import accepted in that same pass. It fails exactly when it was kept from importing or a write
was refused, and when it was kept from importing it has written nothing. Over a build that is not
ready it asks nothing. After any run of passes, with faults and while others edit, a build that is
marked has had an import accepted; until then it is ready as soon as it is complete. -/
theorem no_import_taken_for_done (fresh : first.imported key = false)
    (course : Course (World.disturbed (Unmarking key)) (Unmarking key) key first w t) :
    (∀ b, (pass b).Always (.script Bridge) (MarksImported b)
        (fun result t => Accounted b t result) []) ∧
      (w.imported key = true → 0 < imports t) ∧
      ∀ b, w.build? key = some b → b.metadata.noted Marks.managed = true →
        b.complete = true → imports t = 0 → BuildPhase.of b = .ready := by
  refine ⟨fun b => ?_, course.imports_pos fresh, fun b stored managed complete none => ?_⟩
  · refine (pass_story b).mono (fun _ _ => id) ?_
    rintro result t ⟨told, story, rfl⟩
    exact story.accounted
  · have unmarked : b.metadata.noted Marks.imported = false := by
      refine Bool.eq_false_iff.mpr fun marked => ?_
      have imported : w.imported key = true := by
        rw [World.imported, stored]
        exact marked
      exact Nat.ne_of_gt (course.imports_pos fresh imported) none
    simp [BuildPhase.of, managed, complete, unmarked]

/-! ## A build that waits for its import -/

section Cart

open NamespacePass (acme)
open Redirect (tillStream)

/-- A build that has been redirected and is complete. -/
def cart : Json :=
  .object [
    ("metadata", .object [
      ("annotations", .object [
        (Marks.destination, .text "till/cart:latest"), (Marks.managed, .text Marks.on)]),
      ("name", .text "app-1"), ("namespace", .text "shop")]),
    ("spec", .object [
      ("output", .object [
        ("to", .object [
          ("kind", .text "DockerImage"), ("name", .text "[::1]/acme_till/cart:latest")])]),
      ("strategy", .object [("type", .text "Docker")])]),
    ("status", .object [("phase", .text "Complete")])]

/-- The build, stored where its image stream is. -/
def waiting : World :=
  { cluster :=
      { integrations := [acme]
        imageStreams := [tillStream]
        builds := [("shop/app-1", cart)] } }

/-- The build as it is read. -/
def cartBuild : Build :=
  { metadata :=
      { name := some "app-1"
        ns := some "shop"
        annotations := some
          [(Marks.destination, "till/cart:latest"), (Marks.managed, Marks.on)] }
    spec :=
      { strategy := { kind := some "Docker" }
        output :=
          { target := some { kind := "DockerImage", name := "[::1]/acme_till/cart:latest" } } }
    status := some ⟨some "Complete"⟩ }

theorem cart_waits : waiting.build? "shop/app-1" = some cartBuild := by decide +kernel

/-- The build is marked, and its import has been accepted. -/
theorem cart_imported :
    ∃ w t, Course (World.disturbed (Unmarking "shop/app-1")) (Unmarking "shop/app-1") "shop/app-1"
        waiting w t ∧ w.imported "shop/app-1" = true ∧ 0 < imports t := by
  have honest : ∀ question w, (World.disturbed (Unmarking "shop/app-1")).allows question w
      (World.answer question w).1 (World.answer question w).2 :=
    fun question w => ⟨w, .refl, .inl (w.honest_answer question)⟩
  have unbegun : Course (World.disturbed (Unmarking "shop/app-1")) (Unmarking "shop/app-1")
      "shop/app-1" waiting waiting [] := .start
  have course := unbegun.passedOver cart_waits honest
  have imported : (passedOver World.answer cartBuild waiting).1.imported "shop/app-1" = true := by
    decide +kernel
  have fresh : waiting.imported "shop/app-1" = false := by decide +kernel
  exact ⟨_, _, course, imported, (no_import_taken_for_done fresh course).2.1 imported⟩

end Cart

end BuildPass

end RegistryBridge
