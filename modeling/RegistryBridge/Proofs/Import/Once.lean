import RegistryBridge.Proofs.Import.Course
/-!
# How often a build is imported

The import of an image and the mark on its build are two writes, and nothing holds them together.
When the cluster accepts the import and refuses the mark, the pass fails, is tried again, and imports
the image once more. A build is imported as often as its mark is refused, and once more when it is
marked at last.

## Main definitions

* `World.refusing`: a world whose calls may fail without effect.
* `BuildPass.Stores`: a build that is stored under its own key.

## Main results

* `BuildPass.Course.counted`: what every pass keeps of the count.
* `BuildPass.imported_at_most_once_iff`
* `BuildPass.cart_imported_twice`: a build that is imported twice.
-/

namespace RegistryBridge

/-- **A world whose calls may fail without effect**, and that others edit while a pass goes on. -/
def World.refusing (edit : World → World → Prop) : Conduct Bridge World where
  allows question w reply after :=
    ∃ middle, Relation.ReflTransGen edit w middle ∧
      (middle.Honest question reply after ∨ question.Fails reply ∧ after = middle)
  answers question w := ⟨_, _, w, .refl, .inl (w.honest_answer question)⟩

namespace BuildPass

open Transcript (imports marks refusals)

/-- **A build is stored under its own key**, where annotations can be set. -/
def Stores (key : String) (w : World) (b : Build) : Prop :=
  ∃ document metadata, w.cluster.builds.get? key = some document ∧
    document.Noteable metadata ∧ Build.ofJson document = .ok b ∧ b.metadata.key = key

/-- Others edit the build otherwise than by the mark of an import. -/
def Edits (key : String) (w after : World) : Prop :=
  (∃ b, Stores key after b) ∧ after.imported key = w.imported key

variable {b stored : Build} {key : String} {first w after : World} {t more : Transcript Bridge}
  {result : Except Failure Action}

namespace Stores

theorem build? (h : Stores key w b) : w.build? key = some b := by
  obtain ⟨document, metadata, there, -, read, -⟩ := h
  rw [World.build?, there, Option.bind_some, read]
  rfl

theorem imported (h : Stores key w b) : w.imported key = b.metadata.noted Marks.imported := by
  rw [World.imported, h.build?]
  rfl

theorem congr (same : after.cluster.builds = w.cluster.builds) (h : Stores key w b) :
    Stores key after b := by
  rw [Stores, same]
  exact h

/-- **The mark on a build is set**, and the build is otherwise as it was. -/
theorem mark (h : Stores key w stored) (own : b.metadata.key = key) :
    ∃ next, Stores key { w with cluster := (w.cluster.answer (markCall b)).2 } next ∧
      next.metadata.noted Marks.imported = true := by
  obtain ⟨document, metadata, there, noteable, read, named⟩ := h
  obtain ⟨table, next, hget⟩ := Build.ofJson_noteDocument noteable read Marks.imported Marks.on
  refine ⟨_, ⟨_, _, ?_, noteable.note Marks.imported Marks.on, next, named⟩, ?_⟩
  · have found : w.cluster.builds.get?
        (qualified (b.metadata.ns.getD "") b.metadata.displayName) = some document :=
      (congrArg w.cluster.builds.get? own).trans there
    simp only [markCall, ClusterStore.answer, ClusterStore.noted, found]
    rw [← own]
    exact Table.get?_insert_self _ _ _
  · simp [Metadata.noted, Metadata.note?, hget]

end Stores

/-! ## During a pass -/

/-- **What is known during a pass** that began in some world: the build is stored, and it is marked
as imported when it was then or a mark has been made since. -/
def Tracked (key : String) (w : World) (s : World × Transcript Bridge) : Prop :=
  (∃ b, Stores key s.1 b) ∧ (s.1.imported key = true ↔ w.imported key = true ∨ 0 < marks s.2)

theorem Tracked.congr (same : after.cluster.builds = first.cluster.builds)
    (unmarked : marks more = 0) (h : Tracked key w (first, t)) :
    Tracked key w (after, t ++ more) := by
  obtain ⟨⟨b, stored⟩, imported⟩ := h
  refine ⟨⟨b, stored.congr same⟩, ?_⟩
  dsimp only at imported ⊢
  rw [World.imported_congr same, imported, Transcript.marks_append, unmarked, Nat.add_zero]

/-- What is known is kept by every exchange of a pass over that build. -/
theorem Tracked.keep {question : Question} {reply : question.Answer}
    {s last : World × Transcript Bridge} (own : b.metadata.key = key)
    (kind : question.marks = true → question = .cluster (markCall b))
    (allowed : (World.refusing (Edits key)).recorded.allows question s reply last)
    (h : Tracked key w s) : Tracked key w last := by
  obtain ⟨w', t⟩ := s
  obtain ⟨after, _⟩ := last
  obtain ⟨⟨middle, edited, answered⟩, rfl⟩ := allowed
  have between : Tracked key w (middle, t) := by
    clear answered
    induction edited with
    | refl => exact h
    | tail _ edit ih => exact ⟨edit.1, by rw [edit.2]; exact ih.2⟩
  cases marks : question.marks with
  | false =>
    refine between.congr ?_ (by simp [Transcript.marks, marks])
    rcases answered with honest | ⟨-, rfl⟩
    · exact World.builds_of_honest honest marks
    · rfl
  | true =>
    obtain rfl := kind marks
    rcases answered with ⟨rfl, rfl⟩ | ⟨⟨e, rfl⟩, rfl⟩
    · obtain ⟨⟨stored, there⟩, -⟩ := between
      obtain ⟨next, stores, noted⟩ := there.mark own
      refine ⟨⟨next, stores⟩, iff_of_true (stores.imported.trans noted) (.inr ?_)⟩
      rw [Transcript.marks_append]
      exact Nat.lt_add_left _ Nat.one_pos
    · exact between.congr rfl rfl

/-- **What is known after a pass** over the build as it was stored. -/
theorem tracked (stores : Stores key w b)
    (run : (pass b).Ends (World.refusing (Edits key)).recorded (w, []) result (after, more)) :
    Tracked key w (after, more) := by
  have only : (pass b).Only fun question : Question =>
      question.marks = true → question = .cluster (markCall b) :=
    Program.Always.only_script ((pass_story b).mono
      (fun _ _ imported marks => (imported marks).1) fun _ _ => id)
  have own : b.metadata.key = key := stores.choose_spec.choose_spec.2.2.2
  have start : Tracked key w (w, []) := ⟨⟨b, stores⟩, by simp [marks]⟩
  exact (only.always (fun _ _ _ _ kind allowed => Tracked.keep own kind allowed) start).of_ends run

/-! ## Over all passes -/

/-- **The count**: every import that was accepted has led to a mark that was refused, or to the one
that stands; and a build that was marked at first is never imported. -/
structure Counted (key : String) (first w : World) (t : Transcript Bridge) : Prop where
  stores : ∃ b, Stores key w b
  balance : imports t + (first.imported key).toNat = refusals t + (w.imported key).toNat
  marked : first.imported key = true → w.imported key = true ∧ imports t = 0

theorem Counted.trans (h : Counted key first w t) (h' : Counted key w after more) :
    Counted key first after (t ++ more) := by
  obtain ⟨-, balance, marked⟩ := h
  obtain ⟨stores, balance', marked'⟩ := h'
  refine ⟨stores, ?_, fun imported => ?_⟩
  · rw [Transcript.imports_append, Transcript.refusals_append]
    omega
  · obtain ⟨there, none⟩ := marked imported
    obtain ⟨there', none'⟩ := marked' there
    exact ⟨there', by rw [Transcript.imports_append, none, none']⟩

/-- **One pass keeps the count.** -/
theorem Stores.counted (stores : Stores key w b)
    (run : (pass b).Ends (World.refusing (Edits key)).recorded (w, []) result (after, more)) :
    Counted key w after more := by
  obtain ⟨there, imported⟩ := tracked stores run
  obtain ⟨told, story, rfl⟩ := exists_story run
  dsimp only at imported
  cases marked : w.imported key with
  | true =>
    have phase : BuildPhase.of b ≠ .ready := by
      rw [stores.imported] at marked
      unfold BuildPhase.of
      rw [marked]
      split <;> nofun
    have stays : after.imported key = true := imported.mpr (.inl marked)
    rw [(story.accounted.idle phase).1]
    exact ⟨there, by rw [marked, stays]; rfl, fun _ => ⟨stays, rfl⟩⟩
  | false =>
    obtain ⟨balance, once⟩ := story.tally
    rw [marked] at imported
    refine ⟨there, ?_, fun before => absurd (marked.symm.trans before) nofun⟩
    rw [marked]
    cases now : after.imported key with
    | true =>
      have made : 0 < marks (reported told result) := (imported.mp now).resolve_left nofun
      simp only [Bool.toNat_false, Bool.toNat_true]
      omega
    | false =>
      have unmade : marks (reported told result) = 0 := by
        refine Nat.eq_zero_of_not_pos fun made => ?_
        rw [imported.mpr (.inr made)] at now
        cases now
      rw [balance, unmade]
      rfl

/-- **All passes keep the count.** -/
theorem Course.counted (course : Course (World.refusing (Edits key)) (Edits key) key first w t)
    (stores : Stores key first b) : Counted key first w t := by
  induction course with
  | start => exact ⟨⟨b, stores⟩, rfl, fun marked => ⟨marked, rfl⟩⟩
  | edit _ edited ih =>
    obtain ⟨there, same⟩ := edited
    refine ⟨there, ?_, ?_⟩
    · rw [same]
      exact ih.balance
    · rw [same]
      exact ih.marked
  | pass _ read run ih =>
    obtain ⟨b', there⟩ := ih.stores
    obtain rfl := Option.some.inj (there.build?.symm.trans read)
    exact ih.trans (there.counted run)

/-- **When a build is imported at most once.** After any run of passes over the stored build, in
which calls have failed without effect and others have edited all but the mark, the imports that were
accepted are as many as the marks that were refused, and one more once the build is marked. So there
is at most one exactly when no mark was refused, or one was and the build is still unmarked. -/
theorem imported_at_most_once_iff (stores : Stores key first b)
    (course : Course (World.refusing (Edits key)) (Edits key) key first w t) :
    imports t + (first.imported key).toNat = refusals t + (w.imported key).toNat ∧
      (imports t ≤ 1 ↔ refusals t = 0 ∨ refusals t = 1 ∧ w.imported key = false) := by
  obtain ⟨-, balance, marked⟩ := course.counted stores
  refine ⟨balance, ?_⟩
  cases before : first.imported key with
  | true =>
    obtain ⟨now, none⟩ := marked before
    rw [before, now, none] at balance
    rw [none]
    exact iff_of_true (Nat.zero_le 1) (.inl (by omega))
  | false =>
    rw [before] at balance
    cases now : w.imported key <;> rw [now] at balance <;>
      simp only [Bool.toNat_false, Bool.toNat_true] at balance <;> simp <;> omega

/-! ## A build whose mark is refused -/

section Cart

/-- A world in which no build can be marked, since others are faster. -/
def contended (question : Question) (w : World) : question.Answer × World :=
  match question with
  | .cluster (.noteBuild ..) =>
    ((.error (.api ⟨"Failure", "the object has been modified", "Conflict", 409⟩) :
      Except OperationError Unit), w)
  | other => w.answer other

theorem cart_stored : Stores "shop/app-1" waiting cartBuild := by
  refine ⟨cart, _, rfl, ⟨?_, rfl, rfl, ?_, ?_⟩, rfl, rfl⟩
  · show List.Nodup ["metadata", "spec", "status"]
    decide
  · show List.Nodup ["annotations", "name", "namespace"]
    decide
  · show List.Nodup [Marks.destination, Marks.managed]
    decide

variable {edit : World → World → Prop}

theorem refusing_answer (question : Question) (w : World) :
    (World.refusing edit).allows question w (w.answer question).1 (w.answer question).2 :=
  ⟨w, .refl, .inl (w.honest_answer question)⟩

theorem refusing_contended (question : Question) (w : World) :
    (World.refusing edit).allows question w (contended question w).1 (contended question w).2 := by
  unfold contended
  split
  · exact ⟨w, .refl, .inr ⟨⟨_, rfl⟩, rfl⟩⟩
  · exact refusing_answer _ w

/-- Where the mark is not refused, the build is imported once. -/
theorem cart_imported_once :
    ∃ w t, Course (World.refusing (Edits "shop/app-1")) (Edits "shop/app-1") "shop/app-1" waiting
        w t ∧ imports t ≤ 1 := by
  have unbegun : Course (World.refusing (Edits "shop/app-1")) (Edits "shop/app-1") "shop/app-1"
      waiting waiting [] := .start
  have course := unbegun.passedOver cart_waits refusing_answer
  refine ⟨_, _, course, (imported_at_most_once_iff cart_stored course).2.mpr (.inl ?_)⟩
  decide +kernel

/-- **A build that is imported twice.** The first pass imports the image and fails at the mark; it is
tried again after five seconds, over the build as it is stored, and imports the image once more. -/
theorem cart_imported_twice :
    ((pass cartBuild).run contended waiting).1.mapError Failure.action = .error (.requeue 5000) ∧
      ∃ w t, Course (World.refusing (Edits "shop/app-1")) (Edits "shop/app-1") "shop/app-1" waiting
          w t ∧ imports t = 2 := by
  have unbegun : Course (World.refusing (Edits "shop/app-1")) (Edits "shop/app-1") "shop/app-1"
      waiting waiting [] := .start
  have failed := unbegun.passedOver cart_waits refusing_contended
  have read : (passedOver contended cartBuild waiting).1.build? "shop/app-1" = some cartBuild := by
    decide +kernel
  refine ⟨?_, _, _, failed.passedOver read refusing_answer, ?_⟩
  · rfl
  · decide +kernel

end Cart

end BuildPass

end RegistryBridge
