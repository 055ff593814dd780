import Mathlib.Tactic.Choose
import RegistryBridge.Proofs.Program.Transcript
/-!
# Programs that take turns

Programs that run at the same time ask in turn, and each goes on with what it is answered itself.
Whose turn it is may depend on all that has been heard, so that several programs can be woven into
one in many ways. What each of them does whatever it is answered, it does in all of these.

## Main definitions

* `Program.Weaves`: one program woven of several.

## Main results

* `Program.Weaves.always`: each program has its own part of the transcript, where it does what it
  does alone.
* `Program.exists_weaves`: there is a way to weave.
-/

namespace RegistryBridge.Program

variable {I : Interface} {ι α : Type} [DecidableEq ι]

/-- **One program woven of several.** It asks what one of them asks next, and that one goes on with
the answer; it is done when all of them are. -/
inductive Weaves : (ι → Program I α) → Program I (ι → α) → Prop
  | done (values : ι → α) : Weaves (fun i => .done (values i)) (.done values)
  | ask {programs : ι → Program I α} {i : ι} {query : I.Query}
    {next : I.Reply query → Program I α} {rest : I.Reply query → Program I (ι → α)}
    (turn : programs i = .ask query next)
    (goes : ∀ reply, Weaves (Function.update programs i (next reply)) (rest reply)) :
    Weaves programs (.ask query rest)

section Always

variable [∀ query, Nonempty (I.Reply query)] {asked : I.Query → Transcript I → Prop}
  {ends : ι → α → Transcript I → Prop} {programs : ι → Program I α}
  {woven : Program I (ι → α)} {t : Transcript I}

/-- **Each program has its own part of the transcript**, where it does what it does alone. What it
may ask there it may ask here, if hearing more does not forbid it. -/
theorem Weaves.always_views (h : Weaves programs woven)
    (more : ∀ query t t', List.Sublist t t' → asked query t → asked query t')
    (view : ι → Transcript I) (part : ∀ i, List.Sublist (view i) t)
    (own : ∀ i, (programs i).Always (.script I) asked (ends i) (view i))
    (whole : ∀ e ∈ t, ∃ i, e ∈ view i) :
    woven.Always (.script I) asked (fun values after => ∃ view : ι → Transcript I,
      (∀ i, ends i (values i) (view i)) ∧ ∀ e ∈ after, ∃ i, e ∈ view i) t := by
  induction h generalizing t view with
  | done values => exact ⟨view, own, whole⟩
  | @ask programs i query next rest turn goes ih =>
    have mine := own i
    rw [turn] at mine
    refine ⟨more query _ _ (part i) mine.1, ?_⟩
    rintro reply _ rfl
    -- The part of the one whose turn it is grows by the exchange; the others keep theirs.
    refine ih reply (Function.update view i (view i ++ [⟨query, reply⟩])) ?parts ?alone ?heard
    case parts =>
      exact (Function.forall_update_iff view fun _ part => part.Sublist (t ++ [⟨query, reply⟩])).mpr
        ⟨(part i).append_right _, fun j _ => (part j).trans (List.sublist_append_left t _)⟩
    case alone =>
      intro j
      by_cases same : j = i
      · subst same
        simpa using mine.2 reply _ rfl
      · simpa [same] using own j
    case heard =>
      intro e mem
      rcases List.mem_append.mp mem with earlier | now
      · obtain ⟨j, heard⟩ := whole e earlier
        refine ⟨j, ?_⟩
        by_cases same : j = i
        · subst same
          simp [heard]
        · simpa [same] using heard
      · exact ⟨i, by simpa using Or.inr (List.mem_singleton.mp now)⟩

/-- **What programs do whatever they are answered**, they do when they take turns. -/
theorem Weaves.always [Nonempty ι] (h : Weaves programs woven)
    (more : ∀ query t t', List.Sublist t t' → asked query t → asked query t')
    (own : ∀ i, (programs i).Always (.script I) asked (ends i) t) :
    woven.Always (.script I) asked (fun values after => ∃ view : ι → Transcript I,
      (∀ i, ends i (values i) (view i)) ∧ ∀ e ∈ after, ∃ i, e ∈ view i) t :=
  h.always_views more (fun _ => t) (fun _ => .refl t) own
    fun _ mem => ⟨Classical.arbitrary ι, mem⟩

end Always

/-- **There is a way to weave** programs of which all but those of a list are done. -/
theorem exists_weaves (l : List ι) (programs : ι → Program I α)
    (rest : ∀ i, i ∉ l → ∃ value, programs i = .done value) : ∃ woven, Weaves programs woven := by
  induction l generalizing programs with
  | nil =>
    choose values ended using fun i => rest i List.not_mem_nil
    obtain rfl : programs = fun i => .done (values i) := funext ended
    exact ⟨_, .done values⟩
  | cons i l ih =>
    -- The first of the list is taken to its end before the others have their turn.
    generalize here : programs i = p
    induction p generalizing programs with
    | done value =>
      refine ih programs fun j absent => ?_
      by_cases same : j = i
      · exact ⟨value, same ▸ here⟩
      · exact rest j (by simp [same, absent])
    | ask query next later =>
      have goes : ∀ reply, ∃ woven, Weaves (Function.update programs i (next reply)) woven := by
        intro reply
        refine later reply _ (fun j absent => ?_) (Function.update_self ..)
        have other : j ≠ i := fun same => absent (by simp [same])
        simpa [other] using rest j absent
      choose woven weaves using goes
      exact ⟨_, .ask here weaves⟩

end RegistryBridge.Program
