import RegistryBridge.Proofs.Program.Conduct
/-!
# Transcripts of what was asked and answered

Where a question may be asked only once another one has been answered, the order of a run counts. A
system that writes down every exchange has the transcript of the run in its state, and what may be
asked when is then said of the transcript.

## Main definitions

* `Exchange`: a question with its answer; `Transcript`: exchanges in their order.
* `Conduct.recorded`: a system that writes down its exchanges.
* `Conduct.script`: a system that may answer anything, of which only the transcript is known.

## Main results

* `Program.Always.recorded`: what holds along every script holds along the transcripts of every
  system.
* `Program.Ends.keep`: what every exchange keeps, a run keeps.
-/

namespace RegistryBridge

variable {I : Interface} {α σ : Type}

/-- A question with its answer. -/
structure Exchange (I : Interface) where
  query : I.Query
  reply : I.Reply query

/-- What has been asked and answered, in order. -/
abbrev Transcript (I : Interface) := List (Exchange I)

/-- **Where something stands** in a list with one element more at its end: it is that element, or it
stands before it. -/
theorem snoc_eq_append_cons_iff {l front back : List α} {last x : α} :
    l ++ [last] = front ++ x :: back ↔
      back = [] ∧ l = front ∧ last = x ∨
        ∃ between, back = between ++ [last] ∧ l = front ++ x :: between := by
  constructor
  · intro split
    rcases List.eq_nil_or_concat back with rfl | ⟨between, y, rfl⟩
    · obtain ⟨rfl, one⟩ := List.append_inj' split rfl
      exact .inl ⟨rfl, rfl, List.singleton_inj.mp one⟩
    · rw [List.concat_eq_append, ← List.cons_append, ← List.append_assoc] at split
      obtain ⟨rfl, one⟩ := List.append_inj' split rfl
      obtain rfl := List.singleton_inj.mp one
      exact .inr ⟨between, List.concat_eq_append, rfl⟩
  · rintro (⟨rfl, rfl, rfl⟩ | ⟨between, rfl, rfl⟩)
    · rfl
    · simp

namespace Conduct

/-- **A system that writes down its exchanges.** -/
def recorded (c : Conduct I σ) : Conduct I (σ × Transcript I) where
  allows query state reply after :=
    c.allows query state.1 reply after.1 ∧ after.2 = state.2 ++ [⟨query, reply⟩]
  answers query state := by
    obtain ⟨reply, after, allowed⟩ := c.answers query state.1
    exact ⟨reply, (after, _), allowed, rfl⟩

/-- **A system that may answer anything**, of which only the transcript is known. -/
def script (I : Interface) [answerable : ∀ query, Nonempty (I.Reply query)] :
    Conduct I (Transcript I) where
  allows query transcript reply after := after = transcript ++ [⟨query, reply⟩]
  answers query _ := by
    obtain ⟨reply⟩ := answerable query
    exact ⟨reply, _, rfl⟩

end Conduct

namespace Program

/-- A system that answers, and writes down what it was asked and how it has answered. -/
def recording (answer : (query : I.Query) → σ → I.Reply query × σ) (query : I.Query)
    (state : σ × Transcript I) : I.Reply query × (σ × Transcript I) :=
  let (reply, after) := answer query state.1
  (reply, after, state.2 ++ [⟨query, reply⟩])

variable {p : Program I α}

/-- Any answer is one that a script may give. -/
theorem Ends.answered [∀ query, Nonempty (I.Reply query)] {query : I.Query}
    {next : I.Reply query → Program I α} {t last : Transcript I} {value : α}
    (reply : I.Reply query)
    (rest : (next reply).Ends (.script I) (t ++ [⟨query, reply⟩]) value last) :
    (Program.ask query next).Ends (.script I) t value last :=
  .ask rfl rest

/-- **A script may be carried over**: a run adds some exchanges to what had been heard, and it may add
the same ones to whatever else had been heard. -/
theorem Ends.carried [∀ query, Nonempty (I.Reply query)] {t last : Transcript I} {value : α}
    (run : p.Ends (.script I) t value last) :
    ∃ more, last = t ++ more ∧ ∀ t', p.Ends (.script I) t' value (t' ++ more) := by
  induction run with
  | done value t => exact ⟨[], by simp, fun t' => by simpa using .done value t'⟩
  | @ask query next t _ _ reply _ allowed _ ih =>
    obtain ⟨more, rfl, carried⟩ := ih
    obtain rfl := allowed
    refine ⟨⟨query, reply⟩ :: more, by simp, fun t' => .answered reply ?_⟩
    have longer := carried (t' ++ [⟨query, reply⟩])
    rwa [← List.append_cons] at longer

/-- All that is heard in a script answers questions that are asked. -/
theorem Only.heard [∀ query, Nonempty (I.Reply query)] {kind : I.Query → Prop}
    {t more : Transcript I} {value : α} (only : p.Only kind)
    (run : p.Ends (.script I) t value (t ++ more)) : ∀ e ∈ more, kind e.query := by
  obtain ⟨_, same, carried⟩ := run.carried
  obtain rfl := List.append_cancel_left same
  have keeps : ∀ query s reply after, kind query → (Conduct.script I).allows query s reply after →
      (∀ e ∈ s, kind e.query) → ∀ e ∈ after, kind e.query := by
    rintro query s reply _ asked rfl kept
    exact List.forall_mem_append.mpr ⟨kept, List.forall_mem_singleton.mpr asked⟩
  have start : ∀ e ∈ ([] : Transcript I), kind e.query := by simp
  exact (only.always keeps start).of_ends (carried [])

/-- **What holds along every script** holds along the transcripts of every system. -/
theorem Always.recorded [∀ query, Nonempty (I.Reply query)] {asked : I.Query → Transcript I → Prop}
    {ends : α → Transcript I → Prop} {t : Transcript I}
    (h : p.Always (.script I) asked ends t) (c : Conduct I σ) (state : σ) :
    p.Always c.recorded (fun query s => asked query s.2) (fun value s => ends value s.2)
      (state, t) := by
  induction p generalizing t state with
  | done value => exact h
  | ask query next ih =>
    refine ⟨h.1, ?_⟩
    rintro reply ⟨after, longer⟩ ⟨-, rfl⟩
    exact ih reply (h.2 reply _ rfl) after

/-- What is asked along every script is all that is asked. -/
theorem Always.only_script [∀ query, Nonempty (I.Reply query)] {kind : I.Query → Prop}
    {ends : α → Transcript I → Prop} {t : Transcript I}
    (h : p.Always (.script I) (fun query _ => kind query) ends t) : p.Only kind := by
  induction p generalizing t with
  | done value => trivial
  | ask query next ih => exact ⟨h.1, fun reply => ih reply (h.2 reply _ rfl)⟩

/-- **What every exchange keeps** stands at every question and at every end. -/
theorem Always.keep {c : Conduct I σ} {asked : I.Query → σ → Prop} {ends : α → σ → Prop}
    {kept : σ → Prop} {state : σ} (h : p.Always c asked ends state)
    (keeps : ∀ query state reply after, c.allows query state reply after → kept state → kept after)
    (start : kept state) :
    p.Always c (fun query state => asked query state ∧ kept state)
      (fun value after => ends value after ∧ kept after) state := by
  induction p generalizing state with
  | done value => exact ⟨h, start⟩
  | ask query next ih =>
    exact ⟨⟨h.1, start⟩, fun reply after allowed =>
      ih reply (h.2 reply after allowed) (keeps _ _ _ _ allowed start)⟩

/-- **What every exchange keeps**, a run keeps. -/
theorem Ends.keep {c : Conduct I σ} {kept : σ → Prop} {state last : σ} {value : α}
    (run : p.Ends c state value last)
    (keeps : ∀ query state reply after, c.allows query state reply after → kept state → kept after)
    (start : kept state) : kept last := by
  induction run with
  | done => exact start
  | ask allowed _ ih => exact ih (keeps _ _ _ _ allowed start)

/-- The run against a system that answers as it may, with its transcript. -/
theorem ends_recording {c : Conduct I σ} {answer : (query : I.Query) → σ → I.Reply query × σ}
    (allowed : ∀ query state, c.allows query state (answer query state).1 (answer query state).2)
    (p : Program I α) (state : σ) (t : Transcript I) :
    p.Ends c.recorded (state, t) (p.run (recording answer) (state, t)).1
      (p.run (recording answer) (state, t)).2 := by
  have recorded : ∀ query s, c.recorded.allows query s (recording answer query s).1
      (recording answer query s).2 := fun query s => ⟨allowed query s.1, rfl⟩
  exact ends_run recorded p (state, t)

end Program

end RegistryBridge
