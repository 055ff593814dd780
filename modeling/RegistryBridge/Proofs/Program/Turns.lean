import Mathlib.Logic.Relation
import RegistryBridge.Proofs.Program.Woven
/-!
# What programs that take turns do to one state

Programs that take turns share the state of the system that answers them. Each is reasoned about
alone, against a system that the others may disturb before every answer. What they may disturb it by
is what the one relies on; that they disturb it by no more is read off the questions that they ask.

One way to take turns is not to: each program runs to its end before the next one begins.

## Main definitions

* `Conduct.disturbed`: a system that others disturb before it answers.
* `Program.inTurn`: programs one after another.
* `Program.Visits`: the states that a program comes through.

## Main results

* `Program.Weaves.always_disturbed`: what each program does in a disturbed system, all of them do
  together in an undisturbed one.
* `Program.Weaves.always_still`: programs that only ask do together what each does alone.
* `Program.weaves_inTurn`: programs one after another are one way to weave them.
* `Program.Always.of_visits`: what every question that is asked keeps holds in every state that is
  come through.
-/

namespace RegistryBridge

variable {I : Interface} {ι α σ τ : Type}

/-- **A system that others disturb.** Before it answers, they may have moved it on. -/
def Conduct.disturbed (c : Conduct I σ) (rely : σ → σ → Prop) : Conduct I σ where
  allows query state reply after :=
    ∃ middle, Relation.ReflTransGen rely state middle ∧ c.allows query middle reply after
  answers query state := by
    obtain ⟨reply, after, allowed⟩ := c.answers query state
    exact ⟨reply, after, state, .refl, allowed⟩

namespace Program

/-! ## Two readings of one run -/

section Always

variable {c : Conduct I σ} {asked asked' : I.Query → σ → Prop} {ends ends' : α → σ → Prop}
  {kept : σ → Prop} {p : Program I α} {state : σ}

/-- **What every question keeps that is asked as it may be**, the whole run keeps. -/
theorem Always.keeping (h : p.Always c asked ends state)
    (keeps : ∀ query s reply after, asked query s → c.allows query s reply after →
      kept s → kept after)
    (start : kept state) :
    p.Always c (fun query s => asked query s ∧ kept s) (fun value s => ends value s ∧ kept s)
      state := by
  induction p generalizing state with
  | done value => exact ⟨h, start⟩
  | ask query next ih =>
    exact ⟨⟨h.1, start⟩, fun reply after allowed =>
      ih reply (h.2 reply after allowed) (keeps _ _ _ _ h.1 allowed start)⟩

/-- A system that writes down its exchanges moves on as it does without. -/
theorem Always.beside (h : p.Always c asked ends state) (t : Transcript I) :
    p.Always c.recorded (fun query s => asked query s.1) (fun value s => ends value s.1)
      (state, t) := by
  induction p generalizing state t with
  | done value => exact h
  | ask query next ih =>
    refine ⟨h.1, ?_⟩
    rintro reply ⟨after, longer⟩ ⟨allowed, -⟩
    exact ih reply (h.2 reply after allowed) longer

/-- What is said of the state alone does not hang on the exchanges being written down. -/
theorem Always.unrecorded {t : Transcript I}
    (h : p.Always c.recorded (fun query s => asked query s.1) (fun value s => ends value s.1)
      (state, t)) : p.Always c asked ends state := by
  induction p generalizing state t with
  | done value => exact h
  | ask query next ih =>
    exact ⟨h.1, fun reply after allowed => ih reply (h.2 reply (after, _) ⟨allowed, rfl⟩)⟩

end Always

/-- A run against a system that may give fewer answers is one against a system that may give more. -/
theorem Ends.widen {c c' : Conduct I σ} {p : Program I α} {state last : σ} {value : α}
    (run : p.Ends c state value last)
    (more : ∀ query s reply after, c.allows query s reply after → c'.allows query s reply after) :
    p.Ends c' state value last := by
  induction run with
  | done value state => exact .done value state
  | ask allowed _ ih => exact .ask (more _ _ _ _ allowed) ih

/-! ## The states that a program comes through -/

/-- **The states that a program comes through**, whether or not it goes on from there. -/
inductive Visits (c : Conduct I σ) : Program I α → σ → σ → Prop
  | here (p : Program I α) (state : σ) : Visits c p state state
  | ask {query : I.Query} {next : I.Reply query → Program I α} {state after now : σ}
      {reply : I.Reply query} (allowed : c.allows query state reply after)
      (rest : Visits c (next reply) after now) : Visits c (ask query next) state now

section Visits

variable {c : Conduct I σ} {asked : I.Query → σ → Prop} {ends : α → σ → Prop}
  {p : Program I α} {state now : σ} {value : α}

theorem Ends.visits (run : p.Ends c state value now) : p.Visits c state now := by
  induction run with
  | done value state => exact .here _ _
  | ask allowed _ ih => exact .ask allowed ih

/-- **What every question that is asked keeps** holds in every state that is come through. -/
theorem Always.of_visits (kept : σ → Prop) (h : p.Always c asked ends state)
    (visited : p.Visits c state now)
    (keeps : ∀ query s reply after, asked query s → c.allows query s reply after →
      kept s → kept after)
    (start : kept state) : kept now := by
  induction visited with
  | here => exact start
  | ask allowed _ ih => exact ih (h.2 _ _ allowed) (keeps _ _ _ _ h.1 allowed start)

end Visits

variable [DecidableEq ι]

/-! ## Programs that disturb one another -/

section Disturbed

variable {c : Conduct I σ} {programs : ι → Program I α} {woven : Program I (ι → α)} {state : σ}

/-- What a program does in a disturbed system, it does from wherever the system has been moved to. -/
theorem Always.later {rely : σ → σ → Prop} {asked : I.Query → σ → Prop} {ends : α → σ → Prop}
    {p : Program I α} {after : σ} (h : p.Always (c.disturbed rely) asked ends state)
    (askable : ∀ query s s', rely s s' → asked query s → asked query s')
    (lasts : ∀ value s s', rely s s' → ends value s → ends value s')
    (moved : rely state after) : p.Always (c.disturbed rely) asked ends after := by
  cases p with
  | done value => exact lasts _ _ _ moved h
  | ask query next =>
    refine ⟨askable _ _ _ moved h.1, ?_⟩
    rintro reply last ⟨middle, onward, allowed⟩
    exact h.2 reply last ⟨middle, .head moved onward, allowed⟩

/-- **What each program does in a disturbed system, all of them do together** in an undisturbed one,
in whatever way they take turns: if what one of them asks moves the system no further than the others
rely on, and if what one may ask and what it has reached outlasts what it relies on. -/
theorem Weaves.always_disturbed (h : Weaves programs woven) (rely : ι → σ → σ → Prop)
    (asked : ι → I.Query → σ → Prop) (ends : ι → α → σ → Prop)
    (spares : ∀ i j, i ≠ j → ∀ query s reply after, asked i query s →
      c.allows query s reply after → rely j s after)
    (askable : ∀ i query s s', rely i s s' → asked i query s → asked i query s')
    (lasts : ∀ i value s s', rely i s s' → ends i value s → ends i value s')
    (own : ∀ i, (programs i).Always (c.disturbed (rely i)) (asked i) (ends i) state) :
    woven.Always c (fun query s => ∃ i, asked i query s)
      (fun values s => ∀ i, ends i (values i) s) state := by
  induction h generalizing state with
  | done values => exact own
  | @ask programs i query next rest turn goes ih =>
    have mine := own i
    rw [turn] at mine
    refine ⟨⟨i, mine.1⟩, fun reply after allowed => ih reply ?_⟩
    refine (Function.forall_update_iff programs fun j p =>
      p.Always (c.disturbed (rely j)) (asked j) (ends j) after).mpr ⟨?_, fun j other => ?_⟩
    · exact mine.2 reply after ⟨state, .refl, allowed⟩
    · -- The others go on from where this question has moved the system to.
      have moved : rely j state after :=
        spares i j other.symm query state reply after mine.1 allowed
      exact (own j).later (askable j) (lasts j) moved

/-- **Programs that leave the state as it is** do together what each of them does alone. -/
theorem Weaves.always_still {asked : I.Query → σ → Prop} {ends : ι → α → σ → Prop}
    (h : Weaves programs woven)
    (still : ∀ query s reply after, asked query s → c.allows query s reply after → after = s)
    (own : ∀ i, (programs i).Always c asked (ends i) state) :
    woven.Always c asked (fun values s => ∀ i, ends i (values i) s) state := by
  induction h with
  | done values => exact own
  | @ask programs i query next rest turn goes ih =>
    have mine := own i
    rw [turn] at mine
    refine ⟨mine.1, fun reply after allowed => ?_⟩
    obtain rfl := still query state reply after mine.1 allowed
    exact ih reply ((Function.forall_update_iff programs fun j p =>
      p.Always c asked (ends j) after).mpr ⟨mine.2 reply after allowed, fun j _ => own j⟩)

/-- Programs that take turns ask what one of them asks. -/
theorem Weaves.only {kind : I.Query → Prop} (h : Weaves programs woven)
    (each : ∀ i, (programs i).Only kind) : woven.Only kind := by
  induction h with
  | done values => trivial
  | @ask programs i query next rest turn goes ih =>
    have mine := each i
    rw [turn] at mine
    refine ⟨mine.1, fun reply => ih reply ?_⟩
    exact (Function.forall_update_iff programs fun _ p => p.Only kind).mpr
      ⟨mine.2 reply, fun j _ => each j⟩

/-- Programs that take turns each end with a value that they may end with alone. -/
theorem Weaves.yields {kind : ι → α → Prop} (h : Weaves programs woven)
    (each : ∀ i, (programs i).Yields (kind i)) :
    woven.Yields fun values => ∀ i, kind i (values i) := by
  induction h with
  | done values => exact each
  | @ask programs i query next rest turn goes ih =>
    have mine := each i
    rw [turn] at mine
    refine fun reply => ih reply ?_
    exact (Function.forall_update_iff programs fun j p => p.Yields (kind j)).mpr
      ⟨mine reply, fun j _ => each j⟩

end Disturbed

/-! ## One after another -/

/-- **Programs one after another**, in the order of a list. What is not in the list has its value
already. -/
def inTurn (programs : ι → Program I α) : List ι → (ι → α) → Program I (ι → α)
  | [], values => done values
  | i :: rest, values =>
    (programs i).bind fun value => inTurn programs rest (Function.update values i value)

section InTurn

variable {programs : ι → Program I α} {l : List ι} {i : ι}

/-- A program that has had its turn, or has none, does not count. -/
theorem inTurn_update (absent : i ∉ l) (other : Program I α) (values : ι → α) :
    inTurn (Function.update programs i other) l values = inTurn programs l values := by
  induction l generalizing values with
  | nil => rfl
  | cons j rest ih =>
    have differs : j ≠ i := fun same => absent (by simp [same])
    have later : i ∉ rest := fun mem => absent (by simp [mem])
    simp only [inTurn, Function.update_of_ne differs, ih later]

/-- A value that is there already is there at the end. -/
theorem inTurn_update_value (absent : i ∉ l) (value : α) (values : ι → α) :
    inTurn programs l (Function.update values i value) =
      (inTurn programs l values).bind fun results => done (Function.update results i value) := by
  induction l generalizing values with
  | nil => rfl
  | cons j rest ih =>
    have differs : j ≠ i := fun same => absent (by simp [same])
    have later : i ∉ rest := fun mem => absent (by simp [mem])
    simp only [inTurn, bind_assoc]
    refine congrArg _ (funext fun result => ?_)
    rw [Function.update_comm differs.symm, ih later]

/-- **Programs one after another are one way to weave them.** -/
theorem weaves_inTurn (nodup : l.Nodup) {values : ι → α}
    (rest : ∀ i, i ∉ l → programs i = done (values i)) :
    Weaves programs (inTurn programs l values) := by
  induction l generalizing programs values with
  | nil =>
    obtain rfl : programs = fun i => done (values i) := funext fun i => rest i List.not_mem_nil
    exact .done values
  | cons i l ih =>
    obtain ⟨absent, nodup⟩ := List.nodup_cons.mp nodup
    simp only [inTurn]
    generalize here : programs i = p
    induction p generalizing programs with
    | done value =>
      refine ih nodup fun j later => ?_
      by_cases same : j = i
      · subst same
        simpa using here
      · simpa [same] using rest j (by simp [same, later])
    | ask query next onward =>
      refine .ask here fun reply => ?_
      -- The programs that come later do not see that this one has gone on.
      have others : ∀ j, j ∉ i :: l →
          Function.update programs i (next reply) j = done (values j) := by
        intro j later
        have differs : j ≠ i := fun same => later (by simp [same])
        simpa [differs] using rest j later
      have goes := onward reply others (Function.update_self ..)
      simpa only [inTurn_update absent] using goes

end InTurn

end Program

end RegistryBridge
