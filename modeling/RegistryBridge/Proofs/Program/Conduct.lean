import RegistryBridge.Program
/-!
# Programs against systems that choose their answers

A system need not have one answer to a question: a call may fail or not, and a registry makes tokens
as it likes. Its conduct says which answers it may give in which state. What a program does *whatever
it is answered* is a recursion on the program, and every claim about all runs is stated through it.

## Main definitions

* `Conduct`: the answers that a system may give; it always has one.
* `Program.Always`: what is asked and how the program ends, whatever the system answers.
* `Program.Ends`: one way in which a program may end.
* `Program.Only`, `Program.Yields`: what a program asks at all, and what it may end with, whatever it
  is told.

## Main results

* `Program.always_bind`: programs are taken apart where they were put together.
* `Program.Always.of_ends`, `Program.exists_ends`: the two readings of a run agree, and there is one.
* `Program.Only.always`: what every question that is asked keeps, the whole program keeps.
-/

namespace RegistryBridge

variable {I : Interface} {α β σ : Type}

/-- **The answers that a system may give**, each with the state that it leaves. A question is never
left without one. -/
structure Conduct (I : Interface) (σ : Type) where
  allows : (query : I.Query) → σ → I.Reply query → σ → Prop
  answers : ∀ query state, ∃ reply after, allows query state reply after

namespace Program

/-- **Whatever the system answers**, every question is asked in a state where it may be, and the
program ends as `ends` says. -/
def Always (c : Conduct I σ) (asked : I.Query → σ → Prop) (ends : α → σ → Prop) :
    Program I α → σ → Prop
  | done value, state => ends value state
  | ask query next, state =>
    asked query state ∧
      ∀ reply after, c.allows query state reply after → (next reply).Always c asked ends after

/-- One way in which a program may end. -/
inductive Ends (c : Conduct I σ) : Program I α → σ → α → σ → Prop
  | done (value : α) (state : σ) : Ends c (done value) state value state
  | ask {query : I.Query} {next : I.Reply query → Program I α} {state after last : σ}
      {reply : I.Reply query} {value : α} (allowed : c.allows query state reply after)
      (rest : Ends c (next reply) after value last) : Ends c (ask query next) state value last

/-- Every question of a program is one of some kind, whatever the program is told. -/
def Only (kind : I.Query → Prop) : Program I α → Prop
  | done _ => True
  | ask query next => kind query ∧ ∀ reply, (next reply).Only kind

/-- Every value that a program may end with is one of some kind, whatever the program is told. -/
def Yields (kind : α → Prop) : Program I α → Prop
  | done value => kind value
  | ask _ next => ∀ reply, (next reply).Yields kind

variable {c : Conduct I σ} {asked : I.Query → σ → Prop} {ends : α → σ → Prop}

@[simp] theorem always_done (value : α) (state : σ) :
    (done value).Always c asked ends state ↔ ends value state := Iff.rfl

@[simp] theorem always_ask (query : I.Query) (next : I.Reply query → Program I α) (state : σ) :
    (ask query next).Always c asked ends state ↔
      asked query state ∧
        ∀ reply after, c.allows query state reply after →
          (next reply).Always c asked ends after := Iff.rfl

/-- **A program put together of two** is taken apart there. -/
theorem always_bind {ends : β → σ → Prop} (p : Program I α) (f : α → Program I β) (state : σ) :
    (p.bind f).Always c asked ends state ↔
      p.Always c asked (fun value after => (f value).Always c asked ends after) state := by
  induction p generalizing state with
  | done value => rfl
  | ask query next ih => simp only [ask_bind, always_ask, ih]

theorem Always.mono {asked' : I.Query → σ → Prop} {ends' : α → σ → Prop} {p : Program I α}
    {state : σ} (h : p.Always c asked ends state)
    (hasked : ∀ query state, asked query state → asked' query state)
    (hends : ∀ value state, ends value state → ends' value state) :
    p.Always c asked' ends' state := by
  induction p generalizing state with
  | done value => exact hends _ _ h
  | ask query next ih =>
    exact ⟨hasked _ _ h.1, fun reply after allowed => ih reply (h.2 reply after allowed)⟩

/-- What is known of a run in two ways is known in both. -/
theorem Always.and {asked' : I.Query → σ → Prop} {ends' : α → σ → Prop} {p : Program I α}
    {state : σ} (h : p.Always c asked ends state) (h' : p.Always c asked' ends' state) :
    p.Always c (fun query s => asked query s ∧ asked' query s)
      (fun value s => ends value s ∧ ends' value s) state := by
  induction p generalizing state with
  | done value => exact ⟨h, h'⟩
  | ask query next ih =>
    exact ⟨⟨h.1, h'.1⟩, fun reply after allowed =>
      ih reply (h.2 reply after allowed) (h'.2 reply after allowed)⟩

/-- What holds of every end holds of the one that comes about. -/
theorem Always.of_ends {p : Program I α} {state last : σ} {value : α}
    (h : p.Always c asked ends state) (run : p.Ends c state value last) : ends value last := by
  induction run with
  | done => exact h
  | ask allowed _ ih => exact ih (h.2 _ _ allowed)

/-- A program always comes to some end. -/
theorem exists_ends (c : Conduct I σ) (p : Program I α) (state : σ) :
    ∃ value last, p.Ends c state value last := by
  induction p generalizing state with
  | done value => exact ⟨value, state, .done value state⟩
  | ask query next ih =>
    obtain ⟨reply, after, allowed⟩ := c.answers query state
    obtain ⟨value, last, rest⟩ := ih reply after
    exact ⟨value, last, .ask allowed rest⟩

/-- The run against answers that a system may give is one way to end. -/
theorem ends_run {answer : (query : I.Query) → σ → I.Reply query × σ}
    (allowed : ∀ query state, c.allows query state (answer query state).1 (answer query state).2)
    (p : Program I α) (state : σ) :
    p.Ends c state (p.run answer state).1 (p.run answer state).2 := by
  induction p generalizing state with
  | done value => exact .done value state
  | ask query next ih => exact .ask (allowed query state) (ih _ _)

/-! ## What a program asks at all -/

section Only

variable {kind : I.Query → Prop}

theorem Only.bind {p : Program I α} {f : α → Program I β} (first : p.Only kind)
    (rest : ∀ value, (f value).Only kind) : (p.bind f).Only kind := by
  induction p with
  | done value => exact rest value
  | ask query next ih => exact ⟨first.1, fun reply => ih reply (first.2 reply)⟩

theorem Only.mono {kind' : I.Query → Prop} {p : Program I α} (h : p.Only kind)
    (wider : ∀ query, kind query → kind' query) : p.Only kind' := by
  induction p with
  | done value => trivial
  | ask query next ih => exact ⟨wider _ h.1, fun reply => ih reply (h.2 reply)⟩

/-- **What every question that is asked keeps**, the whole program keeps. -/
theorem Only.always {kept : σ → Prop} {p : Program I α} {state : σ} (h : p.Only kind)
    (keeps : ∀ query state reply after, kind query → c.allows query state reply after →
      kept state → kept after) (start : kept state) :
    p.Always c (fun query _ => kind query) (fun _ after => kept after) state := by
  induction p generalizing state with
  | done value => exact start
  | ask query next ih =>
    exact ⟨h.1, fun reply after allowed =>
      ih reply (h.2 reply) (keeps _ _ _ _ h.1 allowed start)⟩

end Only

/-! ## What a program may end with -/

section Yields

variable {kind : I.Query → Prop} {yields yields' : α → Prop} {p : Program I α}

theorem Yields.mono (h : p.Yields yields) (wider : ∀ value, yields value → yields' value) :
    p.Yields yields' := by
  induction p with
  | done value => exact wider value h
  | ask query next ih => exact fun reply => ih reply (h reply)

/-- What is true of every value is true of those that a program may end with. -/
theorem yields_of_forall (h : ∀ value, yields value) (p : Program I α) : p.Yields yields := by
  induction p with
  | done value => exact h value
  | ask query next ih => exact ih

theorem Yields.bind {yields' : β → Prop} {f : α → Program I β} (first : p.Yields yields)
    (rest : ∀ value, yields value → (f value).Yields yields') : (p.bind f).Yields yields' := by
  induction p with
  | done value => exact rest value first
  | ask query next ih => exact fun reply => ih reply (first reply)

/-- What a program may end with at all, it ends with in every run. -/
theorem Always.yielding {asked : I.Query → σ → Prop} {ends : α → σ → Prop} {state : σ}
    (h : p.Always c asked ends state) (only : p.Yields yields) :
    p.Always c asked (fun value s => ends value s ∧ yields value) state := by
  induction p generalizing state with
  | done value => exact ⟨h, only⟩
  | ask query next ih =>
    exact ⟨h.1, fun reply after allowed => ih reply (h.2 reply after allowed) (only reply)⟩

/-- What comes behind a program is asked with a value that the program may end with. -/
theorem Only.bind_of_yields {f : α → Program I β} (first : p.Only kind) (ends : p.Yields yields)
    (rest : ∀ value, yields value → (f value).Only kind) : (p.bind f).Only kind := by
  induction p with
  | done value => exact rest value ends
  | ask query next ih => exact ⟨first.1, fun reply => ih reply (first.2 reply) (ends reply)⟩

/-- Two programs behind another one are the same if they are for all values that it may end with. -/
theorem Yields.bind_congr {f g : α → Program I β} (h : p.Yields yields)
    (same : ∀ value, yields value → f value = g value) : p.bind f = p.bind g := by
  induction p with
  | done value => exact same value h
  | ask query next ih => exact congrArg (ask query) (funext fun reply => ih reply (h reply))

/-- **A program over another interface** asks there only what the answers to its questions ask, each in
a state that the answers before it have kept. -/
theorem Only.through {J : Interface} {asks : J.Query → Prop} {kept : σ → Prop}
    {meaning : (query : I.Query) → σ → Program J (I.Reply query × σ)} {state : σ} (h : p.Only kind)
    (each : ∀ query state, kind query → kept state →
      (meaning query state).Only asks ∧ (meaning query state).Yields fun result => kept result.2)
    (start : kept state) : (p.through meaning state).Only asks := by
  induction p generalizing state with
  | done value => trivial
  | ask query next ih =>
    obtain ⟨own, keeps⟩ := each query state h.1 start
    exact own.bind_of_yields keeps fun result kept => ih result.1 (h.2 result.1) kept

/-- **A program over another interface** ends there as it ends against a system that may answer all
that is answered there. -/
theorem Always.through {J : Interface} {asked : I.Query → σ → Prop} {ends : α → σ → Prop}
    {meaning : (query : I.Query) → σ → Program J (I.Reply query × σ)} {state : σ}
    (h : p.Always c asked ends state)
    (each : ∀ query state,
      (meaning query state).Yields fun result => c.allows query state result.1 result.2) :
    (p.through meaning state).Yields fun result => ends result.1 result.2 := by
  induction p generalizing state with
  | done value => exact h
  | ask query next ih =>
    exact (each query state).bind fun result allowed => ih result.1 (h.2 _ _ allowed)

end Yields

end Program

end RegistryBridge
