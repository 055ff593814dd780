/-!
# Programs that ask

A program is a tree: it is done with a value, or it asks a question and goes on with the answer. What
can be asked, and what kind of answer a question has, is an interface. The same program can be run
against any system that answers, so that what it asks can be spoken of apart from what is answered.

## Main definitions

* `Interface`, `Program`, with the monad of programs
* `Program.run`: a program against a system with a state.
* `Program.through`: a program over one interface as a program over another one.

## Main results

* `Program.bind_assoc`, `Program.run_bind`, `Program.through_bind`: programs compose, and so do their
  runs and what they are over another interface.
-/

namespace RegistryBridge

/-- The questions of an interface, each with the type of its answers. -/
structure Interface where
  Query : Type
  Reply : Query → Type

/-- A program that asks questions of an interface. -/
inductive Program (I : Interface) (α : Type) where
  | done (value : α)
  | ask (query : I.Query) (next : I.Reply query → Program I α)

namespace Program

variable {I J : Interface} {α β γ σ : Type}

/-- One program behind another. -/
def bind : Program I α → (α → Program I β) → Program I β
  | done value, next => next value
  | ask query rest, next => ask query fun reply => (rest reply).bind next

instance : Monad (Program I) where
  pure := done
  bind := bind

/-- The program that asks one question. -/
def call (query : I.Query) : Program I (I.Reply query) :=
  ask query done

@[simp] theorem done_bind (value : α) (next : α → Program I β) :
    (done value).bind next = next value := rfl

@[simp] theorem ask_bind (query : I.Query) (rest : I.Reply query → Program I α)
    (next : α → Program I β) :
    (ask query rest).bind next = ask query fun reply => (rest reply).bind next := rfl

@[simp] theorem bind_done (p : Program I α) : p.bind done = p := by
  induction p with
  | done value => rfl
  | ask query rest ih => simp [ih]

theorem bind_assoc (p : Program I α) (f : α → Program I β) (g : β → Program I γ) :
    (p.bind f).bind g = p.bind fun value => (f value).bind g := by
  induction p with
  | done value => rfl
  | ask query rest ih => simp [ih]

@[simp] theorem pure_eq_done (value : α) : (pure value : Program I α) = done value := rfl

@[simp] theorem bind_eq_bind (p : Program I α) (f : α → Program I β) : p >>= f = p.bind f := rfl

instance : LawfulMonad (Program I) :=
  LawfulMonad.mk' (Program I) bind_done (fun _ _ => rfl) bind_assoc

/-- **A program run against a system**: the system answers every question and changes its state. -/
def run (answer : (query : I.Query) → σ → I.Reply query × σ) : Program I α → σ → α × σ
  | done value, state => (value, state)
  | ask query next, state =>
    let (reply, state) := answer query state
    (next reply).run answer state

/-- **A program over another interface**: every question is answered by a program there, which
may change a state that is carried along. -/
def through (meaning : (query : I.Query) → σ → Program J (I.Reply query × σ)) :
    Program I α → σ → Program J (α × σ)
  | done value, state => done (value, state)
  | ask query next, state =>
    (meaning query state).bind fun (reply, state) => (next reply).through meaning state

theorem run_bind (answer : (query : I.Query) → σ → I.Reply query × σ) (p : Program I α)
    (f : α → Program I β) (state : σ) :
    (p.bind f).run answer state =
      (f (p.run answer state).1).run answer (p.run answer state).2 := by
  induction p generalizing state with
  | done value => rfl
  | ask query next ih => exact ih _ _

theorem through_bind (meaning : (query : I.Query) → σ → Program J (I.Reply query × σ))
    (p : Program I α) (f : α → Program I β) (state : σ) :
    (p.bind f).through meaning state =
      (p.through meaning state).bind fun result => (f result.1).through meaning result.2 := by
  induction p generalizing state with
  | done value => rfl
  | ask query next ih => simp only [ask_bind, through, bind_assoc, ih]

end Program

end RegistryBridge
