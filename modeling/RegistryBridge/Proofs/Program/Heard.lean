import RegistryBridge.Proofs.Program.Turns
/-!
# What is heard in a run

A run against a system that may answer anything is known by its transcript: the exchanges, in order.
A transcript is taken apart as the program is, and that of programs that take turns is a merge of
what each of them hears alone.

## Main definitions

* `Program.Hears`: a run that starts with nothing heard, by its transcript and its end.
* `Interleaves`: a list that is a merge of others, each kept in its order.

## Main results

* `Program.hears_bind_iff`: a program put together of two hears what the first and then the second
  hears.
* `Program.Weaves.hears`: programs that take turns each hear what they hear alone, in a merge.
* `Program.hears_inTurn`: the same parts, one behind the other, are heard when there are no turns.
-/

namespace RegistryBridge

variable {I : Interface} {ι α β : Type}

/-! ## Merges -/

/-- **A merge of lists**: each entry is the next one of some part, so that every part keeps its
order, and nothing else is there. -/
inductive Interleaves [DecidableEq ι] : (ι → List α) → List α → Prop
  | nil : Interleaves (fun _ => []) []
  | cons (i : ι) (x : α) {parts : ι → List α} {whole : List α} (rest : Interleaves parts whole) :
    Interleaves (Function.update parts i (x :: parts i)) (x :: whole)

namespace Program

variable [∀ query, Nonempty (I.Reply query)]

/-- **What is heard in a run**, from nothing heard to its end. -/
def Hears (p : Program I α) (t : Transcript I) (value : α) : Prop :=
  p.Ends (.script I) [] value t

variable {p : Program I α} {t : Transcript I} {value : α}

@[simp] theorem hears_done_iff {result : α} :
    (done value : Program I α).Hears t result ↔ t = [] ∧ result = value := by
  constructor
  · rintro ⟨⟩
    exact ⟨rfl, rfl⟩
  · rintro ⟨rfl, rfl⟩
    exact .done _ _

/-- A run may start with something heard before. -/
theorem hears_iff (front : Transcript I) :
    p.Hears t value ↔ p.Ends (.script I) front value (front ++ t) := by
  constructor
  · intro run
    obtain ⟨more, rfl, carried⟩ := Ends.carried run
    exact carried front
  · intro run
    obtain ⟨more, same, carried⟩ := Ends.carried run
    obtain rfl := List.append_cancel_left same
    exact carried []

theorem hears_ask_iff {query : I.Query} {next : I.Reply query → Program I α} :
    (ask query next).Hears t value ↔
      ∃ reply rest, t = ⟨query, reply⟩ :: rest ∧ (next reply).Hears rest value := by
  constructor
  · intro run
    cases run with
    | @ask _ _ _ after _ reply _ allowed onward =>
      obtain rfl := allowed
      obtain ⟨more, rfl, carried⟩ := onward.carried
      exact ⟨reply, more, rfl, carried []⟩
  · rintro ⟨reply, rest, rfl, onward⟩
    exact .answered reply ((hears_iff [⟨query, reply⟩]).mp onward)

/-- **A program put together of two** hears what the first hears, and then what the second does. -/
theorem hears_bind_iff {f : α → Program I β} {result : β} :
    (p.bind f).Hears t result ↔
      ∃ first rest value, t = first ++ rest ∧ p.Hears first value ∧ (f value).Hears rest result := by
  induction p generalizing t with
  | done value =>
    constructor
    · intro run
      exact ⟨[], t, value, rfl, hears_done_iff.mpr ⟨rfl, rfl⟩, run⟩
    · rintro ⟨_, rest, _, rfl, run, onward⟩
      obtain ⟨rfl, rfl⟩ := hears_done_iff.mp run
      exact onward
  | ask query next ih =>
    simp only [ask_bind, hears_ask_iff, ih]
    constructor
    · rintro ⟨reply, _, rfl, first, rest, value, rfl, run, onward⟩
      exact ⟨_ :: first, rest, value, rfl, ⟨reply, first, rfl, run⟩, onward⟩
    · rintro ⟨_, rest, value, rfl, ⟨reply, first, rfl, run⟩, onward⟩
      exact ⟨reply, first ++ rest, rfl, first, rest, value, rfl, run, onward⟩

/-- **What is asked along every script** may be asked after what a run has heard before. -/
theorem Always.asked_of_hears {asked : I.Query → Transcript I → Prop}
    {ends : α → Transcript I → Prop} {start front back : Transcript I} {e : Exchange I}
    (h : p.Always (.script I) asked ends start) (run : p.Hears (front ++ e :: back) value) :
    asked e.query (start ++ front) := by
  induction p generalizing start front with
  | done result =>
    obtain ⟨absent, -⟩ := hears_done_iff.mp run
    simp at absent
  | ask query next ih =>
    obtain ⟨reply, rest, heard, onward⟩ := hears_ask_iff.mp run
    cases front with
    | nil =>
      obtain ⟨rfl, -⟩ := List.cons.inj heard
      rw [List.append_nil]
      exact h.1
    | cons first front =>
      obtain ⟨rfl, rfl⟩ := List.cons.inj heard
      have later := ih reply (h.2 reply _ rfl) onward
      rwa [List.append_assoc] at later

/-- What a system hears that writes down its exchanges. -/
theorem hears_recording {σ : Type} (answer : (query : I.Query) → σ → I.Reply query × σ)
    (p : Program I α) (state : σ) :
    p.Hears (p.run (recording answer) (state, [])).2.2 (p.run (recording answer) (state, [])).1 := by
  have longer : ∀ (p : Program I α) (state : σ) (t : Transcript I),
      p.Ends (.script I) t (p.run (recording answer) (state, t)).1
        (p.run (recording answer) (state, t)).2.2 := by
    intro p
    induction p with
    | done value => exact fun state t => .done value t
    | ask query next ih => exact fun state t => .answered _ (ih _ _ _)
  exact longer p state []

variable [DecidableEq ι] {programs : ι → Program I α} {values : ι → α}

/-- **Programs that take turns** each hear what they hear alone, and all that is heard is a merge. -/
theorem Weaves.hears {woven : Program I (ι → α)} (h : Weaves programs woven)
    (run : woven.Hears t values) :
    ∃ view : ι → Transcript I, (∀ i, (programs i).Hears (view i) (values i)) ∧
      Interleaves view t := by
  induction h generalizing t with
  | done results =>
    obtain ⟨rfl, rfl⟩ := hears_done_iff.mp run
    exact ⟨fun _ => [], fun _ => hears_done_iff.mpr ⟨rfl, rfl⟩, .nil⟩
  | @ask programs i query next rest turn goes ih =>
    obtain ⟨reply, later, rfl, onward⟩ := hears_ask_iff.mp run
    obtain ⟨view, own, merged⟩ := ih reply onward
    refine ⟨_, fun j => ?_, .cons i ⟨query, reply⟩ merged⟩
    have mine := own j
    by_cases same : j = i
    · subst same
      rw [Function.update_self] at mine ⊢
      rw [turn]
      exact hears_ask_iff.mpr ⟨reply, view j, rfl, mine⟩
    · rwa [Function.update_of_ne same] at mine ⊢

/-- **The same parts one behind the other** are heard when each program waits for the one before. -/
theorem hears_inTurn {view : ι → Transcript I} {l : List ι} {start : ι → α}
    (own : ∀ i ∈ l, (programs i).Hears (view i) (values i))
    (rest : ∀ i, i ∉ l → start i = values i) :
    (inTurn programs l start).Hears (l.flatMap view) values := by
  induction l generalizing start with
  | nil => exact hears_done_iff.mpr ⟨rfl, (funext fun i => rest i List.not_mem_nil).symm⟩
  | cons i l ih =>
    refine hears_bind_iff.mpr ⟨view i, l.flatMap view, values i, by simp, own i (by simp), ?_⟩
    refine ih (fun j mem => own j (by simp [mem])) fun j absent => ?_
    by_cases same : j = i
    · subst same
      simp
    · simpa [same] using rest j (by simp [same, absent])

end Program

end RegistryBridge
