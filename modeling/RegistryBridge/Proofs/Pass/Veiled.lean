import RegistryBridge.Proofs.Pass.Heard
import RegistryBridge.Proofs.Pass.Only
/-!
# What is heard of a pass when its tokens are veiled

A pass handles the token that it connects with, those that its robots have, and what secrets hold.
Veiled, an exchange shows none of this, and that a secret is written it does not show at all. Two runs
are twins when, as long as they are answered alike but for what is veiled, they ask alike but for what
is veiled, and end alike.

## Main definitions

* `Exchange.veiled`, `Transcript.veiled`: what shows of exchanges.
* `Transcript.Follows`: a transcript in which all that shows is answered as some behaviour says.
* `Program.Twins`, `Step.Twins`: programs that show the same when they are answered alike.

## Main results

* `Program.Twins.bind`, `Step.Twins.bind`, `Step.Twins.all`: twins are put together.
* `Program.Twins.of_only`: a program that handles no tokens is its own twin.
* `Step.Twins.cluster`, `Step.Twins.registry`: what is answered with tokens.
-/

namespace RegistryBridge

variable {α β : Type}

namespace Registry

/-- A robot without its token. -/
def Robot.tokenless (robot : Robot) : Robot :=
  { robot with token := "" }

theorem Robot.name_of_tokenless {robot robot' : Robot} (same : robot.tokenless = robot'.tokenless) :
    robot.name = robot'.name :=
  (Robot.mk.inj same).1

/-- An answer about a robot, without its token. -/
def Response.tokenless (response : Response Robot) : Response Robot :=
  { response with body := response.body.map Robot.tokenless }

end Registry

/-- What shows of a secret: whether it is there. -/
def Secret.presence (found : Option Secret) : Option Secret :=
  found.map fun _ => default

/-- **What shows of an exchange** when tokens are veiled. -/
def Exchange.veiled : Exchange Bridge → Option (Exchange Bridge)
  | ⟨.cluster (.applySecret _), _⟩ => none
  | ⟨.cluster (.getSecret ns name), (reply : Except OperationError (Option Secret))⟩ =>
    some (.cluster (.getSecret ns name) (reply.map Secret.presence))
  | ⟨.connect hostname _ insecure, reply⟩ => some ⟨.connect hostname "" insecure, reply⟩
  | ⟨.registry (.getRobot organization short),
      (reply : Except RegistryError (Registry.Response Registry.Robot))⟩ =>
    some (.registry (.getRobot organization short) (reply.map Registry.Response.tokenless))
  | ⟨.registry (.createRobot organization short),
      (reply : Except RegistryError (Registry.Response Registry.Robot))⟩ =>
    some (.registry (.createRobot organization short) (reply.map Registry.Response.tokenless))
  | e => some e

namespace Transcript

variable {t more heard : Transcript Bridge}

/-- **What shows of a transcript** when tokens are veiled. -/
def veiled (t : Transcript Bridge) : Transcript Bridge :=
  t.filterMap Exchange.veiled

@[simp] theorem veiled_append : (t ++ more).veiled = t.veiled ++ more.veiled :=
  List.filterMap_append

theorem veiled_cons_of_some {e shown : Exchange Bridge} (shows : e.veiled = some shown) :
    veiled (e :: t) = shown :: t.veiled :=
  List.filterMap_cons_some shows

/-- How a system answers, by what has shown before. -/
abbrev Behaviour := Transcript Bridge → (query : Bridge.Query) → Bridge.Reply query

/-- **All that shows is answered as a behaviour says.** -/
def Follows (behaviour : Behaviour) (heard t : Transcript Bridge) : Prop :=
  ∀ front e back, t.veiled = front ++ e :: back → e.reply = behaviour (heard ++ front) e.query

section Follows

variable {behaviour : Behaviour}

theorem Follows.first (h : Follows behaviour heard (t ++ more)) :
    Follows behaviour heard t := by
  intro front e back shown
  refine h front e (back ++ more.veiled) ?_
  rw [veiled_append, shown]
  simp

theorem Follows.rest (h : Follows behaviour heard (t ++ more)) :
    Follows behaviour (heard ++ t.veiled) more := by
  intro front e back shown
  have later := h (t.veiled ++ front) e back (by rw [veiled_append, shown]; simp)
  rwa [← List.append_assoc] at later

/-- **There is a behaviour that a transcript follows**: that of a system which answers as in it. -/
theorem exists_follows (t : Transcript Bridge) : ∃ behaviour, Follows behaviour [] t := by
  classical
  refine ⟨fun front query =>
    if h : ∃ reply back, t.veiled = front ++ ⟨query, reply⟩ :: back then h.choose
    else Classical.arbitrary _, fun front e back shown => ?_⟩
  have h : ∃ reply back, t.veiled = front ++ ⟨e.query, reply⟩ :: back := ⟨e.reply, back, shown⟩
  obtain ⟨back', again⟩ := h.choose_spec
  -- What follows on the same beginning is the same exchange.
  have same := (List.cons.inj (List.append_cancel_left (shown.symm.trans again))).1
  exact (eq_of_heq (Exchange.mk.inj same).2).trans (dif_pos h).symm

/-- The first thing that shows is answered by what has shown before. -/
theorem Follows.head {e shown : Exchange Bridge} (h : Follows behaviour heard (e :: t))
    (shows : e.veiled = some shown) : shown.reply = behaviour heard shown.query := by
  have now := h [] shown t.veiled (veiled_cons_of_some shows)
  rwa [List.append_nil] at now

end Follows

end Transcript

/-- An exchange in which a secret that was to be written is refused. -/
def Exchange.refuses : Exchange Bridge → Bool
  | ⟨.cluster (.applySecret _), (.error _ : Except OperationError Unit)⟩ => true
  | _ => false

/-- **No secret was refused** that was to be written. -/
def Transcript.Unrefused (t : Transcript Bridge) : Prop :=
  ∀ e ∈ t, e.refuses = false

instance (t : Transcript Bridge) : Decidable t.Unrefused :=
  inferInstanceAs (Decidable (∀ e ∈ t, e.refuses = false))

theorem Transcript.unrefused_append {t more : Transcript Bridge} :
    Unrefused (t ++ more) ↔ t.Unrefused ∧ more.Unrefused :=
  List.forall_mem_append

theorem Transcript.unrefused_first (t more : Transcript Bridge) (taken : Unrefused (t ++ more)) :
    t.Unrefused :=
  (unrefused_append.mp taken).1

theorem Transcript.unrefused_rest (t more : Transcript Bridge) (taken : Unrefused (t ++ more)) :
    more.Unrefused :=
  (unrefused_append.mp taken).2

/-! ## Twins -/

namespace Program

open Transcript (Follows)

/-- **Programs that show the same when they are answered alike.** As long as all that shows is
answered as one behaviour says, in runs that are fair, all that shows is the same, and they end
alike. -/
def Twins (fair : Transcript Bridge → Prop) (alike : α → α → Prop) (p p' : Program Bridge α) : Prop :=
  ∀ behaviour heard t t' value value', p.Hears t value → p'.Hears t' value' → fair t → fair t' →
    Follows behaviour heard t → Follows behaviour heard t' →
      alike value value' ∧ t.veiled = t'.veiled

namespace Twins

variable {fair : Transcript Bridge → Prop} {alike : α → α → Prop} {p p' : Program Bridge α}

theorem mono {fair' : Transcript Bridge → Prop} {alike' : α → α → Prop}
    (h : p.Twins fair alike p') (less : ∀ t, fair' t → fair t)
    (wider : ∀ value value', alike value value' → alike' value value') :
    p.Twins fair' alike' p' := by
  intro behaviour heard t t' value value' run run' ok ok' follows follows'
  obtain ⟨ended, shown⟩ := h _ _ _ _ _ _ run run' (less _ ok) (less _ ok') follows follows'
  exact ⟨wider _ _ ended, shown⟩

theorem done {value value' : α} (h : alike value value') :
    (Program.done value : Program Bridge α).Twins fair alike (.done value') := by
  intro _ _ t t' _ _ run run' _ _ _ _
  obtain ⟨rfl, rfl⟩ := hears_done_iff.mp run
  obtain ⟨rfl, rfl⟩ := hears_done_iff.mp run'
  exact ⟨h, rfl⟩

/-- **Programs put together of twins are twins.** -/
theorem bind {fairFirst fairRest : Transcript Bridge → Prop} {alike' : β → β → Prop}
    {f f' : α → Program Bridge β} (early : ∀ t more, fair (t ++ more) → fairFirst t)
    (late : ∀ t more, fair (t ++ more) → fairRest more) (first : p.Twins fairFirst alike p')
    (rest : ∀ value value', alike value value' →
      (f value).Twins fairRest alike' (f' value')) :
    (p.bind f).Twins fair alike' (p'.bind f') := by
  intro behaviour heard _ _ _ _ run run' ok ok' follows follows'
  obtain ⟨t, more, value, rfl, begun, onward⟩ := hears_bind_iff.mp run
  obtain ⟨t', more', value', rfl, begun', onward'⟩ := hears_bind_iff.mp run'
  obtain ⟨same, shown⟩ := first behaviour heard _ _ _ _ begun begun' (early _ _ ok) (early _ _ ok')
    follows.first follows'.first
  -- What has shown by now is the same in both, so the behaviour goes on as one.
  have later := follows'.rest
  rw [← shown] at later
  obtain ⟨ended, shown'⟩ := rest value value' same behaviour _ _ _ _ _ onward onward' (late _ _ ok)
    (late _ _ ok') follows.rest later
  exact ⟨ended, by rw [Transcript.veiled_append, Transcript.veiled_append, shown, shown']⟩

/-- **Programs that ask what shows alike** are twins if what they make of the answers are, wherever
answers that may come in fair runs show alike. -/
theorem ask {query query' : Bridge.Query} {next : Bridge.Reply query → Program Bridge α}
    {next' : Bridge.Reply query' → Program Bridge α}
    (fairRest : Bridge.Reply query → Transcript Bridge → Prop)
    (shows : ∀ reply reply', (∃ t, fair (⟨query, reply⟩ :: t)) → (∃ t, fair (⟨query', reply'⟩ :: t)) →
      ∃ shown shown', Exchange.veiled ⟨query, reply⟩ = some shown ∧
        Exchange.veiled ⟨query', reply'⟩ = some shown' ∧ shown.query = shown'.query ∧
          (shown = shown' →
            (∀ t, fair (⟨query, reply⟩ :: t) → fairRest reply t) ∧
            (∀ t, fair (⟨query', reply'⟩ :: t) → fairRest reply t) ∧
              (next reply).Twins (fairRest reply) alike (next' reply'))) :
    (Program.ask query next).Twins fair alike (.ask query' next') := by
  intro behaviour heard _ _ _ _ run run' ok ok' follows follows'
  obtain ⟨reply, t, rfl, onward⟩ := hears_ask_iff.mp run
  obtain ⟨reply', t', rfl, onward'⟩ := hears_ask_iff.mp run'
  obtain ⟨shown, shown', shows, shows', same, rest⟩ := shows reply reply' ⟨t, ok⟩ ⟨t', ok'⟩
  have answered : shown.reply = behaviour heard shown.query := follows.head shows
  have answered' : shown'.reply = behaviour heard shown'.query := follows'.head shows'
  obtain rfl : shown = shown' := by
    obtain ⟨q, r⟩ := shown
    obtain ⟨q', r'⟩ := shown'
    obtain rfl : q = q' := same
    simp only at answered answered'
    rw [answered, answered']
  obtain ⟨goes, goes', twins⟩ := rest rfl
  have later := Transcript.Follows.rest (t := [_]) follows
  have later' := Transcript.Follows.rest (t := [_]) follows'
  rw [Transcript.veiled_cons_of_some shows] at later
  rw [Transcript.veiled_cons_of_some shows'] at later'
  obtain ⟨ended, showing⟩ := twins behaviour _ _ _ _ _ onward onward' (goes _ ok) (goes' _ ok')
    later later'
  refine ⟨ended, ?_⟩
  rw [Transcript.veiled_cons_of_some shows, Transcript.veiled_cons_of_some shows', showing]

/-- Programs that ask the same and go on alike, whatever shows of the answer. -/
theorem ask_shown {query : Bridge.Query} {next next' : Bridge.Reply query → Program Bridge α}
    {shows : Bridge.Reply query → Bridge.Reply query}
    (veils : ∀ reply, Exchange.veiled ⟨query, reply⟩ = some (⟨query, shows reply⟩ : Exchange Bridge))
    (rest : ∀ reply reply', shows reply = shows reply' →
      (next reply).Twins (fun _ => True) alike (next' reply')) :
    (Program.ask query next).Twins fair alike (.ask query next') := by
  refine .ask (fun _ _ => True) fun reply reply' _ _ =>
    ⟨_, _, veils reply, veils reply', rfl, fun same => ?_⟩
  have agree : shows reply = shows reply' := eq_of_heq (Exchange.mk.inj same).2
  exact ⟨fun _ _ => trivial, fun _ _ => trivial, rest reply reply' agree⟩

end Twins

end Program

/-- **A question that handles no token**: it shows with all its answers. -/
def Question.Plain (question : Question) : Prop :=
  ∀ reply : Bridge.Reply question,
    Exchange.veiled ⟨question, reply⟩ = some (⟨question, reply⟩ : Exchange Bridge)

/-- **A program that handles no tokens is its own twin.** -/
theorem Program.Twins.of_only {fair : Transcript Bridge → Prop} {p : Program Bridge α}
    (plain : p.Only Question.Plain) : p.Twins fair Eq p := by
  suffices whole : p.Twins (fun _ => True) Eq p from whole.mono (fun _ _ => trivial) fun _ _ => id
  induction p with
  | done value => exact .done rfl
  | ask query next ih =>
    refine .ask_shown plain.1 ?_
    rintro reply _ rfl
    exact ih reply (plain.2 reply)

namespace Step

/-- Two ends of a step that are alike: in their values, or by the same failure. -/
def Alike (alike : α → α → Prop) : Except Failure α → Except Failure α → Prop
  | .ok value, .ok value' => alike value value'
  | .error failure, .error failure' => failure = failure'
  | _, _ => False

theorem alike_eq_iff {ended ended' : Except Failure α} : Alike Eq ended ended' ↔ ended = ended' := by
  cases ended <;> cases ended' <;> simp [Alike]

/-- **A step of which nothing shows**, and which does not fail when no secret is refused. -/
def Hidden (step : Step Unit) : Prop :=
  ∀ t ended, step.Hears t ended → t.Unrefused → ended = .ok () ∧ t.veiled = []

namespace Hidden

theorem pure : (Pure.pure () : Step Unit).Hidden := by
  intro t ended run _
  obtain ⟨rfl, rfl⟩ := hears_pure_iff.mp run
  exact ⟨rfl, rfl⟩

/-- What is written into a secret does not show, nor that it is. -/
theorem applySecret (secret : Secret) (failure : OperationError → Failure) :
    Hidden (cluster (.applySecret secret) failure) := by
  intro t ended run taken
  obtain ⟨e | value, rfl, rfl⟩ := hears_cluster_iff.mp run
  · exact absurd (taken _ (List.mem_singleton.mpr rfl)) nofun
  · exact ⟨rfl, rfl⟩

theorem ite {c : Prop} [Decidable c] {step other : Step Unit} (yes : step.Hidden)
    (no : other.Hidden) : (if c then step else other).Hidden := by
  split
  · exact yes
  · exact no

end Hidden

/-- **Steps that show the same when they are answered alike.** -/
def Twins (fair : Transcript Bridge → Prop) (alike : α → α → Prop) (step step' : Step α) : Prop :=
  Program.Twins fair (Alike alike) step.run step'.run

namespace Twins

variable {fair : Transcript Bridge → Prop} {alike : α → α → Prop} {step step' : Step α}

theorem of {result result' : Except Failure α} (h : Alike alike result result') :
    (Step.of result).Twins fair alike (Step.of result') :=
  Program.Twins.done h

theorem fail (failure : Failure) : (Step.fail failure : Step α).Twins fair alike (Step.fail failure) :=
  of rfl

/-- A step that handles no tokens is its own twin. -/
theorem of_only (plain : step.Only Question.Plain) : step.Twins fair Eq step :=
  (Program.Twins.of_only plain).mono (fun _ => id) fun _ _ => alike_eq_iff.mpr

/-- **Steps put together of twins are twins.** -/
theorem bind {fairFirst fairRest : Transcript Bridge → Prop} {alike' : β → β → Prop}
    {next next' : α → Step β} (early : ∀ t more, fair (t ++ more) → fairFirst t)
    (late : ∀ t more, fair (t ++ more) → fairRest more) (first : step.Twins fairFirst alike step')
    (rest : ∀ value value', alike value value' →
      (next value).Twins fairRest alike' (next' value')) :
    (step >>= next).Twins fair alike' (step' >>= next') := by
  refine Program.Twins.bind early late first fun ended ended' same => ?_
  cases ended with
  | ok value =>
    cases ended' with
    | ok value' => exact rest value value' same
    | error failure => exact same.elim
  | error failure =>
    cases ended' with
    | ok value' => exact same.elim
    | error failure' => exact .done same

/-- One question of whose answers the same shows. -/
theorem alike_mapError {ε : Type} {shows : α → α} {failure : ε → Failure}
    {reply reply' : Except ε α} (same : reply.map shows = reply'.map shows) :
    Alike (fun value value' => shows value = shows value') (reply.mapError failure)
      (reply'.mapError failure) := by
  match reply, reply' with
  | .ok value, .ok value' => exact Except.ok.inj same
  | .error e, .error e' => exact congrArg failure (Except.error.inj same)
  | .ok _, .error _ | .error _, .ok _ => cases same

theorem ite {c c' : Prop} [Decidable c] [Decidable c'] {other other' : Step α} (same : c ↔ c')
    (yes : c → step.Twins fair alike step') (no : ¬ c → other.Twins fair alike other') :
    (if c then step else other).Twins fair alike (if c' then step' else other') := by
  by_cases h : c
  · rw [if_pos h, if_pos (same.mp h)]
    exact yes h
  · rw [if_neg h, if_neg fun h' => h (same.mpr h')]
    exact no h

/-- **A call of the cluster** of whose values a part shows: in that part they agree. -/
theorem cluster {call : ClusterCall} {failure : OperationError → Failure}
    {shows : call.Value → call.Value}
    (veils : ∀ reply, Exchange.veiled (.cluster call reply) =
      some (Exchange.cluster call (reply.map shows))) :
    (Step.cluster call failure).Twins fair (fun value value' => shows value = shows value')
      (Step.cluster call failure) :=
  .ask_shown veils fun _ _ same => .done (alike_mapError same)

/-- **A call of the registry** of whose answers a part shows: in that part they agree. -/
theorem registry {call : RegistryCall} {failure : RegistryError → Failure}
    {shows : Registry.Response call.Value → Registry.Response call.Value}
    (veils : ∀ reply, Exchange.veiled (.registry call reply) =
      some (Exchange.registry call (reply.map shows))) :
    (Step.registry call failure).Twins fair (fun found found' => shows found = shows found')
      (Step.registry call failure) :=
  .ask_shown veils fun _ _ same => .done (alike_mapError same)

/-- Steps of which nothing shows are twins. -/
theorem of_hidden {step step' : Step Unit} (hidden : step.Hidden) (hidden' : step'.Hidden) :
    step.Twins Transcript.Unrefused Eq step' := by
  intro _ _ t t' ended ended' run run' ok ok' _ _
  obtain ⟨rfl, shown⟩ := hidden t ended run ok
  obtain ⟨rfl, shown'⟩ := hidden' t' ended' run' ok'
  exact ⟨rfl, shown.trans shown'.symm⟩

/-- **Steps that are all taken** are twins when each of them is its own twin. -/
theorem all {l : List (Step Unit)} (each : ∀ step ∈ l, step.Twins Transcript.Unrefused Eq step) :
    (Step.all l).Twins Transcript.Unrefused Eq (Step.all l) := by
  induction l with
  | nil => exact of rfl
  | cons step rest ih =>
    refine Program.Twins.bind Transcript.unrefused_first Transcript.unrefused_rest
      (each step (by simp)) fun ended ended' same => ?_
    obtain rfl := alike_eq_iff.mp same
    -- The others are taken whichever way this one has ended.
    refine Program.Twins.bind Transcript.unrefused_first Transcript.unrefused_rest
      (ih fun other mem => each other (by simp [mem])) fun later later' same => ?_
    obtain rfl := alike_eq_iff.mp same
    exact .done (alike_eq_iff.mpr rfl)

end Twins

end Step

/-- **A pass that reports its failure** is its own twin when its step is. -/
theorem Pass.reporting_twins {fair fairStep : Transcript Bridge → Prop} {step step' : Step Action}
    (early : ∀ t more, fair (t ++ more) → fairStep t) (h : step.Twins fairStep Eq step') :
    (Pass.reporting step).Twins fair Eq (Pass.reporting step') := by
  refine .bind early (fun _ _ _ => trivial) h fun ended ended' same => ?_
  obtain rfl := Step.alike_eq_iff.mp same
  cases ended with
  | ok action => exact .done rfl
  | error failure => exact .of_only ⟨fun _ => rfl, fun _ => trivial⟩

end RegistryBridge
