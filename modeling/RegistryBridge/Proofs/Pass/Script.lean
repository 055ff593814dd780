import RegistryBridge.Proofs.Program.Transcript
import RegistryBridge.Proofs.World.Conduct
/-!
# Steps of a pass against any script

Nothing is known of the answers but that they are answers: any call may give any error, any status,
any content or none. What a step does then is told by the transcript alone.

## Main definitions

* `Exchange.cluster`, `Exchange.registry`, `Exchange.published`: the exchanges of a pass.
* `Exchange.Fails`: an exchange with a failing answer; `Transcript.Sound`: a transcript without one.
* `Transcript.Then`: what was heard, once something else held; `Transcript.Lasting`: what stays true
  whatever else is heard.
* `Step.Heeds`: a step that ends with a value only where nothing has failed.

## Main results

* `Step.always_cluster_script` and one rule for each other way of asking.
* `Step.Heeds.bind`, `Step.Heeds.registry_bind`, `Step.Heeds.all`: how such steps are put together.
-/

namespace RegistryBridge

variable {α β : Type}

/-- Every question of a pass has an answer. -/
instance (question : Bridge.Query) : Nonempty (Bridge.Reply question) :=
  ⟨(World.answer question {}).1⟩

namespace Exchange

/-- A call of the cluster, with its answer. -/
abbrev cluster (call : ClusterCall) (reply : Except OperationError call.Value) : Exchange Bridge :=
  ⟨.cluster call, reply⟩

/-- A call of the registry, with its answer. -/
abbrev registry (call : RegistryCall)
    (reply : Except RegistryError (Registry.Response call.Value)) : Exchange Bridge :=
  ⟨.registry call, reply⟩

/-- An event that has been published. -/
abbrev published (event : Event) : Exchange Bridge :=
  ⟨.publish event, ()⟩

/-- **An exchange with a failing answer**: an error, or a status that says nothing. -/
def Fails (e : Exchange Bridge) : Prop :=
  e.query.Fails e.reply

theorem not_fails_cluster_ok (call : ClusterCall) (value : call.Value) :
    ¬ (cluster call (.ok value)).Fails := by
  rintro ⟨e, ⟨⟩⟩

theorem not_fails_published (event : Event) : ¬ (published event).Fails := id

theorem fails_cluster_error (call : ClusterCall) (e : OperationError) :
    (cluster call (.error e)).Fails :=
  ⟨e, rfl⟩

theorem fails_registry_error (call : RegistryCall) (e : RegistryError) :
    (registry call (.error e)).Fails :=
  .inl ⟨e, rfl⟩

theorem fails_connect_error (hostname token : String) (insecure : Bool) (e : RegistryError) :
    Fails ⟨.connect hostname token insecure, (.error e : Except RegistryError Unit)⟩ :=
  ⟨e, rfl⟩

theorem fails_registry_ok (call : RegistryCall) (response : Registry.Response call.Value) :
    (registry call (.ok response)).Fails ↔ response.status ∉ call.telling := by
  constructor
  · rintro (⟨e, h⟩ | ⟨_, h, unclear⟩)
    · cases h
    · obtain rfl := Except.ok.inj h
      exact unclear
  · exact fun unclear => .inr ⟨response, rfl, unclear⟩

end Exchange

namespace Transcript

/-- **A transcript in which nothing fails.** -/
def Sound (t : Transcript Bridge) : Prop :=
  ∀ e ∈ t, ¬ e.Fails

/-- **Something was heard once something else held** of all that had been heard before. -/
def Then (before : Transcript Bridge → Prop) (heard : Exchange Bridge → Prop)
    (t : Transcript Bridge) : Prop :=
  ∃ front e back, t = front ++ e :: back ∧ before front ∧ heard e

variable {e : Exchange Bridge} {t more : Transcript Bridge}

theorem sound_cons : Sound (e :: t) ↔ ¬ e.Fails ∧ Sound t :=
  List.forall_mem_cons

theorem sound_append : Sound (t ++ more) ↔ Sound t ∧ Sound more :=
  List.forall_mem_append

theorem sound_singleton : Sound [e] ↔ ¬ e.Fails :=
  List.forall_mem_singleton

theorem Sound.snoc (sound : Sound t) (h : ¬ e.Fails) : Sound (t ++ [e]) :=
  sound_append.mpr ⟨sound, sound_singleton.mpr h⟩

section Then

variable {before : Transcript Bridge → Prop} {heard : Exchange Bridge → Prop}

theorem Then.snoc (h : before t) (now : heard e) : Then before heard (t ++ [e]) :=
  ⟨t, e, [], rfl, h, now⟩

/-- What has been heard stays heard. -/
theorem Then.grow (h : Then before heard t) (more : Transcript Bridge) :
    Then before heard (t ++ more) := by
  obtain ⟨front, e, back, rfl, first, now⟩ := h
  exact ⟨front, e, back ++ more, by simp, first, now⟩

end Then

/-! ## What stays true of a longer transcript -/

/-- **What stays true** whatever else is heard, before, between or after. -/
def Lasting (P : Transcript Bridge → Prop) : Prop :=
  ∀ ⦃t t'⦄, List.Sublist t t' → P t → P t'

section Lasting

variable {P Q : Transcript Bridge → Prop}

theorem Lasting.always : Lasting fun _ => True :=
  fun _ _ _ => id

theorem Lasting.or (left : Lasting P) (right : Lasting Q) : Lasting fun t => P t ∨ Q t :=
  fun _ _ sub => Or.imp (left sub) (right sub)

theorem Lasting.then (before : Lasting P) (heard : Exchange Bridge → Prop) :
    Lasting (Then P heard) := by
  rintro _ t' sub ⟨front, e, back, rfl, first, now⟩
  obtain ⟨front', rest, rfl, sub_front, sub_rest⟩ := List.append_sublist_iff.mp sub
  obtain ⟨skipped, back', rfl, mem, -⟩ := List.cons_sublist_iff.mp sub_rest
  obtain ⟨more, tail, rfl⟩ := List.append_of_mem mem
  refine ⟨front' ++ more, e, tail ++ back', by simp, before ?_ first, now⟩
  exact sub_front.trans (List.sublist_append_left front' more)

/-- What lasts is kept when more is heard. -/
theorem Lasting.grow (lasting : Lasting P) (h : P t) (more : Transcript Bridge) : P (t ++ more) :=
  lasting (List.sublist_append_left t more) h

end Lasting

end Transcript

/-- **The registry has answered a call**, in some way. -/
def RegistryCall.Answered (call : RegistryCall) (meant : Registry.Response call.Value → Prop)
    (e : Exchange Bridge) : Prop :=
  ∃ response, e = .registry call (.ok response) ∧ meant response

/-- **The cluster has given what a call asks for**, of some kind. -/
def ClusterCall.Given (call : ClusterCall) (meant : call.Value → Prop)
    (e : Exchange Bridge) : Prop :=
  ∃ value, e = .cluster call (.ok value) ∧ meant value

namespace Step

variable {asked : Question → Transcript Bridge → Prop} {lost : Failure → Transcript Bridge → Prop}
  {t : Transcript Bridge}

/-- A call of the cluster may give any value, or any error. -/
theorem always_cluster_script (call : ClusterCall) (failure : OperationError → Failure)
    {ends : call.Value → Transcript Bridge → Prop} :
    (cluster call failure).Always (.script Bridge) asked ends lost t ↔
      asked (.cluster call) t ∧ (∀ value, ends value (t ++ [.cluster call (.ok value)])) ∧
        ∀ e, lost (failure e) (t ++ [.cluster call (.error e)]) := by
  refine (always_cluster call failure).trans (and_congr Iff.rfl ⟨?_, ?_⟩)
  · intro h
    exact ⟨fun value => h (.ok value) _ rfl, fun e => h (.error e) _ rfl⟩
  · rintro ⟨value, error⟩ (e | v) _ rfl
    · exact error e
    · exact value v

/-- A call of the registry may give any status with any content or none, or any error. -/
theorem always_registry_script (call : RegistryCall) (failure : RegistryError → Failure)
    {ends : Registry.Response call.Value → Transcript Bridge → Prop} :
    (registry call failure).Always (.script Bridge) asked ends lost t ↔
      asked (.registry call) t ∧
        (∀ response, ends response (t ++ [.registry call (.ok response)])) ∧
        ∀ e, lost (failure e) (t ++ [.registry call (.error e)]) := by
  refine (always_registry call failure).trans (and_congr Iff.rfl ⟨?_, ?_⟩)
  · intro h
    exact ⟨fun response => h (.ok response) _ rfl, fun e => h (.error e) _ rfl⟩
  · rintro ⟨value, error⟩ (e | response) _ rfl
    · exact error e
    · exact value response

theorem always_tell_script (transition : Transition) (object : ObjectReference) (note : String)
    {ends : Unit → Transcript Bridge → Prop} :
    (tell transition object note).Always (.script Bridge) asked ends lost t ↔
      asked (.publish (transition.event object note)) t ∧
        ends () (t ++ [.published (transition.event object note)]) := by
  refine (always_tell transition object note).trans (and_congr Iff.rfl ⟨?_, ?_⟩)
  · intro h
    exact h () _ rfl
  · rintro h reply _ rfl
    exact h

/-! ## Steps that heed what fails -/

/-- **A step that heeds what fails**: whatever it is answered, it asks only where `asked` allows it,
and it ends with a value only where nothing has failed. -/
def Heeds (asked : Question → Transcript Bridge → Prop) (ends : α → Transcript Bridge → Prop)
    (step : Step α) (t : Transcript Bridge) : Prop :=
  step.Always (.script Bridge) asked (fun value after => ends value after ∧ (t.Sound → after.Sound))
    (fun _ _ => True) t

namespace Heeds

variable {ends : α → Transcript Bridge → Prop}

theorem mono {asked' : Question → Transcript Bridge → Prop}
    {ends' : α → Transcript Bridge → Prop} {step : Step α} (h : step.Heeds asked ends t)
    (hasked : ∀ question t, asked question t → asked' question t)
    (hends : ∀ value t, ends value t → ends' value t) : step.Heeds asked' ends' t :=
  Always.mono h hasked (fun _ _ h => ⟨hends _ _ h.1, h.2⟩) fun _ _ => id

/-- Where nothing had failed before, nothing has failed when a value is there. -/
theorem sound {step : Step α} (h : step.Heeds asked ends t) (start : t.Sound) :
    step.Heeds asked (fun value after => ends value after ∧ after.Sound) t :=
  Always.mono h (fun _ _ => id) (fun _ _ h => ⟨⟨h.1, h.2 start⟩, h.2⟩) fun _ _ => id

/-- What every exchange keeps stands at every question, and when a value is there. -/
theorem keep {step : Step α} {kept : Transcript Bridge → Prop} (h : step.Heeds asked ends t)
    (grows : ∀ t e, kept t → kept (t ++ [e])) (start : kept t) :
    step.Heeds (fun question t => asked question t ∧ kept t)
      (fun value after => ends value after ∧ kept after) t := by
  refine (Program.Always.keep h (fun _ _ _ _ allowed h => allowed ▸ grows _ _ h) start).mono
    (fun _ _ => id) ?_
  rintro (failure | value) after ⟨ended, kept⟩
  · trivial
  · exact ⟨⟨ended.1, kept⟩, ended.2⟩

theorem pure {value : α} (h : ends value t) : (Pure.pure value : Step α).Heeds asked ends t :=
  ⟨h, id⟩

theorem of {result : Except Failure α} (h : ∀ value, result = .ok value → ends value t) :
    (Step.of result).Heeds asked ends t := by
  cases result with
  | ok value => exact ⟨h value rfl, id⟩
  | error failure => trivial

theorem fail (failure : Failure) : (Step.fail failure : Step α).Heeds asked ends t :=
  trivial

theorem bind {ends' : β → Transcript Bridge → Prop} {step : Step α} {next : α → Step β}
    (first : step.Heeds asked ends t)
    (rest : ∀ value after, ends value after → (next value).Heeds asked ends' after) :
    (step >>= next).Heeds asked ends' t := by
  refine (always_bind step next).mpr (Always.mono first (fun _ _ => id) ?_ fun _ _ => id)
  rintro value after ⟨h, sound⟩
  exact Always.mono (rest value after h) (fun _ _ => id)
    (fun _ _ h => ⟨h.1, fun start => h.2 (sound start)⟩) fun _ _ => id

/-- A call of the cluster fails with an error, and that loses the pass. -/
theorem cluster {call : ClusterCall} {failure : OperationError → Failure}
    {ends : call.Value → Transcript Bridge → Prop} (ask : asked (.cluster call) t)
    (h : ∀ value, ends value (t ++ [.cluster call (.ok value)])) :
    (Step.cluster call failure).Heeds asked ends t :=
  (always_cluster_script call failure).mpr ⟨ask,
    fun value => ⟨h value, fun sound => sound.snoc (Exchange.not_fails_cluster_ok _ _)⟩,
    fun _ => trivial⟩

theorem cluster_bind {call : ClusterCall} {failure : OperationError → Failure}
    {next : call.Value → Step α} (ask : asked (.cluster call) t)
    (rest : ∀ value, (next value).Heeds asked ends (t ++ [.cluster call (.ok value)])) :
    (Step.cluster call failure >>= next).Heeds asked ends t := by
  have first : (Step.cluster call failure).Heeds asked
      (fun value after => after = t ++ [.cluster call (.ok value)]) t := .cluster ask fun _ => rfl
  refine first.bind ?_
  rintro value _ rfl
  exact rest value

/-- **A call of the registry** whose answer is taken up: the statuses that say something each in
their way, and any other one as the loss of the pass. -/
theorem registry_bind {call : RegistryCall} {failure : RegistryError → Failure}
    {next : Registry.Response call.Value → Step α} (ask : asked (.registry call) t)
    (told : ∀ response, response.status ∈ call.telling →
      (next response).Heeds asked ends (t ++ [.registry call (.ok response)]))
    (unclear : ∀ response, response.status ∉ call.telling →
      ∃ failure, next response = Step.fail failure) :
    (Step.registry call failure >>= next).Heeds asked ends t := by
  refine (always_bind _ _).mpr ((always_registry_script call failure).mpr
    ⟨ask, fun response => ?_, fun _ => trivial⟩)
  by_cases status : response.status ∈ call.telling
  · have clear : ¬ (Exchange.registry call (.ok response)).Fails := fun fails =>
      (Exchange.fails_registry_ok call response).mp fails status
    exact Always.mono (told response status) (fun _ _ => id)
      (fun _ _ h => ⟨h.1, fun start => h.2 (start.snoc clear)⟩) fun _ _ => id
  · obtain ⟨failure, lost⟩ := unclear response status
    rw [lost]
    trivial

theorem tell {transition : Transition} {object : ObjectReference} {note : String}
    {ends : Unit → Transcript Bridge → Prop}
    (ask : asked (.publish (transition.event object note)) t)
    (h : ends () (t ++ [.published (transition.event object note)])) :
    (Step.tell transition object note).Heeds asked ends t :=
  (always_tell_script transition object note).mpr
    ⟨ask, h, fun sound => sound.snoc (Exchange.not_fails_published _)⟩

theorem tell_bind {transition : Transition} {object : ObjectReference} {note : String}
    {next : Unit → Step α} (ask : asked (.publish (transition.event object note)) t)
    (rest : (next ()).Heeds asked ends (t ++ [.published (transition.event object note)])) :
    (Step.tell transition object note >>= next).Heeds asked ends t := by
  have first : (Step.tell transition object note).Heeds asked
      (fun _ after => after = t ++ [.published (transition.event object note)]) t := .tell ask rfl
  refine first.bind ?_
  rintro ⟨⟩ _ rfl
  exact rest

theorem ite {p : Prop} [Decidable p] {step other : Step α} (yes : p → step.Heeds asked ends t)
    (no : ¬ p → other.Heeds asked ends t) : (if p then step else other).Heeds asked ends t :=
  Always.ite yes no

/-- **Steps that are all taken** heed what fails when each of them does, in any transcript where
something holds that stays true as more is heard. -/
theorem all {l : List (Step Unit)} (before : Transcript Bridge → Prop)
    (grows : ∀ t e, before t → before (t ++ [e]))
    (each : ∀ step ∈ l, ∀ t, before t → step.Heeds asked (fun _ _ => True) t) (start : before t) :
    (Step.all l).Heeds asked (fun _ after => before after) t := by
  induction l generalizing t with
  | nil => exact ⟨start, id⟩
  | cons step rest ih =>
    have first := Program.Always.keep (each step (by simp) t start)
      (fun _ _ _ _ allowed h => allowed ▸ grows _ _ h) start
    refine (Program.always_bind step.run _ t).mpr (first.mono (fun _ _ h => h.1) ?_)
    rintro result middle ⟨h, held⟩
    have later := ih (fun other mem => each other (by simp [mem])) held
    -- The rest is taken either way, but a failure of the first step counts.
    refine (Program.always_bind _ _ middle).mpr (Program.Always.mono later (fun _ _ => id) ?_)
    rintro (failure' | ⟨⟩) after h'
    · cases result <;> trivial
    · cases result with
      | ok => exact ⟨h'.1, fun sound => h'.2 (h.2 sound)⟩
      | error failure => trivial

end Heeds

end Step

/-- **A pass that reports its failure** ends as its step does, the report in the transcript. -/
theorem Pass.always_reporting_script {asked : Question → Transcript Bridge → Prop}
    {ends : Except Failure Action → Transcript Bridge → Prop} {t : Transcript Bridge}
    {step : Step Action}
    (h : step.Always (.script Bridge) asked (fun action after => ends (.ok action) after)
      (fun failure after => asked (.publish (Event.ofFailure failure)) after ∧
        ends (.error failure) (after ++ [.published (Event.ofFailure failure)])) t) :
    (Pass.reporting step).Always (.script Bridge) asked ends t := by
  refine Pass.always_reporting (h.mono (fun _ _ => id) (fun _ _ => id) ?_)
  rintro failure after ⟨may, reported⟩
  refine ⟨may, ?_⟩
  rintro reply _ rfl
  exact reported

end RegistryBridge
