import QuantumDebug.Proofs.Session.Lifecycle

/-!
What an attentive client is answered, and what becomes of a waiting launch. A call answers its own
request and the launch that goes ahead at it, and nothing else; a launch that is taken up and loads
has no other answer than that.
-/

namespace QuantumDebug

variable {S : Surroundings}

namespace Debugger

/-- Whether a request is a launch that is taken up and whose program loads. -/
def loads (d : Debugger S) (r : Request) : Bool :=
  match r.command with
  | .launch noDebug data =>
    match d.accepted? noDebug data with
    | .ok config => (S.engine.loadProgram config d.world.engine).1.toBool
    | .error _ => false
  | _ => false

/-- The launch that goes ahead at a call: one that waits and is due, or one that the call begins and
that need not wait. -/
def goes? (d : Debugger S) : Call → Option Request
  | .resume now => (d.due now).map PendingLaunch.request
  | .request now later r =>
    if r.command = .configurationDone then d.pending.map PendingLaunch.request
    else if d.loads r ∧ (d.configured ∨ now + d.timeout ≤ later) then some r
    else none

def waits? (d : Debugger S) (c : Call) : Option PendingLaunch :=
  if c.Asks .terminate ∨ c.Asks .disconnect ∨ (d.goes? c).isSome then none
  else
    match c with
    | .request now _ r => if d.loads r then some ⟨r, now + d.timeout⟩ else d.pending
    | .resume _ => d.pending

section Loads

variable {d : Debugger S} {r : Request}

lemma loads_eq_true {noDebug : Option Bool} {data : Option Json} {config : RunConfiguration}
    {urls : List Url} (command : r.command = .launch noDebug data)
    (accepted : d.accepted? noDebug data = .ok config)
    (answered : (S.engine.loadProgram config d.world.engine).1 = .ok urls) : d.loads r = true := by
  simp [loads, command, accepted, answered, Except.toBool]

lemma command_of_loads (hr : d.loads r = true) :
    ∃ noDebug data, r.command = .launch noDebug data := by
  unfold loads at hr
  split at hr
  · exact ⟨_, _, ‹_›⟩
  · simp at hr

lemma accepted_of_loads (hr : d.loads r = true) : ¬ .awaitingConfiguration ≤ d.phase := by
  unfold loads at hr
  split at hr
  · split at hr
    · exact accepted_phase ‹_›
    · simp at hr
  · simp at hr

lemma loads_of_command (command : ∀ noDebug data, r.command ≠ .launch noDebug data) :
    d.loads r = false := by
  unfold loads
  split
  · exact absurd ‹_› (command _ _)
  · rfl

/-- A request that sends no launch going and begins none. -/
structure Plain (d : Debugger S) (r : Request) : Prop where
  loads : d.loads r = false
  command : r.command ≠ .configurationDone

lemma Plain.of_neutral (command : r.command.Neutral) : d.Plain r :=
  ⟨loads_of_command command.launch, command.configurationDone⟩

lemma Plain.of_command {c : Command} (command : r.command = c) (hc : c ≠ .configurationDone)
    (noLaunch : ∀ noDebug data, c ≠ .launch noDebug data) : d.Plain r :=
  ⟨loads_of_command (command ▸ noLaunch), command ▸ hc⟩

lemma Plain.of_refuses {e : SessionError} {text : String} (refuses : Refuses d r e text) :
    d.Plain r := by
  cases refuses with
  | launch command h => exact ⟨by simp [Debugger.loads, command, h], by simp [command]⟩
  | unsupported command => exact .of_command command (by simp) (by simp)

lemma Plain.of_error {noDebug : Option Bool} {data : Option Json} {config : RunConfiguration}
    {e : EngineError} (command : r.command = .launch noDebug data)
    (accepted : d.accepted? noDebug data = .ok config)
    (failed : (S.engine.loadProgram config d.world.engine).1 = .error e) : d.Plain r :=
  ⟨by simp [Debugger.loads, command, accepted, failed, Except.toBool], by simp [command]⟩

lemma Plain.goes? {now later : Nat} (hr : d.Plain r) : d.goes? (.request now later r) = none := by
  simp [Debugger.goes?, hr.loads, hr.command]

lemma Plain.waits? {now later : Nat} (hr : d.Plain r)
    (goesOn : r.command ≠ .terminate ∧ r.command ≠ .disconnect) :
    d.waits? (.request now later r) = d.pending := by
  simp [Debugger.waits?, Call.Asks, Call.request?, hr.goes?, goesOn, hr.loads]

lemma goes?_of_loads {now later : Nat} (hr : d.loads r = true) :
    d.goes? (.request now later r) =
      if d.configured ∨ now + d.timeout ≤ later then some r else none := by
  obtain ⟨noDebug, data, command⟩ := command_of_loads hr
  simp [goes?, hr, command]

lemma due_await (now later : Nat) : (d.await now r).due later =
    if d.configured ∨ now + d.timeout ≤ later then some ⟨r, now + d.timeout⟩ else none := by
  by_cases hc : d.configured <;> by_cases hl : now + d.timeout ≤ later <;>
    simp [due, hc, hl, Nat.lt_of_not_le]

end Loads

/-! ### Replies -/

section Replies

variable {message : String} {code : Int} {m : Message} {action : StepAction} {now later : Nat}
  {r : Request} {d : Debugger S} {es : List Effect} {h : Handled S}

lemma replies_map_event {α : Type} (f : α → Event) (xs : List α) :
    replies (xs.map fun x => .message (.event (f x)) true) = [] := by
  induction xs with
  | nil => rfl
  | cons x xs ih => simpa using ih

lemma Ends.replies (ends : Ends message code d es h) : replies es = [] := by
  cases ends with
  | past => rfl
  | closes _ sent => rw [replies_telemetry, sent.replies]

lemma EndsAfter.replies (ends : EndsAfter m message code d es h) :
    replies es = replies [.message m true] := by
  cases ends with
  | heard ends => rw [← List.singleton_append, replies_append, ends.replies, List.append_nil]
  | unheard => cases m <;> rfl

lemma Steps.replies (steps : Steps action d es h) : replies es = [] := by
  cases steps with
  | idle => rfl
  | stops _ tail =>
    rw [replies_append, question, replies_engine, replies_work fun e he => (tail e he).work]
    rfl
  | completes _ tail _ ends =>
    rw [replies_append, question, replies_engine, replies_work fun e he => (tail e he).work,
      ends.replies, List.append_nil]
  | fails _ tail _ ends =>
    rw [replies_append, question, replies_engine, replies_work fun e he => (tail e he).work,
      ends.replies]
    rfl

lemma Shoots.replies (shoots : Shoots d es h) : replies es = [] := by
  cases shoots with
  | finishes work _ _ ends => rw [replies_append, replies_work work, ends.replies, List.append_nil]
  | fails work _ ends =>
    rw [replies_append, replies_work work, ends.replies]
    rfl

lemma Proceeds.replies (proceeds : Proceeds d es h) : replies es = [] := by
  cases proceeds with
  | shots _ shoots => exact shoots.replies
  | step _ steps => exact steps.replies

lemma Resumes.replies (resumes : Resumes now d es h) :
    replies es = ((d.due now).map fun l => l.request.success .launch).toList := by
  cases resumes with
  | waits hd => rw [hd]; rfl
  | unheard hd => rw [hd]; rfl
  | goes hd proceeds =>
    rw [hd, PendingLaunch.ack, Request.answer, replies_response, proceeds.replies]
    rfl

/-- The response of a call to its own request, if it has one. A launch that loads is answered when it
goes ahead. -/
def Owns (d : Debugger S) : Call → List Response → Prop
  | .resume _, own => own = []
  | .request _ _ r, own =>
    if d.loads r then own = [] else ∃ reply, reply ≠ .success .launch ∧ own = [⟨r.seq, reply⟩]

/-- The responses of a call: its own, then the success of the launch that goes ahead at it. -/
def Answers (d : Debugger S) (c : Call) (rs : List Response) : Prop :=
  ∃ own, d.Owns c own ∧ rs = own ++ ((d.goes? c).map fun q => q.success .launch).toList

lemma Plain.answers (hr : d.Plain r) {reply : Reply} (noLaunch : reply ≠ .success .launch) :
    d.Answers (.request now later r) [⟨r.seq, reply⟩] := by
  refine ⟨[⟨r.seq, reply⟩], ?_, by simp [hr.goes?]⟩
  rw [Owns, if_neg (by simp [hr.loads])]
  exact ⟨reply, noLaunch, rfl⟩

lemma Handles.answers (hS : S.Attentive) (handles : Handles now later r d es h) :
    d.Answers (.request now later r) (replies es) := by
  cases handles with
  | looks command aside _ noLaunch =>
    rw [replies_append, replies_work fun e he => (aside e he).work]
    exact (Plain.of_neutral (Command.neutral_of_looks command)).answers (by simpa using noLaunch)
  | greets command sent =>
    obtain rfl := sent.ok hS
    rw [sent.eq_map]
    exact (Plain.of_command command (by simp) (by simp)).answers
      (show Reply.success .initializeSession ≠ _ by simp)
  | refuses refuses => exact (Plain.of_refuses refuses).answers (by simp)
  | unheard _ hA => exact absurd hS hA
  | configures command resumes =>
    refine ⟨[⟨r.seq, .success .configurationDone⟩], ?_, ?_⟩
    · rw [Owns, if_neg (by simp [loads_of_command, command])]
      exact ⟨_, by simp, rfl⟩
    · rw [Request.answer, replies_response, resumes.replies, due_of_configured rfl, goes?,
        if_pos command, Option.map_map]
      rfl
  | steps command steps =>
    rw [Request.answer, replies_response, steps.replies]
    exact (Plain.of_neutral (Command.neutral_of_step command)).answers (by simpa using Command.ne_launch_of_step command)
  | loadFails command accepted failed _ _ ends =>
    rw [taken, replies_telemetry, replies_engine, ends.replies]
    exact (Plain.of_error command accepted failed).answers (show Reply.failure _ ≠ _ by simp)
  | loses _ _ _ _ _ hA => exact absurd hS hA
  | launches command accepted answered _ _ aside resumes =>
    have hloads := loads_eq_true command accepted answered
    refine ⟨[], by rw [Owns, if_pos hloads], ?_⟩
    rw [taken, replies_telemetry, replies_engine, replies_append, replies_append,
      replies_work fun e he => (aside e he).work, replies_map_event, resumes.replies, due_await,
      launching_configured, launching_timeout, goes?_of_loads hloads]
    split <;> rfl
  | terminates command ends =>
    rw [replies_engine, ends.replies]
    exact (Plain.of_command command (by simp) (by simp)).answers
      (show Reply.success .terminate ≠ _ by simp)
  | disconnects command =>
    exact (Plain.of_command command (by simp) (by simp)).answers
      (show Reply.success .disconnect ≠ _ by simp)

/-! ### The launch that waits -/

lemma Resumes.pending (hS : S.Attentive) (resumes : Resumes now d es h) :
    h.2.pending = if (d.due now).isSome then none else d.pending := by
  cases resumes with
  | waits hd => simp [hd, done]
  | unheard _ hA => exact absurd hS hA
  | goes hd proceeds => rw [hd, proceeds.onward.pending rfl]; rfl

lemma Handles.pending (hS : S.Attentive) (hd : Patient d) (handles : Handles now later r d es h) :
    h.2.pending = d.waits? (.request now later r) := by
  cases handles with
  | looks command =>
    have neutral := Command.neutral_of_looks command
    exact ((Plain.of_neutral (d := d) neutral).waits? ⟨neutral.terminate, neutral.disconnect⟩).symm
  | greets command =>
    exact ((Plain.of_command (d := d) command (by simp) (by simp)).waits? (by simp [command])).symm
  | refuses refuses =>
    refine ((Plain.of_refuses refuses).waits? ?_).symm
    cases refuses <;> simp [*]
  | unheard _ hA => exact absurd hS hA
  | configures command resumes =>
    rw [resumes.pending hS, due_of_configured rfl]
    cases hp : d.pending <;>
      simp [waits?, goes?, command, loads_of_command, Call.Asks, Call.request?, hp]
  | steps command steps =>
    have hsame : h.2.pending = d.pending := by
      rcases steps.idle_or_running with ⟨-, rfl⟩ | hrun
      · rfl
      · have hphase : d.phase ≠ .awaitingConfiguration := by
          rw [show d.phase = .running from hrun]
          decide
        rw [hd.pending_none hphase]
        exact steps.onward.pending (hd.pending_none hphase)
    have neutral := Command.neutral_of_step command
    rw [hsame]
    exact ((Plain.of_neutral (d := d) neutral).waits? ⟨neutral.terminate, neutral.disconnect⟩).symm
  | loadFails command accepted failed _ _ ends =>
    have hnone := hd.pending_none (ne_awaiting_of_accepted accepted)
    rw [ends.onward.pending hnone,
      (Plain.of_error command accepted failed).waits? (by simp [command]), hnone]
  | loses _ _ _ _ _ hA => exact absurd hS hA
  | launches command accepted answered _ _ _ resumes =>
    have hloads := loads_eq_true command accepted answered
    rw [resumes.pending hS, due_await, waits?, goes?_of_loads hloads]
    by_cases hgo : d.configured = true ∨ now + d.timeout ≤ later
    · simp [hgo]
    · simp [hgo, hloads, Call.Asks, Call.request?, command]
  | terminates command ends =>
    have hnone : h.2.pending = none := by
      rcases ends.settles with hnone | heq
      · exact hnone
      · have hphase : d.phase = .terminated := by simpa [heq] using ends.terminated hS
        rw [heq, play_pending, play_pending]
        exact hd.pending_none (by simp [hphase])
    simp [hnone, waits?, Call.Asks, Call.request?, command]
  | disconnects command => simp [waits?, Call.Asks, Call.request?, command]

end Replies

/-- A call answers its own request and the launch that goes ahead at it, and nothing else. -/
theorem call_answers (hS : S.Attentive) (d : Debugger S) (c : Call) :
    d.Answers c (replies (d.effects c)) := by
  cases d.call_moves c with
  | request handles => exact handles.answers hS
  | resume resumes => exact ⟨[], rfl, by rw [resumes.replies, goes?, Option.map_map]; rfl⟩

/-- What waits after a call. -/
theorem call_pending (hS : S.Attentive) {d : Debugger S} (hd : Patient d) (c : Call) :
    (d.call c).2.pending = d.waits? c := by
  cases d.call_moves c with
  | request handles => exact handles.pending hS hd
  | resume resumes => simp [resumes.pending hS, waits?, goes?, Call.Asks, Call.request?]

/-- A launch that waits after a call has been begun by it, or it waited before and was not due. -/
lemma waits?_eq_some {d : Debugger S} {c : Call} {l : PendingLaunch} (h : d.waits? c = some l) :
    (∃ now later, c = .request now later l.request ∧ d.loads l.request = true ∧
        l.deadline = now + d.timeout ∧ later < l.deadline) ∨
      d.pending = some l ∧ ¬ c.Asks .configurationDone ∧ ∀ t, c = .resume t → t < l.deadline := by
  unfold waits? at h
  split at h
  · simp at h
  · rename_i hlasts
    have hgoes : d.goes? c = none := by
      simp only [not_or] at hlasts
      simpa using hlasts.2.2
    cases c with
    | resume now =>
      dsimp only at h
      refine .inr ⟨h, by simp [Call.Asks, Call.request?], ?_⟩
      rintro t ⟨rfl⟩
      simp [goes?, due, h] at hgoes
      omega
    | request now later r =>
      dsimp only at h
      by_cases hr : d.loads r
      · rw [if_pos hr, Option.some.injEq] at h
        subst h
        rw [goes?_of_loads hr] at hgoes
        have hwait : ¬ (d.configured = true ∨ now + d.timeout ≤ later) := by simpa using hgoes
        exact .inl ⟨now, later, rfl, hr, rfl, by
          simp only [not_or] at hwait
          exact Nat.lt_of_not_le hwait.2⟩
      · rw [if_neg hr] at h
        refine .inr ⟨h, fun hc => ?_, by simp⟩
        have command : r.command = .configurationDone := by
          simpa [Call.Asks, Call.request?] using hc
        simp [goes?, command, h] at hgoes

end Debugger

end QuantumDebug
