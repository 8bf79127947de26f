import QuantumDebug.Proofs.Session.Replies
import QuantumDebug.Proofs.Session.Scripted

/-!
A session of an attentive client launches its program at most once. The launch is acknowledged when
it goes ahead, the program runs only after that, and no later call acknowledges it again.
-/

namespace QuantumDebug

variable {S : Surroundings}

/-- The number of the launch whose success a response is. -/
def Response.launched? (r : Response) : Option Int :=
  if r.reply = .success .launch then some r.requestSeq else none

def acks (es : List Effect) : List Int := (replies es).filterMap Response.launched?

@[simp] lemma acks_append (es fs : List Effect) : acks (es ++ fs) = acks es ++ acks fs := by
  simp [acks]

@[simp] def Effect.Evals : Effect → Prop
  | .engine (.eval _ _) => True
  | _ => False

lemma Effect.Evals.runs {e : Effect} (h : e.Evals) : e.Runs := by
  unfold Effect.Evals at h
  split at h
  · trivial
  · exact h.elim

@[simp] def Effect.Stops : Effect → Prop
  | .message (.event (.stopped _ _)) _ => True
  | _ => False

lemma Effect.Work.not_stops {e : Effect} (h : e.Work) : ¬ e.Stops := by
  rcases e with _ | _ | _ | m
  · exact id
  · exact id
  · exact id
  · rcases m with r | e
    · exact id
    · cases e <;> simp [Work] at h ⊢

/-- A launch has been acknowledged before any run of the program. -/
def Prefaced (es : List Effect) : Prop :=
  ∀ pre e post, es = pre ++ e :: post → e.Evals → acks pre ≠ []

lemma Prefaced.of_not_runs {es : List Effect} (h : ∀ e ∈ es, ¬ e.Runs) : Prefaced es := by
  rintro pre e post rfl he
  exact absurd he.runs (h e (by simp))

lemma Prefaced.append {es fs : List Effect} (hes : Prefaced es)
    (hfs : acks es ≠ [] ∨ Prefaced fs) : Prefaced (es ++ fs) := by
  intro pre e post heq he
  rcases List.append_eq_append_iff.mp heq with ⟨mid, rfl, hpost⟩ | ⟨mid, rfl, hmid⟩
  · rw [acks_append]
    rcases hfs with hacks | hfs
    · simp [hacks]
    · simp [hfs mid e post hpost he]
  · cases mid with
    | nil =>
      obtain rfl : fs = e :: post := by simpa using hmid.symm
      rcases hfs with hacks | hfs
      · simpa using hacks
      · exact absurd rfl (hfs [] e post rfl he)
    | cons e' mid =>
      obtain ⟨rfl, rfl⟩ : e = e' ∧ post = mid ++ fs := by simpa using hmid
      exact hes pre e mid rfl he

lemma Prefaced.cons {e : Effect} {es : List Effect} (he : ¬ e.Evals) (hes : Prefaced es) :
    Prefaced (e :: es) := by
  have hhead : Prefaced [e] := by
    intro pre e' post heq he'
    have hmem : e' ∈ [e] := by simp [heq]
    exact absurd (List.mem_singleton.mp hmem ▸ he') he
  exact hhead.append (.inr hes)

namespace Debugger

section Goes

variable {now later : Nat} {r : Request} {d : Debugger S} {es : List Effect} {h : Handled S}

lemma goes?_of_running (hd : Patient d) (hrun : .running ≤ d.phase) (c : Call) :
    d.goes? c = none := by
  have hnone : d.pending = none := by
    refine hd.pending_none fun hphase => ?_
    rw [hphase] at hrun
    exact absurd hrun (by decide)
  cases c with
  | resume now => simp [goes?, due, hnone]
  | request now later r =>
    have hloads : d.loads r = false := by
      rw [Bool.eq_false_iff]
      exact fun hr => accepted_of_loads hr (Phase.le_trans (by decide) hrun)
    simp [goes?, hnone, hloads]

lemma Resumes.running (hS : S.Attentive) (resumes : Resumes now d es h)
    (hd : (d.due now).isSome) : .running ≤ h.2.phase := by
  cases resumes with
  | waits hnone => simp [hnone] at hd
  | unheard _ hA => exact absurd hS hA
  | goes _ proceeds => exact Phase.le_trans (Phase.le_advance_right _ _) proceeds.onward.phase

/-- A program is set going by a launch that goes ahead, and by nothing else. -/
def SetGoing (d : Debugger S) (c : Call) (d' : Debugger S) : Prop :=
  if (d.goes? c).isSome then .running ≤ d'.phase else d'.phase = .running → d.phase = .running

lemma Plain.setGoing {d' : Debugger S} (hr : d.Plain r)
    (hphase : d'.phase = .running → d.phase = .running) :
    d.SetGoing (.request now later r) d' := by
  rw [SetGoing, hr.goes?]
  exact hphase

lemma not_running_of_terminated {p : Prop} {d : Debugger S} (h : d.phase = .terminated) :
    d.phase = .running → p := by
  simp [h]

lemma Handles.setGoing (hS : S.Attentive) (handles : Handles now later r d es h) :
    d.SetGoing (.request now later r) h.2 := by
  cases handles with
  | looks command => exact (Plain.of_neutral (Command.neutral_of_looks command)).setGoing id
  | greets command =>
    refine (Plain.of_command command (by simp) (by simp)).setGoing fun hphase => ?_
    exact Phase.advance_initialized_running.mp hphase
  | refuses refuses => exact (Plain.of_refuses refuses).setGoing id
  | unheard _ hA => exact absurd hS hA
  | configures command resumes =>
    rw [SetGoing, goes?, if_pos command, Option.isSome_map]
    split
    · exact resumes.running hS (by rwa [due_of_configured rfl])
    · rename_i hnone
      obtain ⟨-, rfl⟩ := resumes.idle (by
        rw [due_of_configured rfl]
        simpa using hnone)
      exact id
  | steps command steps =>
    refine (Plain.of_neutral (Command.neutral_of_step command)).setGoing fun hphase => ?_
    rcases steps.idle_or_running with ⟨-, rfl⟩ | hrun
    · exact hphase
    · exact hrun
  | loadFails command accepted failed _ _ ends =>
    exact (Plain.of_error command accepted failed).setGoing
      (not_running_of_terminated (ends.terminated hS))
  | loses _ _ _ _ _ hA => exact absurd hS hA
  | launches command accepted answered _ _ _ resumes =>
    rw [SetGoing, goes?_of_loads (loads_eq_true command accepted answered)]
    by_cases hgo : d.configured = true ∨ now + d.timeout ≤ later
    · rw [if_pos hgo]
      exact resumes.running hS (by simp [due_await, hgo])
    · rw [if_neg hgo]
      obtain ⟨-, rfl⟩ := resumes.idle (by simp [due_await, hgo])
      intro hphase
      have hawait := Phase.advance_awaiting (accepted_phase accepted)
      exact absurd (hphase.symm.trans hawait) (by decide)
  | terminates command ends =>
    exact (Plain.of_command command (by simp) (by simp)).setGoing
      (not_running_of_terminated (ends.terminated hS))
  | disconnects command =>
    exact (Plain.of_command command (by simp) (by simp)).setGoing (not_running_of_terminated rfl)

/-- The program does not run before a launch has been acknowledged. -/
lemma Resumes.prefaced (resumes : Resumes now d es h) : Prefaced es := by
  cases resumes with
  | waits => exact .of_not_runs (by simp)
  | unheard => exact .of_not_runs (by simp [PendingLaunch.ack, Request.answer])
  | @goes l =>
    have hack : Prefaced [l.ack true] :=
      .of_not_runs (by simp [PendingLaunch.ack, Request.answer])
    exact hack.append
      (.inl (by simp [PendingLaunch.ack, Request.answer, acks, Response.launched?]))

lemma Handles.prefaced (handles : Handles now later r d es h) (hd : d.phase ≠ .running) :
    Prefaced es := by
  cases handles with
  | looks _ aside =>
    exact .of_not_runs (List.forall_mem_append.mpr
      ⟨Effect.not_runs_of_aside aside, List.forall_mem_singleton.mpr id⟩)
  | greets _ sent => exact .of_not_runs sent.not_runs
  | refuses => exact .of_not_runs (by simp [Request.answer])
  | unheard => exact .of_not_runs (by simp [Request.answer])
  | configures _ resumes => exact resumes.prefaced.cons (by simp [Request.answer])
  | steps _ steps =>
    rcases steps.idle_or_running with ⟨rfl, -⟩ | hrun
    · exact .of_not_runs (by simp [Request.answer])
    · exact absurd hrun hd
  | loadFails _ _ _ _ _ ends =>
    exact ((Prefaced.of_not_runs ends.not_runs).cons (by simp)).cons (by simp [taken])
  | loses _ _ _ _ aside _ sent =>
    refine Prefaced.cons (by simp [taken]) (.cons (by simp) (.of_not_runs ?_))
    exact List.forall_mem_append.mpr ⟨Effect.not_runs_of_aside aside, sent.not_runs⟩
  | launches _ _ _ _ _ aside resumes =>
    refine Prefaced.cons (by simp [taken]) (.cons (by simp) (.append (.of_not_runs ?_)
      (.inr resumes.prefaced)))
    exact List.forall_mem_append.mpr ⟨Effect.not_runs_of_aside aside, by simp⟩
  | terminates _ ends => exact (Prefaced.of_not_runs ends.not_runs).cons (by simp)
  | disconnects => exact .of_not_runs (by simp [Request.answer])

end Goes

/-! ### Single calls -/

section Call

variable {d : Debugger S}

/-- A call acknowledges the launch that goes ahead at it, and no other. -/
theorem call_acks (hS : S.Attentive) (d : Debugger S) (c : Call) :
    acks (d.effects c) = ((d.goes? c).map Request.seq).toList := by
  obtain ⟨own, howns, hreplies⟩ := call_answers hS d c
  have hown : own.filterMap Response.launched? = [] := by
    cases c with
    | resume now => rw [howns]; rfl
    | request now later r =>
      by_cases hr : d.loads r
      · rw [Owns, if_pos hr] at howns
        rw [howns]
        rfl
      · rw [Owns, if_neg hr] at howns
        obtain ⟨reply, noLaunch, rfl⟩ := howns
        simp [Response.launched?, noLaunch]
  rw [acks, hreplies, List.filterMap_append, hown]
  cases d.goes? c <;> rfl

theorem call_setGoing (hS : S.Attentive) (d : Debugger S) (c : Call) :
    d.SetGoing c (d.call c).2 := by
  cases d.call_moves c with
  | request handles => exact handles.setGoing hS
  | resume resumes =>
    rw [SetGoing, goes?, Option.isSome_map]
    split
    · exact resumes.running hS ‹_›
    · rename_i now hnone
      obtain ⟨-, heq⟩ := resumes.idle (by simpa using hnone)
      rw [heq]
      exact id

theorem call_prefaced (hd : d.phase ≠ .running) (c : Call) : Prefaced (d.effects c) := by
  cases d.call_moves c with
  | request handles => exact handles.prefaced hd
  | resume resumes => exact resumes.prefaced

/-! ### Runs of calls -/

/-- The acknowledgements in a trace fit the phase: one at most, and there is one just when the
program has been set going. -/
structure Acked (d : Debugger S) : Prop where
  once : (acks d.world.trace).length ≤ 1
  running : d.phase = .running → acks d.world.trace ≠ []
  past : acks d.world.trace ≠ [] → .running ≤ d.phase
  prefaced : Prefaced d.world.trace

lemma Acked.goes? (acked : Acked d) (hd : Patient d) (h : acks d.world.trace ≠ []) (c : Call) :
    d.goes? c = none :=
  goes?_of_running hd (acked.past h) c

lemma Acked.quiet (acked : Acked d) (h : acks d.world.trace = []) :
    ∀ e ∈ d.world.trace, ¬ e.Evals := by
  intro e he hevals
  obtain ⟨pre, post, heq⟩ := List.append_of_mem he
  have hpre := acked.prefaced pre e post heq hevals
  rw [heq, acks_append] at h
  exact hpre (List.append_eq_nil_iff.mp h).1

lemma call_acked (hS : S.Attentive) (hd : Patient d) (acked : Acked d) (c : Call) :
    Acked (d.call c).2 := by
  have hacks := call_acks hS d c
  have hgoing := call_setGoing hS d c
  have hprefaced : Prefaced (d.world.trace ++ d.effects c) := by
    refine acked.prefaced.append ?_
    by_cases hrun : d.phase = .running
    · exact .inl (acked.running hrun)
    · exact .inr (call_prefaced hrun c)
  unfold SetGoing at hgoing
  cases hc : d.goes? c with
  | none =>
    have hsame : acks (d.call c).2.world.trace = acks d.world.trace := by
      rw [trace_call, acks_append, hacks, hc]
      exact List.append_nil _
    rw [hc] at hgoing
    refine ⟨?_, fun hrun => ?_, fun hne => ?_, by rwa [trace_call]⟩
    · rw [hsame]
      exact acked.once
    · rw [hsame]
      exact acked.running (hgoing hrun)
    · rw [hsame] at hne
      exact Phase.le_trans (acked.past hne) (phase_le_call d c)
  | some r =>
    have hnone : acks d.world.trace = [] := by
      by_contra hne
      simp [acked.goes? hd hne c] at hc
    have hone : acks (d.call c).2.world.trace = [r.seq] := by
      rw [trace_call, acks_append, hacks, hc, hnone]
      rfl
    rw [hc] at hgoing
    exact ⟨by simp [hone], fun _ => by simp [hone], fun _ => hgoing, by rwa [trace_call]⟩

end Call

/-- A launch of a run waits since the call that began it: it loaded there, and ever since
configuration has not been done and every look at the clock has come before its deadline. -/
def WaitsSince (d : Debugger S) (cs : List Call) (l : PendingLaunch) : Prop :=
  ∃ before now later after,
    cs = before ++ .request now later l.request :: after ∧
      (d.calls before).loads l.request = true ∧
      l.deadline = now + d.timeout ∧ later < l.deadline ∧
      ∀ c ∈ after, ¬ c.Asks .configurationDone ∧ ∀ t, c = .resume t → t < l.deadline

lemma calls_acked (hS : S.Attentive) {d : Debugger S} (h : d.Fresh) (cs : List Call) :
    Acked (d.calls cs) := by
  induction cs using List.reverseRecOn with
  | nil =>
    exact ⟨by simp [h.trace, acks], by simp [h.phase], by simp [h.trace, acks],
      .of_not_runs (by simp [h.trace])⟩
  | append_singleton cs c ih =>
    rw [calls_snoc]
    exact call_acked hS (calls_patient h cs) ih c

lemma calls_since (hS : S.Attentive) {d : Debugger S} (h : d.Fresh) (cs : List Call)
    {l : PendingLaunch} (hl : (d.calls cs).pending = some l) : d.WaitsSince cs l := by
  induction cs using List.reverseRecOn with
  | nil => simp [h.pending] at hl
  | append_singleton cs c ih =>
    rw [calls_snoc, call_pending hS (calls_patient h cs)] at hl
    rcases waits?_eq_some hl with ⟨now, later, rfl, hloads, hdeadline, hlater⟩ | ⟨hl, hc, ht⟩
    · rw [calls_timeout] at hdeadline
      exact ⟨cs, now, later, [], rfl, hloads, hdeadline, hlater, by simp⟩
    · obtain ⟨before, now, later, after, rfl, hloads, hdeadline, hlater, hafter⟩ := ih hl
      refine ⟨before, now, later, after ++ [c], by simp, hloads, hdeadline, hlater, ?_⟩
      intro c' hc'
      rcases List.mem_append.mp hc' with hc' | hc'
      · exact hafter c' hc'
      · obtain rfl := List.mem_singleton.mp hc'
        exact ⟨hc, ht⟩

/-- What a session does about launches, here after a run of calls. -/
structure LaunchesOnce (d : Debugger S) (cs : List Call) : Prop where
  /-- A launch waits just while configuration is awaited. -/
  waiting : (d.calls cs).pending.isSome = true ↔ (d.calls cs).phase = .awaitingConfiguration
  /-- Meanwhile configuration is not done, and the program is loaded. -/
  patient : (d.calls cs).pending.isSome = true →
    (d.calls cs).configured = false ∧ (d.calls cs).program.loaded = true
  /-- Configuration is done once the client has said so. -/
  configured : (d.calls cs).configured = true ↔ ∃ c ∈ cs, c.Asks .configurationDone
  /-- A launch waits since the call that began it. -/
  since : ∀ l, (d.calls cs).pending = some l → d.WaitsSince cs l
  /-- No more than one launch is acknowledged in all. -/
  once : (acks (d.calls cs).world.trace).length ≤ 1
  /-- The program does not run before that. -/
  prefaced : Prefaced (d.calls cs).world.trace
  /-- A call acknowledges the launch that goes ahead at it. -/
  acknowledged : ∀ c,
    acks ((d.calls cs).effects c) = (((d.calls cs).goes? c).map Request.seq).toList
  /-- A launch that does not go ahead is kept until the session ends. -/
  kept : ∀ c, (d.calls (cs ++ [c])).pending = (d.calls cs).waits? c
  /-- Nothing happens before the deadline of the launch that waits. -/
  early : ∀ now, (∀ l, (d.calls cs).pending = some l → now < l.deadline) →
    (d.calls cs).call (.resume now) = (d.calls cs).done
  /-- Once a launch has been acknowledged, time changes nothing, and the end of configuration is
  answered and has no other effect. -/
  settled : acks (d.calls cs).world.trace ≠ [] →
    (∀ now, (d.calls cs).call (.resume now) = (d.calls cs).done) ∧
      ∀ now later r, r.command = .configurationDone →
        (d.calls cs).effects (.request now later r) = [r.answer (.success .configurationDone) true]

lemma Handles.configurationDone (hS : S.Attentive) {d : Debugger S} {now later : Nat} {r : Request}
    {es : List Effect} {h : Handled S} (handles : Handles now later r d es h)
    (command : r.command = .configurationDone) (hd : d.pending = none) :
    es = [r.answer (.success .configurationDone) true] := by
  cases handles with
  | configures _ resumes =>
    obtain ⟨rfl, -⟩ := resumes.idle (by simp [due, hd])
    rfl
  | refuses refuses => cases refuses <;> simp_all
  | unheard _ hA => exact absurd hS hA
  | _ => simp_all [Command.looks, Command.step?]

lemma effects_configurationDone (hS : S.Attentive) {d : Debugger S} {now later : Nat} {r : Request}
    (command : r.command = .configurationDone) (hd : d.pending = none) :
    d.effects (.request now later r) = [r.answer (.success .configurationDone) true] := by
  cases d.call_moves (.request now later r) with
  | request handles => exact handles.configurationDone hS command hd

/-- **A session launches at most once**, whatever is asked of it and whenever. -/
theorem calls_launchesOnce (hS : S.Attentive) {d : Debugger S} (h : d.Fresh) (cs : List Call) :
    LaunchesOnce d cs := by
  have hpatient := calls_patient h cs
  have hattended := calls_attended hS h cs
  have hacked := calls_acked hS h cs
  have hpending : acks (d.calls cs).world.trace ≠ [] → (d.calls cs).pending = none := by
    intro hne
    refine hpatient.pending_none fun hphase => ?_
    exact absurd (hphase ▸ hacked.past hne) (by decide)
  have hsome : (d.calls cs).pending.isSome = true ↔ (d.calls cs).pending ≠ none :=
    Option.isSome_iff_ne_none
  exact {
    waiting := ⟨fun hp => (hpatient (hsome.mp hp)).1, fun hp => hsome.mpr (hattended hp)⟩
    patient := fun hp => (hpatient (hsome.mp hp)).2
    configured := calls_configured hS h cs
    since := fun l hl => calls_since hS h cs hl
    once := hacked.once
    prefaced := hacked.prefaced
    acknowledged := call_acks hS _
    kept := fun c => by rw [calls_snoc, call_pending hS hpatient]
    early := fun now hnow => by
      refine resume_eq_done ?_
      cases hl : (d.calls cs).pending with
      | none => simp [due, hl]
      | some l =>
        have hconfigured := (hpatient (by simp [hl])).2.1
        simp [due, hl, hconfigured, hnow l hl]
    settled := fun hne =>
      ⟨fun now => resume_eq_done (by simp [due, hpending hne]),
        fun now later r command => effects_configurationDone hS command (hpending hne)⟩ }

/-- A launch that nobody configures is acknowledged after a second. -/
theorem scripted_launchesOnce :
    (Surroundings.scripted []).Attentive ∧ (scripted [] ⟨[], []⟩).Fresh ∧
      LaunchesOnce (scripted [] ⟨[], []⟩)
        [.request 10 10 (.plainLaunch 1), .resume 900, .resume 1010] ∧
      acks ((scripted [] ⟨[], []⟩).calls
        [.request 10 10 (.plainLaunch 1), .resume 900, .resume 1010]).world.trace = [1] :=
  have hS := (Surroundings.scripted_attentive_iff []).mpr rfl
  have hfresh := scripted_fresh [] ⟨[], []⟩
  ⟨hS, hfresh, calls_launchesOnce hS hfresh _, by decide +kernel⟩

end Debugger

end QuantumDebug
