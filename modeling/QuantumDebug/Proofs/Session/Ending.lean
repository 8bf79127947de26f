import QuantumDebug.Proofs.Session.Lifecycle
import QuantumDebug.Proofs.Session.Scripted

/-!
A session of an attentive client ends at most once. The client is told so in one piece, together
with the record of the end, unless it has disconnected itself; and after that nothing is run, loaded
or told any more.
-/

namespace QuantumDebug

variable {S : Surroundings}

lemma StepOutcome.stoppedEvent?_eq_some {outcome : StepOutcome} {e : Event}
    (h : outcome.stoppedEvent? = some e) : ∃ reason ids, e = .stopped reason ids := by
  cases outcome with
  | breakpointHit id => exact ⟨_, _, (Option.some.inj h).symm⟩
  | progressed => exact ⟨_, _, (Option.some.inj h).symm⟩
  | completed => simp [stoppedEvent?] at h
  | failed e => simp [stoppedEvent?] at h

namespace Debugger

def closing (message : String) (code : Int) : List Effect :=
  .telemetry (.sessionEnd code) ::
    (closingEvents message code).map fun e => .message (.event e) true

/-- Effects that have an end as their last part and nothing of an end before it. -/
def EndsWith (es : List Effect) : Prop :=
  ∃ pre message code, es = pre ++ closing message code ∧ ∀ e ∈ pre, ¬ e.Closing

/-- On the way from one session to another the client hears of the end just if it comes then. -/
structure Concludes (d : Debugger S) (es : List Effect) (d' : Debugger S) : Prop where
  ends : d.phase ≠ .terminated → d'.phase = .terminated → EndsWith es
  goesOn : (d'.phase = .terminated → d.phase = .terminated) → ∀ e ∈ es, ¬ e.Closing

section Concludes

variable {message : String} {code : Int} {m : Message} {action : StepAction} {now later : Nat}
  {r : Request} {d d₁ d' : Debugger S} {es : List Effect} {h : Handled S}

lemma Concludes.of_goesOn (hphase : d'.phase = .terminated → d.phase = .terminated)
    (hes : ∀ e ∈ es, ¬ e.Closing) : Concludes d es d' :=
  ⟨fun hd hd' => absurd (hphase hd') hd, fun _ => hes⟩

lemma Concludes.after (concludes : Concludes d₁ es d') (pre : List Effect)
    (hphase : d₁.phase = .terminated ↔ d.phase = .terminated) (hpre : ∀ e ∈ pre, ¬ e.Closing) :
    Concludes d (pre ++ es) d' where
  ends hd hd' := by
    obtain ⟨mid, message, code, rfl, hmid⟩ := concludes.ends (hd ∘ hphase.mp) hd'
    refine ⟨pre ++ mid, message, code, by simp, fun e he => ?_⟩
    rcases List.mem_append.mp he with he | he
    · exact hpre e he
    · exact hmid e he
  goesOn hd e he := by
    rcases List.mem_append.mp he with he | he
    · exact hpre e he
    · exact concludes.goesOn (fun hd' => hphase.mpr (hd hd')) e he

lemma Ends.concludes (hS : S.Attentive) (ends : Ends message code d es h) :
    Concludes d es h.2 := by
  cases ends with
  | past hd => exact .of_goesOn (fun _ => hd) (by simp)
  | closes hd sent =>
    obtain rfl := sent.ok hS
    rw [sent.eq_map, List.map_map]
    exact ⟨fun _ _ => ⟨[], message, code, rfl, by simp⟩, fun hgoesOn => absurd (hgoesOn rfl) hd⟩

lemma EndsAfter.concludes (hS : S.Attentive) (hm : ¬ (Effect.message m true).Closing)
    (ends : EndsAfter m message code d es h) : Concludes d es h.2 := by
  cases ends with
  | heard ends => exact (ends.concludes hS).after [_] Iff.rfl (by simpa using hm)
  | unheard hA => exact absurd hS hA

lemma question_not_closing (d : Debugger S) (action : StepAction)
    (tail : ∀ e ∈ es, e.Aftermath) : ∀ e ∈ d.question action :: es, ¬ e.Closing := by
  exact List.forall_mem_cons.mpr ⟨id, fun e he => (tail e he).work.not_closing⟩

lemma Steps.concludes (hS : S.Attentive) (steps : Steps action d es h) : Concludes d es h.2 := by
  cases steps with
  | idle => exact .of_goesOn id (by simp)
  | stops hd tail stopped =>
    obtain ⟨reason, ids, rfl⟩ := StepOutcome.stoppedEvent?_eq_some stopped
    exact .of_goesOn id (List.forall_mem_append.mpr
      ⟨d.question_not_closing action tail, List.forall_mem_singleton.mpr id⟩)
  | completes hd tail _ ends => exact (ends.concludes hS).after _ Iff.rfl (d.question_not_closing action tail)
  | fails hd tail _ ends =>
    exact (ends.concludes hS (by simp [fault])).after _ Iff.rfl (d.question_not_closing action tail)

lemma Shoots.concludes (hS : S.Attentive) (shoots : Shoots d es h) : Concludes d es h.2 := by
  cases shoots with
  | finishes work _ _ ends =>
    exact (ends.concludes hS).after _ Iff.rfl fun e he => (work e he).not_closing
  | fails work _ ends =>
    exact (ends.concludes hS (by simp [fault])).after _ Iff.rfl fun e he => (work e he).not_closing

lemma Proceeds.concludes (hS : S.Attentive) (proceeds : Proceeds d es h) : Concludes d es h.2 := by
  cases proceeds with
  | shots _ shoots => exact shoots.concludes hS
  | step _ steps => exact steps.concludes hS

lemma Resumes.concludes (hS : S.Attentive) (resumes : Resumes now d es h) : Concludes d es h.2 := by
  cases resumes with
  | waits => exact .of_goesOn id (by simp)
  | unheard _ hA => exact absurd hS hA
  | goes _ proceeds =>
    exact (proceeds.concludes hS).after [_] Phase.advance_running_terminated
      (by simp [PendingLaunch.ack, Request.answer])

lemma Handles.concludes (hS : S.Attentive) (handles : Handles now later r d es h)
    (stays : r.command ≠ .disconnect) : Concludes d es h.2 := by
  cases handles with
  | looks _ aside =>
    exact .of_goesOn id (List.forall_mem_append.mpr
      ⟨fun e he => (aside e he).work.not_closing, List.forall_mem_singleton.mpr id⟩)
  | greets _ sent =>
    refine .of_goesOn Phase.advance_initialized_terminated.mp (sent.forall_mem fun m hm ok => ?_)
    simp only [List.mem_cons, List.not_mem_nil, or_false] at hm
    rcases hm with rfl | rfl
    · exact id
    · exact id
  | refuses => exact .of_goesOn id (by simp [Request.answer])
  | unheard _ hA => exact absurd hS hA
  | configures _ resumes =>
    exact (resumes.concludes hS).after [_] Iff.rfl (by simp [Request.answer])
  | steps _ steps =>
    exact (steps.concludes hS).after [_] Iff.rfl (by simp [Request.answer])
  | loadFails _ _ _ _ _ ends =>
    exact (ends.concludes hS (by simp)).after [_, _] Iff.rfl (by simp [taken])
  | loses _ _ _ _ _ hA => exact absurd hS hA
  | launches _ _ _ _ _ aside resumes =>
    refine (resumes.concludes hS).after (_ :: _ :: _) Phase.advance_awaiting_terminated ?_
    simp only [List.mem_cons, List.mem_append, List.mem_map]
    rintro e (rfl | rfl | he | ⟨b, -, rfl⟩)
    · exact id
    · exact id
    · exact (aside e he).work.not_closing
    · exact id
  | terminates _ ends => exact (ends.concludes hS (by simp)).after [_] Iff.rfl (by simp)
  | disconnects command => exact absurd command stays

lemma Handles.disconnected (handles : Handles now later r d es h)
    (command : r.command = .disconnect) :
    h.2.phase = .terminated ∧ ∀ e ∈ es, ¬ e.Closing := by
  cases handles with
  | disconnects => exact ⟨rfl, by simp [Request.answer]⟩
  | refuses refuses => cases refuses <;> simp_all
  | _ => simp_all [Command.looks, Command.step?]

end Concludes

/-! ### Single calls -/

/-- The client hears of the end at the call that ends the session, unless that is its disconnecting,
and at no other. -/
theorem call_concludes (hS : S.Attentive) (d : Debugger S) (c : Call) :
    if d.phase ≠ .terminated ∧ (d.call c).2.phase = .terminated ∧ ¬ c.Asks .disconnect then
      EndsWith (d.effects c)
    else ∀ e ∈ d.effects c, ¬ e.Closing := by
  by_cases hc : c.Asks .disconnect
  · rw [if_neg fun h => h.2.2 hc]
    cases d.call_moves c with
    | request handles =>
      exact (handles.disconnected (by simpa [Call.Asks, Call.request?] using hc)).2
    | resume => simp [Call.Asks, Call.request?] at hc
  · have concludes : Concludes d (d.effects c) (d.call c).2 := by
      cases d.call_moves c with
      | request handles =>
        exact handles.concludes hS (by simpa [Call.Asks, Call.request?] using hc)
      | resume resumes => exact resumes.concludes hS
    split
    · rename_i h
      exact concludes.ends h.1 h.2.1
    · rename_i h
      refine concludes.goesOn fun hd' => ?_
      by_contra hd
      exact h ⟨hd, hd', hc⟩

lemma call_disconnected {d : Debugger S} {c : Call} (hc : c.Asks .disconnect) :
    (d.call c).2.phase = .terminated := by
  cases d.call_moves c with
  | request handles =>
    exact (handles.disconnected (by simpa [Call.Asks, Call.request?] using hc)).1
  | resume => simp [Call.Asks, Call.request?] at hc

/-! ### Runs of calls -/

/-- A trace holds one end at most, in one piece. -/
def OneEnd (es : List Effect) : Prop :=
  (∀ e ∈ es, ¬ e.Closing) ∨
    ∃ pre message code post, es = pre ++ closing message code ++ post ∧
      ∀ e ∈ pre ++ post, ¬ e.Closing

/-- What a session does about its end, here after a run of calls. -/
structure EndsOnce (d : Debugger S) (cs : List Call) : Prop where
  /-- The phase never goes back. -/
  onward : ∀ c, (d.calls cs).phase ≤ (d.calls (cs ++ [c])).phase
  /-- In all there is one end at most, and it comes in one piece. -/
  once : OneEnd (d.calls cs).world.trace
  /-- It comes at the call that ends the session, unless the client disconnects. -/
  concludes : ∀ c,
    if (d.calls cs).phase ≠ .terminated ∧ (d.calls (cs ++ [c])).phase = .terminated ∧
        ¬ c.Asks .disconnect then
      EndsWith ((d.calls cs).effects c)
    else ∀ e ∈ (d.calls cs).effects c, ¬ e.Closing
  /-- A session is over just if the client has heard of the end or has disconnected. -/
  ended : (d.calls cs).phase = .terminated ↔
    (∃ e ∈ (d.calls cs).world.trace, e.Closing) ∨ ∃ c ∈ cs, c.Asks .disconnect
  /-- Then it stays over, no launch waits, and no call does more than answer. -/
  final : (d.calls cs).phase = .terminated → ∀ c,
    (d.calls (cs ++ [c])).phase = .terminated ∧ (d.calls (cs ++ [c])).pending = none ∧
      ∀ e ∈ (d.calls cs).effects c, Late c e

lemma EndsWith.closing_mem {es : List Effect} (h : EndsWith es) : ∃ e ∈ es, e.Closing := by
  obtain ⟨pre, message, code, rfl, -⟩ := h
  exact ⟨.telemetry (.sessionEnd code), by simp [closing], trivial⟩

section Runs

variable {d : Debugger S}

lemma calls_over (hS : S.Attentive) (h : d.Fresh) (cs : List Call) :
    (d.calls cs).phase = .terminated ↔
      (∃ e ∈ (d.calls cs).world.trace, e.Closing) ∨ ∃ c ∈ cs, c.Asks .disconnect := by
  induction cs using List.reverseRecOn with
  | nil => simp [h.phase, h.trace]
  | append_singleton cs c ih =>
    have concludes := call_concludes hS (d.calls cs) c
    rw [trace_calls_snoc, calls_snoc]
    simp only [List.mem_append, List.mem_singleton]
    constructor
    · intro hover
      by_cases hbefore : (d.calls cs).phase = .terminated
      · rcases ih.mp hbefore with ⟨e, he, hclosing⟩ | ⟨c', hc', hasks⟩
        · exact .inl ⟨e, .inl he, hclosing⟩
        · exact .inr ⟨c', .inl hc', hasks⟩
      · by_cases hc : c.Asks .disconnect
        · exact .inr ⟨c, .inr rfl, hc⟩
        · rw [if_pos ⟨hbefore, hover, hc⟩] at concludes
          obtain ⟨e, he, hclosing⟩ := concludes.closing_mem
          exact .inl ⟨e, .inr he, hclosing⟩
    · rintro (⟨e, he | he, hclosing⟩ | ⟨c', hc' | rfl, hasks⟩)
      · exact call_terminated (ih.mpr (.inl ⟨e, he, hclosing⟩)) c
      · by_contra hover
        rw [if_neg fun hends => hover hends.2.1] at concludes
        exact concludes e he hclosing
      · exact call_terminated (ih.mpr (.inr ⟨c', hc', hasks⟩)) c
      · exact call_disconnected hasks

lemma calls_oneEnd (hS : S.Attentive) (h : d.Fresh) (cs : List Call) :
    OneEnd (d.calls cs).world.trace := by
  induction cs using List.reverseRecOn with
  | nil => exact .inl (by simp [h.trace])
  | append_singleton cs c ih =>
    have concludes := call_concludes hS (d.calls cs) c
    rw [trace_calls_snoc]
    split at concludes
    · rename_i hends
      have hbefore : ∀ e ∈ (d.calls cs).world.trace, ¬ e.Closing := fun e he hclosing =>
        hends.1 ((calls_over hS h cs).mpr (.inl ⟨e, he, hclosing⟩))
      obtain ⟨pre, message, code, hes, hpre⟩ := concludes
      refine .inr ⟨(d.calls cs).world.trace ++ pre, message, code, [], by simp [hes], ?_⟩
      simp only [List.append_nil, List.mem_append]
      rintro e (he | he)
      · exact hbefore e he
      · exact hpre e he
    · rcases ih with hnone | ⟨pre, message, code, post, heq, hothers⟩
      · refine .inl fun e he => ?_
        rcases List.mem_append.mp he with he | he
        · exact hnone e he
        · exact concludes e he
      · refine .inr ⟨pre, message, code, post ++ (d.calls cs).effects c, by simp [heq], ?_⟩
        simp only [← List.append_assoc]
        intro e he
        rcases List.mem_append.mp he with he | he
        · exact hothers e he
        · exact concludes e he

end Runs

/-- **A session ends at most once, and its end is final**, whatever is asked of it and whenever. -/
theorem calls_endsOnce (hS : S.Attentive) {d : Debugger S} (h : d.Fresh) (cs : List Call) :
    EndsOnce d cs where
  onward c := by
    rw [calls_snoc]
    exact phase_le_call _ c
  once := calls_oneEnd hS h cs
  concludes c := by
    rw [calls_snoc]
    exact call_concludes hS _ c
  ended := calls_over hS h cs
  final hover c := by
    have hafter : (d.calls (cs ++ [c])).phase = .terminated := by
      rw [calls_snoc]
      exact call_terminated hover c
    exact ⟨hafter, (calls_patient h _).pending_none (by simp [hafter]),
      call_late (calls_patient h cs) hover c⟩

/-- A program that comes to its end, and a client that goes on asking. -/
theorem scripted_endsOnce :
    (Surroundings.scripted []).Attentive ∧ (scripted [] ⟨[], []⟩).Fresh ∧
      EndsOnce (scripted [] ⟨[], []⟩)
        [.request 0 0 ⟨1, .configurationDone⟩, .request 10 10 (.plainLaunch 2),
          .request 20 20 ⟨3, .next⟩, .request 30 30 ⟨4, .terminate⟩] ∧
      ((scripted [] ⟨[], []⟩).calls
        [.request 0 0 ⟨1, .configurationDone⟩, .request 10 10 (.plainLaunch 2)]).phase =
          .terminated :=
  have hS := (Surroundings.scripted_attentive_iff []).mpr rfl
  have hfresh := scripted_fresh [] ⟨[], []⟩
  ⟨hS, hfresh, calls_endsOnce hS hfresh _, by decide +kernel⟩

end Debugger

end QuantumDebug
