import QuantumDebug.Proofs.Session.Ending
import QuantumDebug.Proofs.Session.Launch

/-!
Requests that are answered with an error. One that is refused leaves the session as it is, whatever
the session is doing and whatever else the request says. The only other one is a launch whose program
does not load, and it is the end of the session.
-/

namespace QuantumDebug

variable {S : Surroundings}

/-- The error that a response reports, and the request that it is for. -/
def Response.complaint? (a : Response) : Option (Int × String) :=
  match a.reply with
  | .success _ => none
  | .failure text => some (a.requestSeq, text)

def complaints (es : List Effect) : List (Int × String) :=
  (replies es).filterMap Response.complaint?

def Successful (es : List Effect) : Prop := ∀ a ∈ replies es, ∃ body, a.reply = .success body

lemma Successful.complaints_eq_nil {es : List Effect} (h : Successful es) :
    complaints es = [] := by
  rw [complaints, List.filterMap_eq_nil_iff]
  intro a ha
  obtain ⟨body, hbody⟩ := h a ha
  rw [Response.complaint?, hbody]

lemma complaints_of_failure {es : List Effect} {seq : Int} {text : String}
    (h : replies es = [⟨seq, .failure text⟩]) : complaints es = [(seq, text)] := by
  rw [complaints, h]
  rfl

namespace Debugger

/-! ### Why a launch is refused -/

/-- Why a launch is refused: there has been one before, or there is nothing to be read of what it
asks for. -/
inductive TurnsAway (d : Debugger S) (data : Option Json) : SessionError → Prop where
  | again (late : .awaitingConfiguration ≤ d.phase) : TurnsAway d data .alreadyLaunched
  | bare (early : ¬ .awaitingConfiguration ≤ d.phase) (missing : data = none) :
      TurnsAway d data .missingLaunchArguments
  | garbled {j : Json} {fault : Json.Fault} (early : ¬ .awaitingConfiguration ≤ d.phase)
      (given : data = some j) (unread : LaunchArguments.decoder j = .error fault) :
      TurnsAway d data (.launchArguments fault)

section Refused

variable {d : Debugger S} {r : Request} {noDebug : Option Bool} {data : Option Json}
  {e : SessionError} {text : String}

lemma turnsAway_iff : d.TurnsAway data e ↔ d.accepted? noDebug data = .error e := by
  unfold accepted? launchConfiguration
  constructor
  · rintro (late | ⟨early, rfl⟩ | ⟨early, rfl, unread⟩)
    · rw [if_pos late]
    · rw [if_neg early]
    · rw [if_neg early]
      simp only [unread]
  · intro refused
    split at refused
    · obtain rfl := Except.error.inj refused
      exact .again ‹_›
    · cases data with
      | none =>
        obtain rfl := Except.error.inj refused
        exact .bare ‹_› rfl
      | some j =>
        dsimp only at refused
        split at refused
        · simp at refused
        · obtain rfl := Except.error.inj refused
          exact .garbled ‹_› rfl ‹_›

end Refused

/-! ### What is done about requests that fail -/

/-- A call is dismissed: nothing comes of it but an answer with an error and the error itself, or the
news that the client has missed the answer. -/
def Dismisses (d : Debugger S) (c : Call) (r : Request) (e : SessionError) (text : String) : Prop :=
  ∃ ok, (S.Attentive → ok = true) ∧ d.effects c = [r.answer (.failure text) ok] ∧
    d.call c = (failure e ok, d.play (d.effects c))

/-- A launch is taken up, but the engine does not load its program. -/
structure Misloads (d : Debugger S) (r : Request) (config : RunConfiguration)
    (e : EngineError) : Prop where
  accepted : ∃ noDebug data, r.command = .launch noDebug data ∧
    d.accepted? noDebug data = .ok config
  failed : (S.engine.loadProgram config d.world.engine).1 = .error e

/-- A launch is given up, and with it the session. -/
structure GivesUp (d : Debugger S) (c : Call) (r : Request) (config : RunConfiguration)
    (e : EngineError) : Prop where
  effects : d.effects c = taken config :: .engine (.loadProgram config) ::
    r.answer (.failure e.message) true :: closing "ending session due to error" 1
  phase : (d.call c).2.phase = .terminated
  pending : (d.call c).2.pending = none
  /-- Nothing has been run, and no launch has been acknowledged. -/
  unrun : (∀ e ∈ d.effects c, ¬ e.Evals) ∧ acks (d.effects c) = []

section Calls

variable {now later : Nat} {r : Request} {d : Debugger S} {es : List Effect} {h : Handled S}
  {config : RunConfiguration} {e : EngineError}

lemma Refuses.dismisses {e : SessionError} {text : String} (refuses : Refuses d r e text) :
    d.Dismisses (.request now later r) r e text := by
  have hcall : d.call (.request now later r) = (d.refuse r text).failWith e := by
    cases refuses with
    | unsupported command => simp only [call, handle, command]
    | launch command h =>
      rw [accepted?] at h
      simp only [call, handle, command, Debugger.launch]
      split at h
      · obtain rfl := Except.error.inj h
        rw [if_pos ‹_›]
      · rw [if_neg ‹_›, h]
  obtain ⟨ok, hok, heq⟩ := d.send_ok (.response (r.failure text))
  rw [refuse, heq, failWith_arrival] at hcall
  have heffects : d.effects (.request now later r) = [r.answer (.failure text) ok] :=
    effects_of_world (by rw [hcall]; rfl)
  exact ⟨ok, hok, heffects, by rw [hcall, heffects]; rfl⟩

/-- A launch that does not load can go one way only, unless the client misses the answer. -/
lemma Handles.givesUp (hS : S.Attentive) (handles : Handles now later r d es h)
    (misloads : d.Misloads r config e) :
    es = taken config :: .engine (.loadProgram config) ::
        r.answer (.failure e.message) true :: closing "ending session due to error" 1 ∧
      h.2.phase = .terminated ∧ h.2.pending = none := by
  obtain ⟨⟨noDebug, data, command, accepted⟩, failed⟩ := misloads
  cases handles with
  | refuses refuses => cases refuses <;> simp_all
  | loses command' accepted' answered => simp_all
  | launches command' accepted' answered => simp_all
  | loadFails command' accepted' failed' _ _ ends =>
    obtain ⟨rfl, rfl⟩ : _ = noDebug ∧ _ = data := by simpa [command'] using command
    obtain rfl := Except.ok.inj (accepted'.symm.trans accepted)
    obtain rfl := Except.error.inj (failed'.symm.trans failed)
    cases ends with
    | unheard hA => exact absurd hS hA
    | heard ends =>
      cases ends with
      | past ended => exact absurd accepted (not_accepted_of_terminated ended)
      | closes _ sent =>
        obtain rfl := sent.ok hS
        rw [sent.eq_map, List.map_map]
        exact ⟨rfl, rfl, rfl⟩
  | _ => simp_all [Command.looks, Command.step?]

lemma Resumes.successful (resumes : Resumes now d es h) : Successful es := by
  rw [Successful, resumes.replies]
  intro a ha
  obtain ⟨l, -, rfl⟩ := Option.map_eq_some_iff.mp (Option.mem_toList.mp ha)
  exact ⟨.launch, rfl⟩

lemma Handles.complains (handles : Handles now later r d es h) :
    Successful es ∨ ∃ text, complaints es = [(r.seq, text)] ∧
      ((∃ e, Refuses d r e text) ∨ ∃ config e, d.Misloads r config e ∧ text = e.message) := by
  cases handles with
  | looks _ aside =>
    left
    rw [Successful, replies_append, replies_work fun e he => (aside e he).work]
    simp [Request.answer]
  | greets _ sent =>
    left
    intro a ha
    obtain ⟨e, he, hreply⟩ := List.mem_filterMap.mp ha
    obtain ⟨m, hm, ok, rfl⟩ := sent.mem he
    simp only [List.mem_cons, List.not_mem_nil, or_false] at hm
    rcases hm with rfl | rfl
    · obtain rfl := Option.some.inj hreply
      exact ⟨_, rfl⟩
    · simp at hreply
  | refuses refuses => exact .inr ⟨_, complaints_of_failure rfl, .inl ⟨_, refuses⟩⟩
  | unheard => exact .inl (by simp [Successful, Request.answer])
  | configures _ resumes =>
    left
    rw [Successful, Request.answer, replies_response]
    exact List.forall_mem_cons.mpr ⟨⟨_, rfl⟩, resumes.successful⟩
  | steps _ steps =>
    left
    rw [Successful, Request.answer, replies_response, steps.replies]
    exact List.forall_mem_singleton.mpr ⟨_, rfl⟩
  | loadFails command accepted failed _ _ ends =>
    refine .inr ⟨_, complaints_of_failure ?_, .inr ⟨_, _, ⟨⟨_, _, command, accepted⟩, failed⟩, rfl⟩⟩
    rw [taken, replies_telemetry, replies_engine, ends.replies]
    rfl
  | loses _ _ _ _ aside _ sent =>
    left
    rw [← List.map_map] at sent
    rw [Successful, taken, replies_telemetry, replies_engine, replies_append,
      replies_work fun e he => (aside e he).work, sent.replies]
    simp
  | launches _ _ _ _ _ aside resumes =>
    left
    rw [Successful, taken, replies_telemetry, replies_engine, replies_append, replies_append,
      replies_work fun e he => (aside e he).work, replies_map_event]
    exact resumes.successful
  | terminates _ ends =>
    left
    rw [Successful, replies_engine, ends.replies]
    exact List.forall_mem_singleton.mpr ⟨_, rfl⟩
  | disconnects => exact .inl (by simp [Successful, Request.answer])

lemma Misloads.givesUp (hS : S.Attentive) (misloads : d.Misloads r config e) (now later : Nat) :
    d.GivesUp (.request now later r) r config e := by
  cases d.call_moves (.request now later r) with
  | request handles =>
    obtain ⟨heffects, hphase, hpending⟩ := handles.givesUp hS misloads
    refine ⟨heffects, hphase, hpending, ?_⟩
    rw [heffects]
    exact ⟨by simp [taken, Request.answer, closing], rfl⟩

end Calls

/-- How a session answers with errors, here at a call. -/
structure Rejects (d : Debugger S) (c : Call) : Prop where
  /-- A launch is dismissed if there has been one before or if nothing can be read of it. -/
  launch : ∀ r noDebug data e, c.request? = some r → r.command = .launch noDebug data →
    d.TurnsAway data e → d.Dismisses c r e e.message
  /-- A request that is not supported is dismissed. -/
  unsupported : ∀ r name, c.request? = some r → r.command = .unsupported name →
    d.Dismisses c r (.unhandledCommand name) "Unsupported request"
  /-- Any error that is reported is reported once and to the request itself. The request is dismissed
  then, unless it is a launch whose program does not load. -/
  complains : complaints (d.effects c) = [] ∨
    ∃ r text, c.request? = some r ∧ complaints (d.effects c) = [(r.seq, text)] ∧
      ((∃ e, d.Dismisses c r e text) ∨ ∃ config e, d.Misloads r config e ∧ text = e.message)
  /-- A launch whose program does not load is the end of the session. -/
  givesUp : S.Attentive → ∀ r config e, c.request? = some r → d.Misloads r config e →
    d.GivesUp c r config e

/-- **A request that is refused leaves no trace in a session**, in whatever state that is and whether
its client hears of it or not. -/
theorem call_rejects (d : Debugger S) (c : Call) : Rejects d c := by
  cases c with
  | resume now =>
    refine ⟨by simp [Call.request?], by simp [Call.request?], .inl ?_, by simp [Call.request?]⟩
    cases d.call_moves (.resume now) with
    | resume resumes => exact resumes.successful.complaints_eq_nil
  | request now later r =>
    refine ⟨?_, ?_, ?_, ?_⟩
    · rintro _ noDebug data e ⟨rfl⟩ command turnsAway
      exact (Refuses.launch command (turnsAway_iff.mp turnsAway)).dismisses
    · rintro _ name ⟨rfl⟩ command
      exact (Refuses.unsupported command).dismisses
    · cases d.call_moves (.request now later r) with
      | request handles =>
        obtain successful | ⟨text, heq, ⟨e, refuses⟩ | misloads⟩ := handles.complains
        · exact .inl successful.complaints_eq_nil
        · exact .inr ⟨r, text, rfl, heq, .inl ⟨e, refuses.dismisses⟩⟩
        · exact .inr ⟨r, text, rfl, heq, .inr misloads⟩
    · rintro hS _ config e ⟨rfl⟩ misloads
      exact misloads.givesUp hS now later

/-- A second launch while the first one waits, and a launch whose program does not load. -/
theorem scripted_rejects :
    let waiting := (scripted [] ⟨[], []⟩).calls [.request 0 0 (.plainLaunch 1)]
    let second := Call.request 1 1 (.circuitLaunch 2 true)
    let failing := scripted [] ⟨[.error (.loadFailed "no entry point")], []⟩
    let first := Call.request 0 0 (.plainLaunch 1)
    waiting.pending.isSome = true ∧ Rejects waiting second ∧
      complaints (waiting.effects second) = [(2, "Protocol error: Program already launched")] ∧
      (waiting.call second).2.phase = .awaitingConfiguration ∧
      Rejects failing first ∧ failing.Misloads (.plainLaunch 1) .plain (.loadFailed "no entry point") ∧
      (failing.call first).2.phase = .terminated := by
  refine ⟨by decide +kernel, call_rejects _ _, by decide +kernel, by decide +kernel,
    call_rejects _ _, ⟨⟨_, _, rfl, ?_⟩, rfl⟩, by decide +kernel⟩
  decide +kernel

end Debugger

end QuantumDebug
