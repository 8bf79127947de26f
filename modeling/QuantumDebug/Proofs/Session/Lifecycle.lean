import Mathlib.Data.List.Induction
import Mathlib.Tactic.ByContra
import QuantumDebug.Proofs.Session.Runs

/-!
How far a session has come. No call takes it back, a launch waits only while configuration is
awaited, and with an attentive client configuration is awaited only while a launch waits.
-/

namespace QuantumDebug

/-! ### Phases -/

namespace Phase

lemma le_refl (p : Phase) : p ≤ p := Nat.le_refl p.rank

lemma le_trans {p q r : Phase} (h₁ : p ≤ q) (h₂ : q ≤ r) : p ≤ r := Nat.le_trans h₁ h₂

lemma le_advance_left (p q : Phase) : p ≤ p.advance q := by
  cases p <;> cases q <;> decide

lemma le_advance_right (p q : Phase) : q ≤ p.advance q := by
  cases p <;> cases q <;> decide

lemma le_terminated (p : Phase) : p ≤ .terminated := by
  cases p <;> decide

lemma terminated_le {p : Phase} (h : Phase.terminated ≤ p) : p = .terminated := by
  cases p <;> first | rfl | exact absurd h (by decide)

lemma advance_initialized_eq {p : Phase} :
    p.advance .initialized = .awaitingConfiguration ↔ p = .awaitingConfiguration := by
  cases p <;> decide

lemma advance_initialized_running {p : Phase} :
    p.advance .initialized = .running ↔ p = .running := by
  cases p <;> decide

lemma advance_initialized_terminated {p : Phase} :
    p.advance .initialized = .terminated ↔ p = .terminated := by
  cases p <;> decide

lemma advance_running_terminated {p : Phase} :
    p.advance .running = .terminated ↔ p = .terminated := by
  cases p <;> decide

lemma advance_awaiting_terminated {p : Phase} :
    p.advance .awaitingConfiguration = .terminated ↔ p = .terminated := by
  cases p <;> decide

lemma advance_awaiting {p : Phase} (h : ¬ .awaitingConfiguration ≤ p) :
    p.advance .awaitingConfiguration = .awaitingConfiguration := by
  cases p <;> first | rfl | exact absurd (by decide) h

end Phase

variable {S : Surroundings}

namespace Debugger

/-! ### Going on -/

/-- One session comes of another by moves that begin no launch. -/
structure Onward (d d' : Debugger S) : Prop where
  phase : d.phase ≤ d'.phase
  configured : d'.configured = d.configured
  timeout : d'.timeout = d.timeout
  pending : d.pending = none → d'.pending = none

lemma Onward.play (d : Debugger S) (es : List Effect) : Onward d (d.play es) :=
  ⟨Phase.le_refl _, rfl, rfl, id⟩

lemma Onward.worked (d : Debugger S) (p : Program) (v : Visualization) (es : List Effect) :
    Onward d (d.worked p v es) := ⟨Phase.le_refl _, rfl, rfl, id⟩

lemma Onward.trans {d d₁ d₂ : Debugger S} (h₁ : Onward d d₁) (h₂ : Onward d₁ d₂) : Onward d d₂ :=
  ⟨Phase.le_trans h₁.phase h₂.phase, h₂.configured.trans h₁.configured,
    h₂.timeout.trans h₁.timeout, fun h => h₂.pending (h₁.pending h)⟩

section Moves

variable {message : String} {code : Int} {m : Message} {action : StepAction} {now later : Nat}
  {r : Request} {d : Debugger S} {es : List Effect} {h : Handled S}

lemma Ends.onward (ends : Ends message code d es h) : Onward d h.2 := by
  cases ends with
  | past => exact .play d []
  | closes => exact ⟨Phase.le_terminated _, rfl, rfl, fun _ => rfl⟩

lemma Ends.terminated (ends : Ends message code d es h) : h.2.phase = .terminated := by
  cases ends with
  | past hd => exact hd
  | closes => rfl

lemma EndsAfter.onward (ends : EndsAfter m message code d es h) : Onward d h.2 := by
  cases ends with
  | heard ends => exact (Onward.play d _).trans ends.onward
  | unheard => exact .play d _

lemma EndsAfter.terminated (hS : S.Attentive) (ends : EndsAfter m message code d es h) :
    h.2.phase = .terminated := by
  cases ends with
  | heard ends => exact ends.terminated
  | unheard hA => exact absurd hS hA

/-- What waits is given up at the end, or nothing but the world has changed. -/
lemma EndsAfter.settles (ends : EndsAfter m message code d es h) :
    h.2.pending = none ∨ h.2 = d.play es := by
  cases ends with
  | heard ends =>
    cases ends with
    | past => exact .inr rfl
    | closes => exact .inl rfl
  | unheard => exact .inr rfl

lemma Steps.onward (steps : Steps action d es h) : Onward d h.2 := by
  cases steps with
  | idle => exact .play d []
  | stops => exact (Onward.worked d _ _ _).trans (.play _ _)
  | completes _ _ _ ends => exact (Onward.worked d _ _ _).trans ends.onward
  | fails _ _ _ ends => exact (Onward.worked d _ _ _).trans ends.onward

lemma Steps.idle_or_running (steps : Steps action d es h) :
    es = [] ∧ h = d.done ∨ d.phase = .running := by
  cases steps with
  | idle => exact .inl ⟨rfl, rfl⟩
  | stops hd => exact .inr hd
  | completes hd => exact .inr hd
  | fails hd => exact .inr hd

lemma Shoots.onward (shoots : Shoots d es h) : Onward d h.2 := by
  cases shoots with
  | finishes _ _ _ ends => exact (Onward.worked d _ _ _).trans ends.onward
  | fails _ _ ends => exact (Onward.worked d _ _ _).trans ends.onward

lemma Proceeds.onward (proceeds : Proceeds d es h) : Onward d h.2 := by
  cases proceeds with
  | shots _ shoots => exact shoots.onward
  | step _ steps => exact steps.onward

lemma Onward.released (d : Debugger S) (l : PendingLaunch) : Onward d (d.released l) :=
  ⟨Phase.le_advance_left _ _, rfl, rfl, fun _ => rfl⟩

lemma Resumes.onward (resumes : Resumes now d es h) : Onward d h.2 := by
  cases resumes with
  | waits => exact .play d []
  | unheard => exact ⟨Phase.le_refl _, rfl, rfl, fun _ => rfl⟩
  | goes _ proceeds => exact (Onward.released d _).trans proceeds.onward

lemma Resumes.settles (resumes : Resumes now d es h) :
    h.2.pending = none ∨ d.due now = none ∧ es = [] ∧ h = d.done := by
  cases resumes with
  | waits hd => exact .inr ⟨hd, rfl, rfl⟩
  | unheard => exact .inl rfl
  | goes _ proceeds => exact .inl (proceeds.onward.pending rfl)

lemma Resumes.idle (resumes : Resumes now d es h) (hd : d.due now = none) :
    es = [] ∧ h = d.done := by
  cases resumes with
  | waits => exact ⟨rfl, rfl⟩
  | unheard hl => simp [hd] at hl
  | goes hl => simp [hd] at hl

lemma resume_eq_done (hd : d.due now = none) :
    d.call (.resume now) = d.done := by
  cases d.call_moves (.resume now) with
  | resume resumes => exact (resumes.idle hd).2

/-! ### The phase never goes back -/

lemma Handles.phase_le (handles : Handles now later r d es h) : d.phase ≤ h.2.phase := by
  cases handles with
  | looks => exact Phase.le_refl _
  | greets => exact Phase.le_advance_left _ _
  | refuses => exact Phase.le_refl _
  | unheard => exact Phase.le_refl _
  | configures _ resumes => exact resumes.onward.phase
  | steps _ steps => exact steps.onward.phase
  | loadFails _ _ _ _ _ ends => exact ends.onward.phase
  | loses => exact Phase.le_refl _
  | launches _ _ _ _ _ _ resumes => exact Phase.le_trans (Phase.le_advance_left _ _) resumes.onward.phase
  | terminates _ ends => exact ends.onward.phase
  | disconnects => exact Phase.le_terminated _

/-- No call takes a session back. -/
theorem phase_le_call (d : Debugger S) (c : Call) : d.phase ≤ (d.call c).2.phase := by
  cases d.call_moves c with
  | request handles => exact handles.phase_le
  | resume resumes => exact resumes.onward.phase

lemma call_terminated (hd : d.phase = .terminated) (c : Call) :
    (d.call c).2.phase = .terminated :=
  Phase.terminated_le (hd ▸ phase_le_call d c)

lemma calls_terminated {cs : List Call} (hd : (d.calls cs).phase = .terminated)
    (later : List Call) : (d.calls (cs ++ later)).phase = .terminated := by
  induction later using List.reverseRecOn with
  | nil => simpa using hd
  | append_singleton later c ih =>
    rw [← List.append_assoc, calls_snoc]
    exact call_terminated ih c

/-! ### What only some calls change -/

lemma Handles.timeout (handles : Handles now later r d es h) : h.2.timeout = d.timeout := by
  cases handles with
  | looks => rfl
  | greets => rfl
  | refuses => rfl
  | unheard => rfl
  | configures _ resumes => exact resumes.onward.timeout
  | steps _ steps => exact steps.onward.timeout
  | loadFails _ _ _ _ _ ends => exact ends.onward.timeout
  | loses => rfl
  | launches _ _ _ _ _ _ resumes => exact resumes.onward.timeout
  | terminates _ ends => exact ends.onward.timeout
  | disconnects => rfl

lemma Handles.configured (hS : S.Attentive) (handles : Handles now later r d es h) :
    h.2.configured = (d.configured || decide (r.command = .configurationDone)) := by
  have kept (command : r.command ≠ .configurationDone) (hd : h.2.configured = d.configured) :
      h.2.configured = (d.configured || decide (r.command = .configurationDone)) := by
    simp [command, hd]
  cases handles with
  | looks command => exact kept (Command.neutral_of_looks command).configurationDone rfl
  | greets command => exact kept (by simp [command]) rfl
  | refuses refuses => exact kept (by cases refuses <;> simp [*]) rfl
  | unheard _ hA => exact absurd hS hA
  | configures command resumes => simp [resumes.onward.configured, command]
  | steps command steps =>
    exact kept (Command.neutral_of_step command).configurationDone steps.onward.configured
  | loadFails command _ _ _ _ ends => exact kept (by simp [command]) ends.onward.configured
  | loses _ _ _ _ _ hA => exact absurd hS hA
  | launches command _ _ _ _ _ resumes =>
    exact kept (by simp [command]) resumes.onward.configured
  | terminates command ends => exact kept (by simp [command]) ends.onward.configured
  | disconnects command => exact kept (by simp [command]) rfl

theorem call_timeout (d : Debugger S) (c : Call) : (d.call c).2.timeout = d.timeout := by
  cases d.call_moves c with
  | request handles => exact handles.timeout
  | resume resumes => exact resumes.onward.timeout

/-- Configuration is done once a client has said so, and then for good. -/
theorem call_configured (hS : S.Attentive) (d : Debugger S) (c : Call) :
    (d.call c).2.configured = (d.configured || decide (c.Asks .configurationDone)) := by
  cases d.call_moves c with
  | request handles => simp [handles.configured hS, Call.Asks, Call.request?]
  | resume resumes => simp [resumes.onward.configured, Call.Asks, Call.request?]

lemma calls_timeout (d : Debugger S) (cs : List Call) : (d.calls cs).timeout = d.timeout := by
  induction cs using List.reverseRecOn with
  | nil => rfl
  | append_singleton cs c ih => rw [calls_snoc, call_timeout, ih]

lemma calls_configured (hS : S.Attentive) (hd : d.Fresh) (cs : List Call) :
    (d.calls cs).configured = true ↔ ∃ c ∈ cs, c.Asks .configurationDone := by
  induction cs using List.reverseRecOn with
  | nil => simp [hd.configured]
  | append_singleton cs c ih =>
    rw [calls_snoc, call_configured hS, Bool.or_eq_true, decide_eq_true_iff, ih]
    simp only [List.mem_append, List.mem_singleton]
    constructor
    · rintro (⟨c', hc', hasks⟩ | hasks)
      · exact ⟨c', .inl hc', hasks⟩
      · exact ⟨c, .inr rfl, hasks⟩
    · rintro ⟨c', hc' | rfl, hasks⟩
      · exact .inl ⟨c', hc', hasks⟩
      · exact .inr hasks

/-! ### What holds while a launch waits -/

/-- A launch waits only while configuration is awaited and has not been done, and only for a
program that is loaded. -/
def Patient (d : Debugger S) : Prop :=
  d.pending ≠ none →
    d.phase = .awaitingConfiguration ∧ d.configured = false ∧ d.program.loaded = true

lemma Patient.of_none (h : d.pending = none) : Patient d := fun hd => absurd h hd

lemma Patient.pending_none (hd : Patient d) (h : d.phase ≠ .awaitingConfiguration) :
    d.pending = none := by
  by_contra hp
  exact h (hd hp).1

lemma due_of_configured (h : d.configured = true) : d.due now = d.pending := by
  cases hp : d.pending <;> simp [due, hp, h]

lemma accepted_phase {noDebug : Option Bool} {data : Option Json} {config : RunConfiguration}
    (accepted : d.accepted? noDebug data = .ok config) : ¬ .awaitingConfiguration ≤ d.phase := by
  intro h
  simp [accepted?, h] at accepted

lemma ne_awaiting_of_accepted {noDebug : Option Bool} {data : Option Json}
    {config : RunConfiguration} (accepted : d.accepted? noDebug data = .ok config) :
    d.phase ≠ .awaitingConfiguration := by
  intro h
  exact accepted_phase accepted (h ▸ Phase.le_refl _)

lemma Handles.patient (handles : Handles now later r d es h) (hd : Patient d) : Patient h.2 := by
  cases handles with
  | looks _ _ loaded =>
    intro hp
    obtain ⟨hphase, hconfigured, hloaded⟩ := hd hp
    exact ⟨hphase, hconfigured, loaded.trans hloaded⟩
  | greets =>
    intro hp
    obtain ⟨hphase, hconfigured, hloaded⟩ := hd hp
    exact ⟨Phase.advance_initialized_eq.mpr hphase, hconfigured, hloaded⟩
  | refuses => exact hd
  | unheard => exact hd
  | configures _ resumes =>
    rcases resumes.settles with hnone | ⟨hdue, -, rfl⟩
    · exact .of_none hnone
    · rw [due_of_configured rfl] at hdue
      exact .of_none hdue
  | steps _ steps =>
    rcases steps.idle_or_running with ⟨-, rfl⟩ | hrun
    · exact hd
    · refine .of_none (steps.onward.pending (hd.pending_none ?_))
      rw [show d.phase = .running from hrun]
      decide
  | loadFails _ accepted _ _ _ ends =>
    exact .of_none (ends.onward.pending (hd.pending_none (ne_awaiting_of_accepted accepted)))
  | loses _ accepted =>
    exact .of_none (hd.pending_none (ne_awaiting_of_accepted accepted))
  | launches _ accepted _ _ loaded _ resumes =>
    rcases resumes.settles with hnone | ⟨hdue, -, rfl⟩
    · exact .of_none hnone
    · -- the launch goes on waiting
      refine fun _ => ⟨Phase.advance_awaiting (accepted_phase accepted), ?_, loaded⟩
      have hwait : ¬ d.configured = true := fun hc => by simp [due, hc] at hdue
      exact Bool.eq_false_iff.mpr hwait
  | terminates _ ends =>
    rcases ends.settles with hnone | heq
    · exact .of_none hnone
    · rw [heq]
      exact hd
  | disconnects => exact .of_none rfl

theorem call_patient (hd : Patient d) (c : Call) : Patient (d.call c).2 := by
  cases d.call_moves c with
  | request handles => exact handles.patient hd
  | resume resumes =>
    rcases resumes.settles with hnone | ⟨-, -, heq⟩
    · exact .of_none hnone
    · rw [heq]
      exact hd

end Moves

/-- In every session, whatever its client, a launch waits only as it should. -/
theorem calls_patient {d : Debugger S} (h : d.Fresh) (cs : List Call) : Patient (d.calls cs) := by
  induction cs using List.reverseRecOn with
  | nil => exact .of_none h.pending
  | append_singleton cs c ih =>
    rw [calls_snoc]
    exact call_patient ih c

/-! ### The end is final -/

section Final

variable {now later : Nat} {r : Request} {d : Debugger S} {es : List Effect} {h : Handled S}

lemma Ends.not_runs {message : String} {code : Int} (ends : Ends message code d es h) :
    ∀ e ∈ es, ¬ e.Runs := by
  cases ends with
  | past => simp
  | closes _ sent => exact List.forall_mem_cons.mpr ⟨id, sent.not_runs⟩

lemma EndsAfter.not_runs {m : Message} {message : String} {code : Int}
    (ends : EndsAfter m message code d es h) : ∀ e ∈ es, ¬ e.Runs := by
  cases ends with
  | heard ends => exact List.forall_mem_cons.mpr ⟨id, ends.not_runs⟩
  | unheard => simp

lemma not_accepted_of_terminated {noDebug : Option Bool} {data : Option Json}
    {config : RunConfiguration} (hd : d.phase = .terminated) :
    d.accepted? noDebug data ≠ .ok config := by
  intro accepted
  exact accepted_phase accepted (hd ▸ by decide)

/-- What a session that is over may still do for a call: it answers, and it greets a client that
greets it. -/
def Late (c : Call) : Effect → Prop
  | .engine (.eval _ _) => False
  | .engine (.loadProgram _) => False
  | .telemetry (.sessionStart _ _) => False
  | .telemetry (.sessionEnd _) => False
  | .message (.event e) _ =>
    e = .initialized ∧ ∃ lines columns types, c.Asks (.initializeSession lines columns types)
  | _ => True

lemma Late.of_aside {c : Call} {e : Effect} (h : e.Aside) : Late c e := by
  unfold Late
  split <;> simp_all

lemma Late.not_runs {c : Call} {e : Effect} (h : Late c e) : ¬ e.Runs := by
  unfold Late at h
  split at h <;> simp_all

lemma Handles.late (handles : Handles now later r d es h) (hd : Patient d)
    (hover : d.phase = .terminated) : ∀ e ∈ es, Late (.request now later r) e := by
  have hnone : d.pending = none := hd.pending_none (by simp [hover])
  have answer (reply : Reply) (ok : Bool) :
      ∀ e ∈ [r.answer reply ok], Late (.request now later r) e :=
    List.forall_mem_singleton.mpr trivial
  cases handles with
  | looks _ aside =>
    exact List.forall_mem_append.mpr ⟨fun e he => .of_aside (aside e he), answer _ _⟩
  | greets command sent =>
    refine sent.forall_mem fun m hm ok => ?_
    simp only [List.mem_cons, List.not_mem_nil, or_false] at hm
    rcases hm with rfl | rfl
    · trivial
    · exact ⟨rfl, _, _, _, congrArg some command⟩
  | refuses => exact answer _ _
  | unheard => exact answer _ _
  | configures _ resumes =>
    obtain ⟨rfl, -⟩ := resumes.idle (by simp [due, hnone])
    exact answer _ _
  | steps _ steps =>
    rcases steps.idle_or_running with ⟨rfl, -⟩ | hrun
    · exact answer _ _
    · exact absurd (hover.symm.trans hrun) (by decide)
  | loadFails _ accepted => exact absurd accepted (not_accepted_of_terminated hover)
  | loses _ accepted => exact absurd accepted (not_accepted_of_terminated hover)
  | launches _ accepted => exact absurd accepted (not_accepted_of_terminated hover)
  | terminates _ ends =>
    refine List.forall_mem_cons.mpr ⟨trivial, ?_⟩
    cases ends with
    | heard ends =>
      cases ends with
      | past => exact answer _ _
      | closes hd => exact absurd hover hd
    | unheard => exact answer _ _
  | disconnects => exact List.forall_mem_cons.mpr ⟨trivial, answer _ _⟩

/-- **After its end a session only answers.** -/
theorem call_late (hd : Patient d) (hover : d.phase = .terminated) (c : Call) :
    ∀ e ∈ d.effects c, Late c e := by
  cases d.call_moves c with
  | request handles => exact handles.late hd hover
  | resume resumes =>
    have hnone : d.pending = none := hd.pending_none (by simp [hover])
    obtain ⟨hes, -⟩ := resumes.idle (by simp [due, hnone])
    simp only [hes, List.not_mem_nil, false_implies, implies_true]

end Final

/-! ### What holds while configuration is awaited -/

/-- Configuration is awaited only while a launch waits for it. -/
def Attended (d : Debugger S) : Prop := d.phase = .awaitingConfiguration → d.pending ≠ none

section Attentive

variable {now later : Nat} {r : Request} {d : Debugger S} {es : List Effect} {h : Handled S}

lemma Attended.of_running (h : Phase.running ≤ d.phase) : Attended d := by
  intro hd
  rw [hd] at h
  exact absurd h (by decide)

lemma Attended.of_terminated (h : d.phase = .terminated) : Attended d := by
  intro hd
  rw [hd] at h
  exact absurd h (by decide)

lemma Resumes.attended (resumes : Resumes now d es h) (hS : S.Attentive) (hd : Attended d) :
    Attended h.2 := by
  cases resumes with
  | waits => exact hd
  | unheard _ hA => exact absurd hS hA
  | goes _ proceeds =>
    exact .of_running (Phase.le_trans (Phase.le_advance_right _ _) proceeds.onward.phase)

lemma Handles.attended (handles : Handles now later r d es h) (hS : S.Attentive)
    (hd : Attended d) : Attended h.2 := by
  cases handles with
  | looks => exact hd
  | greets => exact fun hp => hd (Phase.advance_initialized_eq.mp hp)
  | refuses => exact hd
  | unheard _ hA => exact absurd hS hA
  | configures _ resumes => exact resumes.attended hS hd
  | steps _ steps =>
    rcases steps.idle_or_running with ⟨-, rfl⟩ | hrun
    · exact hd
    · refine .of_running (Phase.le_trans ?_ steps.onward.phase)
      rw [hrun]
      exact Phase.le_refl _
  | loadFails _ _ _ _ _ ends => exact .of_terminated (ends.terminated hS)
  | loses _ _ _ _ _ hA => exact absurd hS hA
  | launches _ _ _ _ _ _ resumes => exact resumes.attended hS fun _ => by simp
  | terminates _ ends => exact .of_terminated (ends.terminated hS)
  | disconnects => exact .of_terminated rfl

theorem call_attended (hS : S.Attentive) (hd : Attended d) (c : Call) :
    Attended (d.call c).2 := by
  cases d.call_moves c with
  | request handles => exact handles.attended hS hd
  | resume resumes => exact resumes.attended hS hd

end Attentive

theorem calls_attended {d : Debugger S} (hS : S.Attentive) (h : d.Fresh) (cs : List Call) :
    Attended (d.calls cs) := by
  induction cs using List.reverseRecOn with
  | nil =>
    intro hphase
    simp [h.phase] at hphase
  | append_singleton cs c ih =>
    rw [calls_snoc]
    exact call_attended hS ih c

end Debugger

end QuantumDebug
