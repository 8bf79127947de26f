import QuantumDebug.Proofs.Session.Configuration
import QuantumDebug.Proofs.Session.Ending
import QuantumDebug.Proofs.Session.Scripted
import QuantumDebug.Proofs.Shots

/-!
A session whose program is run without the debugger. When its launch goes ahead the shots take their
course, the session ends as the last of them does, and nothing is run before or after.
-/

namespace QuantumDebug

open World

variable {S : Surroundings}

def LastShot.farewell : LastShot → List Effect
  | completes => Debugger.closing "all shots completed" 0
  | stops _ => Debugger.closing "execution didn't run to completion" (-1)
  | faults e => .message (Debugger.fault e) true :: Debugger.closing "ending session due to error" 1
  | unloads e =>
    .message (Debugger.fault e) true :: Debugger.closing "ending session due to error" 1

/-- What the client hears when the shots have ended so. -/
def ShotsOutcome.farewell (how : ShotsOutcome) : List Effect :=
  (how.failure.map fun e => .message (Debugger.fault e) true).toList ++
    Debugger.closing how.message how.exitCode

lemma LastShot.farewell_eq (last : LastShot) (shot : Nat) :
    (last.outcome shot).farewell = last.farewell := by
  cases last <;> rfl

namespace Debugger

variable {d : Debugger S}

/-! ### The end of the shots -/

lemma endSession_world (hA : S.Attentive) (hphase : d.phase ≠ .terminated) (message : String)
    (code : Int) :
    (d.endSession message code).2.world = d.world.playAll (closing message code) ∧
      (d.endSession message code).2.phase = .terminated := by
  obtain ⟨es, ends⟩ := d.endSession_ends message code
  refine ⟨?_, ends.terminated⟩
  have hworld := ends.world
  generalize d.endSession message code = h at ends hworld
  cases ends with
  | past hover => exact absurd hover hphase
  | closes _ sent =>
    obtain rfl := sent.ok hA
    obtain rfl := sent.eq_map
    rw [List.map_map] at hworld
    exact hworld

lemma farewell_world (hA : S.Attentive) (hphase : d.phase ≠ .terminated) (how : ShotsOutcome) :
    let h := (match how.failure with
      | some e => d.report e
      | none => d.done).andThen (·.endSession how.message how.exitCode)
    h.2.world = d.world.playAll how.farewell ∧ h.2.phase = .terminated := by
  cases how with
  | completed => exact endSession_world hA hphase _ _
  | incomplete => exact endSession_world hA hphase _ _
  | failed shot e =>
    show ((d.report e).andThen (·.endSession "ending session due to error" 1)).2.world = _ ∧
      ((d.report e).andThen (·.endSession "ending session due to error" 1)).2.phase = _
    rw [report, tell, send_heard hA, andThen_true]
    exact endSession_world (d := d.play [.message (fault e) true]) hA hphase _ _

lemma farewell_passes (hA : S.Attentive) (hphase : d.phase ≠ .terminated) (last : LastShot)
    (shot : Nat) :
    let how := last.outcome shot
    let h := (match how.failure with
      | some e => d.report e
      | none => d.done).andThen (·.endSession how.message how.exitCode)
    d.world.Passes last.farewell [] h.2.world ∧ h.2.phase = .terminated := by
  obtain ⟨hworld, hover⟩ := farewell_world hA hphase (last.outcome shot)
  rw [last.farewell_eq] at hworld
  exact ⟨⟨last.farewell, hworld, by cases last <;> rfl, by cases last <;> rfl⟩, hover⟩

/-- All shots of a program take one of the courses, and end the session. -/
theorem runAllShots_course (hA : S.Attentive) (hphase : d.phase ≠ .terminated)
    (hshots : 1 ≤ d.program.config.shotCount) :
    ∃ (count : Nat) (last : LastShot), last.Fits d.program.config.shotCount (count + 1) ∧
      d.world.Passes
        (fullShots d.program.config d.program.config.shotCount 0 count ++
          last.marks d.program.config d.program.config.shotCount (count + 1) ++ last.farewell)
        (fullAnswers count ++ last.answers) d.runAllShots.2.world ∧
      d.runAllShots.2.phase = .terminated := by
  obtain ⟨count, last, course⟩ := runShots_course d.program d.view d.world hA hshots
  rw [runAllShots]
  rcases hr : runShots Program.reload d.program.config.shotCount d.program d.view d.world
    with ⟨how, p, v, w⟩
  rw [hr] at course
  obtain ⟨fits, rfl, passes⟩ := course
  rw [Nat.zero_add] at fits passes ⊢
  obtain ⟨closed, hover⟩ := farewell_passes hA hphase last (count + 1)
    (d := { d with inspector := d.inspector.reset, program := p, view := v, world := w })
  refine ⟨count, last, fits, ?_, hover⟩
  have all := passes.trans closed
  rw [List.append_nil] at all
  exact all

/-! ### A launch that goes ahead -/

lemma resume_eq_run (hA : S.Attentive) {now : Nat} {l : PendingLaunch}
    (hdue : d.due now = some l) : d.resume now = (d.released l).run := by
  obtain ⟨hpending, hready⟩ := Option.filter_eq_some_iff.mp hdue
  rw [resume, hpending]
  dsimp only
  rw [if_pos (by simpa using hready)]
  rw [respond, send_heard hA, andThen_true]
  rfl

/-- A call comes to where a launch goes ahead, and nothing is run before. -/
structure Going (d : Debugger S) (c : Call) (d' : Debugger S) (l : PendingLaunch)
    (pre : List Effect) : Prop where
  phase : d'.phase = .awaitingConfiguration
  runs : d.call c = (d'.released l).run
  world : d'.world = d.world.playAll pre
  quiet : ∀ e ∈ pre, ¬ e.Evals
  unstopped : ∀ e ∈ pre, ¬ e.Stops
  view : d'.view.enabled = d.shows c

lemma configurationDone_going (hA : S.Attentive) (hd : Patient d) {now later : Nat} {r : Request}
    (command : r.command = .configurationDone) {l : PendingLaunch} (hpending : d.pending = some l) :
    Going d (.request now later r)
      { d.play [r.answer (.success .configurationDone) true] with configured := true } l
      [r.answer (.success .configurationDone) true] where
  phase := (hd (by simp [hpending])).1
  runs := by
    have hcall : d.call (.request now later r) = d.configurationDone now r := by
      simp only [call, handle, command]
    rw [hcall, configurationDone, respond, send_heard hA, andThen_true]
    exact resume_eq_run hA ((due_of_configured rfl).trans hpending)
  world := rfl
  quiet := List.forall_mem_singleton.mpr id
  unstopped := List.forall_mem_singleton.mpr id
  view := (shows_of_takes?_none (takes?_of_command (by simp [command]))).symm

lemma launch_going (hA : S.Attentive) {now later : Nat} {r : Request} (hloads : d.loads r = true)
    (hready : d.configured = true ∨ now + d.timeout ≤ later) :
    ∃ d' pre, Going d (.request now later r) d' ⟨r, now + d.timeout⟩ pre := by
  obtain ⟨config, urls, launches⟩ := loads_iff.mp hloads
  obtain ⟨es, fs, hload, -⟩ := call_launches launches now later (.inl hA)
  have hdue := due_await (d := d.announcing config (d.loadedBy config) es) (r := r) now later
  rw [announcing, launching_configured, launching_timeout, if_pos hready] at hdue
  have hworld := (await_world (d.announcing config (d.loadedBy config) es) now r).trans
    (launching_world _ _ _ _)
  refine ⟨_, _, Phase.advance_awaiting (accepted_of_loads hloads),
    hload.goesOn.trans (resume_eq_run hA hdue), hworld, ?_, ?_, ?_⟩
  · refine List.forall_mem_cons.mpr ⟨id, List.forall_mem_cons.mpr ⟨id, ?_⟩⟩
    refine List.forall_mem_append.mpr ⟨fun e he hevals => ?_, by simp⟩
    exact Effect.not_runs_of_aside hload.aside e he hevals.runs
  · refine List.forall_mem_cons.mpr ⟨id, List.forall_mem_cons.mpr ⟨id, ?_⟩⟩
    exact List.forall_mem_append.mpr ⟨fun e he => (hload.aside e he).work.not_stops, by simp⟩
  · obtain ⟨noDebug, data, command, accepted⟩ := launches.accepted
    exact configure_shows (takes?_of_asks (congrArg some command) accepted)

lemma call_going (hA : S.Attentive) (hd : Patient d) {c : Call} {r : Request}
    (hgoes : d.goes? c = some r) :
    ∃ (d' : Debugger S) (l : PendingLaunch) (pre : List Effect),
      l.request = r ∧ Going d c d' l pre := by
  cases c with
  | resume now =>
    obtain ⟨l, hdue, hl⟩ := Option.map_eq_some_iff.mp hgoes
    have hpending : d.pending = some l := (Option.filter_eq_some_iff.mp hdue).1
    have hphase := (hd (by simp [hpending])).1
    exact ⟨d, l, [], hl, hphase, resume_eq_run hA hdue, rfl, by simp, by simp,
      (shows_of_takes?_none rfl).symm⟩
  | request now later r' =>
    by_cases command : r'.command = .configurationDone
    · rw [goes?, if_pos command] at hgoes
      obtain ⟨l, hpending, hl⟩ := Option.map_eq_some_iff.mp hgoes
      exact ⟨_, l, _, hl, configurationDone_going hA hd command hpending⟩
    · rw [goes?, if_neg command] at hgoes
      split at hgoes
      · rename_i hready
        obtain rfl := Option.some.inj hgoes
        obtain ⟨d', pre, going⟩ := launch_going hA hready.1 hready.2
        exact ⟨d', _, pre, rfl, going⟩
      · simp at hgoes

/-! ### The result -/

/-- A call at which a launch goes ahead without the debugger, and what comes of it. -/
structure ShootsThrough (d : Debugger S) (c : Call) (r : Request) (config : RunConfiguration) :
    Prop where
  /-- The launch is answered before anything is run. Then the shots take their course: some come to
  their end, each reported before the program is loaded anew, and one is the last. -/
  course : ∃ (pre es : List Effect) (count : Nat) (last : LastShot),
    d.effects c = pre ++ r.answer (.success .launch) true :: es ∧ (∀ e ∈ pre, ¬ e.Evals) ∧
    last.Fits config.shotCount (count + 1) ∧
    (d.world.playAll (pre ++ [r.answer (.success .launch) true])).answers es =
      fullAnswers count ++ last.answers ∧
    landmarks es = fullShots config config.shotCount 0 count ++
      last.marks config config.shotCount (count + 1) ++ last.farewell
  shots : 1 ≤ config.shotCount
  /-- Nothing has been run before. -/
  first : ∀ e ∈ d.world.trace, ¬ e.Evals
  /-- The session is over, and no later call runs or loads a program. -/
  ended : (d.call c).2.phase = .terminated
  final : ∀ later c', ∀ e ∈ ((d.call c).2.calls later).effects c', ¬ e.Runs

lemma run_config (d : Debugger S) : d.run.2.program.config = d.program.config := by
  rcases d.run_reruns with heq | ⟨-, reloads⟩
  · rw [heq]
  · exact reloads.config

/-- **A launch without the debugger runs its shots through and ends the session.** -/
theorem calls_shootsThrough (hA : S.Attentive) (h : d.Fresh) (cs : List Call) (c : Call)
    {r : Request} (hgoes : (d.calls cs).goes? c = some r)
    (noDebug : (d.calls (cs ++ [c])).program.config.noDebug = true) :
    ShootsThrough (d.calls cs) c r (d.calls (cs ++ [c])).program.config := by
  have hpatient := calls_patient h cs
  have hshots := calls_shots h (cs ++ [c])
  obtain ⟨d', l, pre, rfl, going⟩ := call_going hA hpatient hgoes
  obtain ⟨hawaiting, hcall, hworld, hpre⟩ := going
  have hconfig : (d.calls (cs ++ [c])).program.config = d'.program.config := by
    rw [calls_snoc, hcall, run_config]
    rfl
  rw [hconfig] at noDebug hshots ⊢
  have hrun : (d'.released l).run = (d'.released l).runAllShots := if_pos noDebug
  rw [hrun] at hcall
  have hphase : (d'.released l).phase ≠ .terminated := by
    show d'.phase.advance .running ≠ .terminated
    rw [hawaiting]
    decide
  obtain ⟨count, last, fits, ⟨es, hes, hmarks, hanswers⟩, hover⟩ :=
    runAllShots_course hA hphase hshots
  rw [← hcall] at hes hover
  have hreleased : (d'.released l).world =
      (d.calls cs).world.playAll (pre ++ [l.request.answer (.success .launch) true]) := by
    rw [playAll_append, ← hworld]
    rfl
  rw [hreleased] at hes hanswers
  have heffects : (d.calls cs).effects c =
      pre ++ l.request.answer (.success .launch) true :: es := by
    refine effects_of_world ?_
    rw [hes, ← playAll_append, List.append_assoc, List.singleton_append]
  have acked := calls_acked hA h cs
  have hacks : acks (d.calls cs).world.trace = [] := by
    by_contra hne
    simp [acked.goes? hpatient hne c] at hgoes
  exact {
    course := ⟨pre, es, count, last, heffects, hpre, fits, hanswers, hmarks⟩
    shots := hshots
    first := acked.quiet hacks
    ended := hover
    final := fun later c' e he => by
      rw [← calls_snoc] at he hover
      rw [← calls_append] at he
      exact (call_late (calls_patient h _) (calls_terminated hover later) c' e he).not_runs }

def thirdStops : Debugger (.scripted []) :=
  scripted [] ⟨[], [.ok .completed, .ok .completed, .ok .progressed]⟩

theorem thirdStops_shootsThrough :
    (Surroundings.scripted []).Attentive ∧ thirdStops.Fresh ∧
      (thirdStops.calls [.request 0 0 ⟨1, .configurationDone⟩]).goes?
        (.request 10 10 (.shotsLaunch 2 5)) = some (.shotsLaunch 2 5) ∧
      (thirdStops.calls [.request 0 0 ⟨1, .configurationDone⟩,
        .request 10 10 (.shotsLaunch 2 5)]).program.config.noDebug = true ∧
      ShootsThrough (thirdStops.calls [.request 0 0 ⟨1, .configurationDone⟩])
        (.request 10 10 (.shotsLaunch 2 5)) (.shotsLaunch 2 5)
        (thirdStops.calls [.request 0 0 ⟨1, .configurationDone⟩,
          .request 10 10 (.shotsLaunch 2 5)]).program.config ∧
      .message (.event (.exited (-1))) true ∈
        (thirdStops.calls [.request 0 0 ⟨1, .configurationDone⟩]).effects
          (.request 10 10 (.shotsLaunch 2 5)) := by
  have hA := (Surroundings.scripted_attentive_iff []).mpr rfl
  have hfresh : thirdStops.Fresh := scripted_fresh _ _
  have hgoes : (thirdStops.calls [.request 0 0 ⟨1, .configurationDone⟩]).goes?
      (.request 10 10 (.shotsLaunch 2 5)) = some (.shotsLaunch 2 5) := by decide +kernel
  have noDebug : (thirdStops.calls [.request 0 0 ⟨1, .configurationDone⟩,
      .request 10 10 (.shotsLaunch 2 5)]).program.config.noDebug = true := by decide +kernel
  exact ⟨hA, hfresh, hgoes, noDebug, calls_shootsThrough hA hfresh _ _ hgoes noDebug,
    by decide +kernel⟩

end Debugger

end QuantumDebug
