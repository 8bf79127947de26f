import QuantumDebug.Proofs.Session.Moves

/-!
What a session can do for one call: a request, or the passing of time while a launch waits. As with
the moves, every way it can go is a constructor. The effects of a call are told from the trace, and
they determine what becomes of the world.
-/

namespace QuantumDebug

variable {S : Surroundings}

def Request.answer (r : Request) (reply : Reply) (ok : Bool) : Effect :=
  .message (.response ⟨r.seq, reply⟩) ok

/-- Whether a request only looks around or names breakpoints. -/
def Command.looks : Command → Bool
  | .setBreakpoints _ _ => true
  | .breakpointLocations _ _ => true
  | .setExceptionBreakpoints => true
  | .setFunctionBreakpoints => true
  | .threads => true
  | .stackTrace => true
  | .scopes => true
  | .variables _ => true
  | _ => false

/-- How a request that runs the program is answered, and how it runs it. -/
def Command.step? : Command → Option (ResponseBody × StepAction)
  | .continue => some (.continue, .continue)
  | .next => some (.next, .next)
  | .stepIn => some (.stepIn, .stepIn)
  | .stepOut => some (.stepOut, .stepOut)
  | _ => none

/-- A command that has no say in the launch or in the end of a session. -/
structure Command.Neutral (c : Command) : Prop where
  launch : ∀ noDebug data, c ≠ .launch noDebug data
  configurationDone : c ≠ .configurationDone
  terminate : c ≠ .terminate
  disconnect : c ≠ .disconnect

lemma Command.neutral_of_looks {c : Command} (h : c.looks = true) : c.Neutral where
  launch noDebug data hc := by simp [hc, looks] at h
  configurationDone hc := by simp [hc, looks] at h
  terminate hc := by simp [hc, looks] at h
  disconnect hc := by simp [hc, looks] at h

lemma Command.neutral_of_step {c : Command} {body : ResponseBody} {action : StepAction}
    (h : c.step? = some (body, action)) : c.Neutral where
  launch noDebug data hc := by simp [hc, step?] at h
  configurationDone hc := by simp [hc, step?] at h
  terminate hc := by simp [hc, step?] at h
  disconnect hc := by simp [hc, step?] at h

lemma Command.ne_launch_of_step {c : Command} {body : ResponseBody} {action : StepAction}
    (h : c.step? = some (body, action)) : body ≠ .launch := by
  rintro rfl
  cases c <;> simp [step?] at h

def PendingLaunch.ack (l : PendingLaunch) (ok : Bool) : Effect :=
  l.request.answer (.success .launch) ok

namespace Debugger

/-! ### Going on with a launch -/

/-- The launch that waits no longer. -/
def due (d : Debugger S) (now : Nat) : Option PendingLaunch :=
  d.pending.filter fun l => d.configured || decide (l.deadline ≤ now)

/-- The session after a waiting launch has been answered. -/
def released (d : Debugger S) (l : PendingLaunch) : Debugger S :=
  (({ d with pending := none } : Debugger S).play [l.ack true]).advance .running

/-- Going on with a waiting launch, if it waits no longer. -/
inductive Resumes (now : Nat) (d : Debugger S) : List Effect → Handled S → Prop where
  | waits (h : d.due now = none) : Resumes now d [] d.done
  | unheard {l : PendingLaunch} (h : d.due now = some l) (hS : ¬ S.Attentive) :
      Resumes now d [l.ack false]
        (.error .unreachable, ({ d with pending := none } : Debugger S).play [l.ack false])
  | goes {l : PendingLaunch} {es : List Effect} {h' : Handled S} (h : d.due now = some l)
      (proceeds : Proceeds (d.released l) es h') : Resumes now d (l.ack true :: es) h'

lemma resume_resumes (d : Debugger S) (now : Nat) : ∃ es, Resumes now d es (d.resume now) := by
  unfold resume
  split
  · exact ⟨[], .waits (by simp [due, *])⟩
  · rename_i l hl
    split
    · rename_i h
      have hdue : d.due now = some l := by simpa [due, hl] using h
      rcases ({ d with pending := none } : Debugger S).send_arrival
        (.response (l.request.success .launch)) with heq | ⟨hS, heq⟩
      · obtain ⟨es, proceeds⟩ := (d.released l).run_proceeds
        refine ⟨l.ack true :: es, ?_⟩
        rw [respond, heq, andThen_true]
        exact .goes hdue proceeds
      · refine ⟨[l.ack false], ?_⟩
        rw [respond, heq, andThen_false]
        exact .unheard hdue hS
    · rename_i h
      exact ⟨[], .waits (by simpa [due, hl] using h)⟩

/-! ### Requests -/

def greeted (d : Debugger S) (lines columns types : Option Bool) : Debugger S :=
  ({ d with
    coords := .ofClient lines columns
    program := { d.program with resolver := .fresh (.ofClient lines columns) }
    inspector := d.inspector.setSupportsVariableType (types.getD false) } :
    Debugger S).advance .initialized

def taken (config : RunConfiguration) : Effect :=
  .telemetry (.sessionStart config.noDebug config.shotCount)

/-- A session with a configuration and what has become of its program meanwhile. -/
def launching (d : Debugger S) (config : RunConfiguration) (p : Program) (es : List Effect) :
    Debugger S :=
  ({ d.configure config with program := p } : Debugger S).play es

@[simp] lemma launching_world (d : Debugger S) (config : RunConfiguration) (p : Program)
    (es : List Effect) :
    (d.launching config p es).world = d.world.playAll (taken config :: es) := rfl
@[simp] lemma launching_program (d : Debugger S) (config : RunConfiguration) (p : Program)
    (es : List Effect) : (d.launching config p es).program = p := rfl
@[simp] lemma launching_phase (d : Debugger S) (config : RunConfiguration) (p : Program)
    (es : List Effect) : (d.launching config p es).phase = d.phase := rfl
@[simp] lemma launching_configured (d : Debugger S) (config : RunConfiguration) (p : Program)
    (es : List Effect) : (d.launching config p es).configured = d.configured := rfl
@[simp] lemma launching_pending (d : Debugger S) (config : RunConfiguration) (p : Program)
    (es : List Effect) : (d.launching config p es).pending = d.pending := rfl
@[simp] lemma launching_timeout (d : Debugger S) (config : RunConfiguration) (p : Program)
    (es : List Effect) : (d.launching config p es).timeout = d.timeout := rfl

@[simp] lemma await_world (d : Debugger S) (now : Nat) (r : Request) :
    (d.await now r).world = d.world := rfl
@[simp] lemma await_program (d : Debugger S) (now : Nat) (r : Request) :
    (d.await now r).program = d.program := rfl
@[simp] lemma await_phase (d : Debugger S) (now : Nat) (r : Request) :
    (d.await now r).phase = d.phase.advance .awaitingConfiguration := rfl
@[simp] lemma await_configured (d : Debugger S) (now : Nat) (r : Request) :
    (d.await now r).configured = d.configured := rfl
@[simp] lemma await_pending (d : Debugger S) (now : Nat) (r : Request) :
    (d.await now r).pending = some ⟨r, now + d.timeout⟩ := rfl

def accepted? (d : Debugger S) (noDebug : Option Bool) (data : Option Json) :
    Except SessionError RunConfiguration :=
  if .awaitingConfiguration ≤ d.phase then .error .alreadyLaunched
  else launchConfiguration noDebug data

/-- Requests that are refused, why, and what the client is told. -/
inductive Refuses (d : Debugger S) (r : Request) : SessionError → String → Prop where
  | launch {noDebug : Option Bool} {data : Option Json} {e : SessionError}
      (command : r.command = .launch noDebug data) (h : d.accepted? noDebug data = .error e) :
      Refuses d r e e.message
  | unsupported {name : String} (command : r.command = .unsupported name) :
      Refuses d r (.unhandledCommand name) "Unsupported request"

/-- Answering a request that comes at one time and whose launch, if it is one, is looked at once
more at another. -/
inductive Handles (now later : Nat) (r : Request) (d : Debugger S) :
    List Effect → Handled S → Prop where
  | looks {p : Program} {v : Visualization} {i : Inspector} {es : List Effect}
      {body : ResponseBody} {ok : Bool} (command : r.command.looks = true)
      (aside : ∀ e ∈ es, e.Aside) (loaded : p.loaded = d.program.loaded)
      (noLaunch : body ≠ .launch) (hok : S.Attentive → ok = true) :
      Handles now later r d (es ++ [r.answer (.success body) ok])
        (arrival ok, ({ d with program := p, view := v, inspector := i } : Debugger S).play
          (es ++ [r.answer (.success body) ok]))
  | greets {lines columns types : Option Bool} {es : List Effect} {ok : Bool}
      (command : r.command = .initializeSession lines columns types)
      (sent : Sent S [.response (r.success .initializeSession), .event .initialized] es ok) :
      Handles now later r d es (arrival ok, (d.greeted lines columns types).play es)
  | refuses {e : SessionError} {text : String} {ok : Bool} (refuses : Refuses d r e text)
      (hok : S.Attentive → ok = true) :
      Handles now later r d [r.answer (.failure text) ok]
        (failure e ok, d.play [r.answer (.failure text) ok])
  | unheard {body : ResponseBody}
      (command : r.command = .configurationDone ∧ body = .configurationDone ∨
        ∃ action, r.command.step? = some (body, action)) (hS : ¬ S.Attentive) :
      Handles now later r d [r.answer (.success body) false]
        (.error .unreachable, d.play [r.answer (.success body) false])
  | configures {es : List Effect} {h : Handled S} (command : r.command = .configurationDone)
      (resumes : Resumes now
        { d.play [r.answer (.success .configurationDone) true] with configured := true } es h) :
      Handles now later r d (r.answer (.success .configurationDone) true :: es) h
  | steps {body : ResponseBody} {action : StepAction} {es : List Effect} {h : Handled S}
      (command : r.command.step? = some (body, action))
      (steps : Steps action (d.play [r.answer (.success body) true]) es h) :
      Handles now later r d (r.answer (.success body) true :: es) h
  | loadFails {noDebug : Option Bool} {data : Option Json} {config : RunConfiguration}
      {e : EngineError} {p : Program} {es : List Effect} {h : Handled S}
      (command : r.command = .launch noDebug data) (accepted : d.accepted? noDebug data = .ok config)
      (failed : (S.engine.loadProgram config d.world.engine).1 = .error e)
      (config' : p.config = config) (unloaded : p.loaded = false)
      (ends : EndsAfter (.response (r.failure e.message)) "ending session due to error" 1
        (d.launching config p [.engine (.loadProgram config)]) es h) :
      Handles now later r d (taken config :: .engine (.loadProgram config) :: es) h
  | loses {noDebug : Option Bool} {data : Option Json} {config : RunConfiguration}
      {urls : List Url} {p : Program} {es fs : List Effect} {bs : List Breakpoint}
      (command : r.command = .launch noDebug data) (accepted : d.accepted? noDebug data = .ok config)
      (answered : (S.engine.loadProgram config d.world.engine).1 = .ok urls)
      (config' : p.config = config) (aside : ∀ e ∈ es, e.Aside) (hS : ¬ S.Attentive)
      (sent : Sent S (bs.map (.event ∘ .breakpoint)) fs false) :
      Handles now later r d (taken config :: .engine (.loadProgram config) :: (es ++ fs))
        (.error .unreachable,
          d.launching config p (.engine (.loadProgram config) :: (es ++ fs)))
  | launches {noDebug : Option Bool} {data : Option Json} {config : RunConfiguration}
      {urls : List Url} {p : Program} {es fs : List Effect} {bs : List Breakpoint} {h : Handled S}
      (command : r.command = .launch noDebug data) (accepted : d.accepted? noDebug data = .ok config)
      (answered : (S.engine.loadProgram config d.world.engine).1 = .ok urls)
      (config' : p.config = config) (loaded : p.loaded = true) (aside : ∀ e ∈ es, e.Aside)
      (resumes : Resumes later
        ((d.launching config p (.engine (.loadProgram config) ::
          (es ++ bs.map fun b => .message (.event (.breakpoint b)) true))).await now r) fs h) :
      Handles now later r d
        (taken config :: .engine (.loadProgram config) ::
          (es ++ bs.map (fun b => .message (.event (.breakpoint b)) true) ++ fs)) h
  | terminates {es : List Effect} {h : Handled S} (command : r.command = .terminate)
      (ends : EndsAfter (.response (r.success .terminate)) "debug session terminated" 0
        (d.play [.engine .terminate]) es h) :
      Handles now later r d (.engine .terminate :: es) h
  | disconnects {ok : Bool} (command : r.command = .disconnect) (hok : S.Attentive → ok = true) :
      Handles now later r d [.engine .terminate, r.answer (.success .disconnect) ok]
        (failure .shutdown ok,
          { d.play [.engine .terminate, r.answer (.success .disconnect) ok] with
            pending := none, phase := .terminated })

lemma handle_steps {now later : Nat} {r : Request} {body : ResponseBody} {action : StepAction}
    (command : r.command.step? = some (body, action)) (d : Debugger S) :
    d.handle now r later = d.respondAndStep r body action := by
  cases hcommand : r.command <;> simp [hcommand, Command.step?] at command
  all_goals
    obtain ⟨rfl, rfl⟩ := command
    simp only [handle, hcommand]

/-! ### Every request is handled in one of these ways -/

variable (now later : Nat) {r : Request} (d : Debugger S)

lemma respond_looks {body : ResponseBody} {p : Program} {v : Visualization} {i : Inspector}
    {w : World S} (command : r.command.looks = true) (noLaunch : body ≠ .launch)
    (loaded : p.loaded = d.program.loaded) (leads : d.world.Leads Effect.Aside w) :
    ∃ es, Handles now later r d es
      (({ d with program := p, view := v, inspector := i, world := w } : Debugger S).respond r
        body) := by
  obtain ⟨es, aside, rfl⟩ := leads
  have hd : ({ d with program := p, view := v, inspector := i, world := d.world.playAll es } :
      Debugger S) = ({ d with program := p, view := v, inspector := i } : Debugger S).play es := rfl
  obtain ⟨ok, hok, heq⟩ := (({ d with program := p, view := v, inspector := i } :
    Debugger S).play es).send_ok (.response (r.success body))
  refine ⟨es ++ [r.answer (.success body) ok], ?_⟩
  rw [hd, respond, heq, ← play_append]
  exact .looks command aside loaded noLaunch hok

lemma greet_handles {lines columns types : Option Bool}
    (command : r.command = .initializeSession lines columns types) :
    ∃ es, Handles now later r d es (d.greet r lines columns types) := by
  have hd : d.greet r lines columns types =
      ((d.greeted lines columns types).respond r .initializeSession).andThen
        (·.tell .initialized) := rfl
  let answer := r.answer (.success .initializeSession)
  rw [hd]
  rcases (d.greeted lines columns types).send_arrival (.response (r.success .initializeSession))
    with heq | ⟨hS, heq⟩
  · rw [respond, heq, andThen_true]
    rcases ((d.greeted lines columns types).play
      [.message (.response (r.success .initializeSession)) true]).send_arrival (.event .initialized)
      with heq' | ⟨hS, heq'⟩
    · refine ⟨[answer true, .message (.event .initialized) true], ?_⟩
      rw [tell, heq', ← play_append]
      exact .greets command (.all [_, _])
    · refine ⟨[answer true, .message (.event .initialized) false], ?_⟩
      rw [tell, heq', ← play_append]
      exact .greets command (.cut hS [_] _ [])
  · refine ⟨[answer false], ?_⟩
    rw [respond, heq, andThen_false]
    exact .greets command (.cut hS [] _ _)

lemma refuse_handles {e : SessionError} {text : String} (refuses : Refuses d r e text) :
    ∃ es, Handles now later r d es ((d.refuse r text).failWith e) := by
  obtain ⟨ok, hok, heq⟩ := d.send_ok (.response (r.failure text))
  refine ⟨[r.answer (.failure text) ok], ?_⟩
  rw [refuse, heq, failWith_arrival]
  exact .refuses refuses hok

lemma configurationDone_handles (command : r.command = .configurationDone) :
    ∃ es, Handles now later r d es (d.configurationDone now r) := by
  rcases d.send_arrival (.response (r.success .configurationDone)) with heq | ⟨hS, heq⟩
  · obtain ⟨es, resumes⟩ := resume_resumes
      { d.play [r.answer (.success .configurationDone) true] with configured := true } now
    refine ⟨r.answer (.success .configurationDone) true :: es, ?_⟩
    rw [configurationDone, respond, heq, andThen_true]
    exact .configures command resumes
  · refine ⟨[r.answer (.success .configurationDone) false], ?_⟩
    rw [configurationDone, respond, heq, andThen_false]
    exact .unheard (.inl ⟨command, rfl⟩) hS

lemma respondAndStep_handles {body : ResponseBody} {action : StepAction}
    (command : r.command.step? = some (body, action)) :
    ∃ es, Handles now later r d es (d.respondAndStep r body action) := by
  rcases d.send_arrival (.response (r.success body)) with heq | ⟨hS, heq⟩
  · obtain ⟨es, steps⟩ := (d.play [r.answer (.success body) true]).step_steps action
    refine ⟨r.answer (.success body) true :: es, ?_⟩
    rw [respondAndStep, respond, heq, andThen_true]
    exact .steps command steps
  · refine ⟨[r.answer (.success body) false], ?_⟩
    rw [respondAndStep, respond, heq, andThen_false]
    exact .unheard (.inr ⟨action, command⟩) hS

lemma launchWith_handles {noDebug : Option Bool} {data : Option Json} {config : RunConfiguration}
    (command : r.command = .launch noDebug data) (accepted : d.accepted? noDebug data = .ok config) :
    ∃ es, Handles now later r d es (d.launchWith now later r config) := by
  rcases answered : (S.engine.loadProgram config d.world.engine).1 with e | urls
  · have heq := Program.load_error (p := (d.configure config).program)
      (w := (d.configure config).world) answered
    let p : Program := { (d.configure config).program with
      resolver := (d.configure config).program.resolver.clear, loaded := false }
    obtain ⟨es, ends⟩ := (d.launching config p [.engine (.loadProgram config)]).send_endsAfter
      (.response (r.failure e.message)) "ending session due to error" 1
    refine ⟨taken config :: .engine (.loadProgram config) :: es, ?_⟩
    rw [launchWith, heq]
    exact .loadFails command accepted answered rfl rfl ends
  · obtain ⟨bs, p, es, heq, config', loaded, surveys⟩ := Program.load_loads
      (p := (d.configure config).program) (w := (d.configure config).world) answered
    have aside (e : Effect) (he : e ∈ es) : e.Aside := (surveys e he).aside
    have hlaunch : d.launchWith now later r config =
        ((d.launching config p (.engine (.loadProgram config) :: es)).tellAll
          (bs.map .breakpoint)).andThen fun d => (d.await now r).resume later := by
      rw [launchWith, heq]
      rfl
    obtain ⟨fs, ok, sent, htell⟩ := (d.launching config p
      (.engine (.loadProgram config) :: es)).tellAll_sent (bs.map .breakpoint)
    rw [List.map_map] at sent
    rw [hlaunch, htell, launching, ← play_append]
    cases ok with
    | false =>
      have hS : ¬ S.Attentive := fun hS => by simpa using sent.ok hS
      exact ⟨_, .loses command accepted answered config' aside hS sent⟩
    | true =>
      obtain rfl := sent.eq_map
      rw [List.map_map, andThen_true]
      obtain ⟨gs, resumes⟩ := resume_resumes ((d.launching config p (.engine (.loadProgram config) ::
        (es ++ bs.map fun b => .message (.event (.breakpoint b)) true))).await now r) later
      exact ⟨_, .launches command accepted answered config' loaded aside resumes⟩

lemma launch_handles {noDebug : Option Bool} {data : Option Json}
    (command : r.command = .launch noDebug data) :
    ∃ es, Handles now later r d es (d.launch now later r noDebug data) := by
  unfold launch
  split
  · exact refuse_handles now later d (.launch command (by rw [accepted?, if_pos ‹_›]))
  · split
    · exact refuse_handles now later d (.launch command (by rw [accepted?, if_neg ‹_›]; assumption))
    · exact launchWith_handles now later d command (by rw [accepted?, if_neg ‹_›]; assumption)

lemma terminate_handles (command : r.command = .terminate) :
    ∃ es, Handles now later r d es (d.terminate r) := by
  obtain ⟨es, ends⟩ := (d.play [.engine .terminate]).send_endsAfter
    (.response (r.success .terminate)) "debug session terminated" 0
  exact ⟨_, .terminates command ends⟩

lemma advance_terminated (p : Phase) : p.advance .terminated = .terminated := by
  cases p <;> rfl

lemma disconnect_handles (command : r.command = .disconnect) :
    ∃ es, Handles now later r d es (d.disconnect r) := by
  have hd : d.disconnect r =
      (({ d.play [.engine .terminate] with pending := none, phase := .terminated } :
        Debugger S).respond r .disconnect).failWith .shutdown := by
    rw [disconnect, advance, advance_terminated]
    rfl
  obtain ⟨ok, hok, heq⟩ := ({ d.play [.engine .terminate] with
    pending := none, phase := .terminated } : Debugger S).send_ok
    (.response (r.success .disconnect))
  refine ⟨[.engine .terminate, r.answer (.success .disconnect) ok], ?_⟩
  rw [hd, respond, heq, failWith_arrival]
  exact .disconnects command hok

lemma setBreakpoints_handles {source : Source} {requested : List RequestedBreakpoint}
    (command : r.command.looks = true) :
    ∃ es, Handles now later r d es (d.setBreakpoints r source requested) := by
  unfold setBreakpoints
  split
  · split
    · rename_i url _
      exact respond_looks now later d command (by simp) rfl
        ((d.program.resolver.load_surveys url d.world).mono fun _ => Effect.Surveys.aside)
    · exact respond_looks now later d command (by simp) rfl (.refl _)
  · exact respond_looks now later d command (by simp) rfl (.refl _)

lemma breakpointLocations_handles {source : Source} {requested : RequestedBreakpoint}
    (command : r.command.looks = true) :
    ∃ es, Handles now later r d es (d.breakpointLocations r source requested) := by
  unfold breakpointLocations
  split
  · split
    · rename_i url _ _
      exact respond_looks now later d command (by simp) rfl
        ((d.program.resolver.load_surveys url d.world).mono fun _ => Effect.Surveys.aside)
    · exact respond_looks now later d command (by simp) rfl (.refl _)
  · exact respond_looks now later d command (by simp) rfl (.refl _)

lemma lookInto_handles {reference : Int} (command : r.command.looks = true) :
    ∃ es, Handles now later r d es (d.lookInto r reference) := by
  have leads := d.inspector.lookInto_leads reference d.view d.world
  rcases hl : d.inspector.lookInto reference d.view d.world with ⟨vars, v, w⟩
  rw [hl] at leads
  unfold lookInto
  rw [hl]
  dsimp only [rememberView]
  split
  · exact respond_looks now later d command (by simp) rfl leads
  · exact respond_looks now later d command (by simp) rfl leads

/-- Every request is handled in one of the ways named above. -/
theorem handle_handles (r : Request) :
    ∃ es, Handles now later r d es (d.handle now r later) := by
  have plain {body : ResponseBody} (command : r.command.looks = true) (noLaunch : body ≠ .launch) :
      ∃ es, Handles now later r d es (d.respond r body) :=
    respond_looks now later d command noLaunch rfl (.refl d.world)
  unfold handle
  split <;> rename_i command
  · exact greet_handles now later d command
  · exact launch_handles now later d command
  · exact configurationDone_handles now later d command
  · exact setBreakpoints_handles now later d (by rw [command]; rfl)
  · exact breakpointLocations_handles now later d (by rw [command]; rfl)
  · exact plain (by rw [command]; rfl) (by simp)
  · exact plain (by rw [command]; rfl) (by simp)
  · exact plain (by rw [command]; rfl) (by simp)
  · exact respond_looks now later d (by rw [command]; rfl) (by simp) rfl
      (.play (e := .engine .stackFrames) trivial d.world)
  · exact respond_looks now later d (by rw [command]; rfl) (by simp) rfl (.refl d.world)
  · exact lookInto_handles now later d (by rw [command]; rfl)
  · exact respondAndStep_handles now later d (by rw [command]; rfl)
  · exact respondAndStep_handles now later d (by rw [command]; rfl)
  · exact respondAndStep_handles now later d (by rw [command]; rfl)
  · exact respondAndStep_handles now later d (by rw [command]; rfl)
  · exact terminate_handles now later d command
  · exact disconnect_handles now later d command
  · exact refuse_handles now later d (.unsupported command)

end Debugger

end QuantumDebug
