import QuantumDebug.Proofs.Session.Circuits
import QuantumDebug.Proofs.Session.Refusals

/-!
What a session is to run is settled by the launch at which configuration begins to be awaited. From
then on nothing in it changes but that circuits may come to be shown, every load is told just what is
in force, and any other launch is refused. Nothing of this depends on what the client hears.
-/

namespace QuantumDebug

open World

lemma Phase.awaiting_le_advance_initialized {p : Phase} :
    .awaitingConfiguration ≤ p.advance .initialized ↔ .awaitingConfiguration ≤ p := by
  cases p <;> decide

variable {S : Surroundings}

def Effect.LoadsWith (config : RunConfiguration) : Effect → Prop
  | .engine (.loadProgram config') => config' = config
  | _ => True

lemma Effect.Unloading.loadsWith {e : Effect} (h : e.Unloading) (config : RunConfiguration) :
    e.LoadsWith config := by
  unfold Effect.LoadsWith
  split
  · exact absurd rfl (h _)
  · trivial

/-! ### Loads -/

lemma runStep_loadsWith (action : StepAction) (armed : List Int) (v : Visualization) (w : World S)
    (config : RunConfiguration) :
    w.Leads (Effect.LoadsWith config) (runStep action armed v w).2.2 :=
  (runStep_unloading action armed v w).mono fun _ he => he.loadsWith config

lemma Program.load_loadsWith (p : Program) (w : World S) :
    w.Leads (Effect.LoadsWith p.config) (p.load w).2.2 :=
  p.load_leads_of w rfl fun _ he => he.loadsWith _

lemma loads_keptByShots : KeptByShots (S := S) fun s s' =>
    s'.1.config = s.1.config ∧ s.2.2.Leads (Effect.LoadsWith s.1.config) s'.2.2 where
  refl _ := ⟨rfl, .refl _⟩
  trans h h' := ⟨h'.1.trans h.1, h.2.trans (h.1 ▸ h'.2)⟩
  run _ v w := ⟨rfl, runStep_loadsWith .continue [] v w _⟩
  report _ _ w text := ⟨rfl, w.output_leads .console text fun _ => trivial⟩
  load p _ w := ⟨(p.load_keeps w).1, p.load_loadsWith w⟩

namespace Debugger

/-- From one session to another the configuration stays in force, and whatever is loaded is loaded
with it. -/
structure Abides (d d' : Debugger S) : Prop where
  config : d'.program.config = d.program.config
  leads : d.world.Leads (Effect.LoadsWith d.program.config) d'.world

lemma abides_kept : Kept (S := S) Abides where
  refl d := ⟨rfl, .refl _⟩
  trans h₁ h₂ := ⟨h₂.config.trans h₁.config, h₁.leads.trans (h₁.config ▸ h₂.leads)⟩
  send d m := by
    obtain ⟨ok, -, heq⟩ := d.send_ok m
    rw [heq]
    exact ⟨rfl, .play (e := .message m ok) trivial _⟩
  closed d code := ⟨rfl, .play (e := .telemetry (.sessionEnd code)) trivial _⟩
  ran d action := ⟨rfl, runStep_loadsWith _ _ _ _ _⟩
  shot d := by
    obtain ⟨hconfig, leads⟩ := loads_keptByShots.runShotsLeft
      (max d.program.config.shotCount 1) (max d.program.config.shotCount 1) d.program d.view d.world
    exact ⟨hconfig, leads⟩
  reloaded d := ⟨(d.program.load_keeps d.world).1, d.program.load_loadsWith d.world⟩
  noted d _ _ _ := ⟨rfl, .refl _⟩

section Call

variable {d : Debugger S} {c : Call} {config : RunConfiguration}

/-- Whatever a call loads, it loads with the configuration that is in force after the call. -/
theorem call_loadsWith (d : Debugger S) (c : Call) :
    ∀ e ∈ d.effects c, e.LoadsWith (d.call c).2.program.config := by
  have hleads : d.world.Leads (Effect.LoadsWith (d.call c).2.program.config)
      (d.call c).2.world := by
    cases c with
    | resume now =>
      have abides := abides_kept.resume d now
      rw [call, abides.config]
      exact abides.leads
    | request now later r =>
      have abides := abides_kept.handle d now later r
      rw [call, abides.config]
      exact ((d.begun_leads r.command).mono fun _ he =>
        (Effect.unloading_of_not_runs he.not_runs).loadsWith _).trans abides.leads
  obtain ⟨es, hes, hworld⟩ := hleads
  rw [effects_of_world hworld]
  exact hes

lemma Handles.takes {now later : Nat} {r : Request} {es : List Effect} {h : Handled S}
    (handles : Handles now later r d es h) (hd : Patient d)
    (early : ¬ .awaitingConfiguration ≤ d.phase) (late : .awaitingConfiguration ≤ h.2.phase) :
    h.2.phase = .terminated ∨ ∃ config, d.takes? (.request now later r) = some config := by
  have idle (hphase : h.2.phase = d.phase) : h.2.phase = .terminated ∨
      ∃ config, d.takes? (.request now later r) = some config := absurd (hphase ▸ late) early
  have hnone : d.pending = none := hd.pending_none fun hphase => early (hphase ▸ Phase.le_refl _)
  have takes {noDebug : Option Bool} {data : Option Json} {config : RunConfiguration}
      (command : r.command = .launch noDebug data)
      (accepted : d.accepted? noDebug data = .ok config) :
      d.takes? (.request now later r) = some config :=
    takes?_of_asks (congrArg some command) accepted
  cases handles with
  | looks => exact idle rfl
  | greets => exact absurd (Phase.awaiting_le_advance_initialized.mp late) early
  | refuses => exact idle rfl
  | unheard => exact idle rfl
  | configures _ resumes =>
    obtain ⟨-, rfl⟩ := resumes.idle (by simp [due, hnone])
    exact idle rfl
  | steps _ steps =>
    rcases steps.idle_or_running with ⟨-, rfl⟩ | hrun
    · exact idle rfl
    · exact absurd (show d.phase = .running from hrun) fun hphase => early (hphase ▸ by decide)
  | loadFails command accepted => exact .inr ⟨_, takes command accepted⟩
  | loses command accepted => exact .inr ⟨_, takes command accepted⟩
  | launches command accepted => exact .inr ⟨_, takes command accepted⟩
  | terminates _ ends =>
    cases ends with
    | heard ends => exact .inl ends.terminated
    | unheard => exact idle rfl
  | disconnects => exact .inl rfl

/-- A call takes a session to where configuration is awaited, or beyond, only by taking up a launch,
unless it ends the session. -/
lemma call_takes (hd : Patient d) (early : ¬ .awaitingConfiguration ≤ d.phase)
    (late : .awaitingConfiguration ≤ (d.call c).2.phase) :
    (d.call c).2.phase = .terminated ∨ ∃ config, d.takes? c = some config := by
  cases d.call_moves c with
  | request handles => exact handles.takes hd early late
  | resume resumes =>
    have hnone : d.pending = none := hd.pending_none fun hphase => early (hphase ▸ Phase.le_refl _)
    obtain ⟨-, heq⟩ := resumes.idle (by simp [due, hnone])
    rw [heq] at late
    exact absurd late early

lemma call_takesUp (htakes : d.takes? c = some config) : (d.call c).2.program.config = config := by
  obtain ⟨now, later, r, noDebug, data, rfl, command, accepted⟩ := takes?_eq_some htakes
  cases d.call_moves (.request now later r) with
  | request handles => exact handles.takesUp command accepted

lemma call_stated_of_late (late : .awaitingConfiguration ≤ d.phase) (hstated : d.stated = true)
    (c : Call) : (d.call c).2.stated = true := by
  rw [call_stated, takes?_of_late late, hstated]
  rfl

lemma call_config_of_late (late : .awaitingConfiguration ≤ d.phase) (c : Call) :
    d.program.config.Agrees (d.call c).2.program.config := by
  have hconfig := d.call_config c
  rwa [takes?_of_late late] at hconfig

end Call

/-! ### Runs -/

/-- A configuration has been settled: a launch was taken up with it, and at that call configuration
came to be awaited, if the session has not gone beyond that or ended at once. -/
def Settled (d : Debugger S) (cs : List Call) (config : RunConfiguration) : Prop :=
  ∃ earlier c later, cs = earlier ++ c :: later ∧ (d.calls earlier).takes? c = some config ∧
    .awaitingConfiguration ≤ (d.calls (earlier ++ [c])).phase

/-- What holds of the configuration of a session after calls made one after another. -/
structure StaysSettled (d : Debugger S) (cs : List Call) : Prop where
  /-- It is settled when configuration is awaited and when the program runs. -/
  settled : (d.calls cs).phase = .awaitingConfiguration ∨ (d.calls cs).phase = .running →
    ∃ config, d.Settled cs config
  /-- Only one is ever settled. -/
  unique : ∀ config config', d.Settled cs config → d.Settled cs config' → config' = config
  /-- It is put in force just as the launch asks for it. -/
  taken : ∀ c config, (d.calls cs).takes? c = some config →
    (d.calls (cs ++ [c])).program.config = config
  /-- It stays in force, but for circuits that come to be shown. -/
  fixed : ∀ config, d.Settled cs config → config.Agrees (d.calls cs).program.config ∧
    (config.visualizationEnabled = true → (d.calls cs).stated = true)
  /-- Circuits that are shown then are shown for good. -/
  shown : ∀ config, d.Settled cs config → (d.calls cs).stated = true →
    ∀ later, (d.calls (cs ++ later)).stated = true
  /-- Whatever is loaded, then or at the call that settles it, is loaded with what is in force. -/
  loads : ∀ c config, d.Settled (cs ++ [c]) config →
    ∀ config', .engine (.loadProgram config') ∈ (d.calls cs).effects c →
      config' = (d.calls (cs ++ [c])).program.config
  /-- Any further launch is dismissed. -/
  refused : ∀ config, d.Settled cs config → ∀ now later r noDebug data,
    r.command = .launch noDebug data →
      (d.calls cs).Dismisses (.request now later r) r .alreadyLaunched
        "Protocol error: Program already launched"

section Runs

variable {d : Debugger S} {cs : List Call} {c : Call} {config config' : RunConfiguration}

lemma settled_snoc : d.Settled (cs ++ [c]) config ↔
    d.Settled cs config ∨ (d.calls cs).takes? c = some config ∧
      .awaitingConfiguration ≤ (d.calls (cs ++ [c])).phase := by
  constructor
  · rintro ⟨earlier, c', later, heq, htakes⟩
    obtain ⟨rfl, rfl, -⟩ | ⟨later, -, rfl⟩ := snoc_eq_append_cons.mp heq
    · exact .inr htakes
    · exact .inl ⟨earlier, c', later, rfl, htakes⟩
  · rintro (⟨earlier, c', later, rfl, htakes⟩ | htakes)
    · exact ⟨earlier, c', later ++ [c], by simp, htakes⟩
    · exact ⟨cs, c, [], rfl, htakes⟩

lemma Settled.late (settled : d.Settled cs config) :
    .awaitingConfiguration ≤ (d.calls cs).phase := by
  induction cs using List.reverseRecOn with
  | nil =>
    obtain ⟨earlier, c, later, heq, -⟩ := settled
    simp at heq
  | append_singleton cs c ih =>
    rcases settled_snoc.mp settled with before | ⟨-, late⟩
    · rw [calls_snoc]
      exact Phase.le_trans (ih before) (phase_le_call _ c)
    · exact late

lemma Settled.append (settled : d.Settled cs config) (later : List Call) :
    d.Settled (cs ++ later) config := by
  obtain ⟨earlier, c, between, rfl, htakes⟩ := settled
  exact ⟨earlier, c, between ++ later, by simp, htakes⟩

lemma Settled.unique (settled : d.Settled cs config) (settled' : d.Settled cs config') :
    config' = config := by
  induction cs using List.reverseRecOn with
  | nil =>
    obtain ⟨earlier, c, later, heq, -⟩ := settled
    simp at heq
  | append_singleton cs c ih =>
    rcases settled_snoc.mp settled with before | ⟨htakes, -⟩ <;>
      rcases settled_snoc.mp settled' with before' | ⟨htakes', -⟩
    · exact ih before before'
    · simp [takes?_of_late before.late] at htakes'
    · simp [takes?_of_late before'.late] at htakes
    · exact Option.some.inj (htakes'.symm.trans htakes)

lemma Settled.fixed (settled : d.Settled cs config) :
    config.Agrees (d.calls cs).program.config ∧
      (config.visualizationEnabled = true → (d.calls cs).stated = true) := by
  induction cs using List.reverseRecOn with
  | nil =>
    obtain ⟨earlier, c, later, heq, -⟩ := settled
    simp at heq
  | append_singleton cs c ih =>
    rw [calls_snoc]
    rcases settled_snoc.mp settled with before | ⟨htakes, -⟩
    · obtain ⟨agrees, hshown⟩ := ih before
      exact ⟨agrees.trans (call_config_of_late before.late c),
        fun hconfig => call_stated_of_late before.late (hshown hconfig) c⟩
    · rw [stated, call_takesUp htakes]
      exact ⟨.refl _, id⟩

lemma Settled.shown (settled : d.Settled cs config) (hstated : (d.calls cs).stated = true)
    (later : List Call) : (d.calls (cs ++ later)).stated = true := by
  induction later using List.reverseRecOn with
  | nil => rwa [List.append_nil]
  | append_singleton later c ih =>
    rw [← List.append_assoc, calls_snoc]
    exact call_stated_of_late (settled.append later).late ih c

lemma Fresh.settled (h : d.Fresh) (cs : List Call) :
    (d.calls cs).phase = .terminated ∨ ¬ .awaitingConfiguration ≤ (d.calls cs).phase ∨
      ∃ config, d.Settled cs config := by
  induction cs using List.reverseRecOn with
  | nil =>
    rw [calls_nil, h.phase]
    exact .inr (.inl (by decide))
  | append_singleton cs c ih =>
    by_cases late : .awaitingConfiguration ≤ (d.calls (cs ++ [c])).phase
    · rcases ih with ended | early | ⟨config, settled⟩
      · rw [calls_snoc]
        exact .inl (call_terminated ended c)
      · rw [calls_snoc] at late ⊢
        rcases call_takes (calls_patient h cs) early late with ended | ⟨config, htakes⟩
        · exact .inl ended
        · exact .inr (.inr ⟨config, settled_snoc.mpr (.inr ⟨htakes, by rwa [calls_snoc]⟩)⟩)
      · exact .inr (.inr ⟨config, settled.append [c]⟩)
    · exact .inr (.inl late)

end Runs

/-- **What a session is to run is settled once**, whatever is asked of it then and whether its client
hears of it or not. -/
theorem calls_staySettled {d : Debugger S} (h : d.Fresh) (cs : List Call) : StaysSettled d cs where
  settled hphase := by
    rcases h.settled cs with ended | early | settled
    · simp [ended] at hphase
    · rcases hphase with hphase | hphase
      all_goals
        rw [hphase] at early
        exact absurd (by decide) early
    · exact settled
  unique _ _ settled settled' := settled.unique settled'
  taken c config htakes := by
    rw [calls_snoc]
    exact call_takesUp htakes
  fixed _ settled := settled.fixed
  shown _ settled := settled.shown
  loads c _ _ config' hload := by
    rw [calls_snoc]
    exact call_loadsWith _ c _ hload
  refused _ settled now later r noDebug data command :=
    (Refuses.launch command (turnsAway_iff.mp (.again settled.late))).dismisses

/-- A launch that waits, a look into the circuit meanwhile, and a second launch that asks for
something else and whose refusal the client misses. -/
theorem scripted_staysSettled :
    let d := scripted [2] ⟨[], []⟩
    let cs : List Call := [.request 0 0 (.plainLaunch 1), .request 1 1 ⟨2, .scopes⟩,
      .request 2 2 ⟨3, .variables 3⟩, .request 3 3 (.shotsLaunch 4 5)]
    d.Fresh ∧ StaysSettled d cs ∧ d.Settled cs .plain ∧
      (d.calls cs).phase = .awaitingConfiguration ∧ (d.calls cs).stated = true := by
  have hfresh := scripted_fresh [2] ⟨[], []⟩
  refine ⟨hfresh, calls_staySettled hfresh _, ?_, by decide +kernel, by decide +kernel⟩
  exact ⟨[], _, _, rfl, by decide +kernel, by decide +kernel⟩

end Debugger

end QuantumDebug
