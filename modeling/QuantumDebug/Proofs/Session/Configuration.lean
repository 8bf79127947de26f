import QuantumDebug.Proofs.Session.Likeness
import QuantumDebug.Proofs.Session.Loading

/-!
Where the configuration of a session comes from. The one launch that is taken up sets it, and after
that nothing changes in it but whether circuits are shown.
-/

namespace QuantumDebug

variable {S : Surroundings}

lemma RunConfiguration.Agrees.trans {c₁ c₂ c₃ : RunConfiguration} (h : c₁.Agrees c₂)
    (h' : c₂.Agrees c₃) : c₁.Agrees c₃ :=
  ⟨h'.program.trans h.program, h'.entryPoint.trans h.entryPoint, h'.shotCount.trans h.shotCount,
    h'.noDebug.trans h.noDebug, h'.stopOnEntry.trans h.stopOnEntry,
    h'.traceVerbose.trans h.traceVerbose⟩

lemma Program.Adjusts.config {p q : Program} {w : World S} {c : Call} (adjusts : p.Adjusts w c q) :
    p.config.Agrees q.config := by
  cases adjusts with
  | keeps => exact .refl _
  | greets => exact .refl _
  | looks => exact .refl _
  | shows => exact ⟨rfl, rfl, rfl, rfl, rfl, rfl⟩
  | sets =>
    rw [(p.setBreakpoints_keeps _ _ w).1]
    exact .refl _

namespace Debugger

/-- The configuration that a call takes up, if it is a launch that is not refused. -/
def takes? (d : Debugger S) (c : Call) : Option RunConfiguration :=
  match c.request?.map Request.command with
  | some (.launch noDebug data) => (d.accepted? noDebug data).toOption
  | _ => none

/-- Whether circuits are to be shown when a call runs the program: they have been asked for before,
or the launch that the call takes up asks for them. -/
def shows (d : Debugger S) (c : Call) : Bool :=
  d.view.enabled || (d.takes? c).any (·.visualizationEnabled)

def TakesUp (d : Debugger S) (cs : List Call) (config : RunConfiguration) : Prop :=
  ∃ earlier c later, cs = earlier ++ c :: later ∧ (d.calls earlier).takes? c = some config

variable {d : Debugger S} {c : Call} {config : RunConfiguration}

lemma takes?_eq_some (h : d.takes? c = some config) :
    ∃ now later r noDebug data, c = .request now later r ∧ r.command = .launch noDebug data ∧
      d.accepted? noDebug data = .ok config := by
  unfold takes? at h
  split at h
  · rename_i noDebug data hcommand
    cases c with
    | resume => simp [Call.request?] at hcommand
    | request now later r =>
      refine ⟨now, later, r, noDebug, data, rfl, by simpa [Call.request?] using hcommand, ?_⟩
      cases ha : d.accepted? noDebug data with
      | error e => simp [ha, Except.toOption] at h
      | ok config' => simpa [ha, Except.toOption] using h
  · simp at h

lemma takes?_of_asks {noDebug : Option Bool} {data : Option Json}
    (asks : c.Asks (.launch noDebug data)) (accepted : d.accepted? noDebug data = .ok config) :
    d.takes? c = some config := by
  have hcommand : c.request?.map Request.command = some (.launch noDebug data) := asks
  simp [takes?, hcommand, accepted, Except.toOption]

lemma takes?_of_command {now later : Nat} {r : Request}
    (command : ∀ noDebug data, r.command ≠ .launch noDebug data) :
    d.takes? (.request now later r) = none := by
  rw [Option.eq_none_iff_forall_ne_some]
  intro config htakes
  obtain ⟨_, _, _, noDebug, data, heq, hcommand, -⟩ := takes?_eq_some htakes
  obtain ⟨-, -, rfl⟩ := Call.request.inj heq
  exact command noDebug data hcommand

lemma takes?_of_late (hlate : .awaitingConfiguration ≤ d.phase) : d.takes? c = none := by
  rw [Option.eq_none_iff_forall_ne_some]
  intro config htakes
  obtain ⟨_, _, _, _, _, -, -, accepted⟩ := takes?_eq_some htakes
  exact accepted_phase accepted hlate

lemma shows_of_takes?_none (h : d.takes? c = none) : d.shows c = d.view.enabled := by
  simp [shows, h]

lemma configure_shows (h : d.takes? c = some config) :
    (d.configure config).view.enabled = d.shows c := by
  have hview : (d.configure config).view.enabled =
      (if config.visualizationEnabled then d.view.enable else d.view).enabled := rfl
  rw [hview, shows, h, Option.any_some]
  split
  · rename_i hshown
    rw [hshown, Bool.or_true]
    rfl
  · rename_i hshown
    rw [Bool.eq_false_iff.mpr hshown, Bool.or_false]

lemma Resumes.keeps_config {now : Nat} {es : List Effect} {h : Handled S}
    (resumes : Resumes now d es h) : h.2.program.config = d.program.config := by
  cases resumes with
  | waits => rfl
  | unheard => rfl
  | goes _ proceeds =>
    cases proceeds with
    | step _ steps => exact congrArg Program.config steps.program
    | shots _ shoots =>
      cases shoots with
      | finishes _ config _ ends => exact (congrArg Program.config ends.program).trans config
      | fails _ config ends => exact (congrArg Program.config ends.program).trans config

lemma Handles.takesUp {now later : Nat} {r : Request} {es : List Effect} {h : Handled S}
    (handles : Handles now later r d es h) {noDebug : Option Bool} {data : Option Json}
    (command : r.command = .launch noDebug data)
    (accepted : d.accepted? noDebug data = .ok config) : h.2.program.config = config := by
  cases handles with
  | refuses refuses => cases refuses <;> simp_all
  | loadFails command' accepted' _ config' _ ends =>
    rw [ends.program, launching_program, config']
    simp_all
  | loses command' accepted' _ config' =>
    rw [launching_program, config']
    simp_all
  | launches command' accepted' _ config' _ _ resumes =>
    rw [resumes.keeps_config, await_program, launching_program, config']
    simp_all
  | _ => simp_all [Command.looks, Command.step?]

/-- A call sets the configuration that it takes up. Any other call leaves it as it is, unless
circuits are to be shown from then on. -/
theorem call_config (d : Debugger S) (c : Call) :
    ((d.takes? c).getD d.program.config).Agrees (d.call c).2.program.config := by
  rcases htakes : d.takes? c with _ | config
  · cases d.call_alters c with
    | adjusts adjusts => exact adjusts.config
    | goes _ _ reruns =>
      rcases reruns with heq | ⟨-, reloads⟩
      · rw [heq]
        exact .refl _
      · rw [reloads.config]
        exact .refl _
    | launches asks accepted =>
      rw [takes?_of_asks asks accepted] at htakes
      simp at htakes
  · obtain ⟨now, later, r, noDebug, data, rfl, command, accepted⟩ := takes?_eq_some htakes
    cases d.call_moves (.request now later r) with
    | request handles =>
      rw [handles.takesUp command accepted]
      exact .refl _

lemma takesUp_snoc {cs : List Call} :
    d.TakesUp (cs ++ [c]) config ↔ d.TakesUp cs config ∨ (d.calls cs).takes? c = some config := by
  constructor
  · rintro ⟨earlier, c', later, heq, htakes⟩
    obtain ⟨rfl, rfl, -⟩ | ⟨later, -, rfl⟩ := snoc_eq_append_cons.mp heq
    · exact .inr htakes
    · exact .inl ⟨earlier, c', later, rfl, htakes⟩
  · rintro (⟨earlier, c', later, rfl, htakes⟩ | htakes)
    · exact ⟨earlier, c', later ++ [c], by simp, htakes⟩
    · exact ⟨cs, c, [], rfl, htakes⟩

/-- What the calls of a session have made of its configuration. -/
structure Configured (d : Debugger S) (cs : List Call) : Prop where
  /-- A configuration that was taken up is still in force, and no other can be taken up. -/
  taken : ∀ config, d.TakesUp cs config →
    config.Agrees (d.calls cs).program.config ∧ .awaitingConfiguration ≤ (d.calls cs).phase
  /-- Before one is taken up there is none. -/
  untaken : (∀ config, ¬ d.TakesUp cs config) →
    RunConfiguration.empty.Agrees (d.calls cs).program.config

/-- **The configuration of a session is that of the one launch that is taken up.** -/
theorem calls_configuration (hA : S.Attentive) (h : d.Fresh) (cs : List Call) :
    Configured d cs := by
  induction cs using List.reverseRecOn with
  | nil =>
    refine ⟨?_, fun _ => ?_⟩
    · rintro config ⟨earlier, c, later, heq, -⟩
      simp at heq
    · rw [calls_nil, h.program]
      exact .refl _
  | append_singleton cs c ih =>
    have hconfig := (d.calls cs).call_config c
    have hphase := phase_le_call (d.calls cs) c
    rw [← calls_snoc] at hconfig hphase
    refine ⟨fun config htakes => ?_, fun hnone => ?_⟩
    · rcases takesUp_snoc.mp htakes with htakes | htakes
      · obtain ⟨agrees, hawaiting⟩ := ih.taken config htakes
        have hrefused : (d.calls cs).takes? c = none := by
          rw [Option.eq_none_iff_forall_ne_some]
          intro config' htakes'
          obtain ⟨_, _, _, _, _, -, -, accepted⟩ := takes?_eq_some htakes'
          exact accepted_phase accepted hawaiting
        rw [hrefused] at hconfig
        exact ⟨agrees.trans hconfig, Phase.le_trans hawaiting hphase⟩
      · rw [htakes] at hconfig
        refine ⟨hconfig, ?_⟩
        obtain ⟨now, later, r, noDebug, data, rfl, command, accepted⟩ := takes?_eq_some htakes
        rw [calls_snoc]
        cases (d.calls cs).call_moves (.request now later r) with
        | request handles => exact handles.accepted hA command accepted
    · have hrefused : (d.calls cs).takes? c = none := by
        rw [Option.eq_none_iff_forall_ne_some]
        exact fun config htakes => hnone config (takesUp_snoc.mpr (.inr htakes))
      rw [hrefused] at hconfig
      exact (ih.untaken fun config htakes => hnone config (takesUp_snoc.mpr (.inl htakes))).trans
        hconfig

lemma traceVerbose_iff (hA : S.Attentive) (h : d.Fresh) (cs : List Call) :
    (d.calls cs).program.config.traceVerbose = true ↔
      ∃ config, d.TakesUp cs config ∧ config.traceVerbose = true := by
  have configured := calls_configuration hA h cs
  constructor
  · intro htrace
    by_contra! hnone
    by_cases htaken : ∃ config, d.TakesUp cs config
    · obtain ⟨config, htakes⟩ := htaken
      rw [(configured.taken config htakes).1.traceVerbose] at htrace
      exact hnone config htakes htrace
    · rw [(configured.untaken fun config htakes => htaken ⟨config, htakes⟩).traceVerbose] at htrace
      simp [RunConfiguration.empty] at htrace
  · rintro ⟨config, htakes, htrace⟩
    rw [(configured.taken config htakes).1.traceVerbose, htrace]

end Debugger

end QuantumDebug
