import QuantumDebug.Proofs.Session.Retelling
import QuantumDebug.Proofs.Session.Shots

/-!
The race between the deadline of a launch and the end of configuration. Whichever comes first sets
the launch going, and the other finds nothing left to do: the launch takes the same course either
way, and the session that comes of it is the same.
-/

namespace QuantumDebug

variable {S : Surroundings}

namespace Debugger

variable {d : Debugger S} {l : PendingLaunch} {now : Nat} {r : Request}

/-! ### Coming second -/

lemma call_configurationDone_idle (hA : S.Attentive) (command : r.command = .configurationDone)
    (hpending : d.pending = none) (at₁ later₁ : Nat) :
    d.call (.request at₁ later₁ r) = (.ok (),
      { d.play [r.answer (.success .configurationDone) true] with configured := true }) := by
  have hcall : d.call (.request at₁ later₁ r) = d.configurationDone at₁ r := by
    simp only [call, handle, command]
  rw [hcall, configurationDone, respond, send_heard hA, andThen_true]
  exact resume_eq_done (by rw [due, play_pending, hpending]; rfl)

lemma call_resume_idle (hpending : d.pending = none) (now : Nat) :
    d.call (.resume now) = d.done :=
  resume_eq_done (by rw [due, hpending]; rfl)

lemma run_pending (hpending : d.pending = none) : d.run.2.pending = none := by
  obtain ⟨es, proceeds⟩ := d.run_proceeds
  exact proceeds.onward.pending hpending

/-! ### Coming first -/

/-- The launch takes the same course whether the end of configuration has been answered before it
or is still to come. -/
lemma run_released (hA : S.Attentive) (d : Debugger S) (l : PendingLaunch) (answered : Effect)
    (hanswered : ∃ m, answered = .message m true) :
    let early := (d.released l).run
    let late := (({ d.play [answered] with configured := true } : Debugger S).released l).run
    late.1 = early.1 ∧
      Matches { early.2 with configured := true } late.2 ∧
      ∃ es, early.2.world.trace = d.world.trace ++ l.ack true :: es ∧
        late.2.world.trace = d.world.trace ++ answered :: l.ack true :: es := by
  intro early late
  obtain ⟨m, rfl⟩ := hanswered
  have hmatches : (d.released l).Matches ((d.play [.message m true]).released l) :=
    ⟨rfl, rfl, rfl, rfl, rfl, rfl, rfl, rfl, rfl, rfl⟩
  obtain ⟨hresult, hd⟩ := (hmatches.alike hA (fun _ _ => True) trivial true trivial).run
  have hconfigured : late.2.configured = true := by
    obtain ⟨es, proceeds⟩ := (({ d.play [.message m true] with configured := true } :
      Debugger S).released l).run_proceeds
    exact proceeds.onward.configured
  have hstate := matches_of_alike hd
  obtain ⟨es, htrace, htrace'⟩ := hd.world.trace
  refine ⟨hresult, hconfigured ▸ hstate, es, htrace.trans ?_, htrace'.trans ?_⟩
  · simp [released, advance]
  · simp [released, advance]

/-! ### The result -/

/-- The race between the deadline of a launch and the end of configuration, run in both ways: the
deadline and then the request, or the request and then the deadline. -/
structure Confluent (d : Debugger S) (l : PendingLaunch) (answer : Effect)
    (deadline done done' deadline' : Call) : Prop where
  /-- The launch does the same, before the answer to the request or right after it. -/
  effects : ∃ es,
    (d.calls [deadline, done]).world.trace = d.world.trace ++ (l.ack true :: es ++ [answer]) ∧
    (d.calls [done', deadline']).world.trace = d.world.trace ++ (answer :: l.ack true :: es)
  /-- The call that sets the launch going ends in the same way. -/
  result : (d.call done').1 = (d.call deadline).1
  /-- The session is the same afterwards. -/
  state : (d.calls [deadline, done]).Matches (d.calls [done', deadline'])
  /-- A request that comes second is answered and kept in mind. -/
  late : (d.call deadline).2.call done =
    (.ok (), { (d.call deadline).2.play [answer] with configured := true })
  /-- A deadline that comes second does nothing. -/
  idle : (d.call done').2.call deadline' = (d.call done').2.done

/-- **It does not matter whether a launch goes ahead at its deadline or at the end of
configuration.** The clock may show other times in the two ways. -/
theorem calls_confluent (hA : S.Attentive) (h : d.Fresh) (cs : List Call)
    (hpending : (d.calls cs).pending = some l) (hnow : l.deadline ≤ now)
    (command : r.command = .configurationDone) (at₁ later₁ at₂ later₂ now' : Nat) :
    Confluent (d.calls cs) l (r.answer (.success .configurationDone) true)
      (.resume now) (.request at₁ later₁ r) (.request at₂ later₂ r) (.resume now') := by
  generalize hcs : d.calls cs = d₀ at hpending ⊢
  have hpatient : Patient d₀ := hcs ▸ calls_patient h cs
  have hdue : d₀.due now = some l := by simp [due, hpending, hnow]
  have hearly : d₀.call (.resume now) = (d₀.released l).run := resume_eq_run hA hdue
  have hlate : d₀.call (.request at₂ later₂ r) = _ :=
    (configurationDone_going hA hpatient command hpending).runs
  obtain ⟨hresult, hstate, es, htrace, htrace'⟩ :=
    run_released hA d₀ l (r.answer (.success .configurationDone) true) ⟨_, rfl⟩
  rw [← hearly] at hresult hstate htrace
  rw [← hlate] at hresult hstate htrace'
  have hnone : (d₀.call (.resume now)).2.pending = none := hearly ▸ run_pending rfl
  have hnone' : (d₀.call (.request at₂ later₂ r)).2.pending = none := hlate ▸ run_pending rfl
  have late := call_configurationDone_idle hA command hnone at₁ later₁
  have idle := call_resume_idle hnone' now'
  have hfirst : d₀.calls [.resume now, .request at₁ later₁ r] =
      { (d₀.call (.resume now)).2.play [r.answer (.success .configurationDone) true] with
        configured := true } := by
    show ((d₀.call (.resume now)).2.call (.request at₁ later₁ r)).2 = _
    rw [late]
  have hsecond : d₀.calls [.request at₂ later₂ r, .resume now'] =
      (d₀.call (.request at₂ later₂ r)).2 := by
    show ((d₀.call (.request at₂ later₂ r)).2.call (.resume now')).2 = _
    rw [idle]
    rfl
  exact {
    effects := ⟨es, by rw [hfirst]; simp [htrace], by rw [hsecond, htrace']⟩
    result := hresult
    state := by
      rw [hfirst, hsecond]
      exact (Matches.message { (d₀.call (.resume now)).2 with configured := true } _ _).symm.trans
        hstate
    late := late
    idle := idle }

def firstFails : Debugger (.scripted []) := scripted [] ⟨[], [.error .exited]⟩

theorem firstFails_confluent :
    (Surroundings.scripted []).Attentive ∧ firstFails.Fresh ∧
      (firstFails.calls [.request 0 0 (.plainLaunch 1)]).pending =
        some ⟨.plainLaunch 1, 1000⟩ ∧
      Confluent (firstFails.calls [.request 0 0 (.plainLaunch 1)]) ⟨.plainLaunch 1, 1000⟩
        (Request.answer ⟨2, .configurationDone⟩ (.success .configurationDone) true)
        (.resume 1000) (.request 1001 1001 ⟨2, .configurationDone⟩)
        (.request 999 999 ⟨2, .configurationDone⟩) (.resume 1000) ∧
      ((firstFails.calls [.request 0 0 (.plainLaunch 1)]).call (.resume 1000)).2.phase =
        .terminated := by
  have hA := (Surroundings.scripted_attentive_iff []).mpr rfl
  have hfresh : firstFails.Fresh := scripted_fresh _ _
  have hpending : (firstFails.calls [.request 0 0 (.plainLaunch 1)]).pending =
      some ⟨.plainLaunch 1, 1000⟩ := by decide +kernel
  exact ⟨hA, hfresh, hpending,
    calls_confluent hA hfresh _ hpending (Nat.le_refl 1000) rfl 1001 1001 999 999 1000,
    by decide +kernel⟩

end Debugger

end QuantumDebug
