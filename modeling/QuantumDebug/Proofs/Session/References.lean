import QuantumDebug.Proofs.Session.Ending
import QuantumDebug.Proofs.Session.Launch
import QuantumDebug.Proofs.Session.Parts

/-!
The numbers under which a client looks into scopes. They are given out one after another and never
again, and a number is good for its scope until the program is run once more or the session ends.
-/

namespace QuantumDebug

open World

variable {S : Surroundings}

/-! ### Numbers -/

/-- The number of a scope when the scopes are listed for the nth time, counted from nought. -/
def ScopeKind.number (n : Nat) : ScopeKind → Int
  | .locals => 3 * n + 1
  | .quantumState => 3 * n + 2
  | .circuit => 3 * n + 3

lemma ScopeKind.number_inj {n m : Nat} {k l : ScopeKind} (h : k.number n = l.number m) :
    n = m ∧ k = l := by
  cases k <;> cases l <;> simp only [number] at h <;> simp <;> omega

def listing (n : Nat) : List Scope := ScopeKind.all.map fun k => ⟨k.name, k.number n, k.expensive⟩

def Response.numbers (r : Response) : List Int :=
  match r.reply with
  | .success (.scopes scopes) => scopes.map (·.variablesReference)
  | _ => []

def listings (cs : List Call) : Nat := cs.countP fun c => decide (c.Asks .scopes)

lemma listings_snoc (cs : List Call) (c : Call) :
    listings (cs ++ [c]) = listings cs + if c.Asks .scopes then 1 else 0 := by
  simp [listings, List.countP_append, List.countP_cons]

namespace Inspector

lemma numbered_eq (n : Nat) :
    numbered (3 * n + 1) ScopeKind.all = ScopeKind.all.map fun k => (k.number n, k) := by
  simp only [numbered, ScopeKind.all, List.map_cons, List.map_nil, ScopeKind.number]
  simp
  omega

lemma scopes_eq {i : Inspector} {n : Nat} (h : i.next = 3 * n + 1) :
    i.scopes.1 = listing n ∧ i.scopes.2.next = 3 * (n + 1 : Nat) + 1 := by
  rw [scopes, h, numbered_eq]
  refine ⟨by simp [listing], ?_⟩
  simp only [List.length_map, ScopeKind.all, List.length_cons, List.length_nil]
  omega

lemma lookup_numbered (n : Nat) (reference : Int) (k : ScopeKind) :
    (numbered (3 * n + 1) ScopeKind.all).lookup reference = some k ↔ reference = k.number n := by
  rw [numbered_eq]
  constructor
  · intro h
    obtain ⟨l₁, l₂, heq, -⟩ := List.lookup_eq_some_iff.mp h
    have hmem : (reference, k) ∈ ScopeKind.all.map fun k => (k.number n, k) := by simp [heq]
    obtain ⟨l, -, hl⟩ := List.mem_map.mp hmem
    obtain ⟨rfl, rfl⟩ := Prod.mk.inj hl
    rfl
  · rintro rfl
    have h₂₁ : (3 * (n : Int) + 2 == 3 * (n : Int) + 1) = false := by simp
    have h₃₁ : (3 * (n : Int) + 3 == 3 * (n : Int) + 1) = false := by simp
    have h₃₂ : (3 * (n : Int) + 3 == 3 * (n : Int) + 2) = false := by simp
    cases k <;> simp [ScopeKind.all, ScopeKind.number, List.lookup_cons, h₂₁, h₃₁, h₃₂]

lemma scope?_scopes (i : Inspector) (reference : Int) :
    i.scopes.2.scope? reference =
      (i.scope? reference).or ((numbered i.next ScopeKind.all).lookup reference) :=
  List.lookup_append

end Inspector

/-! ### What makes numbers worthless -/

/-- Runs the program or records the end of the session. -/
@[simp] def Effect.Voids : Effect → Prop
  | .engine (.eval _ _) => True
  | .telemetry (.sessionEnd _) => True
  | _ => False

lemma Effect.Opening.not_voids {e : Effect} (h : e.Opening) : ¬ e.Voids := by
  rcases e with call | t | _ | _
  · cases call <;> simp [Effect.Opening] at h ⊢
  · cases t <;> simp [Effect.Opening] at h ⊢
  · exact id
  · exact id

/-- The scope that an effect is a look into. -/
def Effect.looksInto? : Effect → Option ScopeKind
  | .engine .localVariables => some .locals
  | .engine .quantumState => some .quantumState
  | .engine .circuit => some .circuit
  | _ => none

lemma runShots_leads (shots : Nat) (p : Program) (v : Visualization) (w : World S) :
    (w.play (.engine (.eval .continue []))).Leads Effect.Work
      (runShots Program.reload shots p v w).2.2.2 := by
  obtain ⟨left, hleft⟩ : ∃ left, max shots 1 = left + 1 := ⟨max shots 1 - 1, by omega⟩
  have hrun := (runStep_leads .continue [] v w).mono fun _ => Effect.Aftermath.work
  have hrest := (works_keptByShots.after_run (left + 1) left p v w).2
  rw [runShots, hleft]
  exact hrun.trans hrest

namespace Debugger

/-- Over effects all numbers become worthless if one of the effects makes them so, and stay good if
none does; none is given out. -/
structure Spends (d d' : Debugger S) (es : List Effect) : Prop where
  world : d'.world = d.world.playAll es
  next : d'.inspector.next = d.inspector.next
  voided : (∃ e ∈ es, e.Voids) → d'.inspector.handles = []
  spared : (∀ e ∈ es, ¬ e.Voids) → d'.inspector.handles = d.inspector.handles

lemma Spends.trans {d₁ d₂ d₃ : Debugger S} {es fs : List Effect} (h₁ : d₁.Spends d₂ es)
    (h₂ : d₂.Spends d₃ fs) : d₁.Spends d₃ (es ++ fs) where
  world := by rw [h₂.world, h₁.world, playAll_append]
  next := h₂.next.trans h₁.next
  voided := by
    rintro ⟨e, he, hvoids⟩
    by_cases hfs : ∀ f ∈ fs, ¬ f.Voids
    · -- what the second part leaves alone the first has emptied
      have hes : e ∈ es := (List.mem_append.mp he).resolve_right fun hf => hfs e hf hvoids
      rw [h₂.spared hfs, h₁.voided ⟨e, hes, hvoids⟩]
    · push Not at hfs
      exact h₂.voided hfs
  spared hnone := by
    rw [List.forall_mem_append] at hnone
    rw [h₂.spared hnone.2, h₁.spared hnone.1]

lemma Spends.of_leads {d d' : Debugger S} {P : Effect → Prop} (hP : ∀ e, P e → ¬ e.Voids)
    (leads : d.world.Leads P d'.world) (next : d'.inspector.next = d.inspector.next)
    (handles : d'.inspector.handles = d.inspector.handles) : ∃ es, d.Spends d' es := by
  obtain ⟨es, hes, hworld⟩ := leads
  refine ⟨es, hworld, next, ?_, fun _ => handles⟩
  rintro ⟨e, he, hvoids⟩
  exact absurd hvoids (hP e (hes e he))

lemma Spends.of_run {d d' : Debugger S} {P : Effect → Prop} {action : StepAction}
    {armed : List Int} (leads : (d.world.play (.engine (.eval action armed))).Leads P d'.world)
    (reset : d'.inspector = d.inspector.reset) : ∃ es, d.Spends d' es := by
  obtain ⟨es, -, hworld⟩ := leads
  refine ⟨.engine (.eval action armed) :: es, hworld, ?_, fun _ => ?_, fun hnone => ?_⟩
  · rw [reset, Inspector.reset]
  · rw [reset, Inspector.reset]
  · exact absurd trivial (hnone _ List.mem_cons_self)

lemma spends_kept : Kept fun d d' : Debugger S => ∃ es, d.Spends d' es where
  refl d := ⟨[], rfl, rfl, by simp, fun _ => rfl⟩
  trans := by
    rintro d₁ d₂ d₃ ⟨es, h₁⟩ ⟨fs, h₂⟩
    exact ⟨es ++ fs, h₁.trans h₂⟩
  send d m := by
    obtain ⟨ok, -, heq⟩ := d.send_ok m
    rw [heq]
    exact ⟨[.message m ok], rfl, rfl, by simp, fun _ => rfl⟩
  closed d code :=
    ⟨[.telemetry (.sessionEnd code)], rfl, rfl, fun _ => rfl, fun hnone =>
      absurd trivial (hnone _ List.mem_cons_self)⟩
  ran d action := Spends.of_run (runStep_leads _ _ d.view d.world) rfl
  shot d := Spends.of_run (runShots_leads _ d.program d.view d.world) rfl
  reloaded d := by
    obtain ⟨es, surveys, hworld⟩ := d.program.load_surveys d.world
    have loads : d.world.Leads (fun e => ¬ e.Voids) d.reloaded.world :=
      ⟨.engine (.loadProgram d.program.config) :: es,
        List.forall_mem_cons.mpr ⟨id, fun e he => (surveys e he).aside.opening.not_voids⟩, hworld⟩
    exact Spends.of_leads (fun _ => id) loads rfl rfl
  noted d _ _ _ := ⟨[], rfl, rfl, by simp, fun _ => rfl⟩

lemma begun_spends (d : Debugger S) {c : Command} (other : c ≠ .scopes) :
    ∃ es, d.Spends (d.begun c) es := by
  have leads := d.begun_leads c
  have begins (next : (d.begun c).inspector.next = d.inspector.next)
      (handles : (d.begun c).inspector.handles = d.inspector.handles) :
      ∃ es, d.Spends (d.begun c) es :=
    Spends.of_leads (fun _ => Effect.Opening.not_voids) leads next handles
  cases c with
  | scopes => exact absurd rfl other
  | launch noDebug data =>
    dsimp only [begun] at begins ⊢
    cases hl : d.accepted? noDebug data <;> (rw [hl] at begins; exact begins rfl rfl)
  | breakpointLocations source requested =>
    have heq := congrArg Debugger.inspector (d.consulted_eq source requested)
    exact begins (congrArg Inspector.next heq) (congrArg Inspector.handles heq)
  | «variables» reference =>
    dsimp only [begun] at begins ⊢
    rw [looked, rememberView_eq] at begins ⊢
    exact begins rfl rfl
  | _ => exact begins rfl rfl

/-- The effects of a call tell what it does to the numbers, unless it lists scopes. -/
lemma call_spends (d : Debugger S) {c : Call} (other : ¬ c.Asks .scopes) :
    d.Spends (d.call c).2 (d.effects c) := by
  have spends : ∃ es, d.Spends (d.call c).2 es := by
    cases c with
    | resume now => exact spends_kept.resume d now
    | request now later r =>
      have hcommand : r.command ≠ .scopes := fun h => other (congrArg some h)
      exact spends_kept.trans (d.begun_spends hcommand) (spends_kept.handle d now later r)
  obtain ⟨es, spends⟩ := spends
  rw [effects_of_world spends.world]
  exact spends

/-! ### Single calls -/

def voids (d : Debugger S) (c : Call) : Prop :=
  (∃ e ∈ d.effects c, e.Evals) ∨ EndsWith (d.effects c)

lemma voids_iff (hA : S.Attentive) (d : Debugger S) (c : Call) :
    d.voids c ↔ ∃ e ∈ d.effects c, e.Voids := by
  constructor
  · rintro (⟨e, he, hevals⟩ | ⟨pre, message, code, heq, -⟩)
    · refine ⟨e, he, ?_⟩
      unfold Effect.Evals at hevals
      split at hevals
      · trivial
      · exact hevals.elim
    · exact ⟨.telemetry (.sessionEnd code), by simp [heq, closing], trivial⟩
  · rintro ⟨e, he, hvoids⟩
    unfold Effect.Voids at hvoids
    split at hvoids
    · exact .inl ⟨_, he, trivial⟩
    · -- the record of the end is not there without the rest of it
      have concludes := call_concludes hA d c
      split at concludes
      · exact .inr concludes
      · exact absurd trivial (concludes _ he)
    · exact hvoids.elim

section Request

variable {d : Debugger S} {now later : Nat} {r : Request}

lemma call_scopes (hA : S.Attentive) (command : r.command = .scopes) :
    d.effects (.request now later r) = [r.answer (.success (.scopes d.inspector.scopes.1)) true] ∧
      (d.call (.request now later r)).2.inspector = d.inspector.scopes.2 := by
  have hcall : d.call (.request now later r) = (arrival true,
      ({ d with inspector := d.inspector.scopes.2 } : Debugger S).play
        [r.answer (.success (.scopes d.inspector.scopes.1)) true]) := by
    simp only [call, Debugger.handle, command]
    exact send_heard hA _ _
  exact ⟨effects_of_world (by rw [hcall]; rfl), by rw [hcall]; rfl⟩

lemma call_idle (hA : S.Attentive) {body : ResponseBody} {action : StepAction}
    (command : r.command.step? = some (body, action)) (hphase : d.phase ≠ .running) :
    d.effects (.request now later r) = [r.answer (.success body) true] := by
  have hidle : (d.play [r.answer (.success body) true]).step action =
      (d.play [r.answer (.success body) true]).done := if_neg hphase
  have hcall : d.call (.request now later r) = (d.play [r.answer (.success body) true]).done := by
    rw [← hidle, call, handle_steps command, respondAndStep, respond, send_heard hA, andThen_true]
    rfl
  exact effects_of_world (by rw [hcall]; rfl)

/-- What is done when a client looks into a scope, and what it finds there. -/
def look (d : Debugger S) : ScopeKind → List Effect × List Variable
  | .locals =>
    ([.engine .localVariables],
      ((S.engine.localVariables d.world.engine).1.toOption.getD []).map
        (EngineVariable.toVariable d.inspector.supportsVariableType))
  | .quantumState =>
    match (S.engine.quantumState d.world.engine).1 with
    | .ok entries =>
      ([.engine .quantumState, .telemetry (.quantumStateCaptured entries.length)],
        entries.map QuantumEntry.toVariable)
    | .error _ => ([.engine .quantumState], [])
  | .circuit =>
    let update := d.view.picture ((S.engine.circuit d.world.engine).1.toOption.getD .null) none
    ([.engine .circuit, .panel update (S.panel.update update d.world.panel).1], [circuitVariable])

/-- What is done when a client looks under a number, and what it finds. -/
def lookUnder (d : Debugger S) (reference : Int) : List Effect × List Variable :=
  match d.inspector.scope? reference with
  | some k => d.look k
  | none => ([], [])

lemma lookInto_eq (d : Debugger S) (reference : Int) :
    (d.inspector.lookInto reference d.view d.world).1 = (d.lookUnder reference).2 ∧
      (d.inspector.lookInto reference d.view d.world).2.2 =
        d.world.playAll (d.lookUnder reference).1 := by
  rw [Inspector.lookInto, lookUnder]
  rcases d.inspector.scope? reference with _ | _ | _ | _
  · exact ⟨rfl, rfl⟩
  · exact ⟨rfl, rfl⟩
  · simp only [look, Inspector.quantumState, quantumState_eq]
    cases (S.engine.quantumState d.world.engine).1 with
    | ok entries => exact ⟨rfl, rfl⟩
    | error e => exact ⟨rfl, rfl⟩
  · exact ⟨rfl, rfl⟩

lemma call_variables (hA : S.Attentive) {reference : Int} (command : r.command = .variables reference) :
    d.effects (.request now later r) = (d.lookUnder reference).1 ++
      [r.answer (.success (.variables (d.lookUnder reference).2)) true] := by
  obtain ⟨hvars, hworld⟩ := d.lookInto_eq reference
  refine effects_of_world ?_
  rw [d.call_lookInto now later command, hvars, respond, send_heard hA, looked, rememberView_eq, playAll_append, ← hworld]
  rfl

end Request

/-! ### Numbers given out -/

lemma Handles.numbers (hS : S.Attentive) {now later : Nat} {r : Request} {d : Debugger S}
    {es : List Effect} {h : Handled S} (handles : Handles now later r d es h)
    (other : r.command.looks = false) : (replies es).flatMap Response.numbers = [] := by
  have launched (l : Option PendingLaunch) :
      (l.map fun l => l.request.success .launch).toList.flatMap Response.numbers = [] := by
    cases l <;> rfl
  cases handles with
  | looks command => simp [other] at command
  | greets _ sent =>
    obtain rfl := sent.ok hS
    rw [sent.eq_map]
    rfl
  | refuses => rfl
  | unheard _ hA => exact absurd hS hA
  | configures _ resumes =>
    rw [Request.answer, replies_response, resumes.replies, List.flatMap_cons, launched]
    rfl
  | @steps body action _ _ command steps =>
    rw [Request.answer, replies_response, steps.replies]
    cases body with
    | scopes scopes => cases hcommand : r.command <;> simp [hcommand, Command.step?] at command
    | _ => rfl
  | loadFails _ _ _ _ _ ends =>
    rw [taken, replies_telemetry, replies_engine, ends.replies]
    rfl
  | loses _ _ _ _ _ hA => exact absurd hS hA
  | launches _ _ _ _ _ aside resumes =>
    rw [taken, replies_telemetry, replies_engine, replies_append, replies_append,
      replies_work fun e he => (aside e he).work, replies_map_event, resumes.replies]
    exact launched _
  | terminates _ ends =>
    rw [replies_engine, ends.replies]
    rfl
  | disconnects => rfl

lemma call_numbers (hS : S.Attentive) (d : Debugger S) {c : Call} (other : ¬ c.Asks .scopes) :
    (replies (d.effects c)).flatMap Response.numbers = [] := by
  have moves := d.call_moves c
  cases c with
  | resume now =>
    cases moves with
    | resume resumes =>
      rw [resumes.replies]
      cases d.due now <;> rfl
  | request now later r =>
    by_cases looks : r.command.looks = true
    · obtain ⟨body, heq, hbody⟩ := d.handle_looks now later looks
      obtain ⟨es, opening, hworld⟩ := d.begun_leads r.command
      have heffects : d.effects (.request now later r) = es ++ [r.answer (.success body) true] := by
        refine effects_of_world ?_
        rw [call, heq, respond, send_heard hS, play_world, hworld, ← playAll_append]
        rfl
      have hreplies : replies es = [] := by
        rw [replies, List.filterMap_eq_nil_iff]
        exact fun e he => (opening e he).reply?
      rw [heffects, replies_append, hreplies]
      cases body with
      | scopes scopes => exact absurd (congrArg some (hbody scopes rfl)) other
      | _ => rfl
    · cases moves with
      | request handles => exact handles.numbers hS (Bool.eq_false_iff.mpr looks)

/-! ### Runs -/

/-- A number has been given out for a scope, and since then no call has run the program or ended the
session. -/
def Live (d : Debugger S) (cs : List Call) (reference : Int) (k : ScopeKind) : Prop :=
  Since (fun earlier c => c.Asks .scopes ∧ reference = k.number (listings earlier))
    (fun earlier c => (d.calls earlier).voids c) cs

section Runs

variable {d : Debugger S}

lemma Live.number {cs : List Call} {reference : Int} {k : ScopeKind} (h : d.Live cs reference k) :
    ∃ n < listings cs, reference = k.number n := by
  obtain ⟨earlier, c, later, rfl, ⟨hasks, rfl⟩, -⟩ := h
  refine ⟨listings earlier, ?_, rfl⟩
  simp [listings, List.countP_append, hasks]

lemma not_voids_of_scopes (hA : S.Attentive) {c : Call} (hasks : c.Asks .scopes) : ¬ d.voids c := by
  cases c with
  | resume now => simp [Call.Asks, Call.request?] at hasks
  | request now later r =>
    have command : r.command = .scopes := by simpa [Call.Asks, Call.request?] using hasks
    rw [voids_iff hA, (call_scopes hA command).1]
    simp [Request.answer]

lemma calls_next (hA : S.Attentive) (h : d.Fresh) (cs : List Call) :
    (d.calls cs).inspector.next = 3 * listings cs + 1 := by
  induction cs using List.reverseRecOn with
  | nil =>
    obtain ⟨w, profile, timeout, -, rfl⟩ := h
    rfl
  | append_singleton cs c ih =>
    rw [calls_snoc, listings_snoc]
    by_cases hasks : c.Asks .scopes
    · cases c with
      | resume now => simp [Call.Asks, Call.request?] at hasks
      | request now later r =>
        have command : r.command = .scopes := by simpa [Call.Asks, Call.request?] using hasks
        rw [(call_scopes hA command).2, if_pos hasks]
        exact (Inspector.scopes_eq ih).2
    · rw [((d.calls cs).call_spends hasks).next, ih, if_neg hasks, Nat.add_zero]

lemma live_snoc {cs : List Call} {c : Call} {reference : Int} {k : ScopeKind} :
    d.Live (cs ++ [c]) reference k ↔ (c.Asks .scopes ∧ reference = k.number (listings cs)) ∨
      d.Live cs reference k ∧ ¬ (d.calls cs).voids c := since_snoc

lemma calls_live (hA : S.Attentive) (h : d.Fresh) (cs : List Call) (reference : Int)
    (k : ScopeKind) : (d.calls cs).inspector.scope? reference = some k ↔ d.Live cs reference k := by
  induction cs using List.reverseRecOn generalizing k with
  | nil =>
    obtain ⟨w, profile, timeout, -, rfl⟩ := h
    simp [Live, start, Inspector.scope?, Inspector.initial]
  | append_singleton cs c ih =>
    rw [calls_snoc, live_snoc]
    by_cases hasks : c.Asks .scopes
    · have spares := not_voids_of_scopes hA (d := d.calls cs) hasks
      cases c with
      | resume now => simp [Call.Asks, Call.request?] at hasks
      | request now later r =>
        have command : r.command = .scopes := by simpa [Call.Asks, Call.request?] using hasks
        have hfresh := Inspector.lookup_numbered (listings cs) reference k
        rw [← calls_next hA h cs] at hfresh
        rw [(call_scopes hA command).2, Inspector.scope?_scopes]
        cases hold : (d.calls cs).inspector.scope? reference with
        | none =>
          have dead : ¬ d.Live cs reference k := by simp [← ih, hold]
          simp [hfresh, hasks, dead]
        | some l =>
          -- a number that is live is lower than those that are given out now
          have hother : reference ≠ k.number (listings cs) := by
            obtain ⟨n, hn, rfl⟩ := ((ih l).mp hold).number
            intro heq
            have hsame := (ScopeKind.number_inj heq).1
            omega
          rw [Option.some_or, ← hold, ih k]
          simp [hother, spares]
    · have spends := (d.calls cs).call_spends hasks
      by_cases hvoids : (d.calls cs).voids c
      · have hempty := spends.voided ((voids_iff hA _ c).mp hvoids)
        simp [Inspector.scope?, hempty, hasks, hvoids]
      · have hnone : ∀ e ∈ (d.calls cs).effects c, ¬ e.Voids := fun e he hv =>
          hvoids ((voids_iff hA _ c).mpr ⟨e, he, hv⟩)
        rw [Inspector.scope?, spends.spared hnone, ← Inspector.scope?, ih]
        simp [hasks, hvoids]

lemma calls_numbers (hA : S.Attentive) (h : d.Fresh) (cs : List Call) :
    (replies (d.calls cs).world.trace).flatMap Response.numbers =
      (List.range (3 * listings cs)).map fun n : Nat => (n + 1 : Int) := by
  induction cs using List.reverseRecOn with
  | nil =>
    rw [calls_nil, h.trace]
    rfl
  | append_singleton cs c ih =>
    rw [trace_calls_snoc, replies_append, List.flatMap_append, ih, listings_snoc]
    by_cases hasks : c.Asks .scopes
    · cases c with
      | resume now => simp [Call.Asks, Call.request?] at hasks
      | request now later r =>
        have command : r.command = .scopes := by simpa [Call.Asks, Call.request?] using hasks
        have hlist := (Inspector.scopes_eq (calls_next hA h cs)).1
        rw [(call_scopes hA command).1, hlist, if_pos hasks, Nat.mul_add, Nat.mul_one,
          List.range_succ, List.range_succ, List.range_succ]
        simp [Request.answer, Response.numbers, listing, ScopeKind.all, ScopeKind.number]
        omega
    · rw [(d.calls cs).call_numbers hA hasks, if_neg hasks, Nat.add_zero, List.append_nil]

end Runs

/-- What holds of the numbers of scopes after calls made one after another. -/
structure References (d : Debugger S) (cs : List Call) : Prop where
  /-- A request to list the scopes is answered with the next three numbers, however far the session
  is, and nothing else is done. -/
  lists : ∀ now later r, r.command = .scopes →
    (d.calls cs).effects (.request now later r) =
      [r.answer (.success (.scopes (listing (listings cs)))) true]
  /-- All numbers that are ever given out come in order, and none of them twice. -/
  once : (replies (d.calls cs).world.trace).flatMap Response.numbers =
    (List.range (3 * listings cs)).map fun n : Nat => (n + 1 : Int)
  /-- A look under a number that is live for a scope is a look into that scope. -/
  looks : ∀ now later r reference k, r.command = .variables reference → d.Live cs reference k →
    (d.calls cs).effects (.request now later r) = ((d.calls cs).look k).1 ++
      [r.answer (.success (.variables ((d.calls cs).look k).2)) true]
  /-- A look under any other number is answered with nothing, and nothing else is done. -/
  passes : ∀ now later r reference, r.command = .variables reference →
    (∀ k, ¬ d.Live cs reference k) →
    (d.calls cs).effects (.request now later r) = [r.answer (.success (.variables [])) true]
  /-- So the question that a look asks the engine tells for which scope the number is live. -/
  tells : ∀ now later r reference k, r.command = .variables reference →
    (((d.calls cs).effects (.request now later r)).findSome? Effect.looksInto? = some k ↔
      d.Live cs reference k)
  /-- A step of a program that is not running leaves all numbers as they are. -/
  idle : ∀ now later r body action, r.command.step? = some (body, action) →
    (d.calls cs).phase ≠ .running → ∀ reference k,
      (d.Live (cs ++ [.request now later r]) reference k ↔ d.Live cs reference k)

section Result

variable {d : Debugger S}

lemma lookUnder_live (hA : S.Attentive) (h : d.Fresh) {cs : List Call} {reference : Int}
    {k : ScopeKind} (live : d.Live cs reference k) :
    (d.calls cs).lookUnder reference = (d.calls cs).look k := by
  rw [lookUnder, (calls_live hA h cs reference k).mpr live]

lemma lookUnder_dead (hA : S.Attentive) (h : d.Fresh) {cs : List Call} {reference : Int}
    (dead : ∀ k, ¬ d.Live cs reference k) : (d.calls cs).lookUnder reference = ([], []) := by
  have hnone : (d.calls cs).inspector.scope? reference = none := by
    rw [Option.eq_none_iff_forall_ne_some]
    exact fun k hk => dead k ((calls_live hA h cs reference k).mp hk)
  rw [lookUnder, hnone]

lemma looksInto?_look (d : Debugger S) (k : ScopeKind) (es : List Effect) :
    ((d.look k).1 ++ es).findSome? Effect.looksInto? = some k := by
  cases k with
  | locals => rfl
  | quantumState =>
    rw [look]
    split <;> rfl
  | circuit => rfl

/-- **A number is good for its scope until the program goes on or the session ends**, and no number is
given out twice. -/
theorem calls_references (hA : S.Attentive) (h : d.Fresh) (cs : List Call) : References d cs where
  lists now later r command := by
    rw [(call_scopes hA command).1, (Inspector.scopes_eq (calls_next hA h cs)).1]
  once := calls_numbers hA h cs
  looks now later r reference k command live := by
    rw [call_variables hA command, lookUnder_live hA h live]
  passes now later r reference command dead := by
    rw [call_variables hA command, lookUnder_dead hA h dead]
    rfl
  tells now later r reference k command := by
    rw [call_variables hA command, ← calls_live hA h, lookUnder]
    cases (d.calls cs).inspector.scope? reference with
    | none => simp [Request.answer, Effect.looksInto?]
    | some l => rw [looksInto?_look]
  idle now later r body action command hphase reference k := by
    have hasks : ¬ (Call.request now later r).Asks .scopes := by
      intro hasks
      have hscopes : r.command = .scopes := by simpa [Call.Asks, Call.request?] using hasks
      simp [hscopes, Command.step?] at command
    have spares : ¬ (d.calls cs).voids (.request now later r) := by
      rw [voids_iff hA, call_idle hA command hphase]
      simp [Request.answer]
    simp [live_snoc, hasks, spares]

end Result

/-- A session that lists its scopes, runs its program up to a first stop and lists them again. -/
def listsTwice : List Call :=
  [.request 0 0 ⟨1, .scopes⟩, .request 1 1 ⟨2, .configurationDone⟩, .request 2 2 (.plainLaunch 3),
    .request 3 3 ⟨4, .scopes⟩]

/-- After the run the fifth number is good and the second is not. -/
theorem listsTwice_references :
    let d := scripted [] ⟨[], [.ok .progressed]⟩
    (Surroundings.scripted []).Attentive ∧ d.Fresh ∧ References d listsTwice ∧
      (d.calls listsTwice).phase = .running ∧
      (d.calls listsTwice).effects (.request 4 4 ⟨5, .variables 5⟩) =
        [.engine .quantumState, .telemetry (.quantumStateCaptured 0),
          Request.answer ⟨5, .variables 5⟩ (.success (.variables [])) true] ∧
      (d.calls listsTwice).effects (.request 4 4 ⟨5, .variables 2⟩) =
        [Request.answer ⟨5, .variables 2⟩ (.success (.variables [])) true] := by
  have hA := (Surroundings.scripted_attentive_iff []).mpr rfl
  have hfresh := scripted_fresh [] ⟨[], [.ok .progressed]⟩
  exact ⟨hA, hfresh, calls_references hA hfresh _, by decide +kernel⟩

end Debugger

end QuantumDebug
