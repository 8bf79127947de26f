import QuantumDebug.Proofs.Session.Announcements
import QuantumDebug.Proofs.Session.Answers

/-!
A session with an attentive client answers first. The answer to a request comes before anything else
that the client is told on account of it, and no other request is answered with it but a launch that
goes ahead. A launch is answered between the announcement of its breakpoints and whatever is told of
its run.
-/

namespace QuantumDebug

variable {S : Surroundings}

@[simp] def Effect.message? : Effect → Option Message
  | .message m _ => some m
  | _ => none

def messages (es : List Effect) : List Message := es.filterMap Effect.message?

@[simp] lemma messages_append (es fs : List Effect) :
    messages (es ++ fs) = messages es ++ messages fs := List.filterMap_append

@[simp] lemma messages_message (m : Message) (ok : Bool) (es : List Effect) :
    messages (.message m ok :: es) = m :: messages es := rfl

lemma messages_aside {es : List Effect} (h : ∀ e ∈ es, e.Aside) : messages es = [] := by
  rw [messages, List.filterMap_eq_nil_iff]
  intro e he
  have aside := h e he
  cases e with
  | message m ok => exact aside.elim
  | _ => rfl

lemma messages_of_unanswered {es : List Effect} (h : replies es = []) :
    ∃ events : List Event, messages es = events.map .event := by
  induction es with
  | nil => exact ⟨[], rfl⟩
  | cons e es ih =>
    rcases e with call | t | ok | ⟨r | e, ok⟩
    · exact ih h
    · exact ih h
    · exact ih h
    · simp at h
    · obtain ⟨events, heq⟩ := ih h
      exact ⟨e :: events, by rw [messages_message, heq]; rfl⟩

/-- Tells the client of a run of the program or of the end. -/
@[simp] def Effect.Shows : Effect → Prop
  | .message (.event (.output _ _)) _ => True
  | .message (.event (.stopped _ _)) _ => True
  | .message (.event .terminated) _ => True
  | .message (.event (.exited _)) _ => True
  | _ => False

lemma Effect.Aside.not_shows {e : Effect} (h : e.Aside) : ¬ e.Shows := by
  cases e with
  | message m ok => exact h.elim
  | _ => exact id

namespace Debugger

/-! ### One answer -/

/-- What the client is told on account of a request: the answer to it, the success of a launch that
goes ahead, and events after that. -/
def AnswersFirst (r : Request) (l : Option PendingLaunch) (ms : List Message) : Prop :=
  ∃ (reply : Reply) (events : List Event), ms = .response ⟨r.seq, reply⟩ ::
    ((l.map fun l => .response (l.request.success .launch)).toList ++ events.map .event)

section Handles

variable {now later : Nat} {r : Request} {d : Debugger S} {es : List Effect} {h : Handled S}

lemma answersFirst_of_unanswered {reply : Reply} (hes : replies es = []) :
    AnswersFirst r none (messages (r.answer reply true :: es)) := by
  obtain ⟨events, heq⟩ := messages_of_unanswered hes
  exact ⟨reply, events, by rw [Request.answer, messages_message, heq]; rfl⟩

lemma Resumes.tells (hS : S.Attentive) (resumes : Resumes now d es h) :
    ∃ events : List Event, messages es =
      ((d.due now).map fun l => .response (l.request.success .launch)).toList ++
        events.map .event := by
  cases resumes with
  | waits hnone => exact ⟨[], by rw [hnone]; rfl⟩
  | unheard _ hA => exact absurd hS hA
  | goes hdue proceeds =>
    obtain ⟨events, heq⟩ := messages_of_unanswered proceeds.replies
    refine ⟨events, ?_⟩
    rw [hdue, PendingLaunch.ack, Request.answer, messages_message, heq]
    rfl

lemma Handles.answersFirst (hS : S.Attentive) (handles : Handles now later r d es h)
    (noLaunch : ∀ noDebug data, r.command ≠ .launch noDebug data) :
    AnswersFirst r (if r.command = .configurationDone then d.pending else none)
      (messages es) := by
  have other (hr : r.command ≠ .configurationDone)
      (first : AnswersFirst r none (messages es)) :
      AnswersFirst r (if r.command = .configurationDone then d.pending else none)
        (messages es) := by
    rwa [if_neg hr]
  cases handles with
  | looks command aside _ _ hok =>
    refine other (Command.neutral_of_looks command).configurationDone ?_
    rw [hok hS, messages_append, messages_aside aside]
    exact answersFirst_of_unanswered rfl
  | greets command sent =>
    obtain rfl := sent.ok hS
    refine other (by simp [command]) ?_
    rw [sent.eq_map]
    exact ⟨_, [.initialized], rfl⟩
  | refuses refuses hok =>
    rw [hok hS]
    exact other (by cases refuses <;> simp [*]) (answersFirst_of_unanswered rfl)
  | unheard _ hA => exact absurd hS hA
  | configures command resumes =>
    obtain ⟨events, heq⟩ := resumes.tells hS
    rw [due_of_configured rfl] at heq
    rw [if_pos command, Request.answer, messages_message, heq]
    exact ⟨_, events, rfl⟩
  | steps command steps =>
    exact other (Command.neutral_of_step command).configurationDone
      (answersFirst_of_unanswered steps.replies)
  | loadFails command => exact absurd command (noLaunch _ _)
  | loses command => exact absurd command (noLaunch _ _)
  | launches command => exact absurd command (noLaunch _ _)
  | terminates command ends =>
    refine other (by simp [command]) ?_
    cases ends with
    | heard ends => exact answersFirst_of_unanswered ends.replies
    | unheard hA => exact absurd hS hA
  | disconnects command hok =>
    rw [hok hS]
    exact other (by simp [command]) ⟨_, [], rfl⟩

/-- A call at which no launch goes ahead tells of no run unless the program is running, and of no end
unless the session is over after it. -/
lemma Handles.unshown (hS : S.Attentive) (handles : Handles now later r d es h)
    (hgoes : d.goes? (.request now later r) = none) (idle : d.phase ≠ .running)
    (lasts : h.2.phase ≠ .terminated) : ∀ e ∈ es, ¬ e.Shows := by
  cases handles with
  | looks _ aside =>
    exact List.forall_mem_append.mpr
      ⟨fun e he => (aside e he).not_shows, List.forall_mem_singleton.mpr id⟩
  | greets _ sent =>
    refine sent.forall_mem fun m hm ok => ?_
    simp only [List.mem_cons, List.not_mem_nil, or_false] at hm
    rcases hm with rfl | rfl
    · exact id
    · exact id
  | refuses => exact List.forall_mem_singleton.mpr id
  | unheard _ hA => exact absurd hS hA
  | configures command resumes =>
    rw [goes?, if_pos command, Option.map_eq_none_iff] at hgoes
    obtain ⟨rfl, -⟩ := resumes.idle ((due_of_configured rfl).trans hgoes)
    exact List.forall_mem_singleton.mpr id
  | steps _ steps =>
    rcases steps.idle_or_running with ⟨rfl, -⟩ | hrun
    · exact List.forall_mem_singleton.mpr id
    · exact absurd hrun idle
  | loadFails _ _ _ _ _ ends => exact absurd (ends.terminated hS) lasts
  | loses _ _ _ _ _ hA => exact absurd hS hA
  | launches command accepted answered _ _ aside resumes =>
    rw [goes?_of_loads (loads_eq_true command accepted answered)] at hgoes
    have hwait : ¬ (d.configured = true ∨ now + d.timeout ≤ later) := by simpa using hgoes
    obtain ⟨rfl, -⟩ := resumes.idle (by simp [due_await, hwait])
    rw [List.append_nil]
    refine List.forall_mem_cons.mpr ⟨id, List.forall_mem_cons.mpr ⟨id, ?_⟩⟩
    exact List.forall_mem_append.mpr ⟨fun e he => (aside e he).not_shows, by simp⟩
  | terminates _ ends => exact absurd (ends.terminated hS) lasts
  | disconnects => exact absurd rfl lasts

lemma Handles.silent (handles : Handles now later r d es h)
    (late : .awaitingConfiguration ≤ d.phase) : ∀ e ∈ es, e.announced? = none := by
  cases handles with
  | looks _ aside =>
    exact List.forall_mem_append.mpr
      ⟨fun e he => (aside e he).work.announced?, List.forall_mem_singleton.mpr rfl⟩
  | greets _ sent =>
    refine sent.forall_mem fun m hm ok => ?_
    simp only [List.mem_cons, List.not_mem_nil, or_false] at hm
    rcases hm with rfl | rfl
    · rfl
    · rfl
  | refuses => exact List.forall_mem_singleton.mpr rfl
  | unheard => exact List.forall_mem_singleton.mpr rfl
  | configures _ resumes => exact List.forall_mem_cons.mpr ⟨rfl, resumes.silent⟩
  | steps _ steps => exact List.forall_mem_cons.mpr ⟨rfl, steps.silent⟩
  | loadFails _ accepted => exact absurd late (accepted_phase accepted)
  | loses _ accepted => exact absurd late (accepted_phase accepted)
  | launches _ accepted => exact absurd late (accepted_phase accepted)
  | terminates _ ends => exact List.forall_mem_cons.mpr ⟨rfl, ends.silent fun _ => rfl⟩
  | disconnects => exact List.forall_mem_cons.mpr ⟨rfl, List.forall_mem_singleton.mpr rfl⟩

end Handles

/-! ### A launch and its answer -/

/-- The success of a launch stands between what is announced and what is told of its run. -/
structure Heralds (r : Request) (es pre post : List Effect) : Prop where
  split : es = pre ++ r.answer (.success .launch) true :: post
  before : ∀ e ∈ pre, ¬ e.Shows ∧ ¬ e.Evals
  after : ∀ e ∈ post, e.announced? = none
  once : acks pre = [] ∧ acks post = []

section Calls

variable {now later : Nat} {d : Debugger S} {c : Call} {r : Request} {l : PendingLaunch}
  {es pre : List Effect} {h : Handled S}

lemma acks_eq_nil {es : List Effect} (h : replies es = []) : acks es = [] := by
  rw [acks, h, List.filterMap_nil]

lemma call_unshown (hS : S.Attentive) (hgoes : d.goes? c = none) (idle : d.phase ≠ .running)
    (lasts : (d.call c).2.phase ≠ .terminated) : ∀ e ∈ d.effects c, ¬ e.Shows := by
  cases c with
  | resume now =>
    rw [goes?, Option.map_eq_none_iff] at hgoes
    have heffects : d.effects (.resume now) = [] :=
      effects_of_world (by rw [resume_eq_done hgoes]; rfl)
    simp [heffects]
  | request now later r =>
    cases d.call_moves (.request now later r) with
    | request handles => exact handles.unshown hS hgoes idle lasts

lemma Resumes.heralds (hS : S.Attentive) (resumes : Resumes now d es h) (hdue : d.due now = some l)
    (before : ∀ e ∈ pre, ¬ e.Shows ∧ ¬ e.Evals) (unacked : acks pre = []) :
    ∃ post, Heralds l.request (pre ++ es) pre post := by
  have silent := resumes.silent
  cases resumes with
  | waits hnone => simp [hdue] at hnone
  | unheard _ hA => exact absurd hS hA
  | goes hdue' proceeds =>
    obtain rfl := Option.some.inj (hdue'.symm.trans hdue)
    exact ⟨_, rfl, before, (List.forall_mem_cons.mp silent).2,
      unacked, acks_eq_nil proceeds.replies⟩

lemma call_silent (late : .awaitingConfiguration ≤ d.phase) (c : Call) :
    ∀ e ∈ d.effects c, e.announced? = none := by
  cases d.call_moves c with
  | request handles => exact handles.silent late
  | resume resumes => exact resumes.silent

lemma call_unrun (hS : S.Attentive) (hgoes : d.goes? c = none) (idle : d.phase ≠ .running) :
    ∀ e ∈ d.effects c, ¬ e.Evals := by
  intro e he hevals
  obtain ⟨pre, post, heq⟩ := List.append_of_mem he
  have hacks := call_acks hS d c
  rw [hgoes, heq, acks_append] at hacks
  exact call_prefaced idle c pre e post heq hevals (List.append_eq_nil_iff.mp hacks).1

lemma Handles.heralds (hS : S.Attentive) (handles : Handles now later r d es h)
    (command : r.command = .configurationDone) (hpending : d.pending = some l) :
    ∃ pre post, Heralds l.request es pre post := by
  cases handles with
  | refuses refuses => cases refuses <;> simp_all
  | unheard _ hA => exact absurd hS hA
  | configures _ resumes =>
    have before : ∀ e ∈ [r.answer (.success .configurationDone) true], ¬ e.Shows ∧ ¬ e.Evals :=
      List.forall_mem_singleton.mpr ⟨id, id⟩
    obtain ⟨post, heralds⟩ := resumes.heralds hS ((due_of_configured rfl).trans hpending) before rfl
    exact ⟨_, post, heralds⟩
  | _ => simp_all [Command.looks, Command.step?]

lemma Loading.heralds (hS : S.Attentive) {config : RunConfiguration} {p : Program}
    {fs : List Effect} (loading : Loading d now later r config p es fs)
    (ready : d.configured = true ∨ now + d.timeout ≤ later) :
    ∃ pre post, Heralds r (d.effects (.request now later r)) pre post := by
  have hdue : ((d.announcing config p es).await now r).due later = some ⟨r, now + d.timeout⟩ := by
    rw [due_await]
    exact if_pos ready
  let announcements : List Effect :=
    (p.announcements d.program.breakpoints.deferred.entries).map
      fun b => .message (.event (.breakpoint b)) true
  have announced : ∀ e ∈ announcements, ¬ e.Shows ∧ ¬ e.Evals := by
    intro e he
    obtain ⟨b, -, rfl⟩ := List.mem_map.mp he
    exact ⟨id, id⟩
  have before : ∀ e ∈ taken config :: .engine (.loadProgram config) :: (es ++ announcements),
      ¬ e.Shows ∧ ¬ e.Evals := by
    refine List.forall_mem_cons.mpr ⟨⟨id, id⟩, List.forall_mem_cons.mpr ⟨⟨id, id⟩, ?_⟩⟩
    refine List.forall_mem_append.mpr ⟨fun e he => ?_, announced⟩
    have aside := loading.aside e he
    exact ⟨aside.not_shows, fun hevals => aside.aftermath.not_runs hevals.runs⟩
  have unanswered :
      replies (taken config :: .engine (.loadProgram config) :: (es ++ announcements)) = [] := by
    rw [taken, replies_telemetry, replies_engine, replies_append,
      replies_work fun e he => (loading.aside e he).work, replies_map_event]
    rfl
  obtain ⟨post, heralds⟩ := loading.resumes.heralds hS hdue before (acks_eq_nil unanswered)
  rw [loading.effects]
  exact ⟨_, post, heralds⟩

/-- A launch that goes ahead is answered before its run and after the announcements. -/
lemma call_heralds (hS : S.Attentive) (hgoes : d.goes? c = some r) :
    ∃ pre post, Heralds r (d.effects c) pre post := by
  cases c with
  | resume now =>
    obtain ⟨l, hdue, rfl⟩ := Option.map_eq_some_iff.mp hgoes
    cases d.call_moves (.resume now) with
    | resume resumes =>
      have before : ∀ e ∈ ([] : List Effect), ¬ e.Shows ∧ ¬ e.Evals := by simp
      obtain ⟨post, heralds⟩ := resumes.heralds hS hdue before rfl
      exact ⟨[], post, heralds⟩
  | request now later q =>
    rw [goes?] at hgoes
    split at hgoes
    · rename_i command
      obtain ⟨l, hpending, rfl⟩ := Option.map_eq_some_iff.mp hgoes
      cases d.call_moves (.request now later q) with
      | request handles => exact handles.heralds hS command hpending
    · split at hgoes
      · rename_i ready
        obtain rfl := Option.some.inj hgoes
        obtain ⟨config, urls, launches⟩ := loads_iff.mp ready.1
        obtain ⟨es, fs, loading, -⟩ := call_launches launches now later (.inl hS)
        exact loading.heralds hS ready.2
      · simp at hgoes

lemma goes?_of_pending (hd : Patient d) (hpending : d.pending = some l) (hgoes : d.goes? c = some r) :
    r = l.request := by
  have hphase := (hd (by simp [hpending])).1
  cases c with
  | resume now =>
    obtain ⟨l', hdue, rfl⟩ := Option.map_eq_some_iff.mp hgoes
    have hl' := (Option.filter_eq_some_iff.mp hdue).1
    rw [Option.some.inj (hl'.symm.trans hpending)]
  | request now later q =>
    rw [goes?] at hgoes
    split at hgoes
    · rw [hpending] at hgoes
      exact (Option.some.inj hgoes).symm
    · split at hgoes
      · rename_i ready
        exact absurd (hphase ▸ Phase.le_refl _) (accepted_of_loads ready.1)
      · simp at hgoes

/-- What has become of a launch since it was taken up, going by the effects of all calls since. -/
inductive Unfolds (d : Debugger S) (r : Request) (es : List Effect) : Prop where
  | waits {l : PendingLaunch} (pending : d.pending = some l) (own : l.request = r)
      (quiet : ∀ e ∈ es, ¬ e.Shows ∧ ¬ e.Evals) (unacked : acks es = []) : Unfolds d r es
  | goesAhead {pre post : List Effect} (heralds : Heralds r es pre post)
      (late : .running ≤ d.phase) : Unfolds d r es
  | givenUp (ended : d.phase = .terminated) (unrun : ∀ e ∈ es, ¬ e.Evals) (unacked : acks es = []) :
      Unfolds d r es

lemma call_unacked (hS : S.Attentive) (hgoes : d.goes? c = none) : acks (d.effects c) = [] := by
  rw [call_acks hS, hgoes]
  rfl

lemma unfolds_of_goes (hS : S.Attentive) (hgoes : d.goes? c = some r)
    (quiet : ∀ e ∈ es, ¬ e.Shows ∧ ¬ e.Evals) (unacked : acks es = []) :
    Unfolds (d.call c).2 r (es ++ d.effects c) := by
  obtain ⟨pre, post, heralds⟩ := call_heralds hS hgoes
  have late := call_setGoing hS d c
  rw [SetGoing, hgoes] at late
  have heralds : Heralds r (es ++ d.effects c) (es ++ pre) post :=
    { split := by rw [heralds.split, List.append_assoc]
      before := List.forall_mem_append.mpr ⟨quiet, heralds.before⟩
      after := heralds.after
      once := ⟨by rw [acks_append, unacked, heralds.once.1]; rfl, heralds.once.2⟩ }
  exact .goesAhead heralds late

lemma unfolds_of_waits (hS : S.Attentive) (hd : Patient d) (idle : d.phase ≠ .running)
    (hgoes : d.goes? c = none) (hl : ∀ l, d.waits? c = some l → l.request = r)
    (hover : d.waits? c = none → (d.call c).2.phase = .terminated)
    (quiet : ∀ e ∈ es, ¬ e.Shows ∧ ¬ e.Evals) (unacked : acks es = []) :
    Unfolds (d.call c).2 r (es ++ d.effects c) := by
  have hpending := call_pending hS hd c
  have unrun := call_unrun hS hgoes idle
  have unacked' : acks (es ++ d.effects c) = [] := by
    rw [acks_append, unacked, call_unacked hS hgoes]
    rfl
  rcases hwaits : d.waits? c with _ | l
  · refine .givenUp (hover hwaits) ?_ unacked'
    exact List.forall_mem_append.mpr ⟨fun e he => (quiet e he).2, unrun⟩
  · rw [hwaits] at hpending
    have lasts : (d.call c).2.phase ≠ .terminated := by
      rw [(call_patient hd c (by simp [hpending])).1]
      decide
    refine .waits hpending (hl l hwaits) ?_ unacked'
    exact List.forall_mem_append.mpr ⟨quiet, fun e he =>
      ⟨call_unshown hS hgoes idle lasts e he, unrun e he⟩⟩

lemma launch_unfolds (hS : S.Attentive) (hd : Patient d) (hloads : d.loads r = true)
    (now later : Nat) :
    Unfolds (d.call (.request now later r)).2 r (d.effects (.request now later r)) := by
  have early := accepted_of_loads hloads
  have idle : d.phase ≠ .running := fun hrun => early (hrun ▸ by decide)
  have quiet : ∀ e ∈ ([] : List Effect), ¬ e.Shows ∧ ¬ e.Evals := by simp
  rcases hgoes : d.goes? (.request now later r) with _ | q
  · obtain ⟨noDebug, data, command⟩ := command_of_loads hloads
    have hwaits : d.waits? (.request now later r) = some ⟨r, now + d.timeout⟩ := by
      simp [waits?, hgoes, hloads, Call.Asks, Call.request?, command]
    refine unfolds_of_waits hS hd idle hgoes ?_ ?_ quiet rfl
    · intro l hl
      obtain rfl := Option.some.inj (hwaits.symm.trans hl)
      rfl
    · simp [hwaits]
  · have hq : q = r := by
      rw [goes?_of_loads hloads] at hgoes
      split at hgoes
      · exact (Option.some.inj hgoes).symm
      · simp at hgoes
    subst hq
    exact unfolds_of_goes hS hgoes quiet rfl

lemma Unfolds.call (hS : S.Attentive) (hd : Patient d) (ha : Attended d) (unfolds : Unfolds d r es)
    (c : Call) : Unfolds (d.call c).2 r (es ++ d.effects c) := by
  cases unfolds with
  | @waits l hpending own quiet unacked =>
    have hphase := (hd (by simp [hpending])).1
    have idle : d.phase ≠ .running := by simp [hphase]
    rcases hgoes : d.goes? c with _ | q
    · refine unfolds_of_waits hS hd idle hgoes (fun l' hl' => ?_) (fun hnone => ?_) quiet unacked
      · rcases waits?_eq_some hl' with ⟨now, later, -, hloads, -⟩ | ⟨hpending', -⟩
        · exact absurd (hphase ▸ Phase.le_refl _) (accepted_of_loads hloads)
        · rw [Option.some.inj (hpending'.symm.trans hpending), own]
      · have hgone : (d.call c).2.pending = none := (call_pending hS hd c).trans hnone
        have hle := phase_le_call d c
        have hgoing := call_setGoing hS d c
        rw [SetGoing, hgoes] at hgoing
        rw [hphase] at hle
        cases hafter : (d.call c).2.phase with
        | terminated => rfl
        | running => exact absurd (hgoing hafter) idle
        | awaitingConfiguration => exact absurd hgone (call_attended hS ha c hafter)
        | _ => exact absurd (hafter ▸ hle) (by decide)
    · obtain rfl := (goes?_of_pending hd hpending hgoes).trans own
      exact unfolds_of_goes hS hgoes quiet unacked
  | @goesAhead pre post heralds late =>
    have unacked := call_unacked hS (goes?_of_running hd late c)
    have silent := call_silent (Phase.le_trans (by decide) late) c
    have heralds : Heralds r (es ++ d.effects c) pre (post ++ d.effects c) :=
      { split := by rw [heralds.split, List.append_assoc, List.cons_append]
        before := heralds.before
        after := List.forall_mem_append.mpr ⟨heralds.after, silent⟩
        once := ⟨heralds.once.1, by rw [acks_append, heralds.once.2, unacked]; rfl⟩ }
    exact .goesAhead heralds (Phase.le_trans late (phase_le_call d c))
  | givenUp ended unrun unacked =>
    have hrunning : .running ≤ d.phase := by
      rw [ended]
      decide
    have late := call_late hd ended c
    refine .givenUp (call_terminated ended c) ?_ ?_
    · exact List.forall_mem_append.mpr
        ⟨unrun, fun e he hevals => (late e he).not_runs hevals.runs⟩
    · rw [acks_append, unacked, call_unacked hS (goes?_of_running hd hrunning c)]
      rfl

end Calls

/-! ### The result -/

/-- In which order a session tells its client of a request. -/
structure AcknowledgesFirst (d : Debugger S) (now later : Nat) (r : Request) : Prop where
  /-- A request that is not a launch is answered before anything else that the client is told on
  account of it. Only the end of configuration has another request answered as well, and that is
  the launch that waits for it. -/
  first : (∀ noDebug data, r.command ≠ .launch noDebug data) →
    AnswersFirst r (if r.command = .configurationDone then d.pending else none)
      (messages (d.effects (.request now later r)))
  /-- A launch whose program loads is answered after its breakpoints have been announced and before
  anything is told of its run, whatever is asked for meanwhile. -/
  launch : d.loads r = true → ∀ after,
    Unfolds (d.calls (.request now later r :: after)) r
      (d.along effects (.request now later r :: after))

/-- **A session answers first, and once**, whatever state it is in. -/
theorem calls_acknowledgeFirst (hS : S.Attentive) {d : Debugger S} (h : d.Fresh) (cs : List Call)
    (now later : Nat) (r : Request) : AcknowledgesFirst (d.calls cs) now later r where
  first noLaunch := by
    cases (d.calls cs).call_moves (.request now later r) with
    | request handles => exact handles.answersFirst hS noLaunch
  launch hloads after := by
    induction after using List.reverseRecOn with
    | nil =>
      have unfolds := launch_unfolds hS (calls_patient h cs) hloads now later
      rwa [along, along, List.append_nil]
    | append_singleton after c ih =>
      have hd := calls_patient h (cs ++ .request now later r :: after)
      have ha := calls_attended hS h (cs ++ .request now later r :: after)
      rw [calls_append] at hd ha
      rw [← List.cons_append, along_snoc, calls_snoc]
      exact ih.call hS hd ha c

/-- A launch with a breakpoint to announce, and the end of the configuration that it waits for. -/
theorem onFiles_acknowledgesFirst :
    let d := (onFiles []).calls [.request 0 0 (.breakAt 1 "/lib.qs" 5)]
    let waiting := (onFiles []).calls [.request 0 0 (.breakAt 1 "/lib.qs" 5),
      .request 10 10 (.plainLaunch 2)]
    (Surroundings.surveyed filePlaces).Attentive ∧ (onFiles []).Fresh ∧
      d.loads (.plainLaunch 2) = true ∧ AcknowledgesFirst d 10 10 (.plainLaunch 2) ∧
      AcknowledgesFirst waiting 20 20 ⟨3, .configurationDone⟩ ∧
      messages (waiting.effects (.request 20 20 ⟨3, .configurationDone⟩)) =
        [.response ⟨3, .success .configurationDone⟩, .response ⟨2, .success .launch⟩] ++
          (closingEvents "program completed" 0).map .event :=
  have hA := Surroundings.surveyed_attentive filePlaces
  have hfresh : (onFiles []).Fresh := surveyed_fresh _ _
  ⟨hA, hfresh, by decide +kernel, calls_acknowledgeFirst hA hfresh _ _ _ _,
    calls_acknowledgeFirst hA hfresh _ _ _ _, by decide +kernel⟩

end Debugger

end QuantumDebug
