import QuantumDebug.Proofs.Session.Replies
import QuantumDebug.Proofs.Session.Scripted

/-!
Which requests an attentive client has been answered. Every request is answered once, at its own
call or, if it is a launch that waits, when that goes ahead. A launch that waits when the client
terminates the session or disconnects is never answered at all.
-/

namespace QuantumDebug

variable {S : Surroundings}

def Request.isLaunch (r : Request) : Bool :=
  match r.command with
  | .launch _ _ => true
  | _ => false

namespace Debugger

def along {α : Type} (f : Debugger S → Call → List α) (d : Debugger S) : List Call → List α
  | [] => []
  | c :: cs => f d c ++ along f (d.call c).2 cs

lemma along_snoc {α : Type} (f : Debugger S → Call → List α) (d : Debugger S) (cs : List Call)
    (c : Call) : d.along f (cs ++ [c]) = d.along f cs ++ f (d.calls cs) c := by
  induction cs generalizing d with
  | nil => simp [along]
  | cons c' cs ih =>
    rw [List.cons_append, along, along, ih, List.append_assoc]
    rfl

lemma mem_along {α : Type} {f : Debugger S → Call → List α} {d : Debugger S} {cs : List Call}
    {x : α} : x ∈ d.along f cs ↔
      ∃ before c after, cs = before ++ c :: after ∧ x ∈ f (d.calls before) c := by
  induction cs generalizing d with
  | nil => simp [along]
  | cons c cs ih =>
    rw [along, List.mem_append, ih]
    constructor
    · rintro (hx | ⟨before, c', after, rfl, hx⟩)
      · exact ⟨[], c, cs, rfl, hx⟩
      · exact ⟨c :: before, c', after, rfl, hx⟩
    · rintro ⟨before, c', after, heq, hx⟩
      cases before with
      | nil =>
        obtain ⟨rfl, rfl⟩ : c = c' ∧ cs = after := by simpa using heq
        exact .inl hx
      | cons b before =>
        obtain ⟨rfl, rfl⟩ : c = b ∧ cs = before ++ c' :: after := by simpa using heq
        exact .inr ⟨before, c', after, rfl, hx⟩

def waiting (d : Debugger S) : List Request := (d.pending.map PendingLaunch.request).toList

/-- The request of a call that is answered at once: every request but a launch that loads. -/
def prompt (d : Debugger S) : Call → List Request
  | .resume _ => []
  | .request _ _ r => if d.loads r then [] else [r]

/-- The requests that a call answers: its own if it is answered at once, then the launch that goes
ahead. -/
def answered (d : Debugger S) (c : Call) : List Request := d.prompt c ++ (d.goes? c).toList

/-- The launch that is lost at a call: it waits, and the client terminates or disconnects. -/
def lost (d : Debugger S) (c : Call) : List Request :=
  if c.Asks .terminate ∨ c.Asks .disconnect then d.waiting else []

lemma call_answered (hS : S.Attentive) (d : Debugger S) (c : Call) :
    (replies (d.effects c)).map Response.requestSeq = (d.answered c).map Request.seq := by
  obtain ⟨own, howns, hreplies⟩ := call_answers hS d c
  have hgoes : ((d.goes? c).map fun q => q.success .launch).toList.map Response.requestSeq =
      (d.goes? c).toList.map Request.seq := by
    cases d.goes? c <;> rfl
  rw [hreplies, answered, List.map_append, List.map_append, hgoes]
  cases c with
  | resume now => rw [howns]; rfl
  | request now later r =>
    by_cases hr : d.loads r
    · rw [Owns, if_pos hr] at howns
      simp [howns, prompt, hr]
    · rw [Owns, if_neg hr] at howns
      obtain ⟨reply, -, rfl⟩ := howns
      simp [prompt, hr]

/-- A call answers, keeps or loses what waits and what it handles, and nothing else. -/
lemma call_accounts (hS : S.Attentive) {d : Debugger S} (hd : Patient d) (c : Call) :
    (d.answered c ++ (d.call c).2.waiting ++ d.lost c).Perm (d.waiting ++ c.request?.toList) := by
  rw [waiting, call_pending hS hd]
  cases c with
  | resume now =>
    have hlost : d.lost (.resume now) = [] := by simp [lost, Call.Asks, Call.request?]
    rw [hlost]
    cases hl : d.pending with
    | none => simp [answered, prompt, waits?, goes?, due, waiting, Call.Asks, Call.request?, hl]
    | some l =>
      by_cases hdue : d.due now = none
      · simp [answered, prompt, waits?, goes?, waiting, Call.Asks, Call.request?, hl, hdue]
      · have hdue : d.due now = some l := by
          simp only [due, hl, Option.filter] at hdue ⊢
          split <;> simp_all
        simp [answered, prompt, waits?, goes?, waiting, Call.Asks, Call.request?, hl, hdue]
  | request now later r =>
    by_cases hr : d.loads r
    · -- a launch begins, so none waits
      have hnone : d.pending = none := by
        refine hd.pending_none fun hphase => ?_
        exact accepted_of_loads hr (hphase ▸ Phase.le_refl _)
      by_cases hgo : d.configured = true ∨ now + d.timeout ≤ later
      · simp [answered, prompt, lost, waits?, waiting, hr, goes?_of_loads hr, hgo, hnone,
          Call.request?]
      · obtain ⟨noDebug, data, command⟩ := command_of_loads hr
        simp [answered, prompt, lost, waits?, waiting, hr, goes?_of_loads hr, hgo, hnone, command,
          Call.Asks, Call.request?]
    · have hr : d.loads r = false := by simpa using hr
      have hperm : (r :: d.waiting).Perm (d.waiting ++ [r]) :=
        (List.perm_append_singleton r d.waiting).symm
      by_cases hdone : r.command = .configurationDone
      · cases hl : d.pending with
        | none =>
          simp [answered, prompt, lost, waits?, waiting, hr, goes?, hdone, hl, Call.Asks,
            Call.request?]
        | some l =>
          simpa [answered, prompt, lost, waits?, waiting, hr, goes?, hdone, hl, Call.Asks,
            Call.request?] using hperm
      · have plain : d.Plain r := ⟨hr, hdone⟩
        by_cases hends : r.command = .terminate ∨ r.command = .disconnect
        · simpa [answered, prompt, lost, waits?, waiting, hr, plain.goes?, hends, Call.Asks,
            Call.request?] using hperm
        · rw [plain.waits? (not_or.mp hends)]
          simpa [answered, prompt, lost, waiting, hr, plain.goes?, hends, Call.Asks,
            Call.request?] using hperm

lemma calls_waiting_isLaunch (hS : S.Attentive) {d : Debugger S} (h : d.Fresh) (cs : List Call) :
    ∀ r ∈ (d.calls cs).waiting, r.isLaunch := by
  induction cs using List.reverseRecOn with
  | nil => simp [waiting, h.pending]
  | append_singleton cs c ih =>
    intro r hr
    simp only [waiting, Option.mem_toList, Option.map_eq_some_iff] at hr
    obtain ⟨l, hl, rfl⟩ := hr
    rw [calls_snoc, call_pending hS (calls_patient h cs)] at hl
    rcases waits?_eq_some hl with ⟨now, later, rfl, hloads, -⟩ | ⟨hl, -⟩
    · obtain ⟨noDebug, data, command⟩ := command_of_loads hloads
      simp [Request.isLaunch, command]
    · exact ih _ (by simp [waiting, hl])

lemma calls_responses (hS : S.Attentive) {d : Debugger S} (h : d.Fresh) (cs : List Call) :
    (replies (d.calls cs).world.trace).map Response.requestSeq =
      (d.along answered cs).map Request.seq := by
  induction cs using List.reverseRecOn with
  | nil => simp [h.trace, along]
  | append_singleton cs c ih =>
    rw [trace_calls_snoc, replies_append, List.map_append, ih, call_answered hS, along_snoc,
      List.map_append]

lemma calls_accounts (hS : S.Attentive) {d : Debugger S} (h : d.Fresh) (cs : List Call) :
    (d.along answered cs ++ (d.calls cs).waiting ++ d.along lost cs).Perm
      (cs.filterMap Call.request?) := by
  induction cs using List.reverseRecOn with
  | nil => simp [along, waiting, h.pending]
  | append_singleton cs c ih =>
    have hcall := call_accounts hS (calls_patient h cs) c
    have hlast : [c].filterMap Call.request? = c.request?.toList := by
      cases hc : c.request? <;> simp [hc]
    rw [along_snoc, along_snoc, calls_snoc, List.filterMap_append, hlast]
    rw [List.perm_iff_count] at ih hcall ⊢
    intro r
    have hbefore := ih r
    have hnow := hcall r
    simp only [List.count_append] at hbefore hnow ⊢
    omega

lemma lost_eq_nil (d : Debugger S) (cs : List Call) : d.along lost cs = [] ↔
    ∀ before c after, cs = before ++ c :: after →
      c.Asks .terminate ∨ c.Asks .disconnect → (d.calls before).pending = none := by
  rw [List.eq_nil_iff_forall_not_mem]
  constructor
  · intro hnone before c after heq hends
    by_contra hne
    obtain ⟨l, hl⟩ := Option.ne_none_iff_exists'.mp hne
    refine hnone l.request (mem_along.mpr ⟨before, c, after, heq, ?_⟩)
    rw [lost, if_pos hends]
    simp [waiting, hl]
  · intro hpending r hr
    obtain ⟨before, c, after, heq, hr⟩ := mem_along.mp hr
    unfold lost at hr
    split at hr
    · simp [waiting, hpending before c after heq ‹_›] at hr
    · simp at hr

lemma lost_isLaunch (hS : S.Attentive) {d : Debugger S} (h : d.Fresh) (cs : List Call) :
    ∀ r ∈ d.along lost cs, r.isLaunch := by
  intro r hr
  obtain ⟨before, c, after, -, hr⟩ := mem_along.mp hr
  unfold lost at hr
  split at hr
  · exact calls_waiting_isLaunch hS h before r hr
  · simp at hr

/-- Of parts that make up a whole, what belongs to one of them by a number that is not repeated does
not belong to another. -/
lemma count_of_accounts {answers others whole : List Request} {r : Request}
    (accounts : (answers ++ others).Perm whole) (hr : r ∈ whole)
    (hone : (whole.map Request.seq).count r.seq = 1) :
    (answers.map Request.seq).count r.seq = if r ∈ others then 0 else 1 := by
  have hcount := (accounts.map Request.seq).count_eq r.seq
  rw [List.map_append, List.count_append, hone] at hcount
  split
  · rename_i hothers
    have hpos := List.count_pos_iff.mpr (List.mem_map_of_mem (f := Request.seq) hothers)
    omega
  · rename_i hothers
    have hanswers : r ∈ answers := by
      rcases List.mem_append.mp (accounts.mem_iff.mpr hr) with hr | hr
      · exact hr
      · exact absurd hr hothers
    have hpos := List.count_pos_iff.mpr (List.mem_map_of_mem (f := Request.seq) hanswers)
    omega

/-- Which requests have been answered, here after a run of calls. -/
structure AnswersOnce (d : Debugger S) (cs : List Call) : Prop where
  /-- Every response carries the number of a request that is answered by it. -/
  responses : (replies (d.calls cs).world.trace).map Response.requestSeq =
    (d.along answered cs).map Request.seq
  /-- A request that has been handled is answered by one response, or it waits, or it is lost. -/
  accounts : (d.along answered cs ++ (d.calls cs).waiting ++ d.along lost cs).Perm
    (cs.filterMap Call.request?)
  /-- Only launches wait or are lost. -/
  launches : ∀ r ∈ (d.calls cs).waiting ++ d.along lost cs, r.isLaunch
  /-- A request with a number of its own has one response, unless it waits or is lost: then it has
  none. -/
  once : ∀ r ∈ cs.filterMap Call.request?,
    ((cs.filterMap Call.request?).map Request.seq).count r.seq = 1 →
      ((replies (d.calls cs).world.trace).map Response.requestSeq).count r.seq =
        if r ∈ (d.calls cs).waiting ++ d.along lost cs then 0 else 1
  /-- Every launch has been answered but the one that waits, just if none waited when the client
  terminated or disconnected. -/
  complete : ((d.along answered cs ++ (d.calls cs).waiting).filter Request.isLaunch).Perm
      ((cs.filterMap Call.request?).filter Request.isLaunch) ↔
    ∀ before c after, cs = before ++ c :: after →
      c.Asks .terminate ∨ c.Asks .disconnect → (d.calls before).pending = none

/-- **Every request is answered once, but for a launch that waits and those that are lost**, which
are the launches that wait when the client terminates the session or disconnects. -/
theorem calls_answersOnce (hS : S.Attentive) {d : Debugger S} (h : d.Fresh) (cs : List Call) :
    AnswersOnce d cs where
  responses := calls_responses hS h cs
  accounts := calls_accounts hS h cs
  launches r hr := by
    rcases List.mem_append.mp hr with hr | hr
    · exact calls_waiting_isLaunch hS h cs r hr
    · exact lost_isLaunch hS h cs r hr
  once r hr hone := by
    have accounts := calls_accounts hS h cs
    rw [List.append_assoc] at accounts
    rw [calls_responses hS h cs]
    exact count_of_accounts accounts hr hone
  complete := by
    have hlost : (d.along lost cs).filter Request.isLaunch = d.along lost cs :=
      List.filter_eq_self.mpr (lost_isLaunch hS h cs)
    have accounts := (calls_accounts hS h cs).filter Request.isLaunch
    rw [List.filter_append, hlost] at accounts
    rw [← lost_eq_nil]
    constructor
    · intro complete
      have hlength := accounts.length_eq
      rw [List.length_append, complete.length_eq] at hlength
      exact List.eq_nil_of_length_eq_zero (by omega)
    · intro hnil
      rwa [hnil, List.append_nil] at accounts

/-- A launch that is answered when its time has come. -/
theorem scripted_answersOnce :
    (Surroundings.scripted []).Attentive ∧ (scripted [] ⟨[], []⟩).Fresh ∧
      AnswersOnce (scripted [] ⟨[], []⟩)
        [.request 10 10 (.plainLaunch 1), .resume 1010, .request 1020 1020 ⟨2, .terminate⟩] :=
  have hS := (Surroundings.scripted_attentive_iff []).mpr rfl
  have hfresh := scripted_fresh [] ⟨[], []⟩
  ⟨hS, hfresh, calls_answersOnce hS hfresh _⟩

/-- A session that is asked something while a launch waits. -/
def askedWhileWaiting (command : Command) : Debugger (.scripted []) :=
  (scripted [] ⟨[], []⟩).calls [.request 10 10 (.plainLaunch 1), .request 20 20 ⟨2, command⟩]

/-- A launch that waits when the client terminates the session or disconnects has no response, and
it waits no longer. -/
theorem end_loses_launch :
    ((askedWhileWaiting .terminate).pending = none ∧
        (replies (askedWhileWaiting .terminate).world.trace).map Response.requestSeq = [2]) ∧
      (askedWhileWaiting .disconnect).pending = none ∧
        (replies (askedWhileWaiting .disconnect).world.trace).map Response.requestSeq = [2] := by
  decide +kernel

end Debugger

end QuantumDebug
