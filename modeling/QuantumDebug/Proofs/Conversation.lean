import Mathlib.Data.List.Induction
import QuantumDebug.Engine.Process
import QuantumDebug.Proofs.Record

/-!
Conversations with an engine process. Whatever a process prints, and whatever it is asked meanwhile,
its messages are dealt out to the questions in the order in which they come: a question that waits
takes all up to the first reply with its own number and goes by that reply alone.
-/

namespace QuantumDebug

/-! ### Questions and their answers -/

/-- What an engine answers to a question. -/
def EngineCall.Answer : EngineCall → Type
  | .loadProgram _ => Except EngineError (List Url)
  | .breakpoints _ => Except EngineError (List EngineBreakpoint)
  | .eval _ _ => List String × Except EngineError StepResult
  | .stackFrames => Except EngineError (List EngineFrame)
  | .localVariables => Except EngineError (List EngineVariable)
  | .quantumState => Except EngineError (List QuantumEntry)
  | .circuit => Except EngineError Json
  | .terminate => Unit

def Engine.answer {σ : Type} (E : Engine σ) : (c : EngineCall) → σ → c.Answer
  | .loadProgram config, s => (E.loadProgram config s).1
  | .breakpoints source, s => (E.breakpoints source s).1
  | .eval action armed, s => (E.eval action armed s).1
  | .stackFrames, s => (E.stackFrames s).1
  | .localVariables, s => (E.localVariables s).1
  | .quantumState, s => (E.quantumState s).1
  | .circuit, s => (E.circuit s).1
  | .terminate, _ => ()

namespace EngineCall

def waits : EngineCall → Bool
  | .terminate => false
  | _ => true

def method : EngineCall → String
  | .loadProgram _ => "loadProgram"
  | .breakpoints _ => "getBreakpoints"
  | .eval _ _ => "eval"
  | .stackFrames => "getStackFrames"
  | .localVariables => "getLocalVariables"
  | .quantumState => "captureQuantumState"
  | .circuit => "getCircuit"
  | .terminate => "terminate"

def params : EngineCall → Json
  | .loadProgram config => config.toJson
  | .breakpoints source => .obj [("source", .str source.text)]
  | .eval action armed => .obj [("action", action.toJson), ("breakpoints", .list .int armed)]
  | _ => .null

def line (c : EngineCall) (id : Nat) : String := questionLine id c.method c.params

def lines (first : Nat) : List EngineCall → List String
  | [] => []
  | c :: cs => c.line first :: lines (first + 1) cs

/-- The result in a reply: the error if it has one, else what its result is read as. A question
without a reply finds the process gone. -/
def result {α : Type} (method : String) (d : Json.Decoder α) :
    Option EngineReply → Except EngineError α
  | none => .error .exited
  | some ⟨_, _, some err⟩ => .error (.runtime err.message err.stackTrace)
  | some ⟨_, j, none⟩ =>
    (d j).mapError fun fault => .protocol ("unexpected result for " ++ method ++ ": " ++ fault.message)

/-- What a question makes of its reply, if there is one. A run of the program passes on the texts
that were written before the reply. -/
def read : (c : EngineCall) → List String → Option EngineReply → c.Answer
  | .loadProgram _, _, r =>
    ((result "loadProgram" (Json.sequence Json.string) r).mapError EngineProcess.loadFailure).bind
      EngineProcess.parseSources
  | .breakpoints _, _, r => result "getBreakpoints" (Json.sequence EngineBreakpoint.decoder) r
  | .eval _ _, texts, r => (texts, result "eval" StepResult.decoder r)
  | .stackFrames, _, r => result "getStackFrames" (Json.sequence EngineFrame.decoder) r
  | .localVariables, _, r => result "getLocalVariables" (Json.sequence EngineVariable.decoder) r
  | .quantumState, _, r => result "captureQuantumState" (Json.sequence QuantumEntry.decoder) r
  | .circuit, _, r => result "getCircuit" Json.any r
  | .terminate, _, _ => ()

lemma result_some {α : Type} (method : String) (d : Json.Decoder α) (r : EngineReply) :
    result method d (some r) = EngineProcess.readReply method d r := by
  obtain ⟨id, j, _ | err⟩ := r
  · simp only [result, EngineProcess.readReply]
    cases d j <;> rfl
  · rfl

end EngineCall

/-! ### Messages -/

namespace EngineMessage

def output? : EngineMessage → Option String
  | .notification "output" params => some (outputText params)
  | _ => none

def RepliesTo (id : Nat) : EngineMessage → Prop
  | .reply r => r.id = id
  | .notification _ _ => False

end EngineMessage

def outputs (ms : List EngineMessage) : List String := ms.filterMap EngineMessage.output?

lemma awaitReply_cons {id : Nat} {m : EngineMessage} (h : ¬ m.RepliesTo id)
    (ms : List EngineMessage) :
    awaitReply id (m :: ms) =
      { awaitReply id ms with texts := m.output?.toList ++ (awaitReply id ms).texts } := by
  cases m with
  | reply r => exact if_neg h
  | notification method params =>
    by_cases hm : method = "output"
    · subst hm
      rfl
    · simp [awaitReply, EngineMessage.output?, hm]

lemma awaitReply_found {id : Nat} {skipped : List EngineMessage} {r : EngineReply}
    (others : ∀ m ∈ skipped, ¬ m.RepliesTo id) (own : r.id = id) (rest : List EngineMessage) :
    awaitReply id (skipped ++ .reply r :: rest) = ⟨outputs skipped, some r, rest⟩ := by
  induction skipped with
  | nil => simp [awaitReply, own, outputs]
  | cons m skipped ih =>
    obtain ⟨hm, others⟩ := List.forall_mem_cons.mp others
    rw [List.cons_append, awaitReply_cons hm, ih others]
    cases h : m.output? <;> simp [outputs, h]

lemma awaitReply_missing {id : Nat} {ms : List EngineMessage}
    (others : ∀ m ∈ ms, ¬ m.RepliesTo id) : awaitReply id ms = ⟨outputs ms, none, []⟩ := by
  induction ms with
  | nil => rfl
  | cons m ms ih =>
    obtain ⟨hm, others⟩ := List.forall_mem_cons.mp others
    rw [awaitReply_cons hm, ih others]
    cases h : m.output? <;> simp [outputs, h]

lemma split_at_reply (id : Nat) (ms : List EngineMessage) :
    (∀ m ∈ ms, ¬ m.RepliesTo id) ∨ ∃ skipped r rest,
      ms = skipped ++ .reply r :: rest ∧ (∀ m ∈ skipped, ¬ m.RepliesTo id) ∧ r.id = id := by
  induction ms with
  | nil => exact .inl (by simp)
  | cons m ms ih =>
    by_cases hm : m.RepliesTo id
    · cases m with
      | reply r => exact .inr ⟨[], r, ms, rfl, by simp, hm⟩
      | notification => exact hm.elim
    · rcases ih with none | ⟨skipped, r, rest, rfl, others, own⟩
      · exact .inl (List.forall_mem_cons.mpr ⟨hm, none⟩)
      · exact .inr ⟨m :: skipped, r, rest, rfl, List.forall_mem_cons.mpr ⟨hm, others⟩, own⟩

/-! ### Messages that nobody has looked at -/

namespace Inbox

/-- The inbox that still holds messages that have been taken from another. -/
def before (ms : List EngineMessage) (i : Inbox) : Inbox := { i with messages := ms ++ i.messages }

lemma before_readLine (ms : List EngineMessage) (i : Inbox) (line : List UInt8) :
    (i.before ms).readLine line = (i.readLine line).before ms := by
  by_cases reading : i.reading = true
  · have reading' : (i.before ms).reading = true := reading
    rw [readLine, if_pos reading', readLine, if_pos reading]
    cases Text.Utf8.decode? line with
    | none => rfl
    | some cs => simp [before]
  · have reading' : ¬ (i.before ms).reading = true := reading
    rw [readLine, if_neg reading', readLine, if_neg reading]

lemma before_foldl (ms : List EngineMessage) (i : Inbox) (lines : List (List UInt8)) :
    lines.foldl readLine (i.before ms) = (lines.foldl readLine i).before ms := by
  induction lines generalizing i with
  | nil => rfl
  | cons line lines ih => rw [List.foldl_cons, before_readLine, ih, List.foldl_cons]

lemma before_feed (ms : List EngineMessage) (i : Inbox) (octets : List UInt8) :
    (i.before ms).feed octets = (i.feed octets).before ms := by
  simp only [feed, before_foldl]
  rfl

lemma before_close (ms : List EngineMessage) (i : Inbox) :
    (i.before ms).close = i.close.before ms := by
  have hline : (i.before ms).line = i.line := rfl
  simp only [close, hline]
  split
  · rfl
  · rw [before_readLine]
    rfl

end Inbox

namespace EngineProcess

variable {ρ : Type} (P : Peer ρ)

/-- The process after a line has been written to it, whether it takes it or not. -/
def told (e : EngineProcess ρ) (line : String) : EngineProcess ρ :=
  match P.take line e.peer with
  | (.refused, peer) => { e with nextId := e.nextId + 1, peer := peer }
  | (.taken printed last, peer) =>
    ({ e with nextId := e.nextId + 1, peer := peer } : EngineProcess ρ).hear printed last

def toldAll (e : EngineProcess ρ) (lines : List String) : EngineProcess ρ := lines.foldl (told P) e

/-- The process after questions one after another. -/
def asked (e : EngineProcess ρ) (cs : List EngineCall) : EngineProcess ρ :=
  cs.foldl (fun e c => (engine P).after c e) e

/-- The messages that a question finds. -/
def found (e : EngineProcess ρ) (c : EngineCall) : List EngineMessage :=
  (e.told P (c.line e.nextId)).inbox.messages

/-- The messages that a question takes: those that it finds and does not leave. -/
def portion (e : EngineProcess ρ) (c : EngineCall) : List EngineMessage :=
  (e.found P c).take ((e.found P c).length - ((engine P).after c e).inbox.messages.length)

def portions (e : EngineProcess ρ) : List EngineCall → List (List EngineMessage)
  | [] => []
  | c :: cs => e.portion P c :: ((engine P).after c e).portions cs

/-- The process takes each of several lines. -/
def Takes (e : EngineProcess ρ) (lines : List String) : Prop :=
  ∀ earlier line later, lines = earlier ++ line :: later →
    (P.take line (e.toldAll P earlier).peer).1 ≠ .refused

/-- The process after the messages that were waited for have been taken. -/
def settled (e : EngineProcess ρ) (id : Nat) : EngineProcess ρ :=
  { e with
    inbox := { e.inbox with messages := (awaitReply id e.inbox.messages).rest }
    unanswered := e.unanswered.or
      (if (awaitReply id e.inbox.messages).reply.isNone && e.inbox.reading then some id else none) }

variable {P} {e : EngineProcess ρ} {c : EngineCall} {cs : List EngineCall}

lemma told_nextId (e : EngineProcess ρ) (line : String) :
    (e.told P line).nextId = e.nextId + 1 := by
  unfold told
  split <;> rfl

lemma told_peer (e : EngineProcess ρ) (line : String) :
    (e.told P line).peer = (P.take line e.peer).2 := by
  unfold told
  split <;> simp_all [hear]

/-! ### One question -/

lemma send_snd (e : EngineProcess ρ) (method : String) (params : Json) :
    (e.send P method params).2 = e.told P (questionLine e.nextId method params) := by
  unfold send told
  rcases P.take (questionLine e.nextId method params) e.peer with ⟨_ | ⟨printed, last⟩, peer⟩ <;> rfl

lemma send_eq {method : String} {params : Json}
    (takes : (P.take (questionLine e.nextId method params) e.peer).1 ≠ .refused) :
    e.send P method params = (.ok e.nextId, e.told P (questionLine e.nextId method params)) := by
  unfold send told
  rcases ht : P.take (questionLine e.nextId method params) e.peer with ⟨_ | ⟨printed, last⟩, peer⟩
  · simp [ht] at takes
  · rfl

lemma await_eq {α : Type} (method : String) (d : Json.Decoder α) (id : Nat) (e : EngineProcess ρ) :
    e.await method d id =
      (((awaitReply id e.inbox.messages).texts,
        EngineCall.result method d (awaitReply id e.inbox.messages).reply), e.settled id) := by
  unfold await settled
  rcases h : (awaitReply id e.inbox.messages).reply with _ | r
  · simp only [h]
    rfl
  · simp only [h, EngineCall.result_some]

lemma call_eq {α : Type} {method : String} {params : Json} (d : Json.Decoder α)
    (takes : (P.take (questionLine e.nextId method params) e.peer).1 ≠ .refused) :
    e.call P method params d =
      let there := e.told P (questionLine e.nextId method params)
      let a := awaitReply e.nextId there.inbox.messages
      ((a.texts, EngineCall.result method d a.reply), there.settled e.nextId) := by
  rw [call, send_eq takes]
  exact await_eq _ _ _ _

lemma query_eq {α : Type} {method : String} {params : Json} (d : Json.Decoder α)
    (takes : (P.take (questionLine e.nextId method params) e.peer).1 ≠ .refused) :
    e.query P method params d =
      let there := e.told P (questionLine e.nextId method params)
      (EngineCall.result method d (awaitReply e.nextId there.inbox.messages).reply,
        there.settled e.nextId) := by
  rw [query, call_eq d takes]

lemma loadProgram_query (P : Peer ρ) (config : RunConfiguration) (e : EngineProcess ρ) :
    e.loadProgram P config =
      let asked := e.query P "loadProgram" config.toJson (Json.sequence Json.string)
      ((asked.1.mapError loadFailure).bind parseSources, asked.2) := by
  rw [loadProgram]
  rcases e.query P "loadProgram" config.toJson (Json.sequence Json.string) with ⟨_ | _, _⟩ <;> rfl

def awaited (P : Peer ρ) (e : EngineProcess ρ) (c : EngineCall) : Awaited :=
  awaitReply e.nextId (e.found P c)

lemma engine_waits (hc : c.waits = true)
    (takes : (P.take (c.line e.nextId) e.peer).1 ≠ .refused) :
    (engine P).answer c e = c.read (e.awaited P c).texts (e.awaited P c).reply ∧
      (engine P).after c e = (e.told P (c.line e.nextId)).settled e.nextId := by
  cases c with
  | loadProgram config =>
    have h := query_eq (Json.sequence Json.string) takes
    have hload := loadProgram_query P config e
    rw [show e.query P "loadProgram" config.toJson (Json.sequence Json.string) = _ from h] at hload
    exact ⟨congrArg Prod.fst hload, congrArg Prod.snd hload⟩
  | breakpoints source =>
    have h := query_eq (Json.sequence EngineBreakpoint.decoder) takes
    exact ⟨congrArg Prod.fst h, congrArg Prod.snd h⟩
  | eval action armed =>
    have h := call_eq StepResult.decoder takes
    exact ⟨congrArg Prod.fst h, congrArg Prod.snd h⟩
  | stackFrames =>
    have h := query_eq (Json.sequence EngineFrame.decoder) takes
    exact ⟨congrArg Prod.fst h, congrArg Prod.snd h⟩
  | localVariables =>
    have h := query_eq (Json.sequence EngineVariable.decoder) takes
    exact ⟨congrArg Prod.fst h, congrArg Prod.snd h⟩
  | quantumState =>
    have h := query_eq (Json.sequence QuantumEntry.decoder) takes
    exact ⟨congrArg Prod.fst h, congrArg Prod.snd h⟩
  | circuit =>
    have h := query_eq Json.any takes
    exact ⟨congrArg Prod.fst h, congrArg Prod.snd h⟩
  | terminate => simp [EngineCall.waits] at hc

lemma engine_terminates (hc : c.waits = false) (e : EngineProcess ρ) :
    (engine P).after c e = e.told P (c.line e.nextId) := by
  cases c with
  | terminate => exact send_snd e _ _
  | _ => simp [EngineCall.waits] at hc

/-- How a question with a number fares. -/
inductive Fares (P : Peer ρ) (e : EngineProcess ρ) (c : EngineCall) (id : Nat) : Prop where
  /-- It waits for nothing and takes nothing. -/
  | passes (hc : c.waits = false) (portion : e.portion P c = [])
  /-- It takes the messages up to the first reply with its number and goes by that reply. -/
  | replied {skipped : List EngineMessage} {r : EngineReply} (hc : c.waits = true)
      (own : r.id = id) (others : ∀ m ∈ skipped, ¬ m.RepliesTo id)
      (portion : e.portion P c = skipped ++ [.reply r])
      (answer : (engine P).answer c e = c.read (outputs skipped) (some r))
  /-- No reply with its number comes before the end. -/
  | exited (hc : c.waits = true) (others : ∀ m ∈ e.portion P c, ¬ m.RepliesTo id)
      (left : ((engine P).after c e).inbox.messages = [])
      (closed : ((engine P).after c e).inbox.reading = false)
      (answer : (engine P).answer c e = c.read (outputs (e.portion P c)) none)
  /-- There is neither a reply nor an end, and whoever has asked waits for good. -/
  | hangs (hc : c.waits = true) (others : ∀ m ∈ e.portion P c, ¬ m.RepliesTo id)
      (left : ((engine P).after c e).inbox.messages = [])
      (unanswered : ((engine P).after c e).unanswered ≠ none)

lemma portion_eq {taken left : List EngineMessage} (hfound : e.found P c = taken ++ left)
    (hleft : ((engine P).after c e).inbox.messages = left) : e.portion P c = taken := by
  simp [portion, hfound, hleft]

/-- Apart from its messages and from what is marked as unanswered, a process after a question is one
that the question has been written to. -/
lemma after_eq (takes : (P.take (c.line e.nextId) e.peer).1 ≠ .refused) :
    (engine P).after c e =
      { e.told P (c.line e.nextId) with
        inbox := { (e.told P (c.line e.nextId)).inbox with
          messages := ((engine P).after c e).inbox.messages }
        unanswered := ((engine P).after c e).unanswered } := by
  rcases hc : c.waits with _ | _
  · rw [engine_terminates hc]
  · rw [(engine_waits hc takes).2]
    rfl

lemma after_unanswered (hc : c.waits = true)
    (takes : (P.take (c.line e.nextId) e.peer).1 ≠ .refused)
    (missing : (e.awaited P c).reply = none)
    (open' : (e.told P (c.line e.nextId)).inbox.reading = true) :
    ((engine P).after c e).unanswered ≠ none := by
  rw [(engine_waits hc takes).2]
  show Option.or _ (if (e.awaited P c).reply.isNone &&
    (e.told P (c.line e.nextId)).inbox.reading then some e.nextId else none) ≠ none
  rw [missing, open']
  simp

lemma fares_waits (hc : c.waits = true) (takes : (P.take (c.line e.nextId) e.peer).1 ≠ .refused) :
    Fares P e c e.nextId ∧
      e.found P c = e.portion P c ++ ((engine P).after c e).inbox.messages := by
  obtain ⟨answer, hafter⟩ := engine_waits hc takes
  have hleft : ((engine P).after c e).inbox.messages = (e.awaited P c).rest := by
    rw [hafter]
    rfl
  rcases split_at_reply e.nextId (e.found P c) with others | ⟨skipped, r, rest, hfound, others, own⟩
  · have hawaited : e.awaited P c = ⟨outputs (e.found P c), none, []⟩ := awaitReply_missing others
    have missing : (e.awaited P c).reply = none := by rw [hawaited]
    rw [hawaited] at answer hleft
    have hportion : e.portion P c = e.found P c := portion_eq (List.append_nil _).symm hleft
    rw [← hportion] at answer others
    refine ⟨?_, by rw [hportion, hleft, List.append_nil]⟩
    rcases closed : (e.told P (c.line e.nextId)).inbox.reading with _ | _
    · exact .exited hc others hleft (by rw [after_eq takes]; exact closed) answer
    · exact .hangs hc others hleft (after_unanswered hc takes missing closed)
  · have hawaited : e.awaited P c = ⟨outputs skipped, some r, rest⟩ := by
      rw [awaited, hfound, awaitReply_found others own]
    rw [hawaited] at answer hleft
    have hfound' : e.found P c = (skipped ++ [.reply r]) ++ rest := by simp [hfound]
    have hportion := portion_eq hfound' hleft
    exact ⟨.replied hc own others hportion answer, by rw [hportion, hleft, hfound']⟩

/-- A question fares in one of the ways named above, and what it does not take is left. -/
lemma fares (takes : (P.take (c.line e.nextId) e.peer).1 ≠ .refused) :
    Fares P e c e.nextId ∧
      e.found P c = e.portion P c ++ ((engine P).after c e).inbox.messages := by
  rcases hc : c.waits with _ | _
  · have hleft : ((engine P).after c e).inbox.messages = e.found P c := by
      rw [engine_terminates hc]
      rfl
    have hportion : e.portion P c = [] := portion_eq (List.nil_append _).symm hleft
    exact ⟨.passes hc hportion, by rw [hportion, hleft, List.nil_append]⟩
  · exact fares_waits hc takes

/-! ### Questions one after another -/

/-- One process has taken some messages that the other, which has been told the same, still holds. -/
structure Trails (taken : List EngineMessage) (e e' : EngineProcess ρ) : Prop where
  nextId : e'.nextId = e.nextId
  peer : e'.peer = e.peer
  inbox : e'.inbox = e.inbox.before taken

section Trails

variable {taken : List EngineMessage} {e' : EngineProcess ρ}

lemma Trails.told (h : Trails taken e e') (line : String) :
    Trails taken (e.told P line) (e'.told P line) := by
  have hpeer : (e'.told P line).peer = (e.told P line).peer := by
    rw [told_peer, told_peer, h.peer]
  have hnext : (e'.told P line).nextId = (e.told P line).nextId := by
    rw [told_nextId, told_nextId, h.nextId]
  refine ⟨hnext, hpeer, ?_⟩
  unfold EngineProcess.told
  rw [h.peer]
  rcases P.take line e.peer with ⟨_ | ⟨printed, last⟩, peer⟩
  · exact h.inbox
  · simp only [hear, h.inbox, Inbox.before_feed]
    cases last
    · rfl
    · exact Inbox.before_close taken _

lemma Trails.asks (h : Trails taken e e')
    (takes : (P.take (c.line e.nextId) e.peer).1 ≠ .refused) :
    Trails (taken ++ e.portion P c) ((engine P).after c e) (e'.told P (c.line e.nextId)) := by
  obtain ⟨nextId, peer, inbox⟩ := h.told (P := P) (c.line e.nextId)
  obtain ⟨-, hfound⟩ := fares takes
  have hafter := after_eq takes
  have hinbox : (e.told P (c.line e.nextId)).inbox =
      ((engine P).after c e).inbox.before (e.portion P c) := by
    rw [Inbox.before, ← hfound, hafter]
    rfl
  refine ⟨?_, ?_, ?_⟩
  · rw [nextId, hafter]
  · rw [peer, hafter]
  · rw [inbox, hinbox]
    simp [Inbox.before]

end Trails

lemma asked_snoc (e : EngineProcess ρ) (cs : List EngineCall) (c : EngineCall) :
    e.asked P (cs ++ [c]) = (engine P).after c (e.asked P cs) := by
  simp [asked, List.foldl_append]

lemma portions_snoc (e : EngineProcess ρ) (cs : List EngineCall) (c : EngineCall) :
    e.portions P (cs ++ [c]) = e.portions P cs ++ [(e.asked P cs).portion P c] := by
  induction cs generalizing e with
  | nil => rfl
  | cons c' cs ih => rw [List.cons_append, portions, ih, portions]; rfl

lemma toldAll_snoc (e : EngineProcess ρ) (lines : List String) (line : String) :
    e.toldAll P (lines ++ [line]) = (e.toldAll P lines).told P line := by
  simp [toldAll, List.foldl_append]

end EngineProcess

lemma EngineCall.lines_append (first : Nat) (cs cs' : List EngineCall) :
    EngineCall.lines first (cs ++ cs') =
      EngineCall.lines first cs ++ EngineCall.lines (first + cs.length) cs' := by
  induction cs generalizing first with
  | nil => rfl
  | cons c cs ih =>
    rw [List.cons_append, lines, ih, lines, List.cons_append, List.length_cons,
      show first + 1 + cs.length = first + (cs.length + 1) by omega]

namespace EngineProcess

variable {ρ : Type} {P : Peer ρ} {e : EngineProcess ρ}

lemma Takes.left {lines lines' : List String} (h : Takes P e (lines ++ lines')) :
    Takes P e lines := by
  rintro earlier line later rfl
  exact h earlier line (later ++ lines') (by simp)

/-- What becomes of the messages in a run of questions: a process that has been told the same and
taken nothing holds them all. -/
lemma asked_trails {cs : List EngineCall} (takes : Takes P e (EngineCall.lines e.nextId cs)) :
    Trails (e.portions P cs).flatten (e.asked P cs) (e.toldAll P (EngineCall.lines e.nextId cs)) ∧
      (e.asked P cs).nextId = e.nextId + cs.length := by
  induction cs using List.reverseRecOn with
  | nil => exact ⟨⟨rfl, rfl, rfl⟩, rfl⟩
  | append_singleton cs c ih =>
    rw [EngineCall.lines_append] at takes ⊢
    obtain ⟨trails, hnext⟩ := ih takes.left
    have htakes : (P.take (c.line (e.asked P cs).nextId) (e.asked P cs).peer).1 ≠ .refused := by
      rw [hnext, ← trails.peer]
      exact takes _ _ [] rfl
    have hasks := trails.asks htakes
    rw [asked_snoc, portions_snoc, ← hnext, EngineCall.lines, EngineCall.lines, toldAll_snoc]
    refine ⟨by simpa using hasks, ?_⟩
    rw [after_eq htakes, told_nextId, hnext, List.length_append]
    rfl

/-- What a process is told and what becomes of its messages while it is asked questions. -/
structure Unmixed (P : Peer ρ) (e : EngineProcess ρ) (cs : List EngineCall) : Prop where
  /-- The questions are written one after another under the numbers from one on. -/
  numbered : (e.asked P cs).peer = (e.toldAll P (EngineCall.lines 1 cs)).peer
  /-- All messages are dealt out to the questions in the order in which they come, each at most once,
  and the others are left. -/
  dealt : (e.toldAll P (EngineCall.lines 1 cs)).inbox.messages =
    (e.portions P cs).flatten ++ (e.asked P cs).inbox.messages
  /-- Every question takes its own messages and goes by them alone. -/
  fares : ∀ earlier c later, cs = earlier ++ c :: later →
    Fares P (e.asked P earlier) c (earlier.length + 1)

/-- **Replies are never mixed up**, whatever is asked and whatever the process prints, so long as it
takes what is written to it. -/
theorem asked_unmixed (first : e.nextId = 1) {cs : List EngineCall}
    (takes : Takes P e (EngineCall.lines 1 cs)) : Unmixed P e cs := by
  rw [← first] at takes
  obtain ⟨trails, -⟩ := asked_trails takes
  rw [first] at trails
  refine ⟨trails.peer.symm, congrArg Inbox.messages trails.inbox, ?_⟩
  rintro earlier c later rfl
  rw [EngineCall.lines_append] at takes
  obtain ⟨trails, hnext⟩ := asked_trails takes.left
  have hid : (e.asked P earlier).nextId = earlier.length + 1 := by rw [hnext, first, Nat.add_comm]
  have htakes : (P.take (c.line (e.asked P earlier).nextId) (e.asked P earlier).peer).1 ≠
      .refused := by
    rw [hnext, ← trails.peer]
    exact takes _ _ _ rfl
  rw [← hid]
  exact (EngineProcess.fares htakes).1

def silent : Peer Unit := ⟨fun _ peer => (.taken [] false, peer)⟩

/-- A process that has printed all it ever prints: among texts of the program there is a reply to a
question that nobody has asked, one to the second question and one each to the first and the third. -/
def spoken : EngineProcess Unit :=
  let text (s : String) : EngineMessage := .notification "output" (.obj [("text", .str s)])
  ⟨1, ⟨[.reply ⟨99, .null, none⟩, text "a", .reply ⟨1, StepResult.progressed.toJson, none⟩,
    text "b", .reply ⟨2, .null, none⟩, .reply ⟨3, StepResult.completed.toJson, none⟩, text "c"],
    [], false⟩, (), none⟩

/-- Two runs with a request to terminate between them get their own replies and texts, and a last
question finds the process gone. -/
theorem spoken_unmixed :
    let asks : List EngineCall := [.eval .next [], .terminate, .eval .continue [4], .stackFrames]
    spoken.nextId = 1 ∧ Takes silent spoken (EngineCall.lines 1 asks) ∧
      Unmixed silent spoken asks ∧
      (engine silent).answer (.eval .next []) spoken = (["a"], .ok .progressed) ∧
      (engine silent).answer (.eval .continue [4]) (spoken.asked silent (asks.take 2)) =
        (["b"], .ok .completed) ∧
      (engine silent).answer .stackFrames (spoken.asked silent (asks.take 3)) = .error .exited := by
  have takes (ls : List String) : Takes silent spoken ls := by
    intro earlier line later _ refused
    cases refused
  exact ⟨rfl, takes _, asked_unmixed rfl (takes _), rfl, rfl, rfl⟩

end EngineProcess

end QuantumDebug
