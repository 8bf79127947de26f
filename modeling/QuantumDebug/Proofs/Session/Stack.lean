import QuantumDebug.Proofs.Matching
import QuantumDebug.Proofs.Session.Programs
import QuantumDebug.Proofs.Sources

/-!
The stack as the client sees it. The frames of the engine come in the opposite order, numbered from
one, with the entry of the program below them; what the client is told of a place leads back to the
place. What it is told of a source leads back to the source, except where a URL is not what its own
text is read as.
-/

namespace QuantumDebug

open World

variable {S : Surroundings}

namespace Debugger

variable {d : Debugger S}

/-! ### Frames -/

lemma numberFrames_eq (d : Debugger S) (first : Int) (fs : List EngineFrame) :
    d.numberFrames first fs = fs.mapIdx fun i f => d.clientFrame (first + i) f := by
  induction fs generalizing first with
  | nil => rfl
  | cons f fs ih =>
    have hnumber (i : Nat) : first + 1 + (i : Int) = first + (i + 1 : Nat) := by omega
    rw [numberFrames, ih, List.mapIdx_cons]
    simp only [hnumber, Int.natCast_zero, Int.add_zero]

@[simp] lemma clientFrames_length (d : Debugger S) (frames : List EngineFrame) :
    (d.clientFrames frames).length = frames.length + 1 := by
  simp [clientFrames, numberFrames_eq]

/-- The frames that the engine names come innermost first, numbered from one. -/
lemma clientFrames_get? (d : Debugger S) {frames : List EngineFrame} (i : Fin frames.length) :
    (d.clientFrames frames)[i.val]? = some (d.clientFrame (i + 1) (frames.get i.rev)) := by
  have hrev : frames.reverse[i.val]? = some (frames.get i.rev) := by
    have hplace : frames.length - 1 - i.val = i.rev.val := by
      rw [Fin.val_rev]
      omega
    rw [List.getElem?_reverse i.isLt, hplace, List.getElem?_eq_getElem i.rev.isLt]
    rfl
  rw [clientFrames, numberFrames_eq, List.getElem?_append_left (by simp), List.getElem?_mapIdx,
    hrev, Option.map_some, Int.add_comm]

lemma clientFrames_last (d : Debugger S) (frames : List EngineFrame) :
    (d.clientFrames frames)[frames.length]? = some entryFrame := by
  simp [clientFrames, numberFrames_eq]

lemma clientFrames_ids (d : Debugger S) (frames : List EngineFrame) :
    (d.clientFrames frames).map StackFrame.id =
      (List.range frames.length).map (fun i : Nat => (1 : Int) + i) ++ [0] := by
  have hids : (d.numberFrames 1 frames.reverse).map StackFrame.id =
      (List.range frames.length).map fun i : Nat => (1 : Int) + i := by
    rw [numberFrames_eq]
    refine List.ext_getElem (by simp) fun i hi hi' => ?_
    simp only [List.getElem_map, List.getElem_mapIdx, List.getElem_range, clientFrame]
  rw [clientFrames, List.map_append, hids]
  rfl

lemma clientFrames_nodup (d : Debugger S) (frames : List EngineFrame) :
    ((d.clientFrames frames).map StackFrame.id).Nodup := by
  rw [clientFrames_ids, List.nodup_append]
  refine ⟨List.nodup_range.map fun i j heq => ?_, by simp, fun number hnumber zero hzero => ?_⟩
  · exact Int.ofNat.inj (Int.add_left_cancel heq)
  · obtain ⟨i, -, rfl⟩ := List.mem_map.mp hnumber
    obtain rfl := List.mem_singleton.mp hzero
    omega

/-! ### What a frame tells -/

/-- What the client is told of a frame of the engine, under a number. -/
structure Portrays (d : Debugger S) (f : EngineFrame) (number : Int) (shown : StackFrame) :
    Prop where
  id : shown.id = number
  name : shown.name = f.name
  /-- The engine's numbers for where the frame starts are those that it has sent. -/
  first : (⟨d.coords.lineToEngine shown.line, d.coords.columnToEngine shown.column⟩ : Position) =
    f.range.first
  /-- So are those for where it ends. -/
  last : ∃ line column, shown.endLine = some line ∧ shown.endColumn = some column ∧
    (⟨d.coords.lineToEngine line, d.coords.columnToEngine column⟩ : Position) = f.range.last
  /-- If the text that the engine gives for the source names one, that has a scheme of some length.
  The client's name for it leads back to it if it is a bare path or the text of a URL that reads as
  the URL, and only then. -/
  named : ∀ url, d.program.sources.resolve f.source = some url →
    1 < url.scheme.length ∧
      (shown.source.bind d.program.sources.resolveSource = some url ↔
        url.Canonical ∨ (d.program.sources.pathOf? url).isSome = true)
  /-- If it names none, the client is given the text as it is. -/
  unnamed : d.program.sources.resolve f.source = none →
    shown.source = some { Source.unnamed with path := some f.source }

lemma clientFrame_portrays (tidy : d.program.sources.Tidy) (number : Int) (f : EngineFrame) :
    Portrays d f number (d.clientFrame number f) where
  id := rfl
  name := rfl
  first := d.coords.position_toClient f.range.first
  last := ⟨_, _, rfl, rfl, d.coords.position_toClient f.range.last⟩
  named url named := by
    have long := tidy.scheme_of_resolve named
    refine ⟨long, ?_⟩
    show d.program.sources.resolveSource (d.frameSource f.source) = some url ↔ _
    rw [frameSource, named]
    exact tidy.resolve_clientPath_iff long
  unnamed unnamed := by
    show some (d.frameSource f.source) = _
    rw [frameSource, unnamed]

/-! ### Sessions -/

lemma calls_tidy (h : d.Fresh) (cs : List Call) : (d.calls cs).program.sources.Tidy := by
  refine calls_program (P := fun p => p.sources.Tidy) ?_
    (fun hp adjusts => adjusts.adjusted.sources ▸ hp) (fun hp _ => hp) (fun p w hp => ?_) cs
  · rw [h.program]
    exact SourceRegistry.tidy_empty
  · rcases hv : p.verdict w with e | urls
    · rw [Program.load_error hv]
      exact hp
    · rw [Program.load_sources hv]
      exact SourceRegistry.run_tidy _

/-- What the client is shown of the frames of the engine. -/
structure Pictures (d : Debugger S) (frames : List EngineFrame) (shown : List StackFrame) :
    Prop where
  /-- There is one frame more than the engine names, and the client is told so. -/
  length : shown.length = frames.length + 1
  total : (ResponseBody.stackTrace shown).toJson = some (.obj
    [("stackFrames", .list StackFrame.toJson shown), ("totalFrames", .nat (frames.length + 1))])
  /-- The frames come innermost first, numbered from one. -/
  frame : ∀ i : Fin frames.length, ∃ g, shown[i.val]? = some g ∧
    Portrays d (frames.get i.rev) (i + 1) g
  /-- The entry of the program comes last; it has no source and the number nought. -/
  entry : ∃ g, shown[frames.length]? = some g ∧ g.id = 0 ∧ g.name = "entry" ∧ g.source = none
  distinct : (shown.map StackFrame.id).Nodup
  /-- Frames whose texts name one source are shown with the same source. -/
  shared : ∀ (i j : Fin frames.length) url,
    d.program.sources.resolve (frames.get i.rev).source = some url →
    d.program.sources.resolve (frames.get j.rev).source = some url →
    shown[i.val]?.map StackFrame.source = shown[j.val]?.map StackFrame.source

lemma clientFrames_pictures (tidy : d.program.sources.Tidy) (frames : List EngineFrame) :
    Pictures d frames (d.clientFrames frames) where
  length := d.clientFrames_length frames
  total := by rw [ResponseBody.toJson, clientFrames_length]
  frame i := ⟨_, d.clientFrames_get? i, clientFrame_portrays tidy _ _⟩
  entry := ⟨_, d.clientFrames_last frames, rfl, rfl, rfl⟩
  distinct := d.clientFrames_nodup frames
  shared i j url named named' := by
    rw [d.clientFrames_get? i, d.clientFrames_get? j]
    simp only [Option.map_some, clientFrame, frameSource, named, named']

/-- What the client is shown when the engine answers: its frames, or the entry alone if it fails. -/
def Shows (d : Debugger S) (shown : List StackFrame) : Except EngineError (List EngineFrame) → Prop
  | .ok frames => Pictures d frames shown
  | .error _ => shown = [entryFrame]

lemma clientFrames_shows (tidy : d.program.sources.Tidy)
    (answer : Except EngineError (List EngineFrame)) :
    d.Shows (d.clientFrames (answer.toOption.getD [])) answer := by
  cases answer with
  | error e => rfl
  | ok frames => exact clientFrames_pictures tidy frames

/-- **The stack is shown as the engine has it.** Places lead back to it, and so do sources unless
the text of a URL is read as another; an engine that fails shows the entry alone. -/
theorem calls_stackTrace (h : d.Fresh) (cs : List Call) (now later : Nat) {r : Request}
    (command : r.command = .stackTrace) :
    ∃ shown ok, (d.calls cs).effects (.request now later r) =
        [.engine .stackFrames, r.answer (.success (.stackTrace shown)) ok] ∧
      (d.calls cs).Shows shown (S.engine.stackFrames (d.calls cs).world.engine).1 := by
  have tidy := calls_tidy h cs
  generalize d.calls cs = d₀ at tidy ⊢
  let asked := d₀.world.playAll [.engine .stackFrames]
  have hcall : d₀.call (.request now later r) =
      ({ d₀ with world := asked } : Debugger S).respond r (.stackTrace (d₀.clientFrames
        ((S.engine.stackFrames d₀.world.engine).1.toOption.getD []))) := by
    rw [call, handle, command]
    rfl
  have hasked : asked = d₀.world.playAll [.engine .stackFrames] := rfl
  obtain ⟨ok, -, -, heffects⟩ := call_responds hcall hasked
  exact ⟨_, ok, heffects, clientFrames_shows tidy _⟩

end Debugger

/-- A file, a source whose URL is written in a roundabout way, and a text that names nothing. -/
def nestedFrames : List EngineFrame :=
  [⟨"Main", "file:///main.qs", ⟨⟨2, 4⟩, ⟨2, 12⟩⟩⟩,
    ⟨"Helper", "GIT:/std/../lib.qs", ⟨⟨0, 0⟩, ⟨4294967295, 4294967295⟩⟩⟩,
    ⟨"Length", "core/qir.qs", ⟨⟨5, 0⟩, ⟨5, 9⟩⟩⟩]

def Surroundings.halted (frames : List EngineFrame) : Surroundings where
  EngineState := Script
  PanelState := Unit
  ClientState := Unit
  engine := { Engine.scripted with stackFrames := fun s => (.ok frames, s) }
  panel := .absent
  client := .attentive

namespace Debugger

def halted (frames : List EngineFrame) : Debugger (.halted frames) :=
  .start ⟨⟨[.ok [.localFile "/main.qs"]], []⟩, (), (), []⟩ "" 1000

lemma halted_fresh (frames : List EngineFrame) : (halted frames).Fresh := ⟨_, _, _, rfl, rfl⟩

/-- The stack is looked at by a client that counts lines from one and columns from nought. -/
theorem nested_stackTrace :
    let d := (halted nestedFrames).calls
      [.request 0 0 ⟨1, .initializeSession none (some false) none⟩, .request 1 1 (.plainLaunch 2)]
    (halted nestedFrames).Fresh ∧
      (∀ f ∈ nestedFrames, ∀ url ∈ d.program.sources.resolve f.source, url.Canonical) ∧
      (∃ shown ok, d.effects (.request 2 2 ⟨3, .stackTrace⟩) =
        [.engine .stackFrames, .message (.response ⟨3, .success (.stackTrace shown)⟩) ok] ∧
          d.Shows shown (.ok nestedFrames)) ∧
      d.effects (.request 2 2 ⟨3, .stackTrace⟩) =
        [.engine .stackFrames, .message (.response ⟨3, .success (.stackTrace
          [⟨1, "Length", some { Source.unnamed with path := some "core/qir.qs" },
              6, 0, some 6, some 9⟩,
            ⟨2, "Helper", some { Source.unnamed with
              name := some "lib.qs", path := some "git:/lib.qs" },
              1, 0, some 4294967296, some 4294967295⟩,
            ⟨3, "Main", some { Source.unnamed with
              name := some "main.qs", path := some "/main.qs" },
              3, 4, some 3, some 12⟩,
            entryFrame])⟩) true] := by
  intro d
  have hfresh := halted_fresh nestedFrames
  exact ⟨hfresh, by decide +kernel, calls_stackTrace hfresh _ 2 2 rfl, by decide +kernel⟩

/-- A file of another host whose path starts with what reads as a drive. A second slash keeps the
drive from being read as one, and is not written again. -/
def strayFrame : EngineFrame := ⟨"Main", "file://[::1]//C|/x", ⟨⟨2, 4⟩, ⟨2, 12⟩⟩⟩

/-- What the client is told of such a file is read once more, and then the drive is one and the host
is dropped. -/
theorem strayFrame_strays :
    let d := (halted [strayFrame]).calls [.request 0 0 (.plainLaunch 1)]
    let url : Url := { Url.localFile "/C|/x" with
      authority := some ⟨"", none, .ipv6 [0, 0, 0, 0, 0, 0, 0, 1], none⟩ }
    (halted [strayFrame]).Fresh ∧ d.program.sources.resolve strayFrame.source = some url ∧
      1 < url.scheme.length ∧
      d.effects (.request 1 1 ⟨2, .stackTrace⟩) =
        [.engine .stackFrames, .message (.response ⟨2, .success (.stackTrace
          [⟨1, "Main", some { Source.unnamed with
              name := some "x", path := some "file://[::1]/C|/x" },
              3, 5, some 3, some 13⟩,
            entryFrame])⟩) true] ∧
      d.program.sources.resolve "file://[::1]/C|/x" = some (.localFile "/C:/x") ∧
      Url.localFile "/C:/x" ≠ url :=
  ⟨halted_fresh _, by decide +kernel⟩

end Debugger

end QuantumDebug
