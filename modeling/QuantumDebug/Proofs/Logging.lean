import Mathlib.Data.List.TakeDrop
import QuantumDebug.Engine.Wire
import QuantumDebug.Panel
import QuantumDebug.Proofs.Printing

/-!
The log of a panel. A file that refuses its first writes holds, after any updates, one line for each
update it has taken, in their order. Updates that it refuses leave nothing behind, not even a part
of a line. A line gives its update back exactly if the circuit nests two levels less than a text may:
an update stands around its circuit with two levels of its own.
-/

namespace QuantumDebug

/-- Sends updates one after another: which of them the panel takes, and the panel then. -/
def Panel.run {π : Type} (P : Panel π) (p : π) : List PanelUpdate → List Bool × π
  | [] => ([], p)
  | u :: us => ((P.update u p).1 :: (P.run (P.update u p).2 us).1, (P.run (P.update u p).2 us).2)

namespace PanelUpdate

def lines (us : List PanelUpdate) : String := String.join (us.map line)

lemma line_toList (u : PanelUpdate) : u.line.toList = u.toJson.chars ++ ['\n'] := by
  rw [line, String.toList_append, Json.text, String.toList_ofList]
  rfl

lemma newline_notMem (u : PanelUpdate) : '\n' ∉ u.toJson.chars := by
  intro h
  have hhigh := Json.plain_chars u.toJson '\n' h
  revert hhigh
  decide

lemma splitOn_lines (us : List PanelUpdate) :
    (lines us).toList.splitOn '\n' = us.map (·.toJson.chars) ++ [[]] := by
  rw [lines, String.toList_join, List.flatMap_map]
  induction us with
  | nil => rfl
  | cons u us ih =>
    have hline : u.toJson.chars.splitOn '\n' = [u.toJson.chars] :=
      List.splitOn_eq_singleton (newline_notMem u)
    have hsplit : ∀ rest, (u.toJson.chars ++ '\n' :: rest).splitOn '\n'
        = u.toJson.chars.splitOn '\n' ++ rest.splitOn '\n' := by
      intro rest
      exact List.splitOnP_append_cons _ _ rfl
    rw [List.flatMap_cons, line_toList, List.append_assoc, List.singleton_append, hsplit, hline, ih]
    rfl

lemma readsBack {depth : Nat} (hdepth : 0 < depth) {u : PanelUpdate}
    (h : u.circuit.ReadsBack depth) : u.toJson.ReadsBack (depth + 2) := by
  have hstate : u.stateJson.ReadsBack (depth + 1) := by
    apply Json.ReadsBack.obj hdepth
    cases hfailure : u.failure <;>
      simp [Json.optional, h, Json.ReadsBack.str, Json.ReadsBack.bool]
  apply Json.ReadsBack.obj (Nat.succ_pos depth)
  simp [hstate, Json.ReadsBack.str, Json.ReadsBack.bool]

lemma nesting_toJson (u : PanelUpdate) : u.toJson.nesting = u.circuit.nesting + 2 := by
  cases hfailure : u.failure <;>
    simp [toJson, stateJson, hfailure, Json.optional, Json.nesting, Json.membersNesting]

/-- **An update is read back from its line** exactly if its circuit leaves two levels. -/
theorem parse?_toJson {u : PanelUpdate} (h : Json.parse? u.circuit.text = some u.circuit) :
    Json.parse? u.toJson.text = some u.toJson ↔ u.circuit.nesting + 2 < Json.depthLimit := by
  have hlimit : Json.depthLimit = 126 + 2 := rfl
  rw [Json.parse?_text] at h ⊢
  constructor
  · intro hline
    rw [← nesting_toJson]
    exact (hline.iff_nesting (by decide)).mp hline
  · intro hnests
    have hcircuit : u.circuit.ReadsBack 126 := (h.iff_nesting (by decide)).mpr (by omega)
    exact u.readsBack (by decide) hcircuit

lemma annotation (u : PanelUpdate) :
    (u.toJson.get? "state").bind (·.get? "errorAnnotation") = u.failure.map .str := by
  cases hfailure : u.failure <;>
    simp [toJson, stateJson, hfailure, Json.get?, Json.lookup, Json.optional]

end PanelUpdate

namespace LogPanel

variable {text : String} {written : Bool} {n : Nat}

lemma update_refused (u : PanelUpdate) :
    panel.update u ⟨⟨text, n + 1⟩, written⟩ = (false, ⟨⟨text, n⟩, written⟩) := rfl

lemma update_taken (u : PanelUpdate) :
    panel.update u ⟨⟨text, 0⟩, written⟩ = (true, ⟨⟨text ++ u.line, 0⟩, true⟩) := by
  simp [panel, update, LogFile.writeAll, LogFile.write, PanelUpdate.line, String.append_assoc]

lemma run_taken (us : List PanelUpdate) :
    panel.run ⟨⟨text, 0⟩, written⟩ us
      = (List.replicate us.length true,
        ⟨⟨text ++ PanelUpdate.lines us, 0⟩, written || decide (0 < us.length)⟩) := by
  induction us generalizing text written with
  | nil => simp [Panel.run, PanelUpdate.lines]
  | cons u us ih =>
    simp [Panel.run, update_taken, ih, PanelUpdate.lines, List.replicate_succ, String.append_assoc]

/-- What any updates leave of a file that refuses so many writes. -/
lemma run_eq (us : List PanelUpdate) :
    panel.run ⟨⟨text, n⟩, written⟩ us
      = (List.replicate (min n us.length) false ++ List.replicate (us.length - n) true,
        ⟨⟨text ++ PanelUpdate.lines (us.drop n), n - us.length⟩,
          written || decide (n < us.length)⟩) := by
  induction us generalizing n with
  | nil => simp [Panel.run, PanelUpdate.lines]
  | cons u us ih =>
    cases n with
    | zero => simpa using run_taken (u :: us)
    | succ n =>
      have hmin : min (n + 1) (us.length + 1) = min n us.length + 1 := by omega
      simp [Panel.run, update_refused, ih, hmin, List.replicate_succ]

/-- A log as it is after updates: those that find the file in order are in it, and no others. -/
structure Faithful (f : LogFile) (us : List PanelUpdate) : Prop where
  /-- As many updates are refused as the file refuses writes, and then all are taken. -/
  answers : (panel.run (onFile f) us).1
    = List.replicate (min f.failures us.length) false
      ++ List.replicate (us.length - f.failures) true
  /-- Refused updates write nothing, and the panel does not count as showing. -/
  refused : ∀ n ≤ f.failures, (panel.run (onFile f) (us.take n)).2.file.text = f.text ∧
    panel.isOpen (panel.run (onFile f) (us.take n)).2 = false
  /-- From the first update that is taken the panel counts as showing. -/
  showing : ∀ n, f.failures < n → n ≤ us.length →
    panel.isOpen (panel.run (onFile f) (us.take n)).2 = true
  /-- What is written is the text of the updates taken. -/
  text : (panel.run (onFile f) us).2.file.text
    = f.text ++ PanelUpdate.lines (us.drop f.failures)
  /-- That text is one line for each of them, ended by a line break. -/
  lines : (PanelUpdate.lines (us.drop f.failures)).toList.splitOn '\n'
    = (us.drop f.failures).map (·.toJson.chars) ++ [[]]
  /-- No control character stands in a line. -/
  plain : ∀ u ∈ us, Json.Plain u.toJson.chars
  /-- A line gives its update back exactly if the circuit nests at most 125 levels deep. -/
  reads : ∀ u ∈ us, Json.parse? u.toJson.text = some u.toJson ↔
    u.circuit.nesting + 2 < Json.depthLimit
  /-- It tells of a failure exactly if the update does. -/
  annotated : ∀ u ∈ us,
    (u.toJson.get? "state").bind (·.get? "errorAnnotation") = u.failure.map .str

/-- **The log is faithful**, for updates whose circuits are read back as they are printed. -/
theorem log_faithful (f : LogFile) (us : List PanelUpdate)
    (hprinted : ∀ u ∈ us, Json.parse? u.circuit.text = some u.circuit) : Faithful f us where
  answers := by rw [onFile, run_eq]
  refused := by
    intro n hn
    have hnone : (us.take n).drop f.failures = [] := by simp [List.drop_take]; omega
    have hshort : ¬f.failures < (us.take n).length := by simp; omega
    rw [onFile, run_eq, hnone]
    simpa [PanelUpdate.lines, panel] using hshort
  showing := by
    intro n hlow hhigh
    rw [onFile, run_eq]
    simp [panel]
    omega
  text := by rw [onFile, run_eq]
  lines := PanelUpdate.splitOn_lines _
  plain := fun u _ => Json.plain_chars u.toJson
  reads := fun u hu => PanelUpdate.parse?_toJson (hprinted u hu)
  annotated := fun u _ => u.annotation

/-- A picture after a fault: its texts have line breaks, quotes and a control character. -/
def faultPicture : PanelUpdate where
  profile := "a \"profile\""
  program := "C:\\work\\main.qs"
  reveal := true
  circuit := .obj [("qubits", .arr [.int 0, .int 1]), ("name", .str "first\nsecond")]
  failure := some "  × division by zero\r\n\t\x01  help: none\n"

theorem faultPicture_logged : Json.parse? faultPicture.circuit.text = some faultPicture.circuit ∧
    faultPicture.circuit.nesting + 2 < Json.depthLimit ∧
    Faithful ⟨"", 1⟩ [faultPicture, faultPicture] :=
  have printed : Json.parse? faultPicture.circuit.text = some faultPicture.circuit := by
    decide +kernel
  ⟨printed, by decide, log_faithful ⟨"", 1⟩ [faultPicture, faultPicture] (by simpa using printed)⟩

def nested : Nat → Json
  | 0 => .arr []
  | n + 1 => .arr [nested n]

def deepPicture : PanelUpdate := ⟨"", "", true, nested 125, none⟩

/-- An engine can answer with this circuit, and its text is read back. The log takes the picture,
and there is a line in it that cannot be read. -/
theorem deepPicture_unread :
    let reply := "\x7b\"id\":1,\"result\":" ++ deepPicture.circuit.text ++ "\x7d"
    let logged := panel.run (onFile ⟨"", 0⟩) [deepPicture]
    EngineMessage.ofLine reply = some (.reply ⟨1, deepPicture.circuit, none⟩) ∧
      Json.parse? deepPicture.circuit.text = some deepPicture.circuit ∧
      logged.1 = [true] ∧ logged.2.file.text = deepPicture.toJson.text ++ "\n" ∧
      Json.parse? deepPicture.toJson.text = none := by
  refine ⟨?_, ?_, ?_, ?_, ?_⟩ <;> decide +kernel

end LogPanel

end QuantumDebug
