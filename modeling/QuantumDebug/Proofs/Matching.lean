import Mathlib.Algebra.Order.Ring.Int
import Mathlib.Data.Int.ConditionallyCompleteOrder
import Mathlib.Data.List.FinRange
import Mathlib.Data.Prod.Lex
import Mathlib.Order.ConditionallyCompleteLattice.Basic
import QuantumDebug.Proofs.Session.Scripted

/-!
Which places a request asks for, said in the client's numbers alone. A place matches if it starts on
the line of the request and, where a column is given, between that column and the end of the
request. Lines and columns are compared in the engine's numbers, which makes no difference as long
as the engine has all the numbers that the request gives.
-/

namespace QuantumDebug

variable {S : Surroundings}

/-! ### Numbers -/

section Numbers

variable {fromOne : Bool} {n : Int} {a b : UInt32}

/-- A number of the client for which the engine has one. -/
def Reaches (fromOne : Bool) (n : Int) : Prop := base fromOne ≤ n ∧ n ≤ base fromOne + (2 ^ 32 - 1)

instance (fromOne : Bool) (n : Int) : Decidable (Reaches fromOne n) :=
  inferInstanceAs (Decidable (_ ∧ _))

lemma toNat_toEngine (fromOne : Bool) (n : Int) :
    (toEngine fromOne n).toNat = (n - base fromOne).toNat % 2 ^ 32 :=
  UInt32.toNat_ofNat'

lemma toClient_le : toClient fromOne a ≤ toClient fromOne b ↔ a ≤ b := by
  rw [toClient, toClient, UInt32.le_iff_toNat_le]
  omega

lemma toClient_inj : toClient fromOne a = toClient fromOne b ↔ a = b := by
  rw [toClient, toClient, ← UInt32.toNat_inj]
  omega

lemma toClient_lt : toClient fromOne a < toClient fromOne b ↔ a < b := by
  rw [toClient, toClient, UInt32.lt_iff_toNat_lt]
  omega

lemma reaches_toClient (a : UInt32) : Reaches fromOne (toClient fromOne a) := by
  have hbound := a.toNat_lt
  rw [Reaches, toClient]
  omega

lemma le_greatest (a : UInt32) : a ≤ 0xFFFFFFFF :=
  UInt32.le_iff_toNat_le.mpr (Nat.le_pred_of_lt a.toNat_lt)

lemma toClient_toEngine (h : Reaches fromOne n) : toClient fromOne (toEngine fromOne n) = n := by
  obtain ⟨low, high⟩ := h
  have hword : (n - base fromOne).toNat % 2 ^ 32 = (n - base fromOne).toNat :=
    Nat.mod_eq_of_lt (by omega)
  rw [toClient, toNat_toEngine, hword]
  omega

lemma toEngine_toClient (a : UInt32) : toEngine fromOne (toClient fromOne a) = a :=
  toClient_inj.mp (toClient_toEngine (reaches_toClient a))

end Numbers

lemma Coordinates.position_toClient (coords : Coordinates) (p : Position) :
    (⟨coords.lineToEngine (coords.lineToClient p.line),
      coords.columnToEngine (coords.columnToClient p.column)⟩ : Position) = p := by
  have hline : coords.lineToEngine (coords.lineToClient p.line) = p.line := toEngine_toClient _
  have hcolumn : coords.columnToEngine (coords.columnToClient p.column) = p.column :=
    toEngine_toClient _
  rw [hline, hcolumn]

/-! ### One place -/

namespace RequestedBreakpoint

/-- The last column that a request reaches on its last line: the one it gives, none where it gives
only a line, and its first column otherwise. -/
def limit (r : RequestedBreakpoint) (column : Int) : WithTop ℤ :=
  match r.endColumn, r.endLine with
  | some last, _ => last
  | none, some _ => ⊤
  | none, none => column

/-- A place that a request asks for: it starts on the line of the request and, if a column was
given, neither before that column nor after the end of the request. -/
def Wants (r : RequestedBreakpoint) (place : ClientRange) : Prop :=
  place.line = r.line ∧ ∀ column ∈ r.column,
    toLex (r.line, column) ≤ toLex (place.line, place.column) ∧
      toLex (place.line, (place.column : WithTop ℤ)) ≤
        toLex (r.endLine.getD r.line, r.limit column)

instance (r : RequestedBreakpoint) (place : ClientRange) : Decidable (r.Wants place) :=
  inferInstanceAs (Decidable (_ ∧ _))

/-- The engine has all numbers that a request gives, its first line aside. -/
structure InReach (coords : Coordinates) (r : RequestedBreakpoint) : Prop where
  column : ∀ n ∈ r.column, Reaches coords.columnsFromOne n
  endLine : ∀ n ∈ r.endLine, Reaches coords.linesFromOne n
  endColumn : ∀ n ∈ r.endColumn, Reaches coords.columnsFromOne n

instance (coords : Coordinates) (r : RequestedBreakpoint) : Decidable (r.InReach coords) :=
  decidable_of_iff
    ((∀ n ∈ r.column, Reaches coords.columnsFromOne n) ∧
      (∀ n ∈ r.endLine, Reaches coords.linesFromOne n) ∧
      ∀ n ∈ r.endColumn, Reaches coords.columnsFromOne n)
    ⟨fun ⟨column, endLine, endColumn⟩ => ⟨column, endLine, endColumn⟩,
      fun h => ⟨h.column, h.endLine, h.endColumn⟩⟩

end RequestedBreakpoint

lemma Position.le_iff (coords : Coordinates) (p q : Position) :
    p ≤ q ↔ toLex (coords.lineToClient p.line, coords.columnToClient p.column) ≤
      toLex (coords.lineToClient q.line, coords.columnToClient q.column) := by
  rw [Prod.Lex.toLex_le_toLex]
  exact or_congr toClient_lt.symm (and_congr toClient_inj.symm toClient_le.symm)

namespace RequestedBreakpoint

variable {coords : Coordinates} {r : RequestedBreakpoint}

lemma le_columnToEngine {m : Int} (hm : Reaches coords.columnsFromOne m) (n : UInt32) :
    n ≤ coords.columnToEngine m ↔ coords.columnToClient n ≤ m := by
  have hback : coords.columnToClient (coords.columnToEngine m) = m := toClient_toEngine hm
  have hclient : n ≤ coords.columnToEngine m ↔
      coords.columnToClient n ≤ coords.columnToClient (coords.columnToEngine m) :=
    toClient_le.symm
  rw [hclient, hback]

/-- On the last line of a request the engine stops comparing where the client does. The greatest of
its numbers stands for no limit. -/
lemma InReach.le_lastColumn (reach : r.InReach coords) {column : Int}
    (given : r.column = some column) (n : UInt32) :
    n ≤ r.lastColumn coords column ↔ (coords.columnToClient n : WithTop ℤ) ≤ r.limit column := by
  unfold lastColumn limit
  cases hendColumn : r.endColumn with
  | some last =>
    dsimp only
    rw [le_columnToEngine (reach.endColumn last hendColumn), WithTop.coe_le_coe]
  | none =>
    cases r.endLine with
    | some line => exact iff_of_true (le_greatest n) le_top
    | none =>
      dsimp only
      rw [le_columnToEngine (reach.column column given), WithTop.coe_le_coe]

lemma InReach.first_le (reach : r.InReach coords) {column : Int} (given : r.column = some column)
    {p : Position} (hline : coords.lineToClient p.line = r.line) :
    (⟨coords.lineToEngine r.line, coords.columnToEngine column⟩ : Position) ≤ p ↔
      toLex (r.line, column) ≤ toLex (coords.lineToClient p.line, coords.columnToClient p.column) := by
  have hfirst : coords.lineToClient (coords.lineToEngine r.line) = r.line :=
    toClient_toEngine (hline ▸ reaches_toClient p.line)
  have hcolumn : coords.columnToClient (coords.columnToEngine column) = column :=
    toClient_toEngine (reach.column column given)
  rw [Position.le_iff coords, hfirst, hcolumn]

lemma InReach.le_last (reach : r.InReach coords) {column : Int} (given : r.column = some column)
    {p : Position} (hline : coords.lineToClient p.line = r.line) :
    p ≤ ⟨coords.lineToEngine (r.endLine.getD r.line), r.lastColumn coords column⟩ ↔
      toLex (coords.lineToClient p.line, (coords.columnToClient p.column : WithTop ℤ)) ≤
        toLex (r.endLine.getD r.line, r.limit column) := by
  have hend : coords.lineToClient (coords.lineToEngine (r.endLine.getD r.line)) =
      r.endLine.getD r.line := by
    cases hlast : r.endLine with
    | some last => exact toClient_toEngine (reach.endLine last hlast)
    | none => exact toClient_toEngine (hline ▸ reaches_toClient p.line)
  have hbefore : p.line < coords.lineToEngine (r.endLine.getD r.line) ↔
      coords.lineToClient p.line < r.endLine.getD r.line := by
    conv_rhs => rw [← hend]
    exact toClient_lt.symm
  have hsame : p.line = coords.lineToEngine (r.endLine.getD r.line) ↔
      coords.lineToClient p.line = r.endLine.getD r.line := by
    conv_rhs => rw [← hend]
    exact toClient_inj.symm
  rw [Prod.Lex.toLex_le_toLex]
  exact or_congr hbefore (and_congr hsame (reach.le_lastColumn given p.column))

lemma accepts_iff_of_target {stretch : Range} (h : r.target coords = some stretch)
    (b : EngineBreakpoint) :
    r.accepts coords (.ofEngine coords b) = true ↔
      coords.lineToClient b.range.first.line = r.line ∧
        stretch.first ≤ b.range.first ∧ b.range.first ≤ stretch.last := by
  simp only [accepts, h, Range.contains, Bool.and_eq_true, beq_iff_eq, decide_eq_true_eq]
  rfl

/-- **The engine's numbers match what the client's numbers say.** -/
lemma InReach.accepts_iff (reach : r.InReach coords) (b : EngineBreakpoint) :
    r.accepts coords (.ofEngine coords b) = true ↔ r.Wants (coords.rangeToClient b.range) := by
  cases given : r.column with
  | none => simp [accepts, target, Wants, Candidate.ofEngine, given]
  | some column =>
    have hstretch : r.target coords =
        some ⟨⟨coords.lineToEngine r.line, coords.columnToEngine column⟩,
          ⟨coords.lineToEngine (r.endLine.getD r.line), r.lastColumn coords column⟩⟩ := by
      rw [target, given]
      rfl
    rw [accepts_iff_of_target hstretch, Wants, given]
    simp only [Option.mem_def, Option.some.injEq, forall_eq']
    exact and_congr_right fun hline =>
      and_congr (reach.first_le given hline) (reach.le_last given hline)

end RequestedBreakpoint

/-! ### Many requests -/

/-- Which request wants which place of the engine, both by where they stand in their lists. The pairs
come request by request and, for one request, in the order of the engine. -/
structure Pairs (coords : Coordinates) (requested : List RequestedBreakpoint)
    (bs : List EngineBreakpoint) (pairs : List (Fin requested.length × Fin bs.length)) : Prop where
  ordered : pairs.Pairwise fun p q => toLex p < toLex q
  mem_iff : ∀ i j, (i, j) ∈ pairs ↔
    (requested.get i).Wants (coords.rangeToClient (bs.get j).range)

section Pairs

variable (coords : Coordinates) (requested : List RequestedBreakpoint) (bs : List EngineBreakpoint)

def wantedBy (r : RequestedBreakpoint) : List (Fin bs.length) :=
  (List.finRange bs.length).filter fun j => r.Wants (coords.rangeToClient (bs.get j).range)

def pairs : List (Fin requested.length × Fin bs.length) :=
  (List.finRange requested.length).flatMap fun i =>
    (wantedBy coords bs (requested.get i)).map (i, ·)

lemma pairs_pairs : Pairs coords requested bs (pairs coords requested bs) where
  ordered := by
    rw [pairs, List.pairwise_flatMap]
    constructor
    · intro i _
      rw [List.pairwise_map]
      refine ((List.pairwise_lt_finRange _).filter _).imp fun hlt => ?_
      exact Prod.Lex.toLex_lt_toLex.mpr (.inr ⟨rfl, hlt⟩)
    · refine (List.pairwise_lt_finRange _).imp fun hlt p hp q hq => ?_
      obtain ⟨j, -, rfl⟩ := List.mem_map.mp hp
      obtain ⟨k, -, rfl⟩ := List.mem_map.mp hq
      exact Prod.Lex.toLex_lt_toLex.mpr (.inl hlt)
  mem_iff i j := by
    simp [pairs, wantedBy]

variable {coords requested bs}

lemma Pairs.countP {ps : List (Fin requested.length × Fin bs.length)}
    (h : Pairs coords requested bs ps) (j : Fin bs.length) :
    ps.countP (fun p => p.2 = j) =
      requested.countP fun r => r.Wants (coords.rangeToClient (bs.get j).range) := by
  let wants (i : Fin requested.length) : Bool :=
    (requested.get i).Wants (coords.rangeToClient (bs.get j).range)
  have once : ps.Nodup := h.ordered.imp fun hlt heq => hlt.ne (congrArg toLex heq)
  have same : (ps.filter fun p => p.2 = j).Perm
      (((List.finRange requested.length).filter wants).map (·, j)) := by
    refine (List.perm_ext_iff_of_nodup (once.filter _) ?_).mpr fun ⟨i, k⟩ => ?_
    · exact ((List.nodup_finRange _).filter _).map fun _ _ => congrArg Prod.fst
    · constructor
      · intro hleft
        obtain ⟨hmem, hj⟩ := List.mem_filter.mp hleft
        obtain rfl : k = j := of_decide_eq_true hj
        simpa [wants] using (h.mem_iff i k).mp hmem
      · intro hright
        obtain ⟨i', hi', heq⟩ := List.mem_map.mp hright
        obtain ⟨rfl, rfl⟩ := Prod.mk.inj heq
        simpa [wants, h.mem_iff] using hi'
  calc
    ps.countP (fun p => p.2 = j)
    _ = ((List.finRange requested.length).filter wants).length := by
      rw [List.countP_eq_length_filter, same.length_eq, List.length_map]
    _ = ((List.finRange requested.length).map requested.get).countP
        fun r => r.Wants (coords.rangeToClient (bs.get j).range) := by
      rw [List.countP_map, List.countP_eq_length_filter]
      rfl
    _ = requested.countP fun r => r.Wants (coords.rangeToClient (bs.get j).range) := by
      rw [List.map_get_finRange]

end Pairs

namespace Resolver

lemma filter_accepts {coords : Coordinates} {r : RequestedBreakpoint} (reach : r.InReach coords)
    (bs : List EngineBreakpoint) :
    (bs.map (Candidate.ofEngine coords)).filter (r.accepts coords) =
      (wantedBy coords bs r).map fun j => .ofEngine coords (bs.get j) := by
  have wants (b : EngineBreakpoint) : r.accepts coords (.ofEngine coords b) =
      decide (r.Wants (coords.rangeToClient b.range)) :=
    Bool.eq_iff_iff.mpr ((reach.accepts_iff b).trans (decide_eq_true_iff).symm)
  calc
    (bs.map (Candidate.ofEngine coords)).filter (r.accepts coords)
    _ = (((List.finRange bs.length).map bs.get).filter fun b =>
          r.Wants (coords.rangeToClient b.range)).map (Candidate.ofEngine coords) := by
      rw [List.map_get_finRange, List.filter_map]
      congr 2
      funext b
      exact wants b
    _ = (wantedBy coords bs r).map fun j => .ofEngine coords (bs.get j) := by
      rw [List.filter_map, List.map_map]
      rfl

lemma select_eq {coords : Coordinates} {requested : List RequestedBreakpoint}
    (reach : ∀ r ∈ requested, r.InReach coords) (bs : List EngineBreakpoint) :
    select coords requested (bs.map (Candidate.ofEngine coords)) =
      (pairs coords requested bs).map fun p => .ofEngine coords (bs.get p.2) := by
  calc
    select coords requested (bs.map (Candidate.ofEngine coords))
    _ = requested.flatMap fun r =>
          (wantedBy coords bs r).map fun j => .ofEngine coords (bs.get j) :=
      List.flatMap_congr fun r hr => filter_accepts (reach r hr) bs
    _ = (List.finRange requested.length).flatMap fun i =>
          (wantedBy coords bs (requested.get i)).map fun j => .ofEngine coords (bs.get j) := by
      conv_lhs => rw [← List.map_get_finRange requested, List.flatMap_map]
    _ = (pairs coords requested bs).map fun p => .ofEngine coords (bs.get p.2) := by
      simp only [pairs, List.map_flatMap, List.map_map, Function.comp_def]

/-- A resolver goes by given places in a source: the candidates behind them are kept, or nothing is
kept and the engine will name them. An engine that fails names none. -/
def GoesBy (r : Resolver) (source : Url) (w : World S) (bs : List EngineBreakpoint) : Prop :=
  match r.cache.get? source.text with
  | some cs => cs = bs.map (Candidate.ofEngine r.coords)
  | none => (S.engine.breakpoints source w.engine).1.toOption.getD [] = bs

lemma GoesBy.load_eq {r : Resolver} {source : Url} {w : World S} {bs : List EngineBreakpoint}
    (h : r.GoesBy source w bs) : (r.load source w).1 = bs.map (Candidate.ofEngine r.coords) := by
  cases hkept : r.cache.get? source.text with
  | some cs =>
    simp only [GoesBy, hkept] at h
    rw [load_kept hkept]
    exact h
  | none =>
    simp only [GoesBy, hkept] at h
    rw [load_unkept hkept, ← h]
    cases (S.engine.breakpoints source w.engine).1 <;> rfl

/-- What comes of requests for places of the engine. -/
structure Finds (coords : Coordinates) (requested : List RequestedBreakpoint)
    (bs : List EngineBreakpoint) (found : List Candidate) : Prop where
  /-- A request matches a place just if it wants it, by the client's numbers. -/
  accepts_iff : ∀ r ∈ requested, ∀ b, r.accepts coords (.ofEngine coords b) = true ↔
    r.Wants (coords.rangeToClient b.range)
  /-- The candidates are those behind the places that are wanted, in the order of the requests and
  then of the engine, each as often as there are requests that want it, and no others. -/
  found_eq : ∃ ps, Pairs coords requested bs ps ∧
    found = ps.map (fun p => .ofEngine coords (bs.get p.2)) ∧
    ∀ j, ps.countP (fun p => p.2 = j) =
      requested.countP fun r => r.Wants (coords.rangeToClient (bs.get j).range)

/-- **A resolver finds exactly what requests want**, by the client's numbers alone. -/
theorem resolve_finds_exactly {r : Resolver} {source : Url} {w : World S}
    {requested : List RequestedBreakpoint} {bs : List EngineBreakpoint}
    (reach : ∀ q ∈ requested, q.InReach r.coords) (goesBy : r.GoesBy source w bs) :
    Finds r.coords requested bs (r.resolve source requested w).1 where
  accepts_iff q hq b := (reach q hq).accepts_iff b
  found_eq := by
    have hfound : (r.resolve source requested w).1 =
        (pairs r.coords requested bs).map fun p => .ofEngine r.coords (bs.get p.2) := by
      rw [← select_eq reach, ← goesBy.load_eq]
      rfl
    have hpairs := pairs_pairs r.coords requested bs
    exact ⟨_, hpairs, hfound, hpairs.countP⟩

def farPlaces : List EngineBreakpoint :=
  [⟨1, ⟨⟨2, 4⟩, ⟨2, 12⟩⟩⟩, ⟨2, ⟨⟨2, 0xFFFFFFFF⟩, ⟨3, 0⟩⟩⟩, ⟨1, ⟨⟨2, 4⟩, ⟨2, 12⟩⟩⟩]

/-- The rest of a line, one column, a whole line up to its utmost end, no line at all, a line, and a
stretch that ends before it starts. -/
def farRequests : List RequestedBreakpoint :=
  [⟨3, some 6, some 3, none⟩, .atColumn 3 5, ⟨3, some 1, none, some 4294967296⟩, .onLine (-7),
    .onLine 3, ⟨3, some 5, some 2, some 9⟩]

theorem farRequests_find :
    (∀ q ∈ farRequests, q.InReach default) ∧
      (fresh default).GoesBy (.localFile "/main.qs")
        (Debugger.surveyed (fun _ => .ok farPlaces) ⟨[], []⟩).world farPlaces ∧
      Finds default farRequests farPlaces ((fresh default).resolve (.localFile "/main.qs")
        farRequests (Debugger.surveyed (fun _ => .ok farPlaces) ⟨[], []⟩).world).1 ∧
      ((fresh default).resolve (.localFile "/main.qs") farRequests
        (Debugger.surveyed (fun _ => .ok farPlaces) ⟨[], []⟩).world).1.map Candidate.id =
        [2, 1, 1, 1, 2, 1, 1, 2, 1] := by
  have reach : ∀ q ∈ farRequests, q.InReach default := by decide
  have goesBy : (fresh default).GoesBy (.localFile "/main.qs")
      (Debugger.surveyed (fun _ => .ok farPlaces) ⟨[], []⟩).world farPlaces := rfl
  exact ⟨reach, goesBy, resolve_finds_exactly reach goesBy, by decide +kernel⟩

end Resolver

end QuantumDebug
