import QuantumDebug.Proofs.Matching

/-!
Requests for a stretch and what is lost by making the stretch wider. What lies before the first line
or column counts as the first, but behind the greatest number of the engine the numbers begin anew.
A request that reaches so far in order to reach everything reaches next to nothing.
-/

namespace QuantumDebug

/-! ### Numbers in order -/

section Numbers

variable {fromOne : Bool} {m n : Int}

lemma toEngine_mono (h : m ≤ n) (hn : n < base fromOne + 2 ^ 32) :
    toEngine fromOne m ≤ toEngine fromOne n := by
  rw [UInt32.le_iff_toNat_le, toNat_toEngine, toNat_toEngine]
  have hm : (m - base fromOne).toNat % 2 ^ 32 = (m - base fromOne).toNat :=
    Nat.mod_eq_of_lt (by omega)
  have hn : (n - base fromOne).toNat % 2 ^ 32 = (n - base fromOne).toNat :=
    Nat.mod_eq_of_lt (by omega)
  rw [hm, hn]
  omega

lemma toEngine_of_le (h : n ≤ base fromOne) : toEngine fromOne n = 0 := by
  have hzero : (n - base fromOne).toNat = 0 := by omega
  rw [← UInt32.toNat_inj, toNat_toEngine, hzero]
  rfl

lemma toEngine_wraps (h : base fromOne ≤ n) : toEngine fromOne (n + 2 ^ 32) = toEngine fromOne n := by
  have hsum : (n + 2 ^ 32 - base fromOne).toNat = (n - base fromOne).toNat + 2 ^ 32 := by omega
  rw [← UInt32.toNat_inj, toNat_toEngine, toNat_toEngine, hsum, Nat.add_mod_right]

lemma toEngine_second : toEngine fromOne (base fromOne + 1) = 1 := by
  have hone : (base fromOne + 1 - base fromOne).toNat = 1 := by omega
  rw [← UInt32.toNat_inj, toNat_toEngine, hone]
  rfl

lemma toEngine_beyond : toEngine fromOne (base fromOne + 2 ^ 32) = 0 := by
  rw [toEngine_wraps (Int.le_refl _), toEngine_of_le (Int.le_refl _)]

/-- All numbers up to some bound are taken to the engine in order just if the engine has a number for
that bound. -/
lemma toEngine_mono_iff (fromOne : Bool) (bound : Int) :
    (∀ m n, m ≤ n → n ≤ bound → toEngine fromOne m ≤ toEngine fromOne n) ↔
      bound < base fromOne + 2 ^ 32 := by
  constructor
  · intro ordered
    by_contra hbound
    have hback := ordered (base fromOne + 1) (base fromOne + 2 ^ 32) (by omega) (by omega)
    rw [toEngine_second, toEngine_beyond] at hback
    exact absurd hback (by decide)
  · exact fun hbound m n hmn hn => toEngine_mono hmn (by omega)

end Numbers

/-! ### Stretches -/

lemma Position.le_trans {p q r : Position} (hpq : p ≤ q) (hqr : q ≤ r) : p ≤ r := by
  rw [Position.le_iff default] at hpq hqr ⊢
  exact hpq.trans hqr

lemma Position.mk_le_mk {line line' column column' : UInt32} (hline : line ≤ line')
    (hcolumn : column ≤ column') : (⟨line, column⟩ : Position) ≤ ⟨line', column'⟩ := by
  by_cases heq : line = line'
  · exact .inr ⟨heq, hcolumn⟩
  · exact .inl (UInt32.lt_of_le_of_ne hline heq)

/-- A stretch of which all is given that a request can give. -/
structure Stretch where
  line : Int
  column : Int
  endLine : Int
  endColumn : Int

namespace Stretch

def request (s : Stretch) : RequestedBreakpoint :=
  ⟨s.line, some s.column, some s.endLine, some s.endColumn⟩

def openRequest (s : Stretch) : RequestedBreakpoint := ⟨s.line, some s.column, some s.endLine, none⟩

/-- The second of two stretches on one line reaches at least as far as the first, on both sides. -/
structure Widens (s s' : Stretch) : Prop where
  line : s'.line = s.line
  column : s'.column ≤ s.column
  endLine : s.endLine ≤ s'.endLine
  endColumn : s.endColumn ≤ s'.endColumn

/-- A stretch whose numbers are not greater than given ones, its first line aside. -/
structure Within (lines columns : Int) (s : Stretch) : Prop where
  column : s.column ≤ columns
  endLine : s.endLine ≤ lines
  endColumn : s.endColumn ≤ columns

def toRange (coords : Coordinates) (s : Stretch) : Range :=
  ⟨⟨coords.lineToEngine s.line, coords.columnToEngine s.column⟩,
    ⟨coords.lineToEngine s.endLine, coords.columnToEngine s.endColumn⟩⟩

lemma accepts_iff (coords : Coordinates) (s : Stretch) (b : EngineBreakpoint) :
    s.request.accepts coords (.ofEngine coords b) = true ↔
      coords.lineToClient b.range.first.line = s.line ∧
        (s.toRange coords).first ≤ b.range.first ∧ b.range.first ≤ (s.toRange coords).last :=
  RequestedBreakpoint.accepts_iff_of_target rfl b

lemma toRange_mono {coords : Coordinates} {s s' : Stretch} (wider : s.Widens s')
    {lines columns : Int} (hlines : lines < base coords.linesFromOne + 2 ^ 32)
    (hcolumns : columns < base coords.columnsFromOne + 2 ^ 32) (within : s.Within lines columns)
    (within' : s'.Within lines columns) :
    (s'.toRange coords).first ≤ (s.toRange coords).first ∧
      (s.toRange coords).last ≤ (s'.toRange coords).last := by
  have hcolumn : coords.columnToEngine s'.column ≤ coords.columnToEngine s.column :=
    toEngine_mono wider.column (Int.lt_of_le_of_lt within.column hcolumns)
  have hendLine : coords.lineToEngine s.endLine ≤ coords.lineToEngine s'.endLine :=
    toEngine_mono wider.endLine (Int.lt_of_le_of_lt within'.endLine hlines)
  have hendColumn : coords.columnToEngine s.endColumn ≤ coords.columnToEngine s'.endColumn :=
    toEngine_mono wider.endColumn (Int.lt_of_le_of_lt within'.endColumn hcolumns)
  constructor
  · rw [toRange, toRange, wider.line]
    exact Position.mk_le_mk (UInt32.le_refl _) hcolumn
  · exact Position.mk_le_mk hendLine hendColumn

/-- A wider stretch asks for all that a narrower one asks for. -/
def KeepsAll (coords : Coordinates) (s s' : Stretch) : Prop :=
  ∀ b, s.request.accepts coords (.ofEngine coords b) = true →
    s'.request.accepts coords (.ofEngine coords b) = true

lemma Widens.keepsAll {coords : Coordinates} {s s' : Stretch} (wider : s.Widens s')
    {lines columns : Int} (hlines : lines < base coords.linesFromOne + 2 ^ 32)
    (hcolumns : columns < base coords.columnsFromOne + 2 ^ 32) (within : s.Within lines columns)
    (within' : s'.Within lines columns) : KeepsAll coords s s' := by
  intro b haccepts
  obtain ⟨hline, hfirst, hlast⟩ := (s.accepts_iff coords b).mp haccepts
  obtain ⟨hfirst', hlast'⟩ := toRange_mono wider hlines hcolumns within within'
  exact (s'.accepts_iff coords b).mpr
    ⟨hline.trans wider.line.symm, Position.le_trans hfirst' hfirst, Position.le_trans hlast hlast'⟩

/-- Whatever is widened within given bounds keeps all that it asks for. -/
def KeepsWithin (coords : Coordinates) (lines columns : Int) : Prop :=
  ∀ s s' : Stretch, s.Widens s' → s.Within lines columns → s'.Within lines columns →
    KeepsAll coords s s'

section Beyond

variable {coords : Coordinates} {lines columns : Int}

lemma KeepsWithin.lines_lt (keeps : KeepsWithin coords lines columns) :
    lines < base coords.linesFromOne + 2 ^ 32 := by
  by_contra beyond
  -- the second line, and a stretch from there to the line that counts as the first
  let line := base coords.linesFromOne + 1
  let column := min columns (base coords.columnsFromOne)
  let s : Stretch := ⟨line, column, line, column⟩
  let s' : Stretch := { s with endLine := base coords.linesFromOne + 2 ^ 32 }
  let b : EngineBreakpoint := ⟨0, ⟨⟨1, 0⟩, ⟨1, 0⟩⟩⟩
  have hline : coords.lineToEngine line = 1 := toEngine_second
  have hcolumn : coords.columnToEngine column = 0 := toEngine_of_le (min_le_right _ _)
  have hend : coords.lineToEngine s'.endLine = 0 := toEngine_beyond
  have hrange : s.toRange coords = ⟨⟨1, 0⟩, ⟨1, 0⟩⟩ := by simp only [toRange, s, hline, hcolumn]
  have hrange' : s'.toRange coords = ⟨⟨1, 0⟩, ⟨0, 0⟩⟩ := by
    simp only [toRange, hend, s', s, hline, hcolumn]
  have haccepts : s.request.accepts coords (.ofEngine coords b) = true := by
    rw [accepts_iff, hrange]
    exact ⟨Int.add_comm _ _, by decide, by decide⟩
  have hwidens : s.Widens s' := ⟨rfl, le_refl _, by simp only [s, s', line]; omega, le_refl _⟩
  have hwithin : s.Within lines columns :=
    ⟨min_le_left _ _, by simp only [s, line]; omega, min_le_left _ _⟩
  have hwithin' : s'.Within lines columns :=
    ⟨min_le_left _ _, by simp only [s']; omega, min_le_left _ _⟩
  have hkept := keeps s s' hwidens hwithin hwithin' b haccepts
  rw [accepts_iff, hrange'] at hkept
  exact absurd hkept.2.2 (by decide)

lemma KeepsWithin.columns_lt (keeps : KeepsWithin coords lines columns) :
    columns < base coords.columnsFromOne + 2 ^ 32 := by
  by_contra beyond
  -- the first two columns, and a stretch from the first to the one that counts as the first
  let column := base coords.columnsFromOne
  let endLine := min lines (base coords.linesFromOne)
  let s : Stretch := ⟨base coords.linesFromOne, column, endLine, column + 1⟩
  let s' : Stretch := { s with endColumn := column + 2 ^ 32 }
  let b : EngineBreakpoint := ⟨0, ⟨⟨0, 1⟩, ⟨0, 1⟩⟩⟩
  have hline : coords.lineToEngine (base coords.linesFromOne) = 0 := toEngine_of_le (le_refl _)
  have hendLine : coords.lineToEngine endLine = 0 := toEngine_of_le (min_le_right _ _)
  have hcolumn : coords.columnToEngine column = 0 := toEngine_of_le (le_refl _)
  have hsecond : coords.columnToEngine (column + 1) = 1 := toEngine_second
  have hend : coords.columnToEngine s'.endColumn = 0 := toEngine_beyond
  have hrange : s.toRange coords = ⟨⟨0, 0⟩, ⟨0, 1⟩⟩ := by
    simp only [toRange, s, hline, hendLine, hcolumn, hsecond]
  have hrange' : s'.toRange coords = ⟨⟨0, 0⟩, ⟨0, 0⟩⟩ := by
    simp only [toRange, hend, s', s, hline, hendLine, hcolumn]
  have haccepts : s.request.accepts coords (.ofEngine coords b) = true := by
    rw [accepts_iff, hrange]
    exact ⟨Int.zero_add _, by decide, by decide⟩
  have hwidens : s.Widens s' := ⟨rfl, le_refl _, le_refl _, by simp only [s, s']; omega⟩
  have hwithin : s.Within lines columns :=
    ⟨by simp only [s, column]; omega, min_le_left _ _, by simp only [s, column]; omega⟩
  have hwithin' : s'.Within lines columns :=
    ⟨by simp only [s', s, column]; omega, min_le_left _ _, by simp only [s', column]; omega⟩
  have hkept := keeps s s' hwidens hwithin hwithin' b haccepts
  rw [accepts_iff, hrange'] at hkept
  exact absurd hkept.2.2 (by decide)

end Beyond

/-- What widening a stretch loses. -/
structure Widening (coords : Coordinates) : Prop where
  /-- Lines and columns up to some bound are taken to the engine in order just if the engine has a
  number for that bound. -/
  lines_iff : ∀ bound, (∀ m n, m ≤ n → n ≤ bound → coords.lineToEngine m ≤ coords.lineToEngine n) ↔
    bound < base coords.linesFromOne + 2 ^ 32
  columns_iff : ∀ bound,
    (∀ m n, m ≤ n → n ≤ bound → coords.columnToEngine m ≤ coords.columnToEngine n) ↔
      bound < base coords.columnsFromOne + 2 ^ 32
  /-- Behind the greatest number of the engine the numbers begin anew. -/
  wraps : (∀ n, base coords.linesFromOne ≤ n →
      coords.lineToEngine (n + 2 ^ 32) = coords.lineToEngine n) ∧
    ∀ n, base coords.columnsFromOne ≤ n →
      coords.columnToEngine (n + 2 ^ 32) = coords.columnToEngine n
  /-- So no place is lost by widening within some bounds just if the engine has numbers for them. -/
  keepsWithin_iff : ∀ lines columns, KeepsWithin coords lines columns ↔
    lines < base coords.linesFromOne + 2 ^ 32 ∧ columns < base coords.columnsFromOne + 2 ^ 32
  /-- A request that gives no last column loses nothing of one that gives any. -/
  openRequest : ∀ (s : Stretch) b, s.request.accepts coords (.ofEngine coords b) = true →
    s.openRequest.accepts coords (.ofEngine coords b) = true

/-- **Widening a request loses no place as long as the engine has all its numbers**, and no longer. -/
theorem widening (coords : Coordinates) : Widening coords where
  lines_iff := toEngine_mono_iff _
  columns_iff := toEngine_mono_iff _
  wraps := ⟨fun _ => toEngine_wraps, fun _ => toEngine_wraps⟩
  keepsWithin_iff lines columns :=
    ⟨fun keeps => ⟨keeps.lines_lt, keeps.columns_lt⟩,
      fun ⟨hlines, hcolumns⟩ _ _ wider => wider.keepsAll hlines hcolumns⟩
  openRequest s b haccepts := by
    obtain ⟨hline, hfirst, hlast⟩ := (s.accepts_iff coords b).mp haccepts
    have htarget : s.openRequest.target coords =
        some ⟨(s.toRange coords).first, ⟨coords.lineToEngine s.endLine, 0xFFFFFFFF⟩⟩ := rfl
    have hopen : (s.toRange coords).last ≤ ⟨coords.lineToEngine s.endLine, 0xFFFFFFFF⟩ :=
      Position.mk_le_mk (UInt32.le_refl _) (le_greatest _)
    exact (RequestedBreakpoint.accepts_iff_of_target htarget b).mpr
      ⟨hline, hfirst, Position.le_trans hlast hopen⟩

/-- Part of a line, and the same line up to a column that no engine has. -/
def narrow : Stretch := ⟨3, 1, 3, 10⟩

/-- The line up to a column behind the greatest of the engine. -/
def wide : Stretch := { narrow with endColumn := 4294967297 }

/-- A request for all of a line loses the place that a request for a part of the line finds. -/
theorem wide_loses :
    narrow.Widens wide ∧ ¬ KeepsAll default narrow wide ∧
      Resolver.select default [narrow.request] [.ofEngine default ⟨1, ⟨⟨2, 4⟩, ⟨2, 12⟩⟩⟩] =
        [.ofEngine default ⟨1, ⟨⟨2, 4⟩, ⟨2, 12⟩⟩⟩] ∧
      Resolver.select default [wide.request] [.ofEngine default ⟨1, ⟨⟨2, 4⟩, ⟨2, 12⟩⟩⟩] = [] ∧
      ¬ Coordinates.columnToEngine default 10 ≤ Coordinates.columnToEngine default 4294967297 := by
  refine ⟨⟨by decide, by decide, by decide, by decide⟩, fun keeps => ?_, by decide, by decide,
    by decide⟩
  exact absurd (keeps ⟨1, ⟨⟨2, 4⟩, ⟨2, 12⟩⟩⟩ (by decide)) (by decide)

end Stretch

end QuantumDebug
