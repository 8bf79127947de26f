import QuantumDebug.Proofs.Conversation

/-!
Which lines of an engine process complete the question that waits. A line with the number of the
question completes it exactly if it is shaped like a reply: no key repeats, and its error, if it has
one, is a report. A result of the wrong shape makes the question fail, but a line with an error of
the wrong shape is passed over, and the question goes on waiting.
-/

namespace QuantumDebug

namespace Json

/-! ### Members of an object -/

/-- How often a key stands in an object. -/
def keyCount (key : String) (ms : List (String × Json)) : Nat := (ms.map Prod.fst).count key

lemma mem_of_lookup {key : String} {v : Json} {ms : List (String × Json)}
    (h : lookup key ms = some v) : (key, v) ∈ ms := by
  induction ms with
  | nil => simp [lookup] at h
  | cons m ms ih =>
    obtain ⟨k, w⟩ := m
    by_cases hk : k = key
    · subst hk
      obtain rfl : w = v := by simpa [lookup] using h
      simp
    · have hrest : lookup key ms = some v := by simpa [lookup, hk] using h
      exact List.mem_cons_of_mem _ (ih hrest)

lemma lookup_of_mem {key : String} {v : Json} {ms : List (String × Json)}
    (h : (key, v) ∈ ms) (once : keyCount key ms ≤ 1) : lookup key ms = some v := by
  induction ms with
  | nil => simp at h
  | cons m ms ih =>
    obtain ⟨k, w⟩ := m
    rcases List.mem_cons.mp h with heq | hmem
    · obtain ⟨rfl, rfl⟩ : key = k ∧ v = w := by simpa using heq
      simp [lookup]
    · have hkey : key ∈ ms.map Prod.fst := List.mem_map_of_mem hmem
      have hpos : 0 < (ms.map Prod.fst).count key := List.count_pos_iff.mpr hkey
      have hk : k ≠ key := by
        rintro rfl
        simp [keyCount] at once
        omega
      have honce : keyCount key ms ≤ 1 := by simpa [keyCount, hk] using once
      simpa [lookup, hk] using ih hmem honce

namespace Record

variable {fields : List (String × (Json → Option Fault))}

section Members

/-- What keeps the members from having a fault at a key: it is new, stands once at most, and each
value it has can be read. -/
def Faultless (seen : List String) (ms : List (String × Json)) (key : String)
    (check : Json → Option Fault) : Prop :=
  (key ∈ seen → key ∉ ms.map Prod.fst) ∧ keyCount key ms ≤ 1 ∧
    ∀ v, (key, v) ∈ ms → check v = none

variable {seen : List String} {ms : List (String × Json)} {key k : String} {w : Json}
  {check : Json → Option Fault}

lemma faultless_cons_of_ne (hne : key ≠ k) :
    Faultless seen ((k, w) :: ms) key check ↔ Faultless seen ms key check := by
  simp [Faultless, keyCount, hne, Ne.symm hne]

lemma faultless_cons_self (hnew : k ∉ seen) (hcheck : check w = none) :
    Faultless seen ((k, w) :: ms) k check ↔ Faultless (k :: seen) ms k check := by
  have hzero : keyCount k ms = 0 ↔ k ∉ ms.map Prod.fst := List.count_eq_zero
  have hcons : keyCount k ((k, w) :: ms) = keyCount k ms + 1 := List.count_cons_self
  have hread : (∀ v, (k, v) ∈ (k, w) :: ms → check v = none) ↔
      ∀ v, (k, v) ∈ ms → check v = none := by
    simp [hcheck]
  rw [Faultless, Faultless, hread, hcons, ← hzero]
  simp only [List.mem_cons, true_or, true_imp_iff, hnew, false_imp_iff, true_and, ← and_assoc]
  refine and_congr_left fun _ => ?_
  omega

lemma faultless_seen_of_ne (hne : key ≠ k) :
    Faultless (k :: seen) ms key check ↔ Faultless seen ms key check := by
  simp [Faultless, hne]

lemma firstFault_eq_none_iff : firstFault fields seen ms = none ↔
    ∀ key check, fields.lookup key = some check → Faultless seen ms key check := by
  induction ms generalizing seen with
  | nil => simp [firstFault, Faultless, keyCount]
  | cons m ms ih =>
    obtain ⟨k, w⟩ := m
    rw [firstFault]
    cases hk : fields.lookup k with
    | none =>
      simp only [ih]
      refine forall_congr' fun key => forall_congr' fun check => imp_congr_right fun hkey => ?_
      have hne : key ≠ k := by
        rintro rfl
        simp [hk] at hkey
      exact (faultless_cons_of_ne hne).symm
    | some check =>
      by_cases hseen : k ∈ seen
      · simp only [hseen, if_true]
        refine iff_of_false (by simp) fun h => ?_
        exact (h k check hk).1 hseen (by simp)
      simp only [hseen, if_false]
      cases hcheck : check w with
      | some fault =>
        refine iff_of_false (by simp) fun h => ?_
        simpa [hcheck] using (h k check hk).2.2 w (by simp)
      | none =>
        simp only [ih]
        refine forall_congr' fun key => forall_congr' fun check' => imp_congr_right fun hkey => ?_
        by_cases hne : key = k
        · subst hne
          obtain rfl : check = check' := by simpa [hk] using hkey
          exact (faultless_cons_self hseen hcheck).symm
        · rw [faultless_cons_of_ne hne, faultless_seen_of_ne hne]

/-- Members have no fault among them if no known key repeats and every known one can be read. -/
lemma firstFault_none_iff :
    firstFault fields [] ms = none ↔ ∀ key check, fields.lookup key = some check →
      keyCount key ms ≤ 1 ∧ ∀ v, lookup key ms = some v → check v = none := by
  rw [firstFault_eq_none_iff]
  refine forall_congr' fun key => forall_congr' fun check => imp_congr_right fun _ => ?_
  constructor
  · rintro ⟨-, once, reads⟩
    exact ⟨once, fun v hv => reads v (mem_of_lookup hv)⟩
  · rintro ⟨once, reads⟩
    exact ⟨by simp, once, fun v hv => reads v (lookup_of_mem hv once)⟩

end Members

lemma check_eq_none_iff {α : Type} {d : Decoder α} {j : Json} :
    check d j = none ↔ ∃ a, d j = .ok a := by
  unfold check
  cases d j <;> simp

section Build

variable {α β : Type} {members : String → Option Json} {missing : String → Fault}

lemma build_map {f : α → β} {x : Record α} {b : β} :
    (f <$> x).build members missing = .ok b ↔ ∃ a, x.build members missing = .ok a ∧ f a = b := by
  change (x.build members missing).map f = .ok b ↔ _
  cases x.build members missing <;> simp [Except.map]

lemma build_seq {f : Record (α → β)} {x : Record α} {b : β} :
    (f <*> x).build members missing = .ok b ↔
      ∃ g a, f.build members missing = .ok g ∧ x.build members missing = .ok a ∧ g a = b := by
  change (f.apply x).build members missing = .ok b ↔ _
  rcases hf : f.build members missing with e | g
  · simp [apply, hf]
  · rcases hx : x.build members missing with e | a <;> simp [apply, hf, hx, Except.map]

lemma build_field {name : String} {d : Decoder α} {a : α} :
    (field name d).build members missing = .ok a ↔ ∃ j, members name = some j ∧ d j = .ok a := by
  rcases hmember : members name with _ | j <;> simp [field, hmember]

lemma build_fieldOr {name : String} {d : Decoder α} {default a : α} :
    (fieldOr name d default).build members missing = .ok a ↔
      (members name = none ∧ a = default) ∨ ∃ j, members name = some j ∧ d j = .ok a := by
  rcases hmember : members name with _ | j <;> simp [fieldOr, hmember, eq_comm]

lemma nullable_of_ne_null {j : Json} (d : Decoder α) (hj : j ≠ .null) :
    nullable d j = (d j).map some := by
  cases j <;> simp_all [nullable]

/-- What a field that may be missing or null is read as, by what any other value is read as. -/
inductive Lenient (R : Json → α → Prop) : Option Json → Option α → Prop
  | missing : Lenient R none none
  | null : Lenient R (some .null) none
  | given {j : Json} {a : α} (h : R j a) : Lenient R (some j) (some a)

lemma build_fieldOption (R : Json → α → Prop) {name : String} {d : Decoder α}
    (hd : ∀ j a, d j = .ok a ↔ R j a) (hnull : ∀ a, ¬R .null a) {o : Option α} :
    (fieldOption name d).build members missing = .ok o ↔ Lenient R (members name) o := by
  rw [fieldOption, build_fieldOr]
  constructor
  · rintro (⟨hname, rfl⟩ | ⟨j, hname, hj⟩)
    · rw [hname]
      exact .missing
    · rw [hname]
      by_cases hj' : j = .null
      · subst hj'
        obtain rfl : none = o := Except.ok.inj hj
        exact .null
      · rw [nullable_of_ne_null d hj'] at hj
        rcases ha : d j with e | a
        · simp [ha, Except.map] at hj
        · obtain rfl : some a = o := by simpa [ha, Except.map] using hj
          exact .given ((hd j a).mp ha)
  · intro h
    cases hname : members name with
    | none =>
      rw [hname] at h
      cases h
      exact .inl ⟨rfl, rfl⟩
    | some j =>
      rw [hname] at h
      refine .inr ⟨j, rfl, ?_⟩
      cases h with
      | null => rfl
      | @given _ a ha =>
        have hj : j ≠ .null := by
          rintro rfl
          exact hnull a ha
        have hok : d j = .ok a := (hd j a).mpr ha
        rw [nullable_of_ne_null d hj, hok]
        rfl

end Build

/-- Whatever a record is built from has passed the checks of its fields. -/
def Checked {α : Type} (r : Record α) : Prop :=
  ∀ ⦃members : String → Option Json⦄ ⦃missing : String → Fault⦄ ⦃a : α⦄,
    r.build members missing = .ok a →
      ∀ field ∈ r.fields, ∀ v, members field.1 = some v → field.2 v = none

lemma checked_field {α : Type} (name : String) (d : Decoder α) : (field name d).Checked := by
  intro members missing a h f hf v hv
  obtain rfl : f = (name, check d) := List.mem_singleton.mp hf
  obtain ⟨j, hj, ha⟩ := build_field.mp h
  obtain rfl : j = v := Option.some.inj (hj.symm.trans hv)
  exact check_eq_none_iff.mpr ⟨a, ha⟩

lemma checked_fieldOr {α : Type} (name : String) (d : Decoder α) (default : α) :
    (fieldOr name d default).Checked := by
  intro members missing a h f hf v hv
  obtain rfl : f = (name, check d) := List.mem_singleton.mp hf
  rcases build_fieldOr.mp h with ⟨hnone, -⟩ | ⟨j, hj, ha⟩
  · simp [hnone] at hv
  · obtain rfl : j = v := Option.some.inj (hj.symm.trans hv)
    exact check_eq_none_iff.mpr ⟨a, ha⟩

lemma Checked.map {α β : Type} {x : Record α} (hx : x.Checked) (f : α → β) : (f <$> x).Checked := by
  intro members missing b h field hfield
  obtain ⟨a, ha, -⟩ := build_map.mp h
  exact hx ha field hfield

lemma Checked.seq {α β : Type} {f : Record (α → β)} {x : Record α} (hf : f.Checked)
    (hx : x.Checked) : (f <*> x).Checked := by
  intro members missing b h field hfield
  obtain ⟨g, a, hg, ha, -⟩ := build_seq.mp h
  rcases List.mem_append.mp hfield with hleft | hright
  · exact hf hg field hleft
  · exact hx ha field hright

/-- A record is read from members that it can be built from, if none of its keys repeats. -/
lemma Checked.ofMembers_eq_ok {α : Type} {r : Record α} (hr : r.Checked)
    {ms : List (String × Json)} {a : α} : r.ofMembers ms = .ok a ↔
      (∀ key ∈ r.fields.map Prod.fst, keyCount key ms ≤ 1) ∧
        r.build (lookup · ms) .missingField = .ok a := by
  have hsplit : r.ofMembers ms = .ok a ↔
      firstFault r.fields [] ms = none ∧ r.build (lookup · ms) .missingField = .ok a := by
    unfold ofMembers
    cases firstFault r.fields [] ms <;> simp
  rw [hsplit]
  refine and_congr_left fun hbuild => ?_
  rw [firstFault_none_iff]
  constructor
  · intro h key hkey
    rcases hlookup : r.fields.lookup key with _ | check
    · obtain ⟨field, hfield, rfl⟩ := List.mem_map.mp hkey
      have hother := List.lookup_eq_none_iff.mp hlookup field hfield
      simp at hother
    · exact (h key check hlookup).1
  · intro h key check hkey
    have hmem : (key, check) ∈ r.fields := by
      obtain ⟨l₁, l₂, heq, -⟩ := List.lookup_eq_some_iff.mp hkey
      simp [heq]
    exact ⟨h key (List.mem_map_of_mem hmem), fun v hv => hr hbuild (key, check) hmem v hv⟩

lemma ofItems_eq_ok {α : Type} {r : Record α} {name surplus : String} {xs : List Json} {a : α} :
    r.ofItems name surplus xs = .ok a ↔ xs.length ≤ r.fields.length ∧
      r.build (lookup · ((r.fields.map Prod.fst).zip xs))
        (fun _ => .wrongLength xs.length (name ++ " with " ++ r.count)) = .ok a := by
  unfold ofItems
  simp only
  split
  next e he => simp [he]
  next b hb =>
    rw [hb]
    by_cases hlong : r.fields.length < xs.length
    · simp [hlong, Nat.not_le.mpr hlong]
    · simp [hlong, Nat.not_lt.mp hlong]

end Record

end Json

/-! ### Reports of a failure -/

namespace RemoteError

/-- The shapes of a report: an object, or an array of its fields. -/
inductive Shape : Json → RemoteError → Prop
  | object {fs : List (String × Json)} {message : String} {trace : Option String}
      (once : ∀ key ∈ ["message", "stackTrace"], Json.keyCount key fs ≤ 1)
      (worded : Json.lookup "message" fs = some (.str message))
      (traced : Json.Record.Lenient (fun j s => j = .str s) (Json.lookup "stackTrace" fs) trace) :
      Shape (.obj fs) ⟨message, trace⟩
  | array {message : String} {rest : List Json} {trace : Option String}
      (short : rest.length ≤ 1)
      (traced : Json.Record.Lenient (fun j s => j = .str s) rest.head? trace) :
      Shape (.arr (.str message :: rest)) ⟨message, trace⟩

lemma string_eq_ok {j : Json} {s : String} : Json.string j = .ok s ↔ j = .str s := by
  cases j <;> simp [Json.string]

def record : Json.Record RemoteError :=
  RemoteError.mk <$> .field "message" Json.string <*> .fieldOption "stackTrace" Json.string

lemma record_build {members : String → Option Json} {missing : String → Json.Fault}
    {err : RemoteError} : record.build members missing = .ok err ↔
      members "message" = some (.str err.message) ∧
        Json.Record.Lenient (fun j s => j = .str s) (members "stackTrace") err.stackTrace := by
  have htrace : ∀ trace, (Json.Record.fieldOption "stackTrace" Json.string).build members missing
      = .ok trace ↔ Json.Record.Lenient (fun j s => j = .str s) (members "stackTrace") trace :=
    fun _ => Json.Record.build_fieldOption _ (fun _ _ => string_eq_ok) (by simp)
  simp only [record, Json.Record.build_seq, Json.Record.build_map, Json.Record.build_field,
    string_eq_ok, htrace]
  constructor
  · rintro ⟨_, trace, ⟨message, ⟨j, hj, rfl⟩, rfl⟩, ht, rfl⟩
    exact ⟨hj, ht⟩
  · rintro ⟨hmessage, ht⟩
    exact ⟨_, _, ⟨_, ⟨_, hmessage, rfl⟩, rfl⟩, ht, rfl⟩

lemma record_checked : record.Checked :=
  ((Json.Record.checked_field "message" Json.string).map RemoteError.mk).seq
    (Json.Record.checked_fieldOr _ _ _)

/-- What is read as a report. -/
theorem decoder_eq_ok {j : Json} {err : RemoteError} : decoder j = .ok err ↔ Shape j err := by
  have hdec : decoder = Json.Record.decoder "struct RemoteError" record := rfl
  have hfields : record.fields.map Prod.fst = ["message", "stackTrace"] := rfl
  rw [hdec]
  cases j with
  | obj fs =>
    rw [Json.Record.decoder, record_checked.ofMembers_eq_ok, record_build, hfields]
    constructor
    · rintro ⟨once, hmessage, htrace⟩
      exact .object once hmessage htrace
    · rintro (⟨once, worded, traced⟩)
      exact ⟨once, worded, traced⟩
  | arr xs =>
    rw [Json.Record.decoder, Json.Record.ofItems_eq_ok, record_build, hfields]
    cases xs with
    | nil =>
      refine iff_of_false (by simp [Json.lookup]) ?_
      rintro ⟨⟩
    | cons x rest =>
      have hmessage : Json.lookup "message" (["message", "stackTrace"].zip (x :: rest))
          = some x := by
        simp [Json.lookup]
      have htrace : Json.lookup "stackTrace" (["message", "stackTrace"].zip (x :: rest))
          = rest.head? := by
        cases rest <;> simp [Json.lookup]
      have hlength : record.fields.length = 2 := rfl
      rw [hmessage, htrace, hlength]
      constructor
      · rintro ⟨hshort, hx, ht⟩
        obtain rfl : x = .str err.message := Option.some.inj hx
        exact .array (Nat.le_of_succ_le_succ hshort) ht
      · rintro (_ | ⟨hshort, ht⟩)
        exact ⟨Nat.succ_le_succ hshort, rfl, ht⟩
  | _ =>
    refine iff_of_false (by simp [Json.Record.decoder]) ?_
    rintro ⟨⟩

lemma Shape.ne_null (err : RemoteError) : ¬Shape .null err := by
  rintro ⟨⟩

end RemoteError

/-! ### Replies and notifications -/

/-- The members of a reply: no key repeats, and the error may be missing or null or a report. -/
structure EngineReply.Shape (ms : List (String × Json)) (r : EngineReply) : Prop where
  once : ∀ key ∈ ["id", "result", "error"], Json.keyCount key ms ≤ 1
  id : Json.lookup "id" ms = some (.int r.id)
  bound : r.id ≤ 0xFFFF_FFFF_FFFF_FFFF
  result : r.result = ((Json.lookup "result" ms).getD .null).normalize
  error : Json.Record.Lenient RemoteError.Shape (Json.lookup "error" ms) r.error

/-- The members of a notification. -/
inductive EngineMessage.Notice (ms : List (String × Json)) : EngineMessage → Prop
  | named {method : String} (once : ∀ key ∈ ["method", "params"], Json.keyCount key ms ≤ 1)
      (name : Json.lookup "method" ms = some (.str method)) :
      Notice ms (.notification method ((Json.lookup "params" ms).getD .null).normalize)

namespace EngineMessage

lemma u64_eq_ok {j : Json} {n : Nat} : Json.u64 j = .ok n ↔
    j = .int n ∧ n ≤ 0xFFFF_FFFF_FFFF_FFFF := by
  cases j with
  | int k =>
    by_cases hk : 0 ≤ k ∧ k ≤ 0xFFFF_FFFF_FFFF_FFFF
    · simp [Json.u64, Json.integer, hk, Except.map]
      omega
    · simp [Json.u64, Json.integer, hk, Except.map]
      omega
  | _ => simp [Json.u64, Json.integer, Except.map]

lemma build_any {members : String → Option Json} {missing : String → Json.Fault} {name : String}
    {j : Json} : (Json.Record.fieldOr name Json.any .null).build members missing = .ok j ↔
      j = ((members name).getD .null).normalize := by
  rw [Json.Record.build_fieldOr]
  cases members name <;> simp [Json.any, Json.normalize, eq_comm]

lemma replyRecord_build {members : String → Option Json} {missing : String → Json.Fault}
    {r : EngineReply} : replyRecord.build members missing = .ok r ↔
      (members "id" = some (.int r.id) ∧ r.id ≤ 0xFFFF_FFFF_FFFF_FFFF) ∧
        r.result = ((members "result").getD .null).normalize ∧
        Json.Record.Lenient RemoteError.Shape (members "error") r.error := by
  have herror : ∀ o, (Json.Record.fieldOption "error" RemoteError.decoder).build members missing
      = .ok o ↔ Json.Record.Lenient RemoteError.Shape (members "error") o :=
    fun _ => Json.Record.build_fieldOption RemoteError.Shape
      (fun _ _ => RemoteError.decoder_eq_ok) RemoteError.Shape.ne_null
  simp only [replyRecord, Json.Record.build_seq, Json.Record.build_map, Json.Record.build_field,
    u64_eq_ok, build_any, herror]
  constructor
  · rintro ⟨_, error, ⟨_, result, ⟨id, ⟨j, hj, rfl, hid⟩, rfl⟩, hresult, rfl⟩, herror, rfl⟩
    exact ⟨⟨hj, hid⟩, hresult, herror⟩
  · rintro ⟨⟨hj, hid⟩, hresult, herror⟩
    exact ⟨_, _, ⟨_, _, ⟨_, ⟨_, hj, rfl, hid⟩, rfl⟩, hresult, rfl⟩, herror, rfl⟩

/-- What is read as a reply. -/
theorem replyRecord_eq_ok {ms : List (String × Json)} {r : EngineReply} :
    replyRecord.ofMembers ms = .ok r ↔ EngineReply.Shape ms r := by
  have hchecked : replyRecord.Checked :=
    (((Json.Record.checked_field "id" Json.u64).map EngineReply.mk).seq
      (Json.Record.checked_fieldOr _ _ _)).seq (Json.Record.checked_fieldOr _ _ _)
  have hfields : replyRecord.fields.map Prod.fst = ["id", "result", "error"] := rfl
  rw [hchecked.ofMembers_eq_ok, replyRecord_build, hfields]
  constructor
  · rintro ⟨once, ⟨hid, hbound⟩, hresult, herror⟩
    exact ⟨once, hid, hbound, hresult, herror⟩
  · rintro ⟨once, hid, hbound, hresult, herror⟩
    exact ⟨once, ⟨hid, hbound⟩, hresult, herror⟩

/-- What is read as a notification. -/
theorem notificationRecord_eq_ok {ms : List (String × Json)} {m : EngineMessage} :
    notificationRecord.ofMembers ms = .ok m ↔ Notice ms m := by
  have hchecked : notificationRecord.Checked :=
    ((Json.Record.checked_field "method" Json.string).map EngineMessage.notification).seq
      (Json.Record.checked_fieldOr _ _ _)
  have hfields : notificationRecord.fields.map Prod.fst = ["method", "params"] := rfl
  rw [hchecked.ofMembers_eq_ok, hfields]
  simp only [notificationRecord, Json.Record.build_seq, Json.Record.build_map,
    Json.Record.build_field, RemoteError.string_eq_ok, build_any]
  constructor
  · rintro ⟨once, _, params, ⟨method, ⟨j, hj, rfl⟩, rfl⟩, rfl, rfl⟩
    exact .named once hj
  · rintro ⟨once, name⟩
    exact ⟨once, _, _, ⟨_, ⟨_, name, rfl⟩, rfl⟩, rfl, rfl⟩

/-- **What an object is read as**: a reply if it has the shape of one, else perhaps a
notification. -/
theorem ofJson_obj {ms : List (String × Json)} {m : EngineMessage} :
    ofJson (.obj ms) = some m ↔ (∃ r, EngineReply.Shape ms r ∧ m = .reply r) ∨
      (∀ r, ¬EngineReply.Shape ms r) ∧ Notice ms m := by
  rw [ofJson]
  simp only [← replyRecord_eq_ok, ← notificationRecord_eq_ok]
  rcases hreply : replyRecord.ofMembers ms with fault | r
  · rcases hnotice : notificationRecord.ofMembers ms with fault' | m' <;> simp [Except.toOption]
  · simp [eq_comm]

end EngineMessage

/-! ### Lines as they are read -/

namespace Inbox

def messagesOn : List (List UInt8) → List EngineMessage
  | [] => []
  | line :: lines =>
    match Text.Utf8.decode? line with
    | none => []
    | some cs => (EngineMessage.ofLine (String.ofList cs)).toList ++ messagesOn lines

def Readable (lines : List (List UInt8)) : Prop :=
  ∀ line ∈ lines, (Text.Utf8.decode? line).isSome = true

instance (lines : List (List UInt8)) : Decidable (Readable lines) :=
  inferInstanceAs (Decidable (∀ line ∈ lines, _))

lemma messagesOn_append {lines : List (List UInt8)} (h : Readable lines)
    (lines' : List (List UInt8)) :
    messagesOn (lines ++ lines') = messagesOn lines ++ messagesOn lines' := by
  induction lines with
  | nil => rfl
  | cons line lines ih =>
    obtain ⟨hline, hlines⟩ := List.forall_mem_cons.mp h
    obtain ⟨cs, hcs⟩ := Option.isSome_iff_exists.mp hline
    simp [messagesOn, hcs, ih hlines]

lemma foldl_readLine_deaf {i : Inbox} (h : i.reading = false) (lines : List (List UInt8)) :
    lines.foldl readLine i = i := by
  induction lines with
  | nil => rfl
  | cons line lines ih =>
    have hline : i.readLine line = i := by simp [readLine, h]
    rw [List.foldl_cons, hline, ih]

lemma foldl_readLine {i : Inbox} (h : i.reading = true) (lines : List (List UInt8)) :
    (lines.foldl readLine i).messages = i.messages ++ messagesOn lines ∧
      ((lines.foldl readLine i).reading = true ↔ Readable lines) := by
  induction lines generalizing i with
  | nil => simp [messagesOn, Readable, h]
  | cons line lines ih =>
    rw [List.foldl_cons]
    rcases hline : Text.Utf8.decode? line with _ | cs
    · have hdeaf : i.readLine line = { i with reading := false } := by simp [readLine, h, hline]
      rw [hdeaf, foldl_readLine_deaf rfl]
      simp [messagesOn, Readable, hline]
    · have hread : i.readLine line =
          { i with
            messages := i.messages ++ (EngineMessage.ofLine (String.ofList cs)).toList } := by
        simp [readLine, h, hline]
      rw [hread]
      obtain ⟨hmessages, hreading⟩ := ih (i := { i with
        messages := i.messages ++ (EngineMessage.ofLine (String.ofList cs)).toList }) h
      rw [hmessages, hreading]
      simp [messagesOn, Readable, hline]

/-- The lines that are over once a process has printed more: what follows the last line break is a
line only if nothing comes after it. -/
def completed (i : Inbox) (printed : List UInt8) (last : Bool) : List (List UInt8) :=
  (splitLines (i.line ++ printed)).1 ++
    if last = true ∧ (splitLines (i.line ++ printed)).2 ≠ [] then
      [(splitLines (i.line ++ printed)).2] else []

end Inbox

namespace EngineProcess

variable {ρ : Type} {P : Peer ρ} {e : EngineProcess ρ} {c : EngineCall}

lemma hear_inbox (h : e.inbox.reading = true) (printed : List UInt8) (last : Bool) :
    (e.hear printed last).inbox.messages
        = e.inbox.messages ++ Inbox.messagesOn (e.inbox.completed printed last) ∧
      ((e.hear printed last).inbox.reading = true ↔
        last = false ∧ Inbox.Readable (e.inbox.completed printed last)) := by
  obtain ⟨hmessages, hreading⟩ := Inbox.foldl_readLine h (splitLines (e.inbox.line ++ printed)).1
  cases last with
  | false =>
    simp only [hear, Inbox.feed, Inbox.completed, Bool.false_eq_true, false_and, if_false,
      List.append_nil, true_and]
    exact ⟨hmessages, hreading⟩
  | true =>
    refine ⟨?_, by simp [hear, Inbox.close]⟩
    by_cases hrest : (splitLines (e.inbox.line ++ printed)).2 = []
    · simpa [hear, Inbox.close, Inbox.feed, Inbox.completed, hrest] using hmessages
    · have hall := (Inbox.foldl_readLine h ((splitLines (e.inbox.line ++ printed)).1 ++
        [(splitLines (e.inbox.line ++ printed)).2])).1
      rw [List.foldl_append, List.foldl_cons, List.foldl_nil] at hall
      have hline : ∀ (i : Inbox) rest line,
          (Inbox.readLine { i with line := rest } line).messages = (i.readLine line).messages := by
        intro i rest line
        by_cases hi : i.reading = true
        · rcases hd : Text.Utf8.decode? line <;> simp [Inbox.readLine, hi, hd]
        · simp [Inbox.readLine, hi]
      simp only [hear, Inbox.close, Inbox.feed, Inbox.completed, hrest, if_true, if_false,
        true_and, ne_eq, not_false_eq_true, hline, hall]

end EngineProcess

/-! ### What a question makes of a line -/

namespace EngineCall

def failure : (c : EngineCall) → c.Answer → Option EngineError
  | .loadProgram _, answer => errorIn answer
  | .breakpoints _, answer => errorIn answer
  | .eval _ _, answer => errorIn answer.2
  | .stackFrames, answer => errorIn answer
  | .localVariables, answer => errorIn answer
  | .quantumState, answer => errorIn answer
  | .circuit, answer => errorIn answer
  | .terminate, _ => none
where
  errorIn {α : Type} : Except EngineError α → Option EngineError
    | .ok _ => none
    | .error err => some err

def reported : EngineCall → RemoteError → EngineError
  | .loadProgram _, err => .loadFailed err.message
  | _, err => .runtime err.message err.stackTrace

variable {c : EngineCall}

lemma failure_exited (hc : c.waits = true) (texts : List String) :
    c.failure (c.read texts none) = some .exited := by
  cases c <;> first | rfl | simp [waits] at hc

lemma failure_reported (hc : c.waits = true) (texts : List String) {r : EngineReply}
    {err : RemoteError} (h : r.error = some err) :
    c.failure (c.read texts (some r)) = some (c.reported err) := by
  obtain ⟨id, result, error⟩ := r
  subst h
  cases c <;> first | rfl | simp [waits] at hc

lemma parseSources_error {sources : List String} {err : EngineError}
    (h : EngineProcess.parseSources sources = .error err) : ∃ text, err = .protocol text := by
  induction sources with
  | nil => simp [EngineProcess.parseSources] at h
  | cons s ss ih =>
    rw [EngineProcess.parseSources] at h
    cases hs : Url.parse s with
    | error fault =>
      simp only [hs, Except.error.injEq] at h
      exact ⟨_, h.symm⟩
    | ok url =>
      simp only [hs] at h
      cases hss : EngineProcess.parseSources ss with
      | error err' =>
        rw [hss] at h
        obtain rfl : err' = err := by simpa [Except.map] using h
        exact ih hss
      | ok urls => simp [hss, Except.map] at h

lemma result_protocol {α : Type} {method : String} {d : Json.Decoder α} {r : EngineReply}
    (h : r.error = none) {err : EngineError}
    (hfailure : failure.errorIn (result method d (some r)) = some err) :
    ∃ text, err = .protocol text := by
  obtain ⟨id, j, error⟩ := r
  subst h
  rw [result] at hfailure
  cases hd : d j with
  | ok a => simp [hd, Except.mapError, failure.errorIn] at hfailure
  | error fault =>
    rw [hd] at hfailure
    exact ⟨_, (Option.some.inj hfailure).symm⟩

/-- A result that cannot be read is malformed, and nothing else can be wrong with a reply without
an error. -/
lemma failure_protocol (texts : List String) {r : EngineReply} (h : r.error = none)
    {err : EngineError} (hfailure : c.failure (c.read texts (some r)) = some err) :
    ∃ text, err = .protocol text := by
  cases c with
  | loadProgram config =>
    obtain ⟨id, j, error⟩ := r
    subst h
    simp only [failure, read, result] at hfailure
    cases hd : Json.sequence Json.string j with
    | error fault =>
      rw [hd] at hfailure
      exact ⟨_, (Option.some.inj hfailure).symm⟩
    | ok sources =>
      rw [hd] at hfailure
      cases hs : EngineProcess.parseSources sources with
      | ok urls => simp [hs, Except.mapError, Except.bind, failure.errorIn] at hfailure
      | error err' =>
        obtain rfl : err' = err := by
          simpa [hs, Except.mapError, Except.bind, failure.errorIn] using hfailure
        exact parseSources_error hs
  | terminate => simp [failure] at hfailure
  | eval action armed => exact result_protocol h hfailure
  | breakpoints source => exact result_protocol h hfailure
  | stackFrames => exact result_protocol h hfailure
  | localVariables => exact result_protocol h hfailure
  | quantumState => exact result_protocol h hfailure
  | circuit => exact result_protocol h hfailure

end EngineCall

namespace EngineProcess

variable {ρ : Type} {P : Peer ρ} {e : EngineProcess ρ} {c : EngineCall}

/-- Among the lines that a process has printed there is an object with the number of the next
question, and no reply with that number has come before it. -/
structure Names (e : EngineProcess ρ) (lines earlier : List (List UInt8))
    (ms : List (String × Json)) (later : List (List UInt8)) : Prop where
  reading : e.inbox.reading = true
  readable : Inbox.Readable earlier
  others : ∀ m ∈ e.inbox.messages ++ Inbox.messagesOn earlier, ¬m.RepliesTo e.nextId
  line : ∃ line cs, lines = earlier ++ line :: later ∧ Text.Utf8.decode? line = some cs ∧
    Json.parse? (String.ofList cs) = some (.obj ms)
  id : Json.lookup "id" ms = some (.int e.nextId)

/-- What an object with the number of a question does to it goes by the shape of the object. -/
structure GoesByShape (P : Peer ρ) (e : EngineProcess ρ) (c : EngineCall)
    (before : List EngineMessage) (ms : List (String × Json)) (later : List (List UInt8))
    (last : Bool) : Prop where
  /-- One that has the shape of a reply completes the question, which takes it and all before it. -/
  completes : ∀ r, EngineReply.Shape ms r →
    (engine P).answer c e = c.read (outputs before) (some r) ∧ e.portion P c = before ++ [.reply r]
  /-- If it has an error then that is what the question fails with. -/
  reports : ∀ r err, EngineReply.Shape ms r → r.error = some err →
    c.failure ((engine P).answer c e) = some (c.reported err)
  /-- If it has none then the question has a result, or its reply is malformed. -/
  results : ∀ r, EngineReply.Shape ms r → r.error = none →
    ∀ err, c.failure ((engine P).answer c e) = some err → ∃ text, err = .protocol text
  /-- Any other object is passed over, or counts as a notification if it has the shape of one. -/
  passed : (∀ r, ¬EngineReply.Shape ms r) → ∃ notice : Option EngineMessage,
    (∀ m, notice = some m ↔ EngineMessage.Notice ms m) ∧
      e.found P c = before ++ notice.toList ++ Inbox.messagesOn later
  /-- Without a reply in what follows the question then waits for good. -/
  hangs : (∀ r, ¬EngineReply.Shape ms r) →
    (∀ m ∈ Inbox.messagesOn later, ¬m.RepliesTo e.nextId) → last = false → Inbox.Readable later →
      ((engine P).after c e).unanswered ≠ none
  /-- At the end of the process it finds the process gone. -/
  exits : (∀ r, ¬EngineReply.Shape ms r) →
    (∀ m ∈ Inbox.messagesOn later, ¬m.RepliesTo e.nextId) →
      c.failure ((engine P).answer c e) = some .exited

section Named

variable {printed : List UInt8} {last : Bool} {peer : ρ} {earlier later : List (List UInt8)}
  {ms : List (String × Json)}

lemma told_taken (takes : P.take (c.line e.nextId) e.peer = (.taken printed last, peer)) :
    e.told P (c.line e.nextId)
      = ({ e with nextId := e.nextId + 1, peer := peer } : EngineProcess ρ).hear printed last := by
  unfold told
  rw [takes]

lemma Names.found (names : Names e (e.inbox.completed printed last) earlier ms later)
    (takes : P.take (c.line e.nextId) e.peer = (.taken printed last, peer)) :
    e.found P c = e.inbox.messages ++ Inbox.messagesOn earlier
      ++ (EngineMessage.ofJson (.obj ms)).toList ++ Inbox.messagesOn later := by
  obtain ⟨line, cs, hlines, hdecode, hparse⟩ := names.line
  have hline : EngineMessage.ofLine (String.ofList cs) = EngineMessage.ofJson (.obj ms) := by
    rw [EngineMessage.ofLine, hparse]
    rfl
  have hheard := (hear_inbox (e := { e with nextId := e.nextId + 1, peer := peer })
    names.reading printed last).1
  rw [EngineProcess.found, told_taken takes, hheard]
  simp only [hlines, Inbox.messagesOn_append names.readable, Inbox.messagesOn, hdecode, hline,
    List.append_assoc]

lemma Names.found_unanswered (names : Names e (e.inbox.completed printed last) earlier ms later)
    (takes : P.take (c.line e.nextId) e.peer = (.taken printed last, peer))
    (shapeless : ∀ r, ¬EngineReply.Shape ms r)
    (others : ∀ m ∈ Inbox.messagesOn later, ¬m.RepliesTo e.nextId) :
    ∀ m ∈ e.found P c, ¬m.RepliesTo e.nextId := by
  intro m hm
  rw [names.found takes] at hm
  rcases List.mem_append.mp hm with hm | hm
  · rcases List.mem_append.mp hm with hm | hm
    · exact names.others m hm
    · rcases EngineMessage.ofJson_obj.mp (Option.mem_toList.mp hm) with ⟨r, hr, -⟩ | ⟨-, hnotice⟩
      · exact absurd hr (shapeless r)
      · cases hnotice
        exact fun h => h
  · exact others m hm

lemma Names.awaited_reply (names : Names e (e.inbox.completed printed last) earlier ms later)
    (takes : P.take (c.line e.nextId) e.peer = (.taken printed last, peer)) {r : EngineReply}
    (hr : EngineReply.Shape ms r) :
    e.awaited P c = ⟨outputs (e.inbox.messages ++ Inbox.messagesOn earlier), some r,
        Inbox.messagesOn later⟩ ∧
      e.found P c = e.inbox.messages ++ Inbox.messagesOn earlier ++ [.reply r]
        ++ Inbox.messagesOn later := by
  have hread : EngineMessage.ofJson (.obj ms) = some (.reply r) :=
    EngineMessage.ofJson_obj.mpr (.inl ⟨r, hr, rfl⟩)
  have own : r.id = e.nextId := by
    have hsame : (r.id : Int) = e.nextId := by simpa using hr.id.symm.trans names.id
    omega
  have hfound := names.found takes
  rw [hread, Option.toList_some] at hfound
  refine ⟨?_, hfound⟩
  rw [awaited, hfound, List.append_assoc _ [_], List.singleton_append,
    awaitReply_found names.others own]

lemma Names.awaited_none (names : Names e (e.inbox.completed printed last) earlier ms later)
    (takes : P.take (c.line e.nextId) e.peer = (.taken printed last, peer))
    (shapeless : ∀ r, ¬EngineReply.Shape ms r)
    (others : ∀ m ∈ Inbox.messagesOn later, ¬m.RepliesTo e.nextId) :
    (e.awaited P c).reply = none := by
  rw [awaited, awaitReply_missing (names.found_unanswered takes shapeless others)]

lemma Names.readable_lines {lines : List (List UInt8)} (names : Names e lines earlier ms later)
    (hlater : Inbox.Readable later) : Inbox.Readable lines := by
  obtain ⟨line, cs, rfl, hdecode, -⟩ := names.line
  intro l hl
  rw [List.mem_append, List.mem_cons] at hl
  rcases hl with hl | rfl | hl
  · exact names.readable l hl
  · simp [hdecode]
  · exact hlater l hl

/-- **A reply completes the question that waits for it exactly if it has the right shape.** -/
theorem call_goesByShape (hc : c.waits = true)
    (takes : P.take (c.line e.nextId) e.peer = (.taken printed last, peer))
    (names : Names e (e.inbox.completed printed last) earlier ms later) :
    GoesByShape P e c (e.inbox.messages ++ Inbox.messagesOn earlier) ms later last := by
  have htaken : (P.take (c.line e.nextId) e.peer).1 ≠ .refused := by simp [takes]
  obtain ⟨answer, hafter⟩ := engine_waits hc htaken
  have hleft : ((engine P).after c e).inbox.messages = (e.awaited P c).rest := by
    rw [hafter]
    rfl
  have completes : ∀ r, EngineReply.Shape ms r →
      (engine P).answer c e
          = c.read (outputs (e.inbox.messages ++ Inbox.messagesOn earlier)) (some r) ∧
        e.portion P c = e.inbox.messages ++ Inbox.messagesOn earlier ++ [.reply r] := by
    intro r hr
    obtain ⟨hawaited, hfound⟩ := names.awaited_reply takes hr
    rw [hawaited] at answer hleft
    exact ⟨answer, portion_eq hfound hleft⟩
  exact
    { completes := completes
      reports := by
        intro r err hr herr
        rw [(completes r hr).1]
        exact EngineCall.failure_reported hc _ herr
      results := by
        intro r hr herr err hfailure
        rw [(completes r hr).1] at hfailure
        exact EngineCall.failure_protocol _ herr hfailure
      passed := by
        intro shapeless
        refine ⟨EngineMessage.ofJson (.obj ms), fun m => ?_, names.found takes⟩
        rw [EngineMessage.ofJson_obj]
        simp [shapeless]
      hangs := by
        intro shapeless others hlast hreadable
        refine after_unanswered hc htaken (names.awaited_none takes shapeless others) ?_
        have hheard := (hear_inbox (e := { e with nextId := e.nextId + 1, peer := peer })
          names.reading printed last).2
        rw [told_taken takes, hheard]
        exact ⟨hlast, names.readable_lines hreadable⟩
      exits := by
        intro shapeless others
        rw [answer, names.awaited_none takes shapeless others]
        exact EngineCall.failure_exited hc _ }

end Named

/-- A process that prints a line and no more, whatever it is asked. -/
def answering (line : String) (last : Bool) : Peer Unit :=
  ⟨fun _ peer => (.taken (line ++ "\n").toUTF8.toList last, peer)⟩

/-- What a process prints and what it is read as. -/
structure Printed (line : String) (ms : List (String × Json)) (last : Bool) : Prop where
  lines : (start ()).inbox.completed (line ++ "\n").toUTF8.toList last = [line.toUTF8.toList]
  decoded : Text.Utf8.decode? line.toUTF8.toList = some line.toList
  parsed : Json.parse? (String.ofList line.toList) = some (.obj ms)
  id : Json.lookup "id" ms = some (.int 1)

lemma Printed.names {line : String} {ms : List (String × Json)} {last : Bool}
    (h : Printed line ms last) : Names (start ())
      ((start ()).inbox.completed (line ++ "\n").toUTF8.toList last) [] ms [] where
  reading := rfl
  readable := by simp [Inbox.Readable]
  others := by simp [start, Inbox.empty, Inbox.messagesOn]
  line := ⟨line.toUTF8.toList, line.toList, h.lines, h.decoded, h.parsed⟩
  id := h.id

/-- A reply that reports a fault. -/
def faultLine : String := "\x7b\"id\":1,\"error\":\x7b\"message\":\"fault\"\x7d\x7d"

def faultMembers : List (String × Json) :=
  [("id", .int 1), ("error", .obj [("message", .str "fault")])]

lemma fault_shape : EngineReply.Shape faultMembers ⟨1, .null, some ⟨"fault", none⟩⟩ where
  once := by decide
  id := rfl
  bound := by decide
  result := rfl
  error := .given (.object (by decide) rfl .missing)

theorem fault_goesByShape :
    EngineReply.Shape faultMembers ⟨1, .null, some ⟨"fault", none⟩⟩ ∧
      GoesByShape (answering faultLine false) (start ()) .stackFrames [] faultMembers [] false :=
  have printed : Printed faultLine faultMembers false :=
    ⟨by decide +kernel, by decide +kernel, by decide +kernel, rfl⟩
  ⟨fault_shape, call_goesByShape rfl rfl printed.names⟩

/-- A reply whose error is a text where a report should be. -/
def boomLine : String := "\x7b\"id\":1,\"error\":\"boom\"\x7d"

/-- It names the question that waits, and yet the question waits for good, or until the process has
gone. -/
theorem boom_passed_over :
    let told := fun last => (start ()).inbox.completed (boomLine ++ "\n").toUTF8.toList last
    let members := [("id", .int 1), ("error", .str "boom")]
    Names (start ()) (told false) [] members [] ∧ Names (start ()) (told true) [] members [] ∧
      ((engine (answering boomLine false)).after .stackFrames (start ())).unanswered = some 1 ∧
      EngineCall.failure .stackFrames
        ((engine (answering boomLine true)).answer .stackFrames (start ())) = some .exited :=
  have printed (last : Bool) : Printed boomLine [("id", .int 1), ("error", .str "boom")] last :=
    ⟨by cases last <;> decide +kernel, by decide +kernel, by decide +kernel, rfl⟩
  ⟨(printed false).names, (printed true).names, by decide +kernel, by decide +kernel⟩

end EngineProcess

end QuantumDebug
