import Mathlib.Data.List.Induction
import Mathlib.Tactic.ByContra
import Mathlib.Tactic.Lemma
import QuantumDebug.Table

/-!
Tables as maps. A table that keeps its keys in order is known by what it gives for each key. Entries
written one after another leave for each key what was written last, and what they take away again
is told as well.
-/

namespace QuantumDebug

open scoped List

variable {α β : Type}

namespace Table

/-! ### Looking up -/

lemma get?_eq_lookup (t : Table α) (key : String) : t.get? key = t.entries.lookup key := by
  obtain ⟨es⟩ := t
  show findEntry key es = es.lookup key
  induction es with
  | nil => rfl
  | cons e es ih =>
    obtain ⟨k, v⟩ := e
    by_cases h : k = key
    · simp [findEntry, h]
    · have h' : (key == k) = false := by simpa using fun hk : key = k => h hk.symm
      rw [findEntry, if_neg h, List.lookup_cons, h', ih]

@[simp] lemma get?_empty (key : String) : (empty : Table α).get? key = none := rfl

@[simp] lemma get?_insert (t : Table α) (key other : String) (value : α) :
    (t.insert key value).get? other = if other = key then some value else t.get? other := by
  obtain ⟨es⟩ := t
  show findEntry other (insertEntry key value es) = if other = key then some value
    else findEntry other es
  induction es with
  | nil => simp [insertEntry, findEntry, eq_comm]
  | cons e es ih =>
    obtain ⟨k, v⟩ := e
    unfold insertEntry
    split
    · -- the entry with the key is replaced
      rename_i hk
      by_cases h : other = key
      · simp [findEntry, h]
      · have h' : ¬ key = other := fun hk => h hk.symm
        simp [findEntry, h, h', ← hk]
    · rename_i hk
      split
      · simp [findEntry, eq_comm]
      · by_cases h : k = other
        · subst h
          have h' : ¬ k = key := fun h => hk h.symm
          simp [findEntry, h']
        · simp [findEntry, h, ih]

/-! ### Order -/

/-- The keys of a table come in order, each of them once. -/
def Sorted (t : Table α) : Prop := t.entries.Pairwise fun a b => a.1 < b.1

lemma sorted_empty : (empty : Table α).Sorted := List.Pairwise.nil

lemma mem_insertEntry {key : String} {value : α} {es : List (String × α)} {e : String × α}
    (h : e ∈ insertEntry key value es) : e = (key, value) ∨ e ∈ es := by
  induction es with
  | nil => exact .inl (List.mem_singleton.mp h)
  | cons e' es ih =>
    obtain ⟨k, v⟩ := e'
    unfold insertEntry at h
    split at h
    · rcases List.mem_cons.mp h with h | h
      · exact .inl h
      · exact .inr (List.mem_cons_of_mem _ h)
    · split at h
      · exact List.mem_cons.mp h
      · rcases List.mem_cons.mp h with rfl | h
        · exact .inr List.mem_cons_self
        · exact (ih h).imp id (List.mem_cons_of_mem _)

lemma Sorted.insert {t : Table α} (h : t.Sorted) (key : String) (value : α) :
    (t.insert key value).Sorted := by
  obtain ⟨es⟩ := t
  unfold Sorted at h
  show (insertEntry key value es).Pairwise fun a b => a.1 < b.1
  induction es with
  | nil => exact List.pairwise_singleton _ _
  | cons e es ih =>
    obtain ⟨k, v⟩ := e
    obtain ⟨hhead, htail⟩ := List.pairwise_cons.mp h
    unfold insertEntry
    split
    · rename_i hk
      exact List.pairwise_cons.mpr ⟨fun e he => hk ▸ hhead e he, htail⟩
    · rename_i hk
      split
      · rename_i hlt
        refine List.pairwise_cons.mpr ⟨fun e he => ?_, h⟩
        rcases List.mem_cons.mp he with rfl | he
        · exact hlt
        · exact String.lt_trans hlt (hhead e he)
      · rename_i hlt
        refine List.pairwise_cons.mpr ⟨fun e he => ?_, ih htail⟩
        rcases mem_insertEntry he with rfl | he
        · exact Std.lt_of_le_of_ne (String.not_lt.mp hlt) (Ne.symm hk)
        · exact hhead e he

lemma Sorted.mem_iff {t : Table α} (h : t.Sorted) {key : String} {value : α} :
    (key, value) ∈ t.entries ↔ t.get? key = some value := by
  obtain ⟨es⟩ := t
  unfold Sorted at h
  show (key, value) ∈ es ↔ findEntry key es = some value
  induction es with
  | nil => simp [findEntry]
  | cons e es ih =>
    obtain ⟨k, v⟩ := e
    obtain ⟨hhead, htail⟩ := List.pairwise_cons.mp h
    rw [List.mem_cons, ih htail, findEntry]
    split
    · rename_i hk
      subst hk
      constructor
      · rintro (heq | hmem)
        · rw [(Prod.mk.inj heq).2]
        · exact absurd (hhead _ ((ih htail).mpr hmem)) (String.lt_irrefl _)
      · intro heq
        exact .inl (by rw [Option.some.inj heq])
    · rename_i hk
      constructor
      · rintro (heq | hmem)
        · exact absurd (Prod.mk.inj heq).1.symm hk
        · exact hmem
      · exact .inr

lemma Sorted.ext {t u : Table α} (ht : t.Sorted) (hu : u.Sorted)
    (h : ∀ key, t.get? key = u.get? key) : t = u := by
  have hnodup {v : Table α} (hv : v.Sorted) : v.entries.Nodup := by
    refine List.Pairwise.imp (S := (· ≠ ·)) ?_ hv
    rintro a b hab rfl
    exact String.lt_irrefl _ hab
  have hperm : t.entries.Perm u.entries :=
    (List.perm_ext_iff_of_nodup (hnodup ht) (hnodup hu)).mpr fun e => by
      obtain ⟨key, value⟩ := e
      rw [ht.mem_iff, hu.mem_iff, h]
  have hentries : t.entries = u.entries :=
    List.Perm.eq_of_pairwise (fun a b _ _ hab hba => absurd hba (String.lt_asymm hab)) ht hu hperm
  cases t
  cases u
  exact congrArg Table.mk hentries

lemma Sorted.insert_comm {t : Table α} (h : t.Sorted) {key key' : String} (hne : key ≠ key')
    (value value' : α) :
    (t.insert key value).insert key' value' = (t.insert key' value').insert key value := by
  refine ((h.insert _ _).insert _ _).ext ((h.insert _ _).insert _ _) fun other => ?_
  by_cases hk : other = key
  · subst hk
    simp [hne]
  · simp [hk]

lemma Sorted.insert_of_get? {t : Table α} (h : t.Sorted) {key : String} {value : α}
    (hkey : t.get? key = some value) : t.insert key value = t := by
  refine (h.insert _ _).ext h fun other => ?_
  by_cases hk : other = key <;> simp [hk, hkey]

/-! ### Other values -/

def map (f : α → β) (t : Table α) : Table β := ⟨t.entries.map fun e => (e.1, f e.2)⟩

@[simp] lemma map_id : map (id : α → α) = id := by
  funext t
  simp [map]

lemma get?_map (f : α → β) (t : Table α) (key : String) :
    (t.map f).get? key = (t.get? key).map f := by
  obtain ⟨es⟩ := t
  show findEntry key (es.map fun e => (e.1, f e.2)) = (findEntry key es).map f
  induction es with
  | nil => rfl
  | cons e es ih =>
    simp only [List.map_cons, findEntry]
    split
    · rfl
    · exact ih

lemma insert_map (f : α → β) (t : Table α) (key : String) (value : α) :
    (t.map f).insert key (f value) = (t.insert key value).map f := by
  obtain ⟨es⟩ := t
  refine congrArg mk ?_
  show insertEntry key (f value) (es.map fun e => (e.1, f e.2)) =
    (insertEntry key value es).map fun e => (e.1, f e.2)
  induction es with
  | nil => rfl
  | cons e es ih =>
    simp only [List.map_cons, insertEntry]
    split
    · rfl
    · split
      · rfl
      · rw [List.map_cons, ih]

lemma values_map (f : α → β) (t : Table α) : (t.map f).values = t.values.map f := by
  simp [values, map]

/-! ### Many entries -/

def insertAll (t : Table α) (es : List (String × α)) : Table α :=
  es.foldl (fun t e => t.insert e.1 e.2) t

@[simp] lemma insertAll_nil (t : Table α) : t.insertAll [] = t := rfl

@[simp] lemma insertAll_cons (t : Table α) (e : String × α) (es : List (String × α)) :
    t.insertAll (e :: es) = (t.insert e.1 e.2).insertAll es := rfl

lemma insertAll_append (t : Table α) (es fs : List (String × α)) :
    t.insertAll (es ++ fs) = (t.insertAll es).insertAll fs := by
  simp [insertAll, List.foldl_append]

lemma Sorted.insertAll {t : Table α} (h : t.Sorted) (es : List (String × α)) :
    (t.insertAll es).Sorted := by
  induction es generalizing t with
  | nil => exact h
  | cons e es ih => exact ih (h.insert _ _)

/-- Of the entries for a key the last one counts. -/
lemma get?_insertAll (t : Table α) (es : List (String × α)) (key : String) :
    (t.insertAll es).get? key = (es.reverse.lookup key).or (t.get? key) := by
  induction es generalizing t with
  | nil => rfl
  | cons e es ih =>
    obtain ⟨k, v⟩ := e
    rw [insertAll_cons, ih, List.reverse_cons, List.lookup_append, Option.or_assoc]
    congr 1
    by_cases h : key = k
    · simp [h]
    · have h' : (key == k) = false := by simpa using h
      simp [List.lookup_cons, h, h']

lemma Sorted.lookup_reverse {t : Table α} (h : t.Sorted) (key : String) :
    t.entries.reverse.lookup key = t.get? key := by
  have hsame (value : α) : t.entries.reverse.lookup key = some value → t.get? key = some value := by
    intro hlookup
    obtain ⟨pre, post, heq, -⟩ := List.lookup_eq_some_iff.mp hlookup
    exact h.mem_iff.mp (List.mem_reverse.mp (heq ▸ by simp))
  cases hlookup : t.entries.reverse.lookup key with
  | some value => exact (hsame value hlookup).symm
  | none =>
    rw [get?_eq_lookup, eq_comm, List.lookup_eq_none_iff]
    exact fun e he => List.lookup_eq_none_iff.mp hlookup e (List.mem_reverse.mpr he)

lemma lookup_filter_fst (es : List (String × α)) (P : String → Bool) (key : String) :
    (es.filter (P ·.1)).lookup key = if P key then es.lookup key else none := by
  induction es with
  | nil => simp
  | cons e es ih =>
    obtain ⟨k, v⟩ := e
    by_cases hkey : key = k
    · subst hkey
      cases hP : P key <;> simp [hP, ih]
    · have hne : (key == k) = false := by simpa using hkey
      cases hP : P k <;> simp [hP, ih, List.lookup_cons, hne]

lemma insertAll_filter (es : List (String × α)) (P : String → Bool) :
    ((empty : Table α).insertAll (es.filter (P ·.1))).entries =
      ((empty : Table α).insertAll es).entries.filter (P ·.1) := by
  have hall := (sorted_empty (α := α)).insertAll es
  have hpicked : (⟨((empty : Table α).insertAll es).entries.filter (P ·.1)⟩ : Table α).Sorted :=
    List.Pairwise.filter _ hall
  refine congrArg Table.entries ((sorted_empty.insertAll _).ext hpicked fun key => ?_)
  have hlookup : ((empty : Table α).insertAll es).entries.lookup key = es.reverse.lookup key := by
    rw [← get?_eq_lookup, get?_insertAll, get?_empty, Option.or_none]
  rw [get?_insertAll, get?_empty, Option.or_none, ← List.filter_reverse, lookup_filter_fst,
    get?_eq_lookup, lookup_filter_fst, hlookup]

/-! ### What is overwritten -/

/-- What entries take away again of what a table holds or they themselves have brought. -/
def overwritten (t : Table (List β)) : List (String × List β) → List β
  | [] => []
  | e :: es => (t.get? e.1).getD [] ++ (t.insert e.1 e.2).overwritten es

lemma Sorted.perm_insert {t : Table (List β)} (h : t.Sorted) (key : String) (value : List β) :
    ((t.insert key value).values.flatten ++ (t.get? key).getD []).Perm
      (t.values.flatten ++ value) := by
  obtain ⟨es⟩ := t
  unfold Sorted at h
  show (((insertEntry key value es).map Prod.snd).flatten ++ (findEntry key es).getD []).Perm
    ((es.map Prod.snd).flatten ++ value)
  induction es with
  | nil => simp [insertEntry, findEntry]
  | cons e es ih =>
    obtain ⟨k, v⟩ := e
    obtain ⟨hhead, htail⟩ := List.pairwise_cons.mp h
    unfold insertEntry
    split
    · -- the old value goes, the new one comes
      rename_i hk
      simp only [findEntry, hk, if_true, Option.getD_some, List.map_cons, List.flatten_cons]
      calc
        value ++ (es.map Prod.snd).flatten ++ v
        _ = value ++ ((es.map Prod.snd).flatten ++ v) := List.append_assoc _ _ _
        _ ~ value ++ (v ++ (es.map Prod.snd).flatten) := List.perm_append_comm.append_left _
        _ ~ v ++ (es.map Prod.snd).flatten ++ value := List.perm_append_comm
    · rename_i hk
      have hkey : ¬ k = key := fun h => hk h.symm
      split
      · rename_i hlt
        have hnone : findEntry key es = none := by
          cases hfind : findEntry key es with
          | none => rfl
          | some x =>
            have hmem : (key, x) ∈ es := (Sorted.mem_iff (t := ⟨es⟩) htail).mpr hfind
            exact absurd (hhead _ hmem) (String.lt_asymm hlt)
        simp only [findEntry, hkey, if_false, hnone, Option.getD_none, List.append_nil,
          List.map_cons, List.flatten_cons]
        exact List.perm_append_comm
      · simp only [findEntry, hkey, if_false, List.map_cons, List.flatten_cons, List.append_assoc]
        exact (ih htail).append_left v

/-- What is brought is there afterwards, or it is taken away. -/
lemma Sorted.perm_insertAll {t : Table (List β)} (h : t.Sorted) (es : List (String × List β)) :
    ((t.insertAll es).values.flatten ++ t.overwritten es).Perm
      (t.values.flatten ++ es.flatMap Prod.snd) := by
  induction es generalizing t with
  | nil => simp [overwritten]
  | cons e es ih =>
    obtain ⟨key, value⟩ := e
    have hfirst := (h.perm_insert key value).append_right (es.flatMap Prod.snd)
    have hrest := (ih (h.insert key value)).append_left ((t.get? key).getD [])
    simp only [insertAll_cons, overwritten, List.flatMap_cons]
    calc
      ((t.insert key value).insertAll es).values.flatten ++
          ((t.get? key).getD [] ++ (t.insert key value).overwritten es)
      _ ~ (t.get? key).getD [] ++ (((t.insert key value).insertAll es).values.flatten ++
          (t.insert key value).overwritten es) := List.perm_append_comm_assoc _ _ _
      _ ~ (t.get? key).getD [] ++ ((t.insert key value).values.flatten ++ es.flatMap Prod.snd) :=
        hrest
      _ = (t.get? key).getD [] ++ (t.insert key value).values.flatten ++ es.flatMap Prod.snd :=
        (List.append_assoc _ _ _).symm
      _ ~ (t.insert key value).values.flatten ++ (t.get? key).getD [] ++ es.flatMap Prod.snd :=
        List.perm_append_comm.append_right _
      _ ~ t.values.flatten ++ value ++ es.flatMap Prod.snd := hfirst
      _ = t.values.flatten ++ (value ++ es.flatMap Prod.snd) := List.append_assoc _ _ _

lemma overwritten_eq_nil_iff_of_table (t : Table (List β)) (es : List (String × List β)) :
    t.overwritten es = [] ↔
      (∀ e ∈ es, (t.get? e.1).getD [] = []) ∧
        ∀ pre e post, es = pre ++ e :: post → (∃ e' ∈ post, e'.1 = e.1) → e.2 = [] := by
  induction es generalizing t with
  | nil => simp [overwritten]
  | cons e es ih =>
    rw [overwritten, List.append_eq_nil_iff, ih]
    constructor
    · rintro ⟨hfirst, hothers, hlater⟩
      have hvalue : (∃ e' ∈ es, e'.1 = e.1) → e.2 = [] := by
        rintro ⟨e', he', hkey⟩
        simpa [hkey] using hothers e' he'
      refine ⟨List.forall_mem_cons.mpr ⟨hfirst, fun e' he' => ?_⟩, ?_⟩
      · by_cases hkey : e'.1 = e.1
        · rw [hkey]
          exact hfirst
        · simpa [hkey] using hothers e' he'
      · intro pre e' post heq
        cases pre with
        | nil =>
          obtain ⟨rfl, rfl⟩ : e = e' ∧ es = post := by simpa using heq
          exact hvalue
        | cons first pre =>
          obtain ⟨rfl, rfl⟩ : e = first ∧ es = pre ++ e' :: post := by simpa using heq
          exact hlater pre e' post rfl
    · rintro ⟨hall, hlater⟩
      refine ⟨hall e List.mem_cons_self, fun e' he' => ?_, fun pre e' post heq => ?_⟩
      · by_cases hkey : e'.1 = e.1
        · simpa [hkey] using hlater [] e es rfl ⟨e', he', hkey⟩
        · simpa [hkey] using hall e' (List.mem_cons_of_mem _ he')
      · exact hlater (e :: pre) e' post (by rw [heq, List.cons_append])

/-- Nothing is taken away again just if every entry that is not the last for its key is empty. -/
lemma overwritten_eq_nil_iff (es : List (String × List β)) :
    (empty : Table (List β)).overwritten es = [] ↔
      ∀ pre e post, es = pre ++ e :: post → (∃ e' ∈ post, e'.1 = e.1) → e.2 = [] := by
  rw [overwritten_eq_nil_iff_of_table]
  exact and_iff_right fun e _ => rfl

end Table

/-! ### Lists put together in the order of texts -/

/-- What belongs to texts, put together in the order of the texts. -/
def InOrder (view : String → List β) (xs : List β) : Prop :=
  ∃ keys : List String, keys.Pairwise (· < ·) ∧ (∀ key, view key ≠ [] → key ∈ keys) ∧
    xs = keys.flatMap view

lemma Table.Sorted.inOrder {t : Table α} (h : t.Sorted) (f : α → List β) :
    InOrder (fun key => ((t.get? key).map f).getD []) (t.values.flatMap f) := by
  refine ⟨t.entries.map Prod.fst, List.pairwise_map.mpr h, fun key hkey => ?_, ?_⟩
  · cases hget : t.get? key with
    | none => simp [hget] at hkey
    | some value => exact List.mem_map.mpr ⟨(key, value), h.mem_iff.mpr hget, rfl⟩
  · have hentry : ∀ e ∈ t.entries, f e.2 = ((t.get? e.1).map f).getD [] := by
      rintro ⟨key, value⟩ he
      simp [h.mem_iff.mp he]
    rw [Table.values, List.flatMap_map, List.flatMap_map, List.flatMap_def, List.flatMap_def,
      List.map_congr_left hentry]

end QuantumDebug
