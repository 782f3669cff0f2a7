import CaptionAnimation.Proofs.Cache.Recent
import CaptionAnimation.Proofs.Except
import CaptionAnimation.Proofs.Value.Sameness
import Mathlib.Data.List.DropRight

/-! # What a cache keeps of its history

A cache is a short memory of its history: it keeps the keys that were used last, as many of them as there is room for,
each with the value that was last set for it. A key is used when it is set, or looked up and found. -/
namespace CaptionAnimation

namespace Recent

variable {κ υ : Type}

/-! ## Operations -/

/-- What can be asked of a cache. -/
inductive Operation (κ υ : Type) where
  | set (key : κ) (value : υ)
  | get (key : κ) (default : υ)
  | contains (key : κ)
  | length
  | clear

inductive Answer (υ : Type) where
  | done
  | value (v : υ)
  | found (b : Bool)
  | count (n : ℕ)

namespace Operation

def key? : Operation κ υ → Option κ
  | set key _ | get key _ | contains key => some key
  | length | clear => none

def isGet : Operation κ υ → Bool
  | get _ _ => true
  | _ => false

def isClear : Operation κ υ → Bool
  | clear => true
  | _ => false

/-- The operation sets a key that equals this one. -/
def Sets [BEq κ] (key : κ) : Operation κ υ → Prop
  | set other _ => (other == key) = true
  | _ => False

end Operation

/-- The operations after the last one that cleared the cache. -/
def sinceClear (ops : List (Operation κ υ)) : List (Operation κ υ) := ops.rtakeWhile fun op => !op.isClear

theorem sinceClear_concat (ops : List (Operation κ υ)) (op : Operation κ υ) :
    sinceClear (ops ++ [op]) = if op.isClear then [] else sinceClear ops ++ [op] := by
  cases h : op.isClear <;> simp [sinceClear, h]

variable [BEq κ]

def perform (c : Recent κ υ) : Operation κ υ → Answer υ × Recent κ υ
  | .set key value => (.done, c.set key value)
  | .get key default => (.value ((c.find key).1.getD default), (c.find key).2)
  | .contains key => (.found (c.contains key), c)
  | .length => (.count c.length, c)
  | .clear => (.done, c.clear)

/-! ## Memory -/

/-- Keys in the order of their last use; one that a later key equals is left out. -/
def lastUses : List κ → List κ
  | [] => []
  | key :: later => if later.any (key == ·) then lastUses later else key :: lastUses later

/-- Of the keys used, the last that differ, up to this many. -/
def lastKeys (size : ℕ) (used : List κ) : List κ := (lastUses used).rtake size

/-- The keys used so far, with those of one more operation. A key that is looked up is used when it is one of the last. -/
def usedThen (size : ℕ) (used : List κ) : Operation κ υ → List κ
  | .set key _ => used ++ [key]
  | .get key _ => if (lastKeys size used).any (key == ·) then used ++ [key] else used
  | .contains _ | .length => used
  | .clear => []

def used (size : ℕ) (ops : List (Operation κ υ)) : List κ := ops.foldl (usedThen size) []

/-- One key and the same, or keys that are equal. -/
def Alike (a b : κ) : Prop := a = b ∨ (a == b) = true

/-- The value is that of the last operation that set the key. -/
def LastSet (ops : List (Operation κ υ)) (key : κ) (value : υ) : Prop :=
  ∃ before other later, ops = before ++ .set other value :: later ∧ Alike key other ∧ ∀ op ∈ later, ¬ op.Sets key

theorem used_concat (size : ℕ) (ops : List (Operation κ υ)) (op : Operation κ υ) :
    used size (ops ++ [op]) = usedThen size (used size ops) op := by
  simp [used]

theorem LastSet.concat {ops : List (Operation κ υ)} {key : κ} {value : υ} (h : LastSet ops key value)
    {op : Operation κ υ} (hop : ¬ op.Sets key) : LastSet (ops ++ [op]) key value := by
  obtain ⟨before, other, later, rfl, halike, hlater⟩ := h
  refine ⟨before, other, later ++ [op], by simp, halike, ?_⟩
  simpa [or_imp, forall_and] using ⟨hlater, hop⟩

theorem mem_of_mem_lastUses {a : κ} {used : List κ} (h : a ∈ lastUses used) : a ∈ used := by
  induction used with
  | nil => exact h
  | cons b later ih =>
    rw [lastUses] at h
    split at h
    · exact List.mem_cons_of_mem _ (ih h)
    · rcases List.mem_cons.mp h with rfl | h
      · exact List.mem_cons_self
      · exact List.mem_cons_of_mem _ (ih h)

/-- Of two keys in the order of their last use, the first does not equal the second. -/
theorem pairwise_lastUses (used : List κ) : (lastUses used).Pairwise fun a b => (a == b) = false := by
  induction used with
  | nil => exact List.Pairwise.nil
  | cons b later ih =>
    rw [lastUses]
    split
    · exact ih
    · next hb =>
      have hlater : ∀ a ∈ later, (b == a) = false := by simpa using hb
      exact List.Pairwise.cons (fun a ha => hlater a (mem_of_mem_lastUses ha)) ih

/-- A key that is used becomes the last one. -/
theorem lastUses_concat (used : List κ) (key : κ) :
    lastUses (used ++ [key]) = (lastUses used).filter (fun a => !(a == key)) ++ [key] := by
  induction used with
  | nil => rfl
  | cons a later ih =>
    rw [List.cons_append, lastUses, lastUses, ih]
    cases hlater : later.any (a == ·) <;> cases hkey : a == key <;> simp [hlater, hkey]

/-! ## Keys that compare well -/

theorem rtake_append_of_le {α : Type} {n : ℕ} (l : List α) {m : List α} (h : n ≤ m.length) :
    (l ++ m).rtake n = m.rtake n := by
  have hl : l.length ≤ (l ++ m).length - n := by rw [List.length_append]; omega
  rw [List.rtake, List.rtake, List.drop_append, List.drop_eq_nil_of_le hl, List.nil_append]
  congr 1
  rw [List.length_append]
  omega

theorem map_rtake {α β : Type} (f : α → β) (l : List α) (n : ℕ) : (l.rtake n).map f = (l.map f).rtake n := by
  rw [List.rtake, List.rtake, List.map_drop, List.length_map]

/-- A filter that leaves out one item at most finds the last items among one more of them. -/
theorem rtake_filter_of_countP_le {α : Type} {n : ℕ} {p : α → Bool} {l : List α} (h : l.countP (fun a => !p a) ≤ 1) :
    (l.filter p).rtake n = ((l.rtake (n + 1)).filter p).rtake n := by
  rcases Nat.lt_or_ge n l.length with hn | hn
  · have hlength : (l.rtake (n + 1)).length = n + 1 := by rw [List.rtake, List.length_drop]; omega
    have hfew : (l.rtake (n + 1)).countP (fun a => !p a) ≤ 1 := (List.drop_sublist _ l).countP_le.trans h
    have hsplit := List.length_eq_countP_add_countP p (l := l.rtake (n + 1))
    have hmany : n ≤ ((l.rtake (n + 1)).filter p).length := by
      rw [← List.countP_eq_length_filter]
      simp only [Bool.not_eq_true, Bool.decide_eq_false] at hsplit
      omega
    conv_lhs => rw [← List.take_append_drop (l.length - (n + 1)) l, List.filter_append]
    exact rtake_append_of_le _ hmany
  · have hall : l.rtake (n + 1) = l := by rw [List.rtake, Nat.sub_eq_zero_of_le (by omega), List.drop_zero]
    rw [hall]

/-- Among the keys of a kind, equality is symmetric and transitive; a key need not equal itself. -/
structure Coherent (K : κ → Prop) : Prop where
  symm : ∀ {a b}, K a → K b → (a == b) = true → (b == a) = true
  trans : ∀ {a b c}, K a → K b → K c → (a == b) = true → (b == c) = true → (a == c) = true

/-- Two keys of a kind that are alike. -/
def Same (K : κ → Prop) (a b : κ) : Prop := K a ∧ K b ∧ Alike a b

variable {K : κ → Prop}

namespace Coherent

theorem comm (hK : Coherent K) {a b : κ} (ha : K a) (hb : K b) : (a == b) = (b == a) :=
  Bool.eq_iff_iff.mpr ⟨hK.symm ha hb, hK.symm hb ha⟩

/-- Keys that are alike compare alike. -/
theorem beq_congr (hK : Coherent K) {a b key : κ} (hab : Same K a b) (hkey : K key) : (key == a) = (key == b) := by
  obtain ⟨ha, hb, rfl | hab⟩ := hab
  · rfl
  · exact Bool.eq_iff_iff.mpr
      ⟨fun h => hK.trans hkey ha hb h hab, fun h => hK.trans hkey hb ha h (hK.symm ha hb hab)⟩

/-- Of keys that differ, at most one equals a key. -/
theorem countP_le_one (hK : Coherent K) {keys : List κ} (hkeys : ∀ a ∈ keys, K a)
    (hd : keys.Pairwise fun a b => (a == b) = false) {key : κ} (hkey : K key) : keys.countP (· == key) ≤ 1 := by
  induction keys with
  | nil => simp
  | cons a later ih =>
    obtain ⟨ha, hlater⟩ := List.forall_mem_cons.mp hkeys
    obtain ⟨had, hd⟩ := List.pairwise_cons.mp hd
    rw [List.countP_cons]
    by_cases h : (a == key) = true
    · have hnone : later.countP (· == key) = 0 := by
        refine List.countP_eq_zero.mpr fun b hb hbk => ?_
        have := hK.trans ha hkey (hlater b hb) h (hK.symm (hlater b hb) hkey hbk)
        simp [had b hb] at this
      simp [hnone, h]
    · simpa [h] using ih hlater hd

/-- To use a key, it is enough to know the last keys. -/
theorem lastKeys_concat (hK : Coherent K) {size : ℕ} (hsize : 1 ≤ size) {used : List κ} (hused : ∀ a ∈ used, K a)
    {key : κ} (hkey : K key) : lastKeys size (used ++ [key]) =
      ((lastKeys size used).filter (fun a => !(key == a)) ++ [key]).rtake size := by
  obtain ⟨room, rfl⟩ := Nat.exists_eq_add_of_le' hsize
  have hall : ∀ a ∈ lastUses used, K a := fun a ha => hused a (mem_of_mem_lastUses ha)
  have hone : (lastUses used).countP (fun a => !!(key == a)) ≤ 1 := by
    have hcount := hK.countP_le_one hall (pairwise_lastUses used) hkey
    rwa [List.countP_congr fun a ha => by rw [hK.comm (hall a ha) hkey, ← Bool.not_not (key == a)]] at hcount
  have hfilter : (lastUses used).filter (fun a => !(a == key)) = (lastUses used).filter fun a => !(key == a) :=
    List.filter_congr fun a ha => by rw [hK.comm (hall a ha) hkey]
  rw [lastKeys, lastKeys, lastUses_concat, hfilter, List.rtake_concat_succ, List.rtake_concat_succ,
    rtake_filter_of_countP_le hone]

end Coherent

/-! ## Steps -/

/-- The spelling of a key in a cache. -/
def spelling (c : Recent κ υ) (key : κ) : κ := ((c.stored? key).map (·.1)).getD key

theorem keys_others (c : Recent κ υ) (key : κ) :
    (c.others key).map (·.1) = c.keys.filter fun a => !(key == a) := by
  rw [others, keys, List.filter_map]
  rfl

theorem entries_set (c : Recent κ υ) (key : κ) (value : υ) :
    (c.set key value).entries = (c.others key ++ [(c.spelling key, value)]).rtake c.size := rfl

theorem keys_set (c : Recent κ υ) (key : κ) (value : υ) :
    (c.set key value).keys = (c.keys.filter (fun a => !(key == a)) ++ [c.spelling key]).rtake c.size := by
  rw [keys, entries_set, map_rtake, List.map_append, keys_others]
  rfl

theorem stored?_eq_none_iff {c : Recent κ υ} {key : κ} :
    c.stored? key = none ↔ ∀ e ∈ c.entries, (key == e.1) = false := by
  simp [stored?]

theorem find_of_stored? {c : Recent κ υ} {key : κ} {e : κ × υ} (h : c.stored? key = some e) :
    c.find key = (some e.2, { c with entries := c.others key ++ [e], hits := c.hits + 1 }) := by
  rw [find, h]

theorem find_of_missing {c : Recent κ υ} {key : κ} (h : c.stored? key = none) :
    c.find key = (none, { c with misses := c.misses + 1 }) := by
  rw [find, h]

/-- A key and its spelling are alike. -/
theorem same_spelling (hK : Coherent K) {c : Recent κ υ} (hc : ∀ e ∈ c.entries, K e.1) {key : κ} (hkey : K key) :
    Same K (c.spelling key) key := by
  cases h : c.stored? key with
  | none =>
    have hs : c.spelling key = key := by rw [spelling, h]; rfl
    rw [hs]
    exact ⟨hkey, hkey, .inl rfl⟩
  | some e =>
    have hs : c.spelling key = e.1 := by rw [spelling, h]; rfl
    have he := hc e (mem_of_stored? h)
    rw [hs]
    exact ⟨he, hkey, .inr (hK.symm hkey he (beq_of_stored? h))⟩

theorem Coherent.forall₂_use (hK : Coherent K) {size : ℕ} (hsize : 1 ≤ size) {keys used : List κ}
    (hused : ∀ a ∈ used, K a) (h : List.Forall₂ (Same K) keys (lastKeys size used)) {key spelling : κ}
    (hs : Same K spelling key) : List.Forall₂ (Same K)
      ((keys.filter (fun a => !(key == a)) ++ [spelling]).rtake size) (lastKeys size (used ++ [key])) := by
  have hothers : List.Forall₂ (Same K) (keys.filter fun a => !(key == a))
      ((lastKeys size used).filter fun a => !(key == a)) :=
    List.rel_filter (fun a b hab => by simp [hK.beq_congr hab hs.2.1]) h
  have hall := List.rel_append hothers (List.Forall₂.cons hs List.Forall₂.nil)
  rw [hK.lastKeys_concat hsize hused hs.2.1, List.rtake, List.rtake, hall.length_eq]
  exact List.forall₂_drop _ hall

/-- The cache is right for its history since it was cleared: it keeps the last keys, each with the value it was last
set to, and has counted every lookup. -/
structure Remembers (K : κ → Prop) (size : ℕ) (ops : List (Operation κ υ)) (c : Recent κ υ) : Prop where
  size_eq : c.size = size
  uses : ∀ key ∈ used size ops, K key
  keys : List.Forall₂ (Same K) c.keys (lastKeys size (used size ops))
  distinct : c.keys.Pairwise fun a b => (a == b) = false
  values : ∀ e ∈ c.entries, LastSet ops e.1 e.2
  lookups : c.lookups = ops.countP Operation.isGet

namespace Remembers

variable {size : ℕ} {ops : List (Operation κ υ)} {c : Recent κ υ}

theorem nil (size : ℕ) : Remembers (υ := υ) K size [] { size := size } where
  size_eq := rfl
  uses := List.forall_mem_nil _
  keys := by simp [Recent.keys, lastKeys, used, lastUses]
  distinct := List.Pairwise.nil
  values := List.forall_mem_nil _
  lookups := rfl

theorem length_le (h : Remembers K size ops c) : c.length ≤ size := by
  have hlength := h.keys.length_eq
  rw [Recent.keys, List.length_map, lastKeys, List.rtake, List.length_drop] at hlength
  rw [length, hlength]
  omega

theorem isKey (h : Remembers K size ops c) : ∀ e ∈ c.entries, K e.1 := by
  have hkeys : ∀ key ∈ c.keys, K key := ((List.forall₂_and_left _ _).mp h.keys).1
  exact fun e he => hkeys e.1 (List.mem_map_of_mem he)

theorem stored?_eq_some (hK : Coherent K) (h : Remembers K size ops c) {key : κ} (hkey : K key) {e : κ × υ}
    (he : e ∈ c.entries) (hbeq : (key == e.1) = true) : c.stored? key = some e := by
  have hd : c.entries.Pairwise fun a b => (a.1 == b.1) = false := List.pairwise_map.mp h.distinct
  have hkeys := h.isKey
  obtain ⟨before, later, hentries⟩ := List.append_of_mem he
  rw [hentries] at hd
  rw [stored?, hentries]
  refine List.find?_eq_some_iff_append.mpr ⟨hbeq, before, later, rfl, fun a ha => ?_⟩
  have hKa : K a.1 := hkeys a (by rw [hentries]; exact List.mem_append_left _ ha)
  have hne := (List.pairwise_append.mp hd).2.2 a ha e List.mem_cons_self
  have hkey' : (key == a.1) = false :=
    Bool.eq_false_iff.mpr fun hka =>
      Bool.eq_false_iff.mp hne (hK.trans hKa hkey (hkeys e he) (hK.symm hkey hKa hka) hbeq)
  simp [hkey']

/-- The history tells whether a key is found. -/
theorem any_lastKeys (hK : Coherent K) (h : Remembers K size ops c) {key : κ} (hkey : K key) :
    (lastKeys size (used size ops)).any (key == ·) = (c.stored? key).isSome := by
  have hany : ∀ l m, List.Forall₂ (Same K) l m → l.any (key == ·) = m.any (key == ·) := by
    intro l m hlm
    induction hlm with
    | nil => rfl
    | cons hab _ ih => rw [List.any_cons, List.any_cons, ih, hK.beq_congr hab hkey]
  rw [← hany _ _ h.keys, Recent.keys, List.any_map, stored?, List.isSome_find?]
  rfl

theorem distinct_set (hK : Coherent K) (h : Remembers K size ops c) {key : κ} (hkey : K key) (value : υ) :
    (c.set key value).keys.Pairwise fun a b => (a == b) = false := by
  rw [keys_set]
  refine List.Pairwise.sublist (List.drop_sublist _ _) ?_
  refine List.pairwise_append.mpr ⟨h.distinct.filter _, List.pairwise_singleton _ _, fun a ha b hb => ?_⟩
  obtain ⟨ha, hne⟩ := List.mem_filter.mp ha
  obtain ⟨e, he, rfl⟩ := List.mem_map.mp ha
  have hs := same_spelling hK h.isKey hkey
  rw [List.mem_singleton.mp hb, hK.beq_congr hs (h.isKey e he), hK.comm (h.isKey e he) hkey]
  simpa using hne

theorem set (hK : Coherent K) (hsize : 1 ≤ size) (h : Remembers K size ops c) {key : κ} (hkey : K key) (value : υ) :
    Remembers K size (ops ++ [.set key value]) (c.set key value) where
  size_eq := h.size_eq
  uses := by
    rw [used_concat]
    exact List.forall_mem_append.mpr ⟨h.uses, List.forall_mem_singleton.mpr hkey⟩
  keys := by
    rw [keys_set, used_concat, h.size_eq]
    exact hK.forall₂_use hsize h.uses h.keys (same_spelling hK h.isKey hkey)
  distinct := h.distinct_set hK hkey value
  values := by
    intro e he
    rw [entries_set] at he
    rcases List.mem_append.mp (List.mem_of_mem_drop he) with he | he
    · obtain ⟨he, hne⟩ := List.mem_filter.mp he
      exact (h.values e he).concat (by simpa [Operation.Sets] using hne)
    · rw [List.mem_singleton.mp he]
      exact ⟨ops, key, [], rfl, (same_spelling hK h.isKey hkey).2.2, List.forall_mem_nil _⟩
  lookups := by
    rw [List.countP_append, ← h.lookups]
    rfl

/-- To find a key is to set it to its value again, and to count a hit. -/
theorem get_found (hK : Coherent K) (hsize : 1 ≤ size) (h : Remembers K size ops c) {key : κ} (hkey : K key)
    {e : κ × υ} (he : c.stored? key = some e) (default : υ) :
    Remembers K size (ops ++ [.get key default]) (c.find key).2 := by
  have hset := h.set hK hsize hkey e.2
  have hspelling : c.spelling key = e.1 := by rw [spelling, he]; rfl
  have hfewer : (c.others key).length < c.entries.length :=
    List.length_filter_lt_length_iff_exists.mpr ⟨e, mem_of_stored? he, by simp [beq_of_stored? he]⟩
  have hentries : (c.set key e.2).entries = (c.find key).2.entries := by
    -- the key leaves its old place first, so that setting it drops no entry
    have hroom : (c.others key ++ [(c.spelling key, e.2)]).length - c.size = 0 := by
      have hlength := h.length_le
      rw [h.size_eq, List.length_append, List.length_singleton]
      rw [length] at hlength
      omega
    rw [entries_set, List.rtake, hroom, find_of_stored? he, hspelling]
    rfl
  have hkeys : (c.set key e.2).keys = (c.find key).2.keys := by rw [Recent.keys, hentries, Recent.keys]
  have hused : used size (ops ++ [.get key default]) = used size (ops ++ [.set key e.2]) := by
    rw [used_concat, used_concat, usedThen, usedThen, if_pos (by rw [h.any_lastKeys hK hkey, he]; rfl)]
  rw [find_of_stored? he] at hkeys hentries ⊢
  refine ⟨h.size_eq, hused ▸ hset.uses, hused ▸ hkeys ▸ hset.keys, hkeys ▸ hset.distinct, ?_, ?_⟩
  · intro e' he'
    rcases List.mem_append.mp he' with he' | he'
    · exact (h.values e' (mem_of_mem_others he')).concat (by simp [Operation.Sets])
    · rw [List.mem_singleton.mp he']
      exact (h.values e (mem_of_stored? he)).concat (by simp [Operation.Sets])
  · have hlookups := h.lookups
    rw [Recent.lookups] at hlookups ⊢
    rw [List.countP_append, ← hlookups, List.countP_singleton]
    simp [Operation.isGet]
    omega

/-- An operation that uses no key leaves the entries. -/
theorem keep (h : Remembers K size ops c) {op : Operation κ υ} (hsets : ∀ key, ¬ op.Sets key)
    (hused : usedThen size (Recent.used size ops) op = Recent.used size ops) {c' : Recent κ υ} (hsize : c'.size = c.size)
    (hentries : c'.entries = c.entries) (hlookups : c'.lookups = c.lookups + [op].countP Operation.isGet) :
    Remembers K size (ops ++ [op]) c' where
  size_eq := hsize.trans h.size_eq
  uses := by
    rw [used_concat, hused]
    exact h.uses
  keys := by
    rw [used_concat, hused, Recent.keys, hentries]
    exact h.keys
  distinct := by
    rw [Recent.keys, hentries]
    exact h.distinct
  values := by
    rw [hentries]
    exact fun e he => (h.values e he).concat (hsets e.1)
  lookups := by rw [hlookups, h.lookups, List.countP_append]

/-- What one operation keeps. -/
theorem perform (hK : Coherent K) (hsize : 1 ≤ size) (h : Remembers K size ops c) {op : Operation κ υ}
    (hop : ∀ key ∈ op.key?, K key) :
    Remembers K size (if op.isClear then [] else ops ++ [op]) (c.perform op).2 := by
  cases op with
  | set key value => exact h.set hK hsize (hop key rfl) value
  | get key default =>
    cases he : c.stored? key with
    | some e => exact h.get_found hK hsize (hop key rfl) he default
    | none =>
      have hunused : usedThen size (Recent.used size ops) (.get key default) = Recent.used size ops := by
        rw [usedThen, if_neg (by rw [h.any_lastKeys hK (hop key rfl), he]; simp)]
      rw [Recent.perform, find_of_missing he]
      exact h.keep (fun _ => id) hunused rfl rfl (Nat.add_assoc c.hits c.misses 1).symm
  | contains key => exact h.keep (fun _ => id) rfl rfl rfl rfl
  | length => exact h.keep (fun _ => id) rfl rfl rfl rfl
  | clear => exact h.size_eq ▸ nil c.size

end Remembers

end Recent

/-! ## Values as keys -/

open Recent (Operation Answer)

theorem Value.coherent_isKey : Recent.Coherent Value.IsKey where
  symm ha _ h := same_symm _ ha _ h
  trans ha _ _ hab hbc := same_trans _ ha _ _ hab hbc

namespace ValueCache

/-- What an operation answers, and the cache it leaves. -/
def perform (c : ValueCache) : Operation Value Value → Except Fault (Answer Value × ValueCache)
  | .set key value => do return (.done, ← set c key value)
  | .get key default => do
    let (found, c) ← find c key
    return (.value (found.getD default), c)
  | .contains key => do return (.found (← contains c key), c)
  | .length => return (.count c.length, c)
  | .clear => return (.done, c.clear)

/-- The cache after an operation; one that fails leaves it as it is. -/
def next (c : ValueCache) (op : Operation Value Value) : ValueCache :=
  match perform c op with
  | .ok (_, c) => c
  | .error _ => c

def after (c : ValueCache) (ops : List (Operation Value Value)) : ValueCache := ops.foldl next c

/-- The key of the operation, if it has one, can be a key. -/
def isKeyed (op : Operation Value Value) : Bool := op.key?.all fun key => key.unkeyable.isNone

/-- The operations since the last clear that can have had an effect. -/
def history (ops : List (Operation Value Value)) : List (Operation Value Value) :=
  Recent.sinceClear (ops.filter isKeyed)

theorem keyed_of_isKey {key : Value} (h : key.IsKey) {α : Type} (result : α) : keyed key result = .ok result := by
  rw [keyed, h]

theorem keyed_of_not_isKey {key : Value} (h : ¬ key.IsKey) :
    ∃ kind, ∀ {α : Type} (result : α), keyed key result = .error (.unhashable kind) := by
  obtain ⟨kind, hkind⟩ := Option.ne_none_iff_exists'.mp h
  exact ⟨kind, fun result => by rw [keyed, hkind]⟩

theorem isKeyed_iff {op : Operation Value Value} : isKeyed op = true ↔ ∀ key ∈ op.key?, key.IsKey := by
  cases h : op.key? <;> simp [isKeyed, h, Value.IsKey]

theorem perform_of_isKeyed {op : Operation Value Value} (h : isKeyed op = true) (c : ValueCache) :
    perform c op = .ok (Recent.perform c op) := by
  have hkey := isKeyed_iff.mp h
  cases op with
  | set key value => rw [perform, set, keyed_of_isKey (hkey key rfl)]; rfl
  | get key default => rw [perform, find, keyed_of_isKey (hkey key rfl)]; rfl
  | contains key => rw [perform, contains, keyed_of_isKey (hkey key rfl)]; rfl
  | length => rfl
  | clear => rfl

theorem perform_of_key? {op : Operation Value Value} {key : Value} (h : op.key? = some key) (hkey : key.IsKey)
    (c : ValueCache) : perform c op = .ok (Recent.perform c op) :=
  perform_of_isKeyed (isKeyed_iff.mpr fun _ hk => Option.some.inj (h.symm.trans hk) ▸ hkey) c

theorem perform_of_not_isKeyed {op : Operation Value Value} (h : isKeyed op = false) (c : ValueCache) :
    ∃ kind, perform c op = .error (.unhashable kind) := by
  have hkey : ∃ key ∈ op.key?, ¬ key.IsKey := by
    have hnot := mt isKeyed_iff.mpr (Bool.eq_false_iff.mp h)
    push Not at hnot
    exact hnot
  obtain ⟨key, hk, hnot⟩ := hkey
  obtain ⟨kind, hkind⟩ := keyed_of_not_isKey hnot
  refine ⟨kind, ?_⟩
  cases op with
  | set _ _ | get _ _ | contains _ =>
    obtain rfl := Option.some.inj hk
    simp only [perform, set, find, contains, hkind]
    rfl
  | length | clear => cases hk

theorem next_of_isKeyed {op : Operation Value Value} (h : isKeyed op = true) (c : ValueCache) :
    next c op = (Recent.perform c op).2 := by
  rw [next, perform_of_isKeyed h]

theorem next_of_not_isKeyed {op : Operation Value Value} (h : isKeyed op = false) (c : ValueCache) :
    next c op = c := by
  obtain ⟨kind, hkind⟩ := perform_of_not_isKeyed h c
  rw [next, hkind]

theorem after_concat (c : ValueCache) (ops : List (Operation Value Value)) (op : Operation Value Value) :
    after c (ops ++ [op]) = next (after c ops) op := by
  simp [after]

/-- What a whole run keeps. -/
theorem remembers_after {size : ℕ} (hsize : 1 ≤ size) (ops : List (Operation Value Value)) :
    Recent.Remembers Value.IsKey size (history ops) (after { size := size } ops) := by
  induction ops using List.reverseRecOn with
  | nil => exact Recent.Remembers.nil size
  | append_singleton ops op ih =>
    rw [after_concat]
    cases h : isKeyed op with
    | false =>
      have hhistory : history (ops ++ [op]) = history ops := by simp [history, List.filter_append, h]
      rw [hhistory, next_of_not_isKeyed h]
      exact ih
    | true =>
      have hhistory : history (ops ++ [op]) = if op.isClear then [] else history ops ++ [op] := by
        rw [history, List.filter_append, List.filter_singleton, h, cond_true, Recent.sinceClear_concat]
        rfl
      rw [hhistory, next_of_isKeyed h]
      exact ih.perform Value.coherent_isKey hsize (isKeyed_iff.mp h)

/-- A cache of some size is what its history makes it. -/
structure Recalls (size : ℕ) (ops : List (Operation Value Value)) (c : ValueCache) : Prop where
  /-- The keys are the last ones used, up to the size, in the order of their last use. -/
  keys : List.Forall₂ Recent.Alike c.keys (Recent.lastKeys size (Recent.used size (history ops)))
  values : ∀ e ∈ c.entries, Recent.LastSet (history ops) e.1 e.2
  length_le : c.length ≤ size
  lookups : c.hits + c.misses = (history ops).countP Operation.isGet
  /-- A key that is there is found with its value. -/
  found : ∀ key, key.IsKey → ∀ e ∈ c.entries, (key == e.1) = true →
    perform c (.contains key) = .ok (.found true, c) ∧
      ∀ default, ∃ c', perform c (.get key default) = .ok (.value e.2, c')
  /-- A key that is not there is a miss, and nothing else changes. -/
  missing : ∀ key, key.IsKey → (∀ e ∈ c.entries, (key == e.1) = false) →
    perform c (.contains key) = .ok (.found false, c) ∧
      ∀ default, perform c (.get key default) = .ok (.value default, { c with misses := c.misses + 1 })
  counted : perform c .length = .ok (.count c.length, c)
  /-- What can be no key is refused for its type, and nothing changes. -/
  refused : ∀ op, isKeyed op = false →
    ∃ fault, perform c op = .error fault ∧ fault.category = .type ∧ next c op = c

theorem recalls_of_remembers {size : ℕ} {ops : List (Operation Value Value)} {c : ValueCache}
    (h : Recent.Remembers Value.IsKey size (history ops) c) : Recalls size ops c where
  keys := h.keys.imp fun _ _ hab => hab.2.2
  values := h.values
  length_le := h.length_le
  lookups := h.lookups
  found := by
    intro key hkey e he hbeq
    have hsome := h.stored?_eq_some Value.coherent_isKey hkey he hbeq
    refine ⟨?_, fun default => ⟨(Recent.find c key).2, ?_⟩⟩
    · rw [perform_of_key? rfl hkey, Recent.perform, Recent.contains, hsome]
      rfl
    · rw [perform_of_key? rfl hkey, Recent.perform, Recent.find_of_stored? hsome]
      rfl
  missing := by
    intro key hkey hall
    have hnone := Recent.stored?_eq_none_iff.mpr hall
    refine ⟨?_, fun default => ?_⟩
    · rw [perform_of_key? rfl hkey, Recent.perform, Recent.contains, hnone]
      rfl
    · rw [perform_of_key? rfl hkey, Recent.perform, Recent.find_of_missing hnone]
      rfl
  counted := rfl
  refused := by
    intro op hop
    obtain ⟨kind, hkind⟩ := perform_of_not_isKeyed hop c
    exact ⟨_, hkind, rfl, next_of_not_isKeyed hop c⟩

/-- A cache with room for an entry is at all times what its history makes it. -/
theorem after_recalls {size : ℤ} (hsize : 1 ≤ size) : ∃ c : ValueCache, Recent.ofSize size = .ok c ∧
    ∀ ops : List (Operation Value Value), Recalls size.toNat ops (after c ops) := by
  refine ⟨{ size := size.toNat }, by rw [Recent.ofSize, if_neg (by omega)], fun ops => ?_⟩
  exact recalls_of_remembers (remembers_after (by omega) ops)

/-- One key too many, a key in another spelling, and one that is none. -/
def crowded : List (Operation Value Value) :=
  [.set (.number (.int 1)) (.text "one"), .set (.text "b") .null, .get (.bool true) .null, .get (.list []) .null,
    .set (.text "c") (.text "three"), .get (.text "b") .null]

theorem crowded_recalls : (1 : ℤ) ≤ 2 ∧ ∃ c : ValueCache, Recent.ofSize 2 = .ok c ∧ Recalls 2 crowded (after c crowded) ∧
    (after c crowded).keys = [.number (.int 1), .text "c"] ∧ (after c crowded).lookups = 2 := by
  refine ⟨by decide, ?_⟩
  have hsize : (1 : ℤ) ≤ 2 := by decide
  obtain ⟨c, hc, h⟩ := after_recalls hsize
  refine ⟨c, hc, h crowded, ?_⟩
  cases hc
  exact ⟨by cbv, by cbv⟩

end ValueCache
end CaptionAnimation
