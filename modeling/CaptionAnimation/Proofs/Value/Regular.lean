import CaptionAnimation.Proofs.Value.Sameness

/-! # Values by their outline and parts

Whether two values are the same data is decided in three ways: numbers and booleans by their size, maps by their
entries in any order, and all else by the outline, which says what kind of thing it is, and by the parts one by one. A
regular value has no undefined number in it, and no map with one key twice. -/
namespace CaptionAnimation

/-- A number that is not undefined equals itself. -/
theorem Number.eq_self {q : Quantity} (h : q.value.isNaN = false) : (Number.double q).eq (.double q) = true := by
  show (Exact.ofDouble (.ofFloat q.value)).eq (Exact.ofDouble (.ofFloat q.value)) = true
  cases hq : Double.ofFloat q.value with
  | undefined => exact absurd (Double.isNaN_of_ofFloat hq) (Bool.eq_false_iff.mp h)
  | infinite negative => exact beq_self_eq_true _
  | finite negative m e => exact beq_self_eq_true _

/-! ## Parts -/

def Word.parts (w : Word) : List Value :=
  [.text w.text, .quantity w.start, .quantity w.finish, .quantity w.confidence, .ofOption .text w.id, .map w.features]

def Segment.parts (s : Segment) : List Value :=
  [.list (s.words.map .word), .ofOption .text s.id, .ofOption .quantity s.start, .ofOption .quantity s.finish, s.text,
    s.speaker, s.emotion, .map s.metadata]

def Transcript.parts (t : Transcript) : List Value :=
  [.list (t.segments.map .segment), .map t.metadata, .ofOption .text t.id]

/-- What a value is but for its parts; numbers, booleans and maps are compared otherwise. -/
inductive Outline where
  | null
  | text (s : String)
  | list
  | tuple
  | word
  | segment
  | transcript
  | object (type : String) (names : List String)

namespace Value

/-- The values that a value is made of. -/
def parts : Value → List Value
  | .list items | .tuple items => items
  | .map entries | .readOnly entries => entries.flatMap fun e => [e.1, e.2]
  | .word w => w.parts
  | .segment s => s.parts
  | .transcript t => t.parts
  | .object _ fields => fields.map Prod.snd
  | _ => []

def outline? : Value → Option Outline
  | .null => some .null
  | .text s => some (.text s)
  | .list _ => some .list
  | .tuple _ => some .tuple
  | .word _ => some .word
  | .segment _ => some .segment
  | .transcript _ => some .transcript
  | .object type fields => some (.object type (fields.map Prod.fst))
  | .bool _ | .number _ | .map _ | .readOnly _ => none

theorem mem_parts_of_entries {v : Value} {entries : Entries} {e : Value × Value} (hv : v.entries? = some entries)
    (h : e ∈ entries) : e.1 ∈ v.parts ∧ e.2 ∈ v.parts := by
  have hparts : v.parts = entries.flatMap fun e => [e.1, e.2] := by
    cases v <;> cases hv <;> rfl
  rw [hparts]
  exact ⟨List.mem_flatMap.mpr ⟨e, h, List.mem_cons_self⟩,
    List.mem_flatMap.mpr ⟨e, h, List.mem_cons_of_mem _ List.mem_cons_self⟩⟩

/-- Every value is compared in one of three ways. -/
theorem comparable_or_outline_or_entries (v : Value) :
    (∃ n, v.comparable? = some n) ∨ (∃ s, v.outline? = some s) ∨ ∃ entries, v.entries? = some entries := by
  cases v with
  | bool | number => exact .inl ⟨_, rfl⟩
  | map | readOnly => exact .inr (.inr ⟨_, rfl⟩)
  | _ => exact .inr (.inl ⟨_, rfl⟩)

end Value

/-! ## Sameness by outline and parts -/

theorem sameItems_eq (xs ys : List Value) : sameItems xs ys = xs.isEqv ys Value.same := by
  induction xs generalizing ys with
  | nil => cases ys <;> simp [sameItems, List.isEqv]
  | cons x xs ih => cases ys <;> simp [sameItems, List.isEqv, ih]

theorem sameWords_eq (vs ws : List Word) :
    sameWords vs ws = (vs.map Value.word).isEqv (ws.map Value.word) Value.same := by
  induction vs generalizing ws with
  | nil => cases ws <;> simp [sameWords]
  | cons v vs ih => cases ws <;> simp [sameWords, List.isEqv, ih, Value.same]

theorem sameSegments_eq (ss ts : List Segment) :
    sameSegments ss ts = (ss.map Value.segment).isEqv (ts.map Value.segment) Value.same := by
  induction ss generalizing ts with
  | nil => cases ts <;> simp [sameSegments]
  | cons s ss ih => cases ts <;> simp [sameSegments, List.isEqv, ih, Value.same]

theorem sameFields_iff {fs gs : List (String × Value)} : sameFields fs gs = true ↔
    fs.map Prod.fst = gs.map Prod.fst ∧ (fs.map Prod.snd).isEqv (gs.map Prod.snd) Value.same = true := by
  induction fs generalizing gs with
  | nil => cases gs <;> simp [sameFields]
  | cons f fs ih =>
    obtain ⟨name, v⟩ := f
    cases gs with
    | nil => simp [sameFields]
    | cons g gs =>
      obtain ⟨name', w⟩ := g
      simp only [sameFields, Bool.and_eq_true, beq_iff_eq, ih, List.map_cons, List.cons.injEq, List.isEqv]
      tauto

theorem same_quantity (p q : Quantity) : (Value.quantity p).same (.quantity q) = p.same q := by
  simp [Value.quantity, Value.same, Number.sameAs, Quantity.same]

theorem same_ofOption_quantity (p q : Option Quantity) :
    (Value.ofOption .quantity p).same (.ofOption .quantity q) = sameQuantity? p q := by
  cases p <;> cases q <;>
    simp [Value.ofOption, sameQuantity?, Value.quantity, Value.same, Number.sameAs, Quantity.same]

theorem same_ofOption_text (s t : Option String) :
    (Value.ofOption .text s).same (.ofOption .text t) = (s == t) := by
  cases s <;> cases t <;> simp [Value.ofOption, Value.same]

theorem Word.same_eq (v w : Word) : v.same w = v.parts.isEqv w.parts Value.same := by
  cases v
  simp [Word.same, Word.parts, List.isEqv, same_quantity, same_ofOption_text, Value.same, Value.entries?,
    Bool.and_assoc]

theorem Segment.same_eq (s t : Segment) : s.same t = s.parts.isEqv t.parts Value.same := by
  cases s
  simp [Segment.same, Segment.parts, List.isEqv, same_ofOption_quantity, same_ofOption_text, Value.same, Value.entries?,
    sameWords_eq, sameItems_eq, Bool.and_assoc]

theorem Transcript.same_eq (t u : Transcript) : t.same u = t.parts.isEqv u.parts Value.same := by
  cases t
  simp [Transcript.same, Transcript.parts, List.isEqv, same_ofOption_text, Value.same, Value.entries?,
    sameSegments_eq, sameItems_eq, Bool.and_assoc]

namespace Value

theorem same_of_outline {v : Value} {s : Outline} (hv : v.outline? = some s) (w : Value) :
    v.same w = true ↔ w.outline? = some s ∧ v.parts.isEqv w.parts same = true := by
  cases v with
  | bool | number | map | readOnly => cases hv
  | null => cases hv; cases w <;> simp [same, outline?, parts]
  | text s =>
    cases hv
    cases w with
    | text t => simpa [same, outline?, parts] using eq_comm
    | _ => simp [same, outline?]
  | list xs => cases hv; cases w <;> simp [same, outline?, parts, sameItems_eq]
  | tuple xs => cases hv; cases w <;> simp [same, outline?, parts, sameItems_eq]
  | word v => cases hv; cases w <;> simp [same, outline?, parts, Word.same_eq]
  | segment s => cases hv; cases w <;> simp [same, outline?, parts, Segment.same_eq]
  | transcript t => cases hv; cases w <;> simp [same, outline?, parts, Transcript.same_eq]
  | object type fields =>
    cases hv
    cases w with
    | object type' fields' =>
      simp only [same, outline?, parts, Bool.and_eq_true, beq_iff_eq, sameFields_iff, Option.some.injEq,
        Outline.object.injEq, ← and_assoc]
      rw [eq_comm (a := type), eq_comm (a := fields.map Prod.fst)]
    | _ => simp [same, outline?]

/-! ## Sameness of maps -/

/-- The entries have one with the same key, and that one the same value. -/
def heldBy (entries : Entries) (e : Value × Value) : Bool :=
  match List.find? (fun f => e.1.same f.1) entries with
  | some f => e.2.same f.2
  | none => false

theorem sameEntries_eq (es fs : Entries) : sameEntries es fs = es.all (heldBy fs) := by
  induction es with
  | nil => simp [sameEntries]
  | cons e es ih =>
    obtain ⟨k, v⟩ := e
    rw [sameEntries, ih, List.all_cons]
    rfl

theorem same_of_entries {v : Value} {es : Entries} (hv : v.entries? = some es) (w : Value) :
    v.same w = true ↔ ∃ fs, w.entries? = some fs ∧ es.length = fs.length ∧ es.all (heldBy fs) = true := by
  cases v with
  | map _ | readOnly _ =>
    cases hv
    cases hw : w.entries? <;> simp [same, hw, sameEntries_eq]
  | _ => cases hv

theorem same_iff_of_entries {v w : Value} {es fs : Entries} (hv : v.entries? = some es) (hw : w.entries? = some fs) :
    v.same w = true ↔ es.length = fs.length ∧ es.all (heldBy fs) = true := by
  simp [same_of_entries hv, hw]

/-! ## Sameness both ways -/

theorem not_outline_of_comparable {v : Value} {n : Number} (h : v.comparable? = some n) : v.outline? = none := by
  cases v <;> first | rfl | cases h

theorem not_outline_of_entries {v : Value} {es : Entries} (h : v.entries? = some es) : v.outline? = none := by
  cases v <;> first | rfl | cases h

theorem not_entries_of_comparable {v : Value} {n : Number} (h : v.comparable? = some n) : v.entries? = none := by
  cases v <;> first | rfl | cases h

/-- What is the same is compared in the same way. -/
theorem same_cases {v w : Value} (h : v.same w = true) :
    (∃ m n, v.comparable? = some m ∧ w.comparable? = some n) ∨ (∃ s, v.outline? = some s ∧ w.outline? = some s) ∨
      ∃ es fs, v.entries? = some es ∧ w.entries? = some fs := by
  rcases v.comparable_or_outline_or_entries with ⟨n, hv⟩ | ⟨s, hv⟩ | ⟨es, hv⟩
  · rw [same_of_comparable hv] at h
    obtain ⟨m, hm, -⟩ := Number.sameAs_iff.mp h
    exact .inl ⟨n, m, hv, hm⟩
  · exact .inr (.inl ⟨s, hv, ((same_of_outline hv w).mp h).1⟩)
  · obtain ⟨fs, hw, -⟩ := (same_of_entries hv w).mp h
    exact .inr (.inr ⟨es, fs, hv, hw⟩)

theorem comparable_of_same {v w : Value} {n : Number} (hw : w.comparable? = some n) (h : v.same w = true) :
    ∃ m, v.comparable? = some m := by
  rcases same_cases h with ⟨m, -, hv, -⟩ | ⟨s, -, hs⟩ | ⟨-, fs, -, hfs⟩
  · exact ⟨m, hv⟩
  · rw [not_outline_of_comparable hw] at hs
    cases hs
  · rw [not_entries_of_comparable hw] at hfs
    cases hfs

theorem outline_of_same {v w : Value} {s : Outline} (hw : w.outline? = some s) (h : v.same w = true) :
    v.outline? = some s := by
  rcases same_cases h with ⟨-, n, -, hn⟩ | ⟨s', hv, hs'⟩ | ⟨-, fs, -, hfs⟩
  · rw [not_outline_of_comparable hn] at hw
    cases hw
  · rw [hv, ← hs', hw]
  · rw [not_outline_of_entries hfs] at hw
    cases hw

theorem entries_of_same {v w : Value} {fs : Entries} (hw : w.entries? = some fs) (h : v.same w = true) :
    ∃ es, v.entries? = some es := by
  rcases same_cases h with ⟨-, n, -, hn⟩ | ⟨s, -, hs⟩ | ⟨es, -, hv, -⟩
  · rw [not_entries_of_comparable hn] at hw
    cases hw
  · rw [not_outline_of_entries hw] at hs
    cases hs
  · exact ⟨es, hv⟩

/-! ## Regular values -/

/-- No two keys are the same. -/
def Distinct (entries : Entries) : Prop := entries.Pairwise fun e f => e.1.same f.1 = false

/-- No undefined number, and no map in which two keys are the same. -/
def Sound : Value → Prop
  | .number (.double q) => q.value.isNaN = false
  | .map entries | .readOnly entries => Distinct entries
  | _ => True

/-- A value that is sound in all its parts. -/
inductive Regular : Value → Prop
  | intro {v : Value} (hsound : v.Sound) (hparts : ∀ u ∈ v.parts, u.Regular) : v.Regular

theorem Sound.eq_self {v : Value} {n : Number} (h : v.Sound) (hv : v.comparable? = some n) : n.eq n = true := by
  cases v with
  | bool b =>
    cases hv
    exact beq_self_eq_true _
  | number m =>
    cases hv
    cases n with
    | int i => exact beq_self_eq_true _
    | double q => exact Number.eq_self h
  | _ => cases hv

theorem Regular.sound {v : Value} (h : v.Regular) : v.Sound := by
  cases h
  assumption

theorem Regular.parts {v : Value} (h : v.Regular) : ∀ u ∈ v.parts, u.Regular := by
  cases h
  assumption

/-! ## Equality of expressions -/

theorem equalItems_eq (xs ys : List Value) : equalItems xs ys = xs.isEqv ys equal := by
  induction xs generalizing ys with
  | nil => cases ys <;> simp [equalItems]
  | cons x xs ih => cases ys <;> simp [equalItems, List.isEqv, ih]

theorem equal_of_items {v : Value} {xs : List Value} (hv : v.items? = some xs) (w : Value) :
    v.equal w = true ↔ ∃ ys, w.items? = some ys ∧ xs.isEqv ys equal = true := by
  cases v with
  | list _ | tuple _ =>
    cases hv
    cases hw : w.items? <;> simp [equal, hw, equalItems_eq]
  | _ => cases hv

/-- What sameness of data does not tell apart: booleans from numbers, and maps that are read-only from others. -/
inductive Mark where
  | boolean
  | readOnly
  | plain
deriving DecidableEq

def mark : Value → Mark
  | .bool _ => .boolean
  | .readOnly _ => .readOnly
  | _ => .plain

/-- A defined number is the same as the numbers it equals. -/
theorem Sound.same_iff_eq {a : Number} (h : (number a).Sound) (b : Number) : a.same b = true ↔ a.eq b = true := by
  refine Number.same_iff.trans (or_iff_left ?_)
  rintro ⟨p, q, rfl, -, hundefined⟩
  exact Bool.eq_false_iff.mp h (Quantity.sameUndefined_iff.mp hundefined).1

/-- Outside lists, equality of expressions is sameness of data that tells marks apart. -/
theorem equal_of_not_items {v : Value} (hv : v.items? = none) (hsound : v.Sound) (w : Value) :
    v.equal w = true ↔ v.mark = w.mark ∧ v.same w = true := by
  cases v with
  | list | tuple => cases hv
  | bool a =>
    cases w with
    | bool b => cases a <;> cases b <;> simp [equal, mark, same, Number.sameAs] <;> decide
    | _ => simp [equal, mark, same, Number.sameAs]
  | number a =>
    cases w with
    | number b => simp [equal, mark, same, Number.sameAs, hsound.same_iff_eq]
    | _ => simp [equal, mark, same, Number.sameAs]
  | _ => cases w <;> simp [equal, mark, same, entries?]

theorem parts_of_items {v : Value} {xs : List Value} (hv : v.items? = some xs) : v.parts = xs := by
  cases v <;> cases hv <;> rfl

/-- Lists and tuples equal only each other. -/
theorem items_of_equal {v w : Value} (hsound : v.Sound) (h : v.equal w = true) :
    v.items?.isSome = w.items?.isSome := by
  cases hv : v.items? with
  | some xs =>
    obtain ⟨ys, hw, -⟩ := (equal_of_items hv w).mp h
    rw [hw]
    rfl
  | none =>
    have hsame := ((equal_of_not_items hv hsound w).mp h).2
    cases v with
    | list | tuple => cases hv
    | _ => cases w <;> simp_all [same, items?, Number.sameAs, entries?]

end Value
end CaptionAnimation
