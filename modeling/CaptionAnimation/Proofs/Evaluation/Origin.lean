import CaptionAnimation.Proofs.Evaluation.Resolution
import CaptionAnimation.Proofs.Expression.Written
import CaptionAnimation.Proofs.Helper.Outcomes

/-! # Where values come from

Operators give plain values; fields, items and helpers give what could be read out of their operands. So every transcript
that can be read out of the value of an expression can be read out of what the expression sees. -/
namespace CaptionAnimation

/-- A transcript that can be read out of what an expression sees. -/
def Context.Shows (c : Context) (t : Transcript) : Prop := ∃ name v, c.root name = .ok v ∧ v.Shows t

namespace Evaluation

open Expression

/-! ## Operators -/

theorem prefixOp_isPlain {op : PrefixOp} {v w : Value} (h : prefixOp op v = .ok w) : w.isPlain = true := by
  unfold prefixOp at h
  split at h
  · obtain rfl := Except.ok.inj h
    rfl
  · obtain rfl := Except.ok.inj h
    rfl
  · obtain rfl := Except.ok.inj h
    rfl
  · cases h

theorem compareOp_isPlain {op : BinaryOp} {number : Number → Number → Bool} {text : String → String → Bool}
    {v w x : Value} (h : compareOp op number text v w = .ok x) : x.isPlain = true := by
  unfold compareOp at h
  split at h
  · obtain rfl := Except.ok.inj h
    rfl
  · obtain rfl := Except.ok.inj h
    rfl
  · cases h

theorem withinOp_isPlain {v w x : Value} (h : withinOp v w = .ok x) : x.isPlain = true := by
  unfold withinOp at h
  split at h
  · split at h
    · obtain rfl := Except.ok.inj h
      rfl
    · cases h
  · obtain rfl := Except.ok.inj h
    rfl
  · obtain rfl := Except.ok.inj h
    rfl
  · split at h
    · cases h
    · obtain rfl := Except.ok.inj h
      rfl
  · split at h
    · cases h
    · obtain rfl := Except.ok.inj h
      rfl
  · cases h

theorem arithmeticOp_isPlain {op : BinaryOp} {v w x : Value} (h : arithmeticOp op v w = .ok x) : x.isPlain = true := by
  by_cases hn : ∃ a b, v = .number a ∧ w = .number b
  · obtain ⟨a, b, rfl, rfl⟩ := hn
    rw [arithmeticOp_number] at h
    split at h
    · cases h
    · split at h
      · obtain rfl := Except.ok.inj h
        rfl
      · split at h <;> cases h
  · unfold arithmeticOp at h
    split at h
    · next a b => exact absurd ⟨a, b, rfl, rfl⟩ hn
    · cases h

theorem binaryOp_isPlain {op : BinaryOp} {v w x : Value} (h : binaryOp op v w = .ok x) : x.isPlain = true := by
  unfold binaryOp at h
  split at h
  · obtain rfl := Except.ok.inj h
    rfl
  · obtain rfl := Except.ok.inj h
    rfl
  · exact compareOp_isPlain h
  · exact compareOp_isPlain h
  · exact compareOp_isPlain h
  · exact compareOp_isPlain h
  · exact withinOp_isPlain h
  · unfold addOp at h
    split at h
    · obtain rfl := Except.ok.inj h
      rfl
    · exact arithmeticOp_isPlain h
  · exact arithmeticOp_isPlain h

/-! ## Accesses -/

theorem fieldOp_ok {v w : Value} {name : String} (h : fieldOp v name = .ok (some w)) : v.field? name = .ok (some w) := by
  unfold fieldOp at h
  split at h
  · next found hf => exact hf.trans (congrArg Except.ok (Except.ok.inj h))
  · cases h

theorem memberOp_leadsTo {v w : Value} {name : String} {guarded : Bool} (h : memberOp v name guarded = .ok w) :
    w = .null ∨ v.LeadsTo w := by
  unfold memberOp at h
  split at h
  · split at h
    · exact .inl (Except.ok.inj h).symm
    · cases h
  · obtain ⟨found, hf, h⟩ := bind_eq_ok_iff.mp h
    cases found with
    | some x =>
      obtain rfl : x = w := Except.ok.inj h
      exact .inr (.field (fieldOp_ok hf) (.refl x))
    | none =>
      cases guarded with
      | true => exact .inl (Except.ok.inj h).symm
      | false => cases h

theorem mem_of_indexItems {items : List Value} {key w : Value} (h : indexItems items key = .ok w) : w ∈ items := by
  unfold indexItems at h
  split at h
  · next i =>
    split at h
    · next x hx =>
      obtain rfl : x = w := Except.ok.inj h
      unfold itemAt at hx
      split at hx
      · exact List.mem_of_getElem? (Option.eq_some_of_filter_eq_some hx)
      · exact List.mem_of_getElem? hx
    · split at h <;> cases h
  · cases h

theorem indexOp_leadsTo {v k w : Value} (h : indexOp v k = .ok w) : w.isPlain = true ∨ v.LeadsTo w := by
  unfold indexOp at h
  split at h
  · exact .inr (.item rfl (mem_of_indexItems h) (.refl w))
  · exact .inr (.item rfl (mem_of_indexItems h) (.refl w))
  · obtain ⟨c, -, rfl⟩ := List.mem_map.mp (mem_of_indexItems h)
    exact .inl rfl
  · split at h
    · obtain ⟨found, hf, h⟩ := bind_eq_ok_iff.mp h
      cases found with
      | some x =>
        obtain rfl : x = w := Except.ok.inj h
        exact .inr (.field (fieldOp_ok hf) (.refl x))
      | none => cases h
    · cases h

/-! ## Expressions -/

theorem ok_of_settle {s : Scope} {n : Expr} {op : Operation} {v : Value} (h : s.settle n op = .ok v) : op = .ok v := by
  cases op with
  | ok w => exact congrArg Except.ok (Except.ok.inj h)
  | error r => exact absurd h (settle_error_ne_ok s n r v)

theorem ok_of_settleCall {s : Scope} {n : Expr} {x : Except Fault Value} {v : Value} (h : s.settleCall n x = .ok v) :
    x = .ok v := by
  cases x with
  | ok w => exact congrArg Except.ok (Except.ok.inj h)
  | error f =>
    rw [settleCall_error] at h
    exact absurd h (settle_error_ne_ok s n _ v)

theorem mem_of_find? {name : String} {helper : Helper} (h : Registry.standard.find? name = some helper) :
    helper ∈ Registry.standard.helpers ∧ helper.name = name :=
  ⟨List.mem_of_find?_eq_some h, by simpa using List.find?_some h⟩

variable {c : Context} {t : Transcript}

mutual

theorem shows_of_meaning : (e : Expr) → e.Written → {v : Value} → meaning ⟨c, .standard⟩ e = .ok v → v.Shows t → c.Shows t
  | .literal pos value, he, v, h, ht => by
    obtain rfl : value = v := Except.ok.inj h
    have hw := he _ (Expr.mem_nodes_self _)
    cases value with
    | null | bool b | number n | text s => exact absurd ht (Value.not_shows_of_isPlain rfl t)
    | _ => cases hw
  | .name pos name, _, v, h, ht => by
    rw [meaning, root_eq] at h
    have hroot := ok_of_settle h
    cases hc : c.root name with
    | ok w =>
      rw [hc] at hroot
      obtain rfl : w = v := Except.ok.inj hroot
      exact ⟨name, w, hc, ht⟩
    | error f =>
      rw [hc] at hroot
      cases hroot
  | .array pos items, he, v, h, ht => by
    rw [meaning] at h
    obtain ⟨vs, hvs, h⟩ := bind_eq_ok_iff.mp h
    obtain rfl : Value.list vs = v := Except.ok.inj h
    obtain ⟨w, hw, hwt⟩ := Value.exists_shows_of_list ht
    exact shows_of_meanings items (fun e hm => he.part hm) hvs hw hwt
  | .member pos obj name guarded, he, v, h, ht => by
    rw [← bind_memberOp] at h
    obtain ⟨w, hw, h⟩ := bind_eq_ok_iff.mp h
    rcases memberOp_leadsTo (ok_of_settle h) with rfl | hlead
    · exact absurd ht (Value.not_shows_of_isPlain rfl t)
    · exact shows_of_meaning obj (he.part List.mem_cons_self) hw (hlead.trans ht)
  | .index pos obj key guarded, he, v, h, ht => by
    cases ho : meaning ⟨c, .standard⟩ obj with
    | error f =>
      rw [meaning, ho] at h
      cases h
    | ok w =>
      by_cases hg : guarded = true ∧ w = .null
      · obtain ⟨rfl, rfl⟩ := hg
        rw [meaning, ho] at h
        obtain rfl : Value.null = v := Except.ok.inj h
        exact absurd ht (Value.not_shows_of_isPlain rfl t)
      · rw [meaning_index ho hg] at h
        obtain ⟨k, -, h⟩ := bind_eq_ok_iff.mp h
        rcases indexOp_leadsTo (ok_of_settle h) with hplain | hlead
        · exact absurd ht (Value.not_shows_of_isPlain hplain t)
        · exact shows_of_meaning obj (he.part List.mem_cons_self) ho (hlead.trans ht)
  | .call pos name args, he, v, h, ht => by
    rw [meaning] at h
    split at h
    · exact absurd h (settle_error_ne_ok _ _ (.blame (.unknownHelper name)) v)
    · next helper hf =>
      split at h
      · obtain ⟨values, hvalues, h⟩ := bind_eq_ok_iff.mp h
        -- what can be read out of an answer can be read out of an argument
        have hanswers := Helper.standard_answers (mem_of_find? hf).1 values
        rw [ok_of_settleCall h] at hanswers
        obtain ⟨w, hw, hwt⟩ := hanswers t ht
        exact shows_of_meanings args (fun e hm => he.part hm) hvalues hw hwt
      · exact absurd h (settle_error_ne_ok _ _ (.blame (.wrongArity name helper.arity args.length)) v)
  | .prefixed pos op operand, _, v, h, ht => by
    rw [meaning] at h
    obtain ⟨w, hw, h⟩ := bind_eq_ok_iff.mp h
    -- nothing can be read out of what an operator gives
    exact absurd ht (Value.not_shows_of_isPlain (prefixOp_isPlain (ok_of_settle h)) t)
  | .binary pos op left right, _, v, h, ht => by
    rw [meaning] at h
    obtain ⟨a, -, h⟩ := bind_eq_ok_iff.mp h
    obtain ⟨b, -, h⟩ := bind_eq_ok_iff.mp h
    exact absurd ht (Value.not_shows_of_isPlain (binaryOp_isPlain (ok_of_settle h)) t)
  | .logical pos op left right, he, v, h, ht => by
    rw [← bind_needsRight] at h
    obtain ⟨a, ha, h⟩ := bind_eq_ok_iff.mp h
    split at h
    · exact shows_of_meaning right (he.part (by simp [Expr.children])) h ht
    · obtain rfl : a = v := Except.ok.inj h
      exact shows_of_meaning left (he.part (by simp [Expr.children])) ha ht
  | .conditional pos test yes no, he, v, h, ht => by
    rw [meaning] at h
    obtain ⟨a, -, h⟩ := bind_eq_ok_iff.mp h
    split at h
    · exact shows_of_meaning yes (he.part (by simp [Expr.children])) h ht
    · exact shows_of_meaning no (he.part (by simp [Expr.children])) h ht
  | .unknown pos, _, v, h, _ => absurd h (settle_error_ne_ok _ _ (.blame .unknownNode) v)

theorem shows_of_meanings : (es : List Expr) → (∀ e ∈ es, e.Written) → {vs : List Value} →
    meanings ⟨c, .standard⟩ es = .ok vs → {v : Value} → v ∈ vs → v.Shows t → c.Shows t
  | [], _, vs, h, v, hv, _ => by
    obtain rfl : [] = vs := Except.ok.inj h
    cases hv
  | e :: es, he, vs, h, v, hv, ht => by
    rw [meanings] at h
    obtain ⟨w, hw, h⟩ := bind_eq_ok_iff.mp h
    obtain ⟨ws, hws, h⟩ := bind_eq_ok_iff.mp h
    obtain rfl : w :: ws = vs := Except.ok.inj h
    obtain ⟨he, hes⟩ := List.forall_mem_cons.mp he
    rcases List.mem_cons.mp hv with rfl | hv
    · exact shows_of_meaning e he hw ht
    · exact shows_of_meanings es hes hws hv ht

end

end Evaluation
end CaptionAnimation
