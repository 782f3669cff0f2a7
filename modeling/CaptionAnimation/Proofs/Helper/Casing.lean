import CaptionAnimation.Evaluation.Evaluator
import CaptionAnimation.Helper.Standard
import Mathlib

/-! # Searching without regard to case

A text is searched for in another one by their lower-case forms. The lower-case form of a character stands by itself, but
for that of a capital sigma, which depends on the characters around it: a part of a text is found again as long as its
capital sigmas have the same shape in the text as in the part alone. -/
namespace CaptionAnimation

namespace Text

theorem occursIn_iff {part whole : List Char} : occursIn part whole = true ↔ part <:+: whole := by
  induction whole with
  | nil => rw [occursIn, List.isEmpty_iff, List.infix_nil]
  | cons c rest ih => rw [occursIn, Bool.or_eq_true, List.isPrefixOf_iff_prefix, ih, List.infix_cons_iff]

/-! ## Lower case in place -/

/-- Whether a capital sigma between two texts has its final shape; `before` is nearest first. -/
def finalBetween (before after : List Char) : Bool := meetsCased before && !meetsCased after

/-- The lower-case form of a text that stands between two others; `before` is nearest first. -/
def lowerBetween (before : List Char) : List Char → List Char → List Char
  | [], _ => []
  | c :: rest, after =>
    (if c == 'Σ' then [if finalBetween before (rest ++ after) then 'ς' else 'σ'] else lowerOf c) ++
      lowerBetween (c :: before) rest after

theorem lowerFrom_append (before text after : List Char) :
    lowerFrom before (text ++ after) = lowerBetween before text after ++ lowerFrom (text.reverse ++ before) after := by
  induction text generalizing before with
  | nil => rfl
  | cons c rest ih =>
    rw [List.cons_append, lowerFrom, lowerBetween, ih]
    split <;> simp [finalBetween]

/-- Alone, a text stands between nothing and nothing. -/
theorem lower_eq (text : List Char) : lower text = lowerBetween [] text [] := by
  have h := lowerFrom_append [] text []
  rwa [List.append_nil, lowerFrom, List.append_nil] at h

/-- A text around a part is lowered part by part. -/
theorem lower_append (before part after : List Char) :
    lower (before ++ part ++ after) =
      lowerBetween [] before (part ++ after) ++ lowerBetween before.reverse part after ++
        lowerFrom (part.reverse ++ before.reverse) after := by
  rw [lower, List.append_assoc, lowerFrom_append, lowerFrom_append, List.append_nil, List.append_assoc]

/-- Between two pairs of texts, the capital sigmas of a text have the same shapes. -/
def SameSigmas (before before' part after after' : List Char) : Prop :=
  ∀ i < part.length, part[i]? = some 'Σ' →
    finalBetween ((part.take i).reverse ++ before) (part.drop (i + 1) ++ after) =
      finalBetween ((part.take i).reverse ++ before') (part.drop (i + 1) ++ after')

instance (before before' part after after' : List Char) : Decidable (SameSigmas before before' part after after') :=
  inferInstanceAs (Decidable (∀ i < part.length, _))

theorem sameSigmas_cons {before before' rest after after' : List Char} {c : Char} :
    SameSigmas before before' (c :: rest) after after' ↔
      (c = 'Σ' → finalBetween before (rest ++ after) = finalBetween before' (rest ++ after')) ∧
        SameSigmas (c :: before) (c :: before') rest after after' := by
  rw [SameSigmas, List.length_cons, Nat.forall_lt_succ_left]
  simp only [List.getElem?_cons_zero, List.getElem?_cons_succ, List.take_zero, List.take_succ_cons, List.drop_succ_cons,
    List.drop_zero, List.reverse_nil, List.reverse_cons, List.nil_append, List.append_assoc, List.singleton_append,
    Option.some.injEq, SameSigmas]

/-- A text has the same lower-case form in two places exactly when its capital sigmas have the same shapes there. -/
theorem lowerBetween_eq_iff {before before' part after after' : List Char} :
    lowerBetween before part after = lowerBetween before' part after' ↔
      SameSigmas before before' part after after' := by
  induction part generalizing before before' with
  | nil => simp [lowerBetween, SameSigmas]
  | cons c rest ih =>
    rw [sameSigmas_cons, lowerBetween, lowerBetween, ← ih]
    by_cases hc : c = 'Σ'
    · subst hc
      have hshapes (p q : Bool) : (if p then 'ς' else 'σ') = (if q then 'ς' else 'σ') ↔ p = q := by
        cases p <;> cases q <;> decide
      simp [hshapes]
    · simp [hc]

/-- The capital sigmas of a part have in the text around it the shapes that they have in the part alone. -/
def KeepsSigmas (before part after : List Char) : Prop := SameSigmas before.reverse [] part after []

instance (before part after : List Char) : Decidable (KeepsSigmas before part after) :=
  inferInstanceAs (Decidable (SameSigmas _ _ _ _ _))

/-- Where a part of a text keeps its capital sigmas, the lower-case form of the text holds that of the part; elsewhere,
another form stands in its place. -/
theorem lowerBetween_eq_lower_iff {before part after : List Char} :
    lowerBetween before.reverse part after = lower part ↔ KeepsSigmas before part after := by
  rw [lower_eq, lowerBetween_eq_iff, KeepsSigmas]

theorem keepsSigmas_of_notMem {part : List Char} (h : 'Σ' ∉ part) (before after : List Char) :
    KeepsSigmas before part after :=
  fun _ _ hi => absurd (List.mem_of_getElem? hi) h

theorem lower_infix {before part after : List Char} (h : KeepsSigmas before part after) :
    lower part <:+: lower (before ++ part ++ after) := by
  rw [lower_append, lowerBetween_eq_lower_iff.mpr h]
  exact List.infix_append _ _ _

end Text

namespace Helper

theorem contains_texts (whole part : String) :
    contains [.text whole, .text part] = .ok (.bool (Text.occursIn part.toList whole.toList)) := rfl

theorem contains_texts_lower (whole part : String) :
    contains [.text whole, .text part, .text "i"] =
      .ok (.bool (Text.occursIn (Text.lower part.toList) (Text.lower whole.toList))) := rfl

/-- A part of a text is also found without regard to case, as long as its capital sigmas, if it has any, keep their shape
at one of the places where it stands. -/
theorem contains_without_case {whole part : String} (h : contains [.text whole, .text part] = .ok (.bool true))
    (hkept : 'Σ' ∈ part.toList →
      ∃ before after, whole.toList = before ++ part.toList ++ after ∧ Text.KeepsSigmas before part.toList after) :
    contains [.text whole, .text part, .text "i"] = .ok (.bool true) := by
  have hplace : ∃ before after, whole.toList = before ++ part.toList ++ after ∧
      Text.KeepsSigmas before part.toList after := by
    by_cases hsigma : 'Σ' ∈ part.toList
    · exact hkept hsigma
    · rw [contains_texts, Except.ok.injEq, Value.bool.injEq, Text.occursIn_iff] at h
      obtain ⟨before, after, hwhole⟩ := h
      exact ⟨before, after, hwhole.symm, Text.keepsSigmas_of_notMem hsigma before after⟩
  obtain ⟨before, after, hwhole, hkeeps⟩ := hplace
  rw [contains_texts_lower, Text.occursIn_iff.mpr]
  rw [hwhole]
  exact Text.lower_infix hkeeps

/-- The final sigma of a word that stands at the end of a text. -/
theorem contains_without_case_street :
    contains [.text "ΕΔΩ, ΟΔΟΣ!", .text "ΟΔΟΣ"] = .ok (.bool true) ∧
      ('Σ' ∈ "ΟΔΟΣ".toList → ∃ before after, "ΕΔΩ, ΟΔΟΣ!".toList = before ++ "ΟΔΟΣ".toList ++ after ∧
        Text.KeepsSigmas before "ΟΔΟΣ".toList after) ∧
      contains [.text "ΕΔΩ, ΟΔΟΣ!", .text "ΟΔΟΣ", .text "i"] = .ok (.bool true) := by
  have h : contains [.text "ΕΔΩ, ΟΔΟΣ!", .text "ΟΔΟΣ"] = .ok (.bool true) := by cbv
  have hkept : 'Σ' ∈ "ΟΔΟΣ".toList → ∃ before after, "ΕΔΩ, ΟΔΟΣ!".toList = before ++ "ΟΔΟΣ".toList ++ after ∧
      Text.KeepsSigmas before "ΟΔΟΣ".toList after :=
    fun _ => ⟨"ΕΔΩ, ".toList, "!".toList, by decide +kernel, by decide +kernel⟩
  exact ⟨h, hkept, contains_without_case h hkept⟩

end Helper

namespace Evaluation

open Expression

/-- A sigma that ends a word is found as it is and by a pattern without regard to case, but not by the test without
regard to case. -/
theorem final_sigma_missed :
    evaluateText ⟨.forVariables ⟨[], [], none⟩ [], .standard⟩ (.text "contains('ΑΣ', 'Σ')") = .ok (.bool true) ∧
      evaluateText ⟨.forVariables ⟨[], [], none⟩ [], .standard⟩ (.text "contains('ΑΣ', 'Σ', 'i')") =
        .ok (.bool false) ∧
      evaluateText ⟨.forVariables ⟨[], [], none⟩ [], .standard⟩ (.text "matches('ΑΣ', 'Σ', 'i')") =
        .ok (.bool true) := by
  have hparse : parse "matches('ΑΣ', 'Σ', 'i')" =
      .ok (.call 7 "matches" [.literal 8 (.text "ΑΣ"), .literal 14 (.text "Σ"), .literal 19 (.text "i")]) := by cbv
  refine ⟨by cbv, by cbv, ?_⟩
  rw [evaluateText, hparse]
  rfl

end Evaluation
end CaptionAnimation
