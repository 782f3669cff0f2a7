import CaptionAnimation.Evaluation.Evaluator
import CaptionAnimation.Helper.Standard
import CaptionAnimation.Proofs.Number.Faults
import CaptionAnimation.Proofs.Value.Reading

/-! # What helpers answer

The standard helpers refuse their arguments with faults that the evaluator turns into errors of the expression, except
that a pattern may look too far behind. The transcripts that can be read out of an answer are those of the arguments. -/
namespace CaptionAnimation.Helper

open Evaluation

/-- A fault that becomes an error of the expression. -/
def Absorbed (f : Fault) : Prop := Scope.absorbs f = true

/-- An outcome that can only fail with faults that are absorbed. -/
abbrev Mild {α : Type} (x : Except Fault α) : Prop := Meets Absorbed (fun _ => True) x

/-- Every transcript that can be read out of the value can be read out of an argument. -/
def Drawn (args : List Value) (v : Value) : Prop := ∀ t, v.Shows t → ∃ a ∈ args, a.Shows t

/-- An outcome of a helper: a fault that is absorbed, or a value drawn from the arguments. -/
abbrev Answers (args : List Value) (x : Except Fault Value) : Prop := Meets Absorbed (Drawn args) x

theorem drawn_of_isPlain {args : List Value} {v : Value} (h : v.isPlain = true) : Drawn args v :=
  fun t ht => absurd ht (Value.not_shows_of_isPlain h t)

theorem absorbed_of_overflows {f : Fault} (h : Number.Overflows f) : Absorbed f := by
  unfold Absorbed Scope.absorbs
  rw [show f.category = .overflow from h]

theorem mild_of_overflows {α : Type} {x : Except Fault α} (h : Number.OverflowsOnly x) : Mild x :=
  h.mono (fun _ => absorbed_of_overflows) fun _ _ => trivial

theorem absorbed_wrongCount (function : String) (required : List String) (optional given : Nat) :
    Absorbed (wrongCount function required optional given) := by
  unfold wrongCount
  split <;> exact rfl

/-! ## Reading arguments -/

theorem number_mild (helper : String) (v : Value) : Mild (number helper v) := by
  cases v with
  | number n => trivial
  | _ => exact rfl

theorem text_mild (helper : String) (v : Value) : Mild (text helper v) := by
  cases v with
  | text s => trivial
  | _ => exact rfl

theorem items_mild (helper : String) (v : Value) :
    Meets Absorbed (fun xs => v.items? = some xs) (items helper v) := by
  unfold items
  split
  · next xs hxs => exact hxs
  · exact rfl

theorem numbers_mild (helper : String) (args : List Value) : Mild (numbers helper args) := by
  have hall (values : List Value) :
      Mild (if values.isEmpty then .error (.emptyList helper) else values.mapM (number helper)) := by
    split
    · exact rfl
    · exact (Meets.mapM (number_mild helper) values).mono (fun _ h => h) fun _ _ => trivial
  exact hall _

theorem toQuantity_mild (v : Value) : Mild v.toQuantity := by
  cases v with
  | number n => exact mild_of_overflows n.toQuantity_overflows
  | bool b => trivial
  | text s =>
    have hread : Mild (Numeral.float s) := by
      unfold Numeral.float
      split
      · trivial
      · exact rfl
    exact hread.bind fun _ _ => trivial
  | _ => exact rfl

theorem duration_mild (t : Transcript) : Mild t.duration := by
  unfold Transcript.duration
  split
  · exact toQuantity_mild _
  · trivial

theorem field?_mild (v : Value) (name : String) :
    Meets Absorbed (fun found => v.field? name = .ok found) (v.field? name) := by
  cases h : v.field? name with
  | ok found => exact rfl
  | error f =>
    obtain ⟨t, -, -, hf⟩ := Value.eq_transcript_of_field?_error h
    have hmild := duration_mild t
    rw [hf] at hmild
    exact hmild

/-! ## Numbers -/

theorem numberText_mild (n : Number) : Mild n.text := by
  cases n with
  | double q => trivial
  | int i =>
    rw [Number.text, Number.intText]
    generalize tenTo Number.digitLimit = limit
    split
    · exact True.intro
    · exact rfl

theorem toInteger_mild (rounding : Int → Nat → Int) (n : Number) : Mild (n.toInteger rounding) := by
  unfold Number.toInteger
  split
  · trivial
  · split
    · exact rfl
    · exact rfl
    · trivial

theorem numberRoundTo_mild (n : Number) (places : Int) : Mild (n.roundTo places) := by
  cases n with
  | int i => trivial
  | double q =>
    have hround : Mild (Number.roundDoubleTo q.value places) := by
      unfold Number.roundDoubleTo
      split
      · next negative m e _ =>
        split
        · trivial
        · split
          · trivial
          · dsimp only
            generalize Double.nearest negative _ _ = y
            split
            · exact rfl
            · exact True.intro
      · trivial
    show Mild (Number.float <$> Number.roundDoubleTo q.value places)
    rw [map_eq_pure_bind]
    exact hround.bind fun _ _ => trivial

theorem clamp_answers (args : List Value) : Answers args (clamp args) := by
  unfold clamp
  split
  · next value low high =>
    refine (number_mild _ value).bind fun n _ => (number_mild _ low).bind fun l _ => (number_mild _ high).bind fun h _ => ?_
    split
    · exact (numberText_mild l).bind fun _ _ => (numberText_mild h).bind fun _ _ => rfl
    · exact drawn_of_isPlain rfl
  · exact absorbed_wrongCount ..

theorem extreme_answers (helper : String) (choose : Number → Number → Number) (args : List Value) :
    Answers args (extreme helper choose args) := by
  refine (numbers_mild helper args).bind fun ns _ => ?_
  split
  · exact rfl
  · exact drawn_of_isPlain rfl

theorem absolute_answers (args : List Value) : Answers args (absolute args) := by
  unfold absolute
  split
  · exact (number_mild _ _).bind fun _ _ => drawn_of_isPlain rfl
  · exact absorbed_wrongCount ..

theorem roundTo_answers (args : List Value) (value digits : Value) : Answers args (roundTo value digits) := by
  refine (number_mild _ value).bind fun n _ => ?_
  split
  · refine (numberRoundTo_mild n _).bind fun rounded _ => ?_
    split
    · exact (toInteger_mild _ rounded).bind fun _ _ => drawn_of_isPlain rfl
    · exact drawn_of_isPlain rfl
  · exact rfl

theorem round_answers (args : List Value) : Answers args (round args) := by
  unfold round
  split
  · exact roundTo_answers ..
  · exact roundTo_answers ..
  · exact absorbed_wrongCount ..

theorem floor_answers (args : List Value) : Answers args (floor args) := by
  unfold floor
  split
  · exact (number_mild _ _).bind fun n _ => (toInteger_mild _ n).bind fun _ _ => drawn_of_isPlain rfl
  · exact absorbed_wrongCount ..

theorem ceil_answers (args : List Value) : Answers args (ceil args) := by
  unfold ceil
  split
  · exact (number_mild _ _).bind fun n _ => (toInteger_mild _ n).bind fun _ _ => drawn_of_isPlain rfl
  · exact absorbed_wrongCount ..

theorem between_answers (args : List Value) : Answers args (between args) := by
  unfold between
  split
  · exact (number_mild _ _).bind fun _ _ => (number_mild _ _).bind fun _ _ => (number_mild _ _).bind fun _ _ =>
      drawn_of_isPlain rfl
  · exact absorbed_wrongCount ..

/-! ## Lists -/

/-- What an item of a list shows, the list shows. -/
theorem drawn_of_mem {v w : Value} {items : List Value} {args : List Value} (hv : v ∈ args) (hi : v.items? = some items)
    (hw : w ∈ items) : Drawn args w :=
  fun _ ht => ⟨v, hv, .item hi hw ht⟩

theorem count_answers (args : List Value) : Answers args (count args) := by
  unfold count
  split
  · exact (items_mild _ _).bind fun _ _ => drawn_of_isPlain rfl
  · exact absorbed_wrongCount ..

theorem sum_answers (args : List Value) : Answers args (sum args) := by
  unfold sum
  split
  · refine (items_mild _ _).bind fun values _ => ?_
    have hfold : Mild (values.foldlM (fun (acc : Number) x => do acc.add (← number "sum" x)) (.int 0)) :=
      Meets.foldlM
        (fun acc x => (number_mild "sum" x).bind fun n _ => mild_of_overflows (Number.combine_overflows _ _ acc n))
        values trivial
    exact hfold.bind fun _ _ => drawn_of_isPlain rfl
  · exact absorbed_wrongCount ..

theorem total_mild (ns : List Number) : Mild (total ns) :=
  Meets.foldlM (fun acc n => mild_of_overflows (Number.combine_overflows _ _ acc n)) ns trivial

theorem mean_answers (args : List Value) : Answers args (mean args) := by
  unfold mean
  split
  · refine (items_mild _ _).bind fun items _ => (Meets.mapM (number_mild "mean") items).bind fun values _ => ?_
    split
    · exact drawn_of_isPlain rfl
    · exact (total_mild values).bind fun sum _ =>
        (mild_of_overflows (Number.div_overflows sum _)).bind fun _ _ => drawn_of_isPlain rfl
  · exact absorbed_wrongCount ..

/-- What is plucked from the items of a list shows only what the items show. -/
theorem pluckFrom_mild (name : String) (items : List Value) :
    Meets Absorbed (fun ws => ∀ w ∈ ws, Drawn items w) (pluckFrom name items) := by
  induction items with
  | nil => exact List.forall_mem_nil _
  | cons v rest ih =>
    have hlater (ws : List Value) (h : ∀ w ∈ ws, Drawn rest w) : ∀ w ∈ ws, Drawn (v :: rest) w := fun w hw t ht =>
      let ⟨a, ha, hat⟩ := h w hw t ht
      ⟨a, List.mem_cons_of_mem _ ha, hat⟩
    rw [pluckFrom]
    refine (field?_mild v name).bind fun found hfound => ?_
    cases found with
    | none => exact ih.mono (fun _ h => h) hlater
    | some x =>
      refine ih.bind fun ws hws => List.forall_mem_cons.mpr ⟨fun t ht => ?_, hlater ws hws⟩
      exact ⟨v, List.mem_cons_self, .field hfound ht⟩

theorem pluck_answers (args : List Value) : Answers args (pluck args) := by
  unfold pluck
  split
  · next v name =>
    refine (items_mild _ v).bind fun items hitems => (pluckFrom_mild name items).bind fun ws hws t ht => ?_
    obtain ⟨w, hw, hwt⟩ := Value.exists_shows_of_list ht
    obtain ⟨a, ha, hat⟩ := hws w hw t hwt
    exact ⟨v, List.mem_cons_self, .item hitems ha hat⟩
  · exact rfl
  · exact absorbed_wrongCount ..

theorem first_answers (args : List Value) : Answers args (first args) := by
  unfold first
  split
  · next v =>
    refine (items_mild _ v).bind fun items hitems => ?_
    cases items with
    | nil => exact drawn_of_isPlain rfl
    | cons x xs => exact drawn_of_mem List.mem_cons_self hitems List.mem_cons_self
  · exact absorbed_wrongCount ..

theorem last_answers (args : List Value) : Answers args (last args) := by
  unfold last
  split
  · next v =>
    refine (items_mild _ v).bind fun items hitems => ?_
    show Drawn [v] (items.getLast?.getD .null)
    cases hlast : items.getLast? with
    | none => exact drawn_of_isPlain rfl
    | some x => exact drawn_of_mem List.mem_cons_self hitems (List.mem_of_getLast? hlast)
  · exact absorbed_wrongCount ..

/-! ## Texts -/

theorem changing_answers (helper : String) (change : List Char → List Char) (args : List Value) :
    Answers args (changing helper change args) := by
  unfold changing
  split
  · exact (text_mild _ _).bind fun _ _ => drawn_of_isPlain rfl
  · exact absorbed_wrongCount ..

theorem length_answers (args : List Value) : Answers args (length args) := by
  unfold length
  split
  · exact drawn_of_isPlain rfl
  · exact drawn_of_isPlain rfl
  · exact drawn_of_isPlain rfl
  · exact drawn_of_isPlain rfl
  · exact rfl
  · exact absorbed_wrongCount ..

theorem containsWith_answers (args : List Value) (haystack needle flags : Value) :
    Answers args (containsWith haystack needle flags) := by
  unfold containsWith
  split
  · exact drawn_of_isPlain rfl
  · refine (text_mild _ haystack).bind fun _ _ => (text_mild _ needle).bind fun _ _ => ?_
    split
    · exact drawn_of_isPlain rfl
    · exact drawn_of_isPlain rfl

theorem contains_answers (args : List Value) : Answers args (contains args) := by
  unfold contains
  split
  · exact containsWith_answers ..
  · exact containsWith_answers ..
  · exact absorbed_wrongCount ..

theorem startsWith_answers (args : List Value) : Answers args (startsWith args) := by
  unfold startsWith
  split
  · exact (text_mild _ _).bind fun _ _ => (text_mild _ _).bind fun _ _ => drawn_of_isPlain rfl
  · exact absorbed_wrongCount ..

theorem endsWith_answers (args : List Value) : Answers args (endsWith args) := by
  unfold endsWith
  split
  · exact (text_mild _ _).bind fun _ _ => (text_mild _ _).bind fun _ _ => drawn_of_isPlain rfl
  · exact absorbed_wrongCount ..

/-- The outcome of the helper for patterns, which may also fault because the pattern looks too far behind. -/
abbrev Matches (args : List Value) (x : Except Fault Value) : Prop :=
  Meets (fun f => Absorbed f ∨ f = .looksTooFarBehind) (Drawn args) x

theorem patternFlags_mild (letters : String) : Mild (patternFlags letters) := by
  unfold Mild patternFlags
  refine Meets.foldlM (fun flags c => ?_) _ trivial
  split
  · trivial
  · trivial
  · exact rfl

theorem compilePattern_faults (source letters : String) :
    Meets (fun f => Absorbed f ∨ f = .looksTooFarBehind) (fun _ => True) (compilePattern source letters) := by
  refine ((patternFlags_mild letters).mono (fun _ => .inl) fun _ h => h).bind fun flags _ => ?_
  split
  · trivial
  · exact .inl rfl
  · exact .inl rfl
  · exact .inl rfl
  · exact .inl rfl
  · exact .inr rfl

theorem matchesWith_matches (args : List Value) (value pattern flags : Value) :
    Matches args (matchesWith value pattern flags) := by
  have htext (v : Value) : Meets (fun f => Absorbed f ∨ f = .looksTooFarBehind) (fun _ => True) (text "matches" v) :=
    (text_mild _ v).mono (fun _ => .inl) fun _ h => h
  exact (htext value).bind fun _ _ => (htext pattern).bind fun _ _ => (htext flags).bind fun _ _ =>
    (compilePattern_faults _ _).bind fun _ _ => drawn_of_isPlain rfl

theorem isMatch_matches (args : List Value) : Matches args (isMatch args) := by
  unfold isMatch
  split
  · exact matchesWith_matches ..
  · exact matchesWith_matches ..
  · exact .inl (absorbed_wrongCount ..)

/-! ## The registry -/

theorem standard_answers {helper : Helper} (h : helper ∈ Registry.standard.helpers) (args : List Value) :
    Meets (fun f => Absorbed f ∨ helper.name = "matches" ∧ f = .looksTooFarBehind) (Drawn args) (helper.run args) := by
  have of_answers {x : Except Fault Value} {name : String} (hx : Answers args x) :
      Meets (fun f => Absorbed f ∨ name = "matches" ∧ f = .looksTooFarBehind) (Drawn args) x :=
    hx.mono (fun _ => .inl) fun _ h => h
  simp only [Registry.standard, mathHelpers, listHelpers, textHelpers, List.cons_append, List.nil_append,
    List.mem_cons, List.not_mem_nil, or_false] at h
  rcases h with rfl | rfl | rfl | rfl | rfl | rfl | rfl | rfl | rfl | rfl | rfl | rfl | rfl | rfl | rfl | rfl | rfl |
    rfl | rfl | rfl | rfl | rfl
  · exact of_answers (clamp_answers args)
  · exact of_answers (extreme_answers "min" smaller args)
  · exact of_answers (extreme_answers "max" greater args)
  · exact of_answers (absolute_answers args)
  · exact of_answers (round_answers args)
  · exact of_answers (floor_answers args)
  · exact of_answers (ceil_answers args)
  · exact of_answers (between_answers args)
  · exact of_answers (count_answers args)
  · exact of_answers (sum_answers args)
  · exact of_answers (mean_answers args)
  · exact of_answers (pluck_answers args)
  · exact of_answers (first_answers args)
  · exact of_answers (last_answers args)
  · exact of_answers (changing_answers "lower" Text.lower args)
  · exact of_answers (changing_answers "upper" Text.upper args)
  · exact of_answers (changing_answers "trim" Text.trim args)
  · exact of_answers (length_answers args)
  · exact of_answers (contains_answers args)
  · exact of_answers (startsWith_answers args)
  · exact of_answers (endsWith_answers args)
  · exact (isMatch_matches args).mono (fun _ h => h.imp_right fun hf => ⟨rfl, hf⟩) fun _ h => h

end CaptionAnimation.Helper
