import CaptionAnimation.Proofs.Template.Compilation
import CaptionAnimation.Selection.Options

/-! # Options without caching

Options can be given with caching turned off, whatever form they have. They are then read as before, and refused as
before, but for that one field. -/
namespace CaptionAnimation

namespace Entries

/-- A key is the same as a text only when it is that text. -/
theorem same_text {key : String} {k : Value} (h : (Value.text key).same k = true) : k = .text key := by
  cases k with
  | text s =>
    rw [Value.same, beq_iff_eq] at h
    rw [h]
  | _ => simp [Value.same] at h

theorem get?_put_self (key : String) (value : Value) (entries : Entries) :
    Entries.get? (Entries.put (.text key) value entries) key = some value := by
  induction entries with
  | nil => simp [Entries.put, Entries.get?, Entries.find?, Value.same]
  | cons e rest ih =>
    obtain ⟨k, v⟩ := e
    unfold Entries.put
    split
    · next h => simp [Entries.get?, Entries.find?, h]
    · next h => simpa [Entries.get?, Entries.find?, h] using ih

theorem get?_put_of_ne {key other : String} (hne : other ≠ key) (value : Value) (entries : Entries) :
    Entries.get? (Entries.put (.text key) value entries) other = Entries.get? entries other := by
  induction entries with
  | nil => simp [Entries.put, Entries.get?, Entries.find?, Value.same, hne]
  | cons e rest ih =>
    obtain ⟨k, v⟩ := e
    unfold Entries.put
    split
    · next h =>
      obtain rfl := same_text h
      simp [Entries.get?, Entries.find?, Value.same, hne]
    · cases hk : (Value.text other).same k with
      | true => simp [Entries.get?, Entries.find?, hk]
      | false => simpa [Entries.get?, Entries.find?, hk] using ih

end Entries

namespace Options

/-- The same options without caching. -/
def uncached (o : Options) : Options := { o with caching := .bool false }

theorem check_uncached (o : Options) : check o.uncached = (check o).map uncached := by
  unfold check uncached
  dsimp only
  cases o.concurrency.comparable? with
  | none => rfl
  | some n =>
    cases hn : n.lt (.int 1) with
    | true => simp [hn, bind, Except.bind, throw, throwThe, MonadExceptOf.throw, Except.map]
    | false =>
      cases o.threshold.comparable? with
      | none => simp [hn, bind, Except.bind, throw, throwThe, MonadExceptOf.throw, Except.map]
      | some m =>
        cases hm : (Number.int 0).le m && m.le (.int 1) <;>
          simp [hn, hm, bind, Except.bind, throw, throwThe, MonadExceptOf.throw, Except.map, pure, Except.pure]

/-- The fields of a map of options. -/
def fieldsOf (settings : Settings) (get : List String → Value → Value) : Options where
  caching := get ["enableCaching", "enable_caching"] (.bool true)
  concurrency := get ["maxConcurrentEvaluations", "max_concurrent_evaluations"] (.int 100)
  profiling := get ["enableProfiling", "enable_profiling"] (.bool false)
  debugInfo := get ["collectDebugInfo", "collect_debug_info"] (.bool false)
  skipUnsure := get ["skipLowConfidenceWords", "skip_low_confidence_words"] (.bool true)
  threshold := get ["confidenceThreshold", "confidence_threshold"] (.float settings.confidenceThreshold)
  enabledRules := get ["enabledRuleIds", "enabled_rule_ids"] .null
  disabledRules := get ["disabledRuleIds", "disabled_rule_ids"] .null
  deadline := get ["maxProcessingTimeMs", "max_processing_time_ms"] .null

/-- What a map of options has under the first of some keys. -/
def entryOf (entries : Entries) (keys : List String) (default : Value) : Value :=
  match keys.findSome? (Entries.get? entries) with
  | none | some .null => default
  | some value => value

theorem given_eq {v : Value} {entries : Entries} (h : v.entries? = some entries) (keys : List String)
    (default : Value) : given v keys default = .ok (entryOf entries keys default) := by
  have hpick : v.pick keys = .ok (keys.findSome? (Entries.get? entries)) := by
    cases v <;> simp_all [Value.entries?, Value.pick]
  simp only [given, hpick, entryOf, bind, Except.bind]
  rcases keys.findSome? (Entries.get? entries) with _ | found
  · rfl
  · cases found <;> rfl

/-- Options from a map that is not empty. -/
theorem ofValue_eq (settings : Settings) {v : Value} {entries : Entries} (h : v.entries? = some entries)
    (ht : v.truthy = true) : ofValue settings v = check (fieldsOf settings (entryOf entries)) := by
  simp only [ofValue, ht, given_eq h]
  rfl

/-- Setting one text key changes what stands under that key only. -/
theorem entryOf_put {entries : Entries} {key : String} (value default : Value) {keys : List String} (h : key ∉ keys) :
    entryOf (Entries.put (.text key) value entries) keys default = entryOf entries keys default := by
  have hfind : keys.findSome? (Entries.get? (Entries.put (.text key) value entries)) =
      keys.findSome? (Entries.get? entries) := by
    induction keys with
    | nil => rfl
    | cons other rest ih =>
      obtain ⟨hne, hrest⟩ := List.ne_and_not_mem_of_not_mem_cons h
      rw [List.findSome?_cons, List.findSome?_cons, Entries.get?_put_of_ne hne.symm, ih hrest]
  rw [entryOf, hfind, entryOf]

theorem fieldsOf_put (settings : Settings) (entries : Entries) :
    fieldsOf settings (entryOf (Entries.put (.text "enableCaching") (.bool false) entries)) =
      (fieldsOf settings (entryOf entries)).uncached := by
  have hcaching : entryOf (Entries.put (.text "enableCaching") (.bool false) entries)
      ["enableCaching", "enable_caching"] (.bool true) = .bool false := by
    simp [entryOf, Entries.get?_put_self]
  simp only [fieldsOf, uncached, hcaching]
  congr 1 <;> exact entryOf_put _ _ (by decide)

/-- A map with caching turned off reads as the options it was with caching turned off. -/
theorem ofValue_put (settings : Settings) {v : Value} {entries : Entries} (h : v.entries? = some entries) :
    ofValue settings (.map (Entries.put (.text "enableCaching") (.bool false) entries)) =
      (ofValue settings v).map uncached := by
  have hne : Entries.put (.text "enableCaching") (.bool false) entries ≠ [] := by
    cases entries with
    | nil => simp [Entries.put]
    | cons e rest =>
      unfold Entries.put
      split <;> simp
  rw [ofValue_eq settings rfl (by simpa [Value.truthy] using hne), fieldsOf_put, check_uncached]
  cases ht : v.truthy with
  | true => rw [ofValue_eq settings h ht]
  | false =>
    obtain rfl : entries = [] := by cases v <;> simp_all [Value.entries?, Value.truthy]
    simp only [ofValue, ht, Bool.not_false, if_true]
    rw [show standard settings = check (fieldsOf settings (entryOf [])) from rfl]

end Options

namespace OptionsSource

/-- The same options with caching turned off. -/
def uncached : OptionsSource → OptionsSource
  | absent | data .null => data (.map [(.text "enableCaching", .bool false)])
  | data v =>
    match v.entries? with
    | some entries => data (.map (Entries.put (.text "enableCaching") (.bool false) entries))
    | none => data v
  | finished o => finished o.uncached

theorem read_map (settings : Settings) {v : Value} {entries : Entries} (h : v.entries? = some entries) :
    (data v).read settings = (Options.ofValue settings v).map .ok := by
  cases v with
  | map _ => cases hv : Options.ofValue settings _ <;> simp [read, Value.entries?, hv, bind, Except.bind, pure,
      Except.pure, Except.map]
  | readOnly _ => cases hv : Options.ofValue settings _ <;> simp [read, Value.entries?, hv, bind, Except.bind, pure,
      Except.pure, Except.map]
  | _ => cases h

theorem read_put (settings : Settings) {v : Value} {entries : Entries} (h : v.entries? = some entries) :
    (data (.map (Entries.put (.text "enableCaching") (.bool false) entries))).read settings =
      ((Options.ofValue settings v).map .ok).map (Except.map Options.uncached) := by
  rw [read_map settings rfl, Options.ofValue_put settings h]
  cases Options.ofValue settings v <;> rfl

/-- Turning caching off turns it off in the options that are read, and changes nothing else. -/
theorem read_uncached (settings : Settings) (options : OptionsSource) :
    options.uncached.read settings = (options.read settings).map (Except.map Options.uncached) := by
  cases options with
  | finished o => rfl
  | absent => exact read_put settings (show (Value.map []).entries? = some [] from rfl)
  | data v =>
    cases he : v.entries? with
    | some entries =>
      rw [read_map settings he, ← read_put settings he]
      cases v with
      | map _ | readOnly _ => cases he; rfl
      | _ => cases he
    | none =>
      cases v with
      | null => exact read_put settings (show (Value.map []).entries? = some [] from rfl)
      | map _ | readOnly _ => cases he
      | _ => rfl

end OptionsSource

end CaptionAnimation
