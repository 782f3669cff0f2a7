import CaptionAnimation.Proofs.Service.Reading

/-! # Templates and transcripts of a body

A template or transcript of a body that has the declared types can be read, and it is the same whether it is read from
what was sent or from what reading the body made of that. -/
namespace CaptionAnimation

open Service Service.Shape

/-! ## Two readings of one thing -/

/-- Both give the same result. -/
def Agree {α : Type} (x y : Except Fault α) : Prop := ∃ a, x = .ok a ∧ y = .ok a

namespace Agree

variable {α β : Type} {x y : Except Fault α}

theorem ok (a : α) : Agree (.ok a) (.ok a) := ⟨a, rfl, rfl⟩

theorem bind {f g : α → Except Fault β} (h : Agree x y) (hfg : ∀ a, Agree (f a) (g a)) : Agree (x >>= f) (y >>= g) := by
  obtain ⟨a, rfl, rfl⟩ := h
  exact hfg a

theorem after {γ : Type} {f : α → Except Fault γ} {g : β → Except Fault γ} {a : α} {b : β} (h : Agree (f a) (g b)) :
    Agree (.ok a >>= f) (.ok b >>= g) := h

theorem mapM {γ : Type} {f : β → Except Fault α} {g : γ → Except Fault α} {bs : List β} {cs : List γ}
    (h : List.Forall₂ (fun b c => Agree (f b) (g c)) bs cs) : Agree (bs.mapM f) (cs.mapM g) := by
  induction h with
  | nil => exact ok []
  | cons hbc _ ih =>
    rw [List.mapM_cons, List.mapM_cons]
    exact hbc.bind fun a => ih.bind fun as => ok (a :: as)

end Agree

/-! ## Fields -/

section Fields

variable {keepsOthers : Bool} {fields : List Field} {entries got : Entries} {name : String}

/-- A map that is empty where it is missing. -/
theorem toEntries_agree (hf : Fills keepsOthers fields entries got) (i : Nat)
    (hi : fields[i]? = some (Body.field name (.table .anything) Body.emptyMap)) :
    Agree (Value.toEntriesOrEmpty (Entries.get? entries name)) (Value.toEntriesOrEmpty (Entries.get? got name)) := by
  obtain ⟨w, hw, hd, hread⟩ := hf.part i hi (.table (by simp) (by simp)) readFrom_empty
  obtain ⟨declared, hdeclared, rfl⟩ := hd.entries_anything hread
  rw [hw]
  cases hget : Entries.get? entries name with
  | none =>
    rw [hget] at hdeclared
    obtain rfl : [] = declared := Value.map.inj hdeclared
    exact .ok []
  | some v =>
    rw [hget] at hdeclared
    obtain rfl : v = .map declared := hdeclared
    cases declared with
    | nil => exact .ok []
    | cons e rest => exact .ok (e :: rest)

/-- A text that may be null or missing. -/
theorem givenText_agree (hf : Fills keepsOthers fields entries got) (i : Nat)
    (hi : fields[i]? = some (Body.textOrNull name)) :
    Agree (Value.givenText? entries name) (Value.givenText? got name) := by
  obtain ⟨w, hw, hd, hread⟩ := hf.part i hi .null readFrom_null
  have hsame := hd.read_eq rfl hread
  unfold Value.givenText? Value.given?
  rw [hw]
  cases hget : Entries.get? entries name with
  | none =>
    rw [hget] at hsame
    obtain rfl : w = .null := hsame
    exact .ok none
  | some v =>
    rw [hget] at hsame hd
    obtain rfl : w = v := hsame
    cases hd with
    | null => exact .ok none
    | some hd =>
      cases hd with
      | text s => exact .ok (some s)

/-- A required text. -/
theorem text_agree (hf : Fills keepsOthers fields entries got) (i : Nat)
    (hi : fields[i]? = some (Body.field name .text)) :
    ∃ s, Entries.get? entries name = some (.text s) ∧ Entries.get? got name = some (.text s) := by
  obtain ⟨v, w, hv, hw, hd, hread⟩ := hf.required i hi
  have hsame := hd.read_eq rfl hread
  cases hd with
  | text s => exact ⟨s, hv, hsame ▸ hw⟩

/-- A number is read as the double that it converts to. -/
theorem quantity_agree {bounds : List Bound} {v w : Value} (hd : (number bounds).Declares v)
    (hread : (number bounds).ReadFrom v w) : Agree v.toQuantity w.toQuantity := by
  obtain ⟨x, rfl, hx, -⟩ := read_number hd hread
  exact ⟨⟨x, none⟩, hx, rfl⟩

/-- A required number. -/
theorem required_agree (hf : Fills keepsOthers fields entries got) (i : Nat)
    (hi : fields[i]? = some (Body.field name (.number []))) :
    Agree (Value.need entries name >>= Value.toQuantity) (Value.need got name >>= Value.toQuantity) := by
  obtain ⟨v, w, hv, hw, hd, hread⟩ := hf.required i hi
  simp only [Value.need, hv, hw]
  exact quantity_agree hd hread

/-- A number that may be null or missing. -/
theorem optional_agree (hf : Fills keepsOthers fields entries got) (i : Nat)
    (hi : fields[i]? = some (Body.field name (.optional (.number [])) (some .null))) :
    Agree ((Value.given? entries name).mapM Value.toQuantity) ((Value.given? got name).mapM Value.toQuantity) := by
  obtain ⟨w, hw, hd, hread⟩ := hf.part i hi .null readFrom_null
  unfold Value.given?
  rw [hw]
  cases hget : Entries.get? entries name with
  | none =>
    rw [hget] at hd hread
    rcases read_optional_number hd hread with ⟨-, rfl⟩ | ⟨hnull, -⟩
    · exact .ok none
    · cases hnull
  | some v =>
    rw [hget] at hd hread
    rcases read_optional_number hd hread with ⟨hv, rfl⟩ | ⟨hd, hread⟩
    · obtain rfl : v = .null := hv
      exact .ok none
    · obtain ⟨x, rfl, hx, -⟩ := read_number hd hread
      have hsome : Agree (some <$> v.toQuantity) (some <$> Value.toQuantity (.float x)) :=
        ⟨some ⟨x, none⟩, congrArg (some <$> ·) hx, rfl⟩
      cases hd <;> exact hsome

end Fields

/-! ## Templates -/

variable {v w : Value}

theorem Timing.ofValue_map (entries : Entries) : Timing.ofValue (.map entries) = .ok {
    offset := match Entries.get? entries "offset" with
      | none => ({} : Timing).offset
      | some (.list items) => .tuple items
      | some other => other
    duration := Value.getOrNull entries "duration"
    easing := Value.getOrNull entries "easing" } := by
  cases entries <;> rfl

theorem Timing.ofValue_agree (hd : Body.timing.Declares v) (h : Body.timing.ReadFrom v w) :
    Agree (Timing.ofValue v) (Timing.ofValue w) := by
  obtain ⟨entries, got, rfl, rfl, hf⟩ := hd.fills (by decide) h
  obtain ⟨offset, hgot, hdoffset, hoffset⟩ := hf.part 0 rfl (.list (by simp [Declares.anything])) ⟨[], rfl⟩
  have hduration : Value.getOrNull got "duration" = Value.getOrNull entries "duration" := hf.plain 1 rfl rfl
  have heasing : Value.getOrNull got "easing" = Value.getOrNull entries "easing" := hf.plain 2 rfl rfl
  rw [Timing.ofValue_map, Timing.ofValue_map, hgot, hduration, heasing, hdoffset.read_eq rfl hoffset]
  cases Entries.get? entries "offset" <;> exact .ok _

/-- A missing timing is the default one. -/
theorem Timing.ofValue_default : Timing.ofValue (.map [(.text "offset", Body.defaultOffset)]) = Timing.ofValue .null := by
  simp [Timing.ofValue_map, Entries.get?, Entries.find?, Value.same, Value.getOrNull, Body.defaultOffset]
  rfl

theorem Timing.ofField_agree {keepsOthers : Bool} {fields : List Field} {entries got : Entries}
    (hf : Fills keepsOthers fields entries got) (i : Nat)
    (hi : fields[i]? = some (Body.field "timing" Body.timing (some (.map [(.text "offset", Body.defaultOffset)])))) :
    Agree (Timing.ofValue (Value.getOrNull entries "timing")) (Timing.ofValue (Value.getOrNull got "timing")) := by
  obtain ⟨w, hw, hgiven⟩ := hf.value i hi
  rw [Value.getOrNull, Value.getOrNull, hw]
  rcases hgiven with ⟨v, hv, hd, hread⟩ | ⟨hnone, hdefault⟩
  · rw [hv]
    exact Timing.ofValue_agree hd hread
  · rw [hnone]
    obtain rfl := Option.some.inj hdefault
    exact ⟨{}, rfl, Timing.ofValue_default⟩

theorem Animation.ofField_map (entries : Entries) : Animation.ofField (.map entries) = (do
    let params ← Value.toEntriesOrEmpty (Entries.get? entries "params")
    let timing ← Timing.ofValue (Value.getOrNull entries "timing")
    return {
      plugin := (Value.firstOf entries ["pluginName", "plugin_name"]).getD (.text "")
      params := .map params
      schedule := .timed timing }) :=
  rfl

theorem Animation.ofField_agree (hd : Body.animation.Declares v) (h : Body.animation.ReadFrom v w) :
    Agree (Animation.ofField v) (Animation.ofField w) := by
  obtain ⟨entries, got, rfl, rfl, hf⟩ := hd.fills (by decide) h
  have hplugin : (Value.firstOf got ["pluginName", "plugin_name"]).getD (.text "") =
      (Value.firstOf entries ["pluginName", "plugin_name"]).getD (.text "") := hf.plainSpelled 0 rfl rfl
  rw [Animation.ofField_map, Animation.ofField_map, hplugin]
  exact (toEntries_agree hf 1 rfl).bind fun params => (Timing.ofField_agree hf 2 rfl).bind fun timing => .ok _

theorem Rule.ofValue_agree (hd : Body.rule.Declares v) (h : Body.rule.ReadFrom v w) :
    Agree (Rule.ofValue v) (Rule.ofValue w) := by
  obtain ⟨entries, got, rfl, rfl, hf⟩ := hd.fills (by decide) h
  have hid : Agree ((Entries.get? entries "id").getD (.text "")).plain ((Entries.get? got "id").getD (.text "")).plain := by
    obtain ⟨id, hgot, hd, hread⟩ := hf.part 0 rfl (.text "") (readFrom_text "")
    have hsame := hd.read_eq rfl hread
    rw [hgot, Option.getD_some, hsame]
    generalize (Entries.get? entries "id").getD (.text "") = id at hd
    cases hd with
    | text s => exact .ok s
  have hcondition : (Entries.get? got "condition").getD (.text "") =
      (Entries.get? entries "condition").getD (.text "") := hf.plain 1 rfl rfl
  obtain ⟨a, b, ha, hb, hda, hab⟩ := hf.required 2 rfl
  have hpriority : (Entries.get? got "priority").getD (.int 0) = (Entries.get? entries "priority").getD (.int 0) :=
    hf.plain 3 rfl rfl
  have hintensity : (Entries.get? got "intensity").getD (.float 1.0) =
      (Entries.get? entries "intensity").getD (.float 1.0) := hf.plain 4 rfl rfl
  have hexpression : (Value.firstOf got ["intensityExpression", "intensity_expression"]).getD .null =
      (Value.firstOf entries ["intensityExpression", "intensity_expression"]).getD .null := hf.plainSpelled 5 rfl rfl
  have hgroup : (Value.firstOf got ["conflictGroup", "conflict_group"]).getD (.text "default") =
      (Value.firstOf entries ["conflictGroup", "conflict_group"]).getD (.text "default") := hf.plainSpelled 6 rfl rfl
  have henabled : (Entries.get? got "enabled").getD (.bool true) = (Entries.get? entries "enabled").getD (.bool true) :=
    hf.plain 7 rfl rfl
  have hname : (Entries.get? got "name").getD .null = (Entries.get? entries "name").getD .null := hf.plain 8 rfl rfl
  have hdescription : (Entries.get? got "description").getD .null = (Entries.get? entries "description").getD .null :=
    hf.plain 9 rfl rfl
  have hanimation : Agree (Animation.ofField (Value.getOrNull entries "animation"))
      (Animation.ofField (Value.getOrNull got "animation")) := by
    rw [Value.getOrNull, ha, Value.getOrNull, hb]
    exact Animation.ofField_agree hda hab
  show Agree (Animation.ofField (Value.getOrNull entries "animation") >>= Rule.ofEntries entries)
    (Animation.ofField (Value.getOrNull got "animation") >>= Rule.ofEntries got)
  refine hanimation.bind fun animation => ?_
  simp only [Rule.ofEntries, hcondition, hpriority, hintensity, hexpression, hgroup, henabled, hname, hdescription]
  exact hid.bind fun id => .ok _

theorem Variable.ofData_map (name : String) (entries : Entries) : Variable.ofData name (.map entries) = .ok {
    name
    expression := (Entries.get? entries "expression").getD (.text "")
    cached := (Value.getOrNull entries "cached").truthy
    description := Value.getOrNull entries "description" } :=
  rfl

theorem Variable.ofData_agree (name : String) (hd : Body.declaration.Declares v) (h : Body.declaration.ReadFrom v w) :
    Agree (Variable.ofData name v) (Variable.ofData name w) := by
  obtain ⟨entries, got, rfl, rfl, hf⟩ := hd.fills (by decide) h
  have hexpression : (Entries.get? got "expression").getD (.text "") =
      (Entries.get? entries "expression").getD (.text "") := hf.plain 0 rfl rfl
  have hcached : (Entries.get? got "cached").getD (.bool false) = (Entries.get? entries "cached").getD (.bool false) :=
    hf.plain 1 rfl rfl
  have hdescription : Value.getOrNull got "description" = Value.getOrNull entries "description" := hf.plain 2 rfl rfl
  have htruthy (es : Entries) : (Value.getOrNull es "cached").truthy =
      ((Entries.get? es "cached").getD (.bool false)).truthy := by
    rw [Value.getOrNull]
    cases Entries.get? es "cached" <;> rfl
  rw [Variable.ofData_map, Variable.ofData_map, hexpression, htruthy, htruthy, hcached, hdescription]
  exact .ok _

namespace Template

variable {entries got : Entries} {fields : List Field} {keepsOthers : Bool}

theorem ruleSources_eq {items : List Value} (h : (Entries.get? entries "rules").getD (.list []) = .list items) :
    ruleSources entries = .ok (items.map .plain) := by
  unfold ruleSources
  cases hrules : Entries.get? entries "rules" with
  | none =>
    rw [hrules] at h
    obtain rfl : [] = items := Value.list.inj h
    rfl
  | some v =>
    rw [hrules] at h
    obtain rfl : v = .list items := h
    cases items <;> rfl

theorem readVariables_eq {declared : Entries}
    (h : (Entries.get? entries "variables").getD (.map []) = .map declared) :
    readVariables entries = declared.mapM fun e => e.1.plain >>= fun name => Variable.ofData name e.2 := by
  unfold readVariables
  cases hvariables : Entries.get? entries "variables" with
  | none =>
    rw [hvariables] at h
    obtain rfl : [] = declared := Value.map.inj h
    rfl
  | some v =>
    rw [hvariables] at h
    obtain rfl : v = .map declared := h
    cases declared <;> rfl

theorem readVariables_agree (hf : Fills keepsOthers fields entries got) (i : Nat)
    (hi : fields[i]? = some (Body.field "variables" (.table Body.declaration) Body.emptyMap)) :
    Agree (readVariables entries) (readVariables got) := by
  obtain ⟨w, hw, hd, hread⟩ := hf.part i hi (.table (by simp) (by simp)) readFrom_empty
  obtain ⟨declared, values, hdeclared, rfl, hall⟩ := hd.entries hread
  have hgot : (Entries.get? got "variables").getD (.map []) = .map values := by rw [hw, Option.getD_some]
  rw [readVariables_eq hdeclared, readVariables_eq hgot]
  refine Agree.mapM (hall.imp fun e r her => ?_)
  obtain ⟨⟨⟨name, hname⟩, hde⟩, hkey, hread⟩ := her
  rw [hkey, hname]
  exact Variable.ofData_agree name hde hread

theorem ofValue_agree (hd : Body.template.Declares v) (h : Body.template.ReadFrom v w) :
    Agree (ofValue v) (ofValue w) := by
  obtain ⟨entries, got, rfl, rfl, hf⟩ := hd.fills (by decide) h
  obtain ⟨id, hid, hid'⟩ := text_agree hf 0 rfl
  have hname : Value.getOrNull got "name" = Value.getOrNull entries "name" := hf.plain 1 rfl rfl
  obtain ⟨rules, hrules, hd, hread⟩ := hf.part 3 rfl (.list (by simp)) readFrom_nil
  obtain ⟨items, values, hitems, rfl, hall⟩ := hd.items hread
  have hgot : (Entries.get? got "rules").getD (.list []) = .list values := by rw [hrules, Option.getD_some]
  have hread : Agree ((items.map RuleSource.plain).mapM RuleSource.read) ((values.map RuleSource.plain).mapM RuleSource.read) := by
    refine Agree.mapM ?_
    rw [List.forall₂_map_left_iff, List.forall₂_map_right_iff]
    exact hall.imp fun x y hxy => Rule.ofValue_agree hxy.1 hxy.2
  have hreadId : Agree (readId entries) (readId got) := by
    unfold readId
    rw [hid, hid']
    cases hid : id.isEmpty with
    | true => exact ⟨"", by simp [Value.truthy, hid], by simp [Value.truthy, hid]⟩
    | false => exact ⟨id, by simp [Value.truthy, hid]; rfl, by simp [Value.truthy, hid]; rfl⟩
  show Agree (assemble entries none none) (assemble got none none)
  simp only [assemble, Option.elim_none, ruleSources_eq hitems, ruleSources_eq hgot, hname]
  exact .after ((readVariables_agree hf 4 rfl).bind fun _ => hreadId.bind fun _ => hread.bind fun _ =>
    (givenText_agree hf 2 rfl).bind fun _ => (toEntries_agree hf 5 rfl).bind fun _ => .ok _)

end Template

/-! ## Transcripts -/

namespace Word

/-- The features of a word: those declared and what stands under other keys. -/
def gathered (declared entries : Entries) : Entries :=
  entries.foldl (fun acc (k, x) => if isOwnKey k then acc else Entries.put k x acc) declared

theorem gathered_eq (declared entries : Entries) : gathered declared entries =
    (entries.filter fun e => !isOwnKey e.1).foldl (fun acc e => Entries.put e.1 e.2 acc) declared := by
  rw [List.foldl_filter]
  refine congrArg (fun step => entries.foldl step declared) (funext fun acc => funext fun e => ?_)
  cases h : isOwnKey e.1 <;> simp [h]

/-- Keys that are no features make no difference. -/
theorem gathered_append (declared : Entries) {own : Entries} (h : ∀ e ∈ own, isOwnKey e.1 = true) (entries : Entries) :
    gathered declared (own ++ entries.filter fun e => !isOwnKey e.1) = gathered declared entries := by
  have hown : own.filter (fun e => !isOwnKey e.1) = [] := by
    refine List.filter_eq_nil_iff.mpr fun e he => ?_
    simp [h e he]
  rw [gathered_eq, gathered_eq, List.filter_append, hown, List.nil_append, List.filter_filter]
  simp only [Bool.and_self]

theorem ofValue_map (entries : Entries) : ofValue (.map entries) = (do
    let declared ← Value.toEntriesOrEmpty (Entries.get? entries "features")
    let text ← (← Value.need entries "text").plain
    let start ← Value.need entries "start" >>= Value.toQuantity
    let finish ← Value.need entries "end" >>= Value.toQuantity
    let confidence ← ((Entries.get? entries "confidence").getD (.float 1.0)).toQuantity
    let id ← Value.givenText? entries "id"
    return { text, start, finish, confidence, id, features := gathered declared entries }) := by
  simp only [bind_assoc]
  rfl

theorem ofValue_agree (hd : Body.word.Declares v) (h : Body.word.ReadFrom v w) : Agree (ofValue v) (ofValue w) := by
  obtain ⟨entries, got, rfl, rfl, hf⟩ := hd.fills (by decide) h
  obtain ⟨text, htext, htext'⟩ := text_agree hf 0 rfl
  have hconfidence : Agree ((Entries.get? entries "confidence").getD (.float 1.0)).toQuantity
      ((Entries.get? got "confidence").getD (.float 1.0)).toQuantity := by
    obtain ⟨w, hw, hd, hread⟩ := hf.part 3 rfl (.double 1.0) ⟨[], rfl⟩
    rw [hw]
    exact quantity_agree hd hread
  have hgathered (declared : Entries) : gathered declared got = gathered declared entries := by
    obtain ⟨own, hown, rfl⟩ := hf.others
    have hkeys : ∀ e ∈ own, isOwnKey e.1 = true := by
      intro e he
      obtain ⟨f, hmem, hkey⟩ := hown e he
      rw [hkey]
      clear hkey
      revert f
      decide
    rw [if_pos rfl, ← gathered_append declared hkeys entries]
    congr 2
    refine List.filter_congr fun e _ => ?_
    obtain ⟨k, x⟩ := e
    cases k <;> rfl
  simp only [ofValue_map, Value.need, htext, htext', hgathered]
  exact (toEntries_agree hf 5 rfl).bind fun _ => .after <| (Agree.ok text).bind fun _ => (required_agree hf 1 rfl).bind
    fun _ => (required_agree hf 2 rfl).bind fun _ => hconfidence.bind fun _ => (givenText_agree hf 4 rfl).bind fun _ => .ok _

theorem ofItem_agree (hd : Body.word.Declares v) (h : Body.word.ReadFrom v w) : Agree (ofItem v) (ofItem w) := by
  have hread := ofValue_agree hd h
  obtain ⟨entries, got, rfl, rfl, -⟩ := hd.fills (by decide) h
  exact hread

end Word

namespace Segment

theorem ofValue_of_items {entries : Entries} {items : List Value}
    (h : (Entries.get? entries "words").getD (.list []) = .list items) : ofValue (.map entries) = (do
      let words ← items.mapM Word.ofItem
      let id ← Value.givenText? entries "id"
      let start ← (Value.given? entries "start").mapM Value.toQuantity
      let finish ← (Value.given? entries "end").mapM Value.toQuantity
      let metadata ← Value.toEntriesOrEmpty (Entries.get? entries "metadata")
      return { words, id, start, finish, metadata
               text := Value.getOrNull entries "text"
               speaker := Value.getOrNull entries "speaker"
               emotion := Value.getOrNull entries "emotion" }) := by
  have hwords : Value.given? entries "words" = Entries.get? entries "words" := by
    unfold Value.given?
    cases hget : Entries.get? entries "words" with
    | none => rfl
    | some v =>
      rw [hget] at h
      obtain rfl : v = .list items := h
      rfl
  unfold ofValue
  show (Except.ok entries >>= _) = _
  dsimp only [bind, Except.bind]
  rw [hwords]
  cases hget : Entries.get? entries "words" with
  | none =>
    rw [hget] at h
    obtain rfl : [] = items := Value.list.inj h
    rfl
  | some v =>
    rw [hget] at h
    obtain rfl : v = .list items := h
    rfl

theorem ofValue_agree (hd : Body.segment.Declares v) (h : Body.segment.ReadFrom v w) :
    Agree (ofValue v) (ofValue w) := by
  obtain ⟨entries, got, rfl, rfl, hf⟩ := hd.fills (by decide) h
  obtain ⟨words, hwords, hd, hread⟩ := hf.part 0 rfl (.list (by simp)) readFrom_nil
  obtain ⟨items, values, hitems, rfl, hall⟩ := hd.items hread
  have hgot : (Entries.get? got "words").getD (.list []) = .list values := by rw [hwords, Option.getD_some]
  have hread : Agree (items.mapM Word.ofItem) (values.mapM Word.ofItem) :=
    .mapM (hall.imp fun x y hxy => Word.ofItem_agree hxy.1 hxy.2)
  have htext : Value.getOrNull got "text" = Value.getOrNull entries "text" := hf.plain 4 rfl rfl
  have hspeaker : Value.getOrNull got "speaker" = Value.getOrNull entries "speaker" := hf.plain 5 rfl rfl
  have hemotion : Value.getOrNull got "emotion" = Value.getOrNull entries "emotion" := hf.plain 6 rfl rfl
  rw [ofValue_of_items hitems, ofValue_of_items hgot, htext, hspeaker, hemotion]
  exact hread.bind fun _ => (givenText_agree hf 1 rfl).bind fun _ => (optional_agree hf 2 rfl).bind fun _ =>
    (optional_agree hf 3 rfl).bind fun _ => (toEntries_agree hf 7 rfl).bind fun _ => .ok _

theorem ofItem_agree (hd : Body.segment.Declares v) (h : Body.segment.ReadFrom v w) :
    Agree (ofItem v) (ofItem w) := by
  have hread := ofValue_agree hd h
  obtain ⟨entries, got, rfl, rfl, -⟩ := hd.fills (by decide) h
  exact hread

end Segment

namespace Transcript

theorem ofValue_of_items {entries metadata : Entries} {items : List Value}
    (hs : Entries.get? entries "segments" = some (.list items))
    (hm : (Entries.get? entries "metadata").getD (.map []) = .map metadata) : ofValue (.map entries) = (do
      let segments ← items.mapM Segment.ofItem
      let id ← Value.givenText? entries "id"
      return { segments, metadata, id }) := by
  unfold ofValue
  show (Except.ok entries >>= _) = _
  dsimp only [bind, Except.bind]
  rw [Value.getOrNull, hs]
  cases hget : Entries.get? entries "metadata" with
  | none =>
    rw [hget] at hm
    obtain rfl : [] = metadata := Value.map.inj hm
    rfl
  | some v =>
    rw [hget] at hm
    obtain rfl : v = .map metadata := hm
    cases metadata <;> rfl

theorem ofValue_agree (hd : Body.transcript.Declares v) (h : Body.transcript.ReadFrom v w) :
    Agree (ofValue v) (ofValue w) := by
  obtain ⟨entries, got, rfl, rfl, hf⟩ := hd.fills (by decide) h
  obtain ⟨v, w, hv, hw, hd, hread⟩ := hf.required 0 rfl
  obtain ⟨items, values, rfl, rfl, hall⟩ := hd.items hread
  have hread : Agree (items.mapM Segment.ofItem) (values.mapM Segment.ofItem) :=
    .mapM (hall.imp fun x y hxy => Segment.ofItem_agree hxy.1 hxy.2)
  obtain ⟨m, hm, hd, hmetadata⟩ := hf.part 1 rfl (.table (by simp) (by simp)) readFrom_empty
  obtain ⟨metadata, hsent, rfl⟩ := hd.entries_anything hmetadata
  have hgot : (Entries.get? got "metadata").getD (.map []) = .map metadata := by rw [hm, Option.getD_some]
  rw [ofValue_of_items hv hsent, ofValue_of_items hw hgot]
  exact hread.bind fun _ => (givenText_agree hf 2 rfl).bind fun _ => .ok _

end Transcript
end CaptionAnimation
