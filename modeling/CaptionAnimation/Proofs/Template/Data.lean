import CaptionAnimation.Helper.Standard
import CaptionAnimation.Proofs.Template.Compilation
import CaptionAnimation.Proofs.Value.Writable

/-! # Templates from plain data

Whatever plain data a template is read from, reading it either finds the wrong shape or gives a template whose fields
can be quoted in messages, and the analysis of such a template returns. So compiling and validating always answer, and
their answers agree. -/
namespace CaptionAnimation

/-- Reading gives a result with a property, unless the data have the wrong shape. -/
abbrev Reads {α : Type} (results : α → Prop) (x : Except Fault α) : Prop := Meets (fun f => f.ofShape = true) results x

namespace Value

theorem fields_reads (v : Value) : Reads (fun entries => v.entries? = some entries) v.fields := by
  unfold fields
  split
  · next h => exact h
  · exact rfl

theorem entries?_of_fields {v : Value} {entries : Entries} (h : v.fields = .ok entries) :
    v.entries? = some entries := by
  have hreads := v.fields_reads
  rwa [h] at hreads

theorem putPairs_reads (items : List Value) (entries : Entries) (index : Nat) :
    Reads (fun _ => True) (putPairs entries index items) := by
  induction items generalizing entries index with
  | nil => trivial
  | cons item rest ih =>
    unfold putPairs
    split
    · exact rfl
    · split
      · exact rfl
      · exact ih _ _
    · exact rfl

theorem toEntries_reads (v : Value) : Reads (fun _ => True) v.toEntries := by
  unfold toEntries
  split
  · trivial
  · trivial
  · split
    · exact putPairs_reads _ _ _
    · exact rfl

theorem toEntriesOrEmpty_reads (v : Option Value) : Reads (fun _ => True) (toEntriesOrEmpty v) := by
  unfold toEntriesOrEmpty
  split
  · trivial
  · split
    · exact toEntries_reads _
    · trivial

/-- Plain data that are a map at all are one with plain data in it. -/
theorem IsData.of_entries? {v : Value} (h : v.IsData) {entries : Entries} (he : v.entries? = some entries) :
    IsData (Value.map entries) := by
  cases h with
  | map hk hv =>
    obtain rfl := Option.some.inj he
    exact .map hk hv
  | _ => cases he

theorem IsData.getD {entries : Entries} (h : IsData (Value.map entries)) (key : String) {default : Value}
    (hd : default.IsData) : IsData ((Entries.get? entries key).getD default) := by
  cases hv : Entries.get? entries key with
  | none => exact hd
  | some v => exact h.get? hv

theorem IsData.given? {entries : Entries} (h : IsData (Value.map entries)) {key : String} {v : Value}
    (hv : Value.given? entries key = some v) : v.IsData := by
  unfold Value.given? at hv
  split at hv
  · cases hv
  · exact h.get? hv

/-- A part that is plain data has a text of its own. -/
theorem IsData.plain_reads {v : Value} (h : v.IsData) : Reads (fun _ => True) v.plain := by
  obtain ⟨s, hs⟩ := h.exists_plain
  rw [hs]
  trivial

end Value

/-! ## Parts of a template -/

/-- If an animation has a timing, its offset can be quoted. -/
def Animation.Quotable (a : Animation) : Prop := ∀ t, a.schedule = .timed t → t.offset.Writable

/-- Every value of a rule that an issue may quote can be quoted. -/
structure Rule.Quotable (r : Rule) : Prop where
  priority : r.priority.Writable
  intensity : r.intensity.Writable
  animation : r.animation.Quotable

theorem Timing.default_writable : ({} : Timing).offset.Writable := ⟨_, rfl⟩

theorem Timing.ofValue_reads {v : Value} (h : v.IsData) :
    Reads (fun t : Timing => t.offset.Writable) (Timing.ofValue v) := by
  unfold Timing.ofValue
  split
  · exact Timing.default_writable
  · refine v.fields_reads.bind fun entries he => ?_
    have hdata := h.of_entries? he
    show Value.Writable _
    split
    · exact Timing.default_writable
    · next items hitems =>
      cases hdata.get? hitems with
      | list hall => exact .tuple fun x hx => (hall x hx).writable
    · next other hother => exact (hdata.get? hother).writable

theorem Animation.ofValue_reads {entries : Entries} (h : Value.IsData (.map entries)) :
    Reads Animation.Quotable (Animation.ofValue (.map entries)) := by
  have hpick : Reads (fun _ => True) (Value.pick (.map entries) ["pluginName", "plugin_name"]) := trivial
  refine hpick.bind fun plugin _ => (Value.fields_reads _).bind fun read hread => ?_
  obtain rfl : entries = read := Option.some.inj hread
  refine (Value.toEntriesOrEmpty_reads _).bind fun params _ => ?_
  refine (Timing.ofValue_reads (h.getD "timing" .null)).bind fun timing htiming => ?_
  rintro t ht
  obtain rfl := Schedule.timed.inj ht
  exact htiming

theorem Animation.ofField_reads {v : Value} (h : v.IsData) : Reads Animation.Quotable (Animation.ofField v) := by
  unfold Animation.ofField
  split
  · exact ofValue_reads h
  · cases h
  · rintro t ht
    obtain rfl := Schedule.timed.inj ht
    exact Timing.default_writable

theorem Rule.ofValue_reads {v : Value} (h : v.IsData) : Reads Rule.Quotable (Rule.ofValue v) := by
  refine v.fields_reads.bind fun entries he => ?_
  have hdata := h.of_entries? he
  refine (Animation.ofField_reads (hdata.getD "animation" .null)).bind fun animation hanimation => ?_
  refine (hdata.getD "id" (.text "")).plain_reads.bind fun id _ => ?_
  exact ⟨(hdata.getD "priority" (.int (by decide +kernel))).writable,
    (hdata.getD "intensity" (.quantity _)).writable, hanimation⟩

theorem Variable.ofData_reads (name : String) (v : Value) : Reads (fun _ => True) (Variable.ofData name v) := by
  unfold Variable.ofData
  split
  · trivial
  · exact (Value.fields_reads _).bind fun _ _ => trivial

theorem Variable.ofItem_reads {v : Value} (h : v.IsData) : Reads (fun _ => True) (Variable.ofItem v) :=
  v.fields_reads.bind fun _ he =>
    ((h.of_entries? he).getD "name" (.text "")).plain_reads.bind fun name _ => Variable.ofData_reads name v

namespace Template

variable {entries : Entries}

theorem ruleSources_reads (h : Value.IsData (.map entries)) :
    Reads (fun sources => ∀ source ∈ sources, ∃ v, source = RuleSource.plain v ∧ v.IsData) (ruleSources entries) := by
  unfold ruleSources
  split
  · exact List.forall_mem_nil _
  · next v hv =>
    split
    · exact List.forall_mem_nil _
    · split
      · next items hitems =>
        intro source hs
        obtain ⟨item, hitem, rfl⟩ := List.mem_map.mp hs
        cases h.get? hv with
        | list hall =>
          obtain rfl := Option.some.inj hitems
          exact ⟨item, rfl, hall item hitem⟩
        | _ => cases hitems
      · exact rfl

theorem readVariables_reads (h : Value.IsData (.map entries)) : Reads (fun _ => True) (readVariables entries) := by
  have hall {x : Except Fault (List Variable)} (hx : Reads (fun vs => ∀ v ∈ vs, True) x) : Reads (fun _ => True) x :=
    hx.mono (fun _ he => he) fun _ _ => trivial
  unfold readVariables
  split
  · trivial
  · next v hv =>
    split
    · trivial
    · cases h.get? hv with
      | map hk _ =>
        refine hall (Meets.mapM_mem fun e he => ?_)
        obtain ⟨key, hkey⟩ := hk e he
        obtain ⟨name, data⟩ := e
        obtain rfl : name = .text key := hkey
        exact Variable.ofData_reads key data
      | list hitems => exact hall (Meets.mapM_mem fun item hi => Variable.ofItem_reads (hitems item hi))
      | _ => exact rfl

theorem exists_readId (h : Value.IsData (.map entries)) : ∃ id, readId entries = .ok id := by
  unfold readId
  split
  · exact ⟨_, rfl⟩
  · next v hv =>
    split
    · exact (h.get? hv).exists_plain
    · exact ⟨_, rfl⟩

theorem exists_readVersion (h : Value.IsData (.map entries)) : ∃ version, readVersion entries = .ok version := by
  unfold readVersion Value.givenText?
  cases hv : Value.given? entries "version" with
  | none => exact ⟨none, rfl⟩
  | some v =>
    obtain ⟨s, hs⟩ := (h.given? hv).exists_plain
    exact ⟨some s, by rw [Option.mapM_some, hs]; rfl⟩

theorem ofValue_reads {v : Value} (h : v.IsData) :
    Reads (fun t => ∀ r ∈ t.rules, Rule.Quotable r) (Template.ofValue v) := by
  refine v.fields_reads.bind fun entries he => ?_
  have hdata := h.of_entries? he
  refine (ruleSources_reads hdata).bind fun sources hsources => ?_
  refine (readVariables_reads hdata).bind fun declarations _ => ?_
  obtain ⟨id, hid⟩ := exists_readId hdata
  obtain ⟨version, hversion⟩ := exists_readVersion hdata
  rw [hid, hversion]
  have hrules : Reads (fun rules => ∀ r ∈ rules, Rule.Quotable r) (sources.mapM RuleSource.read) :=
    Meets.mapM_mem fun source hs => by
      obtain ⟨data, rfl, hd⟩ := hsources source hs
      exact Rule.ofValue_reads hd
  exact hrules.bind fun rules hall => (Value.toEntriesOrEmpty_reads _).bind fun metadata _ => hall

/-- What can be read as a template is a map or a template. -/
theorem stranger?_of_read {source : TemplateSource} {t : Template} (h : source.read = .ok t) :
    source.stranger? = none := by
  cases source with
  | plain data =>
    obtain ⟨entries, hentries, -⟩ := bind_eq_ok_iff.mp h
    exact if_pos (Option.isSome_of_mem (Value.entries?_of_fields hentries))
  | assembled => rfl
  | finished => rfl

/-- A computation returns a result of any kind. -/
abbrev Returns {α : Type} (x : Except Fault α) : Prop := Meets (fun _ => False) (fun _ => True) x

end Template
end CaptionAnimation
