import CaptionAnimation.Proofs.Selection.Bookkeeping
import CaptionAnimation.Proofs.Selection.WordIds

/-! # Once for each word

What is applied comes in blocks, one for each word that has animations, in the order of the words; a block lists the
winners of its word by precedence, one of each conflict group. Where the ids of words tell them apart, so do the ids in
the result: no rule is applied twice to a word. -/
namespace CaptionAnimation

open Evaluation

/-! ## Blocks with keys -/

section Blocks

variable {α β κ : Type} {block : β → List α} {key : α → κ} {name : β → κ} {blocks : List β}

theorem flatMap_eq_of_sublist {names keys : List κ} (hs : names.Sublist keys) (hn : keys.Nodup) {f : κ → List α}
    (hf : ∀ k ∈ keys, k ∉ names → f k = []) : keys.flatMap f = names.flatMap f := by
  induction hs with
  | slnil => rfl
  | @cons names keys k hs ih =>
    obtain ⟨hk, hn⟩ := List.nodup_cons.mp hn
    rw [List.flatMap_cons, hf k List.mem_cons_self fun h => hk (hs.subset h), List.nil_append]
    exact ih hn fun j hj => hf j (List.mem_cons_of_mem _ hj)
  | @cons_cons names keys k hs ih =>
    obtain ⟨hk, hn⟩ := List.nodup_cons.mp hn
    rw [List.flatMap_cons, List.flatMap_cons, ih hn fun j hj hjn => hf j (List.mem_cons_of_mem _ hj) ?_]
    rw [List.mem_cons, not_or]
    exact ⟨fun h => hk (h ▸ hj), hjn⟩

variable [DecidableEq κ] (hkey : ∀ x ∈ blocks, ∀ a ∈ block x, key a = name x)

include hkey

theorem filter_of_not_mem {k : κ} (hk : k ∉ blocks.map name) :
    (blocks.flatMap block).filter (fun a => key a == k) = [] := by
  refine List.filter_eq_nil_iff.mpr fun a ha => ?_
  obtain ⟨x, hx, ha⟩ := List.mem_flatMap.mp ha
  rw [hkey x hx a ha, beq_iff_eq]
  exact fun h => hk (h ▸ List.mem_map_of_mem hx)

/-- Of blocks of different names, one has the items of its name. -/
theorem filter_of_mem (hn : (blocks.map name).Nodup) {x : β} (hx : x ∈ blocks) :
    (blocks.flatMap block).filter (fun a => key a == name x) = block x := by
  induction blocks with
  | nil => cases hx
  | cons y rest ih =>
    obtain ⟨hy, hn⟩ := List.nodup_cons.mp hn
    have hrest : ∀ z ∈ rest, ∀ a ∈ block z, key a = name z := fun z hz => hkey z (List.mem_cons_of_mem _ hz)
    have hown : ∀ a ∈ block y, key a = name y := hkey y List.mem_cons_self
    rw [List.flatMap_cons, List.filter_append]
    rcases List.mem_cons.mp hx with rfl | hx
    · rw [filter_of_not_mem hrest hy, List.append_nil]
      exact List.filter_eq_self.mpr fun a ha => beq_iff_eq.mpr (hown a ha)
    · have hother : (block y).filter (fun a => key a == name x) = [] := by
        refine List.filter_eq_nil_iff.mpr fun a ha => ?_
        rw [hown a ha, beq_iff_eq]
        exact fun h => hy (h ▸ List.mem_map_of_mem hx)
      rw [hother, List.nil_append]
      exact ih hrest hn hx

/-- The blocks are put together from the items of each key. -/
theorem flatMap_filter_key {keys : List κ} (hs : (blocks.map name).Sublist keys) (hn : keys.Nodup) :
    blocks.flatMap block = keys.flatMap fun k => (blocks.flatMap block).filter fun a => key a == k := by
  rw [flatMap_eq_of_sublist hs hn fun k _ hk => filter_of_not_mem hkey hk, List.flatMap_map]
  exact (List.flatMap_congr fun x hx => filter_of_mem hkey (hn.sublist hs) hx).symm

end Blocks

/-! ## Winners -/

namespace Verdict

variable {helpers : Registry} {t : Template} {c : CompiledTemplate} {rules : List CompiledRule} {l : Ledger} {s : Scope}
  {v : Verdict}

/-- Rules in order of precedence, of different ids, with a text for their group, and one of each group. -/
structure OnePerGroup (rules : List CompiledRule) : Prop where
  ordered : rules.Pairwise CompiledRule.Outranks
  ids_nodup : (rules.map CompiledRule.id).Nodup
  grouped : ∀ r ∈ rules, r.Grouped
  one_of_group : ∀ g, (rules.filter (CompiledRule.inGroup g)).length ≤ 1

/-- The winners of a verdict on rules of a valid template. -/
theorem winners_onePerGroup (hc : Template.analyze helpers t = .ok c) (hv : c.isValid = true)
    (hrules : rules.Sublist c.rules) (hj : (l.judge s rules).2 = .ok v) : OnePerGroup (v.winners.map Winner.rule) := by
  have hn : rules.Nodup := (List.Nodup.of_map _ (CompiledTemplate.rules_index_nodup hc)).sublist hrules
  obtain ⟨ranked, hsettles⟩ := Ledger.exists_settles hc hv (fun r hr => hrules.subset hr) hn hj
  have hids : (ranked.map CompiledRule.id).Nodup := by
    have hkept := ((CompiledTemplate.rules_id_nodup hc hv).sublist (hrules.map _)).sublist
      (List.filter_sublist (p := CompiledRule.matchesAt s).map _)
    exact (hsettles.ranked_perm.map _).nodup_iff.mpr hkept
  exact {
    ordered := hsettles.ranked_order.sublist hsettles.winners_order
    ids_nodup := hids.sublist (hsettles.winners_order.map _)
    grouped := fun r hr => hsettles.grouped r (hsettles.winners_order.subset hr)
    one_of_group := fun g => by
      rw [hsettles.winner_of_group g]
      cases (ranked.filter (CompiledRule.inGroup g)).head? <;> simp }

end Verdict

/-! ## Results -/

/-- What is applied stands word after word, in the order of the ids; no rule is applied twice to a word, and what is
applied to a word stands by precedence, one rule of each conflict group. -/
structure Application.OncePerWord (ids : List String) (a : Application) : Prop where
  contiguous : a.applied = ids.flatMap fun id => a.applied.filter (·.wordId == id)
  nodup : (a.applied.map fun x => (x.rule.id, x.wordId)).Nodup
  onePerGroup : ∀ id, Verdict.OnePerGroup ((a.applied.filter (·.wordId == id)).map Applied.rule)

namespace Application

variable {a a' : Application} {ids : List String}

theorem oncePerWord_of_nil (h : a.applied = []) : a.OncePerWord ids where
  contiguous := by simp [h]
  nodup := by simp [h]
  onePerGroup id := by
    rw [h]
    exact ⟨List.Pairwise.nil, List.nodup_nil, List.forall_mem_nil _, fun _ => Nat.zero_le 1⟩

/-- Blocks for different words, each with different rules, have no pair twice. -/
theorem nodup_of_blocks (hn : ids.Nodup) (hcontiguous : a.applied = ids.flatMap fun id => a.applied.filter (·.wordId == id))
    (hblocks : ∀ id, Verdict.OnePerGroup ((a.applied.filter (·.wordId == id)).map Applied.rule)) :
    (a.applied.map fun x => (x.rule.id, x.wordId)).Nodup := by
  rw [hcontiguous, List.map_flatMap, List.nodup_flatMap]
  refine ⟨fun id _ => ?_, hn.imp fun {i j} hij => ?_⟩
  · have hrules := (hblocks id).ids_nodup
    rw [List.map_map] at hrules
    refine List.Nodup.of_map Prod.fst ?_
    rwa [List.map_map]
  · rintro ⟨rule, word⟩ hi hj
    obtain ⟨x, hx, hxi⟩ := List.mem_map.mp hi
    obtain ⟨y, hy, hyj⟩ := List.mem_map.mp hj
    have hxw : x.wordId = i := eq_of_beq (List.mem_filter.mp hx).2
    have hyw : y.wordId = j := eq_of_beq (List.mem_filter.mp hy).2
    exact hij (hxw.symm.trans ((congrArg Prod.snd (hxi.trans hyj.symm)).trans hyw))

/-- Verdicts on words of different ids apply each rule once to a word. -/
theorem Extends.oncePerWord {verdicts : List (PlacedWord × Verdict)} (h : a.Extends a' verdicts) (ha : a.applied = [])
    (hs : (verdicts.map fun x => x.1.id).Sublist ids) (hn : ids.Nodup)
    (hv : ∀ x ∈ verdicts, Verdict.OnePerGroup (x.2.winners.map Winner.rule)) : a'.OncePerWord ids := by
  have happlied : a'.applied =
      verdicts.flatMap fun x => x.2.winners.map fun w => ⟨w.rule, x.1.id, w.strength⟩ := by
    have happended := h.applied
    rwa [ha, List.nil_append] at happended
  have hkey : ∀ x ∈ verdicts, ∀ y ∈ x.2.winners.map (fun w => Applied.mk w.rule x.1.id w.strength),
      y.wordId = x.1.id := by
    intro x _ y hy
    obtain ⟨w, -, rfl⟩ := List.mem_map.mp hy
    rfl
  have hcontiguous : a'.applied = ids.flatMap fun id => a'.applied.filter (·.wordId == id) := by
    rw [happlied]
    exact flatMap_filter_key hkey hs hn
  have hblocks : ∀ id, Verdict.OnePerGroup ((a'.applied.filter (·.wordId == id)).map Applied.rule) := by
    intro id
    rw [happlied]
    by_cases hid : id ∈ verdicts.map fun x => x.1.id
    · obtain ⟨x, hx, rfl⟩ := List.mem_map.mp hid
      have hblock := filter_of_mem hkey (hn.sublist hs) hx
      rw [hblock, List.map_map]
      exact hv x hx
    · have hnone := filter_of_not_mem hkey hid
      rw [hnone]
      exact ⟨List.Pairwise.nil, List.nodup_nil, List.forall_mem_nil _, fun _ => Nat.zero_le 1⟩
  exact ⟨hcontiguous, nodup_of_blocks hn hcontiguous hblocks, hblocks⟩

end Application

namespace Session

variable {s : Session}

theorem KeepsCompiled.after (h : s.KeepsCompiled) (call : Call) : (s.after call).KeepsCompiled := by
  cases call with
  | apply template audio options => exact h.apply template audio options
  | compile template useCache => exact (h.compiled template useCache).1
  | validate template => exact h
  | select template context options =>
    show (s.selectWord template context options).1.KeepsCompiled
    unfold selectWord
    split
    · exact h
    · split <;> exact h
  | clear => exact s.keepsCompiled_clear

theorem KeepsCompiled.afterAll (h : s.KeepsCompiled) (calls : List Call) : (s.afterAll calls).KeepsCompiled := by
  induction calls generalizing s with
  | nil => exact h
  | cons call rest ih => exact ih (h.after call)

/-- A session whose kept templates are compiled ones applies each rule once to a word. -/
theorem KeepsCompiled.oncePerWord (h : s.KeepsCompiled) (template : TemplateSource) {audio : Value}
    (options : OptionsSource) {given : Transcript} (hgiven : Transcript.expect audio = .ok given)
    (hids : given.HasDistinctIds) :
    (s.apply template audio options).2.OncePerWord (given.placedWords.map PlacedWord.id) := by
  rcases s.reaches_or_refused template audio options with ⟨c, t, o, run, hreaches⟩ | ⟨errors, warnings, hrefused⟩
  · obtain ⟨source, -, hcompiled⟩ := hreaches.compiled
    obtain ⟨helpers, declared, -, hc⟩ := (h.compiled source o.caching.truthy).2 c hcompiled
    obtain ⟨given', hgiven', rfl⟩ := hreaches.transcript
    obtain rfl := Except.ok.inj (hgiven.symm.trans hgiven')
    obtain ⟨rules, hrules, hresult⟩ := hreaches.apply_eq_run
    rw [hresult]
    cases hrun : (Course.run ⟨s.helpers, given.placed, run.values, rules, o⟩ {} run.warnings).2 with
    | error f => exact Application.oncePerWord_of_nil rfl
    | ok a =>
      obtain ⟨verdicts, hsub, hverdicts, hextends⟩ := Course.runFrom_verdicts _ hrun
      have hnames : (verdicts.map fun x => x.1.id).Sublist (given.placedWords.map PlacedWord.id) := by
        have hplaced := hsub.map PlacedWord.id
        rwa [List.map_map, Transcript.map_id_placed] at hplaced
      exact hextends.oncePerWord rfl hnames hids.ids_nodup fun x hx =>
        Verdict.winners_onePerGroup hc hreaches.valid (Options.filterRules_sublist hrules) (hverdicts x hx)
  · rw [hrefused]
    exact Application.oncePerWord_of_nil rfl

/-- Where the words' own ids are different and none is written like a place, all words have different ids, and any
session, whatever calls came before, applies each rule once to a word. -/
theorem apply_once_per_word {settings : Settings} {helpers : Registry} {templateCacheSize variableCacheSize : Option Int}
    (h : Session.new settings helpers templateCacheSize variableCacheSize = .ok s) (calls : List Call)
    (template : TemplateSource) {audio : Value} (options : OptionsSource) {given : Transcript}
    (hgiven : Transcript.expect audio = .ok given) (hids : given.HasDistinctIds) :
    (given.placedWords.map PlacedWord.id).Nodup ∧
      ((s.afterAll calls).apply template audio options).2.OncePerWord (given.placedWords.map PlacedWord.id) :=
  ⟨hids.ids_nodup, ((books_new h).kept.afterAll calls).oncePerWord template options hgiven hids⟩

/-- A transcript of a word with an id, a word with an empty id and two words without an id. -/
def partlyNamed : Transcript where
  segments := [[named "oh" (some "first"), named "my" none], [named "good" (some ""), named "night" none]].map
    fun words => ⟨words, none, none, none, .null, .null, .null, []⟩
  metadata := []
  id := some "partly named"
where
  named (text : String) (id : Option String) : Word := ⟨text, ⟨0.25, none⟩, ⟨0.5, none⟩, ⟨1, none⟩, id, []⟩

theorem partlyNamed_hasDistinctIds : partlyNamed.HasDistinctIds where
  nodup := by decide
  no_place := by
    rintro w hw id hid ⟨front, back, -, -, -, hlist⟩
    obtain rfl : id = "first" := by
      have hids : partlyNamed.words.filterMap Word.ownId? = ["first"] := by decide
      exact List.mem_singleton.mp (hids ▸ List.mem_filterMap.mpr ⟨w, hw, hid⟩)
    have hhyphen : '-' ∈ "first".toList := by simp [hlist]
    revert hhyphen
    decide

/-- After a call, the words of such a transcript have their animations once again. -/
theorem partlyNamed_once_per_word :
    Session.new {} .standard = .ok started ∧
    Transcript.expect (.transcript partlyNamed) = .ok partlyNamed ∧ partlyNamed.HasDistinctIds ∧
    (partlyNamed.placedWords.map PlacedWord.id).Nodup ∧
    ((started.afterAll [search "1"]).apply (.finished unmeasured) (.transcript partlyNamed) .absent).2.OncePerWord
      (partlyNamed.placedWords.map PlacedWord.id) ∧
    ((started.afterAll [search "1"]).apply (.finished unmeasured) (.transcript partlyNamed) .absent).2.applied.map
      (fun x => (x.rule.id, x.wordId)) =
        [("endless", "first"), ("endless", "0-1"), ("endless", "1-0"), ("endless", "1-1")] := by
  have hgiven : Transcript.expect (.transcript partlyNamed) = .ok partlyNamed := rfl
  obtain ⟨hn, honce⟩ := apply_once_per_word new_started [search "1"] (.finished unmeasured) .absent hgiven
    partlyNamed_hasDistinctIds
  exact ⟨new_started, hgiven, partlyNamed_hasDistinctIds, hn, honce, by decide +kernel⟩

end Session
end CaptionAnimation
