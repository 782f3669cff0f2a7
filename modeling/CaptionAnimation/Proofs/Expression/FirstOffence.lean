import CaptionAnimation.Proofs.Expression.Acceptance
import CaptionAnimation.Proofs.Expression.Completion
import CaptionAnimation.Proofs.Expression.Lookahead
import CaptionAnimation.Proofs.Expression.Partition

/-! # The first token that cannot be

A source that is rejected other than for its depth is rejected at its first impossible token: some accepted source has
the tokens before it, and none begins with the tokens up to it. The text before the place of the error is kept as it
stands and what completes its tokens is written after it, a blank before each. -/
namespace CaptionAnimation.Expression

variable {pos : Nat} {cs rest : List Char} {ls : List Lexeme} {ts : List Token} {source : String}

/-- The tokens of a source that is read as an expression. -/
def Accepted (ts : List Token) : Prop := ∃ source e, scan source = .ok ts ∧ parse source = .ok e

/-- The offset is that of a token, or else of the end, such that the tokens before it begin some accepted source and
no accepted source begins with the tokens up to it; for the end, none has just these tokens. -/
def FirstOffence (source : String) (ts : List Token) (offset : Nat) : Prop :=
  ∃ before after, ts = before ++ after ∧ offset = (after.head?.map Token.pos).getD source.length ∧
    (∃ ts', Accepted ts' ∧ before <+: ts') ∧
    ∀ ts', Accepted ts' →
      match after with
      | [] => ts'.map Token.lexeme ≠ ts.map Token.lexeme
      | t :: _ => ¬ (before ++ [t]).map Token.lexeme <+: ts'.map Token.lexeme

/-- The lexemes as they are shown, each after a blank. -/
def completion (ls : List Lexeme) : List Char := ls.flatMap fun l => ' ' :: l.shown.toList

theorem parted_completion (ls : List Lexeme) : Parted (completion ls) := by
  intro d hd
  cases ls with
  | nil => cases hd
  | cons l ls =>
    obtain rfl : ' ' = d := Option.some.inj hd
    decide

theorem scans_completion (h : ls ⊆ completers) : Scans (completion ls) ls := by
  induction ls with
  | nil => exact scans_nil
  | cons l ls ih =>
    obtain ⟨hl, hls⟩ := List.cons_subset.mp h
    have hrest := ih hls
    show Scans (' ' :: (l.shown.toList ++ completion ls)) (l :: ls)
    refine Scans.space ?_
    simp only [completers, List.mem_cons, List.not_mem_nil, or_false] at hl
    rcases hl with rfl | rfl | rfl | rfl
    · exact hrest.name (by decide) fun c hc => isNamePart_of_isBlank (parted_completion ls c hc)
    · exact hrest.op .colon fun _ _ => rfl
    · exact hrest.op .closeParen fun _ _ => rfl
    · exact hrest.op .closeBracket fun _ _ => rfl

/-- A run may be left off behind any of its tokens. -/
theorem Finds.left_off {before after : List Token} (h : Finds pos cs (before ++ after) rest) :
    ∃ middle, Finds pos cs before middle := by
  generalize hts : before ++ after = ts at h
  induction h generalizing before with
  | @stands pos cs =>
    obtain ⟨rfl, -⟩ := List.append_eq_nil_iff.mp hts
    exact ⟨cs, .stands⟩
  | blank hc _ ih =>
    obtain ⟨middle, hmiddle⟩ := ih hts
    exact ⟨middle, .blank hc hmiddle⟩
  | @token pos c text cs _ l ts hc hl _ ih =>
    cases before with
    | nil => exact ⟨_, .stands⟩
    | cons t before =>
      obtain ⟨rfl, hrest⟩ := List.cons.inj hts
      obtain ⟨middle, hmiddle⟩ := ih hrest
      exact ⟨middle, .token hc hl hmiddle⟩

/-- Whatever tokens a source begins with, completers may follow them in some source. -/
theorem exists_source {before after : List Token} (hts : scan source = .ok (before ++ after)) (hls : ls ⊆ completers) :
    ∃ source' more, scan source' = .ok (before ++ more) ∧ more.map Token.lexeme = ls := by
  have hrun := exists_finds 0 source.toList
  unfold scan at hts ⊢
  cases htokens : tokensFrom 0 source.toList with
  | error e =>
    rw [htokens] at hts
    cases hts
  | ok ts =>
    rw [htokens] at hts hrun
    obtain rfl : ts = before ++ after := Except.ok.inj hts
    obtain ⟨middle, hbefore⟩ := hrun.left_off
    obtain ⟨done, -, hresumes⟩ := hbefore.resumes
    obtain ⟨more, hmore, hlexemes⟩ := scans_completion hls (0 + done.length)
    refine ⟨String.ofList (done ++ completion ls), more, ?_, hlexemes⟩
    rw [String.toList_ofList, hresumes _ (parted_completion ls), hmore]
    rfl

theorem Accepted.readTokens (h : Accepted ts) : ∃ e, readTokens ts = .ok e := by
  obtain ⟨source, e, hts, he⟩ := h
  exact ⟨e, readTokens_eq_ok_iff.mpr ((parse_eq_ok_iff hts).mp he)⟩

theorem parse_eq_error {e : SyntaxError} (hts : scan source = .ok ts) (hne : ts ≠ []) (h : parse source = .error e) :
    ∃ stop, readTokens ts = .error stop ∧ e = ⟨.stopped stop.want (stop.rest.head?.map Token.lexeme), source,
      (stop.rest.head?.map Token.pos).getD source.length⟩ := by
  cases hread : readTokens ts with
  | ok tree =>
    have hok := (parse_eq_ok_iff hts).mpr (readTokens_eq_ok_iff.mp hread)
    rw [hok] at h
    cases h
  | error stop =>
    refine ⟨stop, rfl, ?_⟩
    have hstop : parse source = .error ⟨.stopped stop.want (stop.rest.head?.map Token.lexeme), source,
        (stop.rest.head?.map Token.pos).getD source.length⟩ := by
      simp [parse, hts, hne, hread, bind, Except.bind, throw, throwThe, MonadExceptOf.throw]
    exact Except.error.inj (h.symm.trans hstop)

/-- Every rejection of a source with tokens in it, other than for its depth, is at the first offence. -/
theorem parse_stops_first {e : SyntaxError} (hts : scan source = .ok ts) (hne : ts ≠ [])
    (h : parse source = .error e) (hdepth : e.cause.message ≠ "Expression nested too deeply") :
    FirstOffence source ts e.position := by
  obtain ⟨stop, hread, rfl⟩ := parse_eq_error hts hne h
  have hwant : stop.want ≠ .shallower := by
    intro hwant
    rw [hwant] at hdepth
    exact hdepth rfl
  -- what was taken begins a phrase, and no phrase goes on as the text does
  obtain ⟨before, hsplit, ls, hls, hcompletes⟩ := readTokens_viable hread hwant
  obtain ⟨taken, htaken, hstops⟩ := readTokens_stops hread
  obtain rfl : before = taken := List.append_cancel_right (hsplit.symm.trans htaken)
  refine ⟨before, stop.rest, hsplit, rfl, ?_, fun ts' hts' => ?_⟩
  · obtain ⟨source', more, hscan, hmore⟩ := exists_source (hsplit ▸ hts) hls
    obtain ⟨p, hp, hpn, htokens⟩ := hcompletes more hmore
    have hparse : parse source' = .ok p.tree := (parse_eq_ok_iff hscan).mpr ⟨p, ⟨hp, htokens, hpn⟩, rfl⟩
    exact ⟨before ++ more, ⟨source', p.tree, hscan, hparse⟩, List.prefix_append _ _⟩
  · obtain ⟨e', hok⟩ := hts'.readTokens
    have hnone : ∀ taken' rest', ts' = taken' ++ rest' → SameLexemes before taken' → ¬ SameNext stop.rest rest' := by
      rintro taken' rest' rfl hlexemes hnext
      rw [hstops taken' rest' hlexemes hnext] at hok
      cases hok
    split
    · next hrest =>
      rw [hrest, List.append_nil] at hsplit
      intro hlexemes
      refine hnone ts' [] (List.append_nil _).symm (hsplit ▸ hlexemes.symm) ?_
      rw [hrest]
      rfl
    · next t more hrest =>
      rintro ⟨others, hothers⟩
      rw [List.map_append, List.append_assoc] at hothers
      obtain ⟨taken', tail, rfl, htaken', htail⟩ := List.map_eq_append_iff.mp hothers.symm
      obtain ⟨t', tail, rfl, ht', -⟩ := List.map_eq_cons_iff.mp htail
      refine hnone taken' (t' :: tail) rfl htaken'.symm ?_
      rw [hrest]
      exact sameNext_cons.mpr ⟨t', tail, rfl, ht'.symm⟩

/-- The tokens of `round(1)(`. -/
def calledTwice : List Token :=
  [⟨.name "round", 0⟩, ⟨.op .openParen, 5⟩, ⟨.number (.int 1), 6⟩, ⟨.op .closeParen, 7⟩, ⟨.op .openParen, 8⟩]

theorem calledTwice_stops_first : scan "round(1)(" = .ok calledTwice ∧
    parse "round(1)(" = .error ⟨.stopped .callable (some (.op .openParen)), "round(1)(", 8⟩ ∧
    FirstOffence "round(1)(" calledTwice 8 := by
  have hscan : scan "round(1)(" = .ok calledTwice := by cbv
  have hparse : parse "round(1)(" = .error ⟨.stopped .callable (some (.op .openParen)), "round(1)(", 8⟩ := by cbv
  exact ⟨hscan, hparse, parse_stops_first hscan (by decide) hparse (by decide)⟩

end CaptionAnimation.Expression
