import CaptionAnimation.Proofs.Except
import CaptionAnimation.Proofs.Expression.Cuts

/-! # A source as its tokens

A source that can be tokenized is the texts of its tokens in order, with nothing but blanks around them. The text of a
token, tokenized alone, is that token, and no longer text at its place is a token, but for a question mark before a
point and a digit. Where tokenizing fails, the text before the place of the failure has the tokens found so far.

`Finds` is a run of the tokenizer, round by round; what holds of its rounds holds of the whole. -/
namespace CaptionAnimation.Expression

open Text (isAsciiDigit isBlank)

variable {c : Char} {cs rest text more : List Char} {l : Lexeme} {ts : List Token} {pos : Nat}

/-- The text as a whole is one token: tokenized alone it has this lexeme, and it ends in no blank. -/
structure IsToken (text : List Char) (l : Lexeme) : Prop where
  alone : tokenize (String.ofList text) = .ok [⟨l, 0⟩, ⟨.stop, text.length⟩]
  ends : ∀ c ∈ text.getLast?, isBlank c = false

/-- Of the tokens that the characters could begin with, the text is the longest, unless it is a question mark that
stands before a point and a digit. -/
def IsLongest (text rest : List Char) : Prop :=
  ∀ more after l, rest = more ++ after → more ≠ [] → IsToken (text ++ more) l →
    text = ['?'] ∧ more = ['.'] ∧ after.head?.any isAsciiDigit = true

/-- The characters, which begin at an offset, are the texts of the tokens in order, with blanks around them. -/
inductive Partition : Nat → List Char → List Token → Prop
  | blanks {pos : Nat} {blanks : List Char} : (∀ c ∈ blanks, isBlank c = true) → Partition pos blanks []
  | token {pos : Nat} {blanks text rest : List Char} {l : Lexeme} {ts : List Token} :
      (∀ c ∈ blanks, isBlank c = true) → IsToken text l → IsLongest text rest →
      Partition (pos + blanks.length + text.length) rest ts →
      Partition pos (blanks ++ (text ++ rest)) (⟨l, pos + blanks.length⟩ :: ts)

/-- The tokenizer, from an offset on, finds the tokens and comes to stand before the rest. -/
inductive Finds : Nat → List Char → List Token → List Char → Prop
  | stands {pos : Nat} {cs : List Char} : Finds pos cs [] cs
  | blank {pos : Nat} {c : Char} {cs rest : List Char} {ts : List Token} : isBlank c = true →
      Finds (pos + 1) cs ts rest → Finds pos (c :: cs) ts rest
  | token {pos : Nat} {c : Char} {text cs rest : List Char} {l : Lexeme} {ts : List Token} : isBlank c = false →
      lexeme c (text ++ cs) = .ok (l, text.length) → Finds (pos + 1 + text.length) cs ts rest →
      Finds pos (c :: (text ++ cs)) (⟨l, pos⟩ :: ts) rest

/-! ## Rounds -/

theorem tokensFrom_blank (h : isBlank c = true) : tokensFrom pos (c :: cs) = tokensFrom (pos + 1) cs := by
  rw [tokensFrom_cons, if_pos h]

theorem tokensFrom_token (hc : isBlank c = false) (hl : lexeme c (text ++ cs) = .ok (l, text.length)) :
    tokensFrom pos (c :: (text ++ cs)) = (tokensFrom (pos + 1 + text.length) cs).map (⟨l, pos⟩ :: ·) := by
  rw [tokensFrom_cons, if_neg (by simp [hc]), hl]
  simp only [List.drop_left]
  cases tokensFrom (pos + 1 + text.length) cs <;> rfl

theorem exists_text {n : Nat} (h : lexeme c cs = .ok (l, n)) : ∃ text more, cs = text ++ more ∧ text.length = n :=
  ⟨cs.take n, cs.drop n, (List.take_append_drop n cs).symm, List.length_take_of_le (lexeme_length_le h)⟩

/-- A run finds the tokens of the source and ends with it, or comes to stand where no token can be read. -/
theorem exists_finds (pos : Nat) (cs : List Char) :
    match tokensFrom pos cs with
    | .ok ts => Finds pos cs ts []
    | .error (cause, p) => ∃ ts c rest, Finds pos cs ts (c :: rest) ∧ p + (c :: rest).length = pos + cs.length ∧
        isBlank c = false ∧ lexeme c rest = .error cause := by
  fun_induction tokensFrom pos cs with
  | case1 pos => exact .stands
  | case2 pos c rest hc ih =>
    revert ih
    split
    · exact .blank hc
    · rintro ⟨ts, d, more, hfinds, hlength, hd⟩
      exact ⟨ts, d, more, .blank hc hfinds, by rw [hlength, List.length_cons]; omega, hd⟩
  | case3 pos c rest hc cause hl => exact ⟨[], c, rest, .stands, rfl, by simpa using hc, hl⟩
  | case4 pos c rest hc l n hl e he ih =>
    obtain ⟨text, more, rfl, rfl⟩ := exists_text hl
    rw [List.drop_left] at he ih
    rw [he] at ih
    obtain ⟨ts, d, others, hfinds, hlength, hd⟩ := ih
    refine ⟨_, d, others, .token (by simpa using hc) hl hfinds, ?_, hd⟩
    rw [hlength, List.length_cons, List.length_append]
    omega
  | case5 pos c rest hc l n hl ts hts ih =>
    obtain ⟨text, more, rfl, rfl⟩ := exists_text hl
    rw [List.drop_left] at hts ih
    rw [hts] at ih
    exact .token (by simpa using hc) hl ih

/-! ## Runs -/

theorem Finds.length_le (h : Finds pos cs ts rest) : rest.length ≤ cs.length := by
  induction h with
  | stands => exact Nat.le_refl _
  | blank _ _ ih =>
    rw [List.length_cons]
    omega
  | token _ _ _ ih =>
    rw [List.length_cons, List.length_append]
    omega

/-- No run ends between a point and its digit. -/
theorem Finds.head_of_point (h : Finds pos ('.' :: rest) ts rest) : rest.head?.any isAsciiDigit = false := by
  generalize hcs : '.' :: rest = cs at h
  cases h with
  | stands => exact absurd (congrArg List.length hcs) (by simp)
  | blank hblank =>
    obtain ⟨rfl, -⟩ := List.cons.inj hcs
    exact absurd hblank (by decide)
  | @token _ _ text more _ l _ _ hl hfinds =>
    obtain ⟨rfl, htail⟩ := List.cons.inj hcs
    have hle := hfinds.length_le
    have hlength := congrArg List.length htail
    rw [List.length_append] at hlength
    obtain rfl : text = [] := List.eq_nil_of_length_eq_zero (by omega)
    by_contra hdigit
    rw [Bool.not_eq_false, htail] at hdigit
    have hbegins : beginsNumber '.' ([] ++ more) = true := Bool.or_eq_true_iff.mpr (.inr (by simpa using hdigit))
    rw [lexeme_of_beginsNumber hbegins] at hl
    have htwo := two_le_numberLength hdigit
    split at hl
    · cases hl
    · have hzero := (Prod.mk.inj (Except.ok.inj hl)).2
      rw [List.nil_append, List.length_nil] at hzero
      rw [List.nil_append] at htwo
      omega

theorem Operator.eq_question {o : Operator} {d : Char} (hd : isAsciiDigit d = true)
    (h : o.matchesHead ('?' :: '.' :: d :: rest) = true) : o = .question := by
  obtain ⟨hleads, hguarded⟩ := matchesHead_iff.mp h
  cases o with
  | question => rfl
  | guardedDot => simp [hd] at hguarded
  | _ => simp [spelling] at hleads

/-- A run does not come to stand where a question mark is severed from its number. -/
theorem Finds.not_severs {done : List Char} (hl : lexeme c (text ++ (done ++ rest)) = .ok (l, text.length))
    (h : Finds pos (done ++ rest) ts rest) : ¬ Severs (c :: (text ++ done)) rest := by
  rintro ⟨hcut, hdigit⟩
  obtain ⟨rfl, hpoint⟩ := List.cons.inj hcut
  rcases List.append_eq_singleton_iff.mp hpoint with ⟨rfl, rfl⟩ | ⟨rfl, rfl⟩
  · have hnone : rest.head?.any isAsciiDigit = false := h.head_of_point
    rw [hnone] at hdigit
    cases hdigit
  · cases rest with
    | nil => cases hdigit
    | cons d more =>
      have hd : isAsciiDigit d = true := by simpa using hdigit
      rcases lexeme_eq_ok hl with ⟨hbegins, -⟩ | ⟨hquote, -⟩ | ⟨hname, -⟩ | ⟨-, -, -, o, hfind, hlength, -⟩
      · simp [beginsNumber, isAsciiDigit_iff] at hbegins
      · cases hquote
      · exact absurd hname (by decide)
      · obtain rfl : o = .question := Operator.eq_question hd (by simpa using List.find?_some hfind)
        cases hlength

/-- The text that a run has passed holds the tokens found, at the end of a source and before a blank. -/
theorem Finds.resumes (h : Finds pos cs ts rest) : ∃ done, cs = done ++ rest ∧ ∀ zs, Parted zs →
    tokensFrom pos (done ++ zs) = (tokensFrom (pos + done.length) zs).map (ts ++ ·) := by
  induction h with
  | @stands pos cs =>
    refine ⟨[], rfl, fun zs _ => ?_⟩
    rw [List.nil_append, List.length_nil, Nat.add_zero]
    cases tokensFrom pos zs <;> rfl
  | @blank pos c _ _ _ hc _ ih =>
    obtain ⟨done, rfl, hdone⟩ := ih
    refine ⟨c :: done, rfl, fun zs hz => ?_⟩
    rw [List.cons_append, tokensFrom_blank hc, hdone zs hz, List.length_cons, Nat.add_right_comm, Nat.add_assoc]
  | @token pos c text _ _ l ts hc hl hfinds ih =>
    obtain ⟨done, rfl, hdone⟩ := ih
    refine ⟨c :: (text ++ done), by simp, fun zs hz => ?_⟩
    have hcut : lexeme c (text ++ (done ++ zs)) = .ok (l, text.length) := by
      have hsevers := hfinds.not_severs hl
      rw [← List.append_assoc] at hl ⊢
      exact lexeme_cut hl (by simp) hz hsevers
    have hlength : pos + (c :: (text ++ done)).length = pos + 1 + text.length + done.length := by
      simp only [List.length_cons, List.length_append]
      omega
    rw [List.cons_append, List.append_assoc, tokensFrom_token hc hcut, hdone zs hz, hlength]
    cases tokensFrom (pos + 1 + text.length + done.length) zs <;> rfl

/-- The text that a run has passed, tokenized alone, has the tokens found. -/
theorem Finds.tokensFrom_eq (h : Finds pos cs ts rest) :
    ∃ done, cs = done ++ rest ∧ tokensFrom pos done = .ok ts := by
  obtain ⟨done, hdone, hresumes⟩ := h.resumes
  have halone := hresumes [] parted_nil
  rw [List.append_nil, tokensFrom_nil] at halone
  exact ⟨done, hdone, by simpa [Except.map] using halone⟩

/-- The tokens found lie in the text that the run has passed. -/
theorem Finds.pos_bounds (h : Finds pos cs ts rest) :
    ∀ t ∈ ts, pos ≤ t.pos ∧ t.pos + rest.length < pos + cs.length := by
  induction h with
  | stands => exact List.forall_mem_nil _
  | blank _ _ ih =>
    intro t ht
    have hbounds := ih t ht
    rw [List.length_cons]
    omega
  | token _ _ hfinds ih =>
    have hle := hfinds.length_le
    rw [List.length_cons, List.length_append]
    refine List.forall_mem_cons.mpr ⟨by dsimp only; omega, fun t ht => ?_⟩
    have hbounds := ih t ht
    omega

/-- Tokens are found one behind the other. -/
theorem Finds.pairwise_pos (h : Finds pos cs ts rest) : ts.Pairwise fun a b => a.pos < b.pos := by
  induction h with
  | stands => exact List.Pairwise.nil
  | blank _ _ ih => exact ih
  | token _ _ hfinds ih =>
    refine List.pairwise_cons.mpr ⟨fun t ht => ?_, ih⟩
    have hbounds := hfinds.pos_bounds t ht
    dsimp only
    omega

/-- A run that finds no further token passes nothing but blanks. -/
theorem Finds.blank_of_nil (h : Finds pos cs [] []) : ∀ c ∈ cs, isBlank c = true := by
  generalize hts : ([] : List Token) = ts at h
  generalize hrest : ([] : List Char) = rest at h
  induction h with
  | stands => exact hrest ▸ List.forall_mem_nil _
  | blank hc _ ih => exact List.forall_mem_cons.mpr ⟨hc, ih hts hrest⟩
  | token => cases hts

/-! ## Single tokens -/

theorem tokenize_ofList (cs : List Char) : tokenize (String.ofList cs) =
    match tokensFrom 0 cs with
    | .ok ts => .ok (ts ++ [⟨.stop, cs.length⟩])
    | .error (cause, p) => .error ⟨cause, String.ofList cs, p⟩ := by
  unfold tokenize scan
  rw [String.toList_ofList, String.length_ofList]
  cases tokensFrom 0 cs <;> rfl

theorem tokensFrom_of_isToken (h : IsToken cs l) : tokensFrom 0 cs = .ok [⟨l, 0⟩] := by
  have halone := h.alone
  rw [tokenize_ofList] at halone
  split at halone
  · next ts hts =>
    have htokens : ts ++ [⟨.stop, cs.length⟩] = [⟨l, 0⟩] ++ [⟨.stop, cs.length⟩] := Except.ok.inj halone
    rw [hts, List.append_cancel_right htokens]
  · cases halone

/-- A quoted text that takes all characters ends with its quote. -/
theorem getLast?_of_quotedText {quote : Char} {chars : List Char} (h : quotedText quote cs = some (chars, cs.length)) :
    cs.getLast? = some quote := by
  fun_induction quotedText quote cs generalizing chars with
  | case1 => cases h
  | case2 => cases h
  | case3 c rest ih =>
    obtain ⟨⟨text', n'⟩, hrest, h⟩ := Option.bind_eq_some_iff.mp h
    obtain ⟨rfl, hn⟩ := Prod.mk.inj (Option.some.inj h)
    simp only [List.length_cons] at hn
    obtain rfl : n' = rest.length := by omega
    simp [List.getLast?_cons, ih hrest]
  | case4 c rest _ _ hquote =>
    obtain ⟨-, hn⟩ := Prod.mk.inj (Option.some.inj h)
    obtain rfl : rest = [] := List.eq_nil_of_length_eq_zero (by simpa using hn.symm)
    simpa using hquote
  | case5 c rest _ _ _ ih =>
    obtain ⟨⟨text', n'⟩, hrest, h⟩ := Option.bind_eq_some_iff.mp h
    obtain ⟨rfl, hn⟩ := Prod.mk.inj (Option.some.inj h)
    rw [List.length_cons] at hn
    obtain rfl : n' = rest.length := by omega
    simp [List.getLast?_cons, ih hrest]

/-- No token ends with a blank. -/
theorem isBlank_getLast_of_lexeme (hc : isBlank c = false) (hl : lexeme c cs = .ok (l, cs.length)) :
    ∀ d ∈ (c :: cs).getLast?, isBlank d = false := by
  cases cs using List.reverseRecOn with
  | nil => simpa using hc
  | append_singleton cs d =>
    have hlast : (c :: (cs ++ [d])).getLast? = some d := by
      rw [← List.cons_append, List.getLast?_append]
      rfl
    rw [hlast]
    intro x hx
    obtain rfl : d = x := Option.mem_some.mp hx
    by_contra hd
    rw [Bool.not_eq_false] at hd
    -- nothing but a quoted text goes on over a blank, and that ends with its quote
    rcases lexeme_eq_ok hl with ⟨-, -, hlength, -⟩ | ⟨hquote, text, htext, -⟩ | ⟨-, hlength, -⟩ |
      ⟨-, -, -, o, hfind, hlength, -⟩
    · have hcut : numberLength (c :: cs ++ [d]) = numberLength (c :: cs) := by
        refine numberLength_append (fun x hx => ?_) fun hdot => ?_
        · exact continuesNumber_of_isBlank (Option.some.inj hx ▸ hd)
        · exact absurd (Option.some.inj hdot) (ne_of_isBlank hd (by decide))
      have hle := numberLength_le (c :: cs)
      rw [List.cons_append] at hcut
      rw [List.length_append, List.length_singleton] at hlength
      rw [List.length_cons] at hle
      omega
    · have hend := getLast?_of_quotedText htext
      rw [List.getLast?_append] at hend
      obtain rfl : d = c := Option.some.inj hend
      rw [hd] at hc
      cases hc
    · have hcut : (cs ++ [d]).takeWhile isNamePart = cs.takeWhile isNamePart :=
        takeWhile_append_of_head fun x hx => isNamePart_of_isBlank (Option.some.inj hx ▸ hd)
      have hle := (List.takeWhile_sublist (p := isNamePart) (l := cs)).length_le
      rw [hcut, List.length_append, List.length_singleton] at hlength
      omega
    · have hmatch : o.matchesHead (c :: (cs ++ [d])) = true := by simpa using List.find?_some hfind
      have hwhole := (Operator.matchesHead_iff.mp hmatch).1.eq_of_length (by rw [String.length_toList, hlength, List.length_cons])
      rw [isBlank_of_mem_spelling (o := o) (hwhole ▸ by simp)] at hd
      cases hd

/-- A token is read whole from its text. -/
theorem isToken_cons : IsToken (c :: cs) l ↔ isBlank c = false ∧ lexeme c cs = .ok (l, cs.length) := by
  constructor
  · intro h
    have htokens := tokensFrom_of_isToken h
    have hfinds := exists_finds 0 (c :: cs)
    rw [htokens] at hfinds
    cases hfinds with
    | blank _ hfinds =>
      have hbounds := hfinds.pos_bounds _ List.mem_cons_self
      dsimp only at hbounds
      omega
    | @token _ _ text more _ _ _ hc hl hfinds =>
      cases more using List.reverseRecOn with
      | nil => exact ⟨hc, by simpa using hl⟩
      | append_singleton more d =>
        have hlast : (c :: (text ++ (more ++ [d]))).getLast? = some d := by
          rw [← List.append_assoc, ← List.cons_append, List.getLast?_append]
          rfl
        have hd := h.ends d hlast
        rw [hfinds.blank_of_nil d (by simp)] at hd
        cases hd
  · rintro ⟨hc, hl⟩
    refine ⟨?_, isBlank_getLast_of_lexeme hc hl⟩
    rw [← List.append_nil cs] at hl
    have htoken := @tokensFrom_token c [] cs l 0 hc (by simpa using hl)
    rw [List.append_nil, tokensFrom_nil] at htoken
    rw [tokenize_ofList, htoken]
    rfl

/-- What is read at the head of some characters is a token in its own right. -/
theorem isToken_of_lexeme (hc : isBlank c = false) (hl : lexeme c (text ++ cs) = .ok (l, text.length)) :
    IsToken (c :: text) l := by
  refine isToken_cons.mpr ⟨hc, ?_⟩
  have hstands : Finds 0 ([] ++ cs) [] cs := .stands
  have hsevers := hstands.not_severs hl
  rw [List.append_nil] at hsevers
  have hcut := lexeme_cut hl (Nat.le_refl _) parted_nil hsevers
  rwa [List.append_nil] at hcut

/-- What is read at the head of some characters is the longest token there. -/
theorem isLongest_of_lexeme (hl : lexeme c (text ++ cs) = .ok (l, text.length)) : IsLongest (c :: text) cs := by
  intro more after l' hcs hmore htoken
  subst hcs
  obtain ⟨hc, hlonger⟩ := isToken_cons.mp htoken
  by_cases hsevers : Severs (c :: (text ++ more)) after
  · obtain ⟨hcut, hdigit⟩ := hsevers
    obtain ⟨rfl, hpoint⟩ := List.cons.inj hcut
    rcases List.append_eq_singleton_iff.mp hpoint with ⟨rfl, rfl⟩ | ⟨-, hnil⟩
    · exact ⟨rfl, rfl, hdigit⟩
    · exact absurd hnil hmore
  · rw [← List.append_assoc] at hl
    have hcut := lexeme_cut hl (by simp) parted_nil hsevers
    rw [List.append_nil] at hcut
    have hlength := (Prod.mk.inj (Except.ok.inj (hlonger.symm.trans hcut))).2
    rw [List.append_eq] at hlength
    rw [List.length_append, Nat.add_eq_left] at hlength
    exact absurd (List.eq_nil_of_length_eq_zero hlength) hmore

/-! ## Sources -/

theorem Partition.blank (hc : isBlank c = true) (h : Partition (pos + 1) cs ts) : Partition pos (c :: cs) ts := by
  generalize hat : pos + 1 = next at h
  cases h with
  | blanks hblanks => exact .blanks (List.forall_mem_cons.mpr ⟨hc, hblanks⟩)
  | @token _ blanks text rest l ts hblanks htext hlongest hrest =>
    subst hat
    have hlength : pos + 1 + blanks.length = pos + (c :: blanks).length := by
      rw [List.length_cons]
      omega
    rw [hlength] at hrest ⊢
    exact .token (List.forall_mem_cons.mpr ⟨hc, hblanks⟩) htext hlongest hrest

/-- A run to the end finds the source to be a partition. -/
theorem Finds.partition (h : Finds pos cs ts []) : Partition pos cs ts := by
  generalize hrest : ([] : List Char) = rest at h
  induction h with
  | stands => exact .blanks (hrest ▸ List.forall_mem_nil _)
  | blank hc _ ih => exact .blank hc (ih hrest)
  | @token pos c text cs _ l ts hc hl _ ih =>
    have htail := ih hrest
    rw [Nat.add_assoc, Nat.add_comm 1] at htail
    have hnone : ∀ d ∈ ([] : List Char), isBlank d = true := List.forall_mem_nil _
    exact .token hnone (isToken_of_lexeme hc hl) (isLongest_of_lexeme hl) htail

/-- Every source is either partitioned into its tokens, whose offsets increase up to the mark of the end, or there is
a place, no blank, where no token can be read, and the text before it has the tokens found up to there. -/
theorem tokenize_partitions (source : String) :
    match tokenize source with
    | .ok ts => ∃ found, ts = found ++ [⟨.stop, source.length⟩] ∧ Partition 0 source.toList found ∧
        ts.Pairwise fun a b => a.pos < b.pos
    | .error e => e.source = source ∧ ∃ found before c after, source.toList = before ++ c :: after ∧
        e.position = before.length ∧ isBlank c = false ∧ lexeme c after = .error e.cause ∧
        Finds 0 source.toList found (c :: after) ∧
        tokenize (String.ofList before) = .ok (found ++ [⟨.stop, e.position⟩]) := by
  have hfinds := exists_finds 0 source.toList
  have hsource : tokenize source = tokenize (String.ofList source.toList) := by rw [String.ofList_toList]
  rw [hsource, tokenize_ofList]
  cases hrun : tokensFrom 0 source.toList with
  | ok found =>
    rw [hrun] at hfinds
    refine ⟨found, rfl, hfinds.partition, List.pairwise_append.mpr ⟨hfinds.pairwise_pos, List.pairwise_singleton _ _, ?_⟩⟩
    intro a ha b hb
    obtain rfl := List.mem_singleton.mp hb
    have hbounds := hfinds.pos_bounds a ha
    rw [List.length_nil] at hbounds
    simpa using hbounds.2
  | error e =>
    obtain ⟨cause, p⟩ := e
    rw [hrun] at hfinds
    obtain ⟨found, c, after, hfinds, hlength, hc, hfails⟩ := hfinds
    obtain ⟨before, hbefore, hfound⟩ := hfinds.tokensFrom_eq
    have hp : p = before.length := by
      rw [hbefore, List.length_append] at hlength
      omega
    subst hp
    refine ⟨String.ofList_toList, found, before, c, after, hbefore, rfl, hc, hfails, hfinds, ?_⟩
    rw [tokenize_ofList, hfound]

end CaptionAnimation.Expression
