import CaptionAnimation.Proofs.Expression.Lexing

/-! # Where a source may be cut

Whether a token stands at the head of some characters is settled by its own characters and, at most, the one or two
after them. A source may therefore be cut after any of its tokens, and go on differently after a blank, without a
change to the tokens before. The one place where it may not be cut is between a question mark with its point and the
digit that makes the point begin a number. -/
namespace CaptionAnimation.Expression

open Text (isAsciiDigit isBlank)

variable {c : Char} {cs xs ys zs : List Char} {l : Lexeme} {n : Nat}

/-- Nothing follows, or a blank. -/
def Parted (zs : List Char) : Prop := ∀ d ∈ zs.head?, isBlank d = true

/-- A question mark and a point on one side, and on the other the digit after the point. -/
def Severs (xs ys : List Char) : Prop := xs = ['?', '.'] ∧ ys.head?.any isAsciiDigit = true

theorem parted_nil : Parted [] := nofun

theorem ne_of_isBlank {d : Char} (hc : isBlank c = true) (hd : isBlank d = false) : c ≠ d := by
  rintro rfl
  rw [hc] at hd
  cases hd

theorem isAsciiDigit_of_isBlank (h : isBlank c = true) : isAsciiDigit c = false := by
  by_contra hdigit
  rw [isBlank_of_isAsciiDigit (by simpa using hdigit)] at h
  cases h

theorem isNamePart_of_isBlank (h : isBlank c = true) : isNamePart c = false := by
  rw [isNamePart, isAsciiDigit_of_isBlank h, Bool.or_false]
  by_contra hstart
  rw [isBlank_of_isNameStart (by simpa using hstart)] at h
  cases h

theorem continuesNumber_of_isBlank (h : isBlank c = true) : continuesNumber c = false := by
  have hne : ∀ d, isBlank d = false → (c == d) = false := fun d hd => beq_eq_false_iff_ne.mpr (ne_of_isBlank h hd)
  simp [continuesNumber, isAsciiDigit_of_isBlank h, hne 'e' (by decide), hne 'E' (by decide), hne '+' (by decide),
    hne '-' (by decide)]

/-! ## Runs -/

/-- A run that ends within the first part does not depend on the second. -/
theorem takeWhile_append_of_length_le {p : Char → Bool} (h : ((xs ++ ys).takeWhile p).length ≤ xs.length) :
    (xs ++ ys).takeWhile p = xs.takeWhile p := by
  rw [List.takeWhile_append] at h ⊢
  split
  · next hall =>
    rw [if_pos hall, List.length_append] at h
    have hnil : ys.takeWhile p = [] := List.eq_nil_of_length_eq_zero (by omega)
    have hxs : xs.takeWhile p = xs := (List.takeWhile_prefix _).eq_of_length hall
    rw [hnil, List.append_nil, hxs]
  · rfl

theorem takeWhile_append_of_head {p : Char → Bool} (h : ∀ d ∈ zs.head?, p d = false) :
    (xs ++ zs).takeWhile p = xs.takeWhile p := by
  refine takeWhile_append_of_length_le ?_
  rw [List.takeWhile_append]
  split
  · have hnil : zs.takeWhile p = [] := by
      cases zs with
      | nil => rfl
      | cons d zs => simp [h d rfl]
    simp [hnil]
  · exact (List.takeWhile_sublist _).length_le

/-! ## Numbers -/

theorem digitsLength_cut (h : digitsLength (xs ++ ys) ≤ xs.length) : digitsLength (xs ++ ys) = digitsLength xs :=
  congrArg List.length (takeWhile_append_of_length_le h)

theorem mantissaLength_cut (h : mantissaLength (xs ++ ys) ≤ xs.length) :
    mantissaLength (xs ++ ys) = mantissaLength xs := by
  have hwhole : digitsLength (xs ++ ys) ≤ mantissaLength (xs ++ ys) := by
    unfold mantissaLength
    split <;> omega
  have hdigits : digitsLength (xs ++ ys) = digitsLength xs := digitsLength_cut (by omega)
  unfold mantissaLength at h ⊢
  rw [hdigits, List.drop_append_of_le_length (digitsLength_le xs)] at h ⊢
  have hlength := congrArg List.length (List.take_append_drop (digitsLength xs) xs)
  rw [List.length_append, List.length_take_of_le (digitsLength_le xs)] at hlength
  cases hxs : xs.drop (digitsLength xs) with
  | nil =>
    rw [hxs, List.length_nil] at hlength
    rw [hxs, List.nil_append] at h
    rw [List.nil_append]
    split at h
    · omega
    · rfl
  | cons d more =>
    rw [hxs, List.length_cons] at hlength
    rw [hxs, List.cons_append] at h
    rw [List.cons_append]
    by_cases hd : d = '.'
    · subst hd
      simp only at h
      have hmore : digitsLength (more ++ ys) = digitsLength more := digitsLength_cut (by omega)
      simp only [hmore]
    · split
      · next heq => exact absurd (List.cons.inj heq).1 hd
      · split
        · next heq => exact absurd (List.cons.inj heq).1 hd
        · rfl

/-- The length of a sign at the head. -/
def signLength : List Char → Nat
  | s :: _ => if s == '+' || s == '-' then 1 else 0
  | [] => 0

theorem signLength_le (cs : List Char) : signLength cs ≤ cs.length := by
  unfold signLength
  split
  · split <;> simp
  · exact Nat.le_refl _

/-- An exponent is its mark, a sign and digits, or nothing. -/
theorem exponentLength_cons (e : Char) (cs : List Char) :
    exponentLength (e :: cs) =
      if e == 'e' || e == 'E' then
        if digitsLength (cs.drop (signLength cs)) = 0 then 0
        else 1 + signLength cs + digitsLength (cs.drop (signLength cs))
      else 0 := by
  cases cs <;> rfl

theorem exponentLength_le (cs : List Char) : exponentLength cs ≤ cs.length := by
  cases cs with
  | nil => exact Nat.le_refl _
  | cons e cs =>
    have hsign := signLength_le cs
    have hdigits := digitsLength_le (cs.drop (signLength cs))
    rw [List.length_drop] at hdigits
    rw [exponentLength_cons, List.length_cons]
    repeat' split
    all_goals omega

theorem exponentLength_cut (h : exponentLength (xs ++ ys) ≤ xs.length) :
    exponentLength (xs ++ ys) = exponentLength xs := by
  cases xs with
  | nil => exact Nat.le_zero.mp h
  | cons e xs =>
    rw [List.cons_append, exponentLength_cons, List.length_cons] at h
    rw [List.cons_append, exponentLength_cons, exponentLength_cons]
    cases xs with
    | nil =>
      rw [List.nil_append, List.length_nil] at h
      rw [List.nil_append]
      have hnone : digitsLength (([] : List Char).drop (signLength [])) = 0 := rfl
      repeat' split at h
      all_goals simp_all
      omega
    | cons s xs =>
      have hsign : signLength (s :: xs ++ ys) = signLength (s :: xs) := rfl
      rw [hsign, List.drop_append_of_le_length (signLength_le _)] at h
      rw [hsign, List.drop_append_of_le_length (signLength_le _)]
      have hle := signLength_le (s :: xs)
      split
      · next he =>
        rw [if_pos he] at h
        rw [digitsLength_cut]
        rw [List.length_drop]
        split at h <;> omega
      · rfl

theorem numberLength_le (cs : List Char) : numberLength cs ≤ cs.length := by
  have hexponent := exponentLength_le (cs.drop (mantissaLength cs))
  have hmantissa := mantissaLength_le cs
  rw [List.length_drop] at hexponent
  rw [numberLength_eq]
  omega

/-- A number that ends within the first part does not depend on the second. -/
theorem numberLength_cut (h : numberLength (xs ++ ys) ≤ xs.length) : numberLength (xs ++ ys) = numberLength xs := by
  rw [numberLength_eq] at h ⊢
  have hmantissa : mantissaLength (xs ++ ys) = mantissaLength xs := mantissaLength_cut (by omega)
  rw [hmantissa, List.drop_append_of_le_length (mantissaLength_le xs)] at h ⊢
  rw [numberLength_eq, exponentLength_cut]
  rw [List.length_drop]
  omega

/-- A point that begins a number takes its digit. -/
theorem two_le_numberLength (h : cs.head?.any isAsciiDigit = true) : 2 ≤ numberLength ('.' :: cs) := by
  cases cs with
  | nil => cases h
  | cons d cs =>
    have hzero : digitsLength ('.' :: d :: cs) = 0 := by simp [digitsLength, isAsciiDigit_iff]
    have hpos : 1 ≤ digitsLength (d :: cs) := by
      have hd : isAsciiDigit d = true := by simpa using h
      simp [digitsLength, hd]
    have hmantissa : mantissaLength ('.' :: d :: cs) = 0 + 1 + digitsLength (d :: cs) := by
      rw [mantissaLength, hzero]
      rfl
    rw [numberLength_eq]
    omega

/-! ## Quoted texts -/

theorem quotedText_bounds {quote : Char} {text : List Char} (h : quotedText quote cs = some (text, n)) :
    0 < n ∧ n ≤ cs.length := by
  fun_induction quotedText quote cs generalizing text n with
  | case1 => cases h
  | case2 => cases h
  | case4 =>
    obtain ⟨-, rfl⟩ := Prod.mk.inj (Option.some.inj h)
    simp
  | case3 _ rest ih | case5 _ rest _ _ _ ih =>
    obtain ⟨⟨text', n'⟩, hrest, h⟩ := Option.bind_eq_some_iff.mp h
    obtain ⟨-, rfl⟩ := Prod.mk.inj (Option.some.inj h)
    have hbounds := ih hrest
    simp only [List.length_cons]
    omega

theorem quotedText_cons {quote : Char} (hc : c ≠ '\\') : quotedText quote (c :: cs) =
    if c == quote then some ([], 1) else do
      let (text, n) ← quotedText quote cs
      return (c :: text, n + 1) := by
  rw [quotedText] <;> simp [hc]

/-- A quoted text that ends within the first part does not depend on the second. -/
theorem quotedText_cut {quote : Char} {text : List Char} (h : quotedText quote (xs ++ ys) = some (text, n))
    (hn : n ≤ xs.length) : quotedText quote (xs ++ zs) = some (text, n) := by
  have hback {c : Char} {rest : List Char} (hend : c = '\\' → rest = [] → False)
      (hmore : ∀ d ds, c = '\\' → rest = d :: ds → False) : c ≠ '\\' := fun hc => by
    cases rest with
    | nil => exact hend hc rfl
    | cons d ds => exact hmore d ds hc rfl
  fun_induction quotedText quote xs generalizing text n with
  | case1 =>
    have hpos := (quotedText_bounds h).1
    rw [List.length_nil] at hn
    omega
  | case2 =>
    -- the backslash takes the character behind it, which lies beyond the first part
    cases ys with
    | nil => cases h
    | cons d ys =>
      obtain ⟨⟨text', n'⟩, -, h⟩ := Option.bind_eq_some_iff.mp h
      obtain ⟨-, rfl⟩ := Prod.mk.inj (Option.some.inj h)
      rw [List.length_singleton] at hn
      omega
  | case3 c rest ih =>
    obtain ⟨⟨text', n'⟩, hrest, h⟩ := Option.bind_eq_some_iff.mp h
    obtain ⟨rfl, rfl⟩ := Prod.mk.inj (Option.some.inj h)
    simp only [List.length_cons] at hn
    have hcut := ih hrest (by omega)
    simp [quotedText, hcut]
  | case4 c rest hend hmore hquote =>
    rw [List.cons_append, quotedText_cons (hback hend hmore), if_pos hquote] at h ⊢
    exact h
  | case5 c rest hend hmore hquote ih =>
    rw [List.cons_append, quotedText_cons (hback hend hmore), if_neg hquote] at h ⊢
    obtain ⟨⟨text', n'⟩, hrest, h⟩ := Option.bind_eq_some_iff.mp h
    obtain ⟨rfl, rfl⟩ := Prod.mk.inj (Option.some.inj h)
    rw [List.length_cons] at hn
    have hcut := ih hrest (by omega)
    simp [hcut]

/-! ## Operators -/

theorem isBlank_of_mem_spelling {o : Operator} (h : c ∈ o.spelling.toList) : isBlank c = false := by
  have hall : (o.spelling.toList.all fun d => !isBlank d) = true := by cases o <;> cbv
  simpa using List.all_eq_true.mp hall c h

/-- Only the point of `?.` is read with an eye on what follows it. -/
theorem Operator.matchesHead_iff {o : Operator} : o.matchesHead cs = true ↔
    o.spelling.toList <+: cs ∧ (o = .guardedDot → cs[2]?.any isAsciiDigit = false) := by
  simp only [Operator.matchesHead, Bool.and_eq_true, List.isPrefixOf_iff_prefix, Bool.not_eq_true',
    Bool.and_eq_false_imp, beq_iff_eq]

/-- No spelling goes on into what follows a blank. -/
theorem prefix_of_prefix_append {o : Operator} (h : o.spelling.toList <+: xs ++ zs) (hz : Parted zs) :
    o.spelling.toList <+: xs := by
  rcases Nat.le_total o.spelling.toList.length xs.length with hle | hle
  · exact List.prefix_of_prefix_length_le h (List.prefix_append _ _) hle
  · obtain ⟨more, hmore⟩ := List.prefix_of_prefix_length_le (List.prefix_append xs zs) h hle
    cases more with
    | nil => rw [← hmore, List.append_nil]
    | cons d more =>
      rw [← hmore, List.prefix_append_right_inj] at h
      obtain ⟨rest, rfl⟩ := h
      have hd : isBlank d = false := isBlank_of_mem_spelling (o := o) (hmore ▸ by simp)
      rw [hz d rfl] at hd
      cases hd

theorem getElem?_two_of_parted (h : 2 ≤ xs.length) (hz : Parted zs)
    (hx : (xs ++ ys)[2]?.any isAsciiDigit = false) : (xs ++ zs)[2]?.any isAsciiDigit = false := by
  rcases Nat.lt_or_ge 2 xs.length with hlt | hge
  · rwa [List.getElem?_append_left hlt] at hx ⊢
  · rw [List.getElem?_append_right hge, Nat.sub_eq_zero_of_le h]
    cases zs with
    | nil => rfl
    | cons d zs => simp [isAsciiDigit_of_isBlank (hz d rfl)]

/-- An operator that stands in the first part stands there whatever follows. -/
theorem Operator.matchesHead_cut {o : Operator} (h : o.matchesHead (xs ++ ys) = true)
    (hn : o.spelling.length ≤ xs.length) (hz : Parted zs) : o.matchesHead (xs ++ zs) = true := by
  obtain ⟨hleads, hdigit⟩ := matchesHead_iff.mp h
  have hxs : o.spelling.toList <+: xs :=
    List.prefix_of_prefix_length_le hleads (List.prefix_append _ _) (by rwa [String.length_toList])
  refine matchesHead_iff.mpr ⟨hxs.trans (List.prefix_append _ _), fun ho => ?_⟩
  subst ho
  exact getElem?_two_of_parted hn hz (hdigit rfl)

/-- No operator comes to stand at a cut. -/
theorem Operator.matchesHead_of_cut {o : Operator} (h : o.matchesHead (xs ++ zs) = true) (hz : Parted zs)
    (hs : ¬ Severs xs ys) : o.matchesHead (xs ++ ys) = true := by
  obtain ⟨hleads, hdigit⟩ := matchesHead_iff.mp h
  have hxs := prefix_of_prefix_append hleads hz
  refine matchesHead_iff.mpr ⟨hxs.trans (List.prefix_append _ _), fun ho => ?_⟩
  subst ho
  obtain ⟨more, rfl⟩ := hxs
  cases more with
  | nil =>
    have hnone : ys.head?.any isAsciiDigit = false := by
      by_contra hany
      exact hs ⟨by cbv, by simpa using hany⟩
    rw [List.head?_eq_getElem?] at hnone
    simpa [Operator.spelling] using hnone
  | cons d more => simpa [Operator.spelling] using hdigit rfl

/-! ## Tokens -/

def isQuote (c : Char) : Bool := c == '\'' || c == '"'

theorem lexeme_of_isQuote (h : isQuote c = true) : lexeme c cs =
    match quotedText c cs with
    | some (text, n) => .ok (.text (String.ofList text), n)
    | none => .error .unterminatedText := by
  have hdigit : isAsciiDigit c = false ∧ (c == '.') = false := by
    rcases Bool.or_eq_true_iff.mp h with hc | hc <;> obtain rfl := beq_iff_eq.mp hc <;> decide
  unfold lexeme
  rw [hdigit.1, hdigit.2, if_neg (by simp)]
  exact if_pos h

theorem lexeme_of_isNameStart (h : isNameStart c = true) :
    lexeme c cs = .ok (.name (String.ofList (c :: cs.takeWhile isNamePart)), (cs.takeWhile isNamePart).length) := by
  have hdot : c ≠ '.' := ne_of_isNameStart h (by decide)
  have hsingle : c ≠ '\'' := ne_of_isNameStart h (by decide)
  have hdouble : c ≠ '"' := ne_of_isNameStart h (by decide)
  unfold lexeme
  simp [isAsciiDigit_of_isNameStart h, h, hdot, hsingle, hdouble]

/-- What begins no other token is an operator. -/
theorem lexeme_of_mark (hnumber : beginsNumber c cs = false) (hquote : isQuote c = false)
    (hname : isNameStart c = false) : lexeme c cs =
    match Operator.all.find? (·.matchesHead (c :: cs)) with
    | some o => .ok (.op o, o.spelling.length - 1)
    | none => .error (.unexpectedCharacter c) := by
  unfold beginsNumber at hnumber
  unfold isQuote at hquote
  unfold lexeme
  rw [hnumber, hquote, hname]
  rfl

theorem beginsNumber_of_parted (hz : Parted zs) (h : beginsNumber c (xs ++ zs) = true) :
    beginsNumber c xs = true := by
  unfold beginsNumber at h ⊢
  cases xs with
  | nil =>
    cases zs with
    | nil => exact h
    | cons d zs => simpa [isAsciiDigit_of_isBlank (hz d rfl)] using h
  | cons d xs => simpa using h

/-- A number that ends within the first part begins there too. -/
theorem beginsNumber_cut (h : beginsNumber c (xs ++ ys) = true) (hn : numberLength (c :: (xs ++ ys)) ≤ xs.length + 1) :
    beginsNumber c xs = true := by
  cases xs with
  | cons d xs => simpa [beginsNumber] using h
  | nil =>
    rcases Bool.or_eq_true_iff.mp h with hc | hc
    · simp [beginsNumber, hc]
    · obtain ⟨hdot, hdigit⟩ := Bool.and_eq_true_iff.mp hc
      obtain rfl := beq_iff_eq.mp hdot
      have htwo := two_le_numberLength hdigit
      simp only [List.nil_append, List.length_nil] at hn hdigit htwo
      omega

/-- How a token was read. -/
theorem lexeme_eq_ok (h : lexeme c cs = .ok (l, n)) :
    (beginsNumber c cs = true ∧ numberLength (c :: cs) ≤ maxNumberLength ∧ numberLength (c :: cs) = n + 1 ∧
      l = .number (numberOf ((c :: cs).take (n + 1)))) ∨
    (isQuote c = true ∧ ∃ text, quotedText c cs = some (text, n) ∧ l = .text (String.ofList text)) ∨
    (isNameStart c = true ∧ n = (cs.takeWhile isNamePart).length ∧
      l = .name (String.ofList (c :: cs.takeWhile isNamePart))) ∨
    (beginsNumber c cs = false ∧ isQuote c = false ∧ isNameStart c = false ∧
      ∃ o, Operator.all.find? (·.matchesHead (c :: cs)) = some o ∧ o.spelling.length = n + 1 ∧ l = .op o) := by
  by_cases hnumber : beginsNumber c cs = true
  · rw [lexeme_of_beginsNumber hnumber] at h
    split at h
    · cases h
    · next hshort =>
      obtain ⟨rfl, rfl⟩ := Prod.mk.inj (Except.ok.inj h)
      have hpos := numberLength_pos hnumber
      exact .inl ⟨hnumber, by omega, by omega, by rw [Nat.sub_add_cancel hpos]⟩
  by_cases hquote : isQuote c = true
  · rw [lexeme_of_isQuote hquote] at h
    split at h
    · next text k htext =>
      obtain ⟨rfl, rfl⟩ := Prod.mk.inj (Except.ok.inj h)
      exact .inr (.inl ⟨hquote, text, htext, rfl⟩)
    · cases h
  by_cases hname : isNameStart c = true
  · rw [lexeme_of_isNameStart hname] at h
    obtain ⟨rfl, rfl⟩ := Prod.mk.inj (Except.ok.inj h)
    exact .inr (.inr (.inl ⟨hname, rfl, rfl⟩))
  · rw [Bool.not_eq_true] at hnumber hquote hname
    rw [lexeme_of_mark hnumber hquote hname] at h
    split at h
    · next o hfind =>
      obtain ⟨rfl, rfl⟩ := Prod.mk.inj (Except.ok.inj h)
      have hpos : 0 < o.spelling.length := by
        obtain ⟨d, ds, hds, -⟩ := exists_spelling o
        rw [← String.length_toList, hds]
        exact Nat.succ_pos _
      exact .inr (.inr (.inr ⟨hnumber, hquote, hname, o, hfind, by omega, rfl⟩))
    · cases h

theorem lexeme_length_le (h : lexeme c cs = .ok (l, n)) : n ≤ cs.length := by
  rcases lexeme_eq_ok h with ⟨-, -, hlength, -⟩ | ⟨-, text, htext, -⟩ | ⟨-, rfl, -⟩ | ⟨-, -, -, o, hfind, hlength, -⟩
  · have hle := numberLength_le (c :: cs)
    rw [List.length_cons] at hle
    omega
  · exact (quotedText_bounds htext).2
  · exact (List.takeWhile_sublist _).length_le
  · have hmatch : o.matchesHead (c :: cs) = true := by simpa using List.find?_some hfind
    have hle := (Operator.matchesHead_iff.mp hmatch).1.length_le
    rw [String.length_toList, List.length_cons] at hle
    omega

/-- A token that ends within the first part is the same when the second is left out or gives way to a blank. -/
theorem lexeme_cut (h : lexeme c (xs ++ ys) = .ok (l, n)) (hn : n ≤ xs.length) (hz : Parted zs)
    (hs : ¬ Severs (c :: xs) ys) : lexeme c (xs ++ zs) = .ok (l, n) := by
  have htake (k : Nat) (hk : k ≤ xs.length + 1) (ws : List Char) : (c :: (xs ++ ws)).take k = (c :: xs).take k := by
    rw [← List.cons_append, List.take_append_of_le_length (by rwa [List.length_cons])]
  rcases lexeme_eq_ok h with ⟨hbegins, hshort, hlength, rfl⟩ | ⟨hquote, text, htext, rfl⟩ | ⟨hname, hlength, rfl⟩ |
    ⟨hnumber, hquote, hname, o, hfind, hlength, rfl⟩
  · have hxs : beginsNumber c xs = true := beginsNumber_cut hbegins (by omega)
    have hcut : numberLength (c :: xs ++ ys) = numberLength (c :: xs) := by
      refine numberLength_cut ?_
      rw [List.cons_append, List.length_cons]
      omega
    have hextend : numberLength (c :: xs ++ zs) = numberLength (c :: xs) := by
      refine numberLength_append (fun d hd => continuesNumber_of_isBlank (hz d hd)) fun hdot => ?_
      exact absurd rfl (ne_of_isBlank (hz '.' hdot) (by decide))
    have hall : numberLength (c :: (xs ++ zs)) = n + 1 := (hextend.trans hcut.symm).trans hlength
    rw [lexeme_of_beginsNumber (beginsNumber_append hxs), hall, if_neg (by omega), htake _ (by omega), htake _ (by omega),
      Nat.add_sub_cancel]
  · rw [lexeme_of_isQuote hquote, quotedText_cut htext hn]
  · have hxs : (xs ++ ys).takeWhile isNamePart = xs.takeWhile isNamePart :=
      takeWhile_append_of_length_le (hlength ▸ hn)
    have hzs : (xs ++ zs).takeWhile isNamePart = xs.takeWhile isNamePart :=
      takeWhile_append_of_head fun d hd => isNamePart_of_isBlank (hz d hd)
    rw [lexeme_of_isNameStart hname, hlength, hxs, hzs]
  · have hnumber' : beginsNumber c (xs ++ zs) = false := by
      by_contra hbegins
      rw [beginsNumber_append (beginsNumber_of_parted hz (by simpa using hbegins))] at hnumber
      cases hnumber
    have hfind' : Operator.all.find? (·.matchesHead (c :: (xs ++ zs))) = some o := by
      rw [← List.cons_append] at hfind ⊢
      rw [List.find?_eq_some_iff_append] at hfind ⊢
      obtain ⟨hmatch, before, after, hall, hbefore⟩ := hfind
      refine ⟨?_, before, after, hall, fun p hp => ?_⟩
      · exact Operator.matchesHead_cut hmatch (by rw [List.length_cons]; omega) hz
      · rw [Bool.not_eq_true']
        by_contra hstands
        -- an operator that stands earlier and matches now would have matched before, for the cut severs none
        have hearlier := Operator.matchesHead_of_cut (by simpa using hstands) hz hs
        exact absurd hearlier (by simpa using hbefore p hp)
    rw [lexeme_of_mark hnumber' hquote hname, hfind']
    simp [hlength]

end CaptionAnimation.Expression
