import CaptionAnimation.Expression.Lexer
import Mathlib

/-! # One token after the other

Where each spelling is read as one token, whatever comes after it within bounds: names end where no name part follows,
numbers where none of their characters does, quoted texts at their quote, and operators where they do not grow into a
longer one. `Scans` puts tokens together from the last to the first. -/
namespace CaptionAnimation.Expression

open Text (isAsciiDigit isBlank)

/-- Wherever the characters begin, they split into tokens with these lexemes. -/
def Scans (cs : List Char) (ls : List Lexeme) : Prop :=
  ∀ pos, ∃ ts, tokensFrom pos cs = .ok ts ∧ ts.map Token.lexeme = ls

theorem scans_nil : Scans [] [] := fun pos => ⟨[], tokensFrom_nil pos, rfl⟩

theorem Scans.blank {c : Char} {cs : List Char} {ls : List Lexeme} (h : Scans cs ls) (hc : isBlank c = true) :
    Scans (c :: cs) ls := fun pos => by
  rw [tokensFrom_cons, if_pos hc]
  exact h (pos + 1)

theorem Scans.token {c : Char} {cs rest : List Char} {l : Lexeme} {ls : List Lexeme} (h : Scans rest ls)
    (hc : isBlank c = false) (hl : lexeme c (cs ++ rest) = .ok (l, cs.length)) : Scans (c :: (cs ++ rest)) (l :: ls) :=
  fun pos => by
    obtain ⟨ts, hts, hls⟩ := h (pos + 1 + cs.length)
    rw [tokensFrom_cons, if_neg (by simp [hc]), hl]
    simp only [List.drop_left, hts]
    exact ⟨_, rfl, by rw [List.map_cons, hls]⟩

/-! ## Characters -/

theorem isAsciiDigit_iff {c : Char} : isAsciiDigit c = true ↔ 48 ≤ c.toNat ∧ c.toNat ≤ 57 := by
  simp only [isAsciiDigit, Bool.and_eq_true, decide_eq_true_eq, Char.le_def, UInt32.le_iff_toNat_le, Char.toNat_val]
  rfl

theorem isNameStart_iff {c : Char} : isNameStart c = true ↔
    97 ≤ c.toNat ∧ c.toNat ≤ 122 ∨ 65 ≤ c.toNat ∧ c.toNat ≤ 90 ∨ c.toNat = 95 ∨ c.toNat = 36 := by
  simp only [isNameStart, Bool.or_eq_true, Bool.and_eq_true, decide_eq_true_eq, beq_iff_eq, Char.le_def,
    UInt32.le_iff_toNat_le, Char.toNat_val, ← Char.toNat_inj, or_assoc]
  rfl

theorem ne_of_isNameStart {c d : Char} (hc : isNameStart c = true) (hd : isNameStart d = false) : c ≠ d := by
  rintro rfl
  rw [hc] at hd
  cases hd

theorem isBlank_of_isNameStart {c : Char} (h : isNameStart c = true) : isBlank c = false := by
  rw [isNameStart_iff] at h
  unfold isBlank
  simp only [Bool.or_eq_false_iff, Bool.and_eq_false_iff, decide_eq_false_iff_not, beq_eq_false_iff_ne]
  omega

theorem isAsciiDigit_of_isNameStart {c : Char} (h : isNameStart c = true) : isAsciiDigit c = false := by
  rw [isNameStart_iff] at h
  rw [Bool.eq_false_iff, ne_eq, isAsciiDigit_iff]
  omega

theorem isBlank_of_isAsciiDigit {c : Char} (h : isAsciiDigit c = true) : isBlank c = false := by
  rw [isAsciiDigit_iff] at h
  unfold isBlank
  simp only [Bool.or_eq_false_iff, Bool.and_eq_false_iff, decide_eq_false_iff_not, beq_eq_false_iff_ne]
  omega

/-! ## Runs of characters -/

/-- A run of characters of a kind ends where the next character is of another kind. -/
theorem takeWhile_append_run {p : Char → Bool} {cs rest : List Char} (hcs : ∀ c ∈ cs, p c = true)
    (hrest : ∀ c ∈ rest.head?, p c = false) : (cs ++ rest).takeWhile p = cs := by
  rw [List.takeWhile_append_of_pos hcs]
  cases rest with
  | nil => simp
  | cons c rest => simp [hrest c rfl]

/-! ## Names -/

/-- Letters, digits, underscores and dollar signs that do not begin with a digit. -/
def isName (s : String) : Bool :=
  match s.toList with
  | [] => false
  | c :: cs => isNameStart c && cs.all isNamePart

theorem lexeme_name {c : Char} {cs rest : List Char} (hc : isNameStart c = true) (hcs : ∀ x ∈ cs, isNamePart x = true)
    (hrest : ∀ x ∈ rest.head?, isNamePart x = false) :
    lexeme c (cs ++ rest) = .ok (.name (String.ofList (c :: cs)), cs.length) := by
  have hdot : c ≠ '.' := ne_of_isNameStart hc (by decide)
  have hsingle : c ≠ '\'' := ne_of_isNameStart hc (by decide)
  have hdouble : c ≠ '"' := ne_of_isNameStart hc (by decide)
  unfold lexeme
  simp only [isAsciiDigit_of_isNameStart hc, hc, takeWhile_append_run hcs hrest]
  simp [hdot, hsingle, hdouble]

theorem Scans.name {s : String} {rest : List Char} {ls : List Lexeme} (h : Scans rest ls) (hs : isName s = true)
    (hrest : ∀ x ∈ rest.head?, isNamePart x = false) : Scans (s.toList ++ rest) (.name s :: ls) := by
  unfold isName at hs
  cases hcs : s.toList with
  | nil =>
    rw [hcs] at hs
    cases hs
  | cons c cs =>
    rw [hcs] at hs
    obtain ⟨hc, hparts⟩ := Bool.and_eq_true_iff.mp hs
    have hl := lexeme_name hc (List.all_eq_true.mp hparts) hrest
    rw [← hcs, String.ofList_toList] at hl
    exact h.token (isBlank_of_isNameStart hc) hl

/-! ## Quoted texts -/

/-- The characters of a text with backslashes and quotes escaped. -/
def escaped (cs : List Char) : List Char := cs.flatMap fun c => if c == '\\' || c == '\'' then ['\\', c] else [c]

theorem escaped_cons (c : Char) (cs : List Char) :
    escaped (c :: cs) = (if c == '\\' || c == '\'' then ['\\', c] else [c]) ++ escaped cs := rfl

theorem quotedText_escaped (cs rest : List Char) :
    quotedText '\'' (escaped cs ++ '\'' :: rest) = some (cs, (escaped cs).length + 1) := by
  induction cs with
  | nil => simp [escaped, quotedText]
  | cons c cs ih =>
    rw [escaped_cons]
    by_cases hback : c = '\\'
    · subst hback
      simp [quotedText, ih, unescape]
    · by_cases hquote : c = '\''
      · subst hquote
        simp [quotedText, ih, unescape]
      · simp [quotedText, ih, hback, hquote]

theorem Scans.text {s : String} {rest : List Char} {ls : List Lexeme} (h : Scans rest ls) :
    Scans ('\'' :: (escaped s.toList ++ '\'' :: rest)) (.text s :: ls) := by
  have hl : lexeme '\'' ((escaped s.toList ++ ['\'']) ++ rest) = .ok (.text s, (escaped s.toList ++ ['\'']).length) := by
    unfold lexeme
    rw [if_neg (by simp [isAsciiDigit_iff]), if_pos (by decide), List.append_assoc, List.singleton_append,
      quotedText_escaped]
    simp
  have hscans := h.token (by decide) hl
  rwa [List.append_assoc, List.singleton_append] at hscans

/-! ## Numbers -/

/-- A character that may go on a number, the point aside. -/
def continuesNumber (c : Char) : Bool := isAsciiDigit c || c == 'e' || c == 'E' || c == '+' || c == '-'

variable {cs rest : List Char}

theorem digitsLength_le (cs : List Char) : digitsLength cs ≤ cs.length := by
  unfold digitsLength
  exact (List.takeWhile_sublist _).length_le

theorem digitsLength_append (hrest : ∀ c ∈ rest.head?, isAsciiDigit c = false) (cs : List Char) :
    digitsLength (cs ++ rest) = digitsLength cs := by
  unfold digitsLength
  induction cs with
  | nil =>
    cases rest with
    | nil => rfl
    | cons c rest => simp [hrest c rfl]
  | cons c cs ih =>
    rw [List.cons_append, List.takeWhile_cons, List.takeWhile_cons]
    split
    · rw [List.length_cons, List.length_cons, ih]
    · rfl

theorem isAsciiDigit_of_continuesNumber {c : Char} (h : continuesNumber c = false) : isAsciiDigit c = false := by
  simp only [continuesNumber, Bool.or_eq_false_iff] at h
  exact h.1.1.1.1

theorem exponentLength_append (hrest : ∀ c ∈ rest.head?, continuesNumber c = false) (cs : List Char) :
    exponentLength (cs ++ rest) = exponentLength cs := by
  have hdigits : ∀ c ∈ rest.head?, isAsciiDigit c = false := fun c hc => isAsciiDigit_of_continuesNumber (hrest c hc)
  cases cs with
  | nil =>
    cases rest with
    | nil => rfl
    | cons c rest =>
      have hc := hrest c rfl
      simp only [continuesNumber, Bool.or_eq_false_iff] at hc
      simp [exponentLength, hc]
  | cons e cs =>
    cases cs with
    | nil =>
      cases rest with
      | nil => rfl
      | cons c rest =>
        have hc := hrest c rfl
        simp only [continuesNumber, Bool.or_eq_false_iff] at hc
        simp [exponentLength, digitsLength, hc]
    | cons s cs =>
      simp only [exponentLength, List.cons_append]
      by_cases hs : (s == '+' || s == '-') = true
      · simp only [hs, if_true, List.drop_succ_cons, List.drop_zero, digitsLength_append hdigits]
      · simp only [hs, Bool.false_eq_true, if_false, List.drop_zero, ← List.cons_append, digitsLength_append hdigits]

/-- The length of the digits at the head with an optional point and fraction. -/
def mantissaLength (cs : List Char) : Nat :=
  match cs.drop (digitsLength cs) with
  | '.' :: more => digitsLength cs + 1 + digitsLength more
  | _ => digitsLength cs

theorem numberLength_eq (cs : List Char) :
    numberLength cs = mantissaLength cs + exponentLength (cs.drop (mantissaLength cs)) := rfl

theorem mantissaLength_le (cs : List Char) : mantissaLength cs ≤ cs.length := by
  unfold mantissaLength
  split
  · next more hdrop =>
    have hlength := congrArg List.length hdrop
    have hmore := digitsLength_le more
    simp only [List.length_drop, List.length_cons] at hlength
    omega
  · exact digitsLength_le cs

theorem mantissaLength_append (hrest : ∀ c ∈ rest.head?, isAsciiDigit c = false)
    (hdot : rest.head? = some '.' → digitsLength cs < cs.length) : mantissaLength (cs ++ rest) = mantissaLength cs := by
  have hdrop : (cs ++ rest).drop (digitsLength cs) = cs.drop (digitsLength cs) ++ rest :=
    List.drop_append_of_le_length (digitsLength_le cs)
  unfold mantissaLength
  rw [digitsLength_append hrest, hdrop]
  cases hcs : cs.drop (digitsLength cs) with
  | nil =>
    have hlength : cs.length ≤ digitsLength cs := List.drop_eq_nil_iff.mp hcs
    rw [List.nil_append]
    split
    · exact absurd (hdot rfl) (Nat.not_lt.mpr hlength)
    · rfl
  | cons c more =>
    rw [List.cons_append]
    by_cases hc : c = '.'
    · subst hc
      simp only [digitsLength_append hrest]
    · split
      · next h => exact absurd (List.cons.inj h).1 hc
      · split
        · next h => exact absurd (List.cons.inj h).1 hc
        · rfl

/-- What follows a number does not change its length, unless it goes on it. -/
theorem numberLength_append (hrest : ∀ c ∈ rest.head?, continuesNumber c = false)
    (hdot : rest.head? = some '.' → digitsLength cs < cs.length) : numberLength (cs ++ rest) = numberLength cs := by
  have hdigits : ∀ c ∈ rest.head?, isAsciiDigit c = false := fun c hc => isAsciiDigit_of_continuesNumber (hrest c hc)
  rw [numberLength_eq, numberLength_eq, mantissaLength_append hdigits hdot,
    List.drop_append_of_le_length (mantissaLength_le cs), exponentLength_append hrest]

theorem digitsLength_eq_length (h : ∀ c ∈ cs, isAsciiDigit c = true) : digitsLength cs = cs.length := by
  have hrun : (cs ++ []).takeWhile isAsciiDigit = cs := takeWhile_append_run h nofun
  rw [List.append_nil] at hrun
  rw [digitsLength, hrun]

theorem forall_of_length_le_digitsLength (h : cs.length ≤ digitsLength cs) : ∀ c ∈ cs, isAsciiDigit c = true := by
  have htake : cs.takeWhile isAsciiDigit = cs := (List.takeWhile_prefix _).eq_of_length_le h
  rw [← htake]
  exact List.all_eq_true.mp List.all_takeWhile

/-- A run of digits is an integer. -/
theorem numberOf_digits (h : ∀ c ∈ cs, isAsciiDigit c = true) : numberOf cs = .int (Numeral.natOf cs) := by
  unfold numberOf
  rw [if_neg]
  simp only [List.any_eq_true, not_exists, not_and]
  intro c hc hmark
  have hdigit := isAsciiDigit_iff.mp (h c hc)
  simp only [Bool.or_eq_true, beq_iff_eq, ← Char.toNat_inj, Char.reduceToNat] at hmark
  omega

/-- A digit, or a point before one, begins a number. -/
def beginsNumber (c : Char) (cs : List Char) : Bool := isAsciiDigit c || (c == '.' && cs.head?.any isAsciiDigit)

theorem numberLength_pos {c : Char} (h : beginsNumber c cs = true) : 0 < numberLength (c :: cs) := by
  suffices hmantissa : 0 < mantissaLength (c :: cs) by
    rw [numberLength_eq]
    omega
  unfold mantissaLength
  rcases Bool.or_eq_true_iff.mp h with hc | hc
  · have hpos : 0 < digitsLength (c :: cs) := by simp [digitsLength, hc]
    split <;> omega
  · obtain ⟨hdot, -⟩ := Bool.and_eq_true_iff.mp hc
    obtain rfl : c = '.' := beq_iff_eq.mp hdot
    have hzero : digitsLength ('.' :: cs) = 0 := by simp [digitsLength, isAsciiDigit_iff]
    rw [hzero, List.drop_zero]
    show 0 < 0 + 1 + digitsLength cs
    omega

theorem beginsNumber_append {c : Char} (h : beginsNumber c cs = true) : beginsNumber c (cs ++ rest) = true := by
  unfold beginsNumber at h ⊢
  cases cs with
  | nil => simpa using .inl (by simpa using h)
  | cons d cs => simpa using h

/-- Where a number begins, it is read to its end. -/
theorem lexeme_of_beginsNumber {c : Char} (h : beginsNumber c cs = true) :
    lexeme c cs =
      if numberLength (c :: cs) > maxNumberLength then .error .numberTooLong
      else .ok (.number (numberOf ((c :: cs).take (numberLength (c :: cs)))), numberLength (c :: cs) - 1) := by
  unfold beginsNumber at h
  unfold lexeme
  rw [if_pos h]

theorem beginsNumber_of_lexeme {c : Char} {n : Number} {k : Nat} (h : lexeme c cs = .ok (.number n, k)) :
    beginsNumber c cs = true := by
  unfold lexeme at h
  split at h
  · next hbegins => exact hbegins
  · split at h
    · split at h <;> cases h
    · split at h
      · cases h
      · split at h <;> cases h

/-- A text that is one number is read as that number where nothing goes on it; only a double may be followed by a
point. -/
theorem lexeme_number {c : Char} {n : Number} (h : lexeme c cs = .ok (.number n, cs.length))
    (hrest : ∀ x ∈ rest.head?, continuesNumber x = false)
    (hdot : rest.head? = some '.' → ∃ q, n = .double q) : lexeme c (cs ++ rest) = .ok (.number n, cs.length) := by
  have hbegins := beginsNumber_of_lexeme h
  rw [lexeme_of_beginsNumber hbegins] at h
  split at h
  · cases h
  · next hshort =>
    obtain ⟨hnumber, hlength⟩ := Prod.mk.inj (Except.ok.inj h)
    have hall : numberLength (c :: cs) = (c :: cs).length := by
      have hpos := numberLength_pos hbegins
      rw [List.length_cons]
      omega
    rw [hall, List.take_length] at hnumber
    have hdigits (hd : rest.head? = some '.') : digitsLength (c :: cs) < (c :: cs).length := by
      obtain ⟨q, rfl⟩ := hdot hd
      refine Nat.not_le.mp fun hle => ?_
      rw [numberOf_digits (forall_of_length_le_digitsLength hle)] at hnumber
      cases hnumber
    have happend := numberLength_append hrest hdigits
    rw [lexeme_of_beginsNumber (beginsNumber_append hbegins), ← List.cons_append, happend, if_neg hshort, hall,
      List.take_left, hnumber, List.length_cons, Nat.add_sub_cancel]

/-- The whole text is one token, and the token is the number. -/
def IsNumber (text : String) (n : Number) : Prop :=
  ∃ c cs, text.toList = c :: cs ∧ lexeme c cs = .ok (.number n, cs.length)

theorem isNumber_repr {n : Nat} (h : n < 10 ^ maxNumberLength) : IsNumber n.repr (.int n) := by
  have hdigits : ∀ c ∈ Nat.toDigits 10 n, isAsciiDigit c = true := fun c hc =>
    Nat.isDigit_of_mem_toDigits (by decide) (by decide) hc
  have hlength : (Nat.toDigits 10 n).length ≤ maxNumberLength := (Nat.length_toDigits_le_iff (by decide) (by decide)).mpr h
  have hnumber : numberLength (Nat.toDigits 10 n) = (Nat.toDigits 10 n).length := by
    have hall := digitsLength_eq_length hdigits
    have hmantissa : mantissaLength (Nat.toDigits 10 n) = (Nat.toDigits 10 n).length := by
      rw [mantissaLength, hall, List.drop_length]
    rw [numberLength_eq, hmantissa, List.drop_length]
    rfl
  unfold IsNumber
  rw [Nat.toList_repr]
  cases hcs : Nat.toDigits 10 n with
  | nil => exact absurd hcs Nat.toDigits_ne_nil
  | cons c cs =>
    rw [hcs] at hdigits hlength hnumber
    have hbegins : beginsNumber c cs = true := by simp [beginsNumber, hdigits c List.mem_cons_self]
    refine ⟨c, cs, rfl, ?_⟩
    have hvalue : Numeral.natOf (c :: cs) = n := hcs ▸ Nat.ofDigitChars_ten_toDigits
    rw [lexeme_of_beginsNumber hbegins, hnumber, if_neg (Nat.not_lt.mpr hlength), List.take_length,
      numberOf_digits hdigits, hvalue, List.length_cons, Nat.add_sub_cancel]

theorem isBlank_of_beginsNumber {c : Char} (h : beginsNumber c cs = true) : isBlank c = false := by
  rcases Bool.or_eq_true_iff.mp h with hc | hc
  · exact isBlank_of_isAsciiDigit hc
  · obtain rfl : c = '.' := beq_iff_eq.mp (Bool.and_eq_true_iff.mp hc).1
    decide

theorem Scans.number {text : String} {n : Number} {ls : List Lexeme} (h : Scans rest ls) (hn : IsNumber text n)
    (hrest : ∀ x ∈ rest.head?, continuesNumber x = false)
    (hdot : rest.head? = some '.' → ∃ q, n = .double q) : Scans (text.toList ++ rest) (.number n :: ls) := by
  obtain ⟨c, cs, hcs, hl⟩ := hn
  rw [hcs]
  exact h.token (isBlank_of_beginsNumber (beginsNumber_of_lexeme hl)) (lexeme_number hl hrest hdot)

/-! ## Operators -/

/-- Whether the operator ends before the character. -/
def Operator.endsBefore (c : Char) : Operator → Bool
  | equal | notEqual | not | less | greater => '=' != c
  | question => '?' != c && '.' != c
  | dot | guardedDot => !isAsciiDigit c
  | _ => true

/-- Of all operators, the one that is spelled there is the first to match. -/
theorem find?_matchesHead {o : Operator} (hrest : ∀ c ∈ rest.head?, o.endsBefore c = true) :
    Operator.all.find? (·.matchesHead (o.spelling.toList ++ rest)) = some o := by
  cases rest with
  | nil => cases o <;> cbv
  | cons d rest =>
    have hd := hrest d rfl
    have hguarded : ∀ p : Operator, p ≠ .guardedDot → (p == .guardedDot) = false := fun p h =>
      beq_eq_false_iff_ne.mpr h
    cases o <;> simp only [Operator.endsBefore, bne, Bool.and_eq_true, Bool.not_eq_true'] at hd <;>
      simp [Operator.all, Operator.matchesHead, Operator.spelling, List.isPrefixOf, hguarded, hd]

/-- The first character of an operator begins no other kind of token, except that a point may begin a number. -/
theorem exists_spelling (o : Operator) : ∃ c cs, o.spelling.toList = c :: cs ∧ isBlank c = false ∧
    isAsciiDigit c = false ∧ isNameStart c = false ∧ (c == '\'' || c == '"') = false ∧ (c = '.' → o = .dot) := by
  cases o <;> exact ⟨_, _, by cbv, by decide, by decide, by decide, by decide, by decide⟩

theorem Scans.op {ls : List Lexeme} (h : Scans rest ls) (o : Operator)
    (hrest : ∀ c ∈ rest.head?, o.endsBefore c = true) : Scans (o.spelling.toList ++ rest) (.op o :: ls) := by
  have hfind := find?_matchesHead hrest
  obtain ⟨c, cs, hcs, hblank, hdigit, hstart, hquote, hdot⟩ := exists_spelling o
  have hlength : o.spelling.length - 1 = cs.length := by
    rw [← String.length_toList, hcs]
    rfl
  rw [hcs, List.cons_append] at hfind ⊢
  refine h.token hblank ?_
  have hnumber : (isAsciiDigit c || (c == '.' && (cs ++ rest).head?.any isAsciiDigit)) = false := by
    rw [hdigit, Bool.false_or, Bool.and_eq_false_iff]
    by_cases hc : c = '.'
    · obtain rfl := hdot hc
      obtain ⟨-, rfl⟩ := List.cons.inj (hcs.symm.trans (by cbv : Operator.dot.spelling.toList = ['.']))
      right
      cases rest with
      | nil => rfl
      | cons d rest => simpa [Operator.endsBefore] using hrest d rfl
    · exact .inl (beq_eq_false_iff_ne.mpr hc)
  unfold lexeme
  rw [hnumber, hquote, hstart]
  simp [hfind, hlength]

end CaptionAnimation.Expression
