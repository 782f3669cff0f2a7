import CaptionAnimation.Cache.Fingerprint
import CaptionAnimation.Proofs.Expression.Lexing

/-! # Texts and numbers in canonical text

A text in quotes can be told from what follows it: each character is written as itself, as a backslash and a letter, or
as one or two code units, and from the front of a text the first character and the rest can be read back. A number can
be told from what follows it when that does not begin with a digit. -/
namespace CaptionAnimation.Canonical

open Text (hexDigit hexDigits isAsciiDigit)

variable {c d : Char} {cs ds rest rest' : List Char}

/-! ## Characters between quotes -/

theorem hexValue?_hexDigit {n : Nat} (h : n < 16) : Text.hexValue? (hexDigit n) = some n := by
  interval_cases n <;> rfl

theorem length_hexDigits (width n : Nat) : (hexDigits width n).length = width := by
  induction width generalizing n with
  | zero => rfl
  | succ width ih => rw [hexDigits, List.length_append, ih, List.length_singleton]

/-- The number that hexadecimal digits stand for. -/
def hexValue (cs : List Char) : Nat := cs.foldl (fun n c => 16 * n + (Text.hexValue? c).getD 0) 0

theorem hexValue_hexDigits {width n : Nat} (h : n < 16 ^ width) : hexValue (hexDigits width n) = n := by
  induction width generalizing n with
  | zero =>
    obtain rfl : n = 0 := by simpa using h
    rfl
  | succ width ih =>
    have hn : n / 16 < 16 ^ width := Nat.div_lt_of_lt_mul (by rwa [Nat.pow_succ, Nat.mul_comm] at h)
    have hfront := ih hn
    unfold hexValue at hfront
    rw [hexDigits, hexValue, List.foldl_append, hfront, List.foldl_cons, List.foldl_nil,
      hexValue?_hexDigit (Nat.mod_lt n (by decide)), Option.getD_some]
    omega

/-- What a character after a backslash stands for. -/
def shortMeaning (c : Char) : Char :=
  match c with
  | 'n' => '\n'
  | 'r' => '\r'
  | 't' => '\t'
  | 'f' => '\x0c'
  | 'b' => '\x08'
  | c => c

/-- Reads the character whose text comes first: two code units for one that is beyond the first plane. -/
def firstChar? : List Char → Option (Char × List Char)
  | [] => none
  | '\\' :: 'u' :: rest =>
    let unit := hexValue (rest.take 4)
    if 0xd800 ≤ unit && unit < 0xdc00 then
      let second := hexValue ((rest.drop 6).take 4)
      some (Char.ofNat (0x10000 + (unit - 0xd800) * 0x400 + (second - 0xdc00)), rest.drop 10)
    else some (Char.ofNat unit, rest.drop 4)
  | '\\' :: c :: rest => some (shortMeaning c, rest)
  | c :: rest => some (c, rest)

theorem hexValue_unit {n : Nat} (h : n < 0x10000) : hexValue (hexDigits 4 n) = n := hexValue_hexDigits h

/-- A code unit is read, and what follows it is left. -/
theorem drop_escapeUnit (n k : Nat) (rest : List Char) : (escapeUnit n ++ rest).drop (k + 6) = rest.drop k := by
  have hlength : (escapeUnit n).length = 6 := by simp [escapeUnit, length_hexDigits]
  rw [List.drop_append, hlength, Nat.add_sub_cancel, List.drop_eq_nil_of_le (by omega), List.nil_append]

theorem take_escapeUnit (n : Nat) (rest : List Char) : ((escapeUnit n ++ rest).drop 2).take 4 = hexDigits 4 n :=
  List.take_left' (length_hexDigits 4 n)

theorem firstChar?_escapeUnit {n : Nat} (hn : n < 0x10000) (rest : List Char) :
    firstChar? (escapeUnit n ++ rest) =
      if 0xd800 ≤ n && n < 0xdc00 then
        some (Char.ofNat (0x10000 + (n - 0xd800) * 0x400 + (hexValue ((rest.drop 2).take 4) - 0xdc00)), rest.drop 6)
      else some (Char.ofNat n, rest) := by
  have htake : (hexDigits 4 n ++ rest).take 4 = hexDigits 4 n := take_escapeUnit n rest
  have hdrop (k : Nat) : (hexDigits 4 n ++ rest).drop (k + 4) = rest.drop k := drop_escapeUnit n k rest
  simp only [escapeUnit, List.cons_append, firstChar?, htake, hexValue_unit hn, hdrop 0, hdrop 2, hdrop 6,
    List.drop_zero]

/-- A character is no half of a pair. -/
theorem toNat_valid (c : Char) : c.toNat < 0xd800 ∨ 0xdfff < c.toNat ∧ c.toNat < 0x110000 := c.valid

theorem firstChar?_escape (c : Char) (rest : List Char) : firstChar? (escape c ++ rest) = some (c, rest) := by
  have hvalid := toNat_valid c
  unfold escape
  split
  case h_8 hquote hbackslash _ _ _ _ _ =>
    dsimp only
    split
    · rw [List.singleton_append]
      unfold firstChar?
      split <;> simp_all
    · split
      · next hbelow =>
        have hpair : ¬ (0xd800 ≤ c.toNat ∧ c.toNat < 0xdc00) := by omega
        rw [firstChar?_escapeUnit hbelow]
        simp [hpair]
      · next hbeyond =>
        generalize hm : c.toNat - 0x10000 = m
        have hfirst : 0xd800 ≤ 0xd800 + m / 0x400 ∧ 0xd800 + m / 0x400 < 0xdc00 := by omega
        have hsecond : 0xdc00 + m % 0x400 < 0x10000 := by omega
        have hcode : 0x10000 + (0xd800 + m / 0x400 - 0xd800) * 0x400 + (0xdc00 + m % 0x400 - 0xdc00) = c.toNat := by
          omega
        have hrest := drop_escapeUnit (0xdc00 + m % 0x400) 0 rest
        rw [List.append_assoc, firstChar?_escapeUnit (by omega), take_escapeUnit, hexValue_unit hsecond, hrest, hcode,
          if_pos (by simpa using hfirst), Char.ofNat_toNat, List.drop_zero]
  all_goals rfl

theorem escape_append_inj (h : escape c ++ rest = escape d ++ rest') : c = d ∧ rest = rest' := by
  have hread := congrArg firstChar? h
  rw [firstChar?_escape, firstChar?_escape] at hread
  exact Prod.mk.inj (Option.some.inj hread)

/-- No character is written as a lone quote. -/
theorem escape_append_ne_quote : escape c ++ rest ≠ '"' :: rest' := by
  intro h
  have hread := firstChar?_escape c rest
  rw [h] at hread
  obtain ⟨rfl, rfl⟩ := Prod.mk.inj (Option.some.inj hread)
  cases h

/-- The closing quote ends a text. -/
theorem escaped_append_inj (h : cs.flatMap escape ++ '"' :: rest = ds.flatMap escape ++ '"' :: rest') :
    cs = ds ∧ rest = rest' := by
  induction cs generalizing ds with
  | nil =>
    cases ds with
    | nil => exact ⟨rfl, (List.cons.inj h).2⟩
    | cons d ds =>
      rw [List.flatMap_cons, List.append_assoc] at h
      exact absurd h.symm escape_append_ne_quote
  | cons c cs ih =>
    cases ds with
    | nil =>
      rw [List.flatMap_cons, List.append_assoc] at h
      exact absurd h escape_append_ne_quote
    | cons d ds =>
      simp only [List.flatMap_cons, List.append_assoc] at h
      obtain ⟨rfl, hmore⟩ := escape_append_inj h
      obtain ⟨rfl, hrest⟩ := ih hmore
      exact ⟨rfl, hrest⟩

/-- The characters of a text in quotes. -/
def quotedChars (s : String) : List Char := '"' :: (s.toList.flatMap escape ++ ['"'])

theorem quotedChars_append_inj {s t : String} (h : quotedChars s ++ rest = quotedChars t ++ rest') :
    s = t ∧ rest = rest' := by
  simp only [quotedChars, List.cons_append, List.append_assoc, List.cons.injEq, true_and, List.nil_append] at h
  obtain ⟨hs, hrest⟩ := escaped_append_inj h
  exact ⟨String.toList_inj.mp hs, hrest⟩

/-! ## Numbers -/

/-- No digit comes first, so that a number before it has ended. -/
def Ends (rest : List Char) : Prop := ∀ c ∈ rest.head?, isAsciiDigit c = false

theorem ends_nil : Ends [] := by simp [Ends]

theorem ends_cons (h : isAsciiDigit c = false) : Ends (c :: rest) := by simpa [Ends] using h

theorem isAsciiDigit_of_mem_toDigits {n : Nat} (h : c ∈ Nat.toDigits 10 n) : isAsciiDigit c = true :=
  Nat.isDigit_of_mem_toDigits (by decide) (by decide) h

theorem toDigits_append_inj {m n : Nat} (h : Nat.toDigits 10 m ++ rest = Nat.toDigits 10 n ++ rest') (hrest : Ends rest)
    (hrest' : Ends rest') : m = n ∧ rest = rest' := by
  have hfront := congrArg (List.takeWhile isAsciiDigit) h
  rw [Expression.takeWhile_append_run (fun _ => isAsciiDigit_of_mem_toDigits) hrest,
    Expression.takeWhile_append_run (fun _ => isAsciiDigit_of_mem_toDigits) hrest'] at hfront
  have hrepr : m.repr = n.repr := String.toList_inj.mp (by rw [Nat.toList_repr, Nat.toList_repr, hfront])
  obtain rfl := Nat.repr_injective hrepr
  exact ⟨rfl, List.append_cancel_left h⟩

theorem toDigits_append_ne_minus {n : Nat} : Nat.toDigits 10 n ++ rest ≠ '-' :: rest' := by
  intro h
  cases hdigits : Nat.toDigits 10 n with
  | nil => exact Nat.toDigits_ne_nil hdigits
  | cons c cs =>
    rw [hdigits] at h
    obtain rfl := (List.cons.inj h).1
    exact absurd (isAsciiDigit_of_mem_toDigits (n := n) (hdigits ▸ List.mem_cons_self)) (by decide)

theorem toList_toString_ofNat (n : Nat) : (toString (Int.ofNat n)).toList = Nat.toDigits 10 n := Nat.toList_repr

theorem toList_toString_negSucc (n : Nat) : (toString (Int.negSucc n)).toList = '-' :: Nat.toDigits 10 (n + 1) := by
  rw [show toString (Int.negSucc n) = "-" ++ (n + 1).repr from rfl, String.toList_append, Nat.toList_repr]
  rfl

theorem toString_append_inj {m n : Int} (h : (toString m).toList ++ rest = (toString n).toList ++ rest')
    (hrest : Ends rest) (hrest' : Ends rest') : m = n ∧ rest = rest' := by
  cases m with
  | ofNat m =>
    cases n with
    | ofNat n =>
      rw [toList_toString_ofNat, toList_toString_ofNat] at h
      obtain ⟨rfl, hrests⟩ := toDigits_append_inj h hrest hrest'
      exact ⟨rfl, hrests⟩
    | negSucc n =>
      rw [toList_toString_ofNat, toList_toString_negSucc] at h
      exact absurd h toDigits_append_ne_minus
  | negSucc m =>
    cases n with
    | ofNat n =>
      rw [toList_toString_ofNat, toList_toString_negSucc] at h
      exact absurd h.symm toDigits_append_ne_minus
    | negSucc n =>
      rw [toList_toString_negSucc, toList_toString_negSucc] at h
      obtain ⟨hmn, hrests⟩ := toDigits_append_inj (List.cons.inj h).2 hrest hrest'
      exact ⟨by rw [Nat.succ.inj hmn], hrests⟩

end CaptionAnimation.Canonical
