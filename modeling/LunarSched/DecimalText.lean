import Mathlib.Algebra.Order.Group.Unbundled.Int
import Mathlib.Data.List.TakeWhile
import Mathlib.Tactic.SplitIfs

/-!
Decimal numbers as text: how they are printed, and how they are read, with a sign in front
and one newline after them, if at all, and within a limit. The readers accept exactly the
numerals (`parse*_iff`), and read what was printed (`parse*_print`).
-/
namespace LunarSched.DecimalText

def printNat (n : ℕ) : List Char := Nat.toDigits 10 n

def printInt (v : ℤ) : List Char := if v < 0 then '-' :: printNat v.natAbs else printNat v.natAbs

/-- Digits, at least one, and nothing after them but a newline. -/
def parseNat (text : List Char) : Option ℕ :=
  if text.takeWhile Char.isDigit ≠ [] ∧ text.dropWhile Char.isDigit ∈ [[],['\n']] then
    some (Nat.ofDigitChars 10 (text.takeWhile Char.isDigit) 0)
  else none

def parseUnsigned (limit : ℕ) : List Char → Option ℕ
  | '+' :: rest => (parseNat rest).filter (fun n => n < limit)
  | text => (parseNat text).filter (fun n => n < limit)

def parseSigned (limit : ℕ) : List Char → Option ℤ
  | '-' :: rest => ((parseNat rest).filter (fun n => n ≤ limit)).map (fun n : ℕ => -(n : ℤ))
  | text => (parseUnsigned limit text).map (fun n : ℕ => (n : ℤ))

/-- `text` is the digits of `n`, with or without a newline at the end. -/
def Numeral (text : List Char) (n : ℕ) : Prop :=
  ∃ digits ending, text = digits ++ ending ∧ digits ≠ [] ∧ (∀ c ∈ digits, c.isDigit = true) ∧ ending ∈ [[],['\n']] ∧
    Nat.ofDigitChars 10 digits 0 = n

/-- `text` is a numeral of `n` after a plus sign or none. -/
def UnsignedNumeral (text : List Char) (n : ℕ) : Prop := ∃ sign ∈ [[],['+']], ∃ rest, text = sign ++ rest ∧ Numeral rest n

/-- `text` is a numeral of `v` with its sign. -/
def SignedNumeral (text : List Char) (v : ℤ) : Prop :=
  (∃ n : ℕ, UnsignedNumeral text n ∧ v = n) ∨ ∃ rest n, text = '-' :: rest ∧ Numeral rest n ∧ v = -(n : ℤ)

section
variable {text digits ending : List Char} {n limit : ℕ}

theorem newline_stops (ends : ending ∈ [[],['\n']]) : ending.takeWhile Char.isDigit = [] ∧ ending.dropWhile Char.isDigit = ending := by
  simp only [List.mem_cons,List.not_mem_nil,or_false] at ends
  rcases ends with rfl | rfl
  · exact ⟨rfl,rfl⟩
  · exact ⟨rfl,rfl⟩

theorem parseNat_append (some_digit : digits ≠ []) (all : ∀ c ∈ digits, c.isDigit = true) (ends : ending ∈ [[],['\n']]) :
    parseNat (digits ++ ending) = some (Nat.ofDigitChars 10 digits 0) := by
  obtain ⟨taken,dropped⟩ := newline_stops ends
  rw [parseNat,List.takeWhile_append_of_pos all,List.dropWhile_append_of_pos all,taken,dropped,List.append_nil]
  exact if_pos ⟨some_digit,ends⟩

theorem parseNat_iff : parseNat text = some n ↔ Numeral text n := by
  constructor
  · intro parsed
    rw [parseNat] at parsed
    split_ifs at parsed with accepted
    refine ⟨_,_,List.takeWhile_append_dropWhile.symm,accepted.1,fun c member => ?_,accepted.2,Option.some.inj parsed⟩
    exact List.mem_takeWhile_imp member
  · rintro ⟨digits,ending,rfl,some_digit,all,ends,rfl⟩
    exact parseNat_append some_digit all ends

theorem numeral_head {c : Char} {rest : List Char} (numeral : Numeral (c :: rest) n) : c.isDigit = true := by
  obtain ⟨digits,ending,same,some_digit,all,_⟩ := numeral
  cases digits with
  | nil => exact absurd rfl some_digit
  | cons d ds =>
    obtain ⟨rfl,_⟩ := List.cons.inj same
    exact all c List.mem_cons_self

theorem parseUnsigned_iff : parseUnsigned limit text = some n ↔ UnsignedNumeral text n ∧ n < limit := by
  have plus : ∀ {rest : List Char}, ¬ Numeral ('+' :: rest) n := fun numeral => nomatch numeral_head numeral
  unfold parseUnsigned
  split
  · rename_i rest
    rw [Option.filter_eq_some_iff,parseNat_iff,decide_eq_true_eq]
    refine and_congr_left (fun _ => ⟨fun numeral => ⟨['+'],by simp,rest,rfl,numeral⟩,?_⟩)
    rintro ⟨sign,member,rest',same,numeral⟩
    simp only [List.mem_cons,List.not_mem_nil,or_false] at member
    rcases member with rfl | rfl
    · subst same
      exact absurd numeral plus
    · exact (List.cons.inj same).2 ▸ numeral
  · rename_i unsigned
    rw [Option.filter_eq_some_iff,parseNat_iff,decide_eq_true_eq]
    refine and_congr_left (fun _ => ⟨fun numeral => ⟨[],by simp,text,rfl,numeral⟩,?_⟩)
    rintro ⟨sign,member,rest',same,numeral⟩
    simp only [List.mem_cons,List.not_mem_nil,or_false] at member
    rcases member with rfl | rfl
    · subst same
      exact numeral
    · exact absurd same (unsigned rest')

theorem parseSigned_iff {v : ℤ} (positive : 0 < limit) :
    parseSigned limit text = some v ↔ SignedNumeral text v ∧ -(limit : ℤ) ≤ v ∧ v < limit := by
  have unsigned_head : ∀ {rest : List Char} {n : ℕ}, ¬ UnsignedNumeral ('-' :: rest) n := by
    rintro rest n ⟨sign,member,rest',same,numeral⟩
    simp only [List.mem_cons,List.not_mem_nil,or_false] at member
    rcases member with rfl | rfl
    · subst same
      exact nomatch numeral_head numeral
    · exact nomatch (List.cons.inj same).1
  unfold parseSigned
  split
  · rename_i rest
    simp only [Option.map_eq_some_iff,Option.filter_eq_some_iff,parseNat_iff,decide_eq_true_eq]
    constructor
    · rintro ⟨n,⟨numeral,small⟩,rfl⟩
      exact ⟨Or.inr ⟨rest,n,rfl,numeral,rfl⟩,by omega,by omega⟩
    · rintro ⟨⟨n,numeral,_⟩ | ⟨rest',n,same,numeral,rfl⟩,low,high⟩
      · exact absurd numeral unsigned_head
      · exact ⟨n,⟨(List.cons.inj same).2 ▸ numeral,by omega⟩,rfl⟩
  · rename_i not_minus
    simp only [Option.map_eq_some_iff,parseUnsigned_iff]
    constructor
    · rintro ⟨n,⟨numeral,small⟩,rfl⟩
      exact ⟨Or.inl ⟨n,numeral,rfl⟩,by omega,by omega⟩
    · rintro ⟨⟨n,numeral,rfl⟩ | ⟨rest',n,same,_⟩,low,high⟩
      · exact ⟨n,⟨numeral,by omega⟩,rfl⟩
      · exact absurd same (not_minus rest')

theorem numeral_print (n : ℕ) (ends : ending ∈ [[],['\n']]) : Numeral (printNat n ++ ending) n :=
  ⟨printNat n,ending,rfl,Nat.toDigits_ne_nil,fun _ member => Nat.isDigit_of_mem_toDigits (by omega) (by omega) member,ends,
    Nat.ofDigitChars_ten_toDigits⟩

theorem signedNumeral_print (v : ℤ) (ends : ending ∈ [[],['\n']]) : SignedNumeral (printInt v ++ ending) v := by
  unfold printInt
  split_ifs with negative
  · exact Or.inr ⟨printNat v.natAbs ++ ending,v.natAbs,rfl,numeral_print v.natAbs ends,by omega⟩
  · exact Or.inl ⟨v.natAbs,⟨[],by simp,_,rfl,numeral_print v.natAbs ends⟩,by omega⟩

/-- Every number within the limit is read back as it was printed. -/
theorem parseSigned_print {v : ℤ} (low : -(limit : ℤ) ≤ v) (high : v < limit) (ends : ending ∈ [[],['\n']]) :
    parseSigned limit (printInt v ++ ending) = some v :=
  (parseSigned_iff (by omega)).mpr ⟨signedNumeral_print v ends,low,high⟩

/-- The reader for unsigned numbers reads back what is not negative, and rejects the rest. -/
theorem parseUnsigned_print {v : ℤ} (high : v < limit) (ends : ending ∈ [[],['\n']]) :
    parseUnsigned limit (printInt v ++ ending) = if v < 0 then none else some v.natAbs := by
  split_ifs with negative
  · rw [Option.eq_none_iff_forall_ne_some]
    intro n parsed
    obtain ⟨⟨sign,member,rest,same,numeral⟩,_⟩ := parseUnsigned_iff.mp parsed
    rw [printInt,if_pos negative] at same
    simp only [List.mem_cons,List.not_mem_nil,or_false] at member
    rcases member with rfl | rfl
    · subst same
      exact nomatch numeral_head numeral
    · exact nomatch (List.cons.inj same).1
  · rw [printInt,if_neg negative]
    exact parseUnsigned_iff.mpr ⟨⟨[],by simp,_,rfl,numeral_print v.natAbs ends⟩,by omega⟩

end

end LunarSched.DecimalText
