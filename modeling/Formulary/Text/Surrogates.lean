/-!
# Texts with unpaired surrogates

A text that was written in units of UTF-16 can hold half of a surrogate pair without the other half.
Such a text is no sequence of characters, so it is given by its code points.
-/

set_option autoImplicit false
namespace Formulary

/-- A character, or one half of a surrogate pair. -/
inductive CodePoint where
  | char (c : Char)
  | high (n : Fin 1024)
  | low (n : Fin 1024)
  deriving DecidableEq, Repr

namespace CodePoint

/-- Number of the code point. -/
def toNat : CodePoint → Nat
  | char c => c.toNat
  | high n => 0xd800 + n
  | low n => 0xdc00 + n

def char? : CodePoint → Option Char
  | char c => some c
  | high _ | low _ => none

/-- The characters, if there are no halves. -/
def chars? : List CodePoint → Option (List Char)
  | [] => some []
  | p :: ps =>
    match p.char?, chars? ps with
    | some c, some cs => some (c :: cs)
    | _, _ => none

/-- The character of a pair. -/
def ofPair (high low : Fin 1024) : Char := Char.ofNat (0x10000 + high * 0x400 + low)

/-- Puts halves that follow each other as a pair together. -/
def pair : List CodePoint → List CodePoint
  | high h :: low l :: ps => char (ofPair h l) :: pair ps
  | p :: ps => p :: pair ps
  | [] => []

/-- Whether no two halves follow each other as a pair. -/
def isUnpaired : List CodePoint → Bool
  | high _ :: low _ :: _ => false
  | _ :: ps => isUnpaired ps
  | [] => true

/-- Whether the first code point is the second half of a pair. -/
def beginsLow : List CodePoint → Bool
  | low _ :: _ => true
  | _ => false

theorem isUnpaired_cons {p : CodePoint} {ps : List CodePoint}
    (h : (∃ n, p = high n) → beginsLow ps = false) : isUnpaired (p :: ps) = isUnpaired ps := by
  rw [isUnpaired]
  rintro n m qs rfl rfl
  cases h ⟨n, rfl⟩

theorem pair_cons {p : CodePoint} {ps : List CodePoint}
    (h : (∃ n, p = high n) → beginsLow ps = false) : pair (p :: ps) = p :: pair ps := by
  rw [pair]
  rintro n m qs rfl rfl
  cases h ⟨n, rfl⟩

/-- Joining pairs leaves no second half in front that was not there. -/
theorem beginsLow_pair (ps : List CodePoint) : beginsLow (pair ps) = beginsLow ps := by
  match ps with
  | [] => rfl
  | [p] => cases p <;> rfl
  | p :: q :: ps => cases p <;> cases q <;> rfl

theorem isUnpaired_pair (ps : List CodePoint) : isUnpaired (pair ps) = true := by
  fun_induction pair ps with
  | case1 h l ps ih => exact ih
  | case2 p ps hp ih =>
    refine (isUnpaired_cons fun ⟨n, hn⟩ => ?_).trans ih
    rw [beginsLow_pair]
    cases ps with
    | nil => rfl
    | cons q qs =>
      cases q with
      | low m => exact (hp n m qs hn rfl).elim
      | _ => rfl
  | case3 => rfl

theorem chars?_map_char (cs : List Char) : chars? (cs.map char) = some cs := by
  induction cs with
  | nil => rfl
  | cons c cs ih => rw [List.map_cons, chars?, ih]; rfl

theorem isUnpaired_map_char (cs : List Char) : isUnpaired (cs.map char) = true := by
  induction cs with
  | nil => rfl
  | cons c cs ih => exact ih

/-- The beginning of an unpaired text with characters behind it is unpaired. -/
theorem isUnpaired_take_append (n : Nat) {ps : List CodePoint} (h : isUnpaired ps = true)
    (cs : List Char) : isUnpaired (ps.take n ++ cs.map char) = true := by
  induction n generalizing ps with
  | zero => exact isUnpaired_map_char cs
  | succ n ih =>
    cases ps with
    | nil => exact isUnpaired_map_char cs
    | cons p ps =>
      rw [List.take_succ_cons, List.cons_append]
      have hbegin (hp : ∃ m, p = high m) : beginsLow ps = false := by
        obtain ⟨m, rfl⟩ := hp
        cases ps with
        | nil => rfl
        | cons q qs => cases q with
          | low l => cases h
          | _ => rfl
      have htake (hp : ∃ m, p = high m) : beginsLow (ps.take n ++ cs.map char) = false := by
        have hps := hbegin hp
        cases n with
        | zero => cases cs <;> rfl
        | succ n => cases ps with
          | nil => cases cs <;> rfl
          | cons q qs => cases q <;> first | rfl | cases hps
      rw [isUnpaired_cons htake]
      exact ih ((isUnpaired_cons hbegin).symm.trans h)

end CodePoint

/-- A text with halves of surrogate pairs, none of which has its other half beside it. -/
structure BrokenText where
  codes : List CodePoint
  unpaired : CodePoint.isUnpaired codes = true
  broken : CodePoint.chars? codes = none
  deriving DecidableEq, Repr

end Formulary
