import Mathlib.Algebra.Order.Ring.Nat
import Mathlib.Data.Nat.Log
import Mathlib.Data.List.Basic

/-! Base-128 integers, least significant group first: seven payload bits a byte,
the high bit set on every byte but the last. The encoding is the shortest one and
decodes whatever follows it. -/

namespace Varint

/-- Number of bytes a value takes. -/
def size (value : Nat) : Nat := Nat.log 128 value + 1

theorem size_small {value : Nat} (small : value < 128) : size value = 1 := by
  simp [size, Nat.log_of_lt small]

theorem size_large {value : Nat} (large : 128 ≤ value) :
    size value = size (value / 128) + 1 := by
  have shrink : Nat.log 128 (value / 128) = Nat.log 128 value - 1 := Nat.log_div_base 128 value
  have positive : 0 < Nat.log 128 value := Nat.log_pos (by omega) large
  simp only [size, shrink]
  omega

theorem size_pos (value : Nat) : 0 < size value := Nat.succ_pos _

theorem size_mono {small large : Nat} (le : small ≤ large) : size small ≤ size large :=
  Nat.succ_le_succ (Nat.log_mono_right le)

theorem size_le_iff {value count : Nat} (positive : 0 < count) :
    size value ≤ count ↔ value < 128 ^ count := by
  obtain ⟨groups, rfl⟩ : ∃ groups, count = groups + 1 := ⟨count - 1, by omega⟩
  rw [size, Nat.succ_le_succ_iff]
  by_cases zero : value = 0
  · subst zero
    exact iff_of_true (by simp) (Nat.pow_pos (by omega))
  · rw [← Nat.lt_succ_iff]
    exact Nat.log_lt_iff_lt_pow (by omega) zero

theorem lt_pow_size (value : Nat) : value < 128 ^ size value :=
  (size_le_iff (size_pos value)).mp (Nat.le_refl _)

/-- Splitting a length into two parts costs at least as many length bytes. -/
theorem size_add_le (left right : Nat) : size (left + right) ≤ size left + size right := by
  wlog order : size left ≤ size right generalizing left right
  · have swapped := this right left (by omega)
    rwa [Nat.add_comm left right, Nat.add_comm (size left)]
  have leftPos := size_pos left
  have leftBound : left < 128 ^ size right :=
    (size_le_iff (size_pos right)).mp order
  have rightBound : right < 128 ^ size right := lt_pow_size right
  have doubled : left + right < 128 ^ (size right + 1) := by
    rw [Nat.pow_succ]
    omega
  have grown : size (left + right) ≤ size right + 1 :=
    (size_le_iff (Nat.succ_pos _)).mpr doubled
  omega

private def encodeGroups : Nat → Nat → List UInt8
  | 0, value => [UInt8.ofNat value]
  | fuel + 1, value =>
    if value < 128 then [UInt8.ofNat value]
    else UInt8.ofNat (value ||| 128) :: encodeGroups fuel (value >>> 7)

/-- While the value has more than seven bits, emit its low seven bits with the
high bit set and shift them out. The value itself bounds the number of rounds. -/
def encode (value : Nat) : List UInt8 := encodeGroups value value

private theorem shift_group (value : Nat) : value >>> 7 = value / 128 :=
  Nat.shiftRight_eq_div_pow value 7

private theorem encodeGroups_fuel (value : Nat) :
    ∀ fuel, value ≤ fuel → encodeGroups fuel value = encode value := by
  induction value using Nat.strongRecOn with
  | ind value ih =>
    intro fuel enough
    by_cases small : value < 128
    · unfold encode
      cases fuel <;> cases value <;> simp_all [encodeGroups]
    · obtain ⟨round, rfl⟩ : ∃ round, fuel = round + 1 := ⟨fuel - 1, by omega⟩
      obtain ⟨before, rfl⟩ : ∃ before, value = before + 1 := ⟨value - 1, by omega⟩
      unfold encode
      simp only [encodeGroups, if_neg small, shift_group]
      rw [ih ((before + 1) / 128) (by omega) round (by omega),
        ih ((before + 1) / 128) (by omega) before (by omega)]

theorem encode_small {value : Nat} (small : value < 128) :
    encode value = [UInt8.ofNat value] := by
  unfold encode
  cases value <;> simp [encodeGroups]
  omega

private theorem or_high_bit (value : Nat) :
    UInt8.ofNat (value ||| 128) = UInt8.ofNat (value % 128 + 128) := by
  have bytes : ∀ byte : Fin 256, byte.val ||| 128 = byte.val % 128 + 128 := by decide +kernel
  have low : (value ||| 128) % 2 ^ 8 = value % 2 ^ 8 % 128 + 128 := by
    rw [Nat.or_mod_two_pow]
    exact bytes ⟨value % 2 ^ 8, Nat.mod_lt _ (by decide)⟩
  apply UInt8.toNat_inj.mp
  rw [UInt8.toNat_ofNat', UInt8.toNat_ofNat', low]
  omega

theorem encode_large {value : Nat} (large : 128 ≤ value) :
    encode value = UInt8.ofNat (value % 128 + 128) :: encode (value / 128) := by
  obtain ⟨before, rfl⟩ : ∃ before, value = before + 1 := ⟨value - 1, by omega⟩
  have notSmall : ¬ before + 1 < 128 := by omega
  rw [encode, encodeGroups, if_neg notSmall, or_high_bit, shift_group,
    encodeGroups_fuel _ _ (by omega)]

theorem encode_length (value : Nat) : (encode value).length = size value := by
  induction value using Nat.strongRecOn with
  | ind value ih =>
    by_cases small : value < 128
    · rw [encode_small small, size_small small]
      rfl
    · have large : 128 ≤ value := by omega
      rw [encode_large large, size_large large, List.length_cons, ih (value / 128) (by omega)]

/-- Read at most `groups` bytes, up to and including the first without the high
bit. Running out of input or of groups is an error. -/
def decode : Nat → List UInt8 → Option (Nat × List UInt8)
  | 0, _ => none
  | _ + 1, [] => none
  | groups + 1, byte :: rest =>
    if byte.toNat < 128 then some (byte.toNat, rest)
    else (decode groups rest).map fun (high, rest) => (byte.toNat % 128 + 128 * high, rest)

theorem decode_encode {groups value : Nat} (fits : size value ≤ groups) (rest : List UInt8) :
    decode groups (encode value ++ rest) = some (value, rest) := by
  induction groups generalizing value with
  | zero =>
    have positive := size_pos value
    omega
  | succ groups ih =>
    by_cases small : value < 128
    · have byte : (UInt8.ofNat value).toNat = value := by
        rw [UInt8.toNat_ofNat']
        omega
      simp [encode_small small, decode, byte, small]
    · have large : 128 ≤ value := by omega
      have byte : (UInt8.ofNat (value % 128 + 128)).toNat = value % 128 + 128 := by
        rw [UInt8.toNat_ofNat']
        omega
      have continued : ¬ value % 128 + 128 < 128 := by omega
      have high : size (value / 128) ≤ groups := by
        rw [size_large large] at fits
        omega
      rw [encode_large large, List.cons_append, decode, byte, if_neg continued, ih high]
      simp only [Option.map_some, Option.some.injEq, Prod.mk.injEq, and_true]
      omega

/-- No encoding starts another one. -/
theorem encode_append {value other : Nat} {rest later : List UInt8} :
    encode value ++ rest = encode other ++ later ↔ value = other ∧ rest = later := by
  constructor
  · intro same
    have read := decode_encode (Nat.le_max_left (size value) (size other)) rest
    rw [same, decode_encode (Nat.le_max_right (size value) (size other))] at read
    obtain ⟨values, rests⟩ := Prod.mk.inj (Option.some.inj read)
    exact ⟨values.symm, rests.symm⟩
  · rintro ⟨rfl, rfl⟩
    rfl

/-- What was read is a prefix that reads the same before any other input, and no
shorter prefix encodes the value. -/
theorem decode_prefix {groups value : Nat} {input rest : List UInt8}
    (read : decode groups input = some (value, rest)) :
    ∃ used, input = used ++ rest ∧ size value ≤ used.length ∧
      ∀ other, decode groups (used ++ other) = some (value, other) := by
  induction groups generalizing input value with
  | zero => simp [decode] at read
  | succ groups ih =>
    cases input with
    | nil => simp [decode] at read
    | cons byte tail =>
      rw [decode] at read
      by_cases last : byte.toNat < 128
      · rw [if_pos last] at read
        obtain ⟨rfl, rfl⟩ := by simpa using read
        refine ⟨[byte], rfl, ?_, ?_⟩
        · rw [size_small last]
          rfl
        · intro other
          simp [decode, last]
      · rw [if_neg last] at read
        obtain ⟨⟨high, tailRest⟩, tailRead, combined⟩ := Option.map_eq_some_iff.mp read
        simp only [Prod.mk.injEq] at combined
        obtain ⟨rfl, rfl⟩ := combined
        obtain ⟨used, split, shortest, replay⟩ := ih tailRead
        refine ⟨byte :: used, by rw [split]; rfl, ?_, ?_⟩
        · by_cases large : 128 ≤ byte.toNat % 128 + 128 * high
          · rw [size_large large]
            have quotient : (byte.toNat % 128 + 128 * high) / 128 = high := by omega
            rw [quotient, List.length_cons]
            omega
          · rw [size_small (by omega), List.length_cons]
            omega
        · intro other
          simp [decode, last, replay other]

end Varint
