import CrateGraph.Proofs.Text.Characters
import CrateGraph.Text.Base64

/-!
Bytes are read back from the groups that they are written in.
-/

namespace CrateGraph.Text.Base64

/-! ### Digits -/

theorem value?_digit {value : Nat} (small : value < 64) : value? (digit value) = some value := by
  have everyValue : ∀ value : Fin 64, value? (digit value) = some value.val := by decide +kernel
  exact everyValue ⟨value, small⟩

theorem isAscii_digit (value : Nat) : IsAscii (digit value) := by
  have inAlphabet : alphabet.all (IsAscii ·) := by decide +kernel
  rw [digit, List.getD_eq_getElem?_getD]
  cases found : alphabet[value]? with
  | none => decide
  | some character =>
      exact of_decide_eq_true (List.all_eq_true.mp inAlphabet _ (List.mem_of_getElem? found))

theorem decodeFrom_digit {value : Nat} (small : value < 64) (group : List Nat) (pads : Nat)
    (rest : List Char) :
    decodeFrom group pads (digit value :: rest) =
      if group.length = 3 then
        (decodeFrom [] 0 rest).map (groupBytes (group ++ [value]) ++ ·)
      else decodeFrom (group ++ [value]) 0 rest := by
  have noPadding : digit value ≠ '=' := fun padding => by
    have read := value?_digit small
    rw [padding, show value? '=' = none by decide] at read
    exact nomatch read
  rw [decodeFrom, if_neg noPadding, value?_digit small]

/-! ### Groups -/

section Groups

variable {first second third fourth : Nat} (firstSmall : first < 64) (secondSmall : second < 64)
  (rest : List Char)
include firstSmall secondSmall

theorem decodeFrom_two :
    decodeFrom [] 0 (digit first :: digit second :: rest) = decodeFrom [first, second] 0 rest :=
  (decodeFrom_digit firstSmall [] 0 _).trans (decodeFrom_digit secondSmall [first] 0 rest)

theorem decodeFrom_three (thirdSmall : third < 64) :
    decodeFrom [] 0 (digit first :: digit second :: digit third :: rest) =
      decodeFrom [first, second, third] 0 rest :=
  (decodeFrom_two firstSmall secondSmall _).trans
    (decodeFrom_digit thirdSmall [first, second] 0 rest)

theorem decodeFrom_four (thirdSmall : third < 64) (fourthSmall : fourth < 64) :
    decodeFrom [] 0 (digit first :: digit second :: digit third :: digit fourth :: rest) =
      (decodeFrom [] 0 rest).map (groupBytes [first, second, third, fourth] ++ ·) :=
  (decodeFrom_three firstSmall secondSmall _ thirdSmall).trans
    (decodeFrom_digit fourthSmall [first, second, third] 0 rest)

end Groups

theorem toUInt8_eq {number : Nat} {byte : UInt8} (same : number % 256 = byte.toNat) :
    number.toUInt8 = byte :=
  UInt8.toNat_inj.mp (UInt8.toNat_ofNat'.trans same)

/-- Bytes are read back from the digits that they are written with. -/
theorem decodeFrom_encode (bytes : List UInt8) : decodeFrom [] 0 (encode bytes) = some bytes := by
  fun_induction encode bytes with
  | case1 => rfl
  | case2 first bits =>
      have bound := first.toNat_lt
      have firstByte : (bits / 64 * 4 + bits % 64 / 16).toUInt8 = first := toUInt8_eq (by omega)
      rw [decodeFrom_two (by omega) (by omega)]
      change some [_] = some [first]
      rw [firstByte]
  | case3 first second bits =>
      have firstBound := first.toNat_lt
      have secondBound := second.toNat_lt
      have firstByte : (bits / 4096 * 4 + bits / 64 % 64 / 16).toUInt8 = first :=
        toUInt8_eq (by omega)
      have secondByte : (bits / 64 % 64 * 16 + bits % 64 / 4).toUInt8 = second :=
        toUInt8_eq (by omega)
      rw [decodeFrom_three (by omega) (by omega) _ (by omega)]
      change some [_, _] = some [first, second]
      rw [firstByte, secondByte]
  | case4 first second third rest bits induction =>
      have firstBound := first.toNat_lt
      have secondBound := second.toNat_lt
      have thirdBound := third.toNat_lt
      have firstByte : (bits / 262144 * 4 + bits / 4096 % 64 / 16).toUInt8 = first :=
        toUInt8_eq (by omega)
      have secondByte : (bits / 4096 % 64 * 16 + bits / 64 % 64 / 4).toUInt8 = second :=
        toUInt8_eq (by omega)
      have thirdByte : (bits / 64 % 64 * 64 + bits % 64).toUInt8 = third :=
        toUInt8_eq (by omega)
      rw [decodeFrom_four (by omega) (by omega) _ (by omega) (by omega), induction, groupBytes,
        firstByte, secondByte, thirdByte]
      rfl

/-! ### Texts -/

theorem isAscii_of_mem_encode (bytes : List UInt8) :
    ∀ character ∈ encode bytes, IsAscii character := by
  have padding : IsAscii '=' := by decide
  fun_induction encode bytes with
  | case1 => simp
  | case2 | case3 => simp [isAscii_digit, padding]
  | case4 first second third rest bits induction => simpa [isAscii_digit] using induction

theorem decode?_encode (bytes : List UInt8) :
    decode? (String.ofList (encode bytes)) = some bytes := by
  have ascii : (encode bytes).all (·.toNat < 0x80) = true := by
    rw [List.all_eq_true]
    intro character member
    exact decide_eq_true (isAscii_of_mem_encode bytes character member)
  rw [decode?, String.toList_ofList, if_pos ascii, decodeFrom_encode]

end CrateGraph.Text.Base64
