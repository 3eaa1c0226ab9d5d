/-! Octet strings, and the ways numbers and text are laid out in them: little-endian words of a
given width, UTF-8, and pairs of hexadecimal digits. Writing a number little-endian and reading it
back is the identity below the bound of the width (`Bytes.value_word`), and so is writing text and
reading it back (`Bytes.text?_utf8`), and writing octets in hexadecimal and reading them back
(`Bytes.ofHex_hex`). -/

namespace Scriptorium

/-- A string of octets. -/
abbrev Bytes := List UInt8

namespace Bytes

/-- The `width` low octets of `n`, least significant first. -/
def word : (width n : Nat) → Bytes
  | 0, _ => []
  | width + 1, n => UInt8.ofNat n :: word width (n / 256)

/-- The number that a string of octets writes, least significant octet first. -/
def value : Bytes → Nat
  | [] => 0
  | b :: bs => b.toNat + 256 * value bs

/-- How many numbers a string of `width` octets can write. -/
def bound : (width : Nat) → Nat
  | 0 => 1
  | width + 1 => 256 * bound width

@[simp] theorem length_word (width n : Nat) : (word width n).length = width := by
  induction width generalizing n with
  | zero => rfl
  | succ width ih => simp [word, ih]

theorem value_lt (bs : Bytes) : value bs < bound bs.length := by
  induction bs with
  | nil => decide
  | cons b bs ih =>
    have hb := b.toNat_lt
    simp only [value, List.length_cons, bound]
    omega

theorem value_word {width n : Nat} (h : n < bound width) : value (word width n) = n := by
  induction width generalizing n with
  | zero => simp [bound] at h; simp [word, value, h]
  | succ width ih =>
    have hq : n / 256 < bound width := by rw [bound] at h; omega
    simp only [word, value, ih hq, UInt8.toNat_ofNat']
    omega

theorem word_value (bs : Bytes) : word bs.length (value bs) = bs := by
  induction bs with
  | nil => rfl
  | cons b bs ih =>
    have hb := b.toNat_lt
    have hdiv : (b.toNat + 256 * value bs) / 256 = value bs := by omega
    have hlow : UInt8.ofNat (b.toNat + 256 * value bs) = b := by
      apply UInt8.toNat_inj.mp
      rw [UInt8.toNat_ofNat']
      omega
    simp only [List.length_cons, value, word, hdiv, ih, hlow]

/-- The UTF-8 form of a text. -/
def utf8 (s : String) : Bytes := s.toByteArray.data.toList

/-- The text whose UTF-8 form the octets are, if there is one. -/
def text? (bs : Bytes) : Option String := String.fromUTF8? ⟨bs.toArray⟩

@[simp] theorem text?_utf8 (s : String) : text? (utf8 s) = some s := by
  have h : (⟨(utf8 s).toArray⟩ : ByteArray) = s.toByteArray := by simp [utf8]
  rw [text?, h, String.fromUTF8?, dif_pos s.isValidUTF8]
  rfl

theorem utf8_of_text? {bs : Bytes} {s : String} (h : text? bs = some s) : utf8 s = bs := by
  simp only [text?, String.fromUTF8?] at h
  split at h
  · cases h; rfl
  · cases h

theorem utf8_injective {s t : String} (h : utf8 s = utf8 t) : s = t := by
  have := text?_utf8 s
  rw [h, text?_utf8 t] at this
  exact (Option.some.inj this).symm

private def hexDigit (n : Nat) : Char := "0123456789abcdef".toList.getD n '0'

/-- Two lower-case hexadecimal digits per octet. -/
def hex (bs : Bytes) : String :=
  String.ofList (bs.flatMap fun b => [hexDigit (b.toNat / 16), hexDigit (b.toNat % 16)])

private def hexValue (c : Char) : Nat :=
  if c.isDigit then c.toNat - '0'.toNat else c.toLower.toNat - 'a'.toNat + 10

private def ofHexDigits : List Char → Bytes
  | high :: low :: rest => UInt8.ofNat (16 * hexValue high + hexValue low) :: ofHexDigits rest
  | _ => []

/-- The octets that a text of hexadecimal digits writes. -/
def ofHex (s : String) : Bytes := ofHexDigits s.toList

private theorem hexValue_hexDigit {n : Nat} (h : n < 16) : hexValue (hexDigit n) = n := by
  have all : ∀ n : Fin 16, hexValue (hexDigit n) = n := by decide
  exact all ⟨n, h⟩

theorem ofHex_hex (bs : Bytes) : ofHex (hex bs) = bs := by
  simp only [ofHex, hex, String.toList_ofList]
  induction bs with
  | nil => rfl
  | cons b bs ih =>
    have hb := b.toNat_lt
    have high : hexValue (hexDigit (b.toNat / 16)) = b.toNat / 16 := hexValue_hexDigit (by omega)
    have low : hexValue (hexDigit (b.toNat % 16)) = b.toNat % 16 := hexValue_hexDigit (by omega)
    have octet : UInt8.ofNat (16 * (b.toNat / 16) + b.toNat % 16) = b := by
      rw [Nat.div_add_mod, UInt8.ofNat_toNat]
    simp only [List.flatMap_cons, List.cons_append, List.nil_append, ofHexDigits, high, low, octet,
      ih]

private theorem hexDigit_mem (n : Nat) : hexDigit n ∈ "0123456789abcdef".toList := by
  rcases Nat.lt_or_ge n 16 with h | h
  · have all : ∀ n : Fin 16, hexDigit n ∈ "0123456789abcdef".toList := by decide
    exact all ⟨n, h⟩
  · have outside : hexDigit n = '0' := by
      rw [hexDigit, List.getD_eq_getElem?_getD, List.getElem?_eq_none h]
      rfl
    rw [outside]
    decide

theorem mem_hex {bs : Bytes} {c : Char} (h : c ∈ (hex bs).toList) :
    c ∈ "0123456789abcdef".toList := by
  simp only [hex, String.toList_ofList, List.mem_flatMap] at h
  obtain ⟨b, -, h⟩ := h
  rcases List.mem_cons.mp h with rfl | h
  · exact hexDigit_mem _
  · rw [List.mem_singleton.mp h]
    exact hexDigit_mem _

theorem length_hex (bs : Bytes) : (hex bs).toList.length = 2 * bs.length := by
  simp only [hex, String.toList_ofList]
  induction bs with
  | nil => rfl
  | cons b bs ih =>
    rw [List.flatMap_cons, List.length_append, ih, List.length_cons, List.length_cons,
      List.length_cons, List.length_nil]
    omega

theorem hex_injective {as bs : Bytes} (h : hex as = hex bs) : as = bs := by
  rw [← ofHex_hex as, h, ofHex_hex]

end Bytes
end Scriptorium
