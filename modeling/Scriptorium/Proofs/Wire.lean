import Scriptorium.Proofs.Except
import Scriptorium.Wire

/-! Laws of the binary form. A codec restores the values of a domain if what it writes for one of
them is read back whatever follows (`Codec.Restores`). A codec is frugal if no other octets stand
for a value in as little room as the written ones (`Codec.Frugal`): the reader also takes numbers
in a wider form than needed, and each of those is longer. Both properties pass from codecs to their
pairs and views. -/

namespace Scriptorium

theorem Bytes.bound_mono {m n : Nat} (h : m ≤ n) : bound m ≤ bound n := by
  induction h with
  | refl => exact Nat.le_refl _
  | step _ ih => exact Nat.le_trans ih (by simp only [bound]; omega)

theorem Digest.toBytes_of_fromBytes? {bs : Bytes} {d : Digest} (h : fromBytes? bs = some d) :
    d.toBytes = bs := by
  simp only [fromBytes?] at h
  split at h
  · next length =>
    cases h
    have low : (bs.take 8).length = 8 := by rw [List.length_take]; omega
    have high : (bs.drop 8).length = 8 := by rw [List.length_drop]; omega
    have lowBound := Bytes.value_lt (bs.take 8)
    have highBound := Bytes.value_lt (bs.drop 8)
    have lowWord := Bytes.word_value (bs.take 8)
    have highWord := Bytes.word_value (bs.drop 8)
    rw [low] at lowBound lowWord
    rw [high] at highBound highWord
    rw [toBytes, UInt64.toNat_ofNat_of_lt' lowBound, UInt64.toNat_ofNat_of_lt' highBound, lowWord,
      highWord, List.take_append_drop]
  · cases h

namespace Wire

namespace Codec

variable {α β : Type}

/-- What is written for a value of the domain is read back, whatever follows. -/
def Restores (c : Codec α) (domain : α → Prop) : Prop :=
  ∀ ⦃a⦄, domain a → ∀ rest, c.read (c.write a ++ rest) = .ok (a, rest)

/-- What is read takes at least as much room as is needed, and exactly as much only if it is what
would be written. -/
def Frugal (c : Codec α) : Prop :=
  ∀ ⦃bs a rest⦄, c.read bs = .ok (a, rest) → ∃ used, bs = used ++ rest ∧
    (c.write a).length ≤ used.length ∧ (used.length = (c.write a).length → used = c.write a)

theorem Restores.imp {c : Codec α} {p q : α → Prop} (hc : c.Restores q) (h : ∀ a, p a → q a) :
    c.Restores p := fun a ha rest => hc (h a ha) rest

theorem Restores.pair {c : Codec α} {d : Codec β} {p : α → Prop} {q : β → Prop}
    (hc : c.Restores p) (hd : d.Restores q) :
    (c.pair d).Restores fun x => p x.1 ∧ q x.2 := by
  intro x hx rest
  have first : c.read (c.write x.1 ++ (d.write x.2 ++ rest)) = .ok (x.1, d.write x.2 ++ rest) :=
    hc hx.1 _
  have second : d.read (d.write x.2 ++ rest) = .ok (x.2, rest) := hd hx.2 rest
  simp only [Codec.pair, List.append_assoc, first, second, bind, Except.bind]

theorem Restores.view {c : Codec α} {into : α → β} {from_ : β → α} {p : α → Prop}
    (hc : c.Restores p) (back : ∀ b, into (from_ b) = b) :
    (c.view into from_).Restores fun b => p (from_ b) := by
  intro b hb rest
  have read : c.read (c.write (from_ b) ++ rest) = .ok (from_ b, rest) := hc hb rest
  simp only [Codec.view, read, bind, Except.bind, back]

theorem Frugal.pair {c : Codec α} {d : Codec β} (hc : c.Frugal) (hd : d.Frugal) :
    (c.pair d).Frugal := by
  intro bs x rest h
  obtain ⟨⟨a, middle⟩, ha, h⟩ := bind_eq_ok.mp h
  obtain ⟨⟨b, last⟩, hb, h⟩ := bind_eq_ok.mp h
  cases h
  obtain ⟨used, rfl, atLeast, tight⟩ := hc ha
  obtain ⟨used', rfl, atLeast', tight'⟩ := hd hb
  refine ⟨used ++ used', (List.append_assoc ..).symm, ?_, fun same => ?_⟩
  · simp only [Codec.pair, List.length_append]
    omega
  · simp only [Codec.pair, List.length_append] at same ⊢
    rw [tight (by omega), tight' (by omega)]

theorem Frugal.view {c : Codec α} {into : α → β} {from_ : β → α} (hc : c.Frugal)
    (back : ∀ a, from_ (into a) = a) : (c.view into from_).Frugal := by
  intro bs b rest h
  obtain ⟨⟨a, rest'⟩, ha, h⟩ := bind_eq_ok.mp h
  cases h
  simpa only [Codec.view, back] using hc ha

/-- Octets with fewer than a value needs do not stand for it. -/
theorem Frugal.length_le {c : Codec α} (hc : c.Frugal) {bs rest : Bytes} {a : α}
    (h : c.read bs = .ok (a, rest)) : (c.write a).length ≤ bs.length := by
  obtain ⟨used, rfl, atLeast, -⟩ := hc h
  simp only [List.length_append]
  omega

/-- Octets that stand for a value in no more room than it needs are the written ones. -/
theorem Frugal.eq_write {c : Codec α} (hc : c.Frugal) {bs rest : Bytes} {a : α}
    (h : c.read bs = .ok (a, rest)) (short : bs.length ≤ (c.write a).length) : bs = c.write a := by
  obtain ⟨used, rfl, atLeast, tight⟩ := hc h
  simp only [List.length_append] at short
  have none_left : rest = [] := List.length_eq_zero_iff.mp (by omega)
  rw [none_left, List.append_nil, tight (by omega)]

end Codec

/-! ### Octets -/

theorem takeOctets_append {n : Nat} {bs : Bytes} (h : bs.length = n) (rest : Bytes) :
    takeOctets n (bs ++ rest) = .ok (bs, rest) := by
  subst h
  simp [takeOctets]

theorem takeOctets_eq_ok {n : Nat} {bs taken rest : Bytes} :
    takeOctets n bs = .ok (taken, rest) ↔ bs = taken ++ rest ∧ taken.length = n := by
  constructor
  · intro h
    simp only [takeOctets] at h
    split at h
    · cases h
    · next enough =>
      simp only [Except.ok.injEq, Prod.mk.injEq] at h
      obtain ⟨rfl, rfl⟩ := h
      refine ⟨(List.take_append_drop n bs).symm, ?_⟩
      have := List.length_take_le n bs
      omega
  · rintro ⟨rfl, h⟩
    exact takeOctets_append h rest

theorem fixed_restores (n : Nat) : (fixed n).Restores fun bs => bs.length = n :=
  fun _ h rest => takeOctets_append h rest

theorem fixed_frugal (n : Nat) : (fixed n).Frugal := by
  intro bs taken rest h
  obtain ⟨rfl, -⟩ := takeOctets_eq_ok.mp h
  exact ⟨taken, rfl, Nat.le_refl _, fun _ => rfl⟩

/-! ### Numbers -/

/-- How many octets follow the marker of a wide number. -/
private theorem readNumber_wide {widest width n : Nat} {marker : UInt8} {rest : Bytes}
    (large : ¬ marker ≤ 250)
    (hw : (if marker = 251 then 2 else if marker = 252 then 4 else if marker = 253 then 8 else 16) =
      width)
    (fits : width ≤ widest) (hn : n < Bytes.bound width) :
    readNumber widest (marker :: (Bytes.word width n ++ rest)) = .ok (n, rest) := by
  have digits : takeOctets width (Bytes.word width n ++ rest) = .ok (Bytes.word width n, rest) :=
    takeOctets_append (Bytes.length_word width n) rest
  have narrow : ¬ widest < width := by omega
  simp only [readNumber, if_neg large, hw, if_neg narrow, digits, bind, Except.bind,
    Bytes.value_word hn]

theorem readNumber_writeNumber {widest n : Nat} (four : 4 ≤ widest)
    (fits : n < Bytes.bound 4 ∨ 8 ≤ widest) (hn : n < Bytes.bound 8) (rest : Bytes) :
    readNumber widest (writeNumber n ++ rest) = .ok (n, rest) := by
  simp only [writeNumber]
  split
  · next small =>
    have octet : (UInt8.ofNat n).toNat = n := by rw [UInt8.toNat_ofNat']; omega
    have le : UInt8.ofNat n ≤ 250 := by rw [UInt8.le_iff_toNat_le, octet]; exact small
    simp only [List.cons_append, List.nil_append, readNumber, if_pos le, octet]
  · split
    · next two => exact readNumber_wide (by decide) rfl (by omega) two
    · split
      · next lt => exact readNumber_wide (by decide) rfl four lt
      · next ge => exact readNumber_wide (by decide) rfl (fits.resolve_left ge) hn

/-- A number is read from the octet that it is or from the digits behind a marker. -/
theorem readNumber_eq_ok {widest n : Nat} {bs rest : Bytes}
    (h : readNumber widest bs = .ok (n, rest)) :
    (∃ b : UInt8, b ≤ 250 ∧ bs = b :: rest ∧ n = b.toNat) ∨
      ∃ marker digits, bs = marker :: (digits ++ rest) ∧ digits.length ≤ widest ∧
        (marker = 251 ∧ digits.length = 2 ∨ marker = 252 ∧ digits.length = 4 ∨
          marker = 253 ∧ digits.length = 8 ∨ digits.length = 16) ∧ n = Bytes.value digits := by
  cases bs with
  | nil => cases h
  | cons b bs =>
    simp only [readNumber] at h
    split at h
    · next small =>
      cases h
      exact .inl ⟨b, small, rfl, rfl⟩
    · generalize hw : (if b = 251 then 2 else if b = 252 then 4 else if b = 253 then 8 else 16) =
        width at h
      split at h
      · cases h
      · next narrow =>
        obtain ⟨⟨digits, rest'⟩, taken, h⟩ := bind_eq_ok.mp h
        cases h
        obtain ⟨rfl, length⟩ := takeOctets_eq_ok.mp taken
        refine .inr ⟨b, digits, rfl, by omega, ?_, rfl⟩
        grind

theorem readNumber_lt {widest n : Nat} {bs rest : Bytes} (four : 4 ≤ widest)
    (h : readNumber widest bs = .ok (n, rest)) : n < Bytes.bound widest := by
  rcases readNumber_eq_ok h with ⟨b, small, -, rfl⟩ | ⟨marker, digits, -, narrow, -, rfl⟩
  · have octet : b.toNat < Bytes.bound 1 := by simpa [Bytes.bound] using b.toNat_lt
    exact Nat.lt_of_lt_of_le octet (Bytes.bound_mono (by omega))
  · exact Nat.lt_of_lt_of_le (Bytes.value_lt digits) (Bytes.bound_mono narrow)

theorem length_writeNumber (n : Nat) : (writeNumber n).length =
    if n ≤ 250 then 1 else if n < Bytes.bound 2 then 3 else if n < Bytes.bound 4 then 5 else 9 := by
  simp only [writeNumber]
  grind [Bytes.length_word]

theorem length_writeNumber_le (n : Nat) : (writeNumber n).length ≤ 9 := by
  rw [length_writeNumber]
  grind

/-- A number takes no less room than it is written in, and in that room it has no other form. -/
theorem readNumber_frugal {widest n : Nat} {bs rest : Bytes} (eight : widest ≤ 8)
    (h : readNumber widest bs = .ok (n, rest)) : ∃ used, bs = used ++ rest ∧
      (writeNumber n).length ≤ used.length ∧
      (used.length = (writeNumber n).length → used = writeNumber n) := by
  rcases readNumber_eq_ok h with ⟨b, small, rfl, rfl⟩ | ⟨marker, digits, rfl, narrow, form, rfl⟩
  · have le : b.toNat ≤ 250 := UInt8.le_iff_toNat_le.mp small
    refine ⟨[b], rfl, ?_, fun _ => ?_⟩
    · simp [length_writeNumber, le]
    · simp [writeNumber, le]
  · have bound := Bytes.value_lt digits
    refine ⟨marker :: digits, by simp, ?_, fun same => ?_⟩
    · rw [length_writeNumber, List.length_cons]
      rcases form with ⟨-, length⟩ | ⟨-, length⟩ | ⟨-, length⟩ | length
      all_goals
        rw [length] at bound ⊢
        grind
    · rw [length_writeNumber, List.length_cons] at same
      have word := Bytes.word_value digits
      rcases form with ⟨rfl, length⟩ | ⟨rfl, length⟩ | ⟨rfl, length⟩ | length
      all_goals
        rw [length] at bound word same
        simp only [writeNumber]
        grind

theorem word32_restores : word32.Restores fun _ => True := by
  intro n _ rest
  have read : readNumber 4 (writeNumber n.toNat ++ rest) = .ok (n.toNat, rest) :=
    readNumber_writeNumber (Nat.le_refl 4) (.inl n.toNat_lt)
      (Nat.lt_trans n.toNat_lt (by decide)) rest
  simp only [word32, read, bind, Except.bind, UInt32.ofNat_toNat]

theorem word64_restores : word64.Restores fun _ => True := by
  intro n _ rest
  have read : readNumber 8 (writeNumber n.toNat ++ rest) = .ok (n.toNat, rest) :=
    readNumber_writeNumber (by decide) (.inr (Nat.le_refl 8)) n.toNat_lt rest
  simp only [word64, read, bind, Except.bind, UInt64.ofNat_toNat]

theorem word32_frugal : word32.Frugal := by
  intro bs w rest h
  obtain ⟨⟨n, rest'⟩, read, h⟩ := bind_eq_ok.mp h
  cases h
  have same : (UInt32.ofNat n).toNat = n :=
    UInt32.toNat_ofNat_of_lt' (readNumber_lt (by decide) read)
  simpa only [word32, same] using readNumber_frugal (by decide) read

/-! ### Flags, octets with their number, and text -/

theorem flag_restores : flag.Restores fun _ => True := by
  intro b _ rest
  cases b <;> rfl

theorem flag_frugal : flag.Frugal := by
  intro bs b rest h
  cases bs with
  | nil => cases h
  | cons octet bs =>
    simp only [flag] at h
    split at h
    · next zero =>
      cases h
      exact ⟨[octet], rfl, Nat.le_refl _, fun _ => by rw [zero]; rfl⟩
    · split at h
      · next one =>
        cases h
        exact ⟨[octet], rfl, Nat.le_refl _, fun _ => by rw [one]; rfl⟩
      · cases h

theorem bound_memoryLimit {n : Nat} (h : n ≤ memoryLimit) : n < Bytes.bound 8 :=
  Nat.lt_of_le_of_lt h (by decide)

/-- What memory can hold. -/
def Holdable (bs : Bytes) : Prop := bs.length ≤ memoryLimit

instance (bs : Bytes) : Decidable (Holdable bs) := inferInstanceAs (Decidable (_ ≤ _))

theorem readNumber_length {bs : Bytes} (h : Holdable bs) (rest : Bytes) :
    readNumber 8 (writeNumber bs.length ++ rest) = .ok (bs.length, rest) :=
  readNumber_writeNumber (by decide) (.inr (Nat.le_refl 8)) (bound_memoryLimit h) rest

theorem blob_restores : blob.Restores Holdable := by
  intro bs h rest
  simp only [blob, List.append_assoc, readNumber_length h, bind, Except.bind]
  exact takeOctets_append rfl rest

/-- A text is read from its length, which memory can hold, and from the octets that follow. -/
theorem text_read_eq_ok {bs rest : Bytes} {s : String} :
    text.read bs = .ok (s, rest) ↔ ∃ n behind, readNumber 8 bs = .ok (n, behind) ∧
      n ≤ memoryLimit ∧ takeOctets n behind = .ok (Bytes.utf8 s, rest) := by
  constructor
  · intro h
    obtain ⟨⟨n, behind⟩, number, h⟩ := bind_eq_ok.mp h
    dsimp only at h
    split at h
    · cases h
    · next small =>
      obtain ⟨⟨octets, rest'⟩, taken, h⟩ := bind_eq_ok.mp h
      dsimp only at h
      split at h
      · next found =>
        cases h
        exact ⟨n, behind, number, Nat.not_lt.mp small, Bytes.utf8_of_text? found ▸ taken⟩
      · cases h
  · rintro ⟨n, behind, number, small, taken⟩
    simp only [text, number, bind, Except.bind, if_neg (Nat.not_lt.mpr small), taken,
      Bytes.text?_utf8]

theorem text_restores : text.Restores fun s => Holdable (Bytes.utf8 s) := by
  intro s h rest
  refine text_read_eq_ok.mpr ⟨_, Bytes.utf8 s ++ rest, ?_, h, takeOctets_append rfl rest⟩
  simp only [text, blob, List.append_assoc, readNumber_length h]

theorem text_frugal : text.Frugal := by
  intro bs s rest h
  obtain ⟨n, behind, number, -, taken⟩ := text_read_eq_ok.mp h
  obtain ⟨rfl, rfl⟩ := takeOctets_eq_ok.mp taken
  obtain ⟨used, rfl, atLeast, tight⟩ := readNumber_frugal (Nat.le_refl 8) number
  refine ⟨used ++ Bytes.utf8 s, (List.append_assoc ..).symm, ?_, fun same => ?_⟩
  · simp only [text, blob, List.length_append]
    omega
  · simp only [text, blob, List.length_append] at same ⊢
    rw [tight (by omega)]

/-! ### Digests and doubles -/

theorem digest_read_eq_ok {bs rest : Bytes} {d : Digest} :
    digest.read bs = .ok (d, rest) ↔ bs = d.toBytes ++ rest := by
  constructor
  · intro h
    obtain ⟨⟨octets, rest'⟩, taken, decoded⟩ := bind_eq_ok.mp h
    obtain ⟨rfl, -⟩ := takeOctets_eq_ok.mp taken
    dsimp only at decoded
    split at decoded
    · next found =>
      cases decoded
      rw [Digest.toBytes_of_fromBytes? found]
    · cases decoded
  · rintro rfl
    simp only [digest, takeOctets_append d.length_toBytes rest, bind, Except.bind,
      Digest.fromBytes?_toBytes]

theorem digest_restores : digest.Restores fun _ => True :=
  fun _ _ _ => digest_read_eq_ok.mpr rfl

theorem digest_frugal : digest.Frugal := by
  intro bs d rest h
  obtain rfl := digest_read_eq_ok.mp h
  exact ⟨d.toBytes, rfl, Nat.le_refl _, fun _ => rfl⟩

theorem double_restores : double.Restores fun _ => True := by
  intro x _ rest
  have taken : takeOctets 8 (Bytes.word 8 x.bits.toNat ++ rest) =
      .ok (Bytes.word 8 x.bits.toNat, rest) := takeOctets_append (Bytes.length_word ..) rest
  have value : Bytes.value (Bytes.word 8 x.bits.toNat) = x.bits.toNat :=
    Bytes.value_word x.bits.toNat_lt
  simp only [double, taken, value, bind, Except.bind, UInt64.ofNat_toNat]

/-! ### Lists -/

theorem readMany_restores {α : Type} {c : Codec α} {p : α → Prop} (hc : c.Restores p)
    {as : List α} (h : ∀ a ∈ as, p a) (read : List α) (rest : Bytes) :
    readMany c read as.length (as.flatMap c.write ++ rest) = .ok (read.reverse ++ as, rest) := by
  induction as generalizing read with
  | nil => simp [readMany]
  | cons a as ih =>
    have first : c.read (c.write a ++ (as.flatMap c.write ++ rest)) =
        .ok (a, as.flatMap c.write ++ rest) := hc (h a List.mem_cons_self) _
    simp only [List.length_cons, readMany, List.flatMap_cons, List.append_assoc, first,
      ih fun x hx => h x (List.mem_cons_of_mem a hx)]
    simp

theorem list_restores {α : Type} {c : Codec α} {p : α → Prop} (hc : c.Restores p) :
    (list c).Restores fun as => as.length ≤ memoryLimit ∧ ∀ a ∈ as, p a := by
  intro as h rest
  have number : readNumber 8 (writeNumber as.length ++ (as.flatMap c.write ++ rest)) =
      .ok (as.length, as.flatMap c.write ++ rest) :=
    readNumber_writeNumber (by decide) (.inr (Nat.le_refl 8)) (bound_memoryLimit h.1) _
  simp only [list, List.append_assoc, number, bind, Except.bind]
  exact readMany_restores hc h.2 [] rest

/-! ### What asks for too much memory -/

/-- Whatever is read, no more memory is asked for than there can be. -/
def Codec.Moderate {α : Type} (c : Codec α) : Prop := ∀ bs, c.read bs ≠ .error .oversized

theorem Codec.pair_read_eq_error {α β : Type} {c : Codec α} {d : Codec β} {bs : Bytes} {e : Error} :
    (c.pair d).read bs = .error e ↔ c.read bs = .error e ∨
      ∃ a rest, c.read bs = .ok (a, rest) ∧ d.read rest = .error e := by
  simp only [Codec.pair, bind_eq_error, Prod.exists, reduceCtorEq, and_false, exists_false,
    or_false]

theorem Codec.view_read_eq_error {α β : Type} {c : Codec α} {into : α → β} {from_ : β → α}
    {bs : Bytes} {e : Error} : (c.view into from_).read bs = .error e ↔ c.read bs = .error e := by
  simp only [Codec.view, bind_eq_error, reduceCtorEq, and_false, exists_false, or_false]

theorem Codec.Moderate.pair {α β : Type} {c : Codec α} {d : Codec β} (hc : c.Moderate)
    (hd : d.Moderate) : (c.pair d).Moderate := by
  intro bs h
  rcases Codec.pair_read_eq_error.mp h with h | ⟨a, rest, -, h⟩
  · exact hc bs h
  · exact hd rest h

theorem takeOctets_ne_oversized (n : Nat) (bs : Bytes) : takeOctets n bs ≠ .error .oversized := by
  intro h
  simp only [takeOctets] at h
  split at h <;> cases h

theorem readNumber_ne_oversized (widest : Nat) (bs : Bytes) :
    readNumber widest bs ≠ .error .oversized := by
  intro h
  cases bs with
  | nil => cases h
  | cons b bs =>
    simp only [readNumber] at h
    generalize (if b = 251 then 2 else if b = 252 then 4 else if b = 253 then 8 else 16) =
      width at h
    split at h
    · cases h
    · split at h
      · cases h
      · rcases bind_eq_error.mp h with h | ⟨_, -, h⟩
        · exact takeOctets_ne_oversized _ _ h
        · cases h

theorem fixed_moderate (n : Nat) : (fixed n).Moderate := takeOctets_ne_oversized n

theorem word32_moderate : word32.Moderate := by
  intro bs h
  rcases bind_eq_error.mp h with h | ⟨_, -, h⟩
  · exact readNumber_ne_oversized 4 bs h
  · cases h

theorem flag_moderate : flag.Moderate := by
  intro bs h
  cases bs with
  | nil => cases h
  | cons b bs =>
    simp only [flag] at h
    split at h
    · cases h
    · split at h <;> cases h

theorem digest_moderate : digest.Moderate := by
  intro bs h
  rcases bind_eq_error.mp h with h | ⟨_, -, h⟩
  · exact takeOctets_ne_oversized 16 bs h
  · dsimp only at h
    split at h <;> cases h

/-- A text asks for too much memory exactly if it is said to be longer than memory can hold. -/
theorem text_read_eq_oversized {bs : Bytes} : text.read bs = .error .oversized ↔
    ∃ n rest, readNumber 8 bs = .ok (n, rest) ∧ memoryLimit < n := by
  constructor
  · intro h
    rcases bind_eq_error.mp h with h | ⟨⟨n, rest⟩, number, h⟩
    · exact absurd h (readNumber_ne_oversized 8 bs)
    · dsimp only at h
      split at h
      · next large => exact ⟨n, rest, number, large⟩
      · rcases bind_eq_error.mp h with h | ⟨_, -, h⟩
        · exact absurd h (takeOctets_ne_oversized n rest)
        · split at h <;> cases h
  · rintro ⟨n, rest, number, large⟩
    simp only [text, number, bind, Except.bind, if_pos large]

end Wire
end Scriptorium
