import Scriptorium.Record.Key

/-! What a digest identifies. The stream that is digested for a list of fields determines the
fields (`Digest.framing_injective`), so that sources with one identity, and records with one name,
are the same unless two different streams have one digest. -/

namespace Scriptorium

namespace Digest

/-- No two different strings of octets among these have the same digest. -/
def CollisionFree (streams : List Bytes) : Prop :=
  ∀ x ∈ streams, ∀ y ∈ streams, ofBytes x = ofBytes y → x = y

instance (streams : List Bytes) : Decidable (CollisionFree streams) :=
  inferInstanceAs (Decidable (∀ x ∈ streams, ∀ y ∈ streams, _ → _))

theorem CollisionFree.mono {streams more : List Bytes} (h : CollisionFree more)
    (sub : ∀ x ∈ streams, x ∈ more) : CollisionFree streams :=
  fun x hx y hy => h x (sub x hx) y (sub y hy)

theorem toBytes_injective {d e : Digest} (h : d.toBytes = e.toBytes) : d = e := by
  have read := fromBytes?_toBytes d
  rw [h, fromBytes?_toBytes] at read
  exact (Option.some.inj read).symm

theorem display_injective {d e : Digest} (h : d.display = e.display) : d = e :=
  toBytes_injective (Bytes.hex_injective h)

theorem length_display (d : Digest) : d.display.toList.length = 32 := by
  rw [display, Bytes.length_hex, length_toBytes]

theorem framing_cons (field : Bytes) (fields : List Bytes) :
    framing (field :: fields) = Bytes.word 8 field.length ++ (field ++ framing fields) := by
  rw [framing, List.flatMap_cons, List.append_assoc]
  rfl

theorem framing_ne_nil (field : Bytes) (fields : List Bytes) : framing (field :: fields) ≠ [] := by
  intro h
  have length := congrArg List.length h
  rw [framing_cons, List.length_append, Bytes.length_word, List.length_nil] at length
  omega

/-- Fields that are no longer than eight octets can say can be told apart in the stream. -/
theorem framing_injective {fields others : List Bytes}
    (short : ∀ f ∈ fields, f.length < Bytes.bound 8)
    (short' : ∀ f ∈ others, f.length < Bytes.bound 8) (h : framing fields = framing others) :
    fields = others := by
  induction fields generalizing others with
  | nil =>
    cases others with
    | nil => rfl
    | cons g others => exact absurd h.symm (framing_ne_nil g others)
  | cons f fields ih =>
    cases others with
    | nil => exact absurd h (framing_ne_nil f fields)
    | cons g others =>
      rw [framing_cons, framing_cons] at h
      obtain ⟨words, bodies⟩ := List.append_inj h (by simp)
      have lengths := congrArg Bytes.value words
      rw [Bytes.value_word (short f List.mem_cons_self),
        Bytes.value_word (short' g List.mem_cons_self)] at lengths
      obtain ⟨rfl, tails⟩ := List.append_inj bodies lengths
      rw [ih (fun x hx => short x (List.mem_cons_of_mem f hx))
        (fun x hx => short' x (List.mem_cons_of_mem f hx)) tails]

end Digest

/-! ### Sources -/

namespace Source

/-- What is digested to identify a source. -/
def stream (s : Source) : Bytes := Digest.framing (Fingerprint.identityFields s.text s.origin)

/-- Text and origin have lengths that eight octets can say. -/
def Short (s : Source) : Prop :=
  (Bytes.utf8 s.text).length < Bytes.bound 8 ∧ (Bytes.utf8 s.origin).length < Bytes.bound 8

instance (s : Source) : Decidable s.Short := inferInstanceAs (Decidable (_ ∧ _))

theorem stream_injective {s t : Source} (hs : s.Short) (ht : t.Short) (h : s.stream = t.stream) :
    s.text = t.text ∧ s.origin = t.origin := by
  have fields := Digest.framing_injective (by simpa [Fingerprint.identityFields, Short] using hs)
    (by simpa [Fingerprint.identityFields, Short] using ht) h
  simp only [Fingerprint.identityFields, List.cons.injEq, and_true] at fields
  exact ⟨Bytes.utf8_injective fields.1, Bytes.utf8_injective fields.2⟩

end Source

/-! ### Names of records -/

namespace RecordKey

/-- What is digested to name a record. -/
def stream (version : String) (profile : Profile) (source : SourceKey) : Bytes :=
  Digest.framing (fields source version profile)

/-- A name is its kind and the digest of the stream. -/
theorem derive_injective {kind kind' version version' : String} {profile profile' : Profile}
    {source source' : SourceKey}
    (h : derive kind source version profile = derive kind' source' version' profile') :
    kind = kind' ∧
      Digest.ofBytes (stream version profile source) =
        Digest.ofBytes (stream version' profile' source') := by
  have texts := congrArg String.toList (RecordKey.mk.inj h)
  simp only [String.toList_append, List.append_assoc] at texts
  obtain ⟨kinds, digests⟩ := List.append_inj' texts (by simp [Digest.length_display])
  exact ⟨String.toList_inj.mp kinds,
    Digest.display_injective (String.toList_inj.mp (List.append_cancel_left digests))⟩

theorem stream_injective {version version' : String} {profile profile' : Profile}
    {source source' : SourceKey} (short : (Bytes.utf8 version).length < Bytes.bound 8)
    (short' : (Bytes.utf8 version').length < Bytes.bound 8)
    (h : stream version profile source = stream version' profile' source') :
    version = version' ∧ profile = profile' ∧ source = source' := by
  have bounded : ∀ (v : String) (p : Profile) (s : SourceKey),
      (Bytes.utf8 v).length < Bytes.bound 8 → ∀ f ∈ fields s v p, f.length < Bytes.bound 8 := by
    intro v p s hv
    have tag : (Bytes.utf8 p.tag).length < Bytes.bound 8 := by cases p <;> decide
    simp only [fields, List.forall_mem_cons, Digest.length_toBytes, List.length_singleton]
    exact ⟨by decide, by decide, hv, tag, fun _ h => nomatch h⟩
  have same := Digest.framing_injective (bounded _ _ _ short) (bounded _ _ _ short') h
  simp only [fields, List.cons.injEq, and_true] at same
  obtain ⟨identity, strict, versions, tags⟩ := same
  refine ⟨Bytes.utf8_injective versions, Profile.tag_injective (Bytes.utf8_injective tags), ?_⟩
  obtain ⟨d, b⟩ := source
  obtain ⟨d', b'⟩ := source'
  obtain rfl := Digest.toBytes_injective identity
  cases b <;> cases b' <;> first | rfl | cases strict

end RecordKey
end Scriptorium
