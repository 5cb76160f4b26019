/-
Base64 there and back. What is written for some bytes is read as these bytes,
with all of its padding, a part of it or none (`decode_of_encode`). A text is only
read if what stands before its padding is of the alphabet and is not one character
more than a multiple of four (`beforePadding_of_decode`). An ASCII text that is
not read is a fault that a component answers for.
-/
import Mathlib.Data.List.DropRight
import PageTemplate.Component.Fault
import PageTemplate.Proofs.Result

namespace PageTemplate.Base64

/-! ## The alphabet -/

theorem value?_character {v : Nat} (h : v < 64) : value? (character v) = some v := by
  have hall : ∀ v < 64, value? (character v) = some v := by decide +kernel
  exact hall v h

theorem character_ne_equals {v : Nat} (h : v < 64) : character v ≠ '=' := by
  intro heq
  have hvalue := value?_character h
  rw [heq] at hvalue
  cases hvalue

theorem toNat_of_value? {c : Char} {v : Nat} (h : value? c = some v) : c.toNat < 128 := by
  unfold value? at h
  simp only [Bool.and_eq_true, decide_eq_true_eq] at h
  split at h
  · rename_i hletter
    exact Nat.lt_of_le_of_lt hletter.2 (by decide)
  · split at h
    · rename_i hletter
      exact Nat.lt_of_le_of_lt hletter.2 (by decide)
    · split at h
      · rename_i hdigit
        exact Nat.lt_of_le_of_lt hdigit.2 (by decide)
      · split at h
        · rename_i hsign
          rw [hsign]
          decide
        · split at h
          · rename_i hsign
            rw [hsign]
            decide
          · cases h

theorem mem_alphabet_of_value? {c : Char} {v : Nat} (h : value? c = some v) : c ∈ alphabet := by
  have hall : ∀ n < 128, (value? (Char.ofNat n)).isSome = true → Char.ofNat n ∈ alphabet := by decide +kernel
  have hmem := hall c.toNat (toNat_of_value? h)
  rw [Char.ofNat_toNat] at hmem
  exact hmem (by rw [h]; rfl)

/-! ## What is written -/

/-- The values of six bits each that some bytes have. -/
def sextets : List UInt8 → List Nat
  | [] => []
  | [a] => [a.toNat / 4, a.toNat % 4 * 16]
  | [a, b] => [a.toNat / 4, a.toNat % 4 * 16 + b.toNat / 16, b.toNat % 16 * 4]
  | a :: b :: c :: rest =>
    a.toNat / 4 :: (a.toNat % 4 * 16 + b.toNat / 16) :: (b.toNat % 16 * 4 + c.toNat / 64) ::
      c.toNat % 64 :: sextets rest

theorem sextets_lt (bytes : List UInt8) : ∀ v ∈ sextets bytes, v < 64 := by
  fun_induction sextets bytes with
  | case1 => simp
  | case2 a =>
    have := a.toNat_lt
    simp only [List.forall_mem_cons]
    refine ⟨by omega, by omega, by simp⟩
  | case3 a b =>
    have := a.toNat_lt
    have := b.toNat_lt
    simp only [List.forall_mem_cons]
    refine ⟨by omega, by omega, by omega, by simp⟩
  | case4 a b c rest ih =>
    have := a.toNat_lt
    have := b.toNat_lt
    have := c.toNat_lt
    simp only [List.forall_mem_cons]
    exact ⟨by omega, by omega, by omega, by omega, ih⟩

theorem sextets_length (bytes : List UInt8) : (sextets bytes).length % 4 ≠ 1 := by
  fun_induction sextets bytes with
  | case1 => decide
  | case2 a | case3 a b => simp
  | case4 a b c rest ih =>
    simp only [List.length_cons]
    omega

theorem ofNat_eq {a : UInt8} {n : Nat} (h : n = a.toNat) : UInt8.ofNat n = a := by rw [h, UInt8.ofNat_toNat]

/-- The values of some bytes write these bytes. -/
theorem bytesOf_sextets (bytes : List UInt8) : bytesOf (sextets bytes) = bytes := by
  fun_induction sextets bytes with
  | case1 => rfl
  | case2 a =>
    have hfirst : UInt8.ofNat (a.toNat / 4 * 4 + a.toNat % 4 * 16 / 16) = a := ofNat_eq (by omega)
    rw [bytesOf, hfirst]
  | case3 a b =>
    have hb := b.toNat_lt
    have hfirst : UInt8.ofNat (a.toNat / 4 * 4 + (a.toNat % 4 * 16 + b.toNat / 16) / 16) = a := ofNat_eq (by omega)
    have hsecond : UInt8.ofNat ((a.toNat % 4 * 16 + b.toNat / 16) % 16 * 16 + b.toNat % 16 * 4 / 4) = b :=
      ofNat_eq (by omega)
    rw [bytesOf, hfirst, hsecond]
  | case4 a b c rest ih =>
    have hb := b.toNat_lt
    have hc := c.toNat_lt
    have hfirst : UInt8.ofNat (a.toNat / 4 * 4 + (a.toNat % 4 * 16 + b.toNat / 16) / 16) = a := ofNat_eq (by omega)
    have hsecond : UInt8.ofNat ((a.toNat % 4 * 16 + b.toNat / 16) % 16 * 16 +
        (b.toNat % 16 * 4 + c.toNat / 64) / 4) = b := ofNat_eq (by omega)
    have hthird : UInt8.ofNat ((b.toNat % 16 * 4 + c.toNat / 64) % 4 * 64 + c.toNat % 64) = c := ofNat_eq (by omega)
    rw [bytesOf, hfirst, hsecond, hthird, ih]

theorem encode_eq (bytes : List UInt8) :
    encode bytes = (sextets bytes).map character ++ paddingFor (sextets bytes).length := by
  fun_induction sextets bytes with
  | case1 | case2 | case3 => rfl
  | case4 a b c rest ih =>
    have hpadding : paddingFor ((sextets rest).length + 4) = paddingFor (sextets rest).length := by
      unfold paddingFor
      rw [Nat.add_mod_right]
    simp only [encode, ih, List.length_cons, List.map_cons, List.cons_append, hpadding]

/-- Characters of the alphabet are read as their values, before whatever follows them. -/
theorem readValues_characters {vs : List Nat} (h : ∀ v ∈ vs, v < 64) (count : Nat) (rest : List Char) :
    readValues count 0 false (vs.map character ++ rest) =
      (readValues (count + vs.length) 0 false rest).map (vs ++ ·) := by
  induction vs generalizing count with
  | nil =>
    simp only [List.map_nil, List.nil_append, List.length_nil, Nat.add_zero]
    cases readValues count 0 false rest <;> rfl
  | cons v vs ih =>
    obtain ⟨hv, hvs⟩ := List.forall_mem_cons.1 h
    rw [List.map_cons, List.cons_append, readValues, if_neg (character_ne_equals hv), value?_character hv]
    simp only [Bool.false_eq_true, if_false]
    rw [ih hvs, List.length_cons, Nat.add_assoc, Nat.add_comm 1]
    cases readValues (count + (vs.length + 1)) 0 false rest <;> rfl

/-- The padding that a number of characters lacks ends the text. -/
theorem readValues_padding {count : Nat} (h : count % 4 ≠ 1) :
    readValues count 0 false (paddingFor count) = .ok [] := by
  have hcases : count % 4 = 0 ∨ count % 4 = 2 ∨ count % 4 = 3 := by omega
  rcases hcases with hrest | hrest | hrest <;> simp [paddingFor, hrest, readValues, atEnd, Except.map]

theorem head?_encode (bytes : List UInt8) : (encode bytes).head? ≠ some '=' := by
  have hfirst : ∀ a : UInt8, character (a.toNat / 4) ≠ '=' := fun a => by
    have ha := a.toNat_lt
    exact character_ne_equals (by omega)
  fun_cases encode bytes <;> simp [hfirst]

/-- What is written for some bytes is read as these bytes. -/
theorem decodePadded_encode (bytes : List UInt8) : decodePadded (encode bytes) = .ok bytes := by
  rw [decodePadded, if_neg (head?_encode bytes), encode_eq, readValues_characters (sextets_lt bytes), Nat.zero_add,
    readValues_padding (sextets_length bytes)]
  simp only [Except.map, List.append_nil, bytesOf_sextets]

/-! ## With all padding or less -/

theorem toNat_of_mem_encode {bytes : List UInt8} {c : Char} (h : c ∈ encode bytes) : c.toNat < 128 := by
  rw [encode_eq] at h
  rcases List.mem_append.1 h with h | h
  · obtain ⟨v, hv, rfl⟩ := List.mem_map.1 h
    exact toNat_of_value? (value?_character (sextets_lt bytes v hv))
  · rw [List.eq_of_mem_replicate h]
    decide

/-- Letters with padding behind them, some of which is taken away, are these letters with less padding. -/
theorem eq_append_of_append_eq {letters kept : List Char} {count taken : Nat} (h : '=' ∉ letters)
    (heq : kept ++ List.replicate taken '=' = letters ++ List.replicate count '=') :
    taken ≤ count ∧ kept = letters ++ List.replicate (count - taken) '=' := by
  rcases List.append_eq_append_iff.1 heq with ⟨more, rfl, hmore⟩ | ⟨left, rfl, hleft⟩
  · obtain ⟨hlength, hequals, -⟩ := List.replicate_eq_append_iff.1 hmore
    -- Whatever is not kept of the letters would be equals signs among them.
    have hnone : more.length = 0 := by
      by_contra hsome
      refine h (List.mem_append_right kept ?_)
      rw [hequals]
      exact List.mem_replicate.2 ⟨hsome, rfl⟩
    rw [hnone, List.length_replicate] at hlength
    obtain rfl := List.length_eq_zero_iff.1 hnone
    refine ⟨by omega, ?_⟩
    rw [show count - taken = 0 by omega, List.replicate_zero, List.append_nil, List.append_nil]
  · obtain ⟨hlength, hequals, -⟩ := List.replicate_eq_append_iff.1 hleft
    rw [List.length_replicate] at hlength
    refine ⟨by omega, ?_⟩
    rw [show count - taken = left.length by omega, ← hequals]

/-- What is written for some bytes, with its last equals signs or without some of them, is read as these
bytes. -/
theorem decode_of_encode {bytes : List UInt8} {kept : List Char} {taken : Nat}
    (h : kept ++ List.replicate taken '=' = encode bytes) : decode (String.ofList kept) = .ok bytes := by
  have hletters : '=' ∉ (sextets bytes).map character := by
    intro hmem
    obtain ⟨v, hv, heq⟩ := List.mem_map.1 hmem
    exact character_ne_equals (sextets_lt bytes v hv) heq
  have hpadded : kept ++ paddingFor kept.length = encode bytes := by
    rw [encode_eq, paddingFor] at h
    obtain ⟨hle, hkept⟩ := eq_append_of_append_eq hletters h
    have hlength : kept.length = (sextets bytes).length + ((4 - (sextets bytes).length % 4) % 4 - taken) := by
      simp [hkept]
    have htaken : (4 - kept.length % 4) % 4 = taken := by omega
    rw [paddingFor, htaken, h, encode_eq, paddingFor]
  unfold decode
  simp only [String.toList_ofList, hpadded]
  rw [if_pos (List.all_eq_true.2 fun c hc => decide_eq_true (toNat_of_mem_encode hc)), decodePadded_encode]

/-! ## What is not read -/

/-- What stands before the padding of a text. -/
def beforePadding (cs : List Char) : List Char := cs.rdropWhile (· == '=')

theorem beforePadding_append (cs : List Char) (count : Nat) :
    beforePadding (cs ++ List.replicate count '=') = beforePadding cs := by
  induction count with
  | zero => simp
  | succ count ih =>
    rw [List.replicate_succ', ← List.append_assoc, beforePadding, List.rdropWhile_concat_pos _ _ _ (by simp)]
    exact ih

theorem beforePadding_of_not_mem {cs : List Char} (h : '=' ∉ cs) : beforePadding cs = cs := by
  refine List.rdropWhile_eq_self_iff.2 fun hne hlast => h ?_
  rw [← eq_of_beq hlast]
  exact List.getLast_mem hne

/-- Whether a text is some characters of the alphabet with padding behind them. -/
def Padded (letters cs : List Char) : Prop :=
  (∀ c ∈ letters, c ∈ alphabet) ∧ ∃ count, cs = letters ++ List.replicate count '='

theorem Padded.cons_equals {cs : List Char} (h : Padded [] cs) : Padded [] ('=' :: cs) := by
  obtain ⟨-, count, rfl⟩ := h
  exact ⟨by simp, count + 1, rfl⟩

theorem Padded.cons_letter {letters cs : List Char} {c : Char} (h : Padded letters cs) (hc : c ∈ alphabet) :
    Padded (c :: letters) (c :: cs) := by
  obtain ⟨hletters, count, rfl⟩ := h
  exact ⟨List.forall_mem_cons.2 ⟨hc, hletters⟩, count, rfl⟩

/-- A text that is read is characters of the alphabet with padding behind them, no characters if there was
padding before, and in all not one more than a multiple of four. -/
theorem padded_of_readValues {count pads : Nat} {padded : Bool} {cs : List Char} {vs : List Nat}
    (h : readValues count pads padded cs = .ok vs) :
    ∃ letters, Padded letters cs ∧ (padded = true → letters = []) ∧ (count + letters.length) % 4 ≠ 1 := by
  fun_induction readValues count pads padded cs generalizing vs with
  | case1 count pads padded =>
    obtain ⟨_, hend, -⟩ := Except.map_ok_iff.1 h
    unfold atEnd at hend
    split at hend
    · rename_i hwhole
      refine ⟨[], ⟨by simp, 0, rfl⟩, fun _ => rfl, ?_⟩
      rw [List.length_nil]
      omega
    · split at hend <;> cases hend
  | case2 count pads padded rest htwo hfour hrest =>
    rw [List.isEmpty_iff.1 hrest]
    refine ⟨[], ⟨by simp, 1, rfl⟩, fun _ => rfl, ?_⟩
    rw [List.length_nil]
    omega
  | case3 => cases h
  | case4 count pads padded rest htwo hfour ih =>
    obtain ⟨letters, hpadded, hnone, hcount⟩ := ih h
    obtain rfl := hnone rfl
    exact ⟨[], hpadded.cons_equals, fun _ => rfl, hcount⟩
  | case5 count pads padded rest htwo ih =>
    obtain ⟨letters, hpadded, hnone, hcount⟩ := ih h
    obtain rfl := hnone rfl
    exact ⟨[], hpadded.cons_equals, fun _ => rfl, hcount⟩
  | case6 => cases h
  | case7 => cases h
  | case8 count pads padded c rest hc v hv hfresh ih =>
    obtain ⟨vs, hvs, -⟩ := Except.map_ok_iff.1 h
    obtain ⟨letters, hpadded, -, hcount⟩ := ih hvs
    refine ⟨c :: letters, hpadded.cons_letter (mem_alphabet_of_value? hv), fun htrue => absurd htrue hfresh, ?_⟩
    rw [List.length_cons]
    omega

/-- What is read has only characters of the alphabet before its padding, and not one more than a multiple
of four. -/
theorem beforePadding_of_decode {s : String} {bytes : List UInt8} (h : decode s = .ok bytes) :
    (∀ c ∈ beforePadding s.toList, c ∈ alphabet) ∧ (beforePadding s.toList).length % 4 ≠ 1 := by
  unfold decode at h
  simp only at h
  split at h
  · unfold decodePadded at h
    split at h
    · cases h
    · obtain ⟨vs, hvs, -⟩ := Except.map_ok_iff.1 h
      obtain ⟨letters, ⟨hletters, count, hcs⟩, -, hcount⟩ := padded_of_readValues hvs
      have hequals : '=' ∉ letters := fun hmem => absurd (hletters _ hmem) (by decide)
      have hbefore : beforePadding s.toList = letters := by
        rw [← beforePadding_append s.toList ((4 - s.toList.length % 4) % 4), ← paddingFor, hcs, beforePadding_append,
          beforePadding_of_not_mem hequals]
      rw [Nat.zero_add] at hcount
      rw [hbefore]
      exact ⟨hletters, hcount⟩
  · cases h

/-! ## ASCII -/

theorem readValues_ne_notAscii : ∀ (cs : List Char) (count pads : Nat) (padded : Bool),
    readValues count pads padded cs ≠ .error .notAscii
  | [], count, pads, padded => by
    unfold readValues atEnd
    intro h
    split at h
    · cases h
    · split at h <;> cases h
  | c :: cs, count, pads, padded => by
    intro h
    unfold readValues at h
    split at h
    · split at h
      · split at h
        · split at h <;> cases h
        · exact readValues_ne_notAscii cs _ _ _ h
      · exact readValues_ne_notAscii cs _ _ _ h
    · split at h
      · cases h
      · split at h
        · cases h
        · exact readValues_ne_notAscii cs _ _ _ (Except.map_error_iff.1 h)

/-- Text is refused for not being ASCII just if some character of it is not. -/
theorem decode_notAscii_iff {s : String} :
    decode s = .error .notAscii ↔ ∃ c ∈ s.toList, 128 ≤ c.toNat := by
  have hpadding : ∀ c ∈ paddingFor s.toList.length, c.toNat < 128 := by
    intro c hc
    rw [List.eq_of_mem_replicate hc]
    decide
  unfold decode
  simp only
  split
  · rename_i hall
    have hall : ∀ c ∈ s.toList, c.toNat < 128 := by
      intro c hc
      simpa using List.all_eq_true.1 hall c (List.mem_append_left _ hc)
    constructor
    · intro h
      unfold decodePadded at h
      split at h
      · cases h
      · exact absurd (Except.map_error_iff.1 h) (readValues_ne_notAscii _ _ _ _)
    · rintro ⟨c, hc, hlarge⟩
      exact absurd (hall c hc) (by omega)
  · rename_i hall
    simp only [true_iff]
    by_contra hnone
    refine hall (List.all_eq_true.2 fun c hc => ?_)
    rcases List.mem_append.1 hc with hc | hc
    · have : ¬ 128 ≤ c.toNat := fun h => hnone ⟨c, hc, h⟩
      simpa using this
    · simpa using hpadding c hc

/-- Only what is not ASCII is a fault that no component answers for. -/
theorem component_kind_iff {fault : Fault} : (ComponentFault.base64 fault).kind = .component ↔ fault ≠ .notAscii := by
  cases fault <;> simp [ComponentFault.kind]

/-! ## There and back -/

/-- What is written for some bytes is read as these bytes, whatever part of its padding it still has. An
ASCII text with a character outside the alphabet before its padding, or with one character more than a
multiple of four, is refused, and a component answers for that. -/
theorem decode_inverts_encode :
    (∀ (bytes : List UInt8) (kept : List Char) (taken : Nat), kept ++ List.replicate taken '=' = encode bytes →
      decode (String.ofList kept) = .ok bytes) ∧
    ∀ s : String, (∀ c ∈ s.toList, c.toNat < 128) →
      (beforePadding s.toList).length % 4 = 1 ∨ (∃ c ∈ beforePadding s.toList, c ∉ alphabet) →
        ∃ fault, decode s = .error fault ∧ (ComponentFault.base64 fault).kind = .component := by
  refine ⟨fun bytes kept taken => decode_of_encode, fun s hascii hwrong => ?_⟩
  cases hdecode : decode s with
  | ok bytes =>
    obtain ⟨hletters, hcount⟩ := beforePadding_of_decode hdecode
    rcases hwrong with hlone | ⟨c, hc, hforeign⟩
    · exact absurd hlone hcount
    · exact absurd (hletters c hc) hforeign
  | error fault =>
    refine ⟨fault, rfl, component_kind_iff.2 ?_⟩
    rintro rfl
    obtain ⟨c, hc, hlarge⟩ := decode_notAscii_iff.1 hdecode
    have hsmall := hascii c hc
    omega

/-! The text of one byte is `TQ==`. -/

theorem decode_inverts_encode_letter :
    encode [77] = ['T', 'Q', '=', '='] ∧ decode "TQ=" = .ok [77] ∧ decode "TQ" = .ok [77] ∧
      (∃ fault, decode "TQ==T" = .error fault ∧ (ComponentFault.base64 fault).kind = .component) ∧
      ∃ fault, decode "T-Q=" = .error fault ∧ (ComponentFault.base64 fault).kind = .component := by
  obtain ⟨hread, hrefused⟩ := decode_inverts_encode
  refine ⟨by decide +kernel, hread [77] ['T', 'Q', '='] 1 (by decide +kernel),
    hread [77] ['T', 'Q'] 2 (by decide +kernel), hrefused "TQ==T" (by simp) (.inl (by decide +kernel)),
    hrefused "T-Q=" (by simp) (.inr ⟨'-', by decide +kernel, by decide +kernel⟩)⟩

end PageTemplate.Base64
