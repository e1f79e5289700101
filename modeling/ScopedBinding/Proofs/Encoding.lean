import ScopedBinding.Text.Utf8

/-!
# Decoding against encoding

The decoder reads what the encoding of a character writes, and nothing else, as that character
(`Text.spells_iff`). So it gives back every text (`Text.decodeLossy_encode`), and bytes that are not
the encoding of a text show a replacement character (`Text.encode_decodeLossy`): an overlong form, a
surrogate or a piece of a character is never read as some other text.
-/

set_option autoImplicit false

namespace ScopedBinding.Text

/-- The announcements, by the number of bytes that follow. Of three bytes and of four, the first
announcement excludes the overlong forms; surrogates and what is beyond `10FFFF` are excluded too. -/
theorem lead?_eq_some_iff {b : Nat} {l : Lead} :
    lead? b = some l ↔
      (b ≤ 0x7F ∧ l = ⟨b, 0, 0, 0⟩) ∨
      (0xC2 ≤ b ∧ b ≤ 0xDF ∧ l = ⟨b - 0xC0, 1, 0x80, 0xBF⟩) ∨
      (0xE0 ≤ b ∧ b ≤ 0xEF ∧ l = ⟨b - 0xE0, 2, if b = 0xE0 then 0xA0 else 0x80,
        if b = 0xED then 0x9F else 0xBF⟩) ∨
      (0xF0 ≤ b ∧ b ≤ 0xF4 ∧ l = ⟨b - 0xF0, 3, if b = 0xF0 then 0x90 else 0x80,
        if b = 0xF4 then 0x8F else 0xBF⟩) := by
  unfold lead?
  grind

/-- The bytes that finish a character of which `l` says what is still owed. -/
inductive Finishes : Lead → List UInt8 → Char → Prop where
  | last {l : Lead} {b : UInt8} (hb : l.low ≤ b.toNat ∧ b.toNat ≤ l.high) (hl : l.following = 1) :
      Finishes l [b] (Char.ofNat (l.bits * 64 + (b.toNat - 0x80)))
  | more {l : Lead} {b : UInt8} {rest : List UInt8} {c : Char}
      (hb : l.low ≤ b.toNat ∧ b.toNat ≤ l.high) (hl : l.following ≠ 1)
      (hrest : Finishes ⟨l.bits * 64 + (b.toNat - 0x80), l.following - 1, 0x80, 0xBF⟩ rest c) :
      Finishes l (b :: rest) c

/-- The bytes that are read as one character. -/
inductive Spells : List UInt8 → Char → Prop where
  | single {b : UInt8} {l : Lead} (hb : lead? b.toNat = some l) (hl : l.following = 0) :
      Spells [b] (Char.ofNat l.bits)
  | longer {b : UInt8} {l : Lead} {rest : List UInt8} {c : Char} (hb : lead? b.toNat = some l)
      (hl : l.following ≠ 0) (hrest : Finishes l rest c) :
      Spells (b :: rest) c

section Reading

variable {l : Lead} {bytes : List UInt8} {c : Char}

/-- Bytes that finish a character are decoded to it. -/
theorem decodeFrom_finishes (h : Finishes l bytes c) (more : List UInt8) :
    decodeFrom (some l) (bytes ++ more) = c :: decodeFrom none more := by
  induction h with
  | last hb hl => simp [decodeFrom, advance, hb, hl]
  | more hb hl hrest ih => simp [decodeFrom, advance, hb, hl, ih]

/-- Bytes that spell a character are decoded to it. -/
theorem decodeFrom_spells (h : Spells bytes c) (more : List UInt8) :
    decodeFrom none (bytes ++ more) = c :: decodeFrom none more := by
  cases h with
  | single hb hl => simp [decodeFrom, advance, start, hb, hl]
  | longer hb hl hrest => simp [decodeFrom, advance, start, hb, hl, decodeFrom_finishes hrest]

/-- Bytes after an unfinished character finish it, unless a replacement character is read. -/
theorem finishes_of_not_mem (h : replacement ∉ decodeFrom (some l) bytes) :
    ∃ read rest c, bytes = read ++ rest ∧ Finishes l read c := by
  induction bytes generalizing l with
  | nil => simp [decodeFrom] at h
  | cons b bytes ih =>
    by_cases hb : l.low ≤ b.toNat ∧ b.toNat ≤ l.high
    · by_cases hl : l.following = 1
      · exact ⟨[b], bytes, _, rfl, .last hb hl⟩
      · simp only [decodeFrom, advance, hb, hl, if_true, if_false, and_self, List.nil_append] at h
        obtain ⟨read, rest, c, rfl, hread⟩ := ih h
        exact ⟨b :: read, rest, c, rfl, .more hb hl hread⟩
    · simp [decodeFrom, advance, hb] at h

/-- Bytes begin with those of a character, unless a replacement character is read. -/
theorem spells_of_not_mem {b : UInt8} (h : replacement ∉ decodeFrom none (b :: bytes)) :
    ∃ read rest c, b :: bytes = read ++ rest ∧ Spells read c := by
  cases hb : lead? b.toNat with
  | none => simp [decodeFrom, advance, start, hb] at h
  | some l =>
    by_cases hl : l.following = 0
    · exact ⟨[b], bytes, _, rfl, .single hb hl⟩
    · simp only [decodeFrom, advance, start, hb, hl, if_false, List.nil_append] at h
      obtain ⟨read, rest, c, rfl, hread⟩ := finishes_of_not_mem h
      exact ⟨b :: read, rest, c, rfl, .longer hb hl hread⟩

end Reading

section Bytes

variable {bits low high n : Nat} {bytes : List UInt8} {c : Char}

/-- The last byte of a character. -/
theorem finishes_one_iff : Finishes ⟨bits, 1, low, high⟩ bytes c ↔
    ∃ b, bytes = [b] ∧ (low ≤ b.toNat ∧ b.toNat ≤ high) ∧
      c = Char.ofNat (bits * 64 + (b.toNat - 0x80)) := by
  constructor
  · intro h
    cases h with
    | @last _ b hb _ => exact ⟨b, rfl, hb, rfl⟩
    | more _ hl _ => exact absurd rfl hl
  · rintro ⟨b, rfl, hb, hc⟩
    rw [hc]
    exact .last hb rfl

/-- One of the bytes of a character before the last. -/
theorem finishes_succ_iff : Finishes ⟨bits, n + 2, low, high⟩ bytes c ↔
    ∃ b rest, bytes = b :: rest ∧ (low ≤ b.toNat ∧ b.toNat ≤ high) ∧
      Finishes ⟨bits * 64 + (b.toNat - 0x80), n + 1, 0x80, 0xBF⟩ rest c := by
  constructor
  · intro h
    cases h with
    | last _ hl => simp at hl
    | @more _ b rest _ hb _ hrest => exact ⟨b, rest, rfl, hb, hrest⟩
  · rintro ⟨b, rest, rfl, hb, hrest⟩
    exact .more hb (by simp) hrest

/-- A byte is known by its number. -/
theorem eq_ofNat {b : UInt8} (h : b.toNat = n) : b = UInt8.ofNat n := by
  rw [← h, UInt8.ofNat_toNat]

/-- The number of the character of a number that is no surrogate. -/
theorem val_toNat_ofNat (h : n < 0xD800 ∨ 0xDFFF < n ∧ n < 0x110000) :
    (Char.ofNat n).val.toNat = n := by
  unfold Char.ofNat
  rw [dif_pos h]
  rfl

/-- What is read as a character is its encoding. The ranges of the announcements keep its number above
those that take fewer bytes, and away from the surrogates. -/
theorem eq_of_spells (h : Spells bytes c) : bytes = String.utf8EncodeChar c := by
  cases h with
  | @single b l hb hl =>
    have hb' := lead?_eq_some_iff.1 hb
    have hrange : b.toNat ≤ 0x7F ∧ l.bits = b.toNat := by grind
    have hval : (Char.ofNat l.bits).val.toNat = l.bits := val_toNat_ofNat (by omega)
    unfold String.utf8EncodeChar
    rw [hval, if_pos (by omega), hrange.2, UInt8.ofNat_toNat]
  | @longer b l rest c hb hl hrest =>
    rcases lead?_eq_some_iff.1 hb with ⟨hrange, rfl⟩ | ⟨hlow, hhigh, rfl⟩ | ⟨hlow, hhigh, rfl⟩ |
      ⟨hlow, hhigh, rfl⟩
    · exact absurd rfl hl
    · obtain ⟨b₁, rfl, h₁, hc⟩ := finishes_one_iff.1 hrest
      have hval := val_toNat_ofNat (n := (b.toNat - 0xC0) * 64 + (b₁.toNat - 0x80)) (by omega)
      unfold String.utf8EncodeChar
      rw [hc, hval, if_neg (by omega), if_pos (by omega)]
      simp only [List.cons.injEq, and_true]
      exact ⟨eq_ofNat (by omega), eq_ofNat (by omega)⟩
    · obtain ⟨b₁, _, rfl, h₁, hrest⟩ := finishes_succ_iff.1 hrest
      obtain ⟨b₂, rfl, h₂, hc⟩ := finishes_one_iff.1 hrest
      have hnext : (b.toNat = 0xE0 → 0xA0 ≤ b₁.toNat) ∧ (b.toNat = 0xED → b₁.toNat ≤ 0x9F) ∧
          0x80 ≤ b₁.toNat ∧ b₁.toNat ≤ 0xBF := by grind
      have hval := val_toNat_ofNat
        (n := ((b.toNat - 0xE0) * 64 + (b₁.toNat - 0x80)) * 64 + (b₂.toNat - 0x80)) (by omega)
      unfold String.utf8EncodeChar
      rw [hc, hval, if_neg (by omega), if_neg (by omega), if_pos (by omega)]
      simp only [List.cons.injEq, and_true]
      exact ⟨eq_ofNat (by omega), eq_ofNat (by omega), eq_ofNat (by omega)⟩
    · obtain ⟨b₁, _, rfl, h₁, hrest⟩ := finishes_succ_iff.1 hrest
      obtain ⟨b₂, _, rfl, h₂, hrest⟩ := finishes_succ_iff.1 hrest
      obtain ⟨b₃, rfl, h₃, hc⟩ := finishes_one_iff.1 hrest
      have hnext : (b.toNat = 0xF0 → 0x90 ≤ b₁.toNat) ∧ (b.toNat = 0xF4 → b₁.toNat ≤ 0x8F) ∧
          0x80 ≤ b₁.toNat ∧ b₁.toNat ≤ 0xBF := by grind
      have hval := val_toNat_ofNat (n := (((b.toNat - 0xF0) * 64 + (b₁.toNat - 0x80)) * 64 +
        (b₂.toNat - 0x80)) * 64 + (b₃.toNat - 0x80)) (by omega)
      unfold String.utf8EncodeChar
      rw [hc, hval, if_neg (by omega), if_neg (by omega), if_neg (by omega)]
      simp only [List.cons.injEq, and_true]
      exact ⟨eq_ofNat (by omega), eq_ofNat (by omega), eq_ofNat (by omega), eq_ofNat (by omega)⟩

/-- The encoding of a character is read as the character. -/
theorem spells_encoding (c : Char) : Spells (String.utf8EncodeChar c) c := by
  obtain ⟨v, hv⟩ : ∃ v, c.val.toNat = v := ⟨_, rfl⟩
  have hvalid : v < 0xD800 ∨ 0xDFFF < v ∧ v < 0x110000 := hv ▸ c.valid
  have hc : ∀ {n : Nat}, v = n → c = Char.ofNat n := by
    rintro n rfl
    rw [← hv, Char.toNat_val, Char.ofNat_toNat]
  have hbyte : ∀ n, (UInt8.ofNat n).toNat = n % 256 := fun n => UInt8.toNat_ofNat'
  unfold String.utf8EncodeChar
  rw [hv]
  dsimp only
  split
  · rw [hc (n := (UInt8.ofNat v).toNat) (by rw [hbyte]; omega)]
    refine .single (lead?_eq_some_iff.2 (.inl ⟨?_, rfl⟩)) rfl
    rw [hbyte]
    omega
  split
  · refine .longer (lead?_eq_some_iff.2 (.inr (.inl ⟨?_, ?_, rfl⟩))) (by simp)
      (finishes_one_iff.2 ⟨_, rfl, ⟨?_, ?_⟩, hc ?_⟩)
    all_goals
      simp only [hbyte]
      omega
  split
  · refine .longer (lead?_eq_some_iff.2 (.inr (.inr (.inl ⟨?_, ?_, rfl⟩)))) (by simp)
      (finishes_succ_iff.2 ⟨_, _, rfl, ⟨?_, ?_⟩, finishes_one_iff.2 ⟨_, rfl, ⟨?_, ?_⟩, hc ?_⟩⟩)
    all_goals
      simp only [hbyte]
      try split
      all_goals omega
  · refine .longer (lead?_eq_some_iff.2 (.inr (.inr (.inr ⟨?_, ?_, rfl⟩)))) (by simp)
      (finishes_succ_iff.2 ⟨_, _, rfl, ⟨?_, ?_⟩, finishes_succ_iff.2 ⟨_, _, rfl, ⟨?_, ?_⟩,
        finishes_one_iff.2 ⟨_, rfl, ⟨?_, ?_⟩, hc ?_⟩⟩⟩)
    all_goals
      simp only [hbyte]
      try split
      all_goals omega

/-- A character is read from its encoding and from no other bytes. -/
theorem spells_iff : Spells bytes c ↔ bytes = String.utf8EncodeChar c := by
  constructor
  · exact eq_of_spells
  · rintro rfl
    exact spells_encoding c

end Bytes

/-- The loop that lists the bytes of an array adds those from a position on. -/
theorem toList_loop (bs : ByteArray) (i : Nat) (read : List UInt8) :
    ByteArray.toList.loop bs i read = read.reverse ++ bs.data.toList.drop i := by
  fun_induction ByteArray.toList.loop bs i read with
  | case1 i read hi ih =>
    have hbyte : bs.data.toList.drop i = bs.get! i :: bs.data.toList.drop (i + 1) := by
      have hi' : i < bs.data.toList.length := hi
      rw [List.drop_eq_getElem_cons hi']
      congr 1
      exact (getElem!_pos bs.data i hi).symm
    rw [ih, hbyte, List.reverse_cons, List.append_assoc, List.singleton_append]
  | case2 i read hi =>
    have hend : bs.data.toList.length ≤ i := Nat.le_of_not_lt hi
    rw [List.drop_eq_nil_of_le hend, List.append_nil]

/-- The bytes of a text are those of its characters. -/
theorem encode_eq (s : String) : encode s = s.toList.flatMap String.utf8EncodeChar := by
  unfold encode ByteArray.toList
  rw [toList_loop, String.toUTF8_eq_toByteArray, ← String.utf8Encode_toList, List.utf8Encode,
    List.toList_data_toByteArray]
  rfl

/-- Characters that were encoded are decoded again. -/
theorem decodeFrom_encoding (cs : List Char) (more : List UInt8) :
    decodeFrom none (cs.flatMap String.utf8EncodeChar ++ more) = cs ++ decodeFrom none more := by
  induction cs with
  | nil => rfl
  | cons c cs ih =>
    rw [List.flatMap_cons, List.append_assoc, decodeFrom_spells (spells_encoding c), ih,
      List.cons_append]

/-- A text is read back from its bytes. -/
theorem decodeLossy_encode (s : String) : decodeLossy (encode s) = s := by
  have hread := decodeFrom_encoding s.toList []
  rw [List.append_nil, ← encode_eq] at hread
  unfold decodeLossy
  rw [hread]
  simp [decodeFrom]

/-- Bytes that are read without a replacement character are the bytes of what was read. -/
theorem eq_encoding_of_not_mem (bytes : List UInt8) (h : replacement ∉ decodeFrom none bytes) :
    bytes = (decodeFrom none bytes).flatMap String.utf8EncodeChar := by
  -- By the number of bytes, since each character may take several.
  induction hlength : bytes.length using Nat.strongRecOn generalizing bytes with
  | ind n ih =>
    cases bytes with
    | nil => rfl
    | cons b bytes =>
      obtain ⟨read, rest, c, hsplit, hread⟩ := spells_of_not_mem h
      have hdecoded := decodeFrom_spells hread rest
      rw [← hsplit] at hdecoded
      rw [hdecoded, List.mem_cons, not_or] at h
      have hshorter : rest.length < n := by
        have hsome : read ≠ [] := by cases hread <;> simp
        have := List.length_pos_iff.2 hsome
        have := congrArg List.length hsplit
        simp only [List.length_append] at this
        omega
      rw [hdecoded, List.flatMap_cons, ← ih _ hshorter rest h.2 rfl, ← eq_of_spells hread]
      exact hsplit

/-- Bytes that were decoded without a replacement are encoded again. -/
theorem encode_decodeLossy {bytes : List UInt8} (h : replacement ∉ (decodeLossy bytes).toList) :
    encode (decodeLossy bytes) = bytes := by
  rw [encode_eq]
  unfold decodeLossy at *
  rw [String.toList_ofList] at *
  exact (eq_encoding_of_not_mem bytes h).symm

end ScopedBinding.Text
