/-
# Bytes that are not all text

A byte of ASCII is no part of a longer character, not even of a broken one, so what stands
before it is read by itself (`lossy_append_ascii`).  A character that is read has its bytes or
is a replacement character, and bytes are those of what is read if nothing is replaced
(`utf8_lossy`).
-/
import Seismogram.Proofs.Text.Words

namespace Seismogram.Text

variable {bytes rest : List UInt8} {b : UInt8} {c : Char} {skip : ℕ}

/-! ### Where bytes are read apart -/

/-- A character that begins before a byte of ASCII ends before it. -/
lemma leadingChar?_append_ascii (rest : List UInt8) (hb : b < 0x80) (hbytes : bytes ≠ []) :
    leadingChar? (bytes ++ b :: rest) = leadingChar? bytes := by
  refine Option.ext fun c => ?_
  rw [leadingChar?_eq_some_iff, leadingChar?_eq_some_iff]
  constructor
  · rintro ⟨more, hmore⟩
    rcases List.append_eq_append_iff.1 hmore with ⟨inside, hchar, hrest⟩ | ⟨more, hkept, -⟩
    · cases inside with
      | nil => exact ⟨[], by rw [hchar, List.append_nil, List.append_nil]⟩
      | cons x xs =>
          -- the byte would be one of the character, and not the first
          obtain ⟨rfl, -⟩ := List.cons.inj hrest
          obtain ⟨first, others, rfl⟩ := List.exists_cons_of_ne_nil hbytes
          have hmem : b ∈ (String.utf8EncodeChar c).tail := by
            rw [hchar, List.cons_append, List.tail_cons]
            exact List.mem_append_right _ List.mem_cons_self
          exact absurd hb (UInt8.not_lt.2 (high_of_mem_tail hmem))
    · exact ⟨more, hkept⟩
  · rintro ⟨more, rfl⟩
    exact ⟨more ++ b :: rest, List.append_assoc _ _ _⟩

lemma not_mayFollow_ascii (hb : b < 0x80) (first : UInt8) : mayFollow first b = false := by
  have hsmall : b.toNat < 128 := UInt8.lt_iff_toNat_lt.1 hb
  have hrange (low : UInt8) (hlow : 128 ≤ low.toNat) : ¬low ≤ b := by
    rw [UInt8.le_iff_toNat_le]
    omega
  simp [mayFollow, isContinuation, hrange]

lemma not_isContinuation_ascii (hb : b < 0x80) : isContinuation b = false :=
  decide_eq_false fun h => absurd hb (UInt8.not_lt.2 h.1)

/-- So does the beginning of a character that is broken. -/
lemma brokenLength_append_ascii (rest : List UInt8) (hb : b < 0x80) (hbytes : bytes ≠ []) :
    brokenLength (bytes ++ b :: rest) = brokenLength bytes := by
  cases bytes with
  | nil => exact absurd rfl hbytes
  | cons first bytes =>
      cases bytes with
      | nil => simp [brokenLength, not_mayFollow_ascii hb]
      | cons second bytes =>
          cases bytes with
          | nil => simp [brokenLength, not_isContinuation_ascii hb]
          | cons third bytes => rfl

lemma brokenLength_le (hbytes : bytes ≠ []) : brokenLength bytes ≤ bytes.length := by
  cases bytes with
  | nil => exact absurd rfl hbytes
  | cons first bytes =>
      cases bytes with
      | nil => exact Nat.le_refl _
      | cons second bytes =>
          cases bytes with
          | nil =>
              rw [brokenLength]
              split <;> simp
          | cons third bytes =>
              rw [brokenLength]
              split
              · split <;> simp
              · simp

lemma lossyAfter_append_ascii (hb : b < 0x80) (hskip : skip ≤ bytes.length) :
    lossyAfter skip (bytes ++ b :: rest) = lossyAfter skip bytes ++ lossy (b :: rest) := by
  -- what is passed over never reaches the byte of ASCII
  induction bytes generalizing skip with
  | nil =>
      obtain rfl : skip = 0 := Nat.le_zero.1 hskip
      rfl
  | cons x xs ih =>
      cases skip with
      | succ skip => exact ih (Nat.le_of_succ_le_succ hskip)
      | zero =>
          have hchar := leadingChar?_append_ascii rest hb (List.cons_ne_nil x xs)
          have hbroken := brokenLength_append_ascii rest hb (List.cons_ne_nil x xs)
          rw [List.cons_append] at hchar hbroken
          rw [List.cons_append, lossyAfter, lossyAfter, hchar]
          cases hlead : leadingChar? (x :: xs) with
          | some c =>
              obtain ⟨more, hmore⟩ := leadingChar?_eq_some_iff.1 hlead
              have hlength := congrArg List.length hmore
              rw [List.length_cons, List.length_append, String.length_utf8EncodeChar] at hlength
              exact congrArg (c :: ·) (ih (by omega))
          | none =>
              have hlength := brokenLength_le (List.cons_ne_nil x xs)
              rw [List.length_cons] at hlength
              simp only [hbroken]
              exact congrArg (replacement :: ·) (ih (by omega))

/-- Bytes before a byte of ASCII are read by themselves. -/
lemma lossy_append_ascii (hb : b < 0x80) :
    lossy (bytes ++ b :: rest) = lossy bytes ++ lossy (b :: rest) :=
  lossyAfter_append_ascii hb (Nat.zero_le _)

/-! ### What is read of bytes -/

/-- A character that is read has all its bytes there, unless it replaces others. -/
lemma subset_of_mem_lossyAfter (hc : c ∈ lossyAfter skip bytes) :
    c = replacement ∨ String.utf8EncodeChar c ⊆ bytes := by
  induction bytes generalizing skip with
  | nil => exact absurd hc List.not_mem_nil
  | cons x xs ih =>
      have hlater {skip : ℕ} (hc : c ∈ lossyAfter skip xs) :
          c = replacement ∨ String.utf8EncodeChar c ⊆ x :: xs :=
        (ih hc).imp_right (List.subset_cons_of_subset x)
      cases skip with
      | succ skip => exact hlater hc
      | zero =>
          rw [lossyAfter] at hc
          split at hc
          · rename_i first hlead
            rcases List.mem_cons.1 hc with rfl | hc
            · obtain ⟨more, hmore⟩ := leadingChar?_eq_some_iff.1 hlead
              rw [hmore]
              exact .inr (List.subset_append_left _ _)
            · exact hlater hc
          · rcases List.mem_cons.1 hc with rfl | hc
            · exact .inl rfl
            · exact hlater hc

lemma null_notMem_lossy (hnull : 0x00 ∉ bytes) : '\x00' ∉ lossy bytes := by
  intro hmem
  rcases subset_of_mem_lossyAfter hmem with hreplaced | hbytes
  · exact absurd hreplaced (by decide)
  · exact hnull (hbytes (List.mem_singleton_self _))

lemma decodeAfter?_of_lossyAfter (hwhole : replacement ∉ lossyAfter skip bytes) :
    decodeAfter? skip bytes = some (lossyAfter skip bytes) := by
  induction bytes generalizing skip with
  | nil => rfl
  | cons x xs ih =>
      cases skip with
      | succ skip => exact ih hwhole
      | zero =>
          rw [lossyAfter] at hwhole ⊢
          rw [decodeAfter?]
          split at hwhole
          · rw [ih (List.not_mem_of_not_mem_cons hwhole), Option.map_some]
          · exact absurd List.mem_cons_self hwhole

/-- Nothing is lost if nothing is replaced. -/
lemma utf8_lossy (hwhole : replacement ∉ lossy bytes) : utf8 (lossy bytes) = bytes :=
  decode?_eq_some_iff.1 (decodeAfter?_of_lossyAfter hwhole)

end Seismogram.Text
