import Mathlib.Tactic.ByContra
import ProseCompiler.Encoding.Utf8

/-!
# What UTF-8 can write

A text has octets if and only if it has no surrogate, and comes back from them.

Reading looks at one sequence at a time, so `head_ofCodePoint` says what the octets
of a code point are read as, for each of the four lengths that a sequence can have.  No
sequence is read as a surrogate (`not_isSurrogate_of_decode`).
-/

namespace ProseCompiler

/-- There is no stretch if and only if no code point is bad. -/
theorem firstStretch?_eq_none_iff {bad : CodePoint → Bool} {position : Nat} {t : Text} :
    firstStretch? bad position t = none ↔ ∀ c ∈ t, bad c = false := by
  induction t generalizing position with
  | nil => simp [firstStretch?]
  | cons c t ih =>
    rw [firstStretch?, List.forall_mem_cons]
    cases hc : bad c with
    | true => simp
    | false => simp [ih]

namespace Utf8

variable {t : Text}

theorem encode_eq_ok_iff {octets : Bytes} :
    encode t = .ok octets ↔
      (∀ c ∈ t, c.isSurrogate = false) ∧ octets = t.flatMap ofCodePoint := by
  rw [← @firstStretch?_eq_none_iff _ 0, encode]
  cases firstStretch? CodePoint.isSurrogate 0 t with
  | none => simp [eq_comm]
  | some stretch => simp

/-- The encoding fails if and only if there is a surrogate. -/
theorem encode_isError_iff :
    (∃ fault, encode t = .error fault) ↔ ∃ c ∈ t, c.isSurrogate = true := by
  constructor
  · rintro ⟨fault, hfault⟩
    by_contra hnone
    have hnone : ∀ c ∈ t, c.isSurrogate = false := by simpa using hnone
    rw [encode_eq_ok_iff.mpr ⟨hnone, rfl⟩] at hfault
    cases hfault
  · rintro ⟨c, hc, hsurrogate⟩
    cases hencode : encode t with
    | error fault => exact ⟨fault, rfl⟩
    | ok octets =>
      rw [(encode_eq_ok_iff.mp hencode).1 c hc] at hsurrogate
      cases hsurrogate

/-! ## Back from the octets -/

theorem toNat_octet {n : Nat} (h : n < 0x100) : (octet n).toNat = n := by
  rw [octet, UInt8.toNat_ofNat']
  exact Nat.mod_eq_of_lt h

theorem isContinuation_octet (n : Nat) : isContinuation (octet (0x80 + n % 0x40)) = true := by
  rw [isContinuation, toNat_octet (by omega)]
  simp
  omega

section Sequences

variable {c : CodePoint} (rest : Bytes)

theorem head_one (h : c.val < 0x80) : head (octet c.val) rest = .point c rest := by
  rw [head.eq_def, toNat_octet (by omega), if_pos h, CodePoint.ofNat_eq rfl]

theorem head_two (h : 0x80 ≤ c.val) (h' : c.val < 0x800) :
    head (octet (0xC0 + c.val / 0x40)) (octet (0x80 + c.val % 0x40) :: rest) = .point c rest := by
  have hpoint : point2 (octet (0xC0 + c.val / 0x40)) (octet (0x80 + c.val % 0x40)) = c := by
    rw [point2, toNat_octet (by omega), toNat_octet (by omega)]
    exact CodePoint.ofNat_eq (by omega)
  rw [head.eq_def, toNat_octet (by omega), if_neg (by omega), if_neg (by omega),
    if_pos (by omega)]
  simp only [isContinuation_octet, if_true, hpoint]

theorem head_three (h : 0x800 ≤ c.val) (h' : c.val < 0x10000) (hc : c.isSurrogate = false) :
    head (octet (0xE0 + c.val / 0x1000))
      (octet (0x80 + c.val / 0x40 % 0x40) :: octet (0x80 + c.val % 0x40) :: rest) =
        .point c rest := by
  have hnot : c.val < 0xD800 ∨ 0xDFFF < c.val := by
    simp [CodePoint.isSurrogate] at hc
    omega
  have hpoint : point3 (octet (0xE0 + c.val / 0x1000)) (octet (0x80 + c.val / 0x40 % 0x40))
      (octet (0x80 + c.val % 0x40)) = c := by
    rw [point3, toNat_octet (by omega), toNat_octet (by omega), toNat_octet (by omega)]
    exact CodePoint.ofNat_eq (by omega)
  have hfollows : follows3 (octet (0xE0 + c.val / 0x1000)) (octet (0x80 + c.val / 0x40 % 0x40)) =
      true := by
    rw [follows3, isContinuation_octet, toNat_octet (by omega), toNat_octet (by omega)]
    simp
    omega
  rw [head.eq_def, toNat_octet (by omega), if_neg (by omega), if_neg (by omega),
    if_neg (by omega), if_pos (by omega)]
  simp only [hfollows, isContinuation_octet, if_true, hpoint]

theorem head_four (h : 0x10000 ≤ c.val) :
    head (octet (0xF0 + c.val / 0x40000))
      (octet (0x80 + c.val / 0x1000 % 0x40) :: octet (0x80 + c.val / 0x40 % 0x40) ::
        octet (0x80 + c.val % 0x40) :: rest) = .point c rest := by
  have hlt := c.isLt
  have hpoint : point4 (octet (0xF0 + c.val / 0x40000)) (octet (0x80 + c.val / 0x1000 % 0x40))
      (octet (0x80 + c.val / 0x40 % 0x40)) (octet (0x80 + c.val % 0x40)) = c := by
    rw [point4, toNat_octet (by omega), toNat_octet (by omega), toNat_octet (by omega),
      toNat_octet (by omega)]
    exact CodePoint.ofNat_eq (by omega)
  have hfollows : follows4 (octet (0xF0 + c.val / 0x40000))
      (octet (0x80 + c.val / 0x1000 % 0x40)) = true := by
    rw [follows4, isContinuation_octet, toNat_octet (by omega), toNat_octet (by omega)]
    simp
    omega
  rw [head.eq_def, toNat_octet (by omega), if_neg (by omega), if_neg (by omega),
    if_neg (by omega), if_neg (by omega), if_pos (by omega)]
  simp only [hfollows, isContinuation_octet, if_true, hpoint]

/-- The octets of a code point that is no surrogate are read as that code point. -/
theorem head_ofCodePoint (hc : c.isSurrogate = false) :
    ∃ a tail, ofCodePoint c = a :: tail ∧ head a (tail ++ rest) = .point c rest := by
  rw [ofCodePoint]
  split
  · next h => exact ⟨_, _, rfl, head_one rest h⟩
  split
  · next h h' => exact ⟨_, _, rfl, head_two rest (by omega) h'⟩
  split
  · next h h' => exact ⟨_, _, rfl, head_three rest (by omega) h' hc⟩
  · next h => exact ⟨_, _, rfl, head_four rest (by omega)⟩

end Sequences

theorem decodeFrom_ofCodePoint {c : CodePoint} (hc : c.isSurrogate = false) (position : Nat)
    (done : Text) (rest : Bytes) :
    ∃ position', decodeFrom position done (ofCodePoint c ++ rest) =
      decodeFrom position' (c :: done) rest := by
  obtain ⟨a, tail, heq, hhead⟩ := head_ofCodePoint rest hc
  rw [heq, List.cons_append, decodeFrom]
  split
  · next hpoint =>
    rw [hhead] at hpoint
    cases hpoint
    exact ⟨_, rfl⟩
  · next hbroken =>
    rw [hhead] at hbroken
    cases hbroken

theorem decodeFrom_flatMap {t : Text} (ht : ∀ c ∈ t, c.isSurrogate = false) (position : Nat)
    (done : Text) : decodeFrom position done (t.flatMap ofCodePoint) = .ok (done.reverse ++ t) := by
  induction t generalizing position done with
  | nil => rw [List.flatMap_nil, decodeFrom, List.append_nil]
  | cons c t ih =>
    obtain ⟨hc, ht⟩ := List.forall_mem_cons.mp ht
    obtain ⟨position', hstep⟩ := decodeFrom_ofCodePoint hc position done (t.flatMap ofCodePoint)
    rw [List.flatMap_cons, hstep, ih ht, List.reverse_cons, List.append_assoc,
      List.singleton_append]

/-- A text comes back from its octets. -/
theorem decode_of_encode {t : Text} {octets : Bytes} (h : encode t = .ok octets) :
    decode octets = .ok t := by
  obtain ⟨ht, rfl⟩ := encode_eq_ok_iff.mp h
  exact decodeFrom_flatMap ht 0 []

theorem decodeLooseFrom?_ofCodePoint {c : CodePoint} (hc : c.isSurrogate = false) (done : Text)
    (rest : Bytes) :
    decodeLooseFrom? done (ofCodePoint c ++ rest) = decodeLooseFrom? (c :: done) rest := by
  obtain ⟨a, tail, heq, hhead⟩ := head_ofCodePoint rest hc
  rw [heq, List.cons_append, decodeLooseFrom?]
  split
  · next hpoint =>
    rw [hhead] at hpoint
    cases hpoint
    rfl
  · next hbroken =>
    rw [hhead] at hbroken
    cases hbroken

theorem decodeLooseFrom?_flatMap {t : Text} (ht : ∀ c ∈ t, c.isSurrogate = false) (done : Text) :
    decodeLooseFrom? done (t.flatMap ofCodePoint) = some (done.reverse ++ t) := by
  induction t generalizing done with
  | nil => rw [List.flatMap_nil, decodeLooseFrom?, List.append_nil]
  | cons c t ih =>
    obtain ⟨hc, ht⟩ := List.forall_mem_cons.mp ht
    rw [List.flatMap_cons, decodeLooseFrom?_ofCodePoint hc, ih ht, List.reverse_cons,
      List.append_assoc, List.singleton_append]

/-- A text without surrogates comes back where they would be read as well. -/
theorem decodeLoose?_flatMap {t : Text} (ht : ∀ c ∈ t, c.isSurrogate = false) :
    decodeLoose? (t.flatMap ofCodePoint) = some t :=
  decodeLooseFrom?_flatMap ht []

/-! ## What octets are never read as -/

/-- A number outside the surrogates gives none. -/
theorem not_isSurrogate_ofNat {n : Nat} (h : n < 0xD800 ∨ 0xDFFF < n) :
    (CodePoint.ofNat n).isSurrogate = false := by
  rw [CodePoint.ofNat]
  split
  · simp only [CodePoint.isSurrogate, Bool.and_eq_false_iff, decide_eq_false_iff_not]
    omega
  · decide

theorem isContinuation_iff {b : UInt8} :
    isContinuation b = true ↔ 0x80 ≤ b.toNat ∧ b.toNat ≤ 0xBF := by
  simp [isContinuation]

theorem not_isSurrogate_point2 {a b : UInt8} (ha : a.toNat < 0xE0)
    (hb : isContinuation b = true) : (point2 a b).isSurrogate = false := by
  rw [isContinuation_iff] at hb
  exact not_isSurrogate_ofNat (by omega)

/-- After the octet that starts them, those that would spell surrogates do not follow. -/
theorem not_isSurrogate_point3 {a b c : UInt8} (ha : a.toNat < 0xF0)
    (hb : follows3 a b = true) (hc : isContinuation c = true) :
    (point3 a b c).isSurrogate = false := by
  simp only [follows3, Bool.and_eq_true, isContinuation_iff, Bool.or_eq_true, bne_iff_ne,
    decide_eq_true_eq] at hb
  rw [isContinuation_iff] at hc
  exact not_isSurrogate_ofNat (by omega)

theorem not_isSurrogate_point4 {a b c d : UInt8} (ha : 0xF0 ≤ a.toNat)
    (hb : follows4 a b = true) : (point4 a b c d).isSurrogate = false := by
  simp only [follows4, Bool.and_eq_true, isContinuation_iff, Bool.or_eq_true, bne_iff_ne,
    decide_eq_true_eq] at hb
  exact not_isSurrogate_ofNat (by omega)

theorem not_isSurrogate_of_head {a : UInt8} {rest after : Bytes} {c : CodePoint}
    (h : head a rest = .point c after) : c.isSurrogate = false := by
  unfold head at h
  repeat' split at h
  all_goals simp only [Head.point.injEq, reduceCtorEq] at h
  all_goals rw [← h.1]
  · exact not_isSurrogate_ofNat (by omega)
  · exact not_isSurrogate_point2 (by assumption) (by assumption)
  · exact not_isSurrogate_point3 (by assumption) (by assumption) (by assumption)
  · exact not_isSurrogate_point4 (by omega) (by assumption)

/-- No text that octets are read as holds a surrogate. -/
theorem not_isSurrogate_of_decodeFrom {octets : Bytes} {position : Nat} {done t : Text}
    (hdone : ∀ c ∈ done, c.isSurrogate = false) (h : decodeFrom position done octets = .ok t) :
    ∀ c ∈ t, c.isSurrogate = false := by
  fun_induction decodeFrom position done octets with
  | case1 position done =>
    cases h
    simpa using hdone
  | case2 position done a rest c after hhead _ ih =>
    exact ih (List.forall_mem_cons.mpr ⟨not_isSurrogate_of_head hhead, hdone⟩) h
  | case3 => cases h

theorem not_isSurrogate_of_decode {octets : Bytes} {t : Text} (h : decode octets = .ok t) :
    ∀ c ∈ t, c.isSurrogate = false :=
  not_isSurrogate_of_decodeFrom (by simp) h

end Utf8

end ProseCompiler
