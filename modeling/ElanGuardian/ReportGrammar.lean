/-
# The language the decoder accepts

`elan_rs_decode_report` accepts a report exactly when it is `WellFormed`: a
trackpoint report of at least nine bytes, or an absolute report that holds its
byte 3, the packed records of all its declared slots and, where the area table is
needed, the entry of every slot whose record is in range.  Everything else is
rejected, an unknown id with `-EPROTO` and the rest with `-EINVAL`, and no access
leaves the report.
-/
import ElanGuardian.DecoderRuns

open Prog ElanCore ReportFormat

namespace ReportGrammar

/-- An absolute report that is complete. -/
def WellFormedAbsolute (hp : Bool) (p : DecodeParams) (r : Mem) (n : ℕ) : Prop :=
  4 ≤ n ∧ 4 + 5 * rank (r 3) 5 ≤ n
    ∧ (hp = true → p.reportFeatures &&& 1 ≠ 0 → ∀ s < 5, declares (r 3) s = true →
        InRange hp p r s → 33 + s < n)

/-- The reports of the grammar. -/
def WellFormed (p : DecodeParams) (r : Mem) (n : ℕ) : Prop :=
  ((r 2 = 0x5e ∨ r 2 = 0x5f) ∧ 9 ≤ n)
    ∨ (r 2 = 0x5d ∧ WellFormedAbsolute false p r n)
    ∨ (r 2 = 0x60 ∧ WellFormedAbsolute true p r n)

/-- The packed records fit exactly when each declared one does. -/
theorem records_fit_iff {tpInfo : UInt8} {n : ℕ} (hn : 4 ≤ n) (i : ℕ) :
    4 + 5 * rank tpInfo i ≤ n
      ↔ ∀ s < i, declares tpInfo s = true → recordAt tpInfo s + 5 ≤ n := by
  induction i with
  | zero => simp [hn]
  | succ i ih =>
    have hsplit : (∀ s < i + 1, declares tpInfo s = true → recordAt tpInfo s + 5 ≤ n)
        ↔ (∀ s < i, declares tpInfo s = true → recordAt tpInfo s + 5 ≤ n)
          ∧ (declares tpInfo i = true → recordAt tpInfo i + 5 ≤ n) := Nat.forall_lt_succ_right
    rw [hsplit, ← ih]
    cases hd : declares tpInfo i with
    | false => rw [rank_succ_of_not_declares hd]; simp
    | true =>
      rw [rank_succ_of_declares hd, recordAt]
      simp only [forall_const]
      omega

/-- Well-formedness, record by record, is what the slot loop checks. -/
theorem wellFormedAbsolute_iff {hp : Bool} {p : DecodeParams} {r : Mem} {n : ℕ} (hn : 4 ≤ n) :
    WellFormedAbsolute hp p r n
      ↔ ∀ s, 0 ≤ s → s < maxContacts → declares (r 3) s = true → AcceptsRecord hp p r n s := by
  rw [WellFormedAbsolute, records_fit_iff hn]
  constructor
  · rintro ⟨-, hfit, hmk⟩ s - hs hd
    exact ⟨hfit s hs hd, fun hneed hin => hmk hneed.1 hneed.2 s hs hd hin⟩
  · intro hall
    exact ⟨hn, fun s hs hd => (hall s (Nat.zero_le _) hs hd).1,
      fun h1 h2 s hs hd hin => (hall s (Nat.zero_le _) hs hd).2 ⟨h1, h2⟩ hin⟩

/-- An absolute report is accepted if it is well formed, and answered with `-EINVAL` if not. -/
theorem value_decodeAbsolute (hp : Bool) (p : DecodeParams) (r : Mem) (n : ℕ) (f : ElanRsFrame) :
    ((decodeAbsolute r n hp p).run f).value = 0 ∧ WellFormedAbsolute hp p r n
      ∨ ((decodeAbsolute r n hp p).run f).value = einval ∧ ¬ WellFormedAbsolute hp p r n := by
  by_cases hn : 4 ≤ n
  · rw [(run_decodeAbsolute (by omega)).1, wellFormedAbsolute_iff hn]
    rcases value_decodeSlots r n hp p 5 0 rfl (absoluteHeader r n f)
      with ⟨hv, hall⟩ | ⟨hv, s, h1, h2, h3, h4⟩
    · exact Or.inl ⟨hv, hall⟩
    · exact Or.inr ⟨hv, fun hall => h4 (hall s h1 h2 h3)⟩
  · rw [run_decodeAbsolute_short (by omega)]
    exact Or.inr ⟨rfl, fun h => hn h.1⟩

/-- A trackpoint report only has to be long enough. -/
theorem value_decodeTrackpoint (r : Mem) (n : ℕ) (f : ElanRsFrame) :
    ((decodeTrackpoint r n).run f).value = 0 ∧ 9 ≤ n
      ∨ ((decodeTrackpoint r n).run f).value = einval ∧ ¬ 9 ≤ n := by
  by_cases hn : 9 ≤ n
  · exact Or.inl ⟨(run_decodeTrackpoint hn).1, hn⟩
  · rw [run_decodeTrackpoint_short (by omega)]
    exact Or.inr ⟨rfl, hn⟩

/-- A report too short for its id byte is not well formed. -/
theorem not_wellFormed_of_le {p : DecodeParams} {r : Mem} {n : ℕ} (h : n ≤ 2) :
    ¬ WellFormed p r n := by
  rintro (⟨-, h9⟩ | ⟨-, h4, -⟩ | ⟨-, h4, -⟩) <;> omega

/-- An unknown id: none of the four of the protocol. -/
def UnknownId (r : Mem) : Prop := r 2 ≠ 0x5d ∧ r 2 ≠ 0x5e ∧ r 2 ≠ 0x5f ∧ r 2 ≠ 0x60

/-- The three outcomes of the decoder, each with the reports it is for. -/
theorem value_decodeReport (p : DecodeParams) (r : Mem) (n : ℕ) (f : ElanRsFrame) :
    (((decodeReport r n p).run f).value = 0 ∧ WellFormed p r n)
      ∨ (((decodeReport r n p).run f).value = eproto ∧ 3 ≤ n ∧ UnknownId r)
      ∨ (((decodeReport r n p).run f).value = einval ∧ ¬ WellFormed p r n
          ∧ ¬ (3 ≤ n ∧ UnknownId r)) := by
  by_cases hn : 2 < n
  · rw [(run_decodeReport hn f).1]
    by_cases h5d : r 2 = 0x5d
    · rw [decodeById_of_5d h5d]
      simp only [WellFormed, UnknownId, h5d]
      rcases value_decodeAbsolute false p r n ElanRsFrame.empty
        with ⟨hv, hw⟩ | ⟨hv, hw⟩ <;> simp [hv, hw]
    by_cases h60 : r 2 = 0x60
    · rw [decodeById_of_60 h60]
      simp only [WellFormed, UnknownId, h60]
      rcases value_decodeAbsolute true p r n ElanRsFrame.empty
        with ⟨hv, hw⟩ | ⟨hv, hw⟩ <;> simp [hv, hw]
    by_cases htp : r 2 = 0x5e ∨ r 2 = 0x5f
    · rw [decodeById_of_trackpoint htp]
      have hid : ¬ UnknownId r := fun hu => htp.elim hu.2.1 hu.2.2.1
      rcases value_decodeTrackpoint r n ElanRsFrame.empty
        with ⟨hv, hw⟩ | ⟨hv, hw⟩ <;> simp [WellFormed, hv, hw, hid, h5d, h60, htp]
    · rw [decodeById_of_unknown h5d h60 htp]
      push Not at htp
      exact Or.inr (Or.inl ⟨rfl, hn, h5d, htp.1, htp.2, h60⟩)
  · rw [run_decodeReport_short (by omega)]
    exact Or.inr (Or.inr ⟨rfl, not_wellFormed_of_le (by omega), fun h => by omega⟩)

/-- A well-formed report has a known id. -/
theorem WellFormed.not_unknownId {p : DecodeParams} {r : Mem} {n : ℕ} (h : WellFormed p r n) :
    ¬ UnknownId r := by
  rintro ⟨h1, h2, h3, h4⟩
  rcases h with ⟨h | h, -⟩ | ⟨h, -⟩ | ⟨h, -⟩
  · exact h2 h
  · exact h3 h
  · exact h1 h
  · exact h4 h

/-- A report is accepted just if it is well formed. -/
theorem decodeReport_accepts_iff (p : DecodeParams) (r : Mem) (n : ℕ) (f : ElanRsFrame) :
    ((decodeReport r n p).run f).value = 0 ↔ WellFormed p r n := by
  rcases value_decodeReport p r n f with ⟨hv, hw⟩ | ⟨hv, -, hu⟩ | ⟨hv, hw, -⟩
  · simp [hv, hw]
  · have hw : ¬ WellFormed p r n := fun hw => hw.not_unknownId hu
    simp [hv, hw, eproto]
  · simp [hv, hw, einval]

/-- **The decoder accepts exactly its grammar and never reads outside the report.**
For every report and every parameter, `-EPROTO` means an unknown id, 0 means a
well-formed report, anything else is `-EINVAL`; every raw read is below the length
and no default is taken. -/
theorem elanRsDecodeReport_grammar (r : Mem) (n : ℕ) (p : DecodeParams) (out : ElanRsFrame) :
    ((elanRsDecodeReport (some r) n p (some out)).value = -71
        ↔ 3 ≤ n ∧ r 2 ≠ 0x5d ∧ r 2 ≠ 0x5e ∧ r 2 ≠ 0x5f ∧ r 2 ≠ 0x60)
      ∧ ((elanRsDecodeReport (some r) n p (some out)).value = 0 ↔ WellFormed p r n)
      ∧ ((elanRsDecodeReport (some r) n p (some out)).value ≠ -71 →
          (elanRsDecodeReport (some r) n p (some out)).value ≠ 0 →
          (elanRsDecodeReport (some r) n p (some out)).value = -22)
      ∧ (∀ offset, .read offset ∈ (elanRsDecodeReport (some r) n p (some out)).trace → offset < n)
      ∧ .defaulted ∉ (elanRsDecodeReport (some r) n p (some out)).trace := by
  have htrace : ∀ a ∈ ((decodeReport r n p).run out).trace, a.Within n :=
    decodeReport_within out
  refine ⟨?_, decodeReport_accepts_iff p r n out, ?_, fun offset h => htrace _ h,
    fun h => htrace _ h⟩
  · show ((decodeReport r n p).run out).value = -71 ↔ 3 ≤ n ∧ UnknownId r
    rcases value_decodeReport p r n out with ⟨hv, hw⟩ | ⟨hv, hn, hu⟩ | ⟨hv, -, hu⟩
    · have := hw.not_unknownId
      simp [hv, this]
    · simp [hv, hn, hu, eproto]
    · simp [hv, hu, einval]
  · show ((decodeReport r n p).run out).value ≠ -71 → ((decodeReport r n p).run out).value ≠ 0 →
      ((decodeReport r n p).run out).value = -22
    rcases value_decodeReport p r n out with ⟨hv, -⟩ | ⟨hv, -⟩ | ⟨hv, -⟩ <;>
      simp [hv, einval, eproto]

end ReportGrammar
