import Fuser.Request

/-!
How a message is framed. The first four bytes of a message give its length, and
`AnyRequest::try_from` trusts them: it checks that they do not claim too much,
but not that they claim at least the header they are part of.
-/

namespace Fuser

open Rust Wire ArgumentIterator

namespace AnyRequest

theorem size_fuseInHeader : ReprC.size FuseInHeader = 40 := rfl

/-- The length a message gives itself: the little-endian word it starts with. -/
def messageLen (d : List UInt8) : Nat := natOfBytes (d.take 4)

theorem header_len (d : List UInt8) : (ofBytes FuseInHeader d).len.toNat = messageLen d := by
  have hlt : natOfBytes (d.take 4) < 2 ^ 32 := by
    have hle : 256 ^ (d.take 4).length ≤ 256 ^ 4 :=
      Nat.pow_le_pow_right (by decide) (List.length_take_le 4 d)
    exact lt_of_lt_of_le (natOfBytes_lt _) hle
  exact Nat.mod_eq_of_lt hlt

theorem tryFrom_of_short {addr : Nat} {d : List UInt8} (haddr : addr % 8 = 0)
    (h : d.length < 40) : tryFrom ⟨addr, d⟩ = .err (.shortReadHeader d.length) := by
  have hrun : (fetch FuseInHeader).run (.new ⟨addr, d⟩) = (.err (), .new ⟨addr, d⟩) :=
    run_fetch_of_short haddr h
  rw [tryFrom, hrun]
  rfl

theorem tryFrom_of_header {addr : Nat} {d : List UInt8} (haddr : addr % 8 = 0)
    (h : 40 ≤ d.length) :
    tryFrom ⟨addr, d⟩ =
      if d.length < messageLen d then .err (.shortRead d.length (messageLen d))
      else if 40 ≤ messageLen d then
        .ok ⟨ofBytes FuseInHeader d, ⟨addr + 40, (d.drop 40).take (messageLen d - 40)⟩, 0⟩
      else .panic .sliceIndex := by
  have hrun : (fetch FuseInHeader).run (.new ⟨addr, d⟩) =
      (.ok (ofBytes FuseInHeader d), ⟨⟨addr + 40, d.drop 40⟩⟩) :=
    run_fetch_of_le haddr h
  rw [tryFrom, hrun]
  simp only [Slice.len, header_len, size_fuseInHeader, Slice.range]
  by_cases hlong : d.length < messageLen d
  · rw [if_pos hlong, if_pos hlong]
  · rw [if_neg hlong, if_neg hlong]
    by_cases hbody : 40 ≤ messageLen d
    · rw [if_pos ⟨hbody, Nat.not_lt.mp hlong⟩, if_pos hbody]
      rfl
    · rw [if_neg (fun hrange => hbody hrange.1), if_neg hbody]
      rfl

/-- What framing takes from a message. -/
theorem of_tryFrom_eq_ok {addr : Nat} {d : List UInt8} {request : AnyRequest}
    (haddr : addr % 8 = 0) (h : tryFrom ⟨addr, d⟩ = .ok request) :
    request.header = ofBytes FuseInHeader d ∧ request.data.addr % 8 = 0 := by
  by_cases hlen : 40 ≤ d.length
  · rw [tryFrom_of_header haddr hlen] at h
    split at h
    · cases h
    · split at h
      · cases h
        exact ⟨rfl, show (addr + 40) % 8 = 0 by omega⟩
      · cases h
  · rw [tryFrom_of_short haddr (Nat.not_le.mp hlen)] at h
    cases h

theorem tryFrom_ne_unaligned {addr : Nat} (haddr : addr % 8 = 0) (d : List UInt8) :
    tryFrom ⟨addr, d⟩ ≠ .panic (.explicit "Data unaligned") := by
  by_cases hlen : 40 ≤ d.length
  · rw [tryFrom_of_header haddr hlen]
    split
    · exact nofun
    · split <;> exact nofun
  · rw [tryFrom_of_short haddr (Nat.not_le.mp hlen)]
    exact nofun

/-- Framing as it should be: no panic, short messages and messages whose own
length is out of range are errors, and any other message is cut by its length. -/
def FramesExactly (addr : Nat) (d : List UInt8) : Prop :=
  (tryFrom ⟨addr, d⟩).Returns ∧
  (d.length < 40 → tryFrom ⟨addr, d⟩ = .err (.shortReadHeader d.length)) ∧
  (40 ≤ d.length → d.length < messageLen d ∨ messageLen d < 40 →
    ∃ e, tryFrom ⟨addr, d⟩ = .err e) ∧
  (40 ≤ d.length → 40 ≤ messageLen d → messageLen d ≤ d.length →
    tryFrom ⟨addr, d⟩ =
      .ok ⟨ofBytes FuseInHeader d, ⟨addr + 40, (d.drop 40).take (messageLen d - 40)⟩, 0⟩)

/-- Framing goes wrong on exactly the messages that claim to be shorter than
their own header. -/
theorem framesExactly_iff (addr : Nat) (d : List UInt8) (haddr : addr % 8 = 0) :
    FramesExactly addr d ↔ d.length < 40 ∨ 40 ≤ messageLen d := by
  by_cases hshort : d.length < 40
  · have hrun := tryFrom_of_short haddr hshort
    refine ⟨fun _ => .inl hshort, fun _ => ⟨?_, fun _ => hrun, ?_, ?_⟩⟩
    · simp [hrun]
    · intro hlen
      omega
    · intro hlen
      omega
  · have hlen : 40 ≤ d.length := Nat.not_lt.mp hshort
    have hrun := tryFrom_of_header haddr hlen
    by_cases hbody : 40 ≤ messageLen d
    · refine ⟨fun _ => .inr hbody, fun _ => ⟨?_, fun h => absurd h hshort, ?_, ?_⟩⟩
      · by_cases hlong : d.length < messageLen d
        · simp [hrun, hlong]
        · simp [hrun, hlong, hbody]
      · intro _ hrange
        have hlong : d.length < messageLen d := by omega
        exact ⟨_, by rw [hrun, if_pos hlong]⟩
      · intro _ _ hle
        rw [hrun, if_neg (Nat.not_lt.mpr hle), if_pos hbody]
    · have hpanic : tryFrom ⟨addr, d⟩ = .panic .sliceIndex := by
        rw [hrun, if_neg (by omega), if_neg hbody]
      refine ⟨fun h => ?_, fun h => ?_⟩
      · exact absurd hpanic (h.1 _)
      · omega

theorem framesExactly_header_only :
    40 ≤ messageLen (40 :: List.replicate 39 0) ∧ FramesExactly 8 (40 :: List.replicate 39 0) :=
  ⟨by decide, (framesExactly_iff 8 _ (by decide)).mpr (.inr (by decide))⟩

/-- A message of 40 zero bytes has a complete header that gives the message the
length zero, and cutting out its body panics. -/
theorem not_framesExactly_zeros : ¬ FramesExactly 8 (List.replicate 40 0) := by
  intro h
  have hpanic : tryFrom ⟨8, List.replicate 40 0⟩ = .panic .sliceIndex := by decide
  exact h.1 _ hpanic

end AnyRequest

end Fuser
