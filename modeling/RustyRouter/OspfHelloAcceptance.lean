/-
# Accepted Hello packets

`OspfHelloPacket::try_from` returns a packet for every slice whose header is
accepted without authentication and with room for the Hello fields
(`tryFrom_eq_ok`).  It does not look at the message type, so what it accepts is
right exactly where no such packet is of another type (`acceptsHello_iff`).
-/
import RustyRouter.OspfAcceptance
import RustyRouter.OspfHello

namespace RustyRouter

open Octets Checked OnesComplement

namespace OspfHelloPacket

/-! ## Acceptance -/

/-- **What is accepted**, and as what packet. -/
theorem tryFrom_eq_ok {data : List UInt8} {packet : OspfHelloPacket} :
    tryFrom data = .ok packet ↔ ∃ header, OspfHeader.tryFrom data = .ok header ∧
      header.authenticationType = .null ∧ 44 ≤ header.packetLength.toNat ∧
      packet = decoded data header := by
  constructor
  · intro h
    obtain ⟨header, hheader, h⟩ := bind_eq_ok.mp h
    have haccepts := OspfHeader.tryFrom_eq_ok.mp hheader
    dsimp only at h
    split_ifs at h with hmin haligned hauth
    · cases h
    · cases h
    · cases h
    · rw [UInt16.lt_iff_toNat_lt, not_lt] at hmin
      rw [readFields_eq hmin haccepts.length_le haccepts.aligned] at h
      cases h
      exact ⟨header, hheader, not_not.mp hauth, hmin, rfl⟩
  · rintro ⟨header, hheader, hauth, hmin, rfl⟩
    have haccepts := OspfHeader.tryFrom_eq_ok.mp hheader
    rw [tryFrom_eq_readFields hheader hauth hmin haccepts.aligned,
      readFields_eq hmin haccepts.length_le haccepts.aligned]

/-- The slices that are accepted. -/
theorem exists_tryFrom_iff {data : List UInt8} : (∃ packet, tryFrom data = .ok packet) ↔
    ∃ header, OspfHeader.tryFrom data = .ok header ∧ header.authenticationType = .null ∧
      44 ≤ header.packetLength.toNat := by
  constructor
  · rintro ⟨packet, h⟩
    obtain ⟨header, hheader, hauth, hlength, -⟩ := tryFrom_eq_ok.mp h
    exact ⟨header, hheader, hauth, hlength⟩
  · rintro ⟨header, hheader, hauth, hlength⟩
    exact ⟨_, tryFrom_eq_ok.mpr ⟨header, hheader, hauth, hlength, rfl⟩⟩

/-- **When acceptance is right.**  Exactly the Hello packets without authentication and with room
for the Hello fields are accepted, if and only if the slice is no such packet of another type. -/
theorem acceptsHello_iff (data : List UInt8) :
    ((∃ packet, tryFrom data = .ok packet) ↔
        ∃ header, OspfHeader.tryFrom data = .ok header ∧ header.messageType = .hello ∧
          header.authenticationType = .null ∧ 44 ≤ header.packetLength.toNat) ↔
      (OspfHeader.WellFormed data →
        OspfHeader.ChecksAs (fun l => OspfHeader.singleFold (wordSum l)) data →
        u16At data 14 = 0 → 44 ≤ (u16At data 2).toNat → data[1]? = some 1) := by
  rw [exists_tryFrom_iff]
  constructor
  · intro hiff hwf hchecks htype hlength
    obtain ⟨header, hheader⟩ := OspfHeader.exists_tryFrom_iff.mpr ⟨hwf, hchecks⟩
    have hreads := (OspfHeader.tryFrom_eq_ok.mp hheader).toReads
    have hauth : header.authenticationType = .null :=
      OspfAuthenticationType.toU16_injective (hreads.u16At_authenticationType.symm.trans htype)
    rw [hreads.u16At_packetLength] at hlength
    obtain ⟨header', hheader', hhello, -, -⟩ := hiff.mp ⟨header, hheader, hauth, hlength⟩
    -- the second byte of the slice is the type of the header
    have hbyte : data[1]? = some header'.messageType.toU8 :=
      (OspfHeader.tryFrom_eq_ok.mp hheader').toReads.getElem? (by norm_num)
    rw [hbyte, hhello]
    rfl
  · intro hcondition
    refine exists_congr fun header => ?_
    constructor
    · rintro ⟨hheader, hauth, hlength⟩
      have hreads := (OspfHeader.tryFrom_eq_ok.mp hheader).toReads
      obtain ⟨hwf, hchecks⟩ := OspfHeader.exists_tryFrom_iff.mp ⟨header, hheader⟩
      have hbyte : data[1]? = some header.messageType.toU8 := hreads.getElem? (by norm_num)
      have hone := hcondition hwf hchecks (by rw [hreads.u16At_authenticationType, hauth]; rfl)
        (by rw [hreads.u16At_packetLength]; exact hlength)
      rw [hbyte, Option.some.injEq] at hone
      exact ⟨hheader, OspfMessageType.toU8_injective hone, hauth, hlength⟩
    · rintro ⟨hheader, -, hauth, hlength⟩
      exact ⟨hheader, hauth, hlength⟩

/-- A database description packet with room for the Hello fields. -/
def description : List UInt8 :=
  [2, 2, 0, 44, 0, 0, 0, 0, 0, 0, 0, 0, 0xFD, 0xD1] ++ List.replicate 30 0

/-- A database description packet is returned as a Hello. -/
theorem not_acceptsHello :
    ¬ ∀ data : List UInt8, (∃ packet, tryFrom data = .ok packet) ↔
      ∃ header, OspfHeader.tryFrom data = .ok header ∧ header.messageType = .hello ∧
        header.authenticationType = .null ∧ 44 ≤ header.packetLength.toNat := by
  intro h
  have haccepted : (tryFrom description).toOption.isSome = true := by decide +kernel
  have htype : (OspfHeader.tryFrom description).toOption.map OspfHeader.messageType =
      some .databaseDescription := by decide +kernel
  have hpacket : ∃ packet, tryFrom description = .ok packet := by
    cases hread : tryFrom description with
    | error failure =>
      rw [hread] at haccepted
      cases haccepted
    | ok packet => exact ⟨packet, rfl⟩
  obtain ⟨header, hheader, hhello, -, -⟩ := (h description).mp hpacket
  rw [hheader] at htype
  rw [Except.toOption, Option.map_some, hhello] at htype
  cases htype

end OspfHelloPacket

end RustyRouter
