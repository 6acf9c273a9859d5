/-
# The parsers answer

Packets come from the network.  A parser answers a slice if it returns a value or
refuses the packet for a length, its alignment, the value of a field or the checksum:
every access is inside the slice, no number overflows, and no conversion of a slice
fails (`parsers_answer`).  What guards an access is the check that was made before it,
which in the Hello parser is one of the header parser's: the neighbour loop runs to the
packet length over a slice that was found to be as long.
-/
import RustyRouter.OspfHelloAcceptance
import RustyRouter.Ipv4RoundTrip

namespace RustyRouter

open Octets Checked

/-- The IPv4 parser returns a header or refuses the packet. -/
theorem IpV4Header.tryFrom_answers (data : List UInt8) : (tryFrom data).Answers := by
  unfold tryFrom
  split_ifs with hshort
  · exact failsOnly_fail trivial
  refine (failsOnly_byteAt (by omega)).bind fun first hfirst => ?_
  rw [byteAt_getD (by omega) 0, Except.ok.injEq] at hfirst
  subst hfirst
  dsimp only
  split_ifs with hversion
  · exact failsOnly_fail trivial
  have hlength : (data.getD 0 0 &&& 0x0F).toNat * 4 < 2 ^ 16 := by
    rw [toNat_lengthBits]
    omega
  refine (failsOnly_checked hlength).bind fun headerLength _ => ?_
  split_ifs with hmin hmax
  · exact failsOnly_fail trivial
  · exact failsOnly_fail trivial
  · rw [readFields_eq (by omega)]
    exact failsOnly_ok _

/-- The Hello parser returns a packet or refuses it. -/
theorem OspfHelloPacket.tryFrom_answers (data : List UInt8) : (tryFrom data).Answers := by
  unfold tryFrom
  refine (OspfHeader.tryFrom_answers data).bind fun header hheader => ?_
  dsimp only
  split_ifs with hmin haligned hauth
  · exact failsOnly_fail trivial
  · exact failsOnly_fail trivial
  · exact failsOnly_fail trivial
  · rw [UInt16.lt_iff_toNat_lt, not_lt] at hmin
    have haccepts := OspfHeader.tryFrom_eq_ok.mp hheader
    rw [readFields_eq hmin haccepts.length_le haccepts.aligned]
    exact failsOnly_ok _

/-- **The parsers never panic.**  Every slice is parsed, or refused with an error about the packet:
the parsers do not panic, and no conversion in them fails. -/
theorem parsers_answer (data : List UInt8) :
    (IpV4Header.tryFrom data).Answers ∧ (OspfHeader.tryFrom data).Answers ∧
      (OspfHelloPacket.tryFrom data).Answers :=
  ⟨IpV4Header.tryFrom_answers data, OspfHeader.tryFrom_answers data,
    OspfHelloPacket.tryFrom_answers data⟩

end RustyRouter
